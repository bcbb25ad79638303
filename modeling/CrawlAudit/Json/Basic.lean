import CrawlAudit.Binary64.Basic
import CrawlAudit.Sorted

/-!
# Documents

A JSON document. A number is an integer when it was written as one and fits 64 bits, signed or
not, and a double otherwise. A document that was read has the members of every object in ascending
order of their keys, each key once; one that is only written may have them in any order.
-/

namespace CrawlAudit

inductive Json where
  | null
  | bool (b : Bool)
  | int (n : Int)
  | float (x : Binary64)
  | text (s : String)
  | array (items : List Json)
  | object (members : List (String × Json))
  deriving Inhabited

namespace Json

abbrev Members :=
  List (String × Json)

mutual

def decEq : (a b : Json) → Decidable (a = b)
  | .null, b => match b with
    | .null => isTrue rfl
    | .bool _ | .int _ | .float _ | .text _ | .array _ | .object _ => isFalse nofun
  | .bool x, b => match b with
    | .bool y => decidable_of_iff (x = y) (by simp)
    | .null | .int _ | .float _ | .text _ | .array _ | .object _ => isFalse nofun
  | .int x, b => match b with
    | .int y => decidable_of_iff (x = y) (by simp)
    | .null | .bool _ | .float _ | .text _ | .array _ | .object _ => isFalse nofun
  | .float x, b => match b with
    | .float y => decidable_of_iff (x = y) (by simp)
    | .null | .bool _ | .int _ | .text _ | .array _ | .object _ => isFalse nofun
  | .text x, b => match b with
    | .text y => decidable_of_iff (x = y) (by simp)
    | .null | .bool _ | .int _ | .float _ | .array _ | .object _ => isFalse nofun
  | .array xs, b => match b with
    | .array ys => @decidable_of_iff _ (xs = ys) (by simp) (decEqItems xs ys)
    | .null | .bool _ | .int _ | .float _ | .text _ | .object _ => isFalse nofun
  | .object ms, b => match b with
    | .object ns => @decidable_of_iff _ (ms = ns) (by simp) (decEqMembers ms ns)
    | .null | .bool _ | .int _ | .float _ | .text _ | .array _ => isFalse nofun

def decEqItems : (as bs : List Json) → Decidable (as = bs)
  | [], bs => match bs with
    | [] => isTrue rfl
    | _ :: _ => isFalse nofun
  | a :: as, bs => match bs with
    | [] => isFalse nofun
    | b :: bs => @decidable_of_iff _ (a = b ∧ as = bs) (by simp)
      (@instDecidableAnd _ _ (decEq a b) (decEqItems as bs))

def decEqMembers : (ms ns : List (String × Json)) → Decidable (ms = ns)
  | [], ns => match ns with
    | [] => isTrue rfl
    | _ :: _ => isFalse nofun
  | (k, a) :: ms, ns => match ns with
    | [] => isFalse nofun
    | (l, b) :: ns => @decidable_of_iff _ (k = l ∧ a = b ∧ ms = ns) (by simp [and_assoc])
      (@instDecidableAnd _ _ _ (@instDecidableAnd _ _ (decEq a b) (decEqMembers ms ns)))

end

instance : DecidableEq Json :=
  decEq

/-- The members with one more; a member of the same key is replaced. -/
def insertMember (key : String) (value : Json) (members : Members) : Members :=
  Sorted.insert Order.texts key value members

/-- The object with these members; of two members of one key the later one stays. -/
def ofMembers (members : Members) : Json :=
  .object (Sorted.ofList Order.texts members)

def member? (key : String) (members : Members) : Option Json :=
  members.lookup key

def members? : Json → Option Members
  | .object ms => some ms
  | _ => none

def items? : Json → Option (List Json)
  | .array xs => some xs
  | _ => none

def text? : Json → Option String
  | .text s => some s
  | _ => none

def bool? : Json → Option Bool
  | .bool b => some b
  | _ => none

def int? : Json → Option Int
  | .int n => some n
  | _ => none

def isNull : Json → Bool
  | .null => true
  | _ => false

/-- The member of an object; anything else has none. -/
def field? (key : String) (document : Json) : Option Json :=
  document.members?.bind (member? key)

end Json

end CrawlAudit
