import CrawlAudit.Json.Basic

/-!
# Nesting by paths

Values under paths with dots are put into nested objects, one after the other. A value that is in
the way of a later path is replaced by an object, and an object by a later value at its path.
-/

namespace CrawlAudit.Nesting

def segments (path : String) : List String :=
  (path.toList.splitOn '.').map String.ofList

/-- The members of an object in which more is to be put; anything else is replaced by one. -/
def membersIn : Option Json → Json.Members
  | some (.object members) => members
  | _ => []

def put (value : Json) : List String → Json.Members → Json.Members
  | [], members => members
  | [key], members => Json.insertMember key value members
  | key :: rest, members =>
    Json.insertMember key (.object (put value rest (membersIn (Json.member? key members)))) members

/-- Puts values at their paths in order. -/
def nest (pairs : List (String × Json)) : Json.Members :=
  pairs.foldl (fun members p => put p.2 (segments p.1) members) []

end CrawlAudit.Nesting
