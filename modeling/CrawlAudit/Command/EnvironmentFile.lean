import CrawlAudit.Configuration
import CrawlAudit.Text.Blank
import CrawlAudit.Text.Line
import CrawlAudit.Text.Utf8

/-!
# Environment files

Lines of names and values that are added to the environment. A value may be quoted, and outside
of single quotes `$NAME` stands for the value of a name. The first malformed line ends the file.
-/

namespace CrawlAudit.EnvironmentFile

inductive Quote where
  | open
  | single
  | double
  deriving DecidableEq

/-- What the reader of a value is in the middle of: nothing, an escape, the blanks at the end, or
a name with or without braces. -/
inductive Part where
  | plain
  | escape
  | ending
  | name
  | braced
  deriving DecidableEq

/-- The value so far and the name so far, last character first. -/
structure Progress where
  output : List Char
  name : List Char
  quote : Quote
  part : Part

/-- The value of a name: empty if it has none. -/
def valueOf (known : Environment) (name : List Char) : List Char :=
  ((known.lookup (String.ofList name)).getD "").toList

namespace Progress

def begin : Progress :=
  ⟨[], [], .open, .plain⟩

def push (p : Progress) (c : Char) : Progress :=
  { p with output := c :: p.output }

def substitute (known : Environment) (p : Progress) : Progress :=
  { p with
    output := (valueOf known p.name.reverse).reverse ++ p.output
    name := []
    part := .plain }

def escaped? (p : Progress) (c : Char) : Option Progress :=
  if ['\\', '\'', '"', '$', ' '].contains c then some { p.push c with part := .plain }
  else if c = 'n' then some { p.push '\n' with part := .plain }
  else none

/-- A character in a name. The character after a name without braces stands for itself. -/
def inName (known : Environment) (p : Progress) (c : Char) : Progress :=
  if Property.alphanumeric.has c then { p with name := c :: p.name }
  else if p.part = .braced then
    if c = '\x7d' then p.substitute known else { p with name := c :: p.name }
  else if c = '\x7b' ∧ p.name.isEmpty then { p with part := .braced }
  else if c = '$' then { p.substitute known with part := .name }
  else (p.substitute known).push c

/-- A character of a value where nothing special is going on. -/
def inPlain (p : Progress) (c : Char) : Progress :=
  if c = '$' then { p with part := .name }
  else if c = '\\' then { p with part := .escape }
  else if p.quote = .double then
    if c = '"' then { p with quote := .open } else p.push c
  else if c = '\'' then { p with quote := .single }
  else if c = '"' then { p with quote := .double }
  else if c = ' ' ∨ c = '\t' then { p with part := .ending }
  else p.push c

end Progress

def value? (known : Environment) (p : Progress) : List Char → Option (List Char)
  | [] =>
    if p.part = .braced ∨ p.quote ≠ .open then none
    else some (p.substitute known).output.reverse
  | c :: cs =>
    match p.part with
    | .ending =>
      if c = '#' then value? known p []
      else if c = ' ' ∨ c = '\t' then value? known p cs
      else none
    | .escape => (p.escaped? c).bind fun next => value? known next cs
    | .name | .braced => value? known (p.inName known c) cs
    | .plain =>
      if p.quote = .single then
        value? known (if c = '\'' then { p with quote := .open } else p.push c) cs
      else value? known (p.inPlain c) cs

def isKeyStart (c : Char) : Bool :=
  c.isAlpha || c == '_'

def isKeyChar (c : Char) : Bool :=
  c.isAlphanum || c == '_' || c == '.'

/-- Reads a key and the blanks after it. -/
def key? (cs : List Char) : Option (List Char × List Char) :=
  match cs with
  | c :: _ =>
    if isKeyStart c then
      some (cs.takeWhile isKeyChar, (cs.dropWhile isKeyChar).dropWhile Blank.isBlank)
    else none
  | [] => none

/-- Reads a key and the equals sign after it; the word `export` may come first. -/
def assignment? (cs : List Char) : Option (List Char × List Char) := do
  let (key, rest) ← key? cs
  match rest with
  | '=' :: after => some (key, after)
  | _ =>
    if key = "export".toList then
      match ← key? rest with
      | (name, '=' :: after) => some (name, after)
      | _ => none
    else none

/-- Whether nothing but a comment is left. -/
def isFinished (cs : List Char) : Bool :=
  cs.isEmpty || cs.head? == some '#'

/-- Reads a line; the inner option is none for a line that assigns nothing. -/
def line? (known : Environment) (line : List Char) : Option (Option (String × String)) :=
  let cs := Blank.trim line
  if isFinished cs then some none
  else
    (assignment? cs).bind fun (key, rest) =>
      let written := rest.dropWhile Blank.isBlank
      if isFinished written then some (some (String.ofList key, ""))
      else
        (value? known .begin written).map fun v =>
          some (String.ofList key, String.ofList v)

/-- The environment with the assignments of some lines. A name that has a value keeps it; `local`
names are looked up after those of the environment. -/
def load (environment assigned : Environment) : List (List UInt8) → Environment
  | [] => environment
  | octets :: rest =>
    match (Utf8.decode? octets).bind (line? (environment ++ assigned)) with
    | none => environment
    | some none => load environment assigned rest
    | some (some (key, value)) =>
      let next :=
        if (environment.lookup key).isSome then environment else environment ++ [(key, value)]
      load next ((key, value) :: assigned) rest

def loadFile (environment : Environment) (octets : List UInt8) : Environment :=
  load environment [] (Line.split octets)

end CrawlAudit.EnvironmentFile
