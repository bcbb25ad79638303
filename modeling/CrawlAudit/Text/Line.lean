/-!
# Lines of a file

A line feed ends a line; a carriage return just before it belongs to the line end. Octets after
the last line feed are a line of their own, and there is none after a final line feed.
-/

namespace CrawlAudit.Line

/-- The line of octets that a line feed has just ended. -/
def withoutReturn (reversed : List UInt8) : List UInt8 :=
  match reversed with
  | 13 :: rest => rest.reverse
  | _ => reversed.reverse

/-- The lines of the octets that follow the (reversed) beginning of a line. -/
def splitAfter (reversed : List UInt8) : List UInt8 → List (List UInt8)
  | [] => if reversed.isEmpty then [] else [reversed.reverse]
  | b :: rest =>
    if b = 10 then withoutReturn reversed :: splitAfter [] rest
    else splitAfter (b :: reversed) rest

def split (octets : List UInt8) : List (List UInt8) :=
  splitAfter [] octets

end CrawlAudit.Line
