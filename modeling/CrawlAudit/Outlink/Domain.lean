import CrawlAudit.Outlink.Basic
import CrawlAudit.Url.Host

/-!
# Domains of links
-/

namespace CrawlAudit.Outlink

/-- The host of a url, if there is a dot in it. -/
def dottedHost? (url : String) : Option String :=
  (Url.host? url).filter fun host => host.toList.contains '.'

/-- Whether the link leads to an absolute url whose host has a dot. -/
def hasDottedHost (link : Outlink) : Bool :=
  (dottedHost? link.url).isSome

/-- The whole host that a link leads to. -/
def fullDomain? (link : Outlink) : Option String :=
  dottedHost? link.url

/-- The last two pieces of a host between its dots. -/
def lastTwoLabels? (host : String) : Option String :=
  match (host.toList.splitOn '.').reverse with
  | last :: second :: _ => some (String.ofList (second ++ '.' :: last))
  | _ => none

/-- The last two labels of the host that a link leads to. -/
def secondLevelDomain? (link : Outlink) : Option String :=
  (dottedHost? link.url).bind lastTwoLabels?

end CrawlAudit.Outlink
