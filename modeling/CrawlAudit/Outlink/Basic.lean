import CrawlAudit.Cell.Basic

/-!
# Outbound links
-/

namespace CrawlAudit

/-- A link found on a page. The bits of `follow` say why it is not to be followed; one of them
marks links that stay inside the site. -/
structure Outlink where
  source : Int64
  kind : String
  follow : Int64
  target : Int64
  url : String
  deriving DecidableEq

namespace Outlink

/-- The bit of links that stay inside the site. -/
def internalBit : Int64 :=
  4

/-- The link in a row of the stream of links; missing cells have neutral values. -/
def ofRow (row : Row) : Outlink where
  source := (row.integer? 0).getD 0
  kind := (row.text? 1).getD ""
  follow := (row.integer? 2).getD 0
  target := (row.integer? 3).getD (-1)
  url := (row.text? 4).getD ""

/-- Whether the link leads out of the site. -/
def isExternal (link : Outlink) : Bool :=
  link.kind == "a" && link.follow &&& internalBit == 0

/-- Whether the link is to be followed: no bit is set but the one of internal links. -/
def isFollow (link : Outlink) : Bool :=
  link.follow &&& ~~~internalBit == 0

end Outlink

end CrawlAudit
