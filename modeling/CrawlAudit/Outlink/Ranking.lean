import CrawlAudit.Order
import CrawlAudit.Outlink.Domain

/-!
# Ranking the domains that are linked to

Links are grouped by domain. A domain is described by counts of its links and by samples of the
urls that most pages link to, and the domains with the most distinct follow links come first.
Lists that are cut are ordered before they are cut, and ties keep the order of the links.
-/

namespace CrawlAudit

/-- A url that is linked to: the number of distinct sources and some of them. -/
structure Destination (σ : Type) where
  url : String
  uniqueLinks : Nat
  sources : List σ
  deriving DecidableEq

/-- The counts and samples of the links to a domain. -/
structure DomainStats (σ : Type) where
  domain : String
  follow : Nat
  nofollow : Nat
  uniqueFollow : Nat
  followSample : List (Destination σ)
  nofollowSample : List (Destination σ)
  deriving DecidableEq

/-- A domain with the count that it is ranked by. -/
abbrev RankedDomain (σ : Type) :=
  Nat × DomainStats σ

/-- How many destinations are kept of a domain, and how many sources of a destination. -/
structure Sampling where
  destinations : Nat
  sources : Nat

/-- The distinct sources of some links, and those of them that are kept. -/
structure SourceSample where
  seen : List Int64
  kept : List Int64

namespace Outlink

def external (links : List Outlink) : List Outlink :=
  links.filter isExternal

def withDottedHost (links : List Outlink) : List Outlink :=
  links.filter hasDottedHost

/-- The number of distinct pairs of a source and a url. -/
def uniqueCount (links : List Outlink) : Nat :=
  (links.map fun link => (link.source, link.url)).eraseDups.length

/-- The number of distinct pairs of a source and a url among the follow links. -/
def uniqueFollowCount (links : List Outlink) : Nat :=
  uniqueCount (links.filter isFollow)

/-- Puts a link behind the others of its group; a new group comes last. -/
def enterGroup (domain : String) (link : Outlink) :
    List (String × List Outlink) → List (String × List Outlink)
  | [] => [(domain, [link])]
  | (d, links) :: groups =>
    if d = domain then (d, links ++ [link]) :: groups
    else (d, links) :: enterGroup domain link groups

/-- Puts a link into the groups; a link without a domain is left out. -/
def enterLink (domain? : Outlink → Option String) (groups : List (String × List Outlink))
    (link : Outlink) : List (String × List Outlink) :=
  match domain? link with
  | some domain => enterGroup domain link groups
  | none => groups

/-- The links with a domain grouped by it, in order of appearance. -/
def groupByDomain (domain? : Outlink → Option String) (links : List Outlink) :
    List (String × List Outlink) :=
  links.foldl (enterLink domain?) []

/-- Counts a source that has not been seen, and keeps it while there is room. -/
def enterSource (limit : Nat) (sample : SourceSample) (link : Outlink) : SourceSample :=
  if sample.seen.contains link.source then sample
  else
    { seen := sample.seen ++ [link.source]
      kept := if sample.kept.length < limit then sample.kept ++ [link.source] else sample.kept }

def sampleSources (limit : Nat) (links : List Outlink) : SourceSample :=
  links.foldl (enterSource limit) ⟨[], []⟩

def destination (links : List Outlink) (sources : Nat) (url : String) : Destination Int64 :=
  let sample := sampleSources sources (links.filter fun link => link.url == url)
  { url := url, uniqueLinks := sample.seen.length, sources := sample.kept }

/-- The urls that the most pages link to. Links are grouped by their whole urls here. -/
def sampleDestinations (links : List Outlink) (sampling : Sampling) : List (Destination Int64) :=
  let groups := groupByDomain (fun link => some link.url) links
  (Order.sort (fun a b => Order.integers b.uniqueLinks a.uniqueLinks)
    (groups.map fun g => destination g.2 sampling.sources g.1)).take sampling.destinations

def describe (domain : String) (links : List Outlink) (sampling : Sampling) :
    DomainStats Int64 :=
  let follow := links.filter isFollow
  let nofollow := links.filter fun link => !link.isFollow
  { domain := domain
    follow := follow.length
    nofollow := nofollow.length
    uniqueFollow := uniqueCount follow
    followSample := sampleDestinations follow sampling
    nofollowSample := sampleDestinations nofollow sampling }

/-- More distinct follow links come first, then more follow links. -/
def rankOrder (a b : RankedDomain Int64) : Ordering :=
  (Order.integers b.1 a.1).then (Order.integers b.2.follow a.2.follow)

/-- The first `n` domains of those that have a follow link. -/
def topDomains (domain? : Outlink → Option String) (links : List Outlink) (n : Nat)
    (sampling : Sampling) : List (RankedDomain Int64) :=
  let described := (groupByDomain domain? links).map fun g => describe g.1 g.2 sampling
  let ranked := (described.filter fun stats => 0 < stats.follow).map
    fun stats => (stats.uniqueFollow, stats)
  (Order.sort rankOrder ranked).take n

end Outlink

end CrawlAudit
