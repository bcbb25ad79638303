import CrawlAudit.Pattern.Basic

/-!
# Searching for patterns

A pattern leads from places of a text to places of it. There are finitely many places, so a
repetition has led wherever it can after as many steps as there are places.
-/

namespace CrawlAudit.Pattern

/-- The places of two ascending lists, each once. -/
def mergePlaces : List Nat → List Nat → List Nat
  | [], bs => bs
  | as, [] => as
  | a :: as, b :: bs =>
    if a < b then a :: mergePlaces as (b :: bs)
    else if a = b then a :: mergePlaces as bs
    else b :: mergePlaces (a :: as) bs
termination_by as bs => as.length + bs.length

/-- The places of an ascending list that are not in another one. -/
def newPlaces : List Nat → List Nat → List Nat
  | [], _ => []
  | as, [] => as
  | a :: as, b :: bs =>
    if a < b then a :: newPlaces as (b :: bs)
    else if a = b then newPlaces as bs
    else newPlaces (a :: as) bs
termination_by as bs => as.length + bs.length

/-- The places that are reached in at most the given number of steps, from those seen so far, the
latest of which are yet to be followed. -/
def spread (follow : List Nat → List Nat) : Nat → List Nat → List Nat → List Nat
  | 0, seen, _ => seen
  | n + 1, seen, latest =>
    match newPlaces (follow latest) seen with
    | [] => seen
    | found => spread follow n (mergePlaces seen found) found

def holdsAt (text : Array Char) (test : Assertion) (place : Nat) : Bool :=
  test.holds (if place = 0 then none else text[place - 1]?) text[place]?

/-- The places at which a pattern can end when it starts at one of the given ones, both in
ascending order. -/
def reach (text : Array Char) : Pattern → List Nat → List Nat
  | .empty, places => places
  | .one set, places => (places.filter fun i => (text[i]?).any set.has).map (· + 1)
  | .assertion test, places => places.filter (holdsAt text test)
  | .sequence p q, places => reach text q (reach text p places)
  | .either p q, places => mergePlaces (reach text p places) (reach text q places)
  | .repeated p least most, places =>
    let enough := text.size + 1
    let first := Nat.repeat (reach text p) (min least enough) places
    spread (reach text p) (match most with
      | some m => min (m - least) enough
      | none => enough) first first

/-- Whether a pattern is found somewhere in a text. -/
def isMatch (pattern : Pattern) (s : String) : Bool :=
  let text := s.toList.toArray
  !(reach text pattern (List.range (text.size + 1))).isEmpty

end CrawlAudit.Pattern
