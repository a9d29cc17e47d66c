import Metering.Active.Item
import Metering.Error

/-!
# Sources of active resources

A source hands out the active resources of a kind page by page. A page begins
after the place where the one before ended, and a page that is not full is the
last. `Source.walk` asks for page after page and joins them: it passes the
rows of all pages up to the last one, or up to the first page that fails.

A page is asked for by its number too, since a source may answer the same
question differently at another time. For the same reason a walk might never
come to an end, so a source says how many pages it has at most. The number is
bookkeeping: a source that keeps to the order of its rows never reaches it.

`Source.forEach` is the same with a visitor, who sees each row before the next
page is asked for and ends the walk by failing.
-/

namespace Metering

/-- A resource in use. -/
structure ActiveResource where
  id : Int
  guid : String
  /-- What the resource belongs to; service instances have no such thing. -/
  parent : Option String
  space : Option String
  spaceName : Option String
  org : Option String
  orgName : Option String
  /-- What the resource adds to the number of instances. -/
  instances : Int
  item : UsageItem
deriving DecidableEq, Repr

/-- A place in the sequence of resources by space and identifier. -/
structure Cursor where
  space : String
  id : Int
deriving DecidableEq, Repr

/-- The place of a resource. -/
def Cursor.at (r : ActiveResource) : Cursor := ⟨r.space.getD "", r.id⟩

/-- What is done with each of several things: it changes a state, and may fail. -/
abbrev Visitor (α σ : Type) := α → σ → Except Error Unit × σ

/-- Visits one thing after the other, up to the first failure, and counts on from a number. -/
def Visitor.visitAll {α σ : Type} (visit : Visitor α σ) :
    List α → Nat → σ → Except Error Nat × σ
  | [], n, s => (.ok n, s)
  | x :: xs, n, s =>
    match visit x s with
    | (.ok _, s) => visitAll visit xs (n + 1) s
    | (.error e, s) => (.error e, s)

structure Source where
  /-- Whether the resources have parents that are to be counted. -/
  tracksParents : Bool
  /-- The page with a number, after a place, of at most so many rows. -/
  fetch : Nat → Option Cursor → Nat → Except Error (List ActiveResource)
  maxPages : Nat

/-- The rows that a walk passed, and the error that ended it early. -/
structure Walk where
  rows : List ActiveResource
  failure : Option Error
deriving DecidableEq, Repr

namespace Walk

/-- The walk that passes a page first. -/
def onto (page : List ActiveResource) (w : Walk) : Walk :=
  { w with rows := page ++ w.rows }

end Walk

namespace Source

/-- The failure of a source that has more pages than it said. -/
def endless : Error := .runtime "source does not end"

/-- The walk through at most so many pages, from the page with a number and after a place. -/
def walkFrom (s : Source) (size : Nat) : Nat → Nat → Option Cursor → Walk
  | 0, _, _ => ⟨[], some endless⟩
  | fuel + 1, number, after =>
    match s.fetch number after size with
    | .error e => ⟨[], some e⟩
    | .ok page =>
      if page.length < size then ⟨page, none⟩
      else
        (walkFrom s size fuel (number + 1) (page.getLast?.map Cursor.at)).onto page

/-- The walk through all pages of at least one row. -/
def walk (s : Source) (size : Nat) : Walk :=
  s.walkFrom (max size 1) s.maxPages 0 none

/-- Visits the rows of at most so many pages as they come, from the page with a number and after
a place, and counts on from a number. The next page is asked for when all rows of one were taken. -/
def forEachFrom {σ : Type} (s : Source) (visit : Visitor ActiveResource σ) (size : Nat) :
    Nat → Nat → Option Cursor → Nat → σ → Except Error Nat × σ
  | 0, _, _, _, st => (.error endless, st)
  | fuel + 1, number, after, visited, st =>
    match s.fetch number after size with
    | .error e => (.error e, st)
    | .ok page =>
      match visit.visitAll page visited st with
      | (.error e, st) => (.error e, st)
      | (.ok visited, st) =>
        if page.length < size then (.ok visited, st)
        else
          forEachFrom s visit size fuel (number + 1) (page.getLast?.map Cursor.at) visited st

/-- Visits every row, page by page, and says how many there were. -/
def forEach {σ : Type} (s : Source) (visit : Visitor ActiveResource σ) (size : Nat) (st : σ) :
    Except Error Nat × σ :=
  s.forEachFrom visit (max size 1) s.maxPages 0 none 0 st

/-- The source that fails from the page with a number on. -/
def failingFrom (number : Nat) (e : Error) (s : Source) : Source :=
  { s with fetch := fun n after size => if number ≤ n then .error e else s.fetch n after size }

/-- A source that hands out given rows, whatever their order. A page after a place begins behind
the first row with the place's identifier. From a given row on every page fails. -/
def ofRows (tracksParents : Bool) (rows : List ActiveResource) (failsAfter : Option Nat)
    (e : Error) : Source where
  tracksParents := tracksParents
  fetch := fun _ after size =>
    let start := match after with
      | none => 0
      | some c => (rows.findIdx? (·.id = c.id)).elim rows.length (· + 1)
    match failsAfter with
    | some n => if n ≤ start then .error e else .ok ((rows.drop start).take size)
    | none => .ok ((rows.drop start).take size)
  maxPages := rows.length + 1

/-- The source all of whose pages fail. -/
def failing (e : Error) : Source := ⟨true, fun _ _ _ => .error e, 1⟩

end Source

end Metering
