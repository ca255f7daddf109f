import MarkupTemplate.Selector.Basic
import MarkupTemplate.Template.Render

/-!
Finding the elements that a query selects. The walk through the tree never looks
back: at every place it holds the rows of segments that remain to be matched. Some may
start at any sibling from here on, some only at the next one, and some only
among the children.
-/

namespace MarkupTemplate

namespace Selector

/-- What an element makes of the rows that it was tried against. -/
structure Pools where
  matched : Bool
  inner : List (List Segment)
  adjacent : List (List Segment)
  later : List (List Segment)

def Pools.empty : Pools := ⟨false, [], [], []⟩

def fits (kind : String) (segment : Segment) : Bool := segment.tag == kind || segment.tag == "*"

/-- Adds what remains of a row after its first segment has matched. -/
def Pools.advance (tail : List Segment) (pools : Pools) : Pools :=
  match tail with
  | [] => { pools with matched := true }
  | next :: _ =>
      match next.combinator with
      | .descendant | .child => { pools with inner := pools.inner ++ [tail] }
      | .adjacent => { pools with adjacent := pools.adjacent ++ [tail] }
      | .sibling => { pools with later := pools.later ++ [tail] }

/-- Tries one row against an element. A row that may start anywhere is tried further down too. -/
def Pools.tryRow (kind : String) (pools : Pools) (row : List Segment) : Pools :=
  match row with
  | [] => pools
  | head :: tail =>
      let advanced := if fits kind head then pools.advance tail else pools
      if head.combinator = .descendant then { advanced with inner := advanced.inner ++ [row] }
      else advanced

def Pools.tryAll (kind : String) (rows : List (List Segment)) : Pools :=
  rows.foldl (Pools.tryRow kind) .empty

/-- A selected element and its place: the position among siblings at every level. -/
structure Match where
  path : List Nat
  element : Element

mutual

/-- Walks through siblings from the given position on. -/
def matchesAmong (outer : List Nat) (position : Nat) (rows adjacent : List (List Segment)) :
    List Element → List Match
  | [] => []
  | element :: rest =>
      let pools := Pools.tryAll element.kind (rows ++ adjacent)
      let path := outer ++ [position]
      (if pools.matched then [⟨path, element⟩] else []) ++ matchesInside path pools.inner element ++
        matchesAmong outer (position + 1) (rows ++ pools.later) pools.adjacent rest

def matchesInside (path : List Nat) (rows : List (List Segment)) : Element → List Match
  | ⟨_, _, children⟩ => matchesAmong path 0 rows [] children

end

end Selector

/-- The elements that one of the alternatives selects, in document order. -/
def selectGroups (groups : List (List Segment)) (source : List Element) : List Selector.Match :=
  Selector.matchesAmong [] 0 groups [] source

/-- The elements that a query selects, in document order. -/
def select (query : String) (source : List Element) : List Element :=
  (selectGroups (Selector.parse query) source).map (·.element)

/-- The elements that a query selects in plain markup. -/
def selectIn (query markup : String) : List Element := select query (parse markup)

end MarkupTemplate
