/-!
# Pages of listings

Long listings are answered in pages. A page knows whether more of the listing follows it.
-/

namespace MetricGateway

/-- A part of a listing. -/
structure Page where
  /-- Whether more follows. -/
  isPartial : Bool
  values : List String
  deriving DecidableEq, Repr

namespace Page

/-- The first labels of a listing. -/
def ofLabels (labels : List String) (limit : Nat) : Page where
  isPartial := limit < labels.length
  values := labels.take limit

/-- The values that begin with a text, if one is given. -/
def matching (values : List String) : Option String → List String
  | some start => values.filter fun value => start.toList.isPrefixOf value.toList
  | none => values

/-- Where a page starts: beyond the last of `count` values it is moved back to the last one. -/
def startOf (count offset : Nat) : Nat := if count < offset then count - 1 else offset

/-- A page of the values that begin with a text. -/
def ofValues (values : List String) (start : Option String) (offset limit : Nat) : Page :=
  let found := matching values start
  if found = [] then { isPartial := false, values := [] }
  else
    let first := startOf found.length offset
    { isPartial := first + limit < found.length, values := (found.drop first).take limit }

end Page

end MetricGateway
