/-!
# Sets of texts

A set is kept as the ascending list of its members, each once, so that two sets with the same
members are equal.
-/

namespace MetricGateway.Text

/-- A finite set of texts. -/
structure Members where
  /-- The members in ascending order. -/
  toList : List String
  /-- Every member is smaller than those after it. -/
  ascending : toList.Pairwise (· < ·)

namespace Members

instance : DecidableEq Members := fun a b =>
  if h : a.toList = b.toList then
    isTrue (by cases a; cases b; simp_all)
  else isFalse fun e => h (congrArg toList e)

/-- Puts a text at its place in an ascending list, if it is not there yet. -/
def place (text : String) : List String → List String
  | [] => [text]
  | member :: rest =>
    if text < member then text :: member :: rest
    else if text = member then member :: rest
    else member :: place text rest

/-- Placing a text adds it. -/
theorem mem_place {text x : String} {list : List String} :
    x ∈ place text list ↔ x = text ∨ x ∈ list := by
  induction list with
  | nil => simp [place]
  | cons member rest ih =>
    unfold place
    split
    · simp
    · split
      · next h => simp [h]
      · simp [ih, or_left_comm]

/-- Placing a text keeps the order. -/
theorem ascending_place {text : String} {list : List String} (h : list.Pairwise (· < ·)) :
    (place text list).Pairwise (· < ·) := by
  induction list with
  | nil => simp [place]
  | cons member rest ih =>
    obtain ⟨below, above⟩ := List.pairwise_cons.1 h
    unfold place
    split
    · next smaller =>
      refine List.pairwise_cons.2 ⟨fun x hx => ?_, h⟩
      rcases List.mem_cons.1 hx with rfl | hx
      · exact smaller
      · exact String.lt_trans smaller (below x hx)
    · next notSmaller =>
      split
      · exact h
      · next different =>
        refine List.pairwise_cons.2 ⟨fun x hx => ?_, ih above⟩
        rcases mem_place.1 hx with rfl | hx
        · rcases String.le_total member x with le | le
          · refine Classical.byContradiction fun notLess => different ?_
            exact String.le_antisymm (String.not_lt.1 notLess) le
          · exact absurd (String.le_antisymm le (String.not_lt.1 notSmaller)) different
        · exact below x hx

/-- The set of the texts in a list. -/
def ofList (texts : List String) : Members where
  toList := texts.foldr place []
  ascending := by
    induction texts with
    | nil => exact List.Pairwise.nil
    | cons text rest ih => exact ascending_place ih

end Members

end MetricGateway.Text
