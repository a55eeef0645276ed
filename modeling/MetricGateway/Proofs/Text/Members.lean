import Mathlib.Data.List.Sort
import MetricGateway.Text.Members

/-!
# Sets of texts and their members

A set that is made from a list has the texts of the list as its members (`mem_ofList`). Since the
members ascend, a set is determined by them: two lists make the same set if and only if they hold
the same texts (`ofList_eq_ofList_iff`).
-/

namespace MetricGateway.Text.Members

variable {texts others : List String}

/-- A set has the texts of the list that it is made of. -/
@[simp]
theorem mem_ofList {text : String} : text ∈ (ofList texts).toList ↔ text ∈ texts := by
  change text ∈ texts.foldr place [] ↔ text ∈ texts
  induction texts with
  | nil => exact Iff.rfl
  | cons first rest ih => rw [List.foldr_cons, mem_place, ih, List.mem_cons]

/-- Sets with the same members are equal. -/
theorem ext {members members' : Members}
    (h : ∀ text, text ∈ members.toList ↔ text ∈ members'.toList) : members = members' := by
  have htexts : members.toList = members'.toList :=
    members.ascending.eq_of_mem_iff members'.ascending h
  cases members
  cases members'
  cases htexts
  rfl

/-- The texts of a set give the set back. -/
theorem ofList_toList (members : Members) : ofList members.toList = members :=
  ext fun _ => mem_ofList

/-- Two lists make the same set if and only if they hold the same texts. -/
theorem ofList_eq_ofList_iff :
    ofList texts = ofList others ↔ ∀ text, text ∈ texts ↔ text ∈ others := by
  constructor
  · intro h text
    rw [← mem_ofList, h, mem_ofList]
  · intro h
    refine ext fun text => ?_
    rw [mem_ofList, mem_ofList, h]

end MetricGateway.Text.Members
