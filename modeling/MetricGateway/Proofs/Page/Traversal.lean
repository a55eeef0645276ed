import Mathlib.Algebra.Order.Floor.Div
import MetricGateway.Proofs.Page.Window

/-!
# Turning the pages

Whoever asks for one page after the other, each beginning where the one before has ended, until a
page says that nothing follows it, has seen every value once and in its place (`Traverses`,
`lossless`). The offsets on the way stay below the number of values, so that none of them is moved
back. The pages of labels are those of values of which none is left out.
-/

namespace MetricGateway.Page

variable {values : List String} {start : Option String} {limit offset : Nat} {pages : List Page}

/-- Asking for the pages from an offset on, up to the first that says that nothing follows it, gives
these pages. -/
inductive Traverses (values : List String) (start : Option String) (limit : Nat) :
    Nat → List Page → Prop where
  | last {offset : Nat} (ends : (ofValues values start offset limit).isPartial = false) :
    Traverses values start limit offset [ofValues values start offset limit]
  | more {offset : Nat} {pages : List Page}
    (goes : (ofValues values start offset limit).isPartial = true)
    (rest : Traverses values start limit (offset + limit) pages) :
    Traverses values start limit offset (ofValues values start offset limit :: pages)

/-- The pages are decided by where they begin. -/
theorem Traverses.unique {others : List Page} (h : Traverses values start limit offset pages)
    (hothers : Traverses values start limit offset others) : pages = others := by
  induction h generalizing others with
  | last ends =>
    cases hothers with
    | last => rfl
    | more goes => exact absurd (ends.symm.trans goes) Bool.false_ne_true
  | more goes _ ih =>
    cases hothers with
    | last ends => exact absurd (ends.symm.trans goes) Bool.false_ne_true
    | more _ rest => rw [ih rest]

/-! ## How many pages there are -/

/-- How many pages it takes to see `count` values: at least one, even if there are no values. -/
def pageCount (count limit : Nat) : Nat := max 1 (count ⌈/⌉ limit)

/-- Few values make one page. -/
theorem pageCount_of_le {count : Nat} (hlimit : 1 ≤ limit) (h : count ≤ limit) :
    pageCount count limit = 1 := by
  have hone : count ⌈/⌉ limit ≤ 1 := by
    rw [ceilDiv_le_iff_le_mul hlimit, Nat.mul_one]
    exact h
  exact Nat.max_eq_left hone

/-- A full page is one page more. -/
theorem pageCount_of_lt {count : Nat} (hlimit : 1 ≤ limit) (h : limit < count) :
    pageCount count limit = pageCount (count - limit) limit + 1 := by
  have hsucc : count ⌈/⌉ limit = (count - limit) ⌈/⌉ limit + 1 := by
    rw [Nat.ceilDiv_eq_add_pred_div, Nat.ceilDiv_eq_add_pred_div, ← Nat.add_div_right _ hlimit]
    congr 1
    omega
  have hpos : 1 ≤ (count - limit) ⌈/⌉ limit := by
    by_contra hzero
    have hle : (count - limit) ⌈/⌉ limit ≤ 0 := by omega
    rw [ceilDiv_le_iff_le_mul hlimit] at hle
    omega
  unfold pageCount
  omega

/-! ## What the pages hold -/

/-- Behind any number of values, the pages go on with the values that are left and hold all of them.
The induction is on how many are left: each page but the last takes `limit` of them. -/
theorem exists_traverses (hlimit : 1 ≤ limit) (left : Nat)
    (h : offset + left = (found values start).length) :
    ∃ pages, Traverses values start limit offset pages ∧ pages.length = pageCount left limit ∧
      pages.flatMap Page.values = (found values start).drop offset := by
  induction left using Nat.strong_induction_on generalizing offset with
  | _ left ih =>
    -- The offset is within the values, so that the page is not moved back.
    have hpage : ofValues values start offset limit = _ := ofValues_of_le (by omega)
    have hvalues : (ofValues values start offset limit).values =
        ((found values start).drop offset).take limit := congrArg Page.values hpage
    by_cases hgoes : offset + limit < (found values start).length
    · have hpartial : (ofValues values start offset limit).isPartial = true := by
        rw [hpage]
        exact decide_eq_true hgoes
      have hleft : limit < left := by omega
      have hbehind : offset + limit + (left - limit) = (found values start).length := by omega
      obtain ⟨pages, htraverses, hlength, hpages⟩ := ih (left - limit) (by omega) hbehind
      refine ⟨_, .more hpartial htraverses, ?_, ?_⟩
      · rw [List.length_cons, hlength, ← pageCount_of_lt hlimit hleft]
      · rw [List.flatMap_cons, hvalues, hpages, ← List.drop_drop, List.take_append_drop]
    · have hends : (ofValues values start offset limit).isPartial = false := by
        rw [hpage]
        exact decide_eq_false hgoes
      have hleft : ((found values start).drop offset).length ≤ limit := by
        rw [List.length_drop]
        omega
      refine ⟨_, .last hends, ?_, ?_⟩
      · rw [pageCount_of_le hlimit (by omega), List.length_singleton]
      · rw [List.flatMap_singleton, hvalues, List.take_of_length_le hleft]

/-- A page of labels is a first page of values of which none is left out. -/
theorem ofLabels_eq_ofValues (h : found values start = values) (limit : Nat) :
    ofLabels values limit = ofValues values start 0 limit := by
  have hpage : ofValues values start 0 limit = _ := ofValues_of_le (Nat.zero_le _)
  rw [hpage, h, List.drop_zero, Nat.zero_add]
  rfl

/-- Paging loses nothing and repeats nothing. -/
structure Lossless (values : List String) : Prop where
  /-- With room for a value on each page, the pages end, there are no more of them than are needed,
  and together they hold the values that begin with the text, in their order and as often as they
  are listed. -/
  pages : ∀ start limit, 1 ≤ limit → ∃ pages,
    (∀ others, Traverses values start limit 0 others ↔ others = pages) ∧
      pages.length = max 1 ((found values start).length ⌈/⌉ limit) ∧
      pages.flatMap Page.values = found values start
  /-- Labels are paged as values are. -/
  labels : ∀ limit, ofLabels values limit = ofValues values none 0 limit
  /-- The empty text leaves no value out. -/
  emptyText : ∀ limit, ofValues values none 0 limit = ofValues values (some "") 0 limit

/-- No listing loses or repeats a value when it is paged. -/
theorem lossless (values : List String) : Lossless values where
  pages start limit hlimit := by
    obtain ⟨pages, htraverses, hlength, hpages⟩ :=
      exists_traverses hlimit (found values start).length (Nat.zero_add _)
    refine ⟨pages, fun others => ⟨fun hothers => hothers.unique htraverses, ?_⟩, hlength, hpages⟩
    rintro rfl
    exact htraverses
  labels limit := ofLabels_eq_ofValues (found_none values) limit
  emptyText limit := by
    rw [← ofLabels_eq_ofValues (found_none values), ← ofLabels_eq_ofValues (found_empty values)]

/-- Three values, two of them equal, are seen in two pages of two. -/
theorem lossless_repeated : ∃ pages : List Page,
    Traverses ["a", "ab", "b", "a"] (some "a") 2 0 pages ∧ pages.length = 2 ∧
      pages.flatMap Page.values = ["a", "ab", "a"] := by
  obtain ⟨pages, htraverses, hlength, hpages⟩ :=
    (lossless ["a", "ab", "b", "a"]).pages (some "a") 2 (by decide)
  exact ⟨pages, (htraverses pages).2 rfl, hlength, hpages⟩

end MetricGateway.Page
