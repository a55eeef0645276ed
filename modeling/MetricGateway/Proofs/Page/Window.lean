import MetricGateway.Binary64
import MetricGateway.Page

/-!
# Where a page stands

A page of values is a window of the values that begin with the wanted text (`IsWindow`): some of
them come before it, some follow it, and the page says whether any follow. The window begins at the
offset, or at the last value if the offset is beyond it, with one exception: an offset that is just
past the last value is not moved back, so that its page is empty although there are values
(`stands`).
-/

namespace MetricGateway.Page

/-! ## The values that begin with a text -/

/-- A value begins with a text, if one is given. -/
def BeginsWith (start : Option String) (value : String) : Prop :=
  ∀ text ∈ start, ∃ rest, value = text ++ rest

/-- Every value begins with nothing at all. -/
theorem beginsWith_none (value : String) : BeginsWith none value := nofun

/-- A value begins with a text if it has the text in front. -/
theorem beginsWith_some {text value : String} :
    BeginsWith (some text) value ↔ text.toList.isPrefixOf value.toList = true := by
  unfold BeginsWith
  simp only [Option.mem_some_iff, forall_eq', List.isPrefixOf_iff_prefix]
  constructor
  · rintro ⟨rest, rfl⟩
    rw [String.toList_append]
    exact List.prefix_append _ _
  · rintro ⟨rest, hrest⟩
    refine ⟨String.ofList rest, String.toList_inj.1 ?_⟩
    rw [String.toList_append, String.toList_ofList, hrest]

/-- Every value begins with the empty text. -/
theorem beginsWith_empty (value : String) : BeginsWith (some "") value :=
  beginsWith_some.2 rfl

instance decidableBeginsWith (start : Option String) (value : String) :
    Decidable (BeginsWith start value) :=
  match start with
  | none => isTrue (beginsWith_none value)
  | some _ => decidable_of_iff _ beginsWith_some.symm

/-- The values that begin with a text, if one is given, as often as they are listed and in their
order. -/
def found (values : List String) (start : Option String) : List String :=
  values.filter fun value => BeginsWith start value

/-- Without a start, all values are found. -/
@[simp] theorem found_none (values : List String) : found values none = values :=
  List.filter_eq_self.2 fun value _ => decide_eq_true (beginsWith_none value)

/-- With an empty start, all values are found. -/
@[simp] theorem found_empty (values : List String) : found values (some "") = values :=
  List.filter_eq_self.2 fun value _ => decide_eq_true (beginsWith_empty value)

/-- The values that match a start are those that are found. -/
theorem matching_eq_found (values : List String) (start : Option String) :
    matching values start = found values start := by
  cases start with
  | none => exact (found_none values).symm
  | some text =>
    refine List.filter_congr fun value _ => ?_
    simp only [beginsWith_some, Bool.decide_eq_true]

/-! ## Windows -/

/-- A listing is what comes before the values of a page, these values, and what follows them. -/
structure Splits (listing : List String) (first limit : Nat) (page : Page)
    (before after : List String) : Prop where
  parts : listing = before ++ page.values ++ after
  /-- The page begins at the index `first`. -/
  begins : before.length = first
  /-- It holds `limit` values at most. -/
  room : page.values.length ≤ limit
  /-- Values are left for later only if there is no room for them. -/
  full : after ≠ [] → page.values.length = limit
  /-- The page says whether values follow it. -/
  flag : page.isPartial = true ↔ after ≠ []

/-- A page is the window of a listing that begins at an index and has room for `limit` values. -/
def IsWindow (listing : List String) (first limit : Nat) (page : Page) : Prop :=
  ∃ before after, Splits listing first limit page before after

variable {listing : List String} {first limit : Nat} {page : Page}

/-- What a window holds is decided by where it begins and by its room. -/
theorem isWindow_iff : IsWindow listing first limit page ↔
    first ≤ listing.length ∧ page.values = (listing.drop first).take limit ∧
      (page.isPartial = true ↔ first + limit < listing.length) := by
  constructor
  · rintro ⟨before, after, hsplits⟩
    have hdrop : listing.drop first = page.values ++ after := by
      rw [hsplits.parts, List.append_assoc, ← hsplits.begins, List.drop_left]
    have hlength : listing.length = first + page.values.length + after.length := by
      rw [hsplits.parts, List.length_append, List.length_append, hsplits.begins]
    -- Both directions count the parts: a page with values behind it is full, and no page is fuller.
    have hafter : after ≠ [] ↔ first + limit < listing.length := by
      rw [← List.length_pos_iff]
      constructor
      · intro hpos
        have hfull := hsplits.full (List.length_pos_iff.1 hpos)
        omega
      · intro hlt
        have hroom := hsplits.room
        omega
    refine ⟨by omega, ?_, hsplits.flag.trans hafter⟩
    rw [hdrop]
    by_cases hnil : after = []
    · rw [hnil, List.append_nil, List.take_of_length_le hsplits.room]
    · rw [← hsplits.full hnil, List.take_left]
  · rintro ⟨hfirst, hvalues, hpartial⟩
    have hafter : (listing.drop first).drop limit ≠ [] ↔ first + limit < listing.length := by
      rw [← List.length_pos_iff, List.drop_drop, List.length_drop]
      omega
    refine ⟨listing.take first, (listing.drop first).drop limit, ?_, ?_, ?_, ?_, ?_⟩
    · rw [hvalues, List.append_assoc, List.take_append_drop, List.take_append_drop]
    · exact List.length_take_of_le hfirst
    · rw [hvalues]
      exact List.length_take_le _ _
    · intro hne
      have hlt := hafter.1 hne
      rw [hvalues, List.length_take, List.length_drop]
      omega
    · exact hpartial.trans hafter.symm

/-- A listing has one window that begins at an index and has room for `limit` values. -/
theorem IsWindow.unique {other : Page} (h : IsWindow listing first limit page)
    (hother : IsWindow listing first limit other) : page = other := by
  obtain ⟨-, hvalues, hpartial⟩ := isWindow_iff.1 h
  obtain ⟨-, hvalues', hpartial'⟩ := isWindow_iff.1 hother
  cases page
  cases other
  simp only [mk.injEq]
  exact ⟨Bool.eq_iff_iff.2 (hpartial.trans hpartial'.symm), hvalues.trans hvalues'.symm⟩

/-! ## Pages of values -/

variable {values : List String} {start : Option String} {offset : Nat}

/-- A page of values takes the window at its start, if there are any values. -/
theorem ofValues_eq (h : found values start ≠ []) :
    ofValues values start offset limit =
      { isPartial := startOf (found values start).length offset + limit <
          (found values start).length
        values := ((found values start).drop (startOf (found values start).length offset)).take
          limit } := by
  unfold ofValues
  rw [matching_eq_found]
  exact if_neg h

/-- Where nothing is found, there is nothing to show. -/
theorem ofValues_of_eq_nil (h : found values start = []) :
    ofValues values start offset limit = { isPartial := false, values := [] } := by
  unfold ofValues
  rw [matching_eq_found]
  exact if_pos h

/-- Up to the number of values, a page begins at its offset. -/
theorem ofValues_of_le (h : offset ≤ (found values start).length) :
    ofValues values start offset limit =
      { isPartial := offset + limit < (found values start).length
        values := ((found values start).drop offset).take limit } := by
  by_cases hfound : found values start = []
  · rw [ofValues_of_eq_nil hfound, hfound]
    simp
  · have hstart : startOf (found values start).length offset = offset := if_neg (by omega)
    rw [ofValues_eq hfound, hstart]

/-- A page of values is the window at its start. -/
theorem isWindow_ofValues : IsWindow (found values start)
    (startOf (found values start).length offset) limit (ofValues values start offset limit) := by
  rw [isWindow_iff]
  by_cases hfound : found values start = []
  · have hstart : startOf 0 offset = 0 := by
      unfold startOf
      split <;> omega
    rw [ofValues_of_eq_nil hfound, hfound, List.length_nil, hstart]
    simp
  · have hstart : startOf (found values start).length offset ≤ (found values start).length := by
      unfold startOf
      split <;> omega
    rw [ofValues_eq hfound]
    exact ⟨hstart, rfl, decide_eq_true_iff⟩

/-- A start is moved back to the last value, unless it is just past that. -/
theorem startOf_eq_min {count : Nat} (h : count = 0 ∨ offset ≠ count) :
    startOf count offset = min offset (count - 1) := by
  unfold startOf
  split <;> omega

/-- Just past the last value, a page is empty. -/
theorem ofValues_length :
    ofValues values start (found values start).length limit =
      { isPartial := false, values := [] } := by
  rw [ofValues_of_le (Nat.le_refl _), List.drop_length, List.take_nil]
  have hnot : ¬(found values start).length + limit < (found values start).length := by omega
  simp only [hnot, decide_false]

/-- An empty page is not the window at the last value: there is a value for it, or one that follows
it. -/
theorem not_isWindow_last (h : listing ≠ []) :
    ¬IsWindow listing (listing.length - 1) limit { isPartial := false, values := [] } := by
  intro hwindow
  obtain ⟨-, hvalues, hpartial⟩ := isWindow_iff.1 hwindow
  have hpos : 0 < listing.length := List.length_pos_iff.2 h
  have hroom : limit = 0 := by
    have hlength := congrArg List.length hvalues
    rw [List.length_nil, List.length_take, List.length_drop] at hlength
    omega
  have hfollows : listing.length - 1 + limit < listing.length := by omega
  exact absurd (hpartial.2 hfollows) Bool.false_ne_true

/-- The end of a page may be reckoned in words, where a sum stops at the largest one. -/
theorem isPartial_ofValues_iff (h : (found values start).length ≤ Binary64.maxWord) :
    (ofValues values start offset limit).isPartial = true ↔
      min (startOf (found values start).length offset + limit) Binary64.maxWord <
        (found values start).length := by
  rw [(isWindow_iff.1 isWindow_ofValues).2.2]
  omega

/-- Where a page of values stands. -/
structure Stands (values : List String) (start : Option String) (offset limit : Nat) : Prop where
  /-- The page is the window at its offset, moved back to the last value if it is beyond it. This
  fails just past the last value, and nowhere else. -/
  window_iff : IsWindow (found values start) (min offset ((found values start).length - 1)) limit
      (ofValues values start offset limit) ↔
    found values start = [] ∨ offset ≠ (found values start).length
  /-- With room for a value, the page is not empty if there are values. -/
  nonempty : found values start ≠ [] → 1 ≤ limit → offset ≠ (found values start).length →
    (ofValues values start offset limit).values ≠ []
  /-- Just past the last value, the page is empty, and says that nothing follows it. -/
  pastLast : offset = (found values start).length →
    ofValues values start offset limit = { isPartial := false, values := [] }
  /-- Whether values follow the page can be told in words, where a sum stops at the largest one. -/
  words : (found values start).length ≤ Binary64.maxWord →
    ((ofValues values start offset limit).isPartial = true ↔
      min (startOf (found values start).length offset + limit) Binary64.maxWord <
        (found values start).length)

/-- Every page of values stands where its offset says, but for the one just past the last value. -/
theorem stands (values : List String) (start : Option String) (offset limit : Nat) :
    Stands values start offset limit where
  window_iff := by
    -- But for that one offset the start is the minimum, and there the empty page is no window.
    constructor
    · intro hwindow
      by_cases hfound : found values start = []
      · exact .inl hfound
      right
      rintro rfl
      have hmin : min (found values start).length ((found values start).length - 1) =
          (found values start).length - 1 := Nat.min_eq_right (Nat.sub_le _ _)
      rw [hmin, ofValues_length] at hwindow
      exact not_isWindow_last hfound hwindow
    · intro h
      have hcount : (found values start).length = 0 ∨ offset ≠ (found values start).length :=
        h.imp_left List.length_eq_zero_iff.2
      rw [← startOf_eq_min hcount]
      exact isWindow_ofValues
  nonempty := by
    intro hfound hlimit hoffset
    have hpos : 0 < (found values start).length := List.length_pos_iff.2 hfound
    have hstart : startOf (found values start).length offset < (found values start).length := by
      rw [startOf_eq_min (.inr hoffset)]
      omega
    rw [(isWindow_iff.1 isWindow_ofValues).2.1, ← List.length_pos_iff, List.length_take,
      List.length_drop]
    omega
  pastLast := by
    rintro rfl
    exact ofValues_length
  words := isPartial_ofValues_iff

/-- Far beyond the values that begin with an `a`, a page begins at the last one of them. -/
theorem stands_farBeyond :
    IsWindow ["a", "ab"] 1 1 (ofValues ["a", "ab", "b"] (some "a") Binary64.maxWord 1) :=
  (stands ["a", "ab", "b"] (some "a") Binary64.maxWord 1).window_iff.2 (.inr (by decide))

/-- Three values are listed, and the page at offset three is empty: it is not the window at the last
value. -/
theorem not_isWindow_pastLast :
    (ofValues ["a", "ab", "b"] none 3 2).values = [] ∧
      ¬IsWindow (found ["a", "ab", "b"] none)
        (min 3 ((found ["a", "ab", "b"] none).length - 1)) 2
        (ofValues ["a", "ab", "b"] none 3 2) :=
  ⟨rfl, not_isWindow_last (List.cons_ne_nil _ _)⟩

end MetricGateway.Page
