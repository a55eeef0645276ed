import Mathlib.Data.List.Forall2
import MetricGateway.Exchange

/-!
# When computations that may fail succeed

One lemma for each way in which computations are put together: the whole succeeds if and only if its
parts do, with these values, and fails with the error of the first part that fails. An exchange that
goes on sends the requests of its first part, and those of the second one if the first part
succeeds.
-/

namespace MetricGateway

namespace Success

variable {α β ε δ : Type}

/-- After a success, the next step goes on with the value. -/
@[simp]
theorem ok_bind (value : α) (next : α → Except ε β) : (Except.ok value >>= next) = next value := rfl

/-- After a failure, no step follows. -/
@[simp]
theorem error_bind (error : ε) (next : α → Except ε β) :
    (Except.error error >>= next) = .error error := rfl

/-- Two steps succeed if and only if both do. -/
theorem bind_eq_ok_iff {first : Except ε α} {next : α → Except ε β} {result : β} :
    (first >>= next) = .ok result ↔ ∃ value, first = .ok value ∧ next value = .ok result := by
  cases first with
  | error error =>
    constructor
    · intro h
      cases h
    · rintro ⟨value, h, -⟩
      cases h
  | ok value =>
    constructor
    · intro h
      exact ⟨value, rfl, h⟩
    · rintro ⟨_, ⟨⟩, h⟩
      exact h

/-- The whole fails if and only if one of its parts does, with this error. -/
theorem bind_eq_error_iff {first : Except ε α} {next : α → Except ε β} {error : ε} :
    (first >>= next) = .error error ↔
      first = .error error ∨ ∃ value, first = .ok value ∧ next value = .error error := by
  cases first with
  | error other =>
    constructor
    · intro h
      cases h
      exact .inl rfl
    · rintro (⟨⟨⟩⟩ | ⟨value, h, -⟩)
      · rfl
      · cases h
  | ok value =>
    constructor
    · intro h
      exact .inr ⟨value, rfl, h⟩
    · rintro (h | ⟨_, ⟨⟩, h⟩)
      · cases h
      · exact h

/-- Changing errors changes no success. -/
theorem mapError_eq_ok_iff {f : ε → δ} {result : Except ε α} {value : α} :
    result.mapError f = .ok value ↔ result = .ok value := by
  cases result with
  | error error => exact ⟨nofun, nofun⟩
  | ok other => simp [Except.mapError]

/-- A changed error comes from one that was there. -/
theorem mapError_eq_error_iff {f : ε → δ} {result : Except ε α} {error : δ} :
    result.mapError f = .error error ↔ ∃ cause, result = .error cause ∧ f cause = error := by
  cases result with
  | error cause => simp [Except.mapError]
  | ok value => exact ⟨nofun, fun ⟨_, h, _⟩ => nomatch h⟩

/-- A changed value comes from one that was there. -/
theorem map_eq_ok_iff {f : α → β} {result : Except ε α} {value : β} :
    result.map f = .ok value ↔ ∃ given, result = .ok given ∧ f given = value := by
  cases result with
  | error error => exact ⟨nofun, fun ⟨_, h, _⟩ => nomatch h⟩
  | ok given => simp [Except.map]

/-- The items of a list can be read if and only if each of them can, one for one and in order. -/
theorem mapM_eq_ok_iff {read : α → Except ε β} {items : List α} {values : List β} :
    items.mapM read = .ok values ↔
      List.Forall₂ (fun item value => read item = .ok value) items values := by
  induction items generalizing values with
  | nil =>
    rw [List.mapM_nil, List.forall₂_nil_left_iff]
    exact ⟨fun h => (Except.ok.inj h).symm, fun h => congrArg Except.ok h.symm⟩
  | cons item rest ih =>
    rw [List.mapM_cons, bind_eq_ok_iff, List.forall₂_cons_left_iff]
    refine exists_congr fun value => ?_
    rw [bind_eq_ok_iff]
    constructor
    · rintro ⟨hitem, others, hothers, hvalues⟩
      exact ⟨others, hitem, ih.1 hothers, (Except.ok.inj hvalues).symm⟩
    · rintro ⟨others, hitem, hothers, rfl⟩
      exact ⟨hitem, others, ih.2 hothers, rfl⟩

/-- The items of a list cannot be read if one of them cannot, wherever it stands. -/
theorem mapM_error_of_mem {read : α → Except ε β} {items : List α} {item : α} (hmem : item ∈ items)
    (h : ∀ value, read item ≠ .ok value) : ∃ error, items.mapM read = .error error := by
  cases hread : items.mapM read with
  | error error => exact ⟨error, rfl⟩
  | ok values =>
    obtain ⟨i, hi, rfl⟩ := List.getElem_of_mem hmem
    have heach := mapM_eq_ok_iff.1 hread
    exact absurd (heach.get hi (heach.length_eq ▸ hi)) (h _)

/-- What is read from a list is what is read from one of its items. -/
theorem mem_of_mapM_eq_ok {read : α → Except ε β} {items : List α} {values : List β}
    (h : items.mapM read = .ok values) {value : β} :
    value ∈ values ↔ ∃ item ∈ items, read item = .ok value := by
  have heach := mapM_eq_ok_iff.1 h
  clear h
  induction heach with
  | nil => simp
  | cons hitem _ ih => simp [ih, hitem, eq_comm]

/-- A list fails to be read with the error of its first item that fails. -/
theorem mapM_eq_error_iff {read : α → Except ε β} {items : List α} {error : ε} :
    items.mapM read = .error error ↔ ∃ before item after, items = before ++ item :: after ∧
      (∀ other ∈ before, ∃ value, read other = .ok value) ∧ read item = .error error := by
  induction items with
  | nil => simp [List.mapM_nil, pure, Except.pure]
  | cons item rest ih =>
    rw [List.mapM_cons, bind_eq_error_iff]
    constructor
    · rintro (hitem | ⟨value, hitem, hrest⟩)
      · exact ⟨[], item, rest, rfl, by simp, hitem⟩
      · -- Behind an item that is read, only the rest can fail.
        have hfails : rest.mapM read = .error error := by
          rcases bind_eq_error_iff.1 hrest with hfails | ⟨values, -, hpure⟩
          · exact hfails
          · cases hpure
        obtain ⟨before, failing, after, rfl, hbefore, hfailing⟩ := ih.1 hfails
        exact ⟨item :: before, failing, after, rfl,
          List.forall_mem_cons.2 ⟨⟨value, hitem⟩, hbefore⟩, hfailing⟩
    · rintro ⟨before, failing, after, hitems, hbefore, hfailing⟩
      cases before with
      | nil =>
        cases hitems
        exact .inl hfailing
      | cons first before =>
        cases hitems
        obtain ⟨⟨value, hitem⟩, hothers⟩ := List.forall_mem_cons.1 hbefore
        have hfails := ih.2 ⟨before, failing, after, rfl, hothers, hfailing⟩
        exact .inr ⟨value, hitem, bind_eq_error_iff.2 (.inl hfails)⟩

end Success

namespace Exchange

variable {α β : Type} {first : Exchange α} {next : α → Exchange β}

/-- A result that is lifted is the result. -/
@[simp]
theorem result_lift (result : Except Error α) : (liftM result : Exchange α).result = result := rfl

/-- A value alone is a success. -/
@[simp]
theorem result_pure (value : α) : (pure value : Exchange α).result = .ok value := rfl

/-- The results of the parts are put together like the parts. -/
theorem result_bind :
    (first >>= next).result = first.result >>= fun value => (next value).result := by
  change (first.andThen next).result = _
  unfold andThen
  cases first.result with
  | error error => rfl
  | ok value => rfl

/-- After a success, the requests of the second part follow. -/
theorem requests_bind_of_ok {value : α} (h : first.result = .ok value) :
    (first >>= next).requests = first.requests ++ (next value).requests := by
  change (first.andThen next).requests = _
  unfold andThen
  rw [h]

/-- After a success, the redirects of the second part follow too. -/
theorem followed_bind_of_ok {value : α} (h : first.result = .ok value) :
    (first >>= next).followed = first.followed ++ (next value).followed := by
  change (first.andThen next).followed = _
  unfold andThen
  rw [h]

/-- After a failure, no requests follow. -/
theorem requests_bind_of_error {error : Error} (h : first.result = .error error) :
    (first >>= next).requests = first.requests := by
  change (first.andThen next).requests = _
  unfold andThen
  rw [h]

/-- After a failure, no redirects are followed. -/
theorem followed_bind_of_error {error : Error} (h : first.result = .error error) :
    (first >>= next).followed = first.followed := by
  change (first.andThen next).followed = _
  unfold andThen
  rw [h]

/-- What goes on without a request sends what came before it. -/
theorem requests_bind_of_silent (h : ∀ value, (next value).requests = []) :
    (first >>= next).requests = first.requests := by
  cases hfirst : first.result with
  | error error => exact requests_bind_of_error hfirst
  | ok value => rw [requests_bind_of_ok hfirst, h, List.append_nil]

/-- A lifted success goes on with its value. -/
@[simp]
theorem ok_lift_bind (value : α) :
    (liftM (Except.ok value : Except Error α) >>= next) = next value := rfl

/-- A lifted failure is all that there is. -/
@[simp]
theorem error_lift_bind (error : Error) :
    (liftM (Except.error error : Except Error α) >>= next) = ofResult (.error error) := rfl

end Exchange

end MetricGateway
