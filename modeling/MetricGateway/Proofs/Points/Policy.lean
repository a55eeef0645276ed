import MetricGateway.Proofs.Points.Collect

/-!
# Points under either policy

Whether not-a-number counts as zero or is left out decides about nothing else (`Agreement`). Points
are missing under one policy if and only if they are missing under the other, and for the same
reason: the first malformed sample in range. Otherwise every sample in range has a point where
not-a-number counts as zero, and where it is left out the points are the same but for those of
samples that are not-a-number. Both are shown of the points of any list of samples that stand for
numbers (`collect_of_forall₂`), and hold of raw points as of buckets (`agreement`).
-/

namespace MetricGateway

open Success

namespace Points

variable {α : Type} {policy : NanPolicy} {inRange : Sample → Bool} {build : Sample → Binary64 → α}

/-- A point is built from a sample and the number that stands for it. -/
def IsPointOf (build : Sample → Binary64 → α) (sample : Sample) (point : α) : Prop :=
  ∃ value, sample.StandsFor value ∧ point = build sample value

/-- A sample has no point under a policy: it is not-a-number, which is left out. -/
def IsDropped (policy : NanPolicy) (sample : Sample) : Prop :=
  policy = .skip ∧ Text.lowerCase sample.value = "nan"

instance decidableIsDropped (policy : NanPolicy) (sample : Sample) :
    Decidable (IsDropped policy sample) :=
  inferInstanceAs (Decidable (_ ∧ _))

/-- The points of samples without those of the samples that have none under a policy. -/
def undropped (policy : NanPolicy) (samples : List Sample) (points : List α) : List α :=
  ((samples.zip points).filter fun pair => ¬IsDropped policy pair.1).map Prod.snd

/-- A sample that is a point gives it, unless it is dropped. -/
theorem pointOf_of_isPointOf {sample : Sample} {point : α} (h : IsPointOf build sample point) :
    pointOf policy build sample = .ok (if IsDropped policy sample then none else some point) := by
  obtain ⟨value, hvalue, rfl⟩ := h
  have hreading : sample.reading policy =
      .ok (if IsDropped policy sample then none else some value) :=
    Sample.reading_of_standsFor hvalue policy
  unfold pointOf
  rw [hreading]
  split <;> rfl

/-- If points are built from the samples in range, they are collected, but for those left out. -/
theorem collect_of_forall₂ {samples : List Sample} {points : List α}
    (h : List.Forall₂ (IsPointOf build) (samples.filter inRange) points) :
    collect policy inRange build samples =
      .ok (undropped policy (samples.filter inRange) points) := by
  rw [collect_eq_map_mapM]
  generalize samples.filter inRange = kept at h ⊢
  induction h with
  | nil => rfl
  | @cons sample point kept points hpoint _ ih =>
    obtain ⟨readings, hreadings, hrest⟩ := map_eq_ok_iff.1 ih
    rw [List.mapM_cons, pointOf_of_isPointOf hpoint, hreadings]
    unfold undropped at hrest ⊢
    rw [List.zip_cons_cons]
    refine congrArg Except.ok ?_
    by_cases hdropped : IsDropped policy sample
    · rw [List.filter_cons_of_neg (by simp [hdropped]), ← hrest, if_pos hdropped]
      exact List.reduceOption_cons_of_none readings
    · rw [List.filter_cons_of_pos (by simp [hdropped]), List.map_cons, ← hrest, if_neg hdropped]
      exact List.reduceOption_cons_of_some point readings

/-- If no sample is malformed, points can be built from all of them. -/
theorem exists_forall₂_isPointOf (build : Sample → Binary64 → α) {samples : List Sample}
    (h : ∀ sample ∈ samples, ∀ error, ¬sample.IsMalformed error) :
    ∃ points, List.Forall₂ (IsPointOf build) samples points := by
  induction samples with
  | nil => exact ⟨[], .nil⟩
  | cons sample rest ih =>
    obtain ⟨hsample, hrest⟩ := List.forall_mem_cons.1 h
    obtain ⟨value, hvalue⟩ := (Sample.exists_standsFor_or_isMalformed sample).resolve_right
      fun ⟨error, herror⟩ => hsample error herror
    obtain ⟨points, hpoints⟩ := ih hrest
    exact ⟨build sample value :: points, .cons ⟨value, hvalue, rfl⟩ hpoints⟩

/-- What points have to do with samples, and the points under one policy with those under the
other. -/
structure Agreement (inRange : Sample → Prop) [DecidablePred inRange]
    (build : Sample → Binary64 → α)
    (points : NanPolicy → List Sample → Except ResponseError (List α)) : Prop where
  /-- There are no points if and only if a sample in range is malformed, whatever the policy is, and
  the complaint is about the first such sample. -/
  fails_iff : ∀ policy samples error, points policy samples = .error error ↔
    ∃ before sample after, samples.filter inRange = before ++ sample :: after ∧
      (∀ other ∈ before, ∀ cause, ¬other.IsMalformed cause) ∧ sample.IsMalformed error
  /-- Otherwise there is a point for each sample in range, in their order, and the points of those
  that are not-a-number are left out or not. -/
  succeeds : ∀ samples, (∀ sample ∈ samples, inRange sample → ∀ error, ¬sample.IsMalformed error) →
    ∃ all, List.Forall₂ (IsPointOf build) (samples.filter inRange) all ∧
      points .zero samples = .ok all ∧
      points .skip samples = .ok ((((samples.filter inRange).zip all).filter fun pair =>
        Text.lowerCase pair.1.value ≠ "nan").map Prod.snd)
  /-- Samples out of range have no influence. -/
  ignores : ∀ policy samples others, samples.filter inRange = others.filter inRange →
    points policy samples = points policy others

/-- Collecting under both policies agrees. -/
theorem agreement_collect (inRange : Sample → Prop) [DecidablePred inRange]
    (build : Sample → Binary64 → α) :
    Agreement inRange build fun policy samples =>
      collect policy (fun sample => inRange sample) build samples where
  fails_iff _ _ _ := collect_eq_error_iff
  succeeds samples h := by
    have hkept : ∀ sample ∈ samples.filter inRange, ∀ error, ¬sample.IsMalformed error := by
      intro sample hsample
      obtain ⟨hmem, hin⟩ := List.mem_filter.1 hsample
      exact h sample hmem (of_decide_eq_true hin)
    obtain ⟨all, hall⟩ := exists_forall₂_isPointOf build hkept
    refine ⟨all, hall, ?_, ?_⟩
    · rw [collect_of_forall₂ hall]
      simp [undropped, IsDropped, List.map_snd_zip (Nat.le_of_eq hall.length_eq.symm)]
    · rw [collect_of_forall₂ hall]
      simp [undropped, IsDropped]
  ignores _ _ _ h := collect_congr h

/-- Raw points agree, and so do buckets. -/
theorem agreement (stop window : Nat) :
    Agreement (fun sample => sample.millis ≤ stop) (fun sample value => ⟨value, sample.millis⟩)
        (fun policy samples => raw samples stop policy) ∧
      Agreement (fun sample => min (sample.millis + window) Binary64.maxWord ≤ stop)
        (fun sample value =>
          ⟨value, sample.millis, min (sample.millis + window) Binary64.maxWord⟩)
        (fun policy samples => buckets samples stop window policy) :=
  ⟨agreement_collect _ _, agreement_collect _ _⟩

/-- A sample at a second with a text. -/
def sampleAt (seconds : Nat) (value : String) : Sample := { seconds := .ofInt seconds, value }

/-- A sample after the others, one that is not-a-number, and two that are malformed. -/
def twiceMalformed : List Sample :=
  [sampleAt 2 "zero", sampleAt 1 "NaN", sampleAt 1 "one", sampleAt 1 "two"]

/-- Up to one second, the first of the malformed samples in range is complained about under either
policy. -/
theorem agreement_twiceMalformed :
    raw twiceMalformed 1000 .zero =
        .error (.invalidPayload "Sample value one is not a number: invalid float literal") ∧
      raw twiceMalformed 1000 .skip =
        .error (.invalidPayload "Sample value one is not a number: invalid float literal") := by
  have hfilter : twiceMalformed.filter (fun sample => sample.millis ≤ 1000) =
      [sampleAt 1 "NaN"] ++ sampleAt 1 "one" :: [sampleAt 1 "two"] := by
    decide +kernel
  have hbefore : ∀ other ∈ [sampleAt 1 "NaN"], ∀ cause, ¬other.IsMalformed cause :=
    List.forall_mem_singleton.2 fun _ h => h.notNaN (by decide)
  have hmalformed : (sampleAt 1 "one").IsMalformed
      (.invalidPayload "Sample value one is not a number: invalid float literal") :=
    ⟨by decide, .invalid, by decide +kernel, rfl⟩
  have hfails (policy : NanPolicy) : raw twiceMalformed 1000 policy =
      .error (.invalidPayload "Sample value one is not a number: invalid float literal") :=
    ((agreement 1000 0).1.fails_iff policy _ _).2 ⟨_, _, _, hfilter, hbefore, hmalformed⟩
  exact ⟨hfails .zero, hfails .skip⟩

end Points

end MetricGateway
