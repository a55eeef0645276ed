import Mathlib.Data.List.ReduceOption
import MetricGateway.Points
import MetricGateway.Proofs.Success

/-!
# Collecting points

The points of samples are made in three rounds: the samples out of range are left out, each of the
others is read as a point or as none, and the points are put together (`collect_eq_map_mapM`). So
what is known of reading a list item by item is known of points: which samples decide the result
(`collect_congr`), which sample a failure comes from (`collect_eq_error_iff`), what the points of
two parts have to do with those of the whole (`collect_append`), and which samples the points come
from (`mem_of_collect_ok`).
-/

namespace MetricGateway

open Success

/-! ## Reading a sample -/

namespace Sample

/-- The text for not-a-number is the word in any letter case, without a sign. -/
theorem isNaNText_iff {sample : Sample} :
    sample.isNaNText = true ↔ Text.lowerCase sample.value = "nan" := by
  have hword : Text.lowerCase "nan" = "nan" := by decide
  unfold isNaNText Text.sameLetters
  rw [hword, decide_eq_true_iff]

section Cases

variable {sample : Sample}

/-- The name of not-a-number is left out or counts as zero. -/
theorem reading_of_nan (hnan : Text.lowerCase sample.value = "nan") (policy : NanPolicy) :
    sample.reading policy = .ok (if policy = .skip then none else some Binary64.zero) := by
  unfold reading
  rw [if_pos (isNaNText_iff.2 hnan)]
  cases policy <;> rfl

/-- A text that is a number gives the number. -/
theorem reading_of_number {value : Binary64} (hnan : Text.lowerCase sample.value ≠ "nan")
    (hread : Decimal.readNumber sample.value = .ok value) (policy : NanPolicy) :
    sample.reading policy = .ok (some value) := by
  unfold reading
  rw [if_neg (isNaNText_iff.not.2 hnan), hread]

/-- A text that is no number fails with its fault. -/
theorem reading_of_fault {fault : Decimal.ReadingFault}
    (hnan : Text.lowerCase sample.value ≠ "nan")
    (hread : Decimal.readNumber sample.value = .error fault) (policy : NanPolicy) :
    sample.reading policy = .error (.invalidPayload
      ("Sample value " ++ sample.value ++ " is not a number: " ++ fault.message)) := by
  unfold reading
  rw [if_neg (isNaNText_iff.not.2 hnan), hread]

end Cases

/-- The value of a sample is no number, nor the text for not-a-number, and this is the complaint. -/
structure IsMalformed (sample : Sample) (error : ResponseError) : Prop where
  notNaN : Text.lowerCase sample.value ≠ "nan"
  notNumber : ∃ fault, Decimal.readNumber sample.value = .error fault ∧
    error = .invalidPayload
      ("Sample value " ++ sample.value ++ " is not a number: " ++ fault.message)

/-- The number that stands for a sample: zero for not-a-number, and else the number it is. -/
inductive StandsFor (sample : Sample) : Binary64 → Prop where
  | nan (hnan : Text.lowerCase sample.value = "nan") : StandsFor sample Binary64.zero
  | number {value : Binary64} (hnan : Text.lowerCase sample.value ≠ "nan")
    (hread : Decimal.readNumber sample.value = .ok value) : StandsFor sample value

/-- A sample that is not malformed stands for a number. -/
theorem exists_standsFor_or_isMalformed (sample : Sample) :
    (∃ value, sample.StandsFor value) ∨ ∃ error, sample.IsMalformed error := by
  by_cases hnan : Text.lowerCase sample.value = "nan"
  · exact .inl ⟨_, .nan hnan⟩
  · cases hread : Decimal.readNumber sample.value with
    | ok value => exact .inl ⟨value, .number hnan hread⟩
    | error fault => exact .inr ⟨_, hnan, fault, hread, rfl⟩

/-- A malformed sample fails, whatever is done about not-a-number. -/
theorem reading_of_isMalformed {sample : Sample} {error : ResponseError}
    (h : sample.IsMalformed error) (policy : NanPolicy) :
    sample.reading policy = .error error := by
  obtain ⟨fault, hread, rfl⟩ := h.notNumber
  exact reading_of_fault h.notNaN hread policy

/-- A sample that stands for a number gives it, unless it is left out. -/
theorem reading_of_standsFor {sample : Sample} {value : Binary64} (h : sample.StandsFor value)
    (policy : NanPolicy) : sample.reading policy =
      .ok (if policy = .skip ∧ Text.lowerCase sample.value = "nan" then none else some value) := by
  cases h with
  | nan hnan =>
    rw [reading_of_nan hnan]
    simp only [hnan, and_true]
  | number hnan hread =>
    rw [reading_of_number hnan hread]
    simp only [hnan, and_false, if_false]

/-- A sample fails to be read if it is malformed, whatever is done about not-a-number. -/
theorem reading_eq_error_iff {sample : Sample} {policy : NanPolicy} {error : ResponseError} :
    sample.reading policy = .error error ↔ sample.IsMalformed error := by
  constructor
  · intro h
    rcases exists_standsFor_or_isMalformed sample with ⟨value, hvalue⟩ | ⟨other, hother⟩
    · rw [reading_of_standsFor hvalue] at h
      cases h
    · rw [reading_of_isMalformed hother] at h
      cases h
      exact hother
  · exact fun h => reading_of_isMalformed h policy

end Sample

/-! ## Reading all samples in range -/

namespace Points

variable {α : Type} {policy : NanPolicy} {inRange : Sample → Bool} {build : Sample → Binary64 → α}

/-- The point of a sample, if it has one. -/
def pointOf (policy : NanPolicy) (build : Sample → Binary64 → α) (sample : Sample) :
    Except ResponseError (Option α) :=
  (sample.reading policy).map (Option.map (build sample))

/-- A sample gives no point if and only if it is malformed. -/
theorem pointOf_eq_error_iff {sample : Sample} {error : ResponseError} :
    pointOf policy build sample = .error error ↔ sample.IsMalformed error := by
  have hreading : sample.reading policy = .error error ↔ sample.IsMalformed error :=
    Sample.reading_eq_error_iff
  rw [← hreading]
  unfold pointOf
  cases sample.reading policy <;> simp [Except.map]

/-- Points are collected in three rounds: the samples in range, the points they have, and these
put together. -/
theorem collect_eq_map_mapM (samples : List Sample) :
    collect policy inRange build samples =
      ((samples.filter inRange).mapM (pointOf policy build)).map List.reduceOption := by
  induction samples with
  | nil => rfl
  | cons sample rest ih =>
    rw [collect, ih]
    cases hin : inRange sample with
    | false =>
      rw [List.filter_cons_of_neg (by simp [hin])]
      rfl
    | true =>
      rw [List.filter_cons_of_pos hin, List.mapM_cons]
      cases hreading : sample.reading policy with
      | error error =>
        rw [show pointOf policy build sample = .error error by unfold pointOf; rw [hreading]; rfl]
        rfl
      | ok reading =>
        rw [show pointOf policy build sample = .ok (reading.map (build sample)) by
          unfold pointOf; rw [hreading]; rfl]
        cases reading <;> cases (rest.filter inRange).mapM (pointOf policy build) <;> rfl

/-- Samples out of range have no influence. -/
theorem collect_congr {samples others : List Sample}
    (h : samples.filter inRange = others.filter inRange) :
    collect policy inRange build samples = collect policy inRange build others := by
  rw [collect_eq_map_mapM, collect_eq_map_mapM, h]

/-- The points of samples are collected one part after another. -/
theorem collect_append (first later : List Sample) :
    collect policy inRange build (first ++ later) =
      (collect policy inRange build first >>= fun points =>
        collect policy inRange build later >>= fun others => pure (points ++ others)) := by
  simp only [collect_eq_map_mapM, List.filter_append, List.mapM_append]
  cases (first.filter inRange).mapM (pointOf policy build) with
  | error error => rfl
  | ok points =>
    cases (later.filter inRange).mapM (pointOf policy build) with
    | error error => rfl
    | ok others => exact congrArg Except.ok (List.reduceOption_append points others)

/-- There are no more points than samples. -/
theorem length_le_of_collect_ok {samples : List Sample} {points : List α}
    (h : collect policy inRange build samples = .ok points) : points.length ≤ samples.length := by
  rw [collect_eq_map_mapM, map_eq_ok_iff] at h
  obtain ⟨readings, hreadings, rfl⟩ := h
  calc readings.reduceOption.length ≤ readings.length := List.reduceOption_length_le readings
    _ = (samples.filter inRange).length := (mapM_eq_ok_iff.1 hreadings).length_eq.symm
    _ ≤ samples.length := List.length_filter_le _ _

/-- The points are those of the samples in range that are read as a number. -/
theorem mem_of_collect_ok {samples : List Sample} {points : List α}
    (h : collect policy inRange build samples = .ok points) {point : α} :
    point ∈ points ↔ ∃ sample ∈ samples, inRange sample = true ∧
      ∃ value, sample.reading policy = .ok (some value) ∧ point = build sample value := by
  rw [collect_eq_map_mapM, map_eq_ok_iff] at h
  obtain ⟨readings, hreadings, rfl⟩ := h
  rw [List.reduceOption_mem_iff, mem_of_mapM_eq_ok hreadings]
  have hpoint : ∀ sample, pointOf policy build sample = .ok (some point) ↔
      ∃ value, sample.reading policy = .ok (some value) ∧ point = build sample value := by
    intro sample
    unfold pointOf
    rw [map_eq_ok_iff]
    constructor
    · rintro ⟨reading, hreading, hpoint⟩
      obtain ⟨value, rfl, rfl⟩ := Option.map_eq_some_iff.1 hpoint
      exact ⟨value, hreading, rfl⟩
    · rintro ⟨value, hreading, rfl⟩
      exact ⟨some value, hreading, rfl⟩
  simp only [List.mem_filter, hpoint, and_assoc]

/-- There are no points if and only if a sample in range is malformed, and the first such sample is
the one complained about. -/
theorem collect_eq_error_iff {samples : List Sample} {error : ResponseError} :
    collect policy inRange build samples = .error error ↔
      ∃ before sample after, samples.filter inRange = before ++ sample :: after ∧
        (∀ other ∈ before, ∀ cause, ¬other.IsMalformed cause) ∧ sample.IsMalformed error := by
  have hread : ∀ sample, (∃ point, pointOf policy build sample = .ok point) ↔
      ∀ cause, ¬sample.IsMalformed cause := by
    intro sample
    have hpoint (cause : ResponseError) :
        pointOf policy build sample = .error cause ↔ sample.IsMalformed cause :=
      pointOf_eq_error_iff
    simp only [← hpoint]
    cases pointOf policy build sample <;> simp
  have hmap : collect policy inRange build samples = .error error ↔
      (samples.filter inRange).mapM (pointOf policy build) = .error error := by
    rw [collect_eq_map_mapM]
    cases (samples.filter inRange).mapM (pointOf policy build) <;> simp [Except.map]
  rw [hmap, mapM_eq_error_iff]
  simp only [hread, pointOf_eq_error_iff]

/-- If there are no points, a sample in range cannot be read. -/
theorem exists_of_collect_error {samples : List Sample} {error : ResponseError}
    (h : collect policy inRange build samples = .error error) :
    ∃ sample ∈ samples, inRange sample = true ∧ sample.reading policy = .error error := by
  obtain ⟨before, sample, after, hsamples, -, hmalformed⟩ := collect_eq_error_iff.1 h
  have hmem : sample ∈ samples.filter inRange := by
    rw [hsamples]
    exact List.mem_append_right _ List.mem_cons_self
  obtain ⟨hsample, hin⟩ := List.mem_filter.1 hmem
  exact ⟨sample, hsample, hin, Sample.reading_eq_error_iff.2 hmalformed⟩

/-- The end of a bucket is cut off at the largest word only. -/
theorem bucketStop_eq_of_lt {window : Nat} {sample : Sample}
    (h : bucketStop window sample < Binary64.maxWord) :
    bucketStop window sample = sample.millis + window := by
  unfold bucketStop at h ⊢
  omega

end Points

end MetricGateway
