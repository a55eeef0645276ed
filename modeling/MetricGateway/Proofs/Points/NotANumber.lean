import MetricGateway.Proofs.Decimal.Reading
import MetricGateway.Proofs.Points.Collect

/-!
# Which points are not-a-number

The name of not-a-number is looked for in the text of a sample before the text is read as a number.
What is looked for is the name alone, in any letter case, but a sign may stand before it when it is
read. So a policy masks not-a-number if no sign stands before the name, and otherwise the sample
gives a point that is not-a-number, under either policy (`masking`, `raw_signedNaN`).
-/

namespace MetricGateway

open Decimal

/-- A sample has a value that is not-a-number if and only if its text is the name with a sign. -/
theorem Sample.isNaN_reading_iff (sample : Sample) (policy : NanPolicy) :
    (∃ value, sample.reading policy = .ok (some value) ∧ value.isNaN = true) ↔
      SpellsSignedNaN sample.value := by
  by_cases hnan : Text.lowerCase sample.value = "nan"
  · -- The name alone is zero or nothing.
    have hsigned : ¬SpellsSignedNaN sample.value :=
      fun h => lowerCase_ne_nan_of_spellsSignedNaN h hnan
    have hzero : Binary64.zero.isNaN = false := by decide
    rw [reading_of_nan hnan]
    cases policy <;> simp [hsigned, hzero]
  · have hread (value : Binary64) : sample.reading policy = .ok (some value) ↔
        readNumber sample.value = .ok value := by
      cases hread : readNumber sample.value with
      | ok number => rw [reading_of_number hnan hread, Except.ok.injEq, Except.ok.injEq,
          Option.some.injEq]
      | error fault => rw [reading_of_fault hnan hread]; exact ⟨nofun, nofun⟩
    simp only [hread, isNaN_readNumber_iff, hnan, false_or]

namespace Points

variable {α : Type} {policy : NanPolicy} {inRange : Sample → Bool} {build : Sample → Binary64 → α}

/-- No point is not-a-number if and only if no sample in range is the name with a sign. -/
theorem forall_isNaN_eq_false_iff {samples : List Sample} {points : List α}
    (h : collect policy inRange build samples = .ok points) (valueOf : α → Binary64)
    (hvalue : ∀ sample value, valueOf (build sample value) = value) :
    (∀ point ∈ points, (valueOf point).isNaN = false) ↔
      ∀ sample ∈ samples, inRange sample = true → ¬SpellsSignedNaN sample.value := by
  simp only [← fun sample => Sample.isNaN_reading_iff sample policy]
  constructor
  · rintro hpoints sample hsample hin ⟨value, hreading, hnan⟩
    have hpoint := hpoints _ ((mem_of_collect_ok h).2 ⟨sample, hsample, hin, value, hreading, rfl⟩)
    rw [hvalue, hnan] at hpoint
    cases hpoint
  · intro hsamples point hpoint
    obtain ⟨sample, hsample, hin, value, hreading, rfl⟩ := (mem_of_collect_ok h).1 hpoint
    rw [hvalue]
    exact eq_false_of_ne_true fun hnan =>
      hsamples sample hsample hin ⟨value, hreading, hnan⟩

/-- How far a policy masks not-a-number. -/
structure Masking (samples : List Sample) (stop window : Nat) (policy : NanPolicy) : Prop where
  /-- No raw point is not-a-number, unless a sample up to the end is the name with a sign. -/
  raw_iff : ∀ points, raw samples stop policy = .ok points →
    ((∀ point ∈ points, point.value.isNaN = false) ↔
      ∀ sample ∈ samples, sample.millis ≤ stop → ¬SpellsSignedNaN sample.value)
  /-- No bucket is not-a-number, unless a sample whose bucket ends in time is the name with a
  sign. -/
  buckets_iff : ∀ found, buckets samples stop window policy = .ok found →
    ((∀ bucket ∈ found, bucket.value.isNaN = false) ↔
      ∀ sample ∈ samples, bucketStop window sample ≤ stop → ¬SpellsSignedNaN sample.value)
  /-- A text that is read as not-a-number is zero or left out, as the policy says, unless it has a
  sign. -/
  reading_iff : ∀ sample ∈ samples, ∀ value, readNumber sample.value = .ok value →
    value.isNaN = true →
    (sample.reading policy = .ok (if policy = .skip then none else some Binary64.zero) ↔
      ¬SpellsSignedNaN sample.value)

/-- A policy masks not-a-number but for the samples that are the name with a sign. -/
theorem masking (samples : List Sample) (stop window : Nat) (policy : NanPolicy) :
    Masking samples stop window policy where
  raw_iff points h := by
    have hpoints := forall_isNaN_eq_false_iff h RawPoint.value fun _ _ => rfl
    simpa only [decide_eq_true_eq] using hpoints
  buckets_iff found h := by
    have hbuckets := forall_isNaN_eq_false_iff h BucketPoint.value fun _ _ => rfl
    simpa only [decide_eq_true_eq] using hbuckets
  reading_iff sample _ value hread hnan := by
    rcases isNaN_readNumber_iff.1 ⟨value, hread, hnan⟩ with hname | hsigned
    · have hunsigned : ¬SpellsSignedNaN sample.value :=
        fun h => lowerCase_ne_nan_of_spellsSignedNaN h hname
      exact ⟨fun _ => hunsigned, fun _ => Sample.reading_of_nan hname policy⟩
    · refine ⟨fun hreading => ?_, fun h => absurd hsigned h⟩
      -- The value of a signed name is not-a-number, hence neither zero nor left out.
      obtain ⟨other, hother, hnan⟩ := (sample.isNaN_reading_iff policy).2 hsigned
      rw [hreading] at hother
      cases policy with
      | zero =>
        cases hother
        exact absurd hnan (by decide)
      | skip => cases hother

/-- Two samples at one second: not-a-number in capitals, and a negative infinity. -/
def unsignedSamples : List Sample :=
  [{ seconds := ⟨0x3FF0000000000000⟩, value := "NAN" },
    { seconds := ⟨0x3FF0000000000000⟩, value := "-Inf" }]

/-- Neither of them gives a point that is not-a-number. -/
theorem masking_unsignedSamples : ∃ points, raw unsignedSamples 1000 .zero = .ok points ∧
    points.length = 2 ∧ ∀ point ∈ points, point.value.isNaN = false := by
  have hpoints : raw unsignedSamples 1000 .zero =
      .ok [⟨Binary64.zero, 1000⟩, ⟨Binary64.ofMagnitude true Binary64.infinityBits, 1000⟩] := by
    decide +kernel
  refine ⟨_, hpoints, rfl, ((masking unsignedSamples 1000 0 .zero).raw_iff _ hpoints).2 ?_⟩
  have hunsigned : ∀ sample ∈ unsignedSamples, ¬SpellsSignedNaN sample.value := by decide
  exact fun sample hsample _ => hunsigned sample hsample

/-- No policy masks not-a-number in all raw points: a sign before the name is enough for a point
that is not-a-number. -/
theorem raw_signedNaN : ¬∃ policy : NanPolicy, ∀ (samples : List Sample) (stop : Nat)
    (points : List RawPoint), raw samples stop policy = .ok points →
      ∀ point ∈ points, point.value.isNaN = false := by
  rintro ⟨policy, hmasks⟩
  have hpoints : raw [{ seconds := ⟨0x3FF0000000000000⟩, value := "-nan" }] 1000 policy =
      .ok [⟨notANumber true, 1000⟩] := by
    cases policy <;> decide +kernel
  have hnumber := hmasks _ _ _ hpoints _ List.mem_cons_self
  rw [isNaN_notANumber] at hnumber
  cases hnumber

end Points

end MetricGateway
