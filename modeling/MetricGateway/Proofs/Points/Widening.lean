import MetricGateway.Proofs.Points.Collect

/-!
# Buckets are widened points

A bucket is a raw point with a width (`RawPoint.widen`). It is in range if and only if the raw point
is no later than the end less the width, so buckets are collected from the same samples as raw
points with this earlier end, and fail with them (`collect_eq_map_of_refines`, `refinement`). The
end of a bucket is cut off at the largest word, but a bucket whose end is cut off ends behind every
end below that word. A width beyond the end leaves no room for buckets.
-/

namespace MetricGateway

/-- The bucket of a width that starts at a point. -/
def RawPoint.widen (window : Nat) (point : RawPoint) : BucketPoint where
  value := point.value
  start := point.timestamp
  stop := point.timestamp + window

namespace Points

variable {α β : Type} {policy : NanPolicy} {inRange : Sample → Bool}
  {build : Sample → Binary64 → α} {samples : List Sample} {stop window : Nat}

/-- Points that are made of other points, from the same samples, are collected like these. -/
theorem collect_eq_map_of_refines {inRange' : Sample → Bool} {build' : Sample → Binary64 → β}
    (f : α → β) (hrange : ∀ sample, inRange' sample = inRange sample)
    (hbuild : ∀ sample value, inRange sample = true →
      build' sample value = f (build sample value)) (samples : List Sample) :
    collect policy inRange' build' samples =
      (collect policy inRange build samples).map (List.map f) := by
  induction samples with
  | nil => rfl
  | cons sample rest ih =>
    rw [collect, collect, hrange, ih]
    split
    · next hin =>
      cases sample.reading policy with
      | error error => rfl
      | ok reading =>
        cases reading with
        | none => rfl
        | some value =>
          simp only [Success.ok_bind, hbuild sample value hin]
          cases collect policy inRange build rest <;> rfl
    · rfl

/-- Without samples in range there are no points. -/
theorem collect_eq_nil (h : ∀ sample ∈ samples, inRange sample = false) :
    collect policy inRange build samples = .ok [] := by
  have hfilter : samples.filter inRange = [].filter inRange :=
    List.filter_eq_nil_iff.2 fun sample hsample => by simp [h sample hsample]
  exact collect_congr hfilter

/-- A bucket ends in time if and only if it starts early enough. -/
theorem bucketStop_le_iff (hlimit : stop < Binary64.maxWord) (hwindow : window ≤ stop)
    (sample : Sample) : bucketStop window sample ≤ stop ↔ sample.millis ≤ stop - window := by
  unfold bucketStop
  omega

/-- Buckets against raw points. -/
structure Refinement (samples : List Sample) (stop window : Nat) (policy : NanPolicy) : Prop where
  /-- Buckets are the raw points up to the end less the width, widened, and fail as these do. -/
  widens : window ≤ stop → buckets samples stop window policy =
    (raw samples (stop - window) policy).map (List.map (RawPoint.widen window))
  /-- A width beyond the end leaves no buckets, whatever the samples are. -/
  noRoom : stop < window → buckets samples stop window policy = .ok []
  /-- A bucket has the whole width, and ends no later than the end. -/
  whole : ∀ found, buckets samples stop window policy = .ok found → ∀ bucket ∈ found,
    bucket.stop = bucket.start + window ∧ bucket.stop ≤ stop

/-- Below the largest word, buckets are widened raw points. -/
theorem refinement (samples : List Sample) {stop : Nat} (window : Nat) (policy : NanPolicy)
    (hlimit : stop < Binary64.maxWord) : Refinement samples stop window policy where
  widens hwindow := by
    refine collect_eq_map_of_refines (RawPoint.widen window) ?_ ?_ samples
    · intro sample
      exact decide_eq_decide.2 (bucketStop_le_iff hlimit hwindow sample)
    · intro sample value hin
      have hstop := (bucketStop_le_iff hlimit hwindow sample).2 (of_decide_eq_true hin)
      simp only [RawPoint.widen, bucketStop_eq_of_lt (Nat.lt_of_le_of_lt hstop hlimit)]
  noRoom hwindow := by
    refine collect_eq_nil fun sample _ => decide_eq_false ?_
    unfold bucketStop
    omega
  whole found h bucket hbucket := by
    obtain ⟨sample, -, hin, value, -, rfl⟩ := (mem_of_collect_ok h).1 hbucket
    have hstop : bucketStop window sample ≤ stop := of_decide_eq_true hin
    exact ⟨bucketStop_eq_of_lt (Nat.lt_of_le_of_lt hstop hlimit), hstop⟩

/-- A sample at one second, one that is not-a-number at three seconds and a half, and a malformed
one at four seconds. -/
def mixedSamples : List Sample :=
  [{ seconds := ⟨0x3FF0000000000000⟩, value := "1.5" },
    { seconds := ⟨0x400C000000000000⟩, value := "NaN" },
    { seconds := ⟨0x4010000000000000⟩, value := "x" }]

/-- With an end at 5.5 seconds, the bucket of two seconds from 3.5 seconds on is the last one. -/
theorem refinement_mixedSamples : 5500 < Binary64.maxWord ∧
    raw mixedSamples 3500 .zero =
      .ok [⟨⟨0x3FF8000000000000⟩, 1000⟩, ⟨Binary64.zero, 3500⟩] ∧
    buckets mixedSamples 5500 2000 .zero =
      .ok [⟨⟨0x3FF8000000000000⟩, 1000, 3000⟩, ⟨Binary64.zero, 3500, 5500⟩] := by
  have hlimit : 5500 < Binary64.maxWord := by decide
  have hraw : raw mixedSamples 3500 .zero =
      .ok [⟨⟨0x3FF8000000000000⟩, 1000⟩, ⟨Binary64.zero, 3500⟩] := by
    decide +kernel
  refine ⟨hlimit, hraw, ?_⟩
  rw [(refinement mixedSamples 2000 .zero hlimit).widens (by decide), hraw]
  rfl

end Points

end MetricGateway
