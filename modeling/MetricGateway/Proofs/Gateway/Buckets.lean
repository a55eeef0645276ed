import MetricGateway.Proofs.Client.Sending
import MetricGateway.Proofs.Exchange
import MetricGateway.Proofs.Points.Collect
import MetricGateway.Proofs.Url.Base

/-!
# Buckets and steps

The width of a bucket is the window in milliseconds, and the step that the backend is asked for is
the window in seconds, rounded down. So a bucket is as wide as a step if and only if the window has
whole seconds, and otherwise it ends after the next one has begun (`Spaced`, `bucketed`).
-/

namespace MetricGateway

open Success

namespace Points

/-- A bucket that does not end at the limit of 64 bits has the width of the window. -/
theorem stop_eq_of_mem_buckets {policy : NanPolicy} {samples : List Sample} {stop window : Nat}
    {found : List BucketPoint} (h : buckets samples stop window policy = .ok found)
    {bucket : BucketPoint}
    (hbucket : bucket ∈ found) (hlimit : bucket.stop < Binary64.maxWord) :
    bucket.stop = bucket.start + window := by
  obtain ⟨sample, -, -, value, -, rfl⟩ := (mem_of_collect_ok h).1 hbucket
  exact bucketStop_eq_of_lt hlimit

end Points

/-- A bucket has whole seconds: it is given a number of them, or is widened to the least width. -/
def Aggregation.HasWholeSeconds (aggregation : Aggregation) : Prop :=
  aggregation.bucketMillis ≤ minBucketMillis ∨ 1000 ∣ aggregation.bucketMillis

namespace Gateway

/-- A request asks for a step in seconds, in the last pair of its query. -/
def AsksForStep (request : BackendRequest) (step : Nat) : Prop :=
  ("&step=" ++ toString step).toList <:+ request.url.toList

/-- How buckets lie to each other if their samples are a step apart. -/
structure Spaced (aggregation : Aggregation) (step : Nat) (buckets : List BucketPoint) : Prop where
  /-- A bucket has the width that was given, or the least one. -/
  width : ∀ bucket ∈ buckets, bucket.stop < Binary64.maxWord →
    bucket.stop = bucket.start + max aggregation.bucketMillis 30000
  /-- It is as wide as a step if and only if it has whole seconds. -/
  width_iff : ∀ bucket ∈ buckets, bucket.stop < Binary64.maxWord →
    (bucket.stop = bucket.start + 1000 * step ↔ aggregation.HasWholeSeconds)
  /-- There is no gap before the bucket of the next step, and no overlap if and only if buckets have
  whole seconds. -/
  next : ∀ bucket ∈ buckets, ∀ later ∈ buckets, bucket.stop < Binary64.maxWord →
    later.start = bucket.start + 1000 * step →
      later.start ≤ bucket.stop ∧ (bucket.stop = later.start ↔ aggregation.HasWholeSeconds)

variable {registry : Registry} {world : World} {connection : Connection} {query : Query}
  {aggregation : Aggregation}

/-- The step is as wide as a bucket if and only if the bucket has whole seconds. -/
theorem windowMillis_eq_iff (h : query.aggregation = some aggregation) :
    query.windowMillis = 1000 * (query.windowMillis / 1000) ↔ aggregation.HasWholeSeconds := by
  have hwindow : query.windowMillis = max aggregation.bucketMillis 30000 := by
    unfold Query.windowMillis
    rw [h]
    rfl
  have hwhole : aggregation.HasWholeSeconds ↔
      aggregation.bucketMillis ≤ 30000 ∨ aggregation.bucketMillis % 1000 = 0 := by
    unfold Aggregation.HasWholeSeconds minBucketMillis
    rw [Nat.dvd_iff_mod_eq_zero]
  rw [hwhole, hwindow]
  omega

/-- Buckets of a query are spaced by its window. -/
theorem spaced_buckets (haggregation : query.aggregation = some aggregation)
    {samples : List Sample} {policy : NanPolicy} {found : List BucketPoint}
    (h : Points.buckets samples query.endMillis query.windowMillis policy = .ok found) :
    Spaced aggregation (query.windowMillis / 1000) found := by
  have hstop (bucket : BucketPoint) (hbucket : bucket ∈ found)
      (hlimit : bucket.stop < Binary64.maxWord) :
      bucket.stop = bucket.start + query.windowMillis :=
    Points.stop_eq_of_mem_buckets h hbucket hlimit
  have hwhole := windowMillis_eq_iff haggregation
  refine ⟨?_, ?_, ?_⟩
  · intro bucket hbucket hlimit
    rw [hstop bucket hbucket hlimit]
    unfold Query.windowMillis
    rw [haggregation]
    rfl
  · intro bucket hbucket hlimit
    have := hstop bucket hbucket hlimit
    rw [← hwhole]
    omega
  · intro bucket hbucket later _ hlimit hlater
    have := hstop bucket hbucket hlimit
    rw [← hwhole]
    omega

/-- The request for the samples of a query asks for the window in whole seconds as its step. -/
theorem asksForStep_requestOf {client : Client} {method : Option Method} {text : String} {url : Url}
    (hurl : client.url Client.rangePlace ((rangeQuery query method).pairs text) = .ok url)
    (headers : List Header) :
    AsksForStep (Backend.requestOf url headers) (query.windowMillis / 1000) := by
  unfold Client.url at hurl
  split at hurl
  · next base _ =>
    cases hurl
    have hpairs : (rangeQuery query method).pairs text ≠ [] := List.cons_ne_nil _ _
    have hlast := Text.suffix_formOf ("query", text)
      [("start", toString (query.startMillis / 1000)), ("end", toString (query.endMillis / 1000))]
      ("step", toString (query.windowMillis / 1000))
    have hname : Text.formEncode "step" = "step".toList := by decide
    have hstep : '&' :: Text.formPair ("step", toString (query.windowMillis / 1000)) =
        ("&step=" ++ toString (query.windowMillis / 1000)).toList := by
      unfold Text.formPair
      rw [hname, Text.formEncode_toString, String.toList_append]
      rfl
    rw [hstep] at hlast
    exact hlast.trans (base.suffix_render_addPairs hpairs)
  · cases hurl

/-- Fetching with an aggregation gives buckets. The last request asks for a step, and the buckets
are as wide as this step if and only if they have whole seconds. -/
theorem bucketed {points : Telemetry} (haggregation : query.aggregation = some aggregation)
    (h : (fetchMetric registry world connection query).exchange.result = .ok points) :
    ∃ buckets request step, points = .aggregated buckets ∧
      (fetchMetric registry world connection query).exchange.requests.getLast? =
        some (.backend request) ∧
      AsksForStep request step ∧ Spaced aggregation step buckets := by
  obtain ⟨client, -, hact, hrequests⟩ := Registry.exists_of_withClient_ok h
  obtain ⟨method, text, samples, response, hmethod, htext, hresponse, hpoints⟩ :=
    exists_of_telemetry_ok hact
  obtain ⟨url, headers, hsends⟩ := Client.exists_sends_of_get_ok hresponse
  -- A query with an aggregation has a method, so its points are buckets.
  obtain ⟨given, -, rfl⟩ := exists_of_method_ok haggregation hmethod
  obtain ⟨buckets, hbuckets, rfl⟩ := map_eq_ok_iff.1 (mapError_eq_ok_iff.1 hpoints)
  have hsent : (telemetry world query client).requests =
      [.backend (Backend.requestOf url headers)] :=
    (requests_telemetry hmethod htext).trans (Client.requests_get_of_sends hsends)
  have hlast : (fetchMetric registry world connection query).exchange.requests =
      (registry.obtain world connection).exchange.requests ++
        [.backend (Backend.requestOf url headers)] := hsent ▸ hrequests
  refine ⟨buckets, Backend.requestOf url headers, query.windowMillis / 1000, rfl, ?_, ?_, ?_⟩
  · rw [hlast, List.getLast?_concat]
  · exact asksForStep_requestOf hsends.url_eq headers
  · exact spaced_buckets haggregation hbuckets

/-- An outside whose backend has two samples of a series, 45 seconds apart. -/
def seriesWorld : World :=
  .still (.complete {
    status := 200
    contentType := "application/json"
    body := Text.utf8
      "\x7b\"data\":\x7b\"result\":[\x7b\"values\":[[1000,\"1.5\"],[1045,\"2\"]]\x7d]\x7d\x7d" }) 0

/-- The mean of a gauge in buckets of a width. -/
def meanQuery (bucketMillis : Nat) : Query where
  conditions := [{ key := Condition.gaugeKey, value := .text "up" }]
  endMillis := 2000000
  aggregation := some { methodName := "mean", bucketMillis }

/-- The buckets of the two samples for a width. -/
def meanBuckets (bucketMillis : Nat) : List BucketPoint :=
  [{ value := ⟨0x3FF8000000000000⟩, start := 1000000, stop := 1000000 + bucketMillis },
    { value := ⟨0x4000000000000000⟩, start := 1045000, stop := 1045000 + bucketMillis }]

/-- Buckets of 45 seconds meet. -/
theorem bucketed_wholeSeconds :
    (fetchMetric .empty seriesWorld { url := "http://prom.test" }
        (meanQuery 45000)).exchange.result = .ok (.aggregated (meanBuckets 45000)) ∧
      ∃ buckets step, Telemetry.aggregated (meanBuckets 45000) = .aggregated buckets ∧
        Spaced { methodName := "mean", bucketMillis := 45000 } step buckets := by
  have hresult : (fetchMetric .empty seriesWorld { url := "http://prom.test" }
      (meanQuery 45000)).exchange.result = .ok (.aggregated (meanBuckets 45000)) := by
    decide +kernel
  obtain ⟨buckets, -, step, hbuckets, -, -, hspaced⟩ := bucketed rfl hresult
  exact ⟨hresult, buckets, step, hbuckets, hspaced⟩

/-- Each bucket that was fetched is as wide as the step that was asked for. -/
def IsAligned (exchange : Exchange Telemetry) : Prop :=
  ∀ buckets, exchange.result = .ok (.aggregated buckets) →
    ∃ request step, exchange.requests.getLast? = some (.backend request) ∧
      AsksForStep request step ∧
      ∀ bucket ∈ buckets, bucket.stop < Binary64.maxWord → bucket.stop = bucket.start + 1000 * step

/-- Buckets of 45.5 seconds are wider than any step. -/
theorem not_isAligned_halfSecond :
    ¬IsAligned (fetchMetric .empty seriesWorld { url := "http://prom.test" }
      (meanQuery 45500)).exchange := by
  intro h
  obtain ⟨request, step, -, -, hwidth⟩ := h (meanBuckets 45500) (by decide +kernel)
  have hstop := hwidth _ List.mem_cons_self (by decide)
  change 1000000 + 45500 = 1000000 + 1000 * step at hstop
  omega

end Gateway

end MetricGateway
