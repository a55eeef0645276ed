import MetricGateway.Proofs.Client.Sending
import MetricGateway.Proofs.Exchange
import MetricGateway.Proofs.Points.Collect

/-!
# Limits

The limit of a query takes the first samples of the response, before samples out of range and
samples that are not a number are left out. The points of some samples followed by others are the
points of the ones followed by the points of the others (`Points.collect_append`). So a lower limit
gives the first of the points that a higher limit gives, and what only the higher limit meets is a
sample behind the lower one whose value cannot be read (`narrows`).
-/

namespace MetricGateway

open Success

/-- A value that cannot be read is reported as an invalid payload. -/
theorem Sample.exists_of_reading_error {policy : NanPolicy} {sample : Sample}
    {error : ResponseError} (h : sample.reading policy = .error error) :
    ∃ details, error = .invalidPayload details := by
  obtain ⟨fault, -, herror⟩ := (reading_eq_error_iff.1 h).notNumber
  exact ⟨_, herror⟩

/-- The points are the first of others, and of the same kind. -/
def Telemetry.IsPrefixOf : Telemetry → Telemetry → Prop
  | .raw points, .raw more => points <+: more
  | .aggregated points, .aggregated more => points <+: more
  | _, _ => False

namespace Gateway

/-- Whether a query wants the point of a sample: the raw point, or the bucket if there is a method.
-/
def isInRange (query : Query) (method : Option Method) (sample : Sample) : Bool :=
  match method with
  | some _ => Points.bucketStop query.windowMillis sample ≤ query.endMillis
  | none => sample.millis ≤ query.endMillis

/-- The points of a query, raw ones or buckets, are collected from its samples in range. -/
theorem exists_points_eq (query : Query) (policy : NanPolicy) (method : Option Method) :
    ∃ (α : Type) (build : Sample → Binary64 → α) (wrap : List α → Telemetry),
      (∀ samples, points query policy samples method =
        ((Points.collect policy (isInRange query method) build samples).map wrap).mapError
          Error.response) ∧
      (∀ first more, (wrap first).IsPrefixOf (wrap (first ++ more))) ∧
      ∀ all, (wrap all).size = all.length := by
  cases method with
  | none =>
    exact ⟨RawPoint, _, .raw, fun _ => rfl, fun first more => List.prefix_append first more,
      fun _ => rfl⟩
  | some method =>
    exact ⟨BucketPoint, _, .aggregated, fun _ => rfl,
      fun first more => List.prefix_append first more, fun _ => rfl⟩

section Append

variable {query : Query} {policy : NanPolicy} {method : Option Method} {first later : List Sample}

/-- The points of the first samples are the first points. -/
theorem exists_points_of_append {all : Telemetry}
    (h : points query policy (first ++ later) method = .ok all) :
    ∃ fewer, points query policy first method = .ok fewer ∧ fewer.IsPrefixOf all ∧
      fewer.size ≤ first.length := by
  obtain ⟨α, build, wrap, heq, hfront, hsize⟩ := exists_points_eq query policy method
  rw [heq, Points.collect_append] at h
  obtain ⟨given, hgiven, rfl⟩ := map_eq_ok_iff.1 (mapError_eq_ok_iff.1 h)
  obtain ⟨collected, hfirst, hgiven⟩ := bind_eq_ok_iff.1 hgiven
  obtain ⟨others, -, hgiven⟩ := bind_eq_ok_iff.1 hgiven
  cases hgiven
  refine ⟨wrap collected, ?_, hfront collected others, ?_⟩
  · rw [heq, hfirst]
    rfl
  · rw [hsize]
    exact Points.length_le_of_collect_ok hfirst

/-- If only the first samples give points, one of the others that is in range cannot be read. -/
theorem exists_of_points_append_error {fewer : Telemetry} {error : Error}
    (hfirst : points query policy first method = .ok fewer)
    (h : points query policy (first ++ later) method = .error error) :
    ∃ sample ∈ later, ∃ details, isInRange query method sample = true ∧
      sample.reading policy = .error (.invalidPayload details) ∧
      error = .response (.invalidPayload details) := by
  obtain ⟨α, build, wrap, heq, -, -⟩ := exists_points_eq query policy method
  rw [heq] at hfirst h
  obtain ⟨collected, hcollected, -⟩ := map_eq_ok_iff.1 (mapError_eq_ok_iff.1 hfirst)
  rw [Points.collect_append, hcollected, ok_bind] at h
  cases hlater : Points.collect policy (isInRange query method) build later with
  | ok others =>
    rw [hlater] at h
    cases h
  | error cause =>
    rw [hlater] at h
    cases h
    obtain ⟨sample, hsample, hin, hreading⟩ := Points.exists_of_collect_error hlater
    obtain ⟨details, rfl⟩ := sample.exists_of_reading_error hreading
    exact ⟨sample, hsample, details, hin, hreading, rfl⟩

end Append

/-! ## One response, two limits -/

/-- The samples that a client is asked for, however many there are. -/
def unlimitedQuery (query : Query) (method : Option Method) : Client.RangeQuery :=
  { rangeQuery query method with limit := none }

/-- What is asked for does not depend on the limit, which takes the first samples. -/
theorem samples_withLimit (client : Client) (world : World) (query : Query)
    (method : Option Method) (limit : Nat) :
    client.samples world (rangeQuery { query with limit } method) =
      (client.samples world (unlimitedQuery query method)).map (List.take limit) := by
  -- The limit is looked at last, behind the text, the payload and the series.
  unfold Client.samples
  change Exchange.andThen _ _ = (Exchange.andThen _ _).map _
  rw [Exchange.map_andThen]
  congr 1
  funext text
  change Exchange.andThen _ _ = (Exchange.andThen _ _).map _
  rw [Exchange.map_andThen]
  congr 1
  funext payload
  change Exchange.andThen _ _ = (Exchange.andThen _ _).map _
  rw [Exchange.map_andThen]
  exact congrArg (Exchange.andThen _) (funext fun all => rfl)

/-- The samples of the response to a query, before the limit is looked at. -/
structure Finds (registry : Registry) (world : World) (connection : Connection) (query : Query)
    (client : Client) (method : Option Method) (all : List Sample) : Prop where
  client_eq : (registry.obtain world connection).exchange.result = .ok client
  method_eq : Gateway.method query = .ok method
  samples_eq : (client.samples world (unlimitedQuery query method)).result = .ok all

/-- Fetches the points of a metric with another limit for the query. -/
def fetchLimited (registry : Registry) (world : World) (connection : Connection) (query : Query)
    (limit : Nat) : Step Telemetry :=
  fetchMetric registry world connection { query with limit }

/-- Whatever the limit is, either there is no response to the query that holds samples, or the
points are those of its first samples. -/
theorem finds_or_error (registry : Registry) (world : World) (connection : Connection)
    (query : Query) :
    (∃ error, ∀ limit,
      (fetchLimited registry world connection query limit).exchange.result = .error error) ∨
    ∃ client method all, Finds registry world connection query client method all ∧ ∀ limit,
      (fetchLimited registry world connection query limit).exchange.result =
        points query client.nanPolicy (all.take limit) method := by
  have hfetch (limit : Nat) :
      (fetchLimited registry world connection query limit).exchange.result =
        (registry.obtain world connection).exchange.result >>= fun client =>
          Gateway.method query >>= fun method =>
            (client.samples world (unlimitedQuery query method)).result.map (List.take limit) >>=
              fun samples => points query client.nanPolicy samples method := by
    change ((registry.obtain world connection).exchange >>= telemetry world _).result = _
    unfold telemetry
    simp only [Exchange.result_bind, Exchange.result_lift, samples_withLimit]
    rfl
  -- Whatever goes wrong before the points are made goes wrong with every limit.
  cases hclient : (registry.obtain world connection).exchange.result with
  | error error =>
    refine .inl ⟨error, fun limit => ?_⟩
    rw [hfetch, hclient]
    rfl
  | ok client =>
    cases hmethod : Gateway.method query with
    | error error =>
      refine .inl ⟨error, fun limit => ?_⟩
      rw [hfetch, hclient, hmethod]
      rfl
    | ok method =>
      cases hsamples : (client.samples world (unlimitedQuery query method)).result with
      | error error =>
        refine .inl ⟨error, fun limit => ?_⟩
        rw [hfetch, hclient, hmethod, ok_bind, ok_bind, hsamples]
        rfl
      | ok all =>
        refine .inr ⟨client, method, all, ⟨hclient, hmethod, hsamples⟩, fun limit => ?_⟩
        rw [hfetch, hclient, hmethod, ok_bind, ok_bind, hsamples]
        rfl

/-- An error is due to one of the samples that only the higher limit takes: its point is wanted, and
its value cannot be read. -/
structure FailsBehind (registry : Registry) (world : World) (connection : Connection)
    (query : Query)
    (lower higher : Nat) (error : Error) : Prop where
  fails : ∃ client method all i sample details,
    Finds registry world connection query client method all ∧
    lower ≤ i ∧ i < higher ∧ all[i]? = some sample ∧ isInRange query method sample = true ∧
    sample.reading client.nanPolicy = .error (.invalidPayload details) ∧
    error = .response (.invalidPayload details)

/-- What comes of a query with a lower and with a higher limit. -/
structure Narrows (registry : Registry) (world : World) (connection : Connection) (query : Query)
    (lower higher : Nat) : Prop where
  /-- The same is asked. -/
  requests : (fetchLimited registry world connection query lower).exchange.requests =
    (fetchLimited registry world connection query higher).exchange.requests
  /-- What succeeds with the higher limit succeeds with the lower one, and gives the first points.
  -/
  ok : ∀ all, (fetchLimited registry world connection query higher).exchange.result = .ok all →
    ∃ fewer, (fetchLimited registry world connection query lower).exchange.result = .ok fewer ∧
      fewer.IsPrefixOf all ∧ fewer.size ≤ lower
  /-- What fails with the higher limit only fails at a sample behind the lower one. -/
  error : ∀ fewer error,
    (fetchLimited registry world connection query lower).exchange.result = .ok fewer →
    (fetchLimited registry world connection query higher).exchange.result = .error error →
    FailsBehind registry world connection query lower higher error

/-- What is sent for a metric does not depend on the limit. -/
theorem requests_telemetry_withLimit (client : Client) (world : World) (query : Query)
    (limit other : Nat) :
    (telemetry world { query with limit } client).requests =
      (telemetry world { query with limit := other } client).requests := by
  unfold telemetry
  change (liftM (Gateway.method query) >>= _ : Exchange Telemetry).requests =
    (liftM (Gateway.method query) >>= _ : Exchange Telemetry).requests
  cases hmethod : Gateway.method query with
  | error error => rw [Exchange.error_lift_bind, Exchange.error_lift_bind]
  | ok method =>
    have hrequests (limit : Nat) :
        (client.samples world (rangeQuery { query with limit } method)).requests =
          (client.samples world (unlimitedQuery query method)).requests := by
      rw [samples_withLimit]
      exact Eq.refl (client.samples world (unlimitedQuery query method)).requests
    rw [Exchange.ok_lift_bind, Exchange.ok_lift_bind, Exchange.requests_bind_of_silent fun _ => rfl,
      Exchange.requests_bind_of_silent fun _ => rfl, hrequests limit, hrequests other]

/-- A lower limit gives the first points, and fails less. -/
theorem narrows (registry : Registry) (world : World) (connection : Connection) (query : Query)
    {lower higher : Nat} (h : lower ≤ higher) :
    Narrows registry world connection query lower higher := by
  have hrequests : (fetchLimited registry world connection query lower).exchange.requests =
      (fetchLimited registry world connection query higher).exchange.requests := by
    change ((registry.obtain world connection).exchange >>= _).requests =
      ((registry.obtain world connection).exchange >>= _).requests
    cases hclient : (registry.obtain world connection).exchange.result with
    | error error =>
      rw [Exchange.requests_bind_of_error hclient, Exchange.requests_bind_of_error hclient]
    | ok client =>
      rw [Exchange.requests_bind_of_ok hclient, Exchange.requests_bind_of_ok hclient,
        requests_telemetry_withLimit client world query lower higher]
  rcases finds_or_error registry world connection query with
    ⟨error, herror⟩ | ⟨client, method, all, hfinds, hfetch⟩
  · refine ⟨hrequests, fun points hpoints => ?_, fun fewer error hfewer => ?_⟩
    · rw [herror] at hpoints
      cases hpoints
    · rw [herror] at hfewer
      cases hfewer
  -- The higher limit takes the samples of the lower one, and then those behind it.
  have htake : all.take higher = all.take lower ++ (all.take higher).drop lower := by
    calc all.take higher = (all.take higher).take lower ++ (all.take higher).drop lower :=
        (List.take_append_drop lower _).symm
      _ = all.take lower ++ (all.take higher).drop lower := by
        rw [List.take_take, Nat.min_eq_left h]
  refine ⟨hrequests, fun points hpoints => ?_, fun fewer error hfewer herror => ?_⟩
  · rw [hfetch, htake] at hpoints
    obtain ⟨fewer, hfewer, hfront, hsize⟩ := exists_points_of_append hpoints
    exact ⟨fewer, (hfetch lower).trans hfewer, hfront,
      Nat.le_trans hsize (List.length_take_le lower all)⟩
  · rw [hfetch] at hfewer herror
    rw [htake] at herror
    obtain ⟨sample, hsample, details, hin, hreading, rfl⟩ :=
      exists_of_points_append_error hfewer herror
    obtain ⟨i, hi⟩ := List.mem_iff_getElem?.1 hsample
    rw [List.getElem?_drop, List.getElem?_take] at hi
    split at hi
    · next hlt =>
      exact ⟨client, method, all, lower + i, sample, details, hfinds, Nat.le_add_right lower i, hlt,
        hi, hin, hreading, rfl⟩
    · cases hi

/-- An outside whose backend has a series of three samples: a number, none, and a text that is no
number. -/
def mixedWorld : World :=
  .still (.complete {
    status := 200
    contentType := "application/json"
    body := Text.utf8 ("\x7b\"data\":\x7b\"result\":[\x7b\"values\":[[1,\"1.5\"],[2,\"NaN\"]," ++
      "[3,\"x\"]]\x7d]\x7d\x7d") }) 0

/-- The connection to this backend, whose samples that are no number are left out. -/
def mixedConnection : Connection where
  url := "http://prom.test"
  nanPolicy := .skip

/-- A query for the samples of a gauge. -/
def upQuery : Query where
  conditions := [{ key := Condition.gaugeKey, value := .text "up" }]
  endMillis := 2000000

/-- With two samples there is one point, and the third one fails. -/
theorem narrows_mixedWorld :
    (fetchLimited .empty mixedWorld mixedConnection upQuery 2).exchange.result =
        .ok (.raw [{ value := ⟨0x3FF8000000000000⟩, timestamp := 1000 }]) ∧
      ∃ details, (fetchLimited .empty mixedWorld mixedConnection upQuery 3).exchange.result =
          .error (.response (.invalidPayload details)) ∧
        FailsBehind .empty mixedWorld mixedConnection upQuery 2 3
          (.response (.invalidPayload details)) := by
  have hlower : (fetchLimited .empty mixedWorld mixedConnection upQuery 2).exchange.result =
      .ok (.raw [{ value := ⟨0x3FF8000000000000⟩, timestamp := 1000 }]) := by
    decide +kernel
  have hhigher : (fetchLimited .empty mixedWorld mixedConnection upQuery 3).exchange.result =
      .error (.response
        (.invalidPayload "Sample value x is not a number: invalid float literal")) := by
    decide +kernel
  have hnarrows := narrows .empty mixedWorld mixedConnection upQuery (show 2 ≤ 3 by decide)
  exact ⟨hlower, _, hhigher, hnarrows.error _ _ hlower hhigher⟩

end Gateway

end MetricGateway
