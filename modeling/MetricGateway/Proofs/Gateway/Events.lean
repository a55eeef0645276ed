import Mathlib.Data.List.Induction
import MetricGateway.Proofs.Client.Sending
import MetricGateway.Proofs.Gateway.History

/-!
# Operations with outsides of their own

In a run of events, every operation meets an outside of its own. The client that is registered for a
base URL after a run was built by one of the operations (`exists_builds_registryOf`). Whatever is
done with a client then, one place of the backend is asked at most, and an operation sends what
asking this place sends (`Operation.requests_act_of_asks`).
-/

namespace MetricGateway.Gateway

open Success

/-! ## Runs -/

/-- An operation with the outside that it meets. -/
structure Event where
  outside : World
  op : Operation

namespace Event

/-- The outside at the time of the operation. -/
def world (event : Event) : World := event.op.world event.outside

/-- Does what the operation asks for. -/
def run (event : Event) (registry : Registry) : Step Answer := event.op.run event.outside registry

/-- The operation is about a base URL and builds a client for it. -/
structure Builds (event : Event) (url : String) (client : Client) : Prop where
  baseUrl : event.op.baseUrl = url
  build : (Client.build event.world event.op.connection).result = .ok client

end Event

/-- The registry after a run that begins without any client. -/
def registryOf (run : List Event) : Registry :=
  run.foldl (fun registry event => (event.run registry).registry) .empty

/-- One more event changes the registry that the events before it have left. -/
theorem registryOf_concat (run : List Event) (event : Event) :
    registryOf (run ++ [event]) = (event.run (registryOf run)).registry := by
  unfold registryOf
  rw [List.foldl_append]
  rfl

/-- A client that is registered after an operation was registered before, or was built by it. -/
theorem find?_run {event : Event} {registry : Registry} {url : String} {client : Client}
    (h : (event.run registry).registry.find? url = some client) :
    registry.find? url = some client ∨ event.Builds url client := by
  -- A client that was there stays, so a new one is found only where there was none.
  unfold Event.run at h
  rw [Operation.find?_registry_run, Option.or_eq_some_iff] at h
  rcases h with h | ⟨-, h⟩
  · exact .inl h
  split at h
  · next hurl =>
    cases hbuild : event.op.construct event.outside with
    | error error =>
      rw [hbuild] at h
      cases h
    | ok built =>
      rw [hbuild] at h
      cases h
      exact .inr ⟨hurl.symm, hbuild⟩
  · cases h

/-- A client that is registered after a run was built by one of its operations. The induction is on
the run, from its end. -/
theorem exists_builds_registryOf {run : List Event} {url : String} {client : Client}
    (h : (registryOf run).find? url = some client) : ∃ event ∈ run, event.Builds url client := by
  induction run using List.reverseRecOn with
  | nil => cases h
  | append_singleton run event ih =>
    rw [registryOf_concat] at h
    rcases find?_run h with h | hbuilds
    · obtain ⟨earlier, hearlier, hbuilds⟩ := ih h
      exact ⟨earlier, List.mem_append_left _ hearlier, hbuilds⟩
    · exact ⟨event, List.mem_append_right _ (List.mem_singleton_self event), hbuilds⟩

/-! ## What an operation asks -/

namespace Operation

variable {outside : World} {op : Operation} {client : Client} {place : String}
  {pairs : List (String × String)}

/-- The place of the backend that an operation asks, with the pairs in the query. -/
def asks (op : Operation) (client : Client) : Except Error (String × List (String × String)) :=
  match op.task with
  | .probe => .ok (client.probePlace, [])
  | .fetchMetric query => do
    let method ← method query
    let text ← (PromQL.compile query.conditions method (query.windowMillis / 1000)).mapError
      Error.query
    pure (Client.rangePlace, (rangeQuery query method).pairs text)
  | .fieldNames _ => .ok (Client.labelsPlace, [])
  | .fieldValues field _ _ _ => .ok (Client.valuesPlace (labelOf field), [])

/-- What comes of an operation if there is no response. A probe does not fail. -/
def resultOfError (op : Operation) (error : Error) : Except Error Answer :=
  match op.task with
  | .probe => .ok (.health { status := 502, body := error.message })
  | _ => .error error

/-- An operation sends what asking its place sends. -/
theorem requests_act_of_asks (h : op.asks client = .ok (place, pairs)) :
    (op.act outside client).requests =
      (client.get (op.world outside) place pairs).requests := by
  obtain ⟨connection, task, seconds⟩ := op
  cases task with
  | probe =>
    cases h
    rfl
  | fetchMetric query =>
    obtain ⟨method, hmethod, h⟩ := bind_eq_ok_iff.1 h
    obtain ⟨text, htext, h⟩ := bind_eq_ok_iff.1 h
    cases h
    exact requests_telemetry hmethod (mapError_eq_ok_iff.1 htext)
  | fieldNames limit =>
    cases h
    -- The reserved names join the page without a request.
    have hsilent (world : World) :
        (client.labels world limit >>= fun page =>
            (pure (withNames Condition.reservedKeys page) : Exchange Page)).requests =
          (client.labels world limit).requests :=
      Exchange.requests_bind_of_silent fun _ => rfl
    exact (hsilent _).trans (client.requests_labels _ limit)
  | fieldValues field start offset limit =>
    cases h
    exact client.requests_labelValues _ (labelOf field) start offset limit

/-- An operation that asks no place sends nothing. -/
theorem requests_act_of_asks_error {error : Error} (h : op.asks client = .error error) :
    (op.act outside client).requests = [] := by
  obtain ⟨connection, task, seconds⟩ := op
  cases task with
  | probe => cases h
  | fieldNames limit => cases h
  | fieldValues field start offset limit => cases h
  | fetchMetric query =>
    change (telemetry _ query client).requests = []
    cases hmethod : Gateway.method query with
    | error error => exact requests_telemetry_of_method_error hmethod
    | ok method =>
      cases hcompile :
        PromQL.compile query.conditions method (query.windowMillis / 1000) with
      | error error => exact requests_telemetry_of_compile_error hmethod hcompile
      | ok text =>
        change (Gateway.method query >>= _) = _ at h
        rw [hmethod, ok_bind, hcompile] at h
        cases h

/-- Without a response, an operation fails, unless it is a probe. -/
theorem result_act_of_get_error {error : Error} (h : op.asks client = .ok (place, pairs))
    (hget : client.get (op.world outside) place pairs = .ofResult (.error error)) :
    (op.act outside client).result = op.resultOfError error := by
  obtain ⟨connection, task, seconds⟩ := op
  cases task with
  | probe =>
    cases h
    -- The failure is what a probe finds.
    change Except.ok (Answer.health (.ofResult (client.get _ _ _).result)) = _
    rw [hget]
    rfl
  | fetchMetric query =>
    obtain ⟨method, hmethod, h⟩ := bind_eq_ok_iff.1 h
    obtain ⟨text, htext, h⟩ := bind_eq_ok_iff.1 h
    cases h
    have hsamples := Client.samples_of_get_error (mapError_eq_ok_iff.1 htext) hget
    change ((telemetry _ query client).map Answer.telemetry).result = _
    unfold telemetry
    rw [hmethod, Exchange.ok_lift_bind, hsamples]
    rfl
  | fieldNames limit =>
    cases h
    change ((client.getListing _ _ >>= _) >>= _ : Exchange Page).result.map Answer.page = _
    rw [Client.getListing_of_get_error hget]
    rfl
  | fieldValues field start offset limit =>
    cases h
    change (client.getListing _ _ >>= _ : Exchange Page).result.map Answer.page = _
    rw [Client.getListing_of_get_error hget]
    rfl

end Operation

end MetricGateway.Gateway
