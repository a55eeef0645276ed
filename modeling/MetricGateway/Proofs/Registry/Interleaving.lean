import Mathlib.Logic.Function.Basic
import Mathlib.Logic.Relation
import MetricGateway.Proofs.Exchange
import MetricGateway.Proofs.Registry.Entries

/-!
# Interleaved calls for a client

Calls for the clients of their connections run at the same time, as many as there are elements of
`ι`. Each of them looks its base URL up, builds a client if none is registered, and offers what it
has built. These are the steps of `obtain`, one after another (`exists_alone`), but other calls may
take theirs in between: two calls may both miss, and both build.

`Invariant` is what every step preserves (`Invariant.step`). Its heart is that an entry belongs to
the call that built its client, and that this call has returned it. `Consistent` is what follows for
a state and for all states after it, and `consistent_of_reaches` shows it for every state that any
interleaving reaches.
-/

namespace MetricGateway

/-- Slashes at the end of a URL do not count. -/
theorem Connection.trimSlashes_append_slashes (text : String) (n : Nat) :
    trimSlashes (text ++ String.ofList (List.replicate n '/')) = trimSlashes text := by
  unfold trimSlashes
  rw [String.toList_append, String.toList_ofList, List.reverse_append, List.reverse_replicate,
    List.dropWhile_append_of_pos]
  intro c hc
  rw [List.eq_of_mem_replicate hc]
  rfl

namespace Registry.Interleaving

/-- A client with the call that built it, which tells equal clients of two calls apart. -/
structure Handle (ι : Type) where
  client : Client
  builder : ι

/-- How far a call has come. -/
inductive Phase (ι : Type) where
  /-- It has not looked its base URL up. -/
  | called
  /-- It has found no client. -/
  | missed
  /-- It has built a client. -/
  | built (handle : Handle ι)
  /-- It has returned. -/
  | returned (result : Except Error (Handle ι))

/-- The registry that the calls share, and how far each of them has come. -/
structure State (ι : Type) where
  registry : Registry (Handle ι) := .empty
  phase : ι → Phase ι := fun _ => .called

/-- A step of a call. The outside may be another one whenever a client is built. -/
inductive Action (ι : Type) where
  | lookUp (call : ι)
  | build (call : ι) (world : World)
  | offer (call : ι)

/-- How far a call has come after it has looked its base URL up. -/
def Phase.afterLookUp {ι : Type} : Option (Handle ι) → Phase ι
  | some handle => .returned (.ok handle)
  | none => .missed

/-- How far a call has come after it has tried to build a client. -/
def Phase.afterBuild {ι : Type} (call : ι) : Except Error Client → Phase ι
  | .ok client => .built { client, builder := call }
  | .error error => .returned (.error error)

variable {ι : Type} [DecidableEq ι] (connections : ι → Connection)

/-- The state after a call has come further. -/
def State.advance (s : State ι) (call : ι) (phase : Phase ι) : State ι :=
  { s with phase := Function.update s.phase call phase }

/-- The state after a call has offered a handle and returned the one that is registered. -/
def State.offer (s : State ι) (call : ι) (url : String) (handle : Handle ι) : State ι where
  registry := s.registry.insertIfAbsent url handle
  phase := Function.update s.phase call (.returned (.ok (s.registry.clientAfter url handle)))

/-- The state after a step, if the call has come as far as the step needs. -/
def step (s : State ι) : Action ι → Option (State ι)
  | .lookUp call =>
    match s.phase call with
    | .called => some (s.advance call (.afterLookUp (s.registry.find? (connections call).baseUrl)))
    | _ => none
  | .build call world =>
    match s.phase call with
    | .missed =>
      some (s.advance call (.afterBuild call (Client.build world (connections call)).result))
    | _ => none
  | .offer call =>
    match s.phase call with
    | .built handle => some (s.offer call (connections call).baseUrl handle)
    | _ => none

/-- Steps of any calls, in any order, lead from one state to the other. -/
def Reaches : State ι → State ι → Prop :=
  Relation.ReflTransGen fun s s' => ∃ action, step connections s action = some s'

/-- The state after steps in the given order, if each of them can be taken. -/
def run : State ι → List (Action ι) → Option (State ι)
  | s, [] => some s
  | s, action :: rest =>
    match step connections s action with
    | some next => run next rest
    | none => none

variable {connections}

/-! ## What a step does -/

/-- A call that goes on leaves the registry as it is. -/
@[simp]
theorem State.registry_advance (s : State ι) (call : ι) (phase : Phase ι) :
    (s.advance call phase).registry = s.registry := rfl

/-- A call goes on to the phase that is given. -/
@[simp]
theorem State.phase_advance_self (s : State ι) (call : ι) (phase : Phase ι) :
    (s.advance call phase).phase call = phase := Function.update_self _ _ _

/-- A call that goes on leaves all others where they are. -/
theorem State.phase_advance_of_ne (s : State ι) {call other : ι} (hne : other ≠ call)
    (phase : Phase ι) : (s.advance call phase).phase other = s.phase other :=
  Function.update_of_ne hne _ _

/-- A call that offers its handle returns the one that is registered. -/
@[simp]
theorem State.phase_offer_self (s : State ι) (call : ι) (url : String) (handle : Handle ι) :
    (s.offer call url handle).phase call = .returned (.ok (s.registry.clientAfter url handle)) :=
  Function.update_self _ _ _

/-- A call that offers its handle leaves all others where they are. -/
theorem State.phase_offer_of_ne (s : State ι) {call other : ι} (hne : other ≠ call) (url : String)
    (handle : Handle ι) : (s.offer call url handle).phase other = s.phase other :=
  Function.update_of_ne hne _ _

/-- After a call has come further, every call is where it was before, or it is the one that has come
further. -/
theorem phase_update_cases {phases : ι → Phase ι} {call other : ι} {phase phase' : Phase ι}
    (h : Function.update phases call phase other = phase') :
    (other = call ∧ phase = phase') ∨ phases other = phase' := by
  by_cases hother : other = call
  · subst hother
    rw [Function.update_self] at h
    exact .inl ⟨rfl, h⟩
  · rw [Function.update_of_ne hother] at h
    exact .inr h

/-- A step is one of three: a look-up, a build, or an offer, each by a call that has come as far as
it needs. -/
theorem step_cases {s s' : State ι} {action : Action ι} (h : step connections s action = some s') :
    (∃ call, action = .lookUp call ∧ s.phase call = .called ∧
      s' = s.advance call (.afterLookUp (s.registry.find? (connections call).baseUrl))) ∨
    (∃ call world, action = .build call world ∧ s.phase call = .missed ∧
      s' = s.advance call (.afterBuild call (Client.build world (connections call)).result)) ∨
    (∃ call handle, action = .offer call ∧ s.phase call = .built handle ∧
      s' = s.offer call (connections call).baseUrl handle) := by
  cases action with
  | lookUp call =>
    cases hphase : s.phase call <;> simp only [step, hphase, Option.some.injEq, reduceCtorEq] at h
    exact .inl ⟨call, rfl, hphase, h.symm⟩
  | build call world =>
    cases hphase : s.phase call <;> simp only [step, hphase, Option.some.injEq, reduceCtorEq] at h
    exact .inr (.inl ⟨call, world, rfl, hphase, h.symm⟩)
  | offer call =>
    cases hphase : s.phase call <;> simp only [step, hphase, Option.some.injEq, reduceCtorEq] at h
    exact .inr (.inr ⟨call, _, rfl, hphase, h.symm⟩)

/-- A step keeps every entry at its place. -/
theorem entries_prefix_of_step {s s' : State ι} {action : Action ι}
    (h : step connections s action = some s') : s.registry.entries <+: s'.registry.entries := by
  obtain ⟨call, -, -, rfl⟩ | ⟨call, world, -, -, rfl⟩ | ⟨call, handle, -, -, rfl⟩ := step_cases h
  · exact List.prefix_rfl
  · exact List.prefix_rfl
  · exact entries_prefix_insertIfAbsent _ _ _

/-- A call that has returned takes no further step. -/
theorem phase_of_step {s s' : State ι} {action : Action ι} (h : step connections s action = some s')
    {call : ι} {result : Except Error (Handle ι)} (hcall : s.phase call = .returned result) :
    s'.phase call = .returned result := by
  obtain ⟨other, -, hother, rfl⟩ | ⟨other, world, -, hother, rfl⟩ |
      ⟨other, handle, -, hother, rfl⟩ :=
    step_cases h
  all_goals
    have hne : call ≠ other := by
      rintro rfl
      rw [hcall] at hother
      cases hother
  · rw [State.phase_advance_of_ne _ hne, hcall]
  · rw [State.phase_advance_of_ne _ hne, hcall]
  · rw [State.phase_offer_of_ne _ hne, hcall]

/-- The steps of a run lead to its end. -/
theorem reaches_of_run {s s' : State ι} {actions : List (Action ι)}
    (h : run connections s actions = some s') : Reaches connections s s' := by
  induction actions generalizing s with
  | nil =>
    cases h
    exact .refl
  | cons action rest ih =>
    unfold run at h
    cases hstep : step connections s action with
    | none =>
      rw [hstep] at h
      cases h
    | some next =>
      rw [hstep] at h
      exact .head ⟨action, hstep⟩ (ih h)

/-! ## What every step preserves -/

variable (connections) in
/-- What holds in every state that interleaved calls reach. -/
structure Invariant (s : State ι) : Prop where
  /-- A base URL has at most one entry. -/
  keys_nodup : s.registry.keys.Nodup
  /-- An entry stands under the base URL that its client calls. -/
  key_eq : ∀ entry ∈ s.registry.entries, entry.1 = entry.2.client.baseUrl
  /-- A call that has built a client has built it itself, for its base URL. -/
  of_built : ∀ call handle, s.phase call = .built handle →
    handle.builder = call ∧ handle.client.baseUrl = (connections call).baseUrl
  /-- The call that built the client of an entry has returned it. -/
  builder_returned : ∀ entry ∈ s.registry.entries,
    s.phase entry.2.builder = .returned (.ok entry.2)
  /-- What a call has returned is registered under its base URL. -/
  of_returned_ok : ∀ call handle, s.phase call = .returned (.ok handle) →
    s.registry.find? (connections call).baseUrl = some handle
  /-- A call that has returned an error has failed to build a client with this error. -/
  of_returned_error : ∀ call error, s.phase call = .returned (.error error) →
    ∃ world, (Client.build world (connections call)).result = .error error

omit [DecidableEq ι] in
/-- No call has done anything at first. -/
theorem Invariant.initial : Invariant connections ({} : State ι) where
  keys_nodup := List.nodup_nil
  key_eq entry h := absurd h List.not_mem_nil
  of_built call handle h := by cases h
  builder_returned entry h := absurd h List.not_mem_nil
  of_returned_ok call handle h := by cases h
  of_returned_error call error h := by cases h

/-- A call that has not returned comes further without an offer: the invariant holds if it says the
right thing about that call. -/
theorem Invariant.advance {s : State ι} (hs : Invariant connections s) {call : ι} {phase : Phase ι}
    (hcall : ∀ result, s.phase call ≠ .returned result)
    (hbuilt : ∀ handle, phase = .built handle →
      handle.builder = call ∧ handle.client.baseUrl = (connections call).baseUrl)
    (hok : ∀ handle, phase = .returned (.ok handle) →
      s.registry.find? (connections call).baseUrl = some handle)
    (herror : ∀ error, phase = .returned (.error error) →
      ∃ world, (Client.build world (connections call)).result = .error error) :
    Invariant connections (s.advance call phase) where
  keys_nodup := hs.keys_nodup
  key_eq := hs.key_eq
  of_built other handle h := by
    rcases phase_update_cases h with ⟨rfl, heq⟩ | h
    · exact hbuilt handle heq
    · exact hs.of_built other handle h
  builder_returned entry h := by
    -- The builder of an entry has returned, so it is not the call that comes further.
    have hreturned := hs.builder_returned entry h
    have hne : entry.2.builder ≠ call := by
      intro heq
      exact hcall _ (heq ▸ hreturned)
    rw [State.phase_advance_of_ne _ hne, hreturned]
  of_returned_ok other handle h := by
    rcases phase_update_cases h with ⟨rfl, heq⟩ | h
    · exact hok handle heq
    · exact hs.of_returned_ok other handle h
  of_returned_error other error h := by
    rcases phase_update_cases h with ⟨rfl, heq⟩ | h
    · exact herror error heq
    · exact hs.of_returned_error other error h

/-- A look-up preserves the invariant: what it finds is registered. -/
theorem Invariant.lookUp {s : State ι} (hs : Invariant connections s) {call : ι}
    (hcall : s.phase call = .called) :
    Invariant connections
      (s.advance call (.afterLookUp (s.registry.find? (connections call).baseUrl))) := by
  have hphase : ∀ result, s.phase call ≠ .returned result := by simp [hcall]
  cases hfind : s.registry.find? (connections call).baseUrl with
  | some found =>
    apply hs.advance hphase
    · intro handle h
      cases h
    · intro handle h
      cases h
      exact hfind
    · intro error h
      cases h
  | none =>
    -- A call that has found nothing has neither built nor returned anything.
    apply hs.advance hphase
    all_goals
      intro _ h
      cases h

/-- A build preserves the invariant, whether it fails or not: it touches no entry. -/
theorem Invariant.build {s : State ι} (hs : Invariant connections s) {call : ι}
    (hcall : s.phase call = .missed) (world : World) :
    Invariant connections
      (s.advance call (.afterBuild call (Client.build world (connections call)).result)) := by
  have hphase : ∀ result, s.phase call ≠ .returned result := by simp [hcall]
  cases hbuild : (Client.build world (connections call)).result with
  | ok client =>
    apply hs.advance hphase
    · intro handle h
      cases h
      exact ⟨rfl, Client.baseUrl_of_build hbuild⟩
    · intro handle h
      cases h
    · intro error h
      cases h
  | error failure =>
    apply hs.advance hphase
    · intro handle h
      cases h
    · intro handle h
      cases h
    · intro error h
      cases h
      exact ⟨world, hbuild⟩

/-- An offer preserves the invariant: the call returns what is registered after it, which is another
call's handle if that one came first. -/
theorem Invariant.offer {s : State ι} (hs : Invariant connections s) {call : ι}
    {handle : Handle ι} (hcall : s.phase call = .built handle) :
    Invariant connections (s.offer call (connections call).baseUrl handle) := by
  obtain ⟨hbuilder, hbase⟩ := hs.of_built call handle hcall
  constructor
  case keys_nodup => exact keys_nodup_insertIfAbsent hs.keys_nodup _ _
  case key_eq =>
    intro entry h
    rcases mem_entries_insertIfAbsent h with h | ⟨-, rfl⟩
    · exact hs.key_eq entry h
    · exact hbase.symm
  case of_built =>
    intro other built h
    rcases phase_update_cases h with ⟨-, heq⟩ | h
    · cases heq
    · exact hs.of_built other built h
  case builder_returned =>
    intro entry h
    rcases mem_entries_insertIfAbsent h with h | ⟨hnone, rfl⟩
    · -- The builder of an earlier entry has returned, so it is not the call that offers.
      have hreturned := hs.builder_returned entry h
      have hne : entry.2.builder ≠ call := by
        intro heq
        rw [heq, hcall] at hreturned
        cases hreturned
      rw [State.phase_offer_of_ne _ hne, hreturned]
    · -- The new entry is the offered handle, which its builder, this call, gets back.
      rw [hbuilder, State.phase_offer_self, clientAfter_eq, hnone, Option.getD_none]
  case of_returned_ok =>
    intro other returned h
    rcases phase_update_cases h with ⟨rfl, heq⟩ | h
    · cases heq
      exact find?_insertIfAbsent_self _ _ _
    · exact find?_mono (entries_prefix_insertIfAbsent _ _ _) (hs.of_returned_ok other returned h)
  case of_returned_error =>
    intro other error h
    rcases phase_update_cases h with ⟨-, heq⟩ | h
    · cases heq
    · exact hs.of_returned_error other error h

/-- Every step of every call preserves the invariant. -/
theorem Invariant.step {s s' : State ι} (hs : Invariant connections s) {action : Action ι}
    (h : step connections s action = some s') : Invariant connections s' := by
  obtain ⟨call, -, hcall, rfl⟩ | ⟨call, world, -, hcall, rfl⟩ | ⟨call, handle, -, hcall, rfl⟩ :=
    step_cases h
  · exact hs.lookUp hcall
  · exact hs.build hcall world
  · exact hs.offer hcall

/-- The invariant holds wherever interleaved calls lead. -/
theorem Invariant.of_reaches {s : State ι} (h : Reaches connections {} s) :
    Invariant connections s := by
  induction h with
  | refl => exact .initial
  | tail _ hstep ih =>
    obtain ⟨action, hstep⟩ := hstep
    exact ih.step hstep

/-! ## What holds from a state on -/

/-- Entries keep their places for good. -/
theorem entries_prefix_of_reaches {s s' : State ι} (h : Reaches connections s s') :
    s.registry.entries <+: s'.registry.entries := by
  induction h with
  | refl => exact List.prefix_rfl
  | tail _ hstep ih =>
    obtain ⟨action, hstep⟩ := hstep
    exact ih.trans (entries_prefix_of_step hstep)

/-- A call that has returned stays so. -/
theorem phase_of_reaches {s s' : State ι} (h : Reaches connections s s') {call : ι}
    {result : Except Error (Handle ι)} (hcall : s.phase call = .returned result) :
    s'.phase call = .returned result := by
  induction h with
  | refl => exact hcall
  | tail _ hstep ih =>
    obtain ⟨action, hstep⟩ := hstep
    exact phase_of_step hstep ih

variable (connections) in
/-- What calls for clients promise in a state, and in every state after it. -/
structure Consistent (s : State ι) : Prop where
  /-- A base URL has at most one client. -/
  keys_nodup : s.registry.keys.Nodup
  /-- A client stands under its own base URL. -/
  key_eq : ∀ entry ∈ s.registry.entries, entry.1 = entry.2.client.baseUrl
  /-- A registered client is never removed or replaced. -/
  find?_stays : ∀ s', Reaches connections s s' → ∀ url handle,
    s.registry.find? url = some handle → s'.registry.find? url = some handle
  /-- What a call has returned is registered under its trimmed URL, then and ever after. -/
  registered : ∀ s', Reaches connections s s' → ∀ call handle,
    s.phase call = .returned (.ok handle) →
      s'.phase call = .returned (.ok handle) ∧
        s'.registry.find? (Connection.trimSlashes (connections call).url) = some handle
  /-- Calls whose URLs differ in slashes at the end only have returned one and the same handle, even
  if each of them has built a client. -/
  same : ∀ call other text m n handle handle',
    (connections call).url = text ++ String.ofList (List.replicate m '/') →
    (connections other).url = text ++ String.ofList (List.replicate n '/') →
    s.phase call = .returned (.ok handle) → s.phase other = .returned (.ok handle') →
      handle = handle'
  /-- A call whose build fails returns the error of the build and changes no entry. -/
  of_failure : ∀ s' call world error, step connections s (.build call world) = some s' →
    (Client.build world (connections call)).result = .error error →
      s'.phase call = .returned (.error error) ∧ s'.registry = s.registry
  /-- A call that has returned an error has got it from its build, and no entry is its own. -/
  of_error : ∀ call error, s.phase call = .returned (.error error) →
    (∃ world, (Client.build world (connections call)).result = .error error) ∧
      ∀ entry ∈ s.registry.entries, entry.2.builder ≠ call

/-- However many calls interleave, and however their steps do, what they promise holds. -/
theorem consistent_of_reaches {s : State ι} (hs : Reaches connections {} s) :
    Consistent connections s := by
  have hinv := Invariant.of_reaches hs
  constructor
  case keys_nodup => exact hinv.keys_nodup
  case key_eq => exact hinv.key_eq
  case find?_stays =>
    intro s' hs' url handle hfind
    exact find?_mono (entries_prefix_of_reaches hs') hfind
  case registered =>
    intro s' hs' call handle hcall
    have hcall' := phase_of_reaches hs' hcall
    exact ⟨hcall', (Invariant.of_reaches (hs.trans hs')).of_returned_ok call handle hcall'⟩
  case same =>
    intro call other text m n handle handle' hurl hurl' hcall hother
    -- Both have returned what is registered, and this under the same base URL.
    have hbase : (connections call).baseUrl = (connections other).baseUrl := by
      unfold Connection.baseUrl
      rw [hurl, hurl', Connection.trimSlashes_append_slashes, Connection.trimSlashes_append_slashes]
    have hfound := hinv.of_returned_ok call handle hcall
    rw [hbase, hinv.of_returned_ok other handle' hother] at hfound
    exact (Option.some.inj hfound).symm
  case of_failure =>
    intro s' call world error hstep hbuild
    obtain ⟨_, h, -, -⟩ | ⟨other, world', heq, -, rfl⟩ | ⟨_, _, h, -, -⟩ := step_cases hstep
    · cases h
    · cases heq
      rw [hbuild]
      exact ⟨State.phase_advance_self _ _ _, rfl⟩
    · cases h
  case of_error =>
    intro call error hcall
    refine ⟨hinv.of_returned_error call error hcall, ?_⟩
    intro entry hentry heq
    have hreturned := hinv.builder_returned entry hentry
    rw [heq, hcall] at hreturned
    cases hreturned

/-- An outside that never answers. -/
def silentWorld : World := .still (.nothing "timed out") 0

/-- Connections of two calls, whose URLs differ in a slash at the end. -/
def racing (second : Bool) : Connection where
  url := if second then "http://prom.test/" else "http://prom.test"
  nanPolicy := if second then .skip else .zero

/-- Both calls miss and build, and the second one offers first. -/
def race : List (Action Bool) :=
  [.lookUp false, .lookUp true, .build false silentWorld, .build true silentWorld, .offer true,
    .offer false]

/-- What comes of the race: the first call returns the client of the second one. -/
theorem consistent_of_race : ∃ s, Reaches racing {} s ∧ Consistent racing s ∧
    ∃ winner, winner.builder = true ∧ s.phase false = .returned (.ok winner) ∧
      s.phase true = .returned (.ok winner) := by
  have hrun : Reaches racing {} ((run racing {} race).get rfl) :=
    reaches_of_run (Option.some_get _).symm
  exact ⟨_, hrun, consistent_of_reaches hrun, _, rfl, rfl, rfl⟩

/-! ## A call on its own -/

/-- The registered clients, without the calls that built them. -/
def clients (registry : Registry (Handle ι)) : Registry where
  entries := registry.entries.map fun entry => (entry.1, entry.2.client)

omit [DecidableEq ι] in
/-- The client of an entry is that of its handle. -/
theorem find?_clients (registry : Registry (Handle ι)) (url : String) :
    (clients registry).find? url = (registry.find? url).map Handle.client := by
  obtain ⟨entries⟩ := registry
  unfold clients find?
  induction entries with
  | nil => rfl
  | cons entry rest ih =>
    rw [List.map_cons, List.lookup_cons, List.lookup_cons]
    cases h : url == entry.1 with
    | true => rfl
    | false => exact ih

omit [DecidableEq ι] in
/-- Inserting a handle inserts its client. -/
theorem clients_insertIfAbsent (registry : Registry (Handle ι)) (url : String)
    (handle : Handle ι) : clients (registry.insertIfAbsent url handle) =
      (clients registry).insertIfAbsent url handle.client := by
  have hclients := find?_clients registry url
  cases h : registry.find? url with
  | some found =>
    rw [h] at hclients
    rw [insertIfAbsent_of_find?_eq_some h, insertIfAbsent_of_find?_eq_some hclients]
  | none =>
    rw [h] at hclients
    have hentries : (clients (registry.insertIfAbsent url handle)).entries =
        ((clients registry).insertIfAbsent url handle.client).entries := by
      rw [entries_insertIfAbsent_of_find?_eq_none hclients]
      unfold clients
      rw [entries_insertIfAbsent_of_find?_eq_none h, List.map_append]
      rfl
    exact congrArg Registry.mk hentries

/-- A call that finds a client returns it. -/
theorem step_lookUp_of_find?_eq_some {s : State ι} {call : ι} {handle : Handle ι}
    (hcall : s.phase call = .called)
    (hfind : s.registry.find? (connections call).baseUrl = some handle) :
    step connections s (.lookUp call) = some (s.advance call (.returned (.ok handle))) := by
  simp only [step, hcall, hfind]
  rfl

/-- A call that finds no client has to build one. -/
theorem step_lookUp_of_find?_eq_none {s : State ι} {call : ι} (hcall : s.phase call = .called)
    (hfind : s.registry.find? (connections call).baseUrl = none) :
    step connections s (.lookUp call) = some (s.advance call .missed) := by
  simp only [step, hcall, hfind]
  rfl

/-- A call that builds a client holds it as its own. -/
theorem step_build_of_ok {s : State ι} {call : ι} {world : World} {client : Client}
    (hcall : s.phase call = .missed)
    (hbuild : (Client.build world (connections call)).result = .ok client) :
    step connections s (.build call world) = some (s.advance call (.built ⟨client, call⟩)) := by
  simp only [step, hcall, hbuild]
  rfl

/-- A call that cannot build a client returns the error. -/
theorem step_build_of_error {s : State ι} {call : ι} {world : World} {error : Error}
    (hcall : s.phase call = .missed)
    (hbuild : (Client.build world (connections call)).result = .error error) :
    step connections s (.build call world) = some (s.advance call (.returned (.error error))) := by
  simp only [step, hcall, hbuild]
  rfl

variable (connections) in
/-- A call that has built a client offers it. -/
theorem step_offer_of_built {s : State ι} {call : ι} {handle : Handle ι}
    (hcall : s.phase call = .built handle) :
    step connections s (.offer call) = some (s.offer call (connections call).baseUrl handle) := by
  simp only [step, hcall]

/-- The steps of one call that no other call interrupts are `obtain`: the same clients are
registered in the end, and the call returns what `obtain` gives. -/
theorem exists_alone (s : State ι) {call : ι} (hcall : s.phase call = .called) (world : World) :
    ∃ s', Reaches connections s s' ∧ (∀ other, other ≠ call → s'.phase other = s.phase other) ∧
      clients s'.registry = ((clients s.registry).obtain world (connections call)).registry ∧
      ∃ result, s'.phase call = .returned result ∧ result.map Handle.client =
        ((clients s.registry).obtain world (connections call)).exchange.result := by
  have hclients := find?_clients s.registry (connections call).baseUrl
  cases hfind : s.registry.find? (connections call).baseUrl with
  | some found =>
    rw [hfind] at hclients
    have hfound := step_lookUp_of_find?_eq_some hcall hfind
    rw [obtain_of_find?_eq_some hclients]
    exact ⟨_, .single ⟨_, hfound⟩, fun other hne => State.phase_advance_of_ne _ hne _, rfl, _,
      State.phase_advance_self _ _ _, rfl⟩
  | none =>
    rw [hfind] at hclients
    have hmissed := step_lookUp_of_find?_eq_none hcall hfind
    rw [exchange_obtain_of_find?_eq_none hclients]
    -- The call misses, builds and offers, as far as the build does not fail.
    cases hresult : (Client.build world (connections call)).result with
    | error error =>
      have hfailed := step_build_of_error (s.phase_advance_self call .missed) hresult
      rw [registry_obtain_of_error hclients hresult]
      refine ⟨_, .tail (.single ⟨_, hmissed⟩) ⟨_, hfailed⟩, ?_, rfl, _,
        State.phase_advance_self _ _ _, rfl⟩
      intro other hne
      rw [State.phase_advance_of_ne _ hne, State.phase_advance_of_ne _ hne]
    | ok client =>
      have hbuilt := step_build_of_ok (s.phase_advance_self call .missed) hresult
      have hoffered := step_offer_of_built connections
        ((s.advance call .missed).phase_advance_self call (.built ⟨client, call⟩))
      rw [registry_obtain_of_ok hclients hresult]
      refine ⟨_, .tail (.tail (.single ⟨_, hmissed⟩) ⟨_, hbuilt⟩) ⟨_, hoffered⟩, ?_,
        clients_insertIfAbsent _ _ _, _, State.phase_offer_self _ _ _ _, ?_⟩
      · intro other hne
        rw [State.phase_offer_of_ne _ hne, State.phase_advance_of_ne _ hne,
          State.phase_advance_of_ne _ hne]
      · -- Nothing was registered meanwhile, so the call gets its own client back.
        rw [State.registry_advance, State.registry_advance, clientAfter_eq, hfind]
        rfl

end Registry.Interleaving

end MetricGateway
