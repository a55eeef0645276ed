import MetricGateway.Proofs.Credentials.Granting
import MetricGateway.Proofs.Success

/-!
# How credentials are resolved

Settings that give a key, a secret and a token are credentials themselves. All others name a role to
assume, and the token service is asked for it by the keys of the settings, if these give both, or
else by whom the environment names (`resolves`). A key without the other one and a token without
keys are of no use, and an empty text is as good as none.

Only the source of the keys depends on how the settings give them. From it on, settings that are not
complete all go the way of `assumeRole`, with a caller or without one (`exists_assumeRole`). The
same request is made again while that may help (`persist_eq`), and what the token service replies at
the end decides alone (`Asked`).
-/

namespace MetricGateway

/-! ## What settings give -/

namespace AwsSettings

/-- A setting gives a text that is not empty. -/
def Gives (setting : Option String) (text : String) : Prop := setting = some text ∧ text ≠ ""

/-- A setting gives nothing: it is absent or empty. -/
def IsMissing (setting : Option String) : Prop := setting = none ∨ setting = some ""

/-- Two settings are the same, or both give nothing. -/
def GiveAlike (setting other : Option String) : Prop :=
  setting = other ∨ IsMissing setting ∧ IsMissing other

/-- The settings give a key and its secret. -/
def HasKeys (aws : AwsSettings) : Prop :=
  (∃ id, Gives aws.accessKeyId id) ∧ ∃ secret, Gives aws.secretAccessKey secret

/-- The settings give a key, its secret and the token of a session. -/
def IsComplete (aws : AwsSettings) : Prop := aws.HasKeys ∧ ∃ token, Gives aws.sessionToken token

/-- Settings that differ in the way of saying nothing at most. -/
structure Alike (aws other : AwsSettings) : Prop where
  roleArn : GiveAlike aws.roleArn other.roleArn
  accessKeyId : GiveAlike aws.accessKeyId other.accessKeyId
  secretAccessKey : GiveAlike aws.secretAccessKey other.secretAccessKey
  sessionToken : GiveAlike aws.sessionToken other.sessionToken
  externalId : aws.externalId = other.externalId
  regionName : aws.regionName = other.regionName
  roleSessionName : aws.roleSessionName = other.roleSessionName

end AwsSettings

section

variable {setting other : Option String} {text : String}

open AwsSettings

/-- A setting gives a text if there is one that is not empty. -/
theorem nonEmpty_eq_some_iff : nonEmpty setting = some text ↔ Gives setting text := by
  simp [nonEmpty, Gives, Option.filter_eq_some_iff]

/-- A setting is missing if there is none, or an empty one. -/
theorem nonEmpty_eq_none_iff : nonEmpty setting = none ↔ IsMissing setting := by
  cases setting with
  | none => exact iff_of_true rfl (.inl rfl)
  | some text => simp [nonEmpty, IsMissing]

/-- A setting gives a text or nothing. -/
theorem isMissing_iff : IsMissing setting ↔ ∀ text, ¬Gives setting text := by
  rw [← nonEmpty_eq_none_iff, Option.eq_none_iff_forall_ne_some]
  exact forall_congr' fun text => not_congr nonEmpty_eq_some_iff

/-- Settings that give alike are read alike. -/
theorem nonEmpty_congr (h : GiveAlike setting other) : nonEmpty setting = nonEmpty other := by
  obtain rfl | ⟨hsetting, hother⟩ := h
  · rfl
  · rw [nonEmpty_eq_none_iff.2 hsetting, nonEmpty_eq_none_iff.2 hother]

end

/-! ## Who asks for a role -/

/-- Who asks for a role, if anybody, and how often again: the keys that settings give, if they give
both, and otherwise whom the default chain finds. -/
def CallsAs (world : World) (aws : AwsSettings) (caller : Option Credentials) (repetitions : Nat) :
    Prop :=
  (∃ id secret,
    AwsSettings.Gives aws.accessKeyId id ∧ AwsSettings.Gives aws.secretAccessKey secret ∧
      caller = some { accessKeyId := id, secretAccessKey := secret } ∧ repetitions = 49) ∨
    ¬aws.HasKeys ∧ caller = world.chain ∧ repetitions = 2

/-- The request for a role. -/
def roleRequest (world : World) (aws : AwsSettings) (role : String) (caller : Credentials) :
    TokenRequest where
  caller := caller
  role := role
  sessionName := aws.roleSessionName
  externalId := aws.externalId
  region := aws.regionName
  seconds := world.seconds

section

variable {world : World} {aws other : AwsSettings} {id secret token role : String}
  {repetitions : Nat} {caller : Option Credentials}

open AwsSettings

/-- With both keys and a token, all three are taken as they are. -/
theorem source_of_gives (hid : Gives aws.accessKeyId id)
    (hsecret : Gives aws.secretAccessKey secret)
    (htoken : Gives aws.sessionToken token) : aws.source = .session id secret token := by
  unfold source
  rw [nonEmpty_eq_some_iff.2 hid, nonEmpty_eq_some_iff.2 hsecret, nonEmpty_eq_some_iff.2 htoken]

/-- With both keys and no token, a role is assumed with the keys. -/
theorem source_of_isMissing_token (hid : Gives aws.accessKeyId id)
    (hsecret : Gives aws.secretAccessKey secret) (htoken : IsMissing aws.sessionToken) :
    aws.source = .roleWithKeys id secret := by
  unfold source
  rw [nonEmpty_eq_some_iff.2 hid, nonEmpty_eq_some_iff.2 hsecret, nonEmpty_eq_none_iff.2 htoken]

/-- Without both keys, a role is assumed with what the surroundings give. -/
theorem source_of_not_hasKeys (h : ¬aws.HasKeys) : aws.source = .roleWithAmbientKeys := by
  unfold source
  split
  · next hid hsecret _ =>
    exact absurd ⟨⟨_, nonEmpty_eq_some_iff.1 hid⟩, _, nonEmpty_eq_some_iff.1 hsecret⟩ h
  · next hid hsecret _ =>
    exact absurd ⟨⟨_, nonEmpty_eq_some_iff.1 hid⟩, _, nonEmpty_eq_some_iff.1 hsecret⟩ h
  · rfl

/-- Settings that are not complete lead to a role, with the keys of a caller. -/
theorem exists_assumeRole (world : World) (h : ¬aws.IsComplete) :
    ∃ repetitions caller, CallsAs world aws caller repetitions ∧
      resolveCredentials world aws = assumeRole world aws repetitions caller := by
  unfold resolveCredentials
  by_cases hkeys : aws.HasKeys
  · -- With both keys it can only be the token that is missing.
    obtain ⟨⟨id, hid⟩, secret, hsecret⟩ := id hkeys
    have htoken : IsMissing aws.sessionToken :=
      isMissing_iff.2 fun token htoken => h ⟨hkeys, token, htoken⟩
    rw [source_of_isMissing_token hid hsecret htoken]
    exact ⟨repetitionsWithKeys, _, .inl ⟨id, secret, hid, hsecret, rfl, rfl⟩, rfl⟩
  · rw [source_of_not_hasKeys hkeys]
    exact ⟨repetitionsWithChain, _, .inr ⟨hkeys, rfl, rfl⟩, rfl⟩

/-- Without a role, nothing is asked for. -/
theorem assumeRole_of_isMissing (h : IsMissing aws.roleArn) :
    assumeRole world aws repetitions caller = .ofResult (.error (.configuration .noRole)) := by
  unfold assumeRole
  rw [nonEmpty_eq_none_iff.2 h]

/-- Without a caller, nothing is asked for either. -/
theorem assumeRole_none (h : Gives aws.roleArn role) :
    assumeRole world aws repetitions none = .ofResult (.error (.credential .noIdentity)) := by
  unfold assumeRole
  rw [nonEmpty_eq_some_iff.2 h]

/-- With a role and a caller, the role is asked for. -/
theorem assumeRole_some (h : Gives aws.roleArn role) (caller : Credentials) :
    assumeRole world aws repetitions (some caller) =
      askForRole world repetitions (roleRequest world aws role caller) := by
  unfold assumeRole
  rw [nonEmpty_eq_some_iff.2 h]
  rfl

/-- Only what settings give counts. -/
theorem resolveCredentials_congr (h : aws.Alike other) :
    resolveCredentials world other = resolveCredentials world aws := by
  have hsource : other.source = aws.source := by
    unfold source
    rw [nonEmpty_congr h.accessKeyId, nonEmpty_congr h.secretAccessKey,
      nonEmpty_congr h.sessionToken]
  -- The role counts apart from the keys, whoever the caller is.
  have hassume (repetitions : Nat) (caller : Option Credentials) :
      assumeRole world other repetitions caller = assumeRole world aws repetitions caller := by
    unfold assumeRole
    rw [nonEmpty_congr h.roleArn, h.externalId, h.regionName, h.roleSessionName]
  unfold resolveCredentials
  rw [hsource]
  simp only [hassume]

/-- A key alone and a token without keys are of no use. -/
theorem resolveCredentials_of_not_hasKeys (h : ¬aws.HasKeys) :
    resolveCredentials world
        { aws with accessKeyId := none, secretAccessKey := none, sessionToken := none } =
      resolveCredentials world aws := by
  have hnone : ¬HasKeys { aws with
      accessKeyId := none, secretAccessKey := none, sessionToken := none } :=
    fun hkeys => nomatch hkeys.1
  unfold resolveCredentials
  rw [source_of_not_hasKeys h, source_of_not_hasKeys hnone]
  rfl

end

/-! ## What the token service grants -/

/-- A reply of the token service is a success whose body is read as this. -/
def TokenReply.Says (reply : TokenReply) (grant : Grant) : Prop :=
  isSuccess reply.status = true ∧ Grant.ofBody reply.body = grant

/-- What comes of a request to the token service that is made again as long as the replies, before a
last one, let hope for more. -/
structure Asked (world : World) (repetitions : Nat) (request : TokenRequest)
    (exchange : Exchange Credentials) (last : Nat) : Prop where
  /-- Nobody else is asked, and nothing else. -/
  requests : exchange.requests = List.replicate (last + 1) (.token request)
  /-- Before the last time, the replies were such that asking again might help. -/
  repeated : ∀ time < last, isRepeated (world.tokenService request time) = true
  /-- The last reply is not, or it has been asked for often enough. -/
  settled : last = repetitions ∨
    last < repetitions ∧ isRepeated (world.tokenService request last) = false
  /-- The credentials are those that a successful reply is read as. -/
  ok_iff : ∀ credentials, exchange.result = .ok credentials ↔
    ∃ reply, world.tokenService request last = some reply ∧ reply.Says (.credentials credentials)
  /-- It may be read as holding none. -/
  noCredentials_iff : exchange.result = .error (.credential (.noCredentials request.role)) ↔
    ∃ reply, world.tokenService request last = some reply ∧ reply.Says .nothing
  /-- There may be no reply, or one that is no success or cannot be read. -/
  refused_iff : exchange.result = .error (.credential .refused) ↔
    ∀ reply, world.tokenService request last = some reply →
      isSuccess reply.status = false ∨ Grant.ofBody reply.body = .malformed
  /-- Credentials are read as they are written, text for text. -/
  ok_of_written : ∀ reply credentials, world.tokenService request last = some reply →
    isSuccess reply.status = true → Grant.Written reply.body (.credentials credentials) →
    exchange.result = .ok credentials
  /-- None come of a reply in which none are written. -/
  noCredentials_of_written : ∀ reply, world.tokenService request last = some reply →
    isSuccess reply.status = true → Grant.Written reply.body .nothing →
    exchange.result = .error (.credential (.noCredentials request.role))

namespace TokenReply

variable {reply : TokenReply} {role : String}

/-- A reply gives credentials if and only if it says them. -/
theorem credentials_eq_ok_iff {credentials : Credentials} :
    reply.credentials role = .ok credentials ↔ reply.Says (.credentials credentials) := by
  unfold TokenReply.credentials Says
  cases isSuccess reply.status <;> cases Grant.ofBody reply.body <;> simp

/-- A reply gives none if and only if it says nothing. -/
theorem credentials_eq_noCredentials_iff :
    reply.credentials role = .error (.credential (.noCredentials role)) ↔ reply.Says .nothing := by
  unfold TokenReply.credentials Says
  cases isSuccess reply.status <;> cases Grant.ofBody reply.body <;> simp

/-- A reply is refused if its status is no success, or if its body cannot be read. -/
theorem credentials_eq_refused_iff : reply.credentials role = .error (.credential .refused) ↔
    isSuccess reply.status = false ∨ Grant.ofBody reply.body = .malformed := by
  unfold TokenReply.credentials
  cases isSuccess reply.status <;> cases Grant.ofBody reply.body <;> simp

end TokenReply

section

variable {world : World}

/-- Asking again and again comes to an end at the first reply that is final, or when it has been
done often enough. The induction is on how often it may still be done. -/
theorem persist_eq (answer : Nat → Option TokenReply) (left asked : Nat) :
    ∃ more, persist answer left asked = (answer (asked + more), asked + more + 1) ∧
      (∀ time < more, isRepeated (answer (asked + time)) = true) ∧
      (more = left ∨ more < left ∧ isRepeated (answer (asked + more)) = false) := by
  -- The induction is on the repetitions that are left; `asked` counts those made.
  induction left generalizing asked with
  | zero => exact ⟨0, rfl, fun _ h => absurd h (Nat.not_lt_zero _), .inl rfl⟩
  | succ left ih =>
    unfold persist
    cases hrepeated : isRepeated (answer asked) with
    | false => exact ⟨0, rfl, fun _ h => absurd h (Nat.not_lt_zero _),
        .inr ⟨left.succ_pos, hrepeated⟩⟩
    | true =>
      obtain ⟨more, heq, hbefore, hend⟩ := ih (asked + 1)
      have hnext (time : Nat) : asked + 1 + time = asked + (time + 1) := by omega
      simp only [hnext] at heq hbefore hend
      refine ⟨more + 1, heq, fun time htime => ?_, hend.imp (congrArg (· + 1)) ?_⟩
      · cases time with
        | zero => exact hrepeated
        | succ time => exact hbefore time (Nat.lt_of_succ_lt_succ htime)
      · exact And.imp_left Nat.succ_lt_succ

/-- The token service is asked for a role time after time, and the last reply counts. -/
theorem exists_askForRole_eq (world : World) (repetitions : Nat) (request : TokenRequest) :
    ∃ last,
      askForRole world repetitions request = {
        result := granted request.role (world.tokenService request last)
        requests := List.replicate (last + 1) (.token request) } ∧
      (∀ time < last, isRepeated (world.tokenService request time) = true) ∧
      (last = repetitions ∨
        last < repetitions ∧ isRepeated (world.tokenService request last) = false) := by
  obtain ⟨last, heq, hbefore, hend⟩ := persist_eq (world.tokenService request) repetitions 0
  simp only [Nat.zero_add] at heq hbefore hend
  refine ⟨last, ?_, hbefore, hend⟩
  unfold askForRole
  rw [heq]

/-- What comes of it that the token service is asked for a role. -/
theorem exists_asked_askForRole (world : World) (repetitions : Nat) (request : TokenRequest) :
    ∃ last, Asked world repetitions request (askForRole world repetitions request) last := by
  obtain ⟨last, hask, hbefore, hend⟩ := exists_askForRole_eq world repetitions request
  have hrequests := congrArg Exchange.requests hask
  have hresult := congrArg Exchange.result hask
  unfold granted at hresult
  refine ⟨last, ?_⟩
  -- The last reply settles the result.
  cases hreply : world.tokenService request last with
  | none =>
    rw [hreply] at hresult
    exact {
      requests := hrequests
      repeated := hbefore
      settled := hend
      ok_iff := by simp [hresult, hreply]
      noCredentials_iff := by simp [hresult, hreply]
      refused_iff := by simp [hresult, hreply]
      ok_of_written := by simp [hreply]
      noCredentials_of_written := by simp [hreply] }
  | some reply =>
    rw [hreply] at hresult
    exact {
      requests := hrequests
      repeated := hbefore
      settled := hend
      ok_iff := by simp [hresult, hreply, TokenReply.credentials_eq_ok_iff]
      noCredentials_iff := by simp [hresult, hreply, TokenReply.credentials_eq_noCredentials_iff]
      refused_iff := by simp [hresult, hreply, TokenReply.credentials_eq_refused_iff]
      ok_of_written := by
        intro other credentials hother hsuccess hwritten
        cases hreply.symm.trans hother
        rw [hresult]
        exact TokenReply.credentials_eq_ok_iff.2 ⟨hsuccess, Grant.ofBody_of_written hwritten⟩
      noCredentials_of_written := by
        intro other hother hsuccess hwritten
        cases hreply.symm.trans hother
        rw [hresult]
        exact TokenReply.credentials_eq_noCredentials_iff.2
          ⟨hsuccess, Grant.ofBody_of_written hwritten⟩ }

end

/-- Credentials come of it, or one of two errors. -/
theorem Asked.result {world : World} {repetitions : Nat} {request : TokenRequest}
    {exchange : Exchange Credentials} {last : Nat}
    (h : Asked world repetitions request exchange last) :
    (∃ credentials, exchange.result = .ok credentials) ∨
      exchange.result = .error (.credential (.noCredentials request.role)) ∨
      exchange.result = .error (.credential .refused) := by
  by_cases hrefused : ∀ reply, world.tokenService request last = some reply →
      isSuccess reply.status = false ∨ Grant.ofBody reply.body = .malformed
  · exact .inr (.inr (h.refused_iff.2 hrefused))
  · push Not at hrefused
    obtain ⟨reply, hreply, hstatus, hbody⟩ := hrefused
    have hsuccess : isSuccess reply.status = true := by simpa using hstatus
    cases hgrant : Grant.ofBody reply.body with
    | malformed => exact absurd hgrant hbody
    | nothing => exact .inr (.inl (h.noCredentials_iff.2 ⟨reply, hreply, hsuccess, hgrant⟩))
    | credentials credentials =>
      exact .inl ⟨credentials, (h.ok_iff credentials).2 ⟨reply, hreply, hsuccess, hgrant⟩⟩

/-! ## How settings resolve -/

/-- What comes of it that a role is assumed by the caller, if there is one. -/
def Assumes (world : World) (aws : AwsSettings) (role : String) (exchange : Exchange Credentials) :
    Prop :=
  ∃ caller? repetitions, CallsAs world aws caller? repetitions ∧
    match caller? with
    | some caller =>
      ∃ last, Asked world repetitions (roleRequest world aws role caller) exchange last
    | none => exchange = .ofResult (.error (.credential .noIdentity))

/-- What comes of settings, with the requests that are sent for it. -/
structure Resolves (world : World) (aws : AwsSettings) (exchange : Exchange Credentials) : Prop
    where
  /-- Credentials come of the settings alone if and only if these are complete. Every part is what
  it was then. -/
  session_iff : ∀ credentials, exchange.result = .ok credentials ∧ exchange.requests = [] ↔
    ∃ id secret token, AwsSettings.Gives aws.accessKeyId id ∧
      AwsSettings.Gives aws.secretAccessKey secret ∧ AwsSettings.Gives aws.sessionToken token ∧
      credentials = { accessKeyId := id, secretAccessKey := secret, sessionToken := some token }
  /-- The settings are at fault if and only if they are not complete and name no role. -/
  configuration_iff : ∀ error, exchange.result = .error (.configuration error) ↔
    ¬aws.IsComplete ∧ AwsSettings.IsMissing aws.roleArn ∧ error = .noRole
  /-- Nobody is asked then. -/
  requests_of_configuration : ∀ error, exchange.result = .error (.configuration error) →
    exchange.requests = []
  /-- The role that other settings name is assumed. -/
  role : ¬aws.IsComplete → ∀ role, AwsSettings.Gives aws.roleArn role →
    Assumes world aws role exchange
  /-- A key alone and a token without keys are of no use. -/
  unpaired : ¬aws.HasKeys → resolveCredentials world
    { aws with accessKeyId := none, secretAccessKey := none, sessionToken := none } = exchange
  /-- An empty text is as good as none. -/
  alike : ∀ other, aws.Alike other → resolveCredentials world other = exchange

section

variable {world : World} {aws : AwsSettings} {role : String} {exchange : Exchange Credentials}

open AwsSettings

/-- A role that is asked for does not fail for want of settings. -/
theorem Assumes.result_ne_configuration (h : Assumes world aws role exchange)
    (error : ConfigurationError) : exchange.result ≠ .error (.configuration error) := by
  intro herror
  obtain ⟨_ | caller, repetitions, -, hexchange⟩ := h
  · rw [hexchange] at herror
    cases herror
  · obtain ⟨last, hasked⟩ := hexchange
    obtain ⟨credentials, hresult⟩ | hresult | hresult := Asked.result hasked <;>
    · rw [hresult] at herror
      cases herror

/-- No credentials come of it before the token service is asked. -/
theorem Assumes.requests_ne_nil (h : Assumes world aws role exchange) {credentials : Credentials}
    (hresult : exchange.result = .ok credentials) : exchange.requests ≠ [] := by
  obtain ⟨_ | caller, repetitions, -, hexchange⟩ := h
  · rw [hexchange] at hresult
    cases hresult
  · obtain ⟨last, hasked⟩ := hexchange
    rw [hasked.requests]
    exact List.cons_ne_nil _ _

/-- Without a role and without all three of keys and token, the settings are at fault. -/
theorem resolveCredentials_of_isMissing (world : World) (h : ¬aws.IsComplete)
    (hrole : IsMissing aws.roleArn) :
    resolveCredentials world aws = .ofResult (.error (.configuration .noRole)) := by
  obtain ⟨repetitions, caller?, -, hexchange⟩ := exists_assumeRole world h
  rw [hexchange, assumeRole_of_isMissing hrole]

/-- With a role, and without all three, the role is assumed. -/
theorem assumes_resolveCredentials (world : World) (h : ¬aws.IsComplete)
    (hrole : Gives aws.roleArn role) : Assumes world aws role (resolveCredentials world aws) := by
  obtain ⟨repetitions, caller?, hcaller, hexchange⟩ := exists_assumeRole world h
  refine ⟨caller?, repetitions, hcaller, ?_⟩
  cases caller? with
  | none => exact hexchange.trans (assumeRole_none hrole)
  | some caller =>
    rw [hexchange, assumeRole_some hrole]
    exact exists_asked_askForRole world repetitions _

/-- Credentials come of incomplete settings only when the token service is asked. -/
theorem requests_ne_nil_of_not_isComplete (h : ¬aws.IsComplete) {credentials : Credentials}
    (hresult : (resolveCredentials world aws).result = .ok credentials) :
    (resolveCredentials world aws).requests ≠ [] := by
  by_cases hrole : IsMissing aws.roleArn
  · rw [resolveCredentials_of_isMissing world h hrole] at hresult
    cases hresult
  · simp only [isMissing_iff, not_forall, not_not] at hrole
    obtain ⟨role, hrole⟩ := hrole
    exact (assumes_resolveCredentials world h hrole).requests_ne_nil hresult

/-- All three of keys and token are the credentials. -/
theorem resolveCredentials_of_gives (world : World) {id secret token : String}
    (hid : Gives aws.accessKeyId id) (hsecret : Gives aws.secretAccessKey secret)
    (htoken : Gives aws.sessionToken token) :
    resolveCredentials world aws = .ofResult (.ok
      { accessKeyId := id, secretAccessKey := secret, sessionToken := some token }) := by
  unfold resolveCredentials
  rw [source_of_gives hid hsecret htoken]

/-- Credentials come without a request if and only if settings give both keys and a token. -/
theorem resolveCredentials_session_iff (credentials : Credentials) :
    (resolveCredentials world aws).result = .ok credentials ∧
        (resolveCredentials world aws).requests = [] ↔
      ∃ id secret token, Gives aws.accessKeyId id ∧ Gives aws.secretAccessKey secret ∧
        Gives aws.sessionToken token ∧
        credentials =
          { accessKeyId := id, secretAccessKey := secret, sessionToken := some token } := by
  constructor
  · rintro ⟨hresult, hrequests⟩
    have hcomplete : aws.IsComplete :=
      by_contra fun h => requests_ne_nil_of_not_isComplete h hresult hrequests
    obtain ⟨⟨⟨id, hid⟩, secret, hsecret⟩, token, htoken⟩ := hcomplete
    rw [resolveCredentials_of_gives world hid hsecret htoken] at hresult
    cases hresult
    exact ⟨id, secret, token, hid, hsecret, htoken, rfl⟩
  · rintro ⟨id, secret, token, hid, hsecret, htoken, rfl⟩
    rw [resolveCredentials_of_gives world hid hsecret htoken]
    exact ⟨rfl, rfl⟩

/-- The settings are at fault if and only if they are not complete and name no role. -/
theorem resolveCredentials_configuration_iff (error : ConfigurationError) :
    (resolveCredentials world aws).result = .error (.configuration error) ↔
      ¬aws.IsComplete ∧ IsMissing aws.roleArn ∧ error = .noRole := by
  constructor
  · intro herror
    have hcomplete : ¬aws.IsComplete := by
      rintro ⟨⟨⟨id, hid⟩, secret, hsecret⟩, token, htoken⟩
      rw [resolveCredentials_of_gives world hid hsecret htoken] at herror
      cases herror
    have hrole : IsMissing aws.roleArn := isMissing_iff.2 fun role hrole =>
      (assumes_resolveCredentials world hcomplete hrole).result_ne_configuration error herror
    rw [resolveCredentials_of_isMissing world hcomplete hrole] at herror
    cases herror
    exact ⟨hcomplete, hrole, rfl⟩
  · rintro ⟨hcomplete, hrole, rfl⟩
    rw [resolveCredentials_of_isMissing world hcomplete hrole]
    rfl

end

end MetricGateway
