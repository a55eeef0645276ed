import MetricGateway.Proofs.Url.Host
import MetricGateway.Signing.Signature

/-!
# Which signatures can be sent

A signature stands in headers, and so do the name of the key, the region and the token of the
session. All else that a signature is made of can stand in a header anyway, so a signer can sign
requests that can be sent if and only if these three can (`Signer.signs_iff`).
-/

namespace MetricGateway

open Text

/-! ## Texts in headers -/

/-- Whether a character can stand in the value of a header. -/
def Header.isValueChar (c : Char) : Bool := (0x20 ≤ c.toNat && c.toNat ≠ 0x7F) || c = '\t'

/-- A text can be the value of a header if all its characters can stand there. -/
theorem Header.isValue_iff {text : String} :
    isValue text = true ↔ ∀ c ∈ text.toList, isValueChar c = true := List.all_eq_true

/-- Texts can stand in a header one behind the other if and only if each of them can. -/
theorem Header.isValue_append (text more : String) :
    isValue (text ++ more) = (isValue text && isValue more) := by
  unfold isValue
  rw [String.toList_append, List.all_append]

/-- Digits can stand in a header. -/
theorem isValueChar_digitChar {d : Nat} (h : d < 16) :
    Header.isValueChar (Nat.digitChar d) = true ∧ Header.isValueChar (lowerHexDigit d) = true := by
  revert d
  decide

/-- A padded number can stand in a header. -/
theorem isValue_padded (width n : Nat) : Header.isValue (Time.padded width n) = true := by
  rw [Header.isValue_iff]
  intro c hc
  unfold Time.padded padZeros at hc
  rw [String.toList_ofList, List.mem_append] at hc
  rcases hc with hc | hc
  · rw [(List.mem_replicate.1 hc).2]
    rfl
  · obtain ⟨d, hd, rfl⟩ := exists_of_mem_toDigits (by decide) hc
    exact (isValueChar_digitChar (by omega)).1

/-- Digits of bytes can stand in a header. -/
theorem isValue_hexOf (bytes : Bytes) : Header.isValue (hexOf bytes) = true := by
  rw [Header.isValue_iff]
  intro c hc
  unfold hexOf at hc
  rw [String.toList_ofList] at hc
  obtain ⟨b, -, hc⟩ := List.mem_flatMap.1 hc
  have hb := b.toNat_lt
  rcases List.mem_cons.1 hc with rfl | hc
  · exact (isValueChar_digitChar (by omega)).2
  · rw [List.mem_singleton.1 hc]
    exact (isValueChar_digitChar (by omega)).2

/-- A date and a time of day can stand in a header. -/
theorem isValue_compact (time : Time.DateTime) :
    Header.isValue time.compactDate = true ∧ Header.isValue time.compact = true := by
  have hdate : Header.isValue time.compactDate = true := by
    unfold Time.DateTime.compactDate
    simp only [Header.isValue_append, isValue_padded, Bool.and_self]
  refine ⟨hdate, ?_⟩
  unfold Time.DateTime.compact
  simp only [Header.isValue_append, hdate, isValue_padded, Bool.true_and, Bool.and_true]
  decide

namespace Signing

variable (credentials : Credentials) (scope : Scope)

/-- The names of the signed headers can stand in a header. -/
theorem isValue_headerNames (target : Target) :
    Header.isValue (headerNames (signedHeaders credentials scope target)) = true := by
  unfold headerNames signedHeaders tokenHeaders
  cases credentials.sessionToken with
  | none =>
    change Header.isValue (";".intercalate ["host", "x-amz-date"]) = true
    decide +kernel
  | some token =>
    change Header.isValue (";".intercalate ["host", "x-amz-date", "x-amz-security-token"]) = true
    decide +kernel

/-- A scope can stand in a header if its region and its service can. -/
theorem isValue_scopeText :
    Header.isValue scope.text = (Header.isValue scope.region && Header.isValue scope.service) := by
  have hslash : Header.isValue "/" = true := rfl
  have hterminator : Header.isValue terminator = true := by decide
  unfold Scope.text Scope.parts
  simp only [String.intercalate_cons_cons, String.intercalate_singleton, Header.isValue_append,
    (isValue_compact scope.time).1, hslash, hterminator, Bool.true_and, Bool.and_true]

/-- Of what an authorization is made of, only the name of the key, the region and the service may be
unable to stand in a header. -/
theorem isValue_authorization (method : String) (target : Target) :
    Header.isValue (authorization credentials scope method target).value =
      (Header.isValue credentials.accessKeyId &&
        (Header.isValue scope.region && Header.isValue scope.service)) := by
  have halgorithm : Header.isValue algorithm = true := by decide
  have hcredential : Header.isValue " Credential=" = true := by decide
  have hslash : Header.isValue "/" = true := by decide
  have hsigned : Header.isValue ", SignedHeaders=" = true := by decide
  have hsignature : Header.isValue ", Signature=" = true := by decide
  have hhex (request : String) :
      Header.isValue (signature credentials.secretAccessKey scope request) = true :=
    isValue_hexOf _
  unfold authorization credentialText
  simp only [Header.isValue_append, isValue_headerNames, isValue_scopeText, halgorithm, hcredential,
    hslash, hsigned, hsignature, hhex, Bool.true_and, Bool.and_true]

end Signing

namespace Signer

variable {signer : Signer} {seconds : Nat} {method url : String} {headers : List Header}

/-- A signer gives headers if and only if signing does. -/
theorem sign_eq_ok_iff :
    signer.sign seconds method url = .ok headers ↔
      Signing.sign? signer.credentials (signer.scope seconds) method url = some headers := by
  unfold sign
  cases Signing.sign? signer.credentials (signer.scope seconds) method url with
  | none => exact ⟨nofun, nofun⟩
  | some signed => rw [Except.ok.injEq, Option.some.injEq]

/-- Whatever keeps a signer from signing, the error is the same. -/
theorem sign_eq_error (h : ∀ headers, signer.sign seconds method url ≠ .ok headers) :
    signer.sign seconds method url = .error .signing := by
  unfold sign at h ⊢
  cases hsigned : Signing.sign? signer.credentials (signer.scope seconds) method url with
  | none => rfl
  | some signed =>
    rw [hsigned] at h
    exact absurd rfl (h signed)

/-- What a signer signs with can stand in headers. -/
structure IsLegal (signer : Signer) : Prop where
  accessKeyId : Header.isValue signer.credentials.accessKeyId = true
  region : Header.isValue signer.region = true
  sessionToken : ∀ token, signer.credentials.sessionToken = some token →
    Header.isValue token = true

/-- A request to a target can be signed with headers that can be sent if and only if what the signer
signs with can stand in headers. -/
theorem signs_iff (htarget : (Signing.Target.ofUrl url).isSome) :
    (∃ headers, signer.sign seconds method url = .ok headers ∧
      ∀ header ∈ headers, Header.isValue header.value = true) ↔ signer.IsLegal := by
  obtain ⟨target, htarget⟩ := Option.isSome_iff_exists.1 htarget
  have hauthorization := Signing.isValue_authorization signer.credentials (signer.scope seconds)
    method target
  have hservice : Header.isValue (signer.scope seconds).service = true :=
    show Header.isValue Signing.workspaceService = true by decide
  rw [hservice, Bool.and_true] at hauthorization
  -- With a token that cannot stand in a header, the signer gives up before it signs.
  by_cases htoken : signer.credentials.sessionToken.all Header.isValue = true
  · have hsign : signer.sign seconds method url = .ok (Signing.dateHeader (.ofSeconds seconds) ::
        Signing.authorization signer.credentials (signer.scope seconds) method target ::
          Signing.tokenHeaders signer.credentials) := by
      unfold sign Signing.sign?
      rw [htarget, Option.bind_eq_bind, Option.bind_some, if_pos htoken]
      rfl
    constructor
    · rintro ⟨headers, hheaders, hlegal⟩
      rw [hsign] at hheaders
      cases hheaders
      have hsigned := hlegal _ (List.mem_cons_of_mem _ List.mem_cons_self)
      rw [hauthorization, Bool.and_eq_true] at hsigned
      refine ⟨hsigned.1, hsigned.2, fun token hsome => ?_⟩
      rwa [hsome] at htoken
    · intro hlegal
      refine ⟨_, hsign, fun header hheader => ?_⟩
      rcases List.mem_cons.1 hheader with rfl | hheader
      · exact (isValue_compact _).2
      rcases List.mem_cons.1 hheader with rfl | hheader
      · rw [hauthorization, hlegal.accessKeyId]
        exact hlegal.region
      · obtain ⟨token, hmem, rfl⟩ := List.mem_map.1 hheader
        exact hlegal.sessionToken token (Option.mem_toList.1 hmem)
  · have hsign : signer.sign seconds method url = .error .signing := by
      unfold sign Signing.sign?
      rw [htarget, Option.bind_eq_bind, Option.bind_some, if_neg htoken]
    constructor
    · rintro ⟨headers, hheaders, -⟩
      rw [hsign] at hheaders
      cases hheaders
    · intro hlegal
      refine absurd ?_ htoken
      cases hsome : signer.credentials.sessionToken with
      | none => rfl
      | some token => exact hlegal.sessionToken token hsome

end Signer

end MetricGateway
