import MetricGateway.Connection
import MetricGateway.Proofs.Json.Record
import MetricGateway.Proofs.Json.Yields

/-!
# Connections and their texts

A connection is read from the text that is printed for it if its timeout fits a word, as that of
every connection that is read does.
-/

namespace MetricGateway

open Json

/-- A policy is read from its name. -/
theorem NanPolicy.reads_name (policy : NanPolicy) :
    Reads NanPolicy.read 0 (Json.string policy.name).render policy := by
  intro scope rest hmark hdepth hrest
  change (readString scope _ >>= fun read => pure (NanPolicy.ofName read.1, read.2)) = _
  rw [reads_string policy.name scope rest hmark hdepth hrest]
  cases policy <;> rfl

/-- Settings are read from their text. -/
theorem AwsSettings.reads_toJson (aws : AwsSettings) :
    Reads AwsSettings.read 1 aws.toJson.render aws := by
  let filled : Draft := {
    roleArn := some aws.roleArn, externalId := some aws.externalId
    accessKeyId := some aws.accessKeyId, secretAccessKey := some aws.secretAccessKey
    sessionToken := some aws.sessionToken, regionName := some aws.regionName
    roleSessionName := some aws.roleSessionName }
  -- Each entry finds its field by the key and meets a draft that does not have it yet.
  refine Record.reads_object filled ?_ rfl
  refine .cons rfl rfl ((reads_text? aws.roleArn).fill _ _ _ _ _) ?_
  refine .cons rfl rfl ((reads_text? aws.externalId).fill _ _ _ _ _) ?_
  refine .cons rfl rfl ((reads_text? aws.accessKeyId).fill _ _ _ _ _) ?_
  refine .cons rfl rfl ((reads_text? aws.secretAccessKey).fill _ _ _ _ _) ?_
  refine .cons rfl rfl ((reads_text? aws.sessionToken).fill _ _ _ _ _) ?_
  refine .cons rfl rfl ((reads_string aws.regionName).fill _ _ _ _ _) ?_
  exact .cons rfl rfl ((reads_string aws.roleSessionName).fill _ _ _ _ _) (.nil _)

namespace Connection

/-- The numbers of a connection fit words. -/
def FitsWords (connection : Connection) : Prop := connection.timeoutSeconds ≤ Binary64.maxWord

/-- A connection is read from its text. -/
theorem reads_toJson {connection : Connection} (h : connection.FitsWords) :
    Reads Connection.read 2 connection.toJson.render connection := by
  obtain ⟨url, timeoutSeconds, nanPolicy, aws⟩ := connection
  have hurl : Reads readString 1 (Json.string url).render url :=
    (reads_string url).mono (Nat.zero_le 1)
  have htimeout : Reads (readNat "u64") 1 (Json.ofNat timeoutSeconds).render timeoutSeconds :=
    (reads_nat h "u64").mono (Nat.zero_le 1)
  have hpolicy : Reads NanPolicy.read 1 (Json.string nanPolicy.name).render nanPolicy :=
    nanPolicy.reads_name.mono (Nat.zero_le 1)
  -- The last entry is the only one that can be null.
  have hwith {value : Json} (haws : Reads (readOptional AwsSettings.read) 1 value.render aws) :
      Reads Connection.read 2
        (Json.object [("url", .string url), ("request_timeout_seconds", .ofNat timeoutSeconds),
          ("nan_interpretation", .string nanPolicy.name), ("aws", value)]).render
        { url, timeoutSeconds, nanPolicy, aws } := by
    refine Record.reads_object
      { url := some url, timeoutSeconds := some timeoutSeconds, nanPolicy := some nanPolicy,
        aws := some aws } ?_ rfl
    refine .cons rfl rfl (hurl.fill _ _ _ _ _) ?_
    refine .cons rfl rfl (htimeout.fill _ _ _ _ _) ?_
    refine .cons rfl rfl (hpolicy.fill _ _ _ _ _) ?_
    exact .cons rfl rfl (haws.fill _ _ _ _ _) (.nil _)
  cases aws with
  | none => exact hwith ((reads_none AwsSettings.read).mono (Nat.zero_le 1))
  | some aws => exact hwith (aws.reads_toJson.some (.cons (by decide) (by decide) _) (by decide))

/-- The numbers of a draft fit words. -/
def Draft.FitsWords (draft : Draft) : Prop :=
  ∀ seconds ∈ draft.timeoutSeconds, seconds ≤ Binary64.maxWord

/-- Each field of a connection keeps its words. -/
theorem record_keeps : ∀ field ∈ record.fields, field.Keeps Draft.FitsWords := by
  intro field hfield
  rcases List.mem_cons.1 hfield with rfl | hfield
  · exact (yields_true readString).keeps fun draft _ hdraft _ => hdraft
  rcases List.mem_cons.1 hfield with rfl | hfield
  · refine (yields_nat "u64").keeps fun draft value _ hvalue seconds hseconds => ?_
    exact Option.some.inj hseconds ▸ hvalue
  rcases List.mem_cons.1 hfield with rfl | hfield
  · exact (yields_true NanPolicy.read).keeps fun draft _ hdraft _ => hdraft
  obtain rfl := List.mem_singleton.1 hfield
  exact (yields_true (readOptional AwsSettings.read)).keeps fun draft _ hdraft _ => hdraft

/-- The numbers of a connection that is read fit words. -/
theorem yields_fitsWords : Yields Connection.read FitsWords := by
  intro scope input rest connection hread
  obtain ⟨draft, hdraft, hbuild⟩ := record.yields record_keeps nofun hread
  obtain ⟨url, -, hbuild⟩ := Success.bind_eq_ok_iff.1 hbuild
  obtain rfl := Except.ok.inj hbuild
  exact holds_getD (p := (· ≤ Binary64.maxWord)) hdraft (by decide)

end Connection

end MetricGateway
