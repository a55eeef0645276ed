import MetricGateway.Credentials
import MetricGateway.Proofs.Xml.Document

/-!
# What an answer of the token service grants

`Written` says how an answer is written that grants credentials, or none. It is read as this,
whatever the texts are, whatever the prefixes of its elements are, and whatever else stands in it
that can be read (`ofBody_of_written`). For all texts there is such an answer (`exists_written`).
-/

namespace MetricGateway

namespace Xml

variable {parent child : Xml} {name text : String}

/-- An element holds this child, and no other one of its name, whatever their prefixes are. -/
def HoldsOnly (parent child : Xml) : Prop :=
  child ∈ parent.children ∧
    ∀ other ∈ parent.children, other.localName = child.localName → other = child

/-- The children of the name of an only child are this child, as often as it stands there. -/
theorem exists_named_of_holdsOnly (h : parent.HoldsOnly child) :
    ∃ count, parent.named child.localName = List.replicate (count + 1) child := by
  have hall : ∀ other ∈ parent.named child.localName, other = child := by
    intro other hother
    obtain ⟨hmem, hname⟩ := List.mem_filter.1 hother
    exact h.2 other hmem (of_decide_eq_true hname)
  have hmem : child ∈ parent.named child.localName := List.mem_filter.2 ⟨h.1, decide_eq_true rfl⟩
  have hpos : 0 < (parent.named child.localName).length := List.length_pos_of_mem hmem
  refine ⟨(parent.named child.localName).length - 1, ?_⟩
  rw [Nat.sub_add_cancel hpos]
  exact List.eq_replicate_of_mem hall

/-- No child has a name if and only if there are none of that name. -/
theorem named_eq_nil_iff :
    parent.named name = [] ↔ ∀ child ∈ parent.children, child.localName ≠ name := by
  simp [named]

/-- The element that holds a text and nothing else. -/
def ofText (name text : String) : Xml := .element name (escape text.toList) []

/-- Its name is without a prefix what the tag is without one. -/
@[simp]
theorem localName_ofText (tag text : String) : (ofText tag text).localName = withoutPrefix tag :=
    rfl

/-- Its text is read from it. -/
theorem content?_ofText (name text : String) : (ofText name text).content? = some text := by
  simp [ofText, content?, unescapeFrom_escape]

/-- An element holds a text in an element of a name, which may have a prefix, and in no other one of
this name. -/
def HoldsText (element : Xml) (name text : String) : Prop :=
  ∃ tag, withoutPrefix tag = name ∧ element.HoldsOnly (ofText tag text)

/-- An element that holds a text is spelled, with whatever follows it. -/
theorem exists_spells_ofText {others : List Xml} (hname : IsName name)
    (hothers : ∃ rest, Spells others rest) : ∃ part, Spells (ofText name text :: others) part :=
  exists_spells_cons hname (bracket_notMem_escape _) ⟨[], .nil⟩ hothers

end Xml

namespace Grant

open Xml

variable {element : Xml} {credentials : Credentials} {grant : Grant} {body : String}

/-- An element shows credentials, every part in an element of its own. -/
structure Shows (element : Xml) (credentials : Credentials) : Prop where
  accessKeyId : element.HoldsText "AccessKeyId" credentials.accessKeyId
  secretAccessKey : element.HoldsText "SecretAccessKey" credentials.secretAccessKey
  sessionToken : ∃ token, element.HoldsText "SessionToken" token ∧
    credentials.sessionToken = some token
  expiry : ∃ moment seconds, element.HoldsText "Expiration" moment ∧
    Time.readMoment moment.toList = some seconds ∧ credentials.expiry = some seconds

/-- What the element with the result grants. -/
inductive HasResult (result : Xml) : Grant → Prop where
  | credentials {element : Xml} {credentials : Credentials} : result.HoldsOnly element →
      element.localName = "Credentials" → Shows element credentials →
      HasResult result (.credentials credentials)
  | nothing : (∀ child ∈ result.children, child.localName ≠ "Credentials") →
      HasResult result .nothing

/-- An answer grants what its first element does, which has the result. All else that belongs to a
result can be read too. -/
def Written (body : String) (grant : Grant) : Prop :=
  ∃ root result rest, Spells [root] body.toList ∧ root.localName = "AssumeRoleResponse" ∧
    root.children = result :: rest ∧ result.localName = "AssumeRoleResult" ∧
    (∀ child ∈ result.children, isReadable child = true) ∧ HasResult result grant

section

variable {α : Type} {read : Xml → Option α}

/-- Of an only child of a name, that child is read. -/
theorem last_of_holdsOnly {child : Xml} {value : α} (h : element.HoldsOnly child)
    (hread : read child = some value) :
    last read element child.localName = some (some value) := by
  obtain ⟨count, hnamed⟩ := exists_named_of_holdsOnly h
  have hmapM (count : Nat) :
      (List.replicate count child).mapM read = some (List.replicate count value) := by
    induction count with
    | zero => rfl
    | succ count ih =>
      rw [List.replicate_succ, List.mapM_cons, hread, ih]
      rfl
  unfold last
  rw [hnamed, hmapM, Option.map_some, List.getLast?_replicate, if_neg (Nat.succ_ne_zero count)]

/-- Of a name that no child has, nothing is read. -/
theorem last_of_absent {name : String} (h : ∀ child ∈ element.children, child.localName ≠ name) :
    last read element name = some none := by
  unfold last
  rw [named_eq_nil_iff.2 h]
  rfl

/-- A text is read from the element that holds it. -/
theorem last_of_holdsText {name text : String} {value : α} (h : element.HoldsText name text)
    (hread : ∀ tag, read (ofText tag text) = some value) :
    last read element name = some (some value) := by
  obtain ⟨tag, htag, hholds⟩ := h
  have hlast := last_of_holdsOnly hholds (hread tag)
  rwa [localName_ofText, htag] at hlast

end

/-- Credentials are read from an element that shows them. -/
theorem readCredentials_of_shows (h : Shows element credentials) :
    readCredentials element = some credentials := by
  obtain ⟨token, htoken, hsessionToken⟩ := h.sessionToken
  obtain ⟨moment, seconds, hmoment, hseconds, hexpiry⟩ := h.expiry
  obtain ⟨accessKeyId, secretAccessKey, sessionToken, expiry⟩ := credentials
  cases hsessionToken
  cases hexpiry
  have hcontent (text tag : String) : (ofText tag text).content? = some text :=
    content?_ofText tag text
  have hexpiry (tag : String) : readMoment (ofText tag moment) = some seconds := by
    unfold readMoment
    rw [content?_ofText, Option.bind_some, hseconds]
  unfold readCredentials
  rw [last_of_holdsText h.accessKeyId (hcontent _), last_of_holdsText h.secretAccessKey
    (hcontent _),
    last_of_holdsText htoken (hcontent _), last_of_holdsText hmoment hexpiry]
  rfl

/-- An answer is read as it is written. -/
theorem ofBody_of_written (h : Written body grant) : ofBody body = grant := by
  obtain ⟨root, result, rest, hspells, hroot, hchildren, hresult, hreadable, hgrant⟩ := h
  have hkind :
      ¬(result.localName ≠ "AssumeRoleResult" ∨ (!result.children.all isReadable) = true) := by
    rw [List.all_eq_true.2 hreadable]
    exact fun h => h.elim (· hresult) (nomatch ·)
  have hofRoot : ofRoot root = some grant := by
    unfold ofRoot
    rw [if_neg fun hne => hne hroot, hchildren]
    simp only [List.head?_cons, Option.bind_eq_bind, Option.bind_some]
    rw [if_neg hkind]
    cases hgrant with
    | @credentials element credentials helement hname hshows =>
      have hlast := last_of_holdsOnly helement (readCredentials_of_shows hshows)
      rw [hname] at hlast
      rw [hlast]
      rfl
    | nothing hnone =>
      rw [last_of_absent hnone]
      rfl
  unfold ofBody
  rw [read_of_spells hspells, Option.bind_some, hofRoot]

/-- The elements of four texts. -/
def parts (accessKeyId secretAccessKey token moment : String) : List Xml :=
  [ofText "AccessKeyId" accessKeyId, ofText "SecretAccessKey" secretAccessKey,
    ofText "SessionToken" token, ofText "Expiration" moment]

/-- The element with the result that holds these parts of credentials. -/
def resultOf (parts : List Xml) : Xml :=
  .element "AssumeRoleResult" [] [.element "Credentials" [] parts]

/-- The four names have no prefixes. -/
theorem withoutPrefix_parts : withoutPrefix "AccessKeyId" = "AccessKeyId" ∧
    withoutPrefix "SecretAccessKey" = "SecretAccessKey" ∧
    withoutPrefix "SessionToken" = "SessionToken" ∧ withoutPrefix "Expiration" = "Expiration" := by
  decide +kernel

/-- The four elements show the credentials that they were made of. -/
theorem shows_parts {token moment : String} {seconds : Int}
    (htoken : credentials.sessionToken = some token)
    (hmoment : Time.readMoment moment.toList = some seconds)
    (hexpiry : credentials.expiry = some seconds) :
    Shows (.element "Credentials" []
      (parts credentials.accessKeyId credentials.secretAccessKey token moment)) credentials where
  accessKeyId :=
    ⟨_, withoutPrefix_parts.1, by simp [HoldsOnly, children, parts, withoutPrefix_parts]⟩
  secretAccessKey :=
    ⟨_, withoutPrefix_parts.2.1, by simp [HoldsOnly, children, parts, withoutPrefix_parts]⟩
  sessionToken := ⟨token,
    ⟨_, withoutPrefix_parts.2.2.1, by simp [HoldsOnly, children, parts, withoutPrefix_parts]⟩,
      htoken⟩
  expiry := ⟨moment, seconds,
    ⟨_, withoutPrefix_parts.2.2.2, by simp [HoldsOnly, children, parts, withoutPrefix_parts]⟩,
    hmoment, hexpiry⟩

/-- There is a document that spells the parts of an answer. -/
theorem exists_spells_parts (accessKeyId secretAccessKey token moment : String) :
    ∃ document, Spells [.element "AssumeRoleResponse" []
      [resultOf (parts accessKeyId secretAccessKey token moment)]] document := by
  have hparts : ∃ within, Spells (parts accessKeyId secretAccessKey token moment) within :=
    exists_spells_ofText (by decide +kernel) <|
      exists_spells_ofText (by decide +kernel) <|
        exists_spells_ofText (by decide +kernel) <|
          exists_spells_ofText (by decide +kernel) ⟨[], .nil⟩
  have helement : ∃ within, Spells [.element "Credentials" []
      (parts accessKeyId secretAccessKey token moment)] within :=
    exists_spells_cons (by decide +kernel) List.not_mem_nil hparts ⟨[], .nil⟩
  have hresult : ∃ within,
      Spells [resultOf (parts accessKeyId secretAccessKey token moment)] within :=
    exists_spells_cons (by decide +kernel) List.not_mem_nil helement ⟨[], .nil⟩
  exact exists_spells_cons (by decide +kernel) List.not_mem_nil hresult ⟨[], .nil⟩

/-- Whatever the texts are, an answer can be written that grants credentials with them. -/
theorem exists_written {token moment : String} {seconds : Int}
    (htoken : credentials.sessionToken = some token)
    (hmoment : Time.readMoment moment.toList = some seconds)
    (hexpiry : credentials.expiry = some seconds) : ∃ body,
      Written body (.credentials credentials) := by
  obtain ⟨document, hdocument⟩ :=
    exists_spells_parts credentials.accessKeyId credentials.secretAccessKey token moment
  have hresult := shows_parts htoken hmoment hexpiry
  have hnames : withoutPrefix "AssumeRoleResponse" = "AssumeRoleResponse" ∧
      withoutPrefix "AssumeRoleResult" = "AssumeRoleResult" ∧
      withoutPrefix "Credentials" = "Credentials" := by
    decide +kernel
  refine ⟨String.ofList document, .element "AssumeRoleResponse" [] [resultOf _], resultOf _, [],
    (String.toList_ofList (l := document)).symm ▸ hdocument, hnames.1, rfl, hnames.2.1, ?_,
    @HasResult.credentials _ (.element "Credentials" [] _) _ ⟨List.mem_singleton_self _, ?_⟩
      hnames.2.2 hresult⟩
  · -- There is nothing but the credentials.
    intro child hchild
    rw [List.mem_singleton.1 hchild]
    unfold isReadable
    rw [show localName (.element "Credentials" [] _) = "Credentials" from hnames.2.2]
    rfl
  · intro other hother _
    exact List.mem_singleton.1 hother

end Grant

end MetricGateway
