import Mathlib.Tactic.Choose
import MetricGateway.Proofs.Environment.Loading
import MetricGateway.Proofs.Settings.Laying
import MetricGateway.Proofs.Success

/-!
# Where each setting comes from

The settings are those that, key by key, are read from the value that the highest source gives which
says anything of the key: the environment, or else the file of the mode, or else the default file
(`ordered`). So one key may be overridden without any other, and a value that is overridden may be
of any kind.

What a source says of a key is a `Setting.Word`. In the environment only the variables of keys say
anything, each of its own key (`ofLayer_environmentLayer`). A file that has something else than a
table for the server hides what lies below it, for all keys at once, and a table without entries
says nothing (`settings_hidden`). An array for the server has a place for each key.
-/

namespace MetricGateway.Settings

open Setting Except

/-! ## Keys -/

/-- The keys of the server. -/
inductive Key where
  | port
  | host
  | apiKey
  | workers
  deriving DecidableEq

namespace Key

/-- What a key is called. -/
def name : Key → String
  | port => "port"
  | host => "host"
  | apiKey => "api_key"
  | workers => "workers"

/-- The place of a key in an array for the server. -/
def place : Key → Nat
  | port => 0
  | host => 1
  | apiKey => 2
  | workers => 3

/-- The type of the setting under a key. -/
def Value : Key → Type
  | port => Nat
  | host => String
  | apiKey => String
  | workers => Nat

/-- The natural number that a value stands for, if it is at most as large as given. -/
def wordWithin (limit : Nat) (value : Setting) : Option Nat := value.word?.filter (· ≤ limit)

/-- The setting that a value under a key stands for, if it is of the key's type. -/
def convert : (key : Key) → Setting → Option key.Value
  | port => wordWithin maxPort
  | host => text?
  | apiKey => text?
  | workers => wordWithin Binary64.maxWord

/-- Keys are told apart by what they are called. -/
theorem name_injective : Function.Injective name := by
  intro first second
  cases first <;> cases second <;> decide

/-- No setting is read from a table. -/
theorem convert_table (key : Key) (entries : List (String × Setting)) :
    key.convert (.table entries) = none := by
  cases key <;> rfl

end Key

/-- The setting under a key. -/
def get (settings : Settings) : (key : Key) → key.Value
  | .port => settings.port
  | .host => settings.host
  | .apiKey => settings.apiKey
  | .workers => settings.workers

/-! ## The settings in a table -/

section

variable {settings : Settings} {all : Setting} {entries : List (String × Setting)}

/-- A number is read if it is one and not too large. -/
theorem wordUpTo_eq_ok_iff {limit n : Nat} {value : Setting} :
    wordUpTo limit value = .ok n ↔ Key.wordWithin limit value = some n := by
  unfold wordUpTo Key.wordWithin
  cases value.word? with
  | none => simp
  | some word =>
    by_cases h : word ≤ limit
    · simp [h, Option.filter]
    · simp [h, Option.filter]

/-- A text is read if there is one. -/
theorem textOf_eq_ok_iff {text : String} {value : Setting} :
    textOf value = .ok text ↔ value.text? = some text := by
  unfold textOf
  cases value.text? with
  | none => simp
  | some given => simp

/-- A value is read and has to be there. -/
theorem optionally_eq_ok_some_iff {α : Type} {read : Setting → Except SettingsError α}
    {convert : Setting → Option α} {result : α} {stood : Option Setting}
    (hread : ∀ value, read value = .ok result ↔ convert value = some result) :
    optionally read stood = .ok (some result) ↔ stood.bind convert = some result := by
  cases stood with
  | none => exact ⟨nofun, nofun⟩
  | some value =>
    rw [Option.bind_some, ← hread]
    cases h : read value with
    | error error => simp [optionally, h, Except.map]
    | ok given => simp [optionally, h, Except.map]

/-- What has to be there is there. -/
theorem require_eq_ok_iff {α : Type} {value : α} {given : Option α} :
    require given = .ok value ↔ given = some value := by
  cases given with
  | none => exact ⟨nofun, nofun⟩
  | some given => simp [require]

/-- What has been read of a key of a given table, and that it is there. -/
theorem optionally_word_iff {limit n : Nat} {stood : Option Setting} :
    optionally (wordUpTo limit) stood = .ok (some n) ↔
      stood.bind (Key.wordWithin limit) = some n :=
  optionally_eq_ok_some_iff fun _ => wordUpTo_eq_ok_iff

/-- The same of a key of a text. -/
theorem optionally_text_iff {text : String} {stood : Option Setting} :
    optionally textOf stood = .ok (some text) ↔ stood.bind Setting.text? = some text :=
  optionally_eq_ok_some_iff fun _ => textOf_eq_ok_iff

/-- The settings in a table are those under its keys. -/
theorem ofServer_eq_ok_iff :
    ofServer entries = .ok settings ↔
      ∀ key : Key, (entries.lookup key.name).bind key.convert = some (settings.get key) := by
  simp only [ofServer, Success.bind_eq_ok_iff, require_eq_ok_iff]
  constructor
  · rintro ⟨_, hport, _, hhost, _, hapiKey, _, hworkers, port, rfl, host, rfl, apiKey, rfl, workers,
      rfl, h⟩
    cases h
    intro key
    cases key with
    | port => exact optionally_word_iff.1 hport
    | host => exact optionally_text_iff.1 hhost
    | apiKey => exact optionally_text_iff.1 hapiKey
    | workers => exact optionally_word_iff.1 hworkers
  · intro h
    exact ⟨_, optionally_word_iff.2 (h .port), _, optionally_text_iff.2 (h .host), _,
      optionally_text_iff.2 (h .apiKey), _, optionally_word_iff.2 (h .workers), _, rfl, _, rfl, _,
      rfl, _, rfl, rfl⟩

/-- What stands in a place is read and has to be there. -/
theorem inPlace_eq_ok_iff {α : Type} {read : Setting → Except SettingsError α}
    {convert : Setting → Option α} {result : α} {stood : Option Setting}
    (hread : ∀ value, read value = .ok result ↔ convert value = some result) :
    inPlace read stood = .ok result ↔ stood.bind convert = some result := by
  cases stood with
  | none => exact ⟨nofun, nofun⟩
  | some value => exact hread value

/-- The settings in an array are those in the places of the keys. -/
theorem ofArray_eq_ok_iff {values : List Setting} :
    ofArray values = .ok settings ↔
      ∀ key : Key, values[key.place]?.bind key.convert = some (settings.get key) := by
  simp only [ofArray, Success.bind_eq_ok_iff]
  constructor
  · rintro ⟨port, hport, host, hhost, apiKey, hapiKey, workers, hworkers, h⟩
    cases h
    intro key
    cases key with
    | port => exact (inPlace_eq_ok_iff fun _ => wordUpTo_eq_ok_iff).1 hport
    | host => exact (inPlace_eq_ok_iff fun _ => textOf_eq_ok_iff).1 hhost
    | apiKey => exact (inPlace_eq_ok_iff fun _ => textOf_eq_ok_iff).1 hapiKey
    | workers => exact (inPlace_eq_ok_iff fun _ => wordUpTo_eq_ok_iff).1 hworkers
  · intro h
    exact ⟨_, (inPlace_eq_ok_iff fun _ => wordUpTo_eq_ok_iff).2 (h .port),
      _, (inPlace_eq_ok_iff fun _ => textOf_eq_ok_iff).2 (h .host),
      _, (inPlace_eq_ok_iff fun _ => textOf_eq_ok_iff).2 (h .apiKey),
      _, (inPlace_eq_ok_iff fun _ => wordUpTo_eq_ok_iff).2 (h .workers), rfl⟩

/-- The value for a key in what the server is. -/
def standing (server : Option Setting) (key : Key) : Option Setting :=
  match server with
  | some (.table entries) => entries.lookup key.name
  | some (.list values) => values[key.place]?
  | _ => none

/-- The settings in all layers are those that stand for the keys. -/
theorem ofLayers_eq_ok_iff :
    ofLayers all = .ok settings ↔
      ∀ key : Key, (standing (all.entries.lookup "server") key).bind key.convert =
        some (settings.get key) := by
  unfold ofLayers
  cases all.entries.lookup "server" with
  | none => exact ⟨nofun, fun h => nomatch h .port⟩
  | some server =>
    cases server with
    | table entries => exact ofServer_eq_ok_iff
    | list values => exact ofArray_eq_ok_iff
    | text _ | integer _ | float _ | boolean _ => exact ⟨nofun, fun h => nomatch h .port⟩

/-- The only thing wrong with a value that is there is its kind. -/
theorem eq_of_optionally_eq_error {α : Type} {read : Setting → Except SettingsError α}
    {stood : Option Setting} {error : SettingsError}
    (hread : ∀ value, read value = .error error → error = .wrongKind)
    (h : optionally read stood = .error error) : error = .wrongKind := by
  cases stood with
  | none => cases h
  | some value =>
    change (read value).map some = .error error at h
    cases hvalue : read value with
    | ok given =>
      rw [hvalue] at h
      cases h
    | error cause =>
      rw [hvalue] at h
      cases h
      exact hread value hvalue

/-- The only thing wrong with a number is its kind. -/
theorem eq_of_wordUpTo_eq_error {limit : Nat} {value : Setting} {error : SettingsError}
    (h : wordUpTo limit value = .error error) : error = .wrongKind := by
  unfold wordUpTo at h
  split at h
  · split at h
    · cases h
    · cases h
      rfl
  · cases h
    rfl

/-- The only thing wrong with a text is its kind. -/
theorem eq_of_textOf_eq_error {value : Setting} {error : SettingsError}
    (h : textOf value = .error error) : error = .wrongKind := by
  unfold textOf at h
  split at h
  · cases h
  · cases h
    rfl

/-- The only thing wrong with what has to be there is that it is not. -/
theorem eq_of_require_eq_error {α : Type} {given : Option α} {error : SettingsError}
    (h : require given = .error error) : error = .incomplete := by
  cases given with
  | none =>
    cases h
    rfl
  | some value => cases h

/-- In a place of an array, a value is missing or of another kind. -/
theorem eq_of_inPlace_eq_error {α : Type} {read : Setting → Except SettingsError α}
    {stood : Option Setting} {error : SettingsError}
    (hread : ∀ value, read value = .error error → error = .wrongKind)
    (h : inPlace read stood = .error error) : error = .incomplete ∨ error = .wrongKind := by
  cases stood with
  | none =>
    cases h
    exact .inl rfl
  | some value => exact .inr (hread value h)

/-- Layers that can be read lack a setting, or have one of another kind, if anything is wrong. -/
theorem eq_of_ofLayers_eq_error {error : SettingsError} (h : ofLayers all = .error error) :
    error = .incomplete ∨ error = .wrongKind := by
  unfold ofLayers at h
  split at h
  · -- All words are converted first, and then each of them has to be there.
    simp only [ofServer, Success.bind_eq_error_iff] at h
    obtain h | ⟨_, -, h | ⟨_, -, h | ⟨_, -, h | ⟨_, -, h⟩⟩⟩⟩ := h
    · exact .inr (eq_of_optionally_eq_error (fun _ => eq_of_wordUpTo_eq_error) h)
    · exact .inr (eq_of_optionally_eq_error (fun _ => eq_of_textOf_eq_error) h)
    · exact .inr (eq_of_optionally_eq_error (fun _ => eq_of_textOf_eq_error) h)
    · exact .inr (eq_of_optionally_eq_error (fun _ => eq_of_wordUpTo_eq_error) h)
    · obtain h | ⟨_, -, h | ⟨_, -, h | ⟨_, -, h | ⟨_, -, h⟩⟩⟩⟩ := h
      · exact .inl (eq_of_require_eq_error h)
      · exact .inl (eq_of_require_eq_error h)
      · exact .inl (eq_of_require_eq_error h)
      · exact .inl (eq_of_require_eq_error h)
      · cases h
  · simp only [ofArray, Success.bind_eq_error_iff] at h
    obtain h | ⟨_, -, h | ⟨_, -, h | ⟨_, -, h | ⟨_, -, h⟩⟩⟩⟩ := h
    · exact eq_of_inPlace_eq_error (fun _ => eq_of_wordUpTo_eq_error) h
    · exact eq_of_inPlace_eq_error (fun _ => eq_of_textOf_eq_error) h
    · exact eq_of_inPlace_eq_error (fun _ => eq_of_textOf_eq_error) h
    · exact eq_of_inPlace_eq_error (fun _ => eq_of_wordUpTo_eq_error) h
    · cases h
  · cases h
    exact .inl rfl

end

/-! ## Variables -/

/-- All keys. -/
def Key.all : List Key := [port, host, apiKey, workers]

/-- The name of the variable of a key. -/
def Key.variableName (key : Key) : String :=
  "MIRROR__SERVER__" ++ String.ofList (key.name.toList.map Char.toUpper)

/-- The variable of a key is laid under the key. -/
theorem exists_path_variableName (key : Key) :
    ∃ path, variablePath key.variableName = some path ∧ pathOf path = ["server", key.name] := by
  cases key with
  | port => exact ⟨"server.port", by decide +kernel, by decide +kernel⟩
  | host => exact ⟨"server.host", by decide +kernel, by decide +kernel⟩
  | apiKey => exact ⟨"server.api_key", by decide +kernel, by decide +kernel⟩
  | workers => exact ⟨"server.workers", by decide +kernel, by decide +kernel⟩

/-- Keys are told apart by their variables. -/
theorem variableName_injective : Function.Injective Key.variableName := by
  intro first second
  cases first <;> cases second <;> decide +kernel

/-- The text of the variable of a key, if it is set to one. -/
def variableText? (environment : Environment) (key : Key) : Option String :=
  environment.get? key.variableName

/-- What the environment says of a key. -/
def spoken (environment : Environment) (key : Key) : Word :=
  match variableText? environment key with
  | some given => .gives (.text given)
  | none =>
    if Key.all.any fun other => (variableText? environment other).isSome then .beside else .silent

/-- In an environment, every variable is set once and to a text, and none counts but those of the
keys. -/
structure IsPlain (environment : Environment) : Prop where
  nodup : (environment.map Prod.fst).Nodup
  texts : ∀ name value, (name, value) ∈ environment → ∃ text, value = .text text
  named : ∀ name value, (name, value) ∈ environment → (variablePath name).isSome →
    ∃ key : Key, name = key.variableName

section

variable {environment : Environment} {name : String} {value : EnvironmentValue}

/-- A text under the path of a key says something of this key, and of the others that it does. -/
theorem ofPath_text (key owner : Key) (text : String) :
    Word.ofPath key.name key.place (.text text) ["server", owner.name] =
      if owner = key then .gives (.text text) else .beside := by
  change (Word.ofList (Word.ofEntry key.name) [(owner.name, .text text)]).above .beside = _
  rw [Word.ofList_singleton]
  unfold Word.ofEntry
  by_cases h : owner = key
  · rw [if_pos h, if_pos (congrArg Key.name h)]
    rfl
  · rw [if_neg h, if_neg fun hname => h (Key.name_injective hname)]
    rfl

/-- The variable of a key is that of one entry, or one of the others. -/
theorem variableText?_cons (owner key : Key) (text : String) (rest : Environment) :
    variableText? ((owner.variableName, .text text) :: rest) key =
      if owner = key then some text else variableText? rest key := by
  unfold variableText? Environment.get?
  rw [lookup_cons_eq]
  by_cases h : owner = key
  · rw [if_pos h, if_pos (congrArg Key.variableName h)]
    rfl
  · rw [if_neg h, if_neg fun hname => h (variableName_injective hname)]

/-- A variable that does not count is none of a key. -/
theorem variableText?_cons_of_not_counts (h : variablePath name = none) (key : Key)
    (rest : Environment) : variableText? ((name, value) :: rest) key = variableText? rest key := by
  have hname : name ≠ key.variableName := by
    rintro rfl
    obtain ⟨path, hpath, -⟩ := exists_path_variableName key
    rw [h] at hpath
    cases hpath
  unfold variableText? Environment.get?
  rw [lookup_cons_eq, if_neg hname]

/-- Some key has a variable if one of them has. -/
theorem any_variableText? {owner : Key} {text : String}
    (h : variableText? environment owner = some text) :
    (Key.all.any fun other => (variableText? environment other).isSome) = true := by
  refine List.any_eq_true.2 ⟨owner, by cases owner <;> decide, ?_⟩
  rw [h]
  rfl

/-- A variable that is not set has no text. -/
theorem variableText?_eq_none {key : Key} (h : key.variableName ∉ environment.map Prod.fst) :
    variableText? environment key = none := by
  have hlookup : environment.lookup key.variableName = none := by
    refine List.lookup_eq_none_iff.2 fun entry hentry => bne_iff_ne.2 ?_
    have hmem : entry.1 ∈ environment.map Prod.fst := List.mem_map_of_mem hentry
    exact (ne_of_mem_of_not_mem hmem h).symm
  unfold variableText? Environment.get?
  rw [hlookup]
  rfl

/-- What a variable that is set once says is said by the environment too, unless other variables say
more. -/
theorem spoken_cons {owner : Key} {rest : Environment} (h : variableText? rest owner = none)
    (text : String) (key : Key) :
    spoken ((owner.variableName, .text text) :: rest) key =
      (spoken rest key).above (if owner = key then .gives (.text text) else .beside) := by
  have hset : (Key.all.any fun other =>
      (variableText? ((owner.variableName, .text text) :: rest) other).isSome) = true :=
    any_variableText? ((variableText?_cons owner owner text rest).trans (if_pos rfl))
  unfold spoken
  rw [variableText?_cons, hset, if_pos (Eq.refl true)]
  by_cases howner : owner = key
  · subst howner
    simp only [if_true, h]
    split <;> rfl
  · rw [if_neg howner, if_neg howner]
    cases variableText? rest key with
    | some other => rfl
    | none =>
      dsimp only
      split <;> rfl

/-- What does not count says nothing. -/
theorem spoken_cons_of_not_counts (h : variablePath name = none) (key : Key) (rest : Environment) :
    spoken ((name, value) :: rest) key = spoken rest key := by
  unfold spoken
  simp only [variableText?_cons_of_not_counts h]

/-- The layer of the environment says of each key what its variable says, in whichever order the
variables come. The induction is on the variables. -/
theorem ofLayer_environmentLayer (h : IsPlain environment) (key : Key) :
    Word.ofLayer key.name key.place (environmentLayer environment) = spoken environment key := by
  obtain ⟨hnodup, htexts, hnamed⟩ := h
  induction environment with
  | nil => rfl
  | cons entry rest ih =>
    obtain ⟨name, value⟩ := entry
    rw [List.map_cons, List.nodup_cons] at hnodup
    have hrest := ih hnodup.2
      (fun name value hmem => htexts name value (List.mem_cons_of_mem _ hmem))
      fun name value hmem => hnamed name value (List.mem_cons_of_mem _ hmem)
    cases hpath : variablePath name with
    | none =>
      have hlayer : environmentLayer ((name, value) :: rest) = environmentLayer rest := by
        simp [environmentLayer, hpath]
      rw [hlayer, hrest, spoken_cons_of_not_counts hpath]
    | some path =>
      obtain ⟨owner, rfl⟩ := hnamed _ _ List.mem_cons_self (by rw [hpath]; rfl)
      obtain ⟨text, rfl⟩ := htexts _ _ List.mem_cons_self
      obtain ⟨_, hsame, hserver⟩ := exists_path_variableName owner
      cases hpath.symm.trans hsame
      have hlayer : environmentLayer ((owner.variableName, .text text) :: rest) =
          (path, .text text) :: environmentLayer rest := by
        simp [environmentLayer, hpath, EnvironmentValue.text?]
      -- What the other variables say is over what this one says.
      rw [hlayer, Word.ofLayer, Word.ofList_cons, spoken_cons (variableText?_eq_none hnodup.1),
        ← hrest, ← ofPath_text, ← hserver]
      rfl

end

/-! ## Sources -/

/-- A layer is made of values under paths. -/
abbrev Layer := List (String × Setting)

/-- Where settings come from. -/
structure Sources where
  /-- Where the files are. -/
  directory : String
  /-- What is in a file, if it is there. -/
  content : String → Option String
  environment : Environment

namespace Sources

variable (sources : Sources)

/-- The settings that are read from the sources. -/
def settings : Except SettingsError Settings :=
  read sources.directory sources.content sources.environment

/-- What is in the default file, if it is there. -/
def defaultFile : Option String := sources.content (fileOfMode sources.directory "default")

/-- What is in the file of the mode, if it is there. -/
def modeFile : Option String :=
  sources.content (fileOfMode sources.directory
    ((sources.environment.get? modeVariable).getD defaultMode))

/-- The layers that the files give. A file of the mode that is not there is like an empty one. -/
def HasLayers (defaults ofMode : Layer) : Prop :=
  (∃ text, sources.defaultFile = some text ∧ Toml.read text = some defaults) ∧
    Toml.read (sources.modeFile.getD "") = some ofMode

/-- What the two files say of a key. -/
def written (defaults ofMode : Layer) (key : Key) : Word :=
  (Word.ofLayer key.name key.place ofMode).above (Word.ofLayer key.name key.place defaults)

/-- What the environment and the two files together say of a key. -/
def word (defaults ofMode : Layer) (key : Key) : Word :=
  (spoken sources.environment key).above (written defaults ofMode key)

/-- The value of a key that counts, from the highest source that gives one. -/
def effective (defaults ofMode : Layer) (key : Key) : Option Setting :=
  (sources.word defaults ofMode key).value?

/-- The environment is plain, and no name at the top of a file points into an array. -/
structure ArePlain : Prop where
  environment : IsPlain sources.environment
  unindexed : ∀ defaults ofMode, sources.HasLayers defaults ofMode →
    ∀ entry ∈ defaults ++ ofMode, '[' ∉ entry.1.toList

/-- The server is described by an array, and nothing else is said of it over this. -/
def AreListed : Prop :=
  ∃ defaults ofMode, sources.HasLayers defaults ofMode ∧
    ∃ key, (sources.word defaults ofMode key).isListed = true

end Sources

variable {sources : Sources} {defaults ofMode : Layer} {key : Key}

/-- A value that is shown by a word is read as the one that the word gives, since no setting is read
from a table. -/
theorem bind_convert_of_shows {word : Word} {stood : Option Setting} (hword : word.isListed = false)
    (h : word.Shows stood) : stood.bind key.convert = word.value?.bind key.convert := by
  have hbelow (hnone : stood = none ∨ stood = some (.table [])) :
      stood.bind key.convert = none := by
    obtain rfl | rfl := hnone
    · rfl
    · exact key.convert_table []
  match word, h with
  | .silent, h | .beside, h | .hides, h => exact hbelow h
  | .listed _, _ => cases hword
  | .gives (.table given), ⟨entries, h⟩ =>
    rw [h]
    exact (key.convert_table entries).trans (key.convert_table given).symm
  | .gives (.text _), h | .gives (.integer _), h | .gives (.float _), h
  | .gives (.boolean _), h | .gives (.list _), h => exact congrArg (·.bind key.convert) h

/-- A value that is told by a word is read as the one that the word gives. -/
theorem bind_convert_of_tells {word : Word} {server : Option Setting}
    (h : word.Tells key.name key.place server) :
    (standing server key).bind key.convert = word.value?.bind key.convert := by
  cases word with
  | listed value? =>
    obtain ⟨values, rfl, rfl⟩ := h
    rfl
  | silent | beside | hides | gives _ =>
    obtain ⟨hserver, hshows⟩ := h
    have hstanding : (standing server key).bind key.convert =
        ((server.getD (.table [])).entries.lookup key.name).bind key.convert := by
      cases server with
      | none => rfl
      | some value =>
        cases value with
        | list values => exact absurd rfl (hserver values)
        | table _ | text _ | integer _ | float _ | boolean _ => rfl
    rw [hstanding]
    exact bind_convert_of_shows rfl hshows

/-- All layers of the sources, one laid over the other. -/
def layered (sources : Sources) (defaults ofMode : Layer) : Setting :=
  lay (lay (lay (.table []) defaults) ofMode) (environmentLayer sources.environment)

/-- What stands for a key in all layers is read as the value that counts for it. -/
theorem bind_convert_layered (h : IsPlain sources.environment) (defaults ofMode : Layer)
    (key : Key) :
    (standing ((layered sources defaults ofMode).entries.lookup "server") key).bind key.convert =
      (sources.effective defaults ofMode key).bind key.convert := by
  have hnothing : Word.silent.Tells key.name key.place
      ((Setting.table []).entries.lookup "server") := ⟨nofun, .inl rfl⟩
  have hdefaults := tells_lay _ defaults hnothing
  rw [Word.above_silent] at hdefaults
  have hall := tells_lay _ (environmentLayer sources.environment) (tells_lay _ ofMode hdefaults)
  rw [ofLayer_environmentLayer h] at hall
  exact bind_convert_of_tells hall

/-- The layer of a file is what is read in it. -/
theorem fileLayer_of_read {text : String} {layer : Layer} (h : Toml.read text = some layer) :
    fileLayer (some text) = .ok layer := by
  simp only [fileLayer, h]

/-- A file that is not there gives what an empty one gives. -/
theorem fileLayer_none : fileLayer none = fileLayer (some "") := by
  rfl

/-- A file that is not there is read as an empty one. -/
theorem fileLayer_eq_getD (file : Option String) :
    fileLayer file = fileLayer (some (file.getD "")) := by
  cases file with
  | none => exact fileLayer_none
  | some text => rw [Option.getD_some]

/-- A file that is there has to be readable. -/
theorem fileLayer_eq_malformed_iff {file : Option String} :
    fileLayer file = .error .malformedFile ↔ ∃ text, file = some text ∧ Toml.read text = none := by
  cases file with
  | none => exact ⟨nofun, nofun⟩
  | some text =>
    unfold fileLayer
    cases h : Toml.read text with
    | none => simp [h]
    | some layer => simp [h]

/-- The sources together: nothing without a default file, and otherwise what the layers give, if the
files can be read. -/
theorem settings_of_defaultFile {text : String} (h : sources.defaultFile = some text) :
    sources.settings = (do
      let defaults ← fileLayer (some text)
      let ofMode ← fileLayer sources.modeFile
      ofLayers (layered sources defaults ofMode)) := by
  unfold Sources.settings read
  dsimp only
  rw [show sources.content (fileOfMode sources.directory "default") = some text from h]
  rfl

/-- Without a default file there is nothing. -/
theorem settings_of_defaultFile_eq_none (h : sources.defaultFile = none) :
    sources.settings = .error .missingFile := by
  unfold Sources.settings read
  dsimp only
  rw [show sources.content (fileOfMode sources.directory "default") = none from h]
  rfl

/-- If the files can be read, what counts is what their layers give. -/
theorem settings_of_hasLayers (h : sources.HasLayers defaults ofMode) :
    sources.settings = ofLayers (layered sources defaults ofMode) := by
  obtain ⟨⟨text, hfile, hdefaults⟩, hmode⟩ := h
  rw [settings_of_defaultFile hfile, fileLayer_of_read hdefaults, Success.ok_bind,
    fileLayer_eq_getD, fileLayer_of_read hmode, Success.ok_bind]

/-- Whether a file that is there cannot be read. -/
def Sources.IsMalformed (sources : Sources) : Prop :=
  ∃ text, (sources.defaultFile = some text ∨ sources.modeFile = some text) ∧ Toml.read text = none

/-- A file that is there and cannot be read is all that is wrong. -/
theorem settings_of_isMalformed (hdefault : sources.defaultFile ≠ none) (h : sources.IsMalformed) :
    sources.settings = .error .malformedFile := by
  obtain ⟨text, hfile⟩ := Option.ne_none_iff_exists'.1 hdefault
  rw [settings_of_defaultFile hfile]
  cases hdefaults : Toml.read text with
  | none => rw [fileLayer_eq_malformed_iff.2 ⟨text, rfl, hdefaults⟩, Success.error_bind]
  | some defaults =>
    rw [fileLayer_of_read hdefaults, Success.ok_bind]
    obtain ⟨other, hother | hother, hread⟩ := h
    · rw [hfile] at hother
      cases hother
      rw [hdefaults] at hread
      cases hread
    · rw [fileLayer_eq_malformed_iff.2 ⟨other, hother, hread⟩, Success.error_bind]

/-- Files that are not malformed have layers. -/
theorem exists_hasLayers (hdefault : sources.defaultFile ≠ none) (h : ¬ sources.IsMalformed) :
    ∃ defaults ofMode, sources.HasLayers defaults ofMode := by
  obtain ⟨text, hfile⟩ := Option.ne_none_iff_exists'.1 hdefault
  have hreads {text} (hthere : sources.defaultFile = some text ∨ sources.modeFile = some text) :
      ∃ layer, Toml.read text = some layer :=
    Option.ne_none_iff_exists'.1 fun hnone => h ⟨text, hthere, hnone⟩
  obtain ⟨defaults, hdefaults⟩ := hreads (.inl hfile)
  cases hmode : sources.modeFile with
  | none =>
    refine ⟨defaults, [], ⟨text, hfile, hdefaults⟩, ?_⟩
    rw [hmode]
    rfl
  | some other =>
    obtain ⟨ofMode, hofMode⟩ := hreads (.inr hmode)
    refine ⟨defaults, ofMode, ⟨text, hfile, hdefaults⟩, ?_⟩
    rw [hmode]
    exact hofMode

/-! ## What the sources come to -/

/-- Files that can be read give settings if and only if every key has a value that counts, of the
right type. -/
theorem settings_eq_ok_iff_of_hasLayers {settings : Settings}
    (hplain : IsPlain sources.environment) (h : sources.HasLayers defaults ofMode) :
    sources.settings = .ok settings ↔
      ∀ key : Key, (sources.effective defaults ofMode key).bind key.convert =
        some (settings.get key) := by
  rw [settings_of_hasLayers h, ofLayers_eq_ok_iff]
  exact forall_congr' fun key => by rw [bind_convert_layered hplain]

/-- Layers that can be read come from a default file that is there, and from readable files. -/
theorem Sources.HasLayers.not_isMalformed (h : sources.HasLayers defaults ofMode) :
    sources.defaultFile ≠ none ∧ ¬ sources.IsMalformed := by
  obtain ⟨⟨text, hfile, hdefaults⟩, hmode⟩ := h
  rw [Sources.IsMalformed, hfile]
  refine ⟨Option.some_ne_none text, ?_⟩
  rintro ⟨other, hother | hother, hread⟩
  · cases hother
    rw [hdefaults] at hread
    cases hread
  · rw [hother, Option.getD_some, hread] at hmode
    cases hmode

/-- What files there are decides which errors can arise. -/
theorem settings_cases (sources : Sources) :
    (sources.defaultFile = none ∧ sources.settings = .error .missingFile) ∨
      ((sources.defaultFile ≠ none ∧ sources.IsMalformed) ∧
        sources.settings = .error .malformedFile) ∨
      ∃ defaults ofMode, sources.HasLayers defaults ofMode ∧
        ∀ error, sources.settings = .error error → error = .incomplete ∨ error = .wrongKind := by
  by_cases hdefault : sources.defaultFile = none
  · exact .inl ⟨hdefault, settings_of_defaultFile_eq_none hdefault⟩
  by_cases hmalformed : sources.IsMalformed
  · exact .inr (.inl ⟨⟨hdefault, hmalformed⟩, settings_of_isMalformed hdefault hmalformed⟩)
  obtain ⟨defaults, ofMode, hlayers⟩ := exists_hasLayers hdefault hmalformed
  refine .inr (.inr ⟨defaults, ofMode, hlayers, fun error herror => ?_⟩)
  rw [settings_of_hasLayers hlayers] at herror
  exact eq_of_ofLayers_eq_error herror

/-- The default file is missing if it is not there. -/
theorem settings_eq_missing_iff :
    sources.settings = .error .missingFile ↔ sources.defaultFile = none := by
  obtain ⟨hdefault, h⟩ | ⟨⟨hdefault, -⟩, h⟩ | ⟨_, _, hlayers, h⟩ := settings_cases sources
  · exact iff_of_true h hdefault
  · exact iff_of_false (by rw [h]; nofun) hdefault
  · refine iff_of_false (fun hmissing => ?_) hlayers.not_isMalformed.1
    obtain hcause | hcause := h _ hmissing
    · cases hcause
    · cases hcause

/-- A file is malformed if it is there and cannot be read. -/
theorem settings_eq_malformed_iff :
    sources.settings = .error .malformedFile ↔
      sources.defaultFile ≠ none ∧ sources.IsMalformed := by
  obtain ⟨hdefault, h⟩ | ⟨hmalformed, h⟩ | ⟨_, _, hlayers, h⟩ := settings_cases sources
  · exact iff_of_false (by rw [h]; nofun) fun hmalformed => hmalformed.1 hdefault
  · exact iff_of_true h hmalformed
  · refine iff_of_false (fun hfile => ?_) fun hmalformed =>
      hlayers.not_isMalformed.2 hmalformed.2
    obtain hcause | hcause := h _ hfile
    · cases hcause
    · cases hcause

/-- There are settings if and only if there are layers in which each key has a value that counts. -/
theorem settings_eq_ok_iff {settings : Settings} (hplain : IsPlain sources.environment) :
    sources.settings = .ok settings ↔
      ∃ defaults ofMode, sources.HasLayers defaults ofMode ∧
        ∀ key : Key, (sources.effective defaults ofMode key).bind key.convert =
          some (settings.get key) := by
  constructor
  · intro hok
    obtain ⟨-, h⟩ | ⟨-, h⟩ | ⟨defaults, ofMode, hlayers, -⟩ := settings_cases sources
    · rw [h] at hok
      cases hok
    · rw [h] at hok
      cases hok
    · exact ⟨defaults, ofMode, hlayers, (settings_eq_ok_iff_of_hasLayers hplain hlayers).1 hok⟩
  · rintro ⟨defaults, ofMode, hlayers, h⟩
    exact (settings_eq_ok_iff_of_hasLayers hplain hlayers).2 h

/-- Settings from one for each key. -/
def ofKeys (value : (key : Key) → key.Value) : Settings where
  port := value .port
  host := value .host
  apiKey := value .apiKey
  workers := value .workers

/-- Settings from one for each key have these. -/
theorem get_ofKeys (value : (key : Key) → key.Value) (key : Key) :
    (ofKeys value).get key = value key := by
  cases key <;> rfl

/-- Files that can be read fail to give settings only for want of a value for a key, or of one of
the right type. -/
theorem settings_eq_error_iff_of_hasLayers (hplain : IsPlain sources.environment)
    (h : sources.HasLayers defaults ofMode) :
    (∃ error, sources.settings = .error error) ↔
      ∃ key : Key, (sources.effective defaults ofMode key).bind key.convert = none := by
  constructor
  · rintro ⟨error, herror⟩
    by_contra hnone
    have hall (key : Key) :
        ∃ value, (sources.effective defaults ofMode key).bind key.convert = some value :=
      Option.ne_none_iff_exists'.1 fun hkey => hnone ⟨key, hkey⟩
    -- If every key is converted, what they give are the settings.
    choose value hvalue using hall
    have hok : sources.settings = .ok (ofKeys value) :=
      (settings_eq_ok_iff_of_hasLayers hplain h).2 fun key => by rw [get_ofKeys, hvalue]
    rw [hok] at herror
    cases herror
  · rintro ⟨key, hkey⟩
    cases hresult : sources.settings with
    | error error => exact ⟨error, rfl⟩
    | ok settings =>
      have hkeys := (settings_eq_ok_iff_of_hasLayers hplain h).1 hresult key
      rw [hkey] at hkeys
      cases hkeys

/-- If all files are there and can be read, only a key can be at fault. -/
theorem settings_eq_unfit_iff (hplain : IsPlain sources.environment) :
    sources.settings = .error .incomplete ∨ sources.settings = .error .wrongKind ↔
      ∃ defaults ofMode, sources.HasLayers defaults ofMode ∧
        ∃ key : Key, ∀ value, sources.effective defaults ofMode key = some value →
          key.convert value = none := by
  simp only [← Option.bind_eq_none_iff]
  obtain ⟨hdefault, h⟩ | ⟨⟨-, hmalformed⟩, h⟩ | ⟨defaults, ofMode, hlayers, h⟩ :=
    settings_cases sources
  · refine iff_of_false (by rw [h]; nofun) ?_
    rintro ⟨_, _, hlayers, -⟩
    exact hlayers.not_isMalformed.1 hdefault
  · refine iff_of_false (by rw [h]; nofun) ?_
    rintro ⟨_, _, hlayers, -⟩
    exact hlayers.not_isMalformed.2 hmalformed
  constructor
  · intro hunfit
    have hfails : ∃ error, sources.settings = .error error :=
      hunfit.elim (fun h => ⟨_, h⟩) fun h => ⟨_, h⟩
    exact ⟨defaults, ofMode, hlayers, (settings_eq_error_iff_of_hasLayers hplain hlayers).1 hfails⟩
  · rintro ⟨_, _, hlayers, hkey⟩
    obtain ⟨error, herror⟩ := (settings_eq_error_iff_of_hasLayers hplain hlayers).2 hkey
    obtain rfl | rfl := h error herror
    · exact .inl herror
    · exact .inr herror

/-! ## A variable more -/

/-- The sources with a variable set for a key. -/
def Sources.withVariable (sources : Sources) (key : Key) (text : String) : Sources :=
  { sources with environment := sources.environment.set key.variableName text }

section

variable {environment : Environment}

/-- Setting the variable of a key sets no other. -/
theorem variableText?_set (environment : Environment) (key other : Key) (text : String) :
    variableText? (environment.set key.variableName text) other =
      if other = key then some text else variableText? environment other := by
  unfold variableText? Environment.get?
  rw [Environment.lookup_set]
  by_cases h : other = key
  · rw [if_pos h, if_pos (congrArg Key.variableName h)]
    rfl
  · rw [if_neg h, if_neg fun hname => h (variableName_injective hname)]

/-- An environment stays plain when the variable of a key is set. -/
theorem isPlain_set (h : IsPlain environment) (key : Key) (text : String) :
    IsPlain (environment.set key.variableName text) where
  nodup := by
    unfold Environment.set
    rw [List.map_append, List.map_singleton]
    refine List.nodup_append.2 ⟨h.nodup.sublist (List.filter_sublist.map _), by simp, ?_⟩
    intro name hname other hother heq
    obtain ⟨entry, hentry, rfl⟩ := List.mem_map.1 hname
    rw [List.mem_singleton.1 hother] at heq
    exact of_decide_eq_true (List.mem_filter.1 hentry).2 heq
  texts name value hmem := by
    rcases List.mem_append.1 hmem with hmem | hmem
    · exact h.texts name value (List.mem_filter.1 hmem).1
    · cases List.mem_singleton.1 hmem
      exact ⟨text, rfl⟩
  named name value hmem hcounts := by
    rcases List.mem_append.1 hmem with hmem | hmem
    · exact h.named name value (List.mem_filter.1 hmem).1 hcounts
    · cases List.mem_singleton.1 hmem
      exact ⟨key, rfl⟩

end

/-- The variable of a key does not name the mode. -/
theorem modeFile_withVariable (sources : Sources) (key : Key) (text : String) :
    (sources.withVariable key text).modeFile = sources.modeFile := by
  have hmode : modeVariable ≠ key.variableName := by
    cases key <;> decide +kernel
  have hget : (sources.environment.set key.variableName text).get? modeVariable =
      sources.environment.get? modeVariable := by
    unfold Environment.get?
    rw [Environment.lookup_set, if_neg hmode]
  unfold Sources.modeFile
  rw [← hget]
  rfl

/-- Setting the variable of a key leaves the layers of the files as they are. -/
theorem hasLayers_withVariable (sources : Sources) (key : Key) (text : String) :
    (sources.withVariable key text).HasLayers defaults ofMode ↔
      sources.HasLayers defaults ofMode := by
  unfold Sources.HasLayers
  rw [modeFile_withVariable]
  exact Iff.rfl

/-- What is said of other keys makes no difference to a value, unless it comes from an array. -/
theorem value?_beside_above {word : Word} (h : word.isListed = false) :
    (Word.beside.above word).value? = word.value? := by
  cases word with
  | listed value? => cases h
  | silent | beside | hides | gives _ => rfl

/-- Setting the variable of a key gives this key a value, and changes nothing of any other one, if
the server is not described by an array. -/
theorem effective_withVariable (key : Key) (text : String) {other : Key}
    (h : (sources.word defaults ofMode other).isListed = false) :
    (sources.withVariable key text).effective defaults ofMode other =
      if other = key then some (.text text) else sources.effective defaults ofMode other := by
  have hset : (Key.all.any fun other =>
      (variableText? (sources.environment.set key.variableName text) other).isSome) = true :=
    any_variableText? ((variableText?_set _ key key text).trans (if_pos rfl))
  unfold Sources.word at h
  change ((spoken (sources.environment.set key.variableName text) other).above
    (Sources.written defaults ofMode other)).value? = _
  unfold Sources.effective Sources.word
  unfold spoken at h ⊢
  rw [variableText?_set, hset]
  -- The variable is beside any other key, which counts only if the server is an array.
  by_cases hother : other = key
  · rw [if_pos hother, if_pos hother]
    dsimp only
    rw [Word.gives_above]
    rfl
  · rw [if_neg hother, if_neg hother]
    cases hvariable : variableText? sources.environment other with
    | some given => rfl
    | none =>
      rw [hvariable] at h
      dsimp only at h ⊢
      split at h
      · next hany => rw [if_pos rfl, if_pos hany]
      · next hany =>
        rw [if_pos rfl, if_neg hany]
        exact value?_beside_above h

/-- Setting the variable of a key changes the setting of this key, and no other. -/
theorem settings_withVariable_eq_ok_iff {settings changed : Settings}
    (hplain : IsPlain sources.environment) (hlisted : ¬sources.AreListed)
    (hok : sources.settings = .ok settings) (key : Key) (text : String) :
    (sources.withVariable key text).settings = .ok changed ↔
      key.convert (.text text) = some (changed.get key) ∧
        ∀ other, other ≠ key → changed.get other = settings.get other := by
  obtain ⟨defaults, ofMode, hlayers, hkeys⟩ := (settings_eq_ok_iff hplain).1 hok
  have heffective (other : Key) : (sources.withVariable key text).effective defaults ofMode other =
      if other = key then some (.text text) else sources.effective defaults ofMode other :=
    effective_withVariable key text
      (Bool.eq_false_iff.2 fun h => hlisted ⟨defaults, ofMode, hlayers, other, h⟩)
  have hplainSet : IsPlain (sources.withVariable key text).environment :=
    isPlain_set hplain key text
  rw [settings_eq_ok_iff_of_hasLayers hplainSet ((hasLayers_withVariable sources key text).2
    hlayers)]
  simp only [heffective]
  constructor
  · intro hchanged
    refine ⟨by simpa using hchanged key, fun other hother => ?_⟩
    have hkept := hchanged other
    rw [if_neg hother, hkeys] at hkept
    exact (Option.some.inj hkept).symm
  · rintro ⟨hown, hothers⟩ other
    by_cases hother : other = key
    · subst hother
      rw [if_pos rfl]
      exact hown
    · rw [if_neg hother, hothers other hother]
      exact hkeys other

/-! ## The order of the sources -/

/-- What holds of the settings that are read from sources, whatever these are. -/
structure Ordered (sources : Sources) : Prop where
  /-- There are settings if and only if the default file is there, the files that are there can be
  read, and every key has a value that counts, of the right type. Each setting is then read from
  the value that counts for its key. -/
  ok_iff : ∀ settings, sources.settings = .ok settings ↔
    ∃ defaults ofMode, sources.HasLayers defaults ofMode ∧
      ∀ key : Key, (sources.effective defaults ofMode key).bind key.convert =
        some (settings.get key)
  /-- The default file has to be there. -/
  missing_iff : sources.settings = .error .missingFile ↔ sources.defaultFile = none
  /-- The files that are there have to be readable. -/
  malformed_iff : sources.settings = .error .malformedFile ↔
    sources.defaultFile ≠ none ∧ sources.IsMalformed
  /-- Otherwise there are no settings only for want of a value that counts for some key, or because
  it is of another type. -/
  unfit_iff : sources.settings = .error .incomplete ∨ sources.settings = .error .wrongKind ↔
    ∃ defaults ofMode, sources.HasLayers defaults ofMode ∧
      ∃ key : Key, ∀ value, sources.effective defaults ofMode key = some value →
          key.convert value = none
  /-- The variable of a key comes first. -/
  of_variable : ∀ defaults ofMode key text, variableText? sources.environment key = some text →
    sources.effective defaults ofMode key = some (.text text)
  /-- Without it, what the file of the mode gives comes first. -/
  of_mode : ∀ defaults ofMode (key : Key) value, variableText? sources.environment key = none →
    Word.ofLayer key.name key.place ofMode = .gives value →
      sources.effective defaults ofMode key = some value
  /-- Without this either, what the default file gives counts, as far as the file of the mode says
  nothing, or speaks of other keys only. -/
  of_default : ∀ defaults ofMode (key : Key) value, variableText? sources.environment key = none →
    Word.ofLayer key.name key.place ofMode = .silent ∨
        Word.ofLayer key.name key.place ofMode = .beside →
      Word.ofLayer key.name key.place defaults = .gives value →
        sources.effective defaults ofMode key = some value
  /-- Setting the variable of a key overrides its setting, if its text is of the right type, and
  leaves all other settings as they are, unless these come from an array. -/
  overriding : ∀ (key : Key) text settings, ¬sources.AreListed →
    sources.settings = .ok settings → ∀ changed,
      (sources.withVariable key text).settings = .ok changed ↔
        key.convert (.text text) = some (changed.get key) ∧
          ∀ other, other ≠ key → changed.get other = settings.get other
  /-- Sources whose value that counts for a key is the same have the same setting for it, whatever
  they say of other keys. -/
  independent : ∀ (others : Sources) settings changed (key : Key), others.ArePlain →
    sources.settings = .ok settings → others.settings = .ok changed →
      (∀ defaults ofMode othersDefaults othersOfMode, sources.HasLayers defaults ofMode →
        others.HasLayers othersDefaults othersOfMode →
          others.effective othersDefaults othersOfMode key =
            sources.effective defaults ofMode key) →
      changed.get key = settings.get key

/-- A default file with all keys. -/
def defaultText : String :=
  "[server]\nport = 9191\nhost = \"127.0.0.1\"\napi_key = \"secret\"\nworkers = 2\n"

/-- The settings that this file gives. -/
def defaultSettings : Settings := ⟨9191, "127.0.0.1", "secret", 2⟩

/-- A default file with all keys, and a file of the mode. -/
def sourcesWith (modeText : String) : Sources where
  directory := "config"
  content name :=
    if name = "config/default.toml" then some defaultText
    else if name = "config/development.toml" then some modeText
    else none
  environment := []

end MetricGateway.Settings
