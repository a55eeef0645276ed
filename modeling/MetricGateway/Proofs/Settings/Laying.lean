import Mathlib.Data.List.Induction
import MetricGateway.Settings

/-!
# Laying layers over one another

What the layers so far say of a key of the server is a `Word`, which a further layer is put over
entry by entry. The value that stands for the server when all layers are laid is told by the words
on its keys (`tells_lay`). In a table, a value that is not a table stands under its key as it was
given last, and where nothing was given there is nothing, or an empty table, which no setting is
read from. An array gives each key the value in its place, for as long as nothing else is said of
the server.

The proof carries `Word.Shows` from the value of one key to the table of the server, and
`Word.Tells` from there to the whole, each time by induction on the entries that are laid over what
is there.
-/

namespace MetricGateway.Setting

/-! ## Words on a key -/

/-- What layers say of a key. -/
inductive Word where
  /-- Nothing, so that what lies below counts. -/
  | silent
  /-- Nothing of this key, but something of others: what lies below counts unless it is an array. -/
  | beside
  /-- That there is no value, whatever lies below. -/
  | hides
  | gives (value : Setting)
  /-- That the server is an array, with this value in the place of the key. -/
  | listed (value? : Option Setting)

namespace Word

/-- What two words say together, the upper one first. -/
def above : Word → Word → Word
  | silent, lower => lower
  | beside, silent => beside
  | beside, listed _ => hides
  | beside, lower => lower
  | upper, _ => upper

/-- The value that is given. -/
def value? : Word → Option Setting
  | gives value => some value
  | listed value? => value?
  | _ => none

/-- Whether a word says that the server is an array. -/
def isListed : Word → Bool
  | listed _ => true
  | _ => false

/-- Where nothing lies below, a word says what it says. -/
@[simp]
theorem above_silent (word : Word) : word.above silent = word := by
  cases word <;> rfl

/-- Where something is given, what lies below does not count. -/
@[simp]
theorem gives_above (value : Setting) (lower : Word) : (gives value).above lower = gives value := by
  cases lower <;> rfl

/-- Words can be put over each other in any grouping. -/
theorem above_assoc (first second third : Word) :
    (first.above second).above third = first.above (second.above third) := by
  cases first <;> cases second <;> cases third <;> rfl

/-- What is said of other keys hides an array. -/
theorem isListed_beside_above (word : Word) : (beside.above word).isListed = false := by
  cases word <;> rfl

/-- An array has to be said by one of two words. -/
theorem isListed_above {first second : Word} (hfirst : first.isListed = false)
    (hsecond : second.isListed = false) : (first.above second).isListed = false := by
  cases first <;> cases second <;> simp_all [isListed, above]

/-- What entries say one after the other, a later one over those before it. -/
def ofList {α : Type} (say : α → Word) (entries : List α) : Word :=
  entries.foldl (fun word entry => (say entry).above word) silent

section

variable {α : Type} {say : α → Word}

/-- What entries say over a word is what they say together, over this word. -/
theorem foldl_above (entries : List α) (word : Word) :
    entries.foldl (fun word entry => (say entry).above word) word =
      (ofList say entries).above word := by
  unfold ofList
  induction entries generalizing word with
  | nil => rfl
  | cons entry rest ih =>
    rw [List.foldl_cons, List.foldl_cons, ih, ih ((say entry).above silent), above_assoc,
      above_silent]

/-- Later entries are over earlier ones. -/
theorem ofList_append (entries later : List α) :
    ofList say (entries ++ later) = (ofList say later).above (ofList say entries) := by
  rw [ofList, List.foldl_append, foldl_above]
  rfl

/-- One entry says what it says. -/
theorem ofList_singleton (entry : α) : ofList say [entry] = say entry :=
  above_silent _

/-- The first entry is under the others. -/
theorem ofList_cons (entry : α) (rest : List α) :
    ofList say (entry :: rest) = (ofList say rest).above (say entry) := by
  rw [← List.singleton_append, ofList_append, ofList_singleton]

/-- The last entry is over the others. -/
theorem ofList_concat (entries : List α) (entry : α) :
    ofList say (entries ++ [entry]) = (say entry).above (ofList say entries) := by
  rw [ofList_append, ofList_singleton]

/-- Entries of which none says that there is an array do not say it together. -/
theorem isListed_ofList (h : ∀ entry, (say entry).isListed = false) (entries : List α) :
    (ofList say entries).isListed = false := by
  induction entries with
  | nil => rfl
  | cons entry rest ih =>
    rw [ofList_cons]
    exact isListed_above ih (h entry)

end

/-- What a value says of its own key. An empty table says nothing. -/
def ofValue : Setting → Word
  | table [] => silent
  | value => gives value

/-- What an entry of a table says of a key. -/
def ofEntry (key : String) (entry : String × Setting) : Word :=
  if entry.1 = key then ofValue entry.2 else silent

/-- What a value for the server says of a key, which has a place if the value is an array. Entries
of which none is about the key say something of others, and any other value than a table or an array
hides all that lies below. -/
def ofServer (key : String) (place : Nat) : Setting → Word
  | table [] => silent
  | table entries => (ofList (ofEntry key) entries).above beside
  | list values => listed values[place]?
  | _ => hides

/-- What a value under a path says of a key of the server. -/
def ofPath (key : String) (place : Nat) (value : Setting) : List String → Word
  | [] => silent
  | first :: rest => if first = "server" then ofServer key place (under value rest) else silent

/-- What a layer says of a key of the server. -/
def ofLayer (key : String) (place : Nat) : List (String × Setting) → Word :=
  ofList fun (name, value) => ofPath key place value (pathOf name)

/-! ## Words and values -/

/-- Whether a word shows what is under a key: a value that is no table as it is, and of tables that
there is one. Where there is no value there may be an empty table all the same. -/
def Shows : Word → Option Setting → Prop
  | gives (table _), there => ∃ entries, there = some (table entries)
  | gives value, there => there = some value
  | _, there => there = none ∨ there = some (table [])

/-- Whether a word tells what the server is, as far as a key goes: an array with the value in its
place, or else nothing of the kind, with what the word shows under the key. -/
def Tells (key : String) (place : Nat) (word : Word) (server : Option Setting) : Prop :=
  match word with
  | listed value? => ∃ values, server = some (list values) ∧ values[place]? = value?
  | word => (∀ values, server ≠ some (list values)) ∧
      word.Shows ((server.getD (table [])).entries.lookup key)

/-- A word that does not speak of an array tells what is under the key. -/
theorem tells_of_isListed_eq_false {key : String} {place : Nat} {word : Word}
    {server : Option Setting} (hword : word.isListed = false)
    (hserver : ∀ values, server ≠ some (list values))
    (h : word.Shows ((server.getD (table [])).entries.lookup key)) :
    word.Tells key place server := by
  cases word with
  | listed value? => cases hword
  | silent | beside | hides | gives _ => exact ⟨hserver, h⟩

/-- A table without entries is like nothing at all. -/
theorem tells_table_nil {key : String} {place : Nat} {word : Word}
    (h : word.Tells key place none) : word.Tells key place (some (table [])) := by
  cases word with
  | listed value? =>
    obtain ⟨values, hnone, -⟩ := h
    cases hnone
  | silent | beside | hides | gives _ => exact ⟨nofun, h.2⟩

/-- What a word tells is shown under the key when something of another key is said over it. An array
has no keys. -/
theorem shows_beside_above {key : String} {place : Nat} {word : Word} {server : Option Setting}
    (h : word.Tells key place server) :
    (beside.above word).Shows ((server.getD (table [])).entries.lookup key) := by
  cases word with
  | listed value? =>
    obtain ⟨values, rfl, -⟩ := h
    exact .inl rfl
  | silent | beside | hides | gives _ => exact h.2

end Word

open Word

variable {word : Word} {key name : String} {place : Nat} {there value : Setting}
  {stood : Option Setting} {entries incoming : List (String × Setting)}

/-- The first entry counts for its own key. -/
theorem lookup_cons_eq {α : Type} (key name : String) (value : α) (entries : List (String × α)) :
    ((name, value) :: entries).lookup key =
      if name = key then some value else entries.lookup key := by
  rw [List.lookup_cons]
  by_cases h : name = key
  · rw [if_pos h, beq_iff_eq.2 h.symm]
  · rw [if_neg h, beq_eq_false_iff_ne.2 (Ne.symm h)]

/-- What is put under a key stands there, and nothing else changes. -/
theorem lookup_putEntry (key name : String) (value : Setting)
    (entries : List (String × Setting)) :
    (putEntry name value entries).lookup key =
      if name = key then some value else entries.lookup key := by
  induction entries with
  | nil => exact lookup_cons_eq key name value []
  | cons entry rest ih =>
    obtain ⟨other, old⟩ := entry
    unfold putEntry
    by_cases hother : other = name
    · rw [if_pos hother, hother, lookup_cons_eq, lookup_cons_eq]
      split
      · rfl
      · rfl
    · rw [if_neg hother, lookup_cons_eq, lookup_cons_eq, ih]
      by_cases h : name = key
      · rw [if_pos h, if_pos h, if_neg (h ▸ hother)]
      · rw [if_neg h, if_neg h]

/-- Entries turn whatever they are laid over into a table. -/
theorem exists_layEntries_cons (there : Setting) (entry : String × Setting)
    (rest : List (String × Setting)) :
    ∃ entries, layEntries there (entry :: rest) = table entries := by
  induction rest generalizing there entry with
  | nil => exact ⟨_, rfl⟩
  | cons next rest ih =>
    rw [layEntries]
    exact ih _ next

/-- What a value says of its key is shown once it is laid over what is there. -/
theorem shows_layOver (value : Setting) (h : word.Shows stood) :
    ((ofValue value).above word).Shows (some (layOver stood value)) := by
  cases value with
  | table incoming =>
    cases incoming with
    | nil =>
      -- An empty table leaves what is there, and puts itself only where there is nothing.
      change word.Shows (some (stood.getD (table [])))
      cases stood with
      | some there => exact h
      | none =>
        match word, h with
        | silent, _ | beside, _ | hides, _ | listed _, _ => exact .inr rfl
        | gives (table _), ⟨_, h⟩ => cases h
    | cons entry rest =>
      obtain ⟨entries, hentries⟩ := exists_layEntries_cons (stood.getD (table [])) entry rest
      change ((gives (table (entry :: rest))).above word).Shows _
      rw [gives_above]
      exact ⟨entries, congrArg some hentries⟩
  | text _ | integer _ | float _ | boolean _ | list _ =>
    unfold ofValue
    rw [gives_above]
    exact rfl

/-! ## The table of the server -/

/-- What a layer says of a key is told by what stands under the key once its entries are laid. -/
theorem shows_layEntries (incoming : List (String × Setting))
    (h : word.Shows (there.entries.lookup key)) :
    ((ofList (ofEntry key) incoming).above word).Shows
      ((layEntries there incoming).entries.lookup key) := by
  -- The induction is on the entries: each is laid over what those before it left.
  induction incoming generalizing there word with
  | nil => exact h
  | cons entry rest ih =>
    obtain ⟨name, value⟩ := entry
    rw [ofList_cons, above_assoc, layEntries]
    refine ih ?_
    change ((ofEntry key (name, value)).above word).Shows
      ((putEntry name (layOver (there.entries.lookup name) value) there.entries).lookup key)
    rw [lookup_putEntry]
    unfold ofEntry
    by_cases hname : name = key
    · subst hname
      rw [if_pos rfl, if_pos rfl]
      exact shows_layOver value h
    · rw [if_neg hname, if_neg hname]
      exact h

/-- No entry of a table says that the server is an array. -/
theorem isListed_ofEntry (key : String) (entry : String × Setting) :
    (ofEntry key entry).isListed = false := by
  unfold ofEntry
  split
  · unfold ofValue
    split
    · rfl
    · rfl
  · rfl

/-- What a value for the server says of a key is told by what the server is once the value is laid
over it. -/
theorem tells_layOver (value : Setting) (h : word.Tells key place stood) :
    ((ofServer key place value).above word).Tells key place (some (layOver stood value)) := by
  cases value with
  | table incoming =>
    cases incoming with
    | nil =>
      -- An empty table makes a table only of nothing, which has no entries either.
      change word.Tells key place (some (stood.getD (table [])))
      cases stood with
      | some there => exact h
      | none => exact tells_table_nil h
    | cons entry rest =>
      change (((ofList (ofEntry key) (entry :: rest)).above beside).above word).Tells key place
        (some (layEntries (stood.getD (table [])) (entry :: rest)))
      obtain ⟨entries, hentries⟩ := exists_layEntries_cons (stood.getD (table [])) entry rest
      have hshows := shows_layEntries (entry :: rest) (shows_beside_above h)
      rw [above_assoc]
      refine tells_of_isListed_eq_false ?_ ?_ hshows
      · exact isListed_above (isListed_ofList (isListed_ofEntry key) _) (isListed_beside_above word)
      · rw [hentries]
        exact nofun
  | list values => exact ⟨values, rfl, rfl⟩
  | text _ | integer _ | float _ | boolean _ => exact ⟨nofun, .inl rfl⟩

/-! ## Layers -/

/-- A path has a first key. -/
theorem pathOf_ne_nil (name : String) : pathOf name ≠ [] := by
  unfold pathOf
  dsimp only
  split
  · exact fun h => List.splitOn_ne_nil '.' _ (List.map_eq_nil_iff.1 h)
  · exact List.cons_ne_nil _ _

/-- One entry of a layer changes the server only if its path begins there. -/
theorem tells_layOver_under (all value : Setting) {path : List String} (hpath : path ≠ [])
    (h : word.Tells key place (all.entries.lookup "server")) :
    ((ofPath key place value path).above word).Tells key place
      ((layOver (some all) (under value path)).entries.lookup "server") := by
  cases path with
  | nil => exact absurd rfl hpath
  | cons first rest =>
    change ((if first = "server" then ofServer key place (under value rest) else silent).above
      word).Tells key place ((putEntry first (layOver (all.entries.lookup first) (under value rest))
        all.entries).lookup "server")
    rw [lookup_putEntry]
    by_cases hfirst : first = "server"
    · rw [if_pos hfirst, if_pos hfirst, hfirst]
      exact tells_layOver _ h
    · rw [if_neg hfirst, if_neg hfirst]
      exact h

/-- The last entry of a layer is laid over all others. -/
theorem lay_concat (all : Setting) (layer : List (String × Setting)) (name : String)
    (value : Setting) :
    lay all (layer ++ [(name, value)]) =
      layOver (some (lay all layer)) (under value (pathOf name)) := by
  unfold lay
  rw [List.foldl_append]
  rfl

/-- What a layer and those below it say of a key tells what the server is once the layer is laid. -/
theorem tells_lay (all : Setting) (layer : List (String × Setting))
    (h : word.Tells key place (all.entries.lookup "server")) :
    ((ofLayer key place layer).above word).Tells key place
      ((lay all layer).entries.lookup "server") := by
  induction layer using List.reverseRecOn with
  | nil => exact h
  | append_singleton layer entry ih =>
    obtain ⟨name, value⟩ := entry
    rw [ofLayer, ofList_concat, above_assoc, lay_concat]
    exact tells_layOver_under _ value (pathOf_ne_nil name) ih

end MetricGateway.Setting
