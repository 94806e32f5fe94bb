import FunctionSynthesis.Proofs.Attempt
import FunctionSynthesis.Proofs.Toml.Document
import FunctionSynthesis.Settings.Tables

/-!
# Settings in their places

Every setting, the limits among them, has one table and one name there. Reading the tables of a
file puts each value into the setting of its place and leaves the others as they are, whatever
the order of the tables is (`get_foldl_placeTable`). Tables are read when all of their names are
known, and if they are not, the file is refused (`ofTables_cases`).
-/

namespace FunctionSynthesis

namespace Settings

/-! ### Slots -/

/-- A setting, which may be a limit. -/
inductive Slot where
  | maxSize
  | timeoutSeconds
  | maxPoolSize
  | maxLiteralLength
  | executor
  | python
  | exampleTimeoutSeconds
  | logLevel
  | logFormat
  | maxArrayArity
  | arithmeticConstants
  | constantPairs
  | variableTriples
  | concatConstants
  deriving DecidableEq

namespace Slot

/-- The settings in the order in which they are written. -/
def all : List Slot :=
  [maxSize, timeoutSeconds, maxPoolSize, maxLiteralLength, executor, python,
    exampleTimeoutSeconds, logLevel, logFormat, maxArrayArity, arithmeticConstants,
    constantPairs, variableTriples, concatConstants]

/-- The table that a setting stands in. -/
def table : Slot → String
  | maxSize | timeoutSeconds => "search"
  | maxPoolSize | maxLiteralLength => "pools"
  | executor | python | exampleTimeoutSeconds => "executor"
  | logLevel | logFormat => "logging"
  | maxArrayArity | arithmeticConstants | constantPairs | variableTriples | concatConstants =>
      "limits"

/-- The name of a setting in its table. -/
def name : Slot → String
  | maxSize => "max_size"
  | timeoutSeconds => "timeout_seconds"
  | maxPoolSize => "max_pool_size"
  | maxLiteralLength => "max_literal_length"
  | executor => "kind"
  | python => "python"
  | exampleTimeoutSeconds => "example_timeout_seconds"
  | logLevel => "level"
  | logFormat => "format"
  | maxArrayArity => "max_array_arity"
  | arithmeticConstants => "arithmetic_constants"
  | constantPairs => "constant_pairs"
  | variableTriples => "variable_triples"
  | concatConstants => "concat_constants"

def get : Slot → Settings → Value
  | maxSize, s => s.maxSize
  | timeoutSeconds, s => s.timeoutSeconds
  | maxPoolSize, s => s.maxPoolSize
  | maxLiteralLength, s => s.maxLiteralLength
  | executor, s => s.executor
  | python, s => s.python
  | exampleTimeoutSeconds, s => s.exampleTimeoutSeconds
  | logLevel, s => s.logLevel
  | logFormat, s => s.logFormat
  | maxArrayArity, s => s.limits.maxArrayArity
  | arithmeticConstants, s => s.limits.arithmeticConstants
  | constantPairs, s => s.limits.constantPairs
  | variableTriples, s => s.limits.variableTriples
  | concatConstants, s => s.limits.concatConstants

def set : Slot → Settings → Value → Settings
  | maxSize, s, v => { s with maxSize := v }
  | timeoutSeconds, s, v => { s with timeoutSeconds := v }
  | maxPoolSize, s, v => { s with maxPoolSize := v }
  | maxLiteralLength, s, v => { s with maxLiteralLength := v }
  | executor, s, v => { s with executor := v }
  | python, s, v => { s with python := v }
  | exampleTimeoutSeconds, s, v => { s with exampleTimeoutSeconds := v }
  | logLevel, s, v => { s with logLevel := v }
  | logFormat, s, v => { s with logFormat := v }
  | maxArrayArity, s, v => { s with limits := { s.limits with maxArrayArity := v } }
  | arithmeticConstants, s, v => { s with limits := { s.limits with arithmeticConstants := v } }
  | constantPairs, s, v => { s with limits := { s.limits with constantPairs := v } }
  | variableTriples, s, v => { s with limits := { s.limits with variableTriples := v } }
  | concatConstants, s, v => { s with limits := { s.limits with concatConstants := v } }

theorem mem_all (slot : Slot) : slot ∈ all := by
  cases slot <;> decide

/-- A place is that of one setting. -/
theorem eq_of_place {slot other : Slot} (table : slot.table = other.table)
    (name : slot.name = other.name) : slot = other := by
  have places : ∀ a ∈ all, ∀ b ∈ all, a.table = b.table → a.name = b.name → a = b := by decide
  exact places slot slot.mem_all other other.mem_all table name

theorem get_set (slot other : Slot) (settings : Settings) (v : Value) :
    slot.get (other.set settings v) = if slot = other then v else slot.get settings := by
  cases other <;> cases slot <;> rfl

/-- Settings are all that is in their slots. -/
theorem ext {a b : Settings} (same : ∀ slot : Slot, slot.get a = slot.get b) : a = b := by
  obtain ⟨_, _, _, _, _, _, _, ⟨_, _, _, _, _⟩, _, _⟩ := a
  obtain ⟨_, _, _, _, _, _, _, ⟨_, _, _, _, _⟩, _, _⟩ := b
  simp only [Settings.mk.injEq, Limits.mk.injEq]
  exact ⟨same maxSize, same timeoutSeconds, same maxPoolSize, same maxLiteralLength,
    same executor, same python, same exampleTimeoutSeconds,
    ⟨same maxArrayArity, same arithmeticConstants, same constantPairs, same variableTriples,
      same concatConstants⟩, same logLevel, same logFormat⟩

end Slot

/-! ### Values in their places -/

/-- Put the value of an entry of a table into its setting, if there is one. -/
def place (table : String) (settings : Settings) (entry : Value × Value) : Settings :=
  match Slot.all.find? fun slot => slot.table == table && entry.1 == .str slot.name with
  | some slot => slot.set settings entry.2
  | none => settings

/-- Put the values of a table into their settings. -/
def placeTable (settings : Settings) : Value × Value → Settings
  | (.str table, .dict entries) => entries.foldl (place table) settings
  | _ => settings

variable {table name : String} {entries : Entries} {settings : Settings}

theorem place_eq_set {slot : Slot} (isTable : slot.table = table) (v : Value) :
    place table settings (.str slot.name, v) = slot.set settings v := by
  subst isTable
  cases slot <;> rfl

theorem get_place (slot : Slot) (table name : String) (settings : Settings) (v : Value) :
    slot.get (place table settings (.str name, v)) =
      if slot.table = table ∧ slot.name = name then v else slot.get settings := by
  unfold place
  split
  next other found =>
    have isPlace := List.find?_some found
    simp only [Bool.and_eq_true, beq_iff_eq, Value.beq_str_iff, Value.str.injEq] at isPlace
    obtain ⟨rfl, rfl⟩ := isPlace
    rw [Slot.get_set]
    refine if_congr ⟨?_, fun ⟨isTable, isName⟩ => Slot.eq_of_place isTable isName⟩ rfl rfl
    rintro rfl
    exact ⟨rfl, rfl⟩
  next missing =>
    rw [if_neg]
    rintro ⟨rfl, rfl⟩
    have other := List.find?_eq_none.1 missing slot slot.mem_all
    simp [Value.beq_str_iff] at other

/-- What a table says about a setting takes the place of what was there. -/
theorem get_foldl_place (slot : Slot) (named : entries.AreNamed) (settings : Settings) :
    slot.get (entries.foldl (place table) settings) =
      if slot.table = table then (entries.valueOf? (.str slot.name)).getD (slot.get settings)
      else slot.get settings := by
  induction entries generalizing settings with
  | nil => simp [Entries.valueOf?]
  | cons entry entries ih =>
      obtain ⟨k, v⟩ := entry
      obtain ⟨name, rfl : k = .str name⟩ := named.texts _ List.mem_cons_self
      -- No later entry has the name of this one, so what it puts in its place stays there.
      rw [List.foldl_cons, ih named.tail, get_place, Entries.valueOf?_cons]
      by_cases isTable : slot.table = table
      · by_cases same : name = slot.name
        · subst same
          simp [isTable, named.valueOf?_eq_none]
        · simp [isTable, same, Ne.symm same]
      · simp [isTable]

theorem get_placeTable (slot : Slot) (table : String) {v : Value} (named : v.IsNamed)
    (settings : Settings) :
    slot.get (placeTable settings (.str table, v)) =
      if table = slot.table then (v.get? slot.name).getD (slot.get settings)
      else slot.get settings := by
  cases v with
  | dict entries =>
      refine (get_foldl_place slot (Value.isNamed_dict_iff.1 named).1 settings).trans ?_
      exact if_congr eq_comm rfl rfl
  | _ => exact (ite_self _).symm

/-- The value that data have for a setting. -/
def Slot.valueIn? (slot : Slot) (data : Value) : Option Value :=
  (data.get? slot.table).bind (Value.get? slot.name)

/-- What tables say about a setting takes the place of what was there. -/
theorem get_foldl_placeTable (slot : Slot) (named : (Value.dict entries).IsNamed)
    (settings : Settings) :
    slot.get (entries.foldl placeTable settings) =
      (slot.valueIn? (.dict entries)).getD (slot.get settings) := by
  induction entries generalizing settings with
  | nil => rfl
  | cons entry entries ih =>
      obtain ⟨keys, values⟩ := Value.isNamed_dict_iff.1 named
      obtain ⟨here, later⟩ := List.forall_mem_cons.1 values
      obtain ⟨k, v⟩ := entry
      obtain ⟨table, rfl : k = .str table⟩ := keys.texts _ List.mem_cons_self
      rw [List.foldl_cons, ih (Value.isNamed_dict_iff.2 ⟨keys.tail, later⟩),
        get_placeTable slot table here]
      have found := Entries.valueOf?_cons table slot.table v entries
      by_cases same : table = slot.table
      · subst same
        simp [Slot.valueIn?, Value.get?, found, keys.valueOf?_eq_none]
      · simp [Slot.valueIn?, Value.get?, found, same]

/-! ### Reading tables -/

/-- Whether a failure says that a file with settings is not as it should be. -/
def IsRefusal (file : Option String) (failure : Failure) : Prop :=
  ∃ message, failure = .problem (.configuration message file [])

variable {interpreter : String} {file : Option String}

theorem withEntry_of_slot {slot : Slot} (other : slot.table ≠ limitsTable)
    (settings : Settings) (v : Value) :
    withEntry file slot.table settings (.str slot.name, v) = .ok (slot.set settings v) := by
  cases slot <;> first | rfl | exact absurd rfl other

theorem withEntry_of_no_slot {entry : Value × Value}
    (unknown : ∀ slot : Slot, slot.table = table → entry.1 ≠ .str slot.name) :
    ∃ failure, withEntry file table settings entry = .error failure ∧
      IsRefusal file failure := by
  have slots : ∀ p ∈ places, ∃ slot ∈ Slot.all, slot.table = p.table ∧ slot.name = p.key := by
    decide
  have missing : fieldAt? table entry.1 = none := by
    unfold fieldAt?
    rw [List.find?_eq_none.2]
    · rfl
    · intro p member isPlace
      obtain ⟨slot, _, isTable, isName⟩ := slots p member
      simp only [Bool.and_eq_true, beq_iff_eq, Value.beq_str_iff] at isPlace
      exact unknown slot (isTable.trans isPlace.1) (isPlace.2.trans (by rw [isName]))
  unfold withEntry
  rw [missing]
  exact ⟨_, rfl, _, rfl⟩

/-! ### Limits -/

/-- Whether a key is the name of a limit. -/
def IsLimitName (key : Value) : Prop :=
  ∃ slot : Slot, slot.table = limitsTable ∧ key = .str slot.name

theorem contains_limitNames_iff (limits : Limits) (key : Value) :
    ((limits.fields.map fun (name, _) => Value.str name).contains key) = true ↔
      IsLimitName key := by
  have names : (limits.fields.map fun (name, _) => Value.str name) =
      (Slot.all.filter fun slot => slot.table = limitsTable).map fun slot => .str slot.name := rfl
  rw [names, List.contains_eq_any_beq, List.any_eq_true]
  constructor
  · rintro ⟨word, member, same⟩
    obtain ⟨slot, inside, rfl⟩ := List.mem_map.1 member
    exact ⟨slot, by simpa using (List.mem_filter.1 inside).2, (Value.beq_str_iff _ _).1 same⟩
  · rintro ⟨slot, isTable, rfl⟩
    refine ⟨.str slot.name, List.mem_map_of_mem (List.mem_filter.2 ⟨slot.mem_all, ?_⟩),
      (Value.beq_str_iff _ _).2 rfl⟩
    exact decide_eq_true isTable

theorem setLimit_eq_set {slot : Slot} (isTable : slot.table = limitsTable) (settings : Settings)
    (v : Value) :
    { settings with limits := setLimit settings.limits (.str slot.name) v } =
      slot.set settings v := by
  cases slot <;> first | rfl | exact absurd isTable (by decide)

theorem withLimits_of_known (limits : Limits) (known : ∀ inner ∈ entries, IsLimitName inner.1) :
    withLimits file limits entries =
      .ok (entries.foldl (fun limits e => setLimit limits e.1 e.2) limits) := by
  have unknown : (entries.map Prod.fst).filter (fun name =>
      !(limits.fields.map fun (name, _) => Value.str name).contains name) = [] := by
    rw [List.filter_eq_nil_iff, List.forall_mem_map]
    intro inner member
    simp only [(contains_limitNames_iff limits inner.1).2 (known inner member)]
    decide
  unfold withLimits
  dsimp only
  rw [unknown]
  rfl

theorem withLimits_of_unknown (limits : Limits) (named : entries.AreNamed)
    (unknown : ¬ ∀ inner ∈ entries, IsLimitName inner.1) :
    ∃ failure, withLimits file limits entries = .error failure ∧ IsRefusal file failure := by
  unfold withLimits
  dsimp only
  rw [if_neg]
  · have texts : ((entries.map Prod.fst).filter fun name =>
        !(limits.fields.map fun (name, _) => Value.str name).contains name).all
          (fun name => name.text?.isSome) = true := by
      rw [List.all_eq_true]
      intro key member
      obtain ⟨inner, inside, rfl⟩ := List.mem_map.1 (List.mem_filter.1 member).1
      obtain ⟨name, isName⟩ := named.texts inner inside
      rw [isName]
      rfl
    unfold listed
    rw [if_pos texts]
    exact ⟨_, rfl, _, rfl⟩
  · intro none
    refine unknown fun inner member => ?_
    rw [List.isEmpty_iff, List.filter_eq_nil_iff, List.forall_mem_map] at none
    exact (contains_limitNames_iff limits inner.1).1 (by simpa using none inner member)

theorem foldl_setLimit (known : ∀ inner ∈ entries, IsLimitName inner.1) (settings : Settings) :
    { settings with
        limits := entries.foldl (fun limits e => setLimit limits e.1 e.2) settings.limits } =
      entries.foldl (place limitsTable) settings := by
  induction entries generalizing settings with
  | nil => rfl
  | cons entry entries ih =>
      obtain ⟨⟨slot, isTable, isName⟩, later⟩ := List.forall_mem_cons.1 known
      obtain ⟨k, v⟩ := entry
      obtain rfl : k = .str slot.name := isName
      rw [List.foldl_cons, List.foldl_cons, place_eq_set isTable, ← setLimit_eq_set isTable,
        ← ih later]

/-! ### Tables -/

/-- Whether an entry of a table is a setting. -/
def IsKnownIn (table : String) (entry : Value × Value) : Prop :=
  ∃ slot : Slot, slot.table = table ∧ entry.1 = .str slot.name

/-- Whether an entry is a table of settings. -/
def IsKnownTable (entry : Value × Value) : Prop :=
  ∃ table entries, entry = (.str table, .dict entries) ∧ (∃ slot : Slot, slot.table = table) ∧
    ∀ inner ∈ entries, IsKnownIn table inner

theorem withEntry_of_known {entry : Value × Value} (known : IsKnownIn table entry)
    (other : table ≠ limitsTable) (settings : Settings) :
    withEntry file table settings entry = .ok (place table settings entry) := by
  obtain ⟨slot, rfl, isName⟩ := known
  obtain ⟨k, v⟩ := entry
  obtain rfl : k = .str slot.name := isName
  rw [withEntry_of_slot other, place_eq_set rfl]

theorem withEntry_of_unknown {entry : Value × Value} (unknown : ¬ IsKnownIn table entry)
    (settings : Settings) :
    ∃ failure, withEntry file table settings entry = .error failure ∧ IsRefusal file failure :=
  withEntry_of_no_slot fun slot isTable isName => unknown ⟨slot, isTable, isName⟩

theorem find?_tables (slot : Slot) :
    (tables.find? fun table => Value.str slot.table == .str table) = some slot.table := by
  cases slot <;> rfl

theorem exists_slot_of_mem_tables {table : String} (isTable : table ∈ tables) :
    ∃ slot : Slot, slot.table = table := by
  have all : ∀ table ∈ tables, ∃ slot ∈ Slot.all, slot.table = table := by decide
  obtain ⟨slot, _, same⟩ := all table isTable
  exact ⟨slot, same⟩

theorem withTable_of_known {entry : Value × Value} (known : IsKnownTable entry)
    (settings : Settings) :
    withTable file settings entry = .ok (placeTable settings entry) := by
  obtain ⟨_, entries, rfl, ⟨slot, rfl⟩, known⟩ := known
  unfold withTable
  dsimp only
  rw [find?_tables]
  dsimp only
  split
  next isTable =>
    rw [isTable] at known ⊢
    rw [withLimits_of_known settings.limits known]
    exact congrArg Except.ok (foldl_setLimit known settings)
  next other =>
    exact Attempt.foldlM_eq_ok
      (fun inner member => withEntry_of_known (known inner member) other) settings

theorem withTable_of_unknown {entry : Value × Value} (text : ∃ name, entry.1 = .str name)
    (named : entry.2.IsNamed) (unknown : ¬ IsKnownTable entry) (settings : Settings) :
    ∃ failure, withTable file settings entry = .error failure ∧ IsRefusal file failure := by
  obtain ⟨k, v⟩ := entry
  obtain ⟨table, rfl : k = .str table⟩ := text
  unfold withTable
  split
  next => exact ⟨_, rfl, _, rfl⟩
  next table' found =>
    have same := List.find?_some found
    obtain rfl : table = table' := Value.str.inj ((Value.beq_str_iff _ _).1 same)
    obtain ⟨slot, isTable⟩ := exists_slot_of_mem_tables (List.mem_of_find?_eq_some found)
    split
    next entries isDictionary =>
      obtain rfl : v = .dict entries := isDictionary
      have unknown' : ¬ ∀ inner ∈ entries, IsKnownIn table inner :=
        fun known => unknown ⟨table, entries, rfl, ⟨slot, isTable⟩, known⟩
      split
      next isLimits =>
        subst isLimits
        obtain ⟨failure, failed, refusal⟩ := withLimits_of_unknown settings.limits
          (Value.isNamed_dict_iff.1 named).1 unknown'
        rw [failed]
        exact ⟨failure, rfl, refusal⟩
      next other =>
        exact Attempt.foldlM_eq_error
          (fun inner _ known settings => ⟨_, withEntry_of_known known other settings⟩)
          (fun inner _ missing => withEntry_of_unknown missing) unknown' settings
    next => exact ⟨_, rfl, _, rfl⟩

/-- Tables of settings are read into the settings at their places. -/
theorem ofTables_of_known (known : ∀ entry ∈ entries, IsKnownTable entry) :
    ofTables interpreter file (.dict entries) =
      .ok (entries.foldl placeTable (standard interpreter)) :=
  Attempt.foldlM_eq_ok (fun entry member => withTable_of_known (known entry member)) _

theorem ofTables_of_unknown (named : (Value.dict entries).IsNamed)
    (unknown : ¬ ∀ entry ∈ entries, IsKnownTable entry) :
    ∃ failure, ofTables interpreter file (.dict entries) = .error failure ∧
      IsRefusal file failure := by
  obtain ⟨keys, values⟩ := Value.isNamed_dict_iff.1 named
  exact Attempt.foldlM_eq_error
    (fun entry _ known settings => ⟨_, withTable_of_known known settings⟩)
    (fun entry member missing =>
      withTable_of_unknown (keys.texts entry member) (values entry member) missing) unknown _

/-- Whether settings are those of data: there is nothing else in the data than tables of
settings, and each setting has the value that is given for it, or else its default in
surroundings with an interpreter of their own. -/
structure IsReadFrom (interpreter : String) (settings : Settings) (data : Value) : Prop where
  known : ∃ entries, data = .dict entries ∧ ∀ entry ∈ entries, IsKnownTable entry
  stored : ∀ slot : Slot,
    slot.get settings = (slot.valueIn? data).getD (slot.get (standard interpreter))

theorem IsReadFrom.unique {a b : Settings} {data : Value} (here : a.IsReadFrom interpreter data)
    (there : b.IsReadFrom interpreter data) : a = b :=
  Slot.ext fun slot => (here.stored slot).trans (there.stored slot).symm

/-- What becomes of data that are read as tables. -/
theorem ofTables_cases (interpreter : String) (file : Option String) {data : Value}
    (named : data.IsNamed) :
    (∃ settings, ofTables interpreter file data = .ok settings ∧
        settings.IsReadFrom interpreter data) ∨
      (∃ failure, ofTables interpreter file data = .error failure ∧ IsRefusal file failure) ∧
        (∃ entries, data = .dict entries) ∧
        (∀ settings : Settings, ¬ settings.IsReadFrom interpreter data) ∨
      (∃ fault, ofTables interpreter file data = .error (.fault fault)) ∧
        ∀ entries, data ≠ .dict entries := by
  cases data with
  | dict entries =>
      by_cases known : ∀ entry ∈ entries, IsKnownTable entry
      · exact Or.inl ⟨_, ofTables_of_known known, ⟨entries, rfl, known⟩,
          fun slot => get_foldl_placeTable slot named _⟩
      · refine Or.inr (Or.inl ⟨ofTables_of_unknown named known, ⟨entries, rfl⟩, ?_⟩)
        rintro settings ⟨⟨_, same, known'⟩, _⟩
        obtain rfl := Value.dict.inj same
        exact known known'
  | _ => exact Or.inr (Or.inr ⟨⟨_, rfl⟩, nofun⟩)

end Settings

end FunctionSynthesis
