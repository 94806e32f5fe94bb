import FunctionSynthesis.Proofs.Attempt
import FunctionSynthesis.Proofs.Value.Structure
import FunctionSynthesis.Toml.Reader

/-!
# What TOML documents give

Every dictionary in what is read from a TOML document has texts as its keys, each of them once
(`isNamed_of_ofToml?`). Reading adds a value only under a name that is new, and it changes a
dictionary only in one place at a time.
-/

namespace FunctionSynthesis

/-! ### Dictionaries with names -/

/-- Whether the keys are texts, and none is given twice. -/
structure Entries.AreNamed (entries : Entries) : Prop where
  distinct : entries.HasDistinctKeys
  texts : ∀ entry ∈ entries, ∃ name, entry.1 = .str name

/-- Whether every dictionary in a value has names as its keys. -/
def Value.IsNamed (v : Value) : Prop :=
  v.EveryDictionary Entries.AreNamed

namespace Entries

theorem areNamed_nil : AreNamed [] :=
  ⟨.nil, nofun⟩

theorem exists_key_of_mem_put {entries : Entries} {key value : Value} {entry : Value × Value}
    (member : entry ∈ entries.put key value) :
    entry.1 = key ∨ ∃ earlier ∈ entries, earlier.1 = entry.1 := by
  induction entries with
  | nil => exact Or.inl (by rw [List.mem_singleton.1 member])
  | cons first rest ih =>
      obtain ⟨k, v⟩ := first
      rw [put] at member
      split at member
      · rcases List.mem_cons.1 member with rfl | later
        · exact Or.inr ⟨(k, v), List.mem_cons_self, rfl⟩
        · exact Or.inr ⟨entry, List.mem_cons_of_mem _ later, rfl⟩
      · rcases List.mem_cons.1 member with rfl | later
        · exact Or.inr ⟨(k, v), List.mem_cons_self, rfl⟩
        · refine (ih later).imp_right ?_
          rintro ⟨earlier, inside, same⟩
          exact ⟨earlier, List.mem_cons_of_mem _ inside, same⟩

theorem HasDistinctKeys.put {entries : Entries} (distinct : entries.HasDistinctKeys)
    (key value : Value) : (entries.put key value).HasDistinctKeys := by
  induction entries with
  | nil => exact List.pairwise_singleton _ _
  | cons first rest ih =>
      obtain ⟨k, v⟩ := first
      obtain ⟨fresh, distinct⟩ := List.pairwise_cons.1 distinct
      rw [Entries.put]
      split
      next => exact List.pairwise_cons.2 ⟨fresh, distinct⟩
      next other =>
        refine List.pairwise_cons.2 ⟨fun entry member => ?_, ih distinct⟩
        rcases exists_key_of_mem_put member with same | ⟨earlier, inside, same⟩
        · rw [same]
          exact Bool.eq_false_iff.2 other
        · rw [← same]
          exact fresh earlier inside

theorem AreNamed.put {entries : Entries} (named : entries.AreNamed) (name : String)
    (value : Value) : (entries.put (.str name) value).AreNamed := by
  refine ⟨named.distinct.put _ _, fun entry member => ?_⟩
  rcases exists_key_of_mem_put member with same | ⟨earlier, inside, same⟩
  · exact ⟨name, same⟩
  · rw [← same]
    exact named.texts earlier inside

/-- The first entry counts for its own name only. -/
theorem valueOf?_cons (name other : String) (value : Value) (entries : Entries) :
    valueOf? ((.str name, value) :: entries) (.str other) =
      if name = other then some value else entries.valueOf? (.str other) := by
  unfold valueOf?
  rw [List.find?_cons]
  by_cases same : name = other
  · rw [(Value.beq_str_iff _ _).2 (congrArg Value.str same), if_pos same]
    rfl
  · have differ : (Value.str name == .str other) = false :=
      Bool.eq_false_iff.2 fun equal => same (Value.str.inj ((Value.beq_str_iff _ _).1 equal))
    rw [differ, if_neg same]

/-- After the first entry its name has no other value. -/
theorem AreNamed.valueOf?_eq_none {name : String} {value : Value} {entries : Entries}
    (named : AreNamed ((.str name, value) :: entries)) :
    entries.valueOf? (.str name) = none := by
  rw [Option.eq_none_iff_forall_not_mem]
  intro later found
  have differ := (List.pairwise_cons.1 named.distinct).1 _ (mem_of_valueOf? found)
  rw [(Value.beq_str_iff _ _).2 rfl] at differ
  cases differ

theorem AreNamed.tail {entry : Value × Value} {entries : Entries}
    (named : AreNamed (entry :: entries)) : AreNamed entries :=
  ⟨(List.pairwise_cons.1 named.distinct).2, (List.forall_mem_cons.1 named.texts).2⟩

end Entries

namespace Value

variable {entries : Entries} {name : String} {v : Value}

theorem isNamed_dict_iff :
    (Value.dict entries).IsNamed ↔ entries.AreNamed ∧ ∀ entry ∈ entries, entry.2.IsNamed :=
  everyDictionary_dict entries

theorem isNamed_list_iff {items : List Value} :
    (Value.list items).IsNamed ↔ ∀ item ∈ items, item.IsNamed :=
  everyDictionary_list items

theorem isNamed_empty : (Value.dict []).IsNamed :=
  isNamed_dict_iff.2 ⟨Entries.areNamed_nil, nofun⟩

theorem IsNamed.put (named : (Value.dict entries).IsNamed) (added : v.IsNamed) (name : String) :
    (Value.dict (entries.put (.str name) v)).IsNamed := by
  obtain ⟨keys, values⟩ := isNamed_dict_iff.1 named
  refine isNamed_dict_iff.2 ⟨keys.put name v, fun entry member => ?_⟩
  rcases Entries.exists_mem_of_mem_put member with same | earlier
  · rw [same]
    exact added
  · exact values entry earlier

theorem IsNamed.valueOf? (named : (Value.dict entries).IsNamed)
    (found : entries.valueOf? (.str name) = some v) : v.IsNamed :=
  (isNamed_dict_iff.1 named).2 _ (Entries.mem_of_valueOf? found)

theorem IsNamed.get? {dictionary : Value} (named : dictionary.IsNamed)
    (found : dictionary.get? name = some v) : v.IsNamed := by
  cases dictionary with
  | dict entries => exact named.valueOf? found
  | _ => cases found

end Value

namespace Toml

/-! ### Readings -/

/-- Whether a reading is well formed, without a fault, and has this result. -/
def Gives {α : Type} (reading : Reading α) (result : α) : Prop :=
  reading.run = some (.ok result)

/-- Whether a reading gives only results of one kind. -/
def Yields {α : Type} (kind : α → Prop) (reading : Reading α) : Prop :=
  ∀ result, Gives reading result → kind result

section

variable {α β : Type} {kind : α → Prop}

theorem gives_bind_iff {first : Reading α} {next : α → Reading β} {b : β} :
    Gives (first >>= next) b ↔ ∃ a, Gives first a ∧ Gives (next a) b := by
  unfold Gives
  rw [ExceptT.run_bind]
  rcases first.run with _ | e | a <;> simp [pure]

theorem gives_pure_iff {a b : α} : Gives (pure a) b ↔ a = b := by
  change some (Except.ok a) = some (Except.ok b) ↔ a = b
  simp

theorem gives_lift_iff {found : Option α} {a : α} :
    Gives (liftM found) a ↔ found = some a := by
  cases found <;> simp [Gives]

theorem yields_pure {a : α} (isKind : kind a) : Yields kind (pure a) :=
  fun _ given => gives_pure_iff.1 given ▸ isKind

theorem yields_lift {found : Option α} (each : ∀ a, found = some a → kind a) :
    Yields kind (liftM found) :=
  fun a given => each a (gives_lift_iff.1 given)

theorem yields_bind {first : Reading β} {next : β → Reading α} {between : β → Prop}
    (now : Yields between first) (later : ∀ b, between b → Yields kind (next b)) :
    Yields kind (first >>= next) := by
  intro a given
  obtain ⟨b, here, given⟩ := gives_bind_iff.1 given
  exact later b (now b here) a given

/-- What is read first does not matter for the kind of what is read in the end. -/
theorem yields_after {first : Reading β} {next : β → Reading α}
    (later : ∀ b, Yields kind (next b)) : Yields kind (first >>= next) :=
  have any : Yields (fun _ => True) first := fun _ _ => trivial
  yields_bind any fun b _ => later b

end

/-! ### Scalars -/

/-- Whether no dictionary is in a value. -/
def IsBare (v : Value) : Prop :=
  v.dictionaries = []

theorem IsBare.isNamed {v : Value} (bare : IsBare v) : v.IsNamed := by
  intro entries inside
  rw [bare] at inside
  cases inside

variable {v : Value} {chars rest : List Char}

theorem isBare_of_moment? (read : moment? chars = some (some v, rest)) : IsBare v := by
  -- Whatever the text says is a day or a time on a day, if it is in the calendar.
  have calendar {known : Prop} [Decidable known] {kind plain text : String} {rest' : List Char}
      (read : (if known then some (Value.special kind plain text) else none, rest') =
        (some v, rest)) : IsBare v := by
    have same := congrArg Prod.fst read
    dsimp only at same
    split at same
    · obtain rfl := Option.some.inj same
      rfl
    · cases same
  obtain ⟨⟨day, rest'⟩, _, read⟩ := Option.bind_eq_some_iff.1 read
  dsimp only at read
  split at read
  · exact calendar (Option.some.inj read)
  · split at read
    · exact calendar (Option.some.inj read)
    · exact calendar (Option.some.inj read)

theorem yields_decimalOf (negative : Bool) (whole fraction exponent : List Char) :
    Yields IsBare (decimalOf negative whole fraction exponent) := by
  unfold decimalOf
  split
  · split
    · exact nofun
    · exact yields_pure rfl
  · exact yields_after fun _ => yields_pure rfl

theorem yields_decimal (chars : List Char) :
    Yields (fun found : Value × List Char => IsBare found.1) (decimal chars) :=
  yields_after fun _ => yields_bind (yields_decimalOf _ _ _ _) fun _ bare => yields_pure bare

theorem isBare_of_based? {base : Nat} (read : based? base chars = some (v, rest)) :
    IsBare v := by
  obtain ⟨⟨found, rest'⟩, _, read⟩ := Option.bind_eq_some_iff.1 read
  obtain ⟨values, _, read⟩ := Option.bind_eq_some_iff.1 read
  obtain ⟨rfl, -⟩ := Prod.mk.inj (Option.some.inj read)
  rfl

theorem isBare_of_specialFloat? (read : specialFloat? chars = some (v, rest)) : IsBare v := by
  unfold specialFloat? at read
  dsimp only at read
  split at read
  · obtain ⟨rfl, -⟩ := Prod.mk.inj (Option.some.inj read)
    rfl
  · obtain ⟨rfl, -⟩ := Prod.mk.inj (Option.some.inj read)
    rfl
  · cases read

theorem yields_number (chars : List Char) :
    Yields (fun found : Value × List Char => IsBare found.1) (number chars) := by
  unfold number
  dsimp only
  split
  next step _ based =>
    refine yields_pure ?_
    split at based
    · exact isBare_of_based? based
    · exact isBare_of_based? based
    · exact isBare_of_based? based
    · cases based
  next => exact yields_decimal chars
  next => exact yields_lift fun _ found => isBare_of_specialFloat? found

theorem yields_scalar (chars : List Char) :
    Yields (fun found : Value × List Char => IsBare found.1) (scalar chars) := by
  have quoted : Yields (fun found : Value × List Char => IsBare found.1)
      ((liftM (text? chars) : Reading (String × List Char)) >>= fun found =>
        pure (.str found.1, found.2)) := yields_after fun _ => yields_pure rfl
  unfold scalar
  dsimp only
  split
  · exact quoted
  · exact quoted
  · split
    · exact yields_pure rfl
    · exact yields_pure rfl
    · unfold measurement
      split
      next known =>
        refine yields_bind (yields_lift fun v same => ?_) fun v bare => yields_pure bare
        rw [same] at known
        exact isBare_of_moment? known
      · exact yields_pure rfl
      · exact yields_number _

/-! ### Changes in one place -/

/-- Whether a change of a dictionary leaves names as the keys of what is in it. -/
def KeepsNames (change : Entries → Option Entries) : Prop :=
  ∀ entries changed, (Value.dict entries).IsNamed → change entries = some changed →
    (Value.dict changed).IsNamed

theorem keepsNames_addNew (name : String) (named : v.IsNamed) : KeepsNames (addNew name v) := by
  intro entries changed before added
  unfold addNew at added
  split at added
  · cases added
  · obtain rfl := Option.some.inj added
    exact before.put named name

theorem keepsNames_addTable (name : String) : KeepsNames (addTable name) := by
  intro entries changed before added
  unfold addTable at added
  split at added
  · obtain rfl := Option.some.inj added
    have single := Value.isNamed_list_iff.2 (List.forall_mem_singleton.2 Value.isNamed_empty)
    exact before.put single name
  next items found =>
    obtain rfl := Option.some.inj added
    have listed := Value.isNamed_list_iff.1 (before.valueOf? found)
    refine before.put (Value.isNamed_list_iff.2 fun item member => ?_) name
    rcases List.mem_append.1 member with earlier | last
    · exact listed item earlier
    · rw [List.mem_singleton.1 last]
      exact Value.isNamed_empty
  · cases added

/-- A change at a path is a change of every dictionary on the way. -/
theorem KeepsNames.changeAt {change : Entries → Option Entries} (keeps : KeepsNames change)
    (throughLists : Bool) (path : KeyPath) :
    KeepsNames (changeAt throughLists change path) := by
  induction path with
  | nil => exact keeps
  | cons name path ih =>
      intro entries changed before result
      rw [Toml.changeAt] at result
      -- Nothing is under the name yet, or a dictionary, or a list whose last item stands for it.
      split at result
      · obtain ⟨inner, here, result⟩ := Option.bind_eq_some_iff.1 result
        obtain ⟨made, read, rfl⟩ := Option.map_eq_some_iff.1 here
        obtain rfl := Option.some.inj result
        exact before.put (ih _ _ Value.isNamed_empty read) name
      next found located =>
        obtain ⟨inner, here, result⟩ := Option.bind_eq_some_iff.1 result
        obtain ⟨made, read, rfl⟩ := Option.map_eq_some_iff.1 here
        obtain rfl := Option.some.inj result
        exact before.put (ih _ _ (before.valueOf? located) read) name
      next items located =>
        have listed := Value.isNamed_list_iff.1 (before.valueOf? located)
        split at result
        next last earlier reversed =>
          obtain ⟨made, read, result⟩ := Option.bind_eq_some_iff.1 result
          obtain rfl := Option.some.inj result
          have whole : items = earlier.reverse ++ [.dict last] := by
            rw [← List.reverse_reverse items, reversed, List.reverse_cons]
          rw [whole] at listed
          refine before.put (Value.isNamed_list_iff.2 fun item member => ?_) name
          rcases List.mem_append.1 member with old | new
          · exact listed item (List.mem_append_left _ old)
          · rw [List.mem_singleton.1 new]
            refine ih _ _ (listed (.dict last) ?_) read
            exact List.mem_append_right _ (List.mem_singleton_self _)
        · cases result
      · cases result

/-! ### Values -/

/-- Whether values that are read with this much fuel have names as the keys of dictionaries. -/
structure ReadsNamed (fuel : Nat) : Prop where
  value : ∀ chars, Yields (fun found => found.1.IsNamed) (value fuel chars)
  items : ∀ chars, Yields (fun found => ∀ item ∈ found.1, item.IsNamed) (items fuel chars)
  members : ∀ closed entries chars, (Value.dict entries).IsNamed →
    Yields (fun found => (Value.dict found.1).IsNamed) (members fuel closed entries chars)
  setting : ∀ chars, Yields (fun found => found.2.1.IsNamed) (setting fuel chars)

theorem readsNamed_zero : ReadsNamed 0 :=
  ⟨nofun, nofun, nofun, nofun⟩

variable {fuel : Nat}

theorem ReadsNamed.value_succ (reads : ReadsNamed fuel) (chars : List Char) :
    Yields (fun found => found.1.IsNamed) (Toml.value (fuel + 1) chars) := by
  unfold Toml.value
  split
  next =>
    refine yields_after fun rest => ?_
    split
    · exact yields_pure (Value.isNamed_list_iff.2 nofun)
    · exact yields_bind (reads.items _) fun _ named =>
        yields_pure (Value.isNamed_list_iff.2 named)
  next =>
    split
    · exact yields_pure Value.isNamed_empty
    · exact yields_bind (reads.members _ _ _ Value.isNamed_empty) fun _ named =>
        yields_pure named
  next => exact fun found given => (yields_scalar _ found given).isNamed

theorem ReadsNamed.items_succ (reads : ReadsNamed fuel) (chars : List Char) :
    Yields (fun found => ∀ item ∈ found.1, item.IsNamed) (Toml.items (fuel + 1) chars) := by
  rw [Toml.items]
  refine yields_bind (reads.value chars) fun ⟨item, rest⟩ named => yields_after fun rest => ?_
  split
  · exact yields_pure (List.forall_mem_singleton.2 named)
  · refine yields_after fun rest => ?_
    split
    · exact yields_pure (List.forall_mem_singleton.2 named)
    · exact yields_bind (reads.items _) fun _ more =>
        yields_pure (List.forall_mem_cons.2 ⟨named, more⟩)
  · exact nofun

theorem ReadsNamed.members_succ (reads : ReadsNamed fuel) (closed : List KeyPath)
    (entries : Entries) (chars : List Char) (before : (Value.dict entries).IsNamed) :
    Yields (fun found => (Value.dict found.1).IsNamed)
      (Toml.members (fuel + 1) closed entries chars) := by
  rw [Toml.members]
  refine yields_bind (reads.setting chars) fun ⟨path, item, rest⟩ named => ?_
  refine yields_after fun _ => yields_after fun name => ?_
  refine yields_bind (yields_lift fun changed added =>
    (keepsNames_addNew name named).changeAt false _ entries changed before added) ?_
  intro changed after
  split
  · exact yields_pure after
  · exact reads.members _ _ _ after
  · exact nofun

theorem ReadsNamed.setting_succ (reads : ReadsNamed fuel) (chars : List Char) :
    Yields (fun found => found.2.1.IsNamed) (Toml.setting (fuel + 1) chars) := by
  rw [Toml.setting]
  refine yields_after fun ⟨path, rest⟩ => ?_
  dsimp only
  split
  · exact yields_bind (reads.value _) fun _ named => yields_pure named
  · exact nofun

theorem readsNamed (fuel : Nat) : ReadsNamed fuel := by
  induction fuel with
  | zero => exact readsNamed_zero
  | succ fuel ih =>
      exact ⟨ih.value_succ, ih.items_succ, ih.members_succ, ih.setting_succ⟩

/-! ### Documents -/

variable {draft changed : Draft}

theorem isNamed_of_addSetting {path : KeyPath} (before : (Value.dict draft.entries).IsNamed)
    (named : v.IsNamed) (added : draft.addSetting path v = some changed) :
    (Value.dict changed.entries).IsNamed := by
  -- The steps before the change only look whether it is allowed.
  obtain ⟨name, _, added⟩ := Option.bind_eq_some_iff.1 added
  obtain ⟨_, _, added⟩ := Option.bind_eq_some_iff.1 added
  obtain ⟨_, _, added⟩ := Option.bind_eq_some_iff.1 added
  obtain ⟨entries, here, added⟩ := Option.bind_eq_some_iff.1 added
  obtain rfl := Option.some.inj added
  exact (keepsNames_addNew name named).changeAt true _ _ _ before here

theorem isNamed_of_openTable {path : KeyPath} (before : (Value.dict draft.entries).IsNamed)
    (opened : draft.openTable path = some changed) : (Value.dict changed.entries).IsNamed := by
  obtain ⟨_, _, opened⟩ := Option.bind_eq_some_iff.1 opened
  obtain ⟨_, _, opened⟩ := Option.bind_eq_some_iff.1 opened
  obtain ⟨entries, here, opened⟩ := Option.bind_eq_some_iff.1 opened
  obtain rfl := Option.some.inj opened
  have same : KeepsNames some := fun _ _ named unchanged => Option.some.inj unchanged ▸ named
  exact same.changeAt true _ _ _ before here

theorem isNamed_of_openItem {path : KeyPath} (before : (Value.dict draft.entries).IsNamed)
    (opened : draft.openItem path = some changed) : (Value.dict changed.entries).IsNamed := by
  obtain ⟨_, _, opened⟩ := Option.bind_eq_some_iff.1 opened
  obtain ⟨name, _, opened⟩ := Option.bind_eq_some_iff.1 opened
  obtain ⟨entries, here, opened⟩ := Option.bind_eq_some_iff.1 opened
  obtain rfl := Option.some.inj opened
  exact (keepsNames_addTable name).changeAt true _ _ _ before here

/-- What one statement of a document changes. -/
theorem yields_statement (before : (Value.dict draft.entries).IsNamed) (chars : List Char) :
    Yields (fun found => (Value.dict found.1.entries).IsNamed) (statement draft chars) := by
  have settled : (Value.dict draft.settle.entries).IsNamed := before
  unfold statement
  split
  next =>
    refine yields_lift fun found read => ?_
    obtain ⟨⟨path, rest⟩, _, read⟩ := Option.bind_eq_some_iff.1 read
    dsimp only at read
    split at read
    · obtain ⟨changed, opened, read⟩ := Option.bind_eq_some_iff.1 read
      obtain rfl := Option.some.inj read
      exact isNamed_of_openItem settled opened
    · cases read
  next =>
    refine yields_lift fun found read => ?_
    obtain ⟨⟨path, rest⟩, _, read⟩ := Option.bind_eq_some_iff.1 read
    dsimp only at read
    split at read
    · obtain ⟨changed, opened, read⟩ := Option.bind_eq_some_iff.1 read
      obtain rfl := Option.some.inj read
      exact isNamed_of_openTable settled opened
    · cases read
  next =>
    refine yields_bind ((readsNamed _).setting _) fun ⟨path, item, rest⟩ named => ?_
    exact yields_bind (yields_lift fun changed added => isNamed_of_addSetting before named added)
      fun _ after => yields_pure after

theorem yields_statements (before : (Value.dict draft.entries).IsNamed) (fuel : Nat)
    (chars : List Char) :
    Yields (fun found => (Value.dict found.entries).IsNamed) (statements fuel draft chars) := by
  induction fuel generalizing draft chars with
  | zero => exact nofun
  | succ fuel ih =>
      rw [statements]
      split
      · exact yields_pure before
      · exact ih before _
      · exact yields_after fun _ => ih before _
      · exact yields_bind (yields_statement before _) fun ⟨changed, rest⟩ after =>
          yields_after fun _ => ih after _

end Toml

/-- Every dictionary of a TOML document has names as its keys. -/
theorem Value.isNamed_of_ofToml? {text : String} {entries : Entries}
    (read : ofToml? text = .ok (some entries)) : (Value.dict entries).IsNamed := by
  unfold ofToml? at read
  dsimp only at read
  split at read
  · cases read
  · cases read
  next draft given =>
    obtain rfl := Option.some.inj (Except.ok.inj read)
    exact Toml.yields_statements isNamed_empty _ _ draft given

end FunctionSynthesis
