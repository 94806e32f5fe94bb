import FunctionSynthesis.Proofs.Toml.Spelling

/-!
# Lines of TOML

A document that is written line by line, with headers and with settings whose values are scalars,
is read line by line (`statements_lines`). Tables with different names and different settings are
read as what they are written from (`foldlM_tables`).
-/

namespace FunctionSynthesis.Toml

/-! ### Keys -/

/-- Whether a text can stand as a key without quotes. -/
structure IsBareKey (name : String) : Prop where
  nonempty : name.toList ≠ []
  bare : ∀ c ∈ name.toList, isBareKeyChar c = true

instance (name : String) : Decidable (IsBareKey name) :=
  decidable_of_iff (name.toList ≠ [] ∧ name.toList.all isBareKeyChar = true)
    ⟨fun ⟨nonempty, bare⟩ => ⟨nonempty, List.all_eq_true.1 bare⟩,
      fun ⟨nonempty, bare⟩ => ⟨nonempty, List.all_eq_true.2 bare⟩⟩

variable {name : String}

theorem IsBareKey.exists_cons (key : IsBareKey name) :
    ∃ c others, name.toList = c :: others ∧ isBareKeyChar c = true := by
  obtain ⟨c, others, spelled⟩ := List.exists_cons_of_ne_nil key.nonempty
  exact ⟨c, others, spelled, key.bare c (by rw [spelled]; exact List.mem_cons_self)⟩

theorem ne_of_isBareKeyChar {c d : Char} (bare : isBareKeyChar c = true)
    (other : isBareKeyChar d = false) : c ≠ d := by
  rintro rfl
  exact absurd bare (by rw [other]; decide)

theorem IsBareKey.simpleKey? (key : IsBareKey name) {rest : List Char}
    (stops : ∀ c ∈ rest.head?, isBareKeyChar c = false) :
    Toml.simpleKey? (name.toList ++ rest) = some (name, rest) := by
  obtain ⟨c, others, spelled, bare⟩ := key.exists_cons
  have word : (name.toList ++ rest).takeWhile isBareKeyChar = name.toList := by
    have none : rest.takeWhile isBareKeyChar = [] := by
      cases rest with
      | nil => rfl
      | cons d rest => simp [stops d rfl]
    rw [List.takeWhile_append_of_pos key.bare, none, List.append_nil]
  unfold Toml.simpleKey?
  split
  next same =>
    rw [spelled] at same
    exact absurd (List.cons.inj same).1 (ne_of_isBareKeyChar bare (by decide))
  next same =>
    rw [spelled] at same
    exact absurd (List.cons.inj same).1 (ne_of_isBareKeyChar bare (by decide))
  next =>
    dsimp only
    rw [word, if_neg (by simpa using key.nonempty), String.ofList_toList, List.drop_left]

/-- A key without quotes and without dots is read up to its end. -/
theorem IsBareKey.key? (key : IsBareKey name) {rest : List Char}
    (stops : ∀ c ∈ rest.head?, isBareKeyChar c = false)
    (noPoint : (skipBlanks rest).head? ≠ some '.') (fuel : Nat) :
    Toml.key? (fuel + 1) (name.toList ++ rest) = some ([name], skipBlanks rest) := by
  rw [Toml.key?, key.simpleKey? stops]
  rw [Option.bind_eq_bind, Option.bind_some]
  dsimp only
  split
  next same => exact absurd (by rw [same]; rfl) noPoint
  next => rfl

/-! ### One line -/

/-- A line of a document. -/
inductive Line where
  | blank
  | header (table : String)
  | setting (name : String) (v : Value) (text : List Char)

namespace Line

/-- The characters of a line, with its end. -/
def chars : Line → List Char
  | blank => ['\n']
  | header table => '[' :: (table.toList ++ [']', '\n'])
  | setting name _ text => name.toList ++ ' ' :: '=' :: ' ' :: (text ++ ['\n'])

/-- What a line makes of what has been read before. -/
def read? (draft : Draft) : Line → Option Draft
  | blank => some draft
  | header table => draft.settle.openTable [table]
  | setting name v _ => draft.addSetting [name] v

/-- Whether keys can stand without quotes, and values are spelled by their texts. -/
def IsPlain : Line → Prop
  | blank => True
  | header table => IsBareKey table
  | setting name v text => IsBareKey name ∧ Spells text v

end Line

variable {draft changed : Draft}

theorem isBlank_of_isBareKeyChar {c : Char} (bare : isBareKeyChar c = true) :
    isBlank c = false := by
  have noSpace : c ≠ ' ' := ne_of_isBareKeyChar bare (by decide)
  have noTab : c ≠ '\t' := ne_of_isBareKeyChar bare (by decide)
  simp [isBlank, noSpace, noTab]

theorem skipBlanks_cons {c : Char} (notBlank : isBlank c = false) (rest : List Char) :
    skipBlanks (c :: rest) = c :: rest :=
  List.dropWhile_cons_of_neg (by rw [notBlank]; decide)

/-- A setting is read by its value. -/
theorem setting_of_key (key : IsBareKey name) {chars : List Char}
    (notBlank : ∀ c ∈ chars.head?, isBlank c = false) (fuel : Nat) :
    setting (fuel + 2) (name.toList ++ ' ' :: '=' :: ' ' :: chars) =
      value (fuel + 1) chars >>= fun found => pure ([name], found.1, found.2) := by
  have stops : ∀ c ∈ (' ' :: '=' :: ' ' :: chars).head?, isBareKeyChar c = false := by
    intro c head
    cases head
    decide
  have noPoint : (skipBlanks (' ' :: '=' :: ' ' :: chars)).head? ≠ some '.' :=
    fun (same : some '=' = some '.') => absurd (Option.some.inj same) (by decide)
  have read : Toml.key? (fuel + 1) (name.toList ++ ' ' :: '=' :: ' ' :: chars) =
      some ([name], '=' :: ' ' :: chars) :=
    key.key? stops noPoint fuel
  have begins : skipBlanks (' ' :: chars) = chars := by
    change skipBlanks chars = chars
    cases chars with
    | nil => rfl
    | cons c chars => exact skipBlanks_cons (notBlank c rfl) chars
  rw [setting, read]
  change (value (fuel + 1) (skipBlanks (' ' :: chars)) >>= _) = _
  rw [begins]

/-- How reading goes on after a setting. -/
def afterSetting (fuel : Nat) (draft : Draft) (found : KeyPath × Value × List Char) :
    Reading Draft := do
  let changed ← draft.addSetting found.1 found.2.1
  let rest ← lineEnd? found.2.2
  statements fuel changed rest

/-- What starts with a key is a setting. -/
theorem statements_of_key (key : IsBareKey name) (fuel : Nat) (chars : List Char) :
    statements (fuel + 1) draft (name.toList ++ chars) =
      setting (2 * (name.toList ++ chars).length + 4) (name.toList ++ chars) >>=
        afterSetting fuel draft := by
  obtain ⟨c, others, spelled, bare⟩ := key.exists_cons
  rw [spelled, List.cons_append]
  have noHeader : statement draft (c :: (others ++ chars)) =
      setting (2 * (c :: (others ++ chars)).length + 4) (c :: (others ++ chars)) >>= fun found =>
        liftM (draft.addSetting found.1 found.2.1) >>= fun changed =>
          pure (changed, found.2.2) := by
    unfold statement
    split
    next same => exact absurd (List.cons.inj same).1 (ne_of_isBareKeyChar bare (by decide))
    next same => exact absurd (List.cons.inj same).1 (ne_of_isBareKeyChar bare (by decide))
    next => rfl
  rw [statements, skipBlanks_cons (isBlank_of_isBareKeyChar bare)]
  split
  next same => cases same
  next same => exact absurd (List.cons.inj same).1 (ne_of_isBareKeyChar bare (by decide))
  next same => exact absurd (List.cons.inj same).1 (ne_of_isBareKeyChar bare (by decide))
  next =>
    rw [noHeader, bind_assoc]
    refine bind_congr fun found => ?_
    rw [bind_assoc]
    rfl

theorem lineEnd?_lineEnd (rest : List Char) : lineEnd? ('\n' :: rest) = some rest := rfl

theorem statements_setting {v : Value} {text : List Char} (key : IsBareKey name)
    (spells : Spells text v) (added : draft.addSetting [name] v = some changed) (fuel : Nat)
    (rest : List Char) :
    statements (fuel + 1) draft ((Line.setting name v text).chars ++ rest) =
      statements fuel changed rest := by
  have notBlank : ∀ c ∈ (text ++ '\n' :: rest).head?, isBlank c = false := by
    intro c head
    cases text with
    | nil =>
        cases head
        decide
    | cons d text => exact spells.notBlank c head
  have chars : (Line.setting name v text).chars ++ rest =
      name.toList ++ ' ' :: '=' :: ' ' :: (text ++ '\n' :: rest) := by
    simp [Line.chars]
  rw [chars, statements_of_key key, setting_of_key key notBlank, spells.read, pure_bind,
    pure_bind]
  unfold afterSetting
  rw [added, lineEnd?_lineEnd]
  rfl

theorem statements_header {table : String} (key : IsBareKey table)
    (opened : draft.settle.openTable [table] = some changed) (fuel : Nat) (rest : List Char) :
    statements (fuel + 1) draft ((Line.header table).chars ++ rest) =
      statements fuel changed rest := by
  have chars : (Line.header table).chars ++ rest =
      '[' :: (table.toList ++ (']' :: '\n' :: rest)) := by
    simp [Line.chars]
  have stops : ∀ c ∈ (']' :: '\n' :: rest).head?, isBareKeyChar c = false := by
    intro c head
    cases head
    decide
  have noPoint : (skipBlanks (']' :: '\n' :: rest)).head? ≠ some '.' :=
    fun (same : some ']' = some '.') => absurd (Option.some.inj same) (by decide)
  have begins : skipBlanks (table.toList ++ ']' :: '\n' :: rest) =
      table.toList ++ ']' :: '\n' :: rest := by
    obtain ⟨c, others, spelled, bare⟩ := key.exists_cons
    rw [spelled]
    exact skipBlanks_cons (isBlank_of_isBareKeyChar bare) _
  have header : tableHeader? draft.settle (table.toList ++ ']' :: '\n' :: rest) =
      some (changed, '\n' :: rest) := by
    unfold tableHeader?
    rw [begins, key.key? stops noPoint]
    change (draft.settle.openTable [table] >>= _) = _
    rw [opened]
    rfl
  have isHeader : statement draft ('[' :: (table.toList ++ ']' :: '\n' :: rest)) =
      liftM (tableHeader? draft.settle (table.toList ++ ']' :: '\n' :: rest)) := by
    obtain ⟨c, others, spelled, bare⟩ := key.exists_cons
    rw [spelled]
    unfold statement
    split
    next same =>
      have second := (List.cons.inj (List.cons.inj same).2).1
      exact absurd second (ne_of_isBareKeyChar bare (by decide))
    next same => rw [(List.cons.inj same).2]
    next other => exact absurd rfl (other _)
  rw [chars, statements, skipBlanks_cons (by decide)]
  change (statement draft _ >>= _) = _
  rw [isHeader, header]
  rfl

/-- A line is read for what it is. -/
theorem statements_line {line : Line} (plain : line.IsPlain)
    (given : line.read? draft = some changed) (fuel : Nat) (rest : List Char) :
    statements (fuel + 1) draft (line.chars ++ rest) = statements fuel changed rest := by
  cases line with
  | blank =>
      obtain rfl := Option.some.inj given
      rfl
  | header table => exact statements_header plain given fuel rest
  | setting name v text => exact statements_setting plain.1 plain.2 given fuel rest

theorem statements_lines {lines : List Line} (plain : ∀ line ∈ lines, line.IsPlain)
    (given : lines.foldlM Line.read? draft = some changed) (fuel : Nat)
    (rest : List Char) :
    statements (lines.length + fuel) draft (lines.flatMap Line.chars ++ rest) =
      statements fuel changed rest := by
  induction lines generalizing draft with
  | nil =>
      obtain rfl := Option.some.inj given
      simp
  | cons line lines ih =>
      obtain ⟨here, later⟩ := List.forall_mem_cons.1 plain
      rw [List.foldlM_cons] at given
      obtain ⟨between, first, given⟩ := Option.bind_eq_some_iff.1 given
      have more : (line :: lines).length + fuel = lines.length + fuel + 1 := by
        rw [List.length_cons]
        omega
      rw [more, List.flatMap_cons, List.append_assoc, statements_line here first, ih later given]

/-! ### Tables -/

/-- A setting with its value and the text that spells it. -/
structure Field where
  name : String
  value : Value
  text : List Char

/-- A table with its settings. -/
structure Table where
  name : String
  fields : List Field

namespace Field

def line (field : Field) : Line :=
  .setting field.name field.value field.text

def entry (field : Field) : Value × Value :=
  (.str field.name, field.value)

end Field

namespace Table

/-- The lines of a table, with a blank one at the end. -/
def lines (table : Table) : List Line :=
  .header table.name :: table.fields.map Field.line ++ [.blank]

def entry (table : Table) : Value × Value :=
  (.str table.name, .dict (table.fields.map Field.entry))

end Table

theorem changeAt_table {throughLists : Bool} {change : Entries → Option Entries} {table : String}
    {entries found made : Entries}
    (located : entries.valueOf? (.str table) = some (.dict found))
    (changes : change found = some made) :
    changeAt throughLists change [table] entries =
      some (entries.put (.str table) (.dict made)) := by
  rw [changeAt, located]
  change ((change found).map Value.dict >>= _) = _
  rw [changes]
  rfl

theorem addSetting_eq {table name : String} {v : Value} {found : Entries}
    (header : draft.header = [table]) (closed : draft.closed = []) (scalar : isCompound v = false)
    (located : draft.entries.valueOf? (.str table) = some (.dict found))
    (fresh : found.hasKey (.str name) = false) :
    draft.addSetting [name] v =
      some { draft with
        entries := draft.entries.put (.str table) (.dict (found.put (.str name) v)) } := by
  obtain ⟨entries, _, opened, pending, _⟩ := draft
  obtain rfl := header
  obtain rfl := closed
  have added : addNew name v found = some (found.put (.str name) v) := by
    rw [addNew, fresh]
    rfl
  have changes : changeAt true (addNew name v) [table] entries = some _ :=
    changeAt_table located added
  unfold Draft.addSetting
  change (changeAt true (addNew name v) [table] entries >>= _) = _
  rw [changes]
  simp [scalar]

theorem openTable_eq {table : String} (closed : draft.closed = [])
    (unopened : [table] ∉ draft.opened) (fresh : draft.entries.valueOf? (.str table) = none) :
    draft.openTable [table] =
      some { draft with
        entries := draft.entries.put (.str table) (.dict [])
        header := [table]
        opened := [table] :: draft.opened } := by
  obtain ⟨entries, header, opened, pending, _⟩ := draft
  obtain rfl := closed
  have unlisted : opened.contains [table] = false := by simpa using unopened
  have changes : changeAt true some [table] entries =
      some (entries.put (.str table) (.dict [])) := by
    rw [changeAt, show Entries.valueOf? entries (.str table) = none from fresh]
    rfl
  unfold Draft.openTable
  dsimp only
  rw [unlisted]
  change (changeAt true some [table] entries >>= _) = _
  rw [changes]
  rfl

theorem put_put (entries : Entries) (name : String) (v w : Value) :
    (entries.put (.str name) v).put (.str name) w = entries.put (.str name) w := by
  have self : (Value.str name == .str name) = true := (Value.beq_str_iff _ _).2 rfl
  induction entries with
  | nil => simp [Entries.put, self]
  | cons entry entries ih =>
      obtain ⟨k, u⟩ := entry
      by_cases here : (k == .str name) = true
      · simp [Entries.put, here]
      · simpa [Entries.put, here] using ih

theorem valueOf?_eq_none_of_fresh {entries : Entries} {name : String}
    (fresh : ∀ entry ∈ entries, (entry.1 == .str name) = false) :
    entries.valueOf? (.str name) = none := by
  rw [Entries.valueOf?, List.find?_eq_none.2, Option.map_none]
  intro entry member
  rw [fresh entry member]
  decide

/-- The settings of a table are added to what is in it already. -/
theorem foldlM_fields {table : String} (header : draft.header = [table])
    (closed : draft.closed = []) {fields : List Field} {base found : Entries}
    (scalars : ∀ field ∈ fields, isCompound field.value = false)
    (distinct : Entries.HasDistinctKeys (found ++ fields.map Field.entry)) :
    (fields.map Field.line).foldlM Line.read?
        { draft with entries := base.put (.str table) (.dict found) } =
      some { draft with
        entries := base.put (.str table) (.dict (found ++ fields.map Field.entry)) } := by
  induction fields generalizing found with
  | nil => simp
  | cons field fields ih =>
      -- The setting moves from the lines that are left into what has been found.
      obtain ⟨here, later⟩ := List.forall_mem_cons.1 scalars
      have fresh : ∀ entry ∈ found, (entry.1 == .str field.name) = false := fun entry member =>
        (List.pairwise_append.1 distinct).2.2 entry member field.entry List.mem_cons_self
      have absent : found.hasKey (.str field.name) = false :=
        List.any_eq_false.2 fun entry member => by rw [fresh entry member]; decide
      have located : (base.put (.str table) (.dict found)).valueOf? (.str table) =
          some (.dict found) := by
        rw [Entries.valueOf?_put, if_pos rfl]
      have added : Line.read? { draft with entries := base.put (.str table) (.dict found) }
          field.line = _ := addSetting_eq header closed here located absent
      have moved : found ++ (field :: fields).map Field.entry =
          found ++ [field.entry] ++ fields.map Field.entry := by simp
      rw [moved] at distinct ⊢
      rw [← ih later distinct, List.map_cons, List.foldlM_cons, added, put_put,
        Entries.put_eq_append _ fresh]
      rfl

/-- A table is added behind the others. -/
theorem foldlM_table {table : Table} (closed : draft.closed = []) (pending : draft.pending = [])
    (unopened : [table.name] ∉ draft.opened)
    (fresh : ∀ entry ∈ draft.entries, (entry.1 == .str table.name) = false)
    (scalars : ∀ field ∈ table.fields, isCompound field.value = false)
    (distinct : Entries.HasDistinctKeys (table.fields.map Field.entry)) :
    table.lines.foldlM Line.read? draft =
      some { draft with
        entries := draft.entries ++ [table.entry]
        header := [table.name]
        opened := [table.name] :: draft.opened } := by
  have settled : draft.settle = draft := by
    obtain ⟨entries, header, opened, _, closed⟩ := draft
    obtain rfl := pending
    simp [Draft.settle]
  let start : Draft :=
    { draft with header := [table.name], opened := [table.name] :: draft.opened }
  have closedStart : start.closed = [] := closed
  have opened : draft.settle.openTable [table.name] =
      some { start with entries := draft.entries.put (.str table.name) (.dict []) } := by
    rw [settled]
    exact openTable_eq closed unopened (valueOf?_eq_none_of_fresh fresh)
  have filled : (table.fields.map Field.line).foldlM Line.read?
      { start with entries := draft.entries.put (.str table.name) (.dict []) } =
      some { start with
        entries := draft.entries.put (.str table.name) (.dict (table.fields.map Field.entry)) } :=
    foldlM_fields rfl closedStart scalars distinct
  rw [Table.lines, List.cons_append, List.foldlM_cons]
  change (draft.settle.openTable [table.name] >>= _) = _
  rw [opened]
  change (table.fields.map Field.line ++ [Line.blank]).foldlM Line.read? _ = _
  rw [List.foldlM_append, filled, Entries.put_eq_append _ fresh]
  rfl

/-- Tables with different names are read one after the other. -/
theorem foldlM_tables {tables : List Table} (closed : draft.closed = [])
    (pending : draft.pending = [])
    (unopened : ∀ table ∈ tables, [table.name] ∉ draft.opened)
    (apart : tables.Pairwise fun a b => a.name ≠ b.name)
    (fresh : ∀ table ∈ tables, ∀ entry ∈ draft.entries, (entry.1 == .str table.name) = false)
    (scalars : ∀ table ∈ tables, ∀ field ∈ table.fields, isCompound field.value = false)
    (distinct : ∀ table ∈ tables, Entries.HasDistinctKeys (table.fields.map Field.entry)) :
    ∃ changed, (tables.flatMap Table.lines).foldlM Line.read? draft = some changed ∧
      changed.entries = draft.entries ++ tables.map Table.entry := by
  induction tables generalizing draft with
  | nil => exact ⟨draft, rfl, by simp⟩
  | cons table tables ih =>
      rw [List.flatMap_cons, List.foldlM_append, foldlM_table closed pending
        (unopened table List.mem_cons_self) (fresh table List.mem_cons_self)
        (scalars table List.mem_cons_self) (distinct table List.mem_cons_self)]
      obtain ⟨other, apart⟩ := List.pairwise_cons.1 apart
      -- What was supposed of the draft holds of the one after the first table, since the names of
      -- later tables are others.
      let next : Draft :=
        { draft with
          entries := draft.entries ++ [table.entry]
          header := [table.name]
          opened := [table.name] :: draft.opened }
      have unopened' : ∀ later ∈ tables, [later.name] ∉ next.opened := by
        intro later member
        have before := unopened later (List.mem_cons_of_mem _ member)
        refine List.not_mem_cons_of_ne_of_not_mem (fun same => ?_) before
        exact other later member (List.cons.inj same).1.symm
      have fresh' : ∀ later ∈ tables, ∀ entry ∈ next.entries,
          (entry.1 == .str later.name) = false := by
        intro later member entry inside
        rcases List.mem_append.1 inside with old | new
        · exact fresh later (List.mem_cons_of_mem _ member) entry old
        · rw [List.mem_singleton.1 new, Bool.eq_false_iff]
          exact fun same => other later member (Value.str.inj ((Value.beq_str_iff _ _).1 same))
      obtain ⟨changed, read, entries⟩ := @ih next closed pending unopened' apart fresh'
        (fun later member => scalars later (List.mem_cons_of_mem _ member))
        (fun later member => distinct later (List.mem_cons_of_mem _ member))
      exact ⟨changed, read, by simpa [next] using entries⟩

/-! ### Documents -/

theorem withoutReturns_cons {c : Char} (noReturn : c ≠ '\r') (rest : List Char) :
    withoutReturns (c :: rest) = c :: withoutReturns rest := by
  rw [withoutReturns]
  exact fun _ same _ => noReturn same

theorem withoutReturns_append {before : List Char} (noReturn : '\r' ∉ before)
    (rest : List Char) : withoutReturns (before ++ rest) = before ++ withoutReturns rest := by
  induction before with
  | nil => rfl
  | cons c before ih =>
      obtain ⟨here, later⟩ := not_or.1 (fun member => noReturn (List.mem_cons.2 member))
      rw [List.cons_append, withoutReturns_cons (Ne.symm here), ih later]
      rfl

/-- A carriage return is left out only where a line feed remains, which may not stand in a text
either. -/
theorem any_isForbidden_withoutReturns (chars : List Char) :
    (withoutReturns chars).any isForbidden = chars.any isForbidden := by
  induction chars using withoutReturns.induct with
  | case1 => rfl
  | case2 rest ih =>
      -- The line feed that remains decides, whatever is in the rest.
      have lineFeed : isForbidden '\n' = true := by decide
      simp [withoutReturns, lineFeed]
  | case3 c rest other ih => rw [withoutReturns.eq_3 c rest other, List.any_cons, List.any_cons, ih]

theorem withoutReturns_escapedChar (c : Char) (rest : List Char)
    (other : ∀ after, c = '\r' → rest ≠ '\n' :: after) :
    withoutReturns (escapedChar c ++ rest) = escapedChar c ++ withoutReturns rest := by
  unfold escapedChar
  split
  next marked =>
    have noReturn : c ≠ '\r' := by
      rintro rfl
      exact absurd marked (by decide)
    rw [List.cons_append, withoutReturns_cons (by decide), List.singleton_append,
      withoutReturns_cons noReturn]
    rfl
  next =>
    rw [List.singleton_append, withoutReturns.eq_3 c rest other]
    rfl

/-- Backslashes do not come between a carriage return and the line feed behind it. -/
theorem withoutReturns_escaped (chars rest : List Char) :
    withoutReturns (escaped chars ++ '"' :: rest) =
      escaped (withoutReturns chars) ++ '"' :: withoutReturns rest := by
  induction chars using withoutReturns.induct with
  | case1 => exact withoutReturns_cons (by decide) rest
  | case2 more ih =>
      change withoutReturns ('\r' :: '\n' :: (escaped more ++ '"' :: rest)) = _
      rw [withoutReturns, ih]
      rfl
  | case3 c more other ih =>
      rw [withoutReturns.eq_3 c more other, escaped_cons, escaped_cons, List.append_assoc,
        List.append_assoc, ← ih, withoutReturns_escapedChar]
      intro after isReturn same
      cases more with
      | nil => exact absurd (List.cons.inj same).1 (by decide)
      | cons d more =>
          rw [escaped_cons] at same
          unfold escapedChar at same
          split at same
          next => exact absurd (List.cons.inj same).1 (by decide)
          next =>
            obtain rfl := (List.cons.inj same).1
            exact other more isReturn rfl

theorem noReturn_of_isBareKey (key : IsBareKey name) : '\r' ∉ name.toList :=
  fun member => absurd (key.bare _ member) (by decide)

theorem Line.noReturn {line : Line} (plain : line.IsPlain) : '\r' ∉ line.chars := by
  cases line with
  | blank => decide
  | header table =>
      have key := noReturn_of_isBareKey plain
      simp [Line.chars, key]
  | setting name v text =>
      have key := noReturn_of_isBareKey plain.1
      have allowed : '\r' ∉ text := fun member => absurd (plain.2.allowed _ member) (by decide)
      simp [Line.chars, key, allowed]

theorem noReturn_of_lines {lines : List Line} (plain : ∀ line ∈ lines, line.IsPlain) :
    '\r' ∉ lines.flatMap Line.chars := by
  rw [List.mem_flatMap]
  rintro ⟨line, member, inside⟩
  exact Line.noReturn (plain line member) inside

theorem length_le_length_chars (lines : List Line) :
    lines.length ≤ (lines.flatMap Line.chars).length := by
  induction lines with
  | nil => exact le_rfl
  | cons line lines ih =>
      have some : 1 ≤ line.chars.length := by
        cases line with
        | blank => exact le_rfl
        | header table => simp [Line.chars]
        | setting name v text =>
            simp only [Line.chars, List.length_append, List.length_cons]
            omega
      rw [List.flatMap_cons, List.length_append, List.length_cons]
      omega

/-- Lines are read first in a document that starts with them. -/
theorem statements_of_lines {lines : List Line} (plain : ∀ line ∈ lines, line.IsPlain)
    (given : lines.foldlM Line.read? {} = some changed) (rest : List Char) :
    ∃ fuel, statements ((lines.flatMap Line.chars ++ rest).length + 1) {}
      (lines.flatMap Line.chars ++ rest) = statements (fuel + 1) changed rest := by
  have enough := length_le_length_chars lines
  have fuel : (lines.flatMap Line.chars ++ rest).length + 1 = lines.length +
      ((lines.flatMap Line.chars).length - lines.length + rest.length + 1) := by
    rw [List.length_append]
    omega
  refine ⟨(lines.flatMap Line.chars).length - lines.length + rest.length, ?_⟩
  rw [fuel]
  exact statements_lines plain given _ rest

/-- A document is read by its lines. -/
theorem ofToml?_lines {lines : List Line} (plain : ∀ line ∈ lines, line.IsPlain)
    (given : lines.foldlM Line.read? {} = some changed) {text : String}
    (spelled : text.toList = lines.flatMap Line.chars) :
    Value.ofToml? text = .ok (some changed.entries) := by
  have returns := withoutReturns_append (noReturn_of_lines plain) []
  rw [List.append_nil, withoutReturns, List.append_nil] at returns
  obtain ⟨fuel, read⟩ := statements_of_lines plain given []
  rw [List.append_nil] at read
  unfold Value.ofToml?
  rw [spelled, returns]
  dsimp only
  rw [read]
  rfl

/-- A document with one setting in a table. -/
theorem ofToml?_field {table : String} (isTable : IsBareKey table) (field : Field)
    (isName : IsBareKey field.name) (spells : Spells field.text field.value)
    (scalar : isCompound field.value = false) {text : String}
    (spelled : text.toList = (Table.mk table [field]).lines.flatMap Line.chars) :
    Value.ofToml? text = .ok (some [(.str table, .dict [field.entry])]) := by
  have single : (Table.mk table [field]).lines.foldlM Line.read? {} = some _ :=
    foldlM_table rfl rfl List.not_mem_nil (fun _ member => absurd member List.not_mem_nil)
      (List.forall_mem_singleton.2 scalar) (List.pairwise_singleton _ _)
  refine ofToml?_lines ?_ single spelled
  have lines : (Table.mk table [field]).lines = [.header table, field.line, .blank] := rfl
  rw [lines]
  simp only [List.forall_mem_cons]
  exact ⟨isTable, ⟨isName, spells⟩, trivial, nofun⟩

/-- A document with a line that cannot be read is none. -/
theorem ofToml?_of_unreadable {lines : List Line} (plain : ∀ line ∈ lines, line.IsPlain)
    (given : lines.foldlM Line.read? {} = some changed) (key : IsBareKey name) {text : String}
    {chars : List Char} (notBlank : ∀ c ∈ chars.head?, isBlank c = false)
    (spelled : withoutReturns text.toList =
      lines.flatMap Line.chars ++ (name.toList ++ ' ' :: '=' :: ' ' :: chars))
    (unreadable : ∀ fuel, (value (fuel + 1) chars).run = none) :
    Value.ofToml? text = .ok none := by
  obtain ⟨fuel, read⟩ := statements_of_lines plain given
    (name.toList ++ ' ' :: '=' :: ' ' :: chars)
  have failed (k : Nat) : value (k + 1) chars = ExceptT.mk none := unreadable k
  unfold Value.ofToml?
  rw [spelled]
  dsimp only
  rw [read, statements_of_key key, setting_of_key key notBlank, failed]
  rfl

/-- A document is none if there is a control character in one of its texts. -/
theorem ofToml?_of_forbidden {lines : List Line} (plain : ∀ line ∈ lines, line.IsPlain)
    (given : lines.foldlM Line.read? {} = some changed) (key : IsBareKey name) {text : String}
    {chars rest : List Char} (forbidden : ∃ c ∈ chars, isForbidden c = true)
    (spelled : text.toList = lines.flatMap Line.chars ++
      (name.toList ++ ' ' :: '=' :: ' ' :: '"' :: (escaped chars ++ '"' :: '\n' :: rest))) :
    Value.ofToml? text = .ok none := by
  have returns : withoutReturns text.toList = lines.flatMap Line.chars ++
      (name.toList ++ ' ' :: '=' :: ' ' :: '"' ::
        (escaped (withoutReturns chars) ++ '"' :: withoutReturns ('\n' :: rest))) := by
    rw [spelled, withoutReturns_append (noReturn_of_lines plain),
      withoutReturns_append (noReturn_of_isBareKey key), withoutReturns_cons (by decide),
      withoutReturns_cons (by decide), withoutReturns_cons (by decide),
      withoutReturns_cons (by decide), withoutReturns_escaped]
  have remains : (withoutReturns chars).any isForbidden = true := by
    rw [any_isForbidden_withoutReturns, List.any_eq_true]
    exact forbidden
  have noQuote : (withoutReturns ('\n' :: rest)).head? ≠ some '"' := by
    rw [withoutReturns_cons (by decide)]
    exact fun same => absurd (Option.some.inj same) (by decide)
  refine ofToml?_of_unreadable plain given key (notBlank_of_cons (by decide)) returns fun fuel => ?_
  rw [value_quoted fuel _ _ noQuote, if_pos remains]

end FunctionSynthesis.Toml
