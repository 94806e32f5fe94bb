import FunctionSynthesis.Proofs.Settings.Slot
import FunctionSynthesis.Proofs.Toml.Lines

/-!
# Files with settings

The file that settings are written to has a line for each of them in its table. If all settings
can be spelled, it is read as the tables (`ofToml?_toToml`), in which every setting is in its place
(`isReadFrom_documentOf`). With a control character in the name of the interpreter it cannot be
read (`ofToml?_toToml_of_forbidden`).
-/

namespace FunctionSynthesis

open Toml (Line Table isForbidden)

namespace Settings

variable {settings : Settings}

/-! ### The text of a file -/

/-- The settings of a table. -/
def slotsOf (table : String) : List Slot :=
  Slot.all.filter fun slot => slot.table = table

/-- A setting as it stands in its table. -/
def fieldOf (settings : Settings) (slot : Slot) : Toml.Field :=
  ⟨slot.name, slot.get settings, (settingText (slot.get settings)).toList⟩

def tableOf (settings : Settings) (table : String) : Table :=
  ⟨table, (slotsOf table).map settings.fieldOf⟩

/-- The lines of a file with settings. The last one is blank, and its end is not written. -/
def linesOf (settings : Settings) : List Line :=
  (tables.map settings.tableOf).flatMap Table.lines

theorem tableLines_eq {table : String} (isTable : table ∈ tables) :
    settings.tableLines table =
      (slotsOf table).map fun slot => s!"{slot.name} = {settingText (slot.get settings)}" := by
  have all : tables = ["search", "pools", "executor", "logging", "limits"] := by decide
  rw [all] at isTable
  simp only [List.mem_cons, List.not_mem_nil, or_false] at isTable
  rcases isTable with rfl | rfl | rfl | rfl | rfl <;> rfl

/-- A line of a file with its end. -/
def withEnd (line : String) : List Char :=
  line.toList ++ ['\n']

theorem toList_intercalate_lines {lines : List String} (some : lines ≠ []) :
    withEnd ("\n".intercalate lines) = lines.flatMap withEnd := by
  induction lines with
  | nil => exact absurd rfl some
  | cons line lines ih =>
      cases lines with
      | nil => simp [withEnd]
      | cons next lines =>
          rw [String.intercalate_cons_cons, List.flatMap_cons, ← ih (List.cons_ne_nil next lines)]
          simp [withEnd]

/-- The header, the settings and the blank line of a table are its lines. -/
theorem flatMap_withEnd_table {table : String} (isTable : table ∈ tables) :
    (s!"[{table}]" :: settings.tableLines table ++ [""]).flatMap withEnd =
      (settings.tableOf table).lines.flatMap Line.chars := by
  have header : withEnd s!"[{table}]" = (Line.header table).chars := by
    simp only [withEnd, String.toList_append, List.append_assoc]
    rfl
  have field (slot : Slot) : withEnd s!"{slot.name} = {settingText (slot.get settings)}" =
      (settings.fieldOf slot).line.chars := by
    simp only [withEnd, String.toList_append, List.append_assoc]
    rfl
  rw [tableLines_eq isTable]
  simp only [Table.lines, tableOf, List.flatMap_cons, List.cons_append, List.flatMap_append,
    List.flatMap_map, header, field]
  rfl

theorem withEnd_toToml (settings : Settings) :
    withEnd settings.toToml = settings.linesOf.flatMap Line.chars := by
  have some : (tables.flatMap fun table =>
      s!"[{table}]" :: settings.tableLines table ++ [""]) ≠ [] := List.cons_ne_nil _ _
  rw [toToml, toList_intercalate_lines some, linesOf, List.flatMap_assoc, List.flatMap_map,
    List.flatMap_assoc]
  exact List.flatMap_congr fun table isTable => flatMap_withEnd_table isTable

/-! ### The document -/

/-- The entries of the tables of a file. -/
def documentOf (settings : Settings) : Entries :=
  (tables.map settings.tableOf).map Table.entry

theorem mem_slotsOf_iff {slot : Slot} {table : String} :
    slot ∈ slotsOf table ↔ slot.table = table := by
  simp [slotsOf, slot.mem_all]

theorem isReadFrom_documentOf (interpreter : String) (settings : Settings) :
    settings.IsReadFrom interpreter (.dict settings.documentOf) := by
  refine ⟨⟨_, rfl, fun entry member => ?_⟩, fun slot => ?_⟩
  · obtain ⟨_, inside, rfl⟩ := List.mem_map.1 member
    obtain ⟨table, isTable, rfl⟩ := List.mem_map.1 inside
    refine ⟨table, _, rfl, exists_slot_of_mem_tables isTable, fun inner member => ?_⟩
    obtain ⟨_, inside, rfl⟩ := List.mem_map.1 member
    obtain ⟨slot, isSlot, rfl⟩ := List.mem_map.1 inside
    exact ⟨slot, mem_slotsOf_iff.1 isSlot, rfl⟩
  · cases slot <;> rfl

/-! ### Spelling -/

/-- Whether a value can be spelled in a file so that it is read back. -/
def IsSpellable : Value → Prop
  | .bool _ => True
  | .int n => n.natAbs < Value.numeralBound
  | .float x => x ≠ .nan
  | .str s => ∀ c ∈ s.toList, isForbidden c = false
  | _ => False

theorem toList_settingText_str (s : String) :
    (settingText (.str s)).toList = '"' :: (Toml.escaped s.toList ++ ['"']) := by
  simp only [settingText, quotedText, String.toList_ofList]
  rfl

theorem spells_settingText {v : Value} (spellable : IsSpellable v) :
    Toml.Spells (settingText v).toList v := by
  cases v with
  | bool b => exact Toml.spells_truth b
  | int n => exact Toml.spells_integer spellable
  | float x => exact Toml.spells_float spellable
  | str s =>
      rw [toList_settingText_str]
      exact Toml.spells_text spellable
  | _ => cases spellable

theorem isCompound_of_isSpellable {v : Value} (spellable : IsSpellable v) :
    Toml.isCompound v = false := by
  cases v <;> first | rfl | cases spellable

theorem names_distinct (table : String) :
    (slotsOf table).Pairwise fun a b => a.name ≠ b.name := by
  refine List.Pairwise.imp_of_mem ?_ ((by decide : Slot.all.Nodup).filter _)
  intro a b hereA hereB other name
  have isTable := mem_slotsOf_iff.1 hereA
  exact other (Slot.eq_of_place (isTable.trans (mem_slotsOf_iff.1 hereB).symm) name)

/-- The lines of settings that can be spelled are read as the document. -/
theorem foldlM_linesOf (spellable : ∀ slot : Slot, IsSpellable (slot.get settings)) :
    ∃ changed, settings.linesOf.foldlM Line.read? {} = some changed ∧
      changed.entries = settings.documentOf := by
  refine Toml.foldlM_tables rfl rfl (fun _ _ => List.not_mem_nil) ?_
    (fun _ _ _ member => absurd member List.not_mem_nil) ?_ ?_
  · exact List.pairwise_map.2 (by decide : tables.Pairwise fun a b => a ≠ b)
  · simp only [List.forall_mem_map, tableOf]
    exact fun _ _ slot _ => isCompound_of_isSpellable (spellable slot)
  · simp only [List.forall_mem_map, tableOf, List.map_map, Entries.HasDistinctKeys]
    intro table _
    refine List.pairwise_map.2 ((names_distinct table).imp fun {a b} other => ?_)
    rw [Bool.eq_false_iff]
    exact fun same => other (Value.str.inj ((Value.beq_str_iff _ _).1 same))

theorem isPlain_linesOf (spellable : ∀ slot : Slot, IsSpellable (slot.get settings)) :
    ∀ line ∈ settings.linesOf, line.IsPlain := by
  have bareTables : ∀ table ∈ tables, Toml.IsBareKey table := by decide
  have bareNames : ∀ slot ∈ Slot.all, Toml.IsBareKey slot.name := by decide
  intro line member
  obtain ⟨_, inside, member⟩ := List.mem_flatMap.1 member
  obtain ⟨table, isTable, rfl⟩ := List.mem_map.1 inside
  rcases List.mem_append.1 member with member | last
  · rcases List.mem_cons.1 member with rfl | member
    · exact bareTables table isTable
    · obtain ⟨_, inside, rfl⟩ := List.mem_map.1 member
      obtain ⟨slot, _, rfl⟩ := List.mem_map.1 inside
      exact ⟨bareNames slot slot.mem_all, spells_settingText (spellable slot)⟩
  · obtain rfl := List.mem_singleton.1 last
    trivial

/-! ### Reading a file back -/

theorem linesOf_eq (settings : Settings) :
    settings.linesOf = settings.linesOf.dropLast ++ [.blank] := rfl

theorem toList_toToml (settings : Settings) :
    settings.toToml.toList = settings.linesOf.dropLast.flatMap Line.chars := by
  have whole := withEnd_toToml settings
  rw [linesOf_eq, List.flatMap_append] at whole
  exact List.append_cancel_right whole

/-- A file with settings that can be spelled is read as their document. -/
theorem ofToml?_toToml (spellable : ∀ slot : Slot, IsSpellable (slot.get settings)) :
    Value.ofToml? settings.toToml = .ok (some settings.documentOf) := by
  obtain ⟨changed, given, entries⟩ := foldlM_linesOf spellable
  rw [linesOf_eq, List.foldlM_append] at given
  change (settings.linesOf.dropLast.foldlM Line.read? {}).bind some = some changed at given
  rw [Option.bind_fun_some] at given
  rw [← entries]
  exact Toml.ofToml?_lines
    (fun line member => isPlain_linesOf spellable line (List.mem_of_mem_dropLast member)) given
    (toList_toToml settings)

/-- The lines around the name of the interpreter do not depend on it. -/
theorem exists_linesOf_python (settings : Settings) :
    ∃ before after, ∀ v, (Slot.python.set settings v).linesOf.dropLast =
      before ++ ((Slot.python.set settings v).fieldOf .python).line :: after :=
  ⟨settings.linesOf.take 10, settings.linesOf.dropLast.drop 11, fun _ => rfl⟩

/-- No file with a control character in the name of the interpreter can be read. -/
theorem ofToml?_toToml_of_forbidden {python : String} (named : settings.python = .str python)
    (forbidden : ∃ c ∈ python.toList, isForbidden c = true)
    (others : ∀ slot : Slot, slot ≠ .python → IsSpellable (slot.get settings)) :
    Value.ofToml? settings.toToml = .ok none := by
  -- Up to the interpreter the file is that of settings that can be spelled.
  obtain ⟨before, after, lines⟩ := exists_linesOf_python settings
  have spellable : ∀ slot : Slot, IsSpellable (slot.get (Slot.python.set settings (.str ""))) := by
    intro slot
    rw [Slot.get_set]
    split
    next => exact fun c member => absurd member List.not_mem_nil
    next other => exact others slot other
  obtain ⟨changed, given, _⟩ := foldlM_linesOf spellable
  have plain := isPlain_linesOf spellable
  rw [linesOf_eq, lines, List.append_assoc] at given plain
  rw [List.foldlM_append] at given
  obtain ⟨draft, given, _⟩ := Option.bind_eq_some_iff.1 given
  have unchanged : Slot.python.set settings (.str python) = settings := by
    rw [← named]
    rfl
  have spelled : settings.toToml.toList = before.flatMap Line.chars ++
      ("python".toList ++ ' ' :: '=' :: ' ' :: '"' ::
        (Toml.escaped python.toList ++ '"' :: '\n' :: after.flatMap Line.chars)) := by
    have written := lines (.str python)
    rw [unchanged] at written
    rw [toList_toToml, written, List.flatMap_append, List.flatMap_cons]
    simp [fieldOf, Toml.Field.line, Line.chars, Slot.get, Slot.name, named,
      toList_settingText_str]
  exact Toml.ofToml?_of_forbidden
    (fun line member => plain line (List.mem_append_left _ member)) given (by decide) forbidden
    spelled

end Settings

end FunctionSynthesis
