import FunctionSynthesis.Proofs.Example.Reading
import FunctionSynthesis.Proofs.Json.Conversion
import FunctionSynthesis.Proofs.Settings.Slot
import FunctionSynthesis.Proofs.Toml.Lines
import FunctionSynthesis.Settings.File

/-!
# Loading settings

A file whose text is read as a document gives the settings that stand in it, if nothing is to be
said against them, and otherwise it is refused (`stored_or_refused_of_load`). Only settings that
cannot even be compared, and what cannot be a table of a project description, escape both.
-/

namespace FunctionSynthesis

open Attempt (FailsOnly Succeeds)

namespace Settings

/-! ### Comparisons -/

/-- The settings that are compared with numbers. -/
def Slot.compared : List Slot :=
  [maxSize, timeoutSeconds, maxPoolSize, maxLiteralLength, exampleTimeoutSeconds, maxArrayArity]

/-- Whether settings are of a kind that can be compared: those that bound something are numbers,
and the level of the log is a text. -/
structure IsComparable (settings : Settings) : Prop where
  numbers : ∀ slot ∈ Slot.compared, (slot.get settings).number?.isSome = true
  level : ∃ level, settings.logLevel = .str level

variable {interpreter : String} {settings : Settings} {v : Value}

theorem succeeds_isBelow_iff (bound : Int) :
    Succeeds (isBelow v bound) ↔ v.number?.isSome = true := by
  unfold isBelow
  cases v.number? with
  | none => exact iff_of_false (Attempt.not_succeeds_throw _) nofun
  | some n => exact iff_of_true (Attempt.succeeds_pure _) rfl

theorem succeeds_isAtMostZero_iff : Succeeds (isAtMostZero v) ↔ v.number?.isSome = true := by
  unfold isAtMostZero
  cases v.number? with
  | none => exact iff_of_false (Attempt.not_succeeds_throw _) nofun
  | some n => exact iff_of_true (Attempt.succeeds_pure _) rfl

theorem succeeds_isNoLogLevel_iff : Succeeds (isNoLogLevel v) ↔ ∃ level, v = .str level := by
  unfold isNoLogLevel
  split
  next level => exact iff_of_true (Attempt.succeeds_pure _) ⟨level, rfl⟩
  next other =>
    refine iff_of_false (Attempt.not_succeeds_throw _) ?_
    rintro ⟨level, rfl⟩
    exact other level rfl

/-- Complaints can be listed exactly if everything can be compared. -/
theorem succeeds_complaints_iff : Succeeds settings.complaints ↔ settings.IsComparable := by
  have always (b : Bool) : Succeeds (pure b : Except Fault Bool) ↔ True :=
    iff_true_intro (Attempt.succeeds_pure b)
  unfold complaints
  rw [Attempt.succeeds_bind_pure_iff, Attempt.succeeds_mapM_iff]
  simp only [List.forall_mem_cons, Attempt.succeeds_bind_pure_iff, succeeds_isBelow_iff,
    succeeds_isAtMostZero_iff, succeeds_isNoLogLevel_iff, always]
  constructor
  · rintro ⟨maxSize, timeout, poolSize, literal, _, exampleTimeout, level, _, arity, _⟩
    refine ⟨?_, level⟩
    simp only [Slot.compared, List.forall_mem_cons]
    exact ⟨maxSize, timeout, poolSize, literal, exampleTimeout, arity, nofun⟩
  · rintro ⟨numbers, level⟩
    simp only [Slot.compared, List.forall_mem_cons] at numbers
    obtain ⟨maxSize, timeout, poolSize, literal, exampleTimeout, arity, _⟩ := numbers
    exact ⟨maxSize, timeout, poolSize, literal, trivial, exampleTimeout, level, trivial, arity,
      nofun⟩

/-! ### Project descriptions -/

/-- The part of a document that has the settings. -/
def partOf? (path : Path) (document : Entries) : Option Value :=
  if path.name = projectFile then
    ((Value.dict document).get? "tool").bind (Value.get? "typesynth")
  else some (.dict document)

/-- Whether a project description has something in the place of its tables in which the word for
the part with the settings is found, or cannot be looked for, although it is no table. -/
def IsMisplaced (path : Path) (document : Entries) : Prop :=
  path.name = projectFile ∧ ∃ tools, (Value.dict document).get? "tool" = some tools ∧
    (∀ entries, tools ≠ .dict entries) ∧ tools.holds "typesynth" ≠ .ok false

variable {path : Path} {document : Entries} {data : Value}

theorem get?_eq_none_of_no_table {key : String} (noTable : ∀ entries, v ≠ .dict entries) :
    v.get? key = none := by
  cases v with
  | dict entries => exact absurd rfl (noTable entries)
  | _ => rfl

theorem exists_fault_of_member {key : String} (missing : v.get? key = none) :
    ∃ fault, v.member key = .error fault := by
  cases taken : v.member key with
  | error fault => exact ⟨fault, rfl⟩
  | ok value => cases missing.symm.trans (Value.member_eq_ok_iff.1 taken)

theorem partOf?_of_project (isProject : path.name = projectFile) {tools : Value}
    (located : (Value.dict document).get? "tool" = some tools) :
    partOf? path document = tools.get? "typesynth" := by
  rw [partOf?, if_pos isProject, located]
  rfl

/-- A project description is refused if the part with the settings is missing. -/
def refusalOf (path : Path) : Failure :=
  .problem (.configuration s!"No [tool.typesynth] section in {path.text}" (some path.text) [])

theorem dataOf_of_no_tools (isProject : path.name = projectFile)
    (missing : (Value.dict document).get? "tool" = none) :
    dataOf path document = .error (refusalOf path) := by
  unfold dataOf hasOwnTable
  rw [if_pos isProject, show Entries.valueOf? document (.str "tool") = none from missing]
  rfl

theorem dataOf_of_tools (isProject : path.name = projectFile) {tools : Value}
    (located : (Value.dict document).get? "tool" = some tools) :
    dataOf path document =
      match tools.holds "typesynth" with
      | .error fault => .error (.fault fault)
      | .ok false => .error (refusalOf path)
      | .ok true => (tools.member "typesynth").mapError .fault := by
  have owned : hasOwnTable document = tools.holds "typesynth" := by
    unfold hasOwnTable
    rw [show Entries.valueOf? document (.str "tool") = some tools from located]
  have own : ownTable document = tools.member "typesynth" := by
    unfold ownTable
    rw [Value.member_eq_ok_iff.2 located]
    rfl
  unfold dataOf
  rw [if_pos isProject, owned, own]
  cases tools.holds "typesynth" with
  | error fault => rfl
  | ok held => cases held <;> rfl

/-- What becomes of a project description whose tools are a table. -/
theorem dataOf_of_table (isProject : path.name = projectFile) {tools : Entries}
    (located : (Value.dict document).get? "tool" = some (.dict tools)) :
    dataOf path document =
      match partOf? path document with
      | some data => .ok data
      | none => .error (refusalOf path) := by
  rw [dataOf_of_tools isProject located, partOf?_of_project isProject located]
  have held : (Value.dict tools).holds "typesynth" =
    .ok (Entries.hasKey tools (.str "typesynth")) := rfl
  cases found : (Value.dict tools).get? "typesynth" with
  | some data =>
      rw [held, Value.hasKey_iff.2 ⟨data, found⟩, Value.member_eq_ok_iff.2 found]
      rfl
  | none =>
      have absent : Entries.hasKey tools (.str "typesynth") = false := by
        rw [Bool.eq_false_iff]
        intro there
        obtain ⟨data, isData⟩ := Value.hasKey_iff.1 there
        cases found.symm.trans isData
      rw [held, absent]

/-- A document has a part with settings, or it is refused since it has none, or something is
misplaced in it. -/
theorem dataOf_cases (path : Path) (document : Entries) :
    (∃ data, dataOf path document = .ok data ∧ partOf? path document = some data) ∨
      partOf? path document = none ∧ ¬ IsMisplaced path document ∧
        dataOf path document = .error (refusalOf path) ∨
      partOf? path document = none ∧ IsMisplaced path document ∧
        ∃ fault, dataOf path document = .error (.fault fault) := by
  by_cases isProject : path.name = projectFile
  · cases located : (Value.dict document).get? "tool" with
    | none =>
        refine Or.inr (Or.inl ⟨?_, ?_, dataOf_of_no_tools isProject located⟩)
        · rw [partOf?, if_pos isProject, located]
          rfl
        · rintro ⟨_, tools, found, _⟩
          cases located.symm.trans found
    | some tools =>
        -- In what is no table a word may be found all the same, but nothing can be taken by it.
        by_cases noTable : ∀ entries, tools ≠ .dict entries
        · have missing : tools.get? "typesynth" = none := get?_eq_none_of_no_table noTable
          have part := (partOf?_of_project isProject located).trans missing
          have result := dataOf_of_tools isProject located
          by_cases inVain : tools.holds "typesynth" = .ok false
          · rw [inVain] at result
            refine Or.inr (Or.inl ⟨part, ?_, result⟩)
            rintro ⟨_, tools', found, _, there⟩
            obtain rfl := Option.some.inj (located.symm.trans found)
            exact there inVain
          · refine Or.inr (Or.inr ⟨part, ⟨isProject, tools, located, noTable, inVain⟩, ?_⟩)
            cases held : tools.holds "typesynth" with
            | error fault =>
                rw [held] at result
                exact ⟨fault, result⟩
            | ok there =>
                cases there with
                | false => exact absurd held inVain
                | true =>
                    obtain ⟨fault, failed⟩ := exists_fault_of_member missing
                    rw [held, failed] at result
                    exact ⟨fault, result⟩
        · obtain ⟨entries, rfl⟩ := not_forall_not.1 noTable
          have data := dataOf_of_table isProject located
          cases part : partOf? path document with
          | some found =>
              rw [part] at data
              exact Or.inl ⟨found, data, rfl⟩
          | none =>
              rw [part] at data
              refine Or.inr (Or.inl ⟨rfl, ?_, data⟩)
              rintro ⟨_, tools, found, noTable, _⟩
              exact noTable entries (Option.some.inj (found.symm.trans located))
  · refine Or.inl ⟨.dict document, ?_, ?_⟩
    · rw [dataOf, if_neg isProject]
      rfl
    · rw [partOf?, if_neg isProject]

theorem partOf?_of_isMisplaced (misplaced : IsMisplaced path document) :
    partOf? path document = none := by
  obtain ⟨isProject, tools, located, noTable, _⟩ := misplaced
  rw [partOf?_of_project isProject located, get?_eq_none_of_no_table noTable]

theorem isNamed_of_partOf? (named : (Value.dict document).IsNamed)
    (part : partOf? path document = some data) : data.IsNamed := by
  unfold partOf? at part
  split at part
  · obtain ⟨tools, located, found⟩ := Option.bind_eq_some_iff.1 part
    exact (named.get? located).get? found
  · rwa [← Option.some.inj part]

/-! ### Checked settings -/

/-- Whether settings are those of data, and nothing is to be said against them. -/
structure IsAccepted (interpreter : String) (settings : Settings) (data : Value) : Prop where
  read : settings.IsReadFrom interpreter data
  fine : settings.complaints = .ok []

/-- Whether data are of a wrong kind: they are no table, or settings in them cannot be
compared. -/
def IsUnfit (interpreter : String) (data : Value) : Prop :=
  (∀ entries, data ≠ .dict entries) ∨
    ∃ settings : Settings, settings.IsReadFrom interpreter data ∧ ¬ settings.IsComparable

theorem IsReadFrom.not_isUnfit (read : settings.IsReadFrom interpreter data)
    (comparable : settings.IsComparable) : ¬ IsUnfit interpreter data := by
  rintro (noTable | ⟨other, read', incomparable⟩)
  · obtain ⟨entries, isTable, _⟩ := read.known
    exact noTable entries isTable
  · obtain rfl := read.unique read'
    exact incomparable comparable

/-- What becomes of settings that have been read. -/
theorem checked_cases (path : Path) (settings : Settings) :
    settings.complaints = .ok [] ∧ checked path settings = .ok settings ∨
      settings.IsComparable ∧ settings.complaints ≠ .ok [] ∧
        (∃ failure, checked path settings = .error failure ∧
          IsRefusal (some path.text) failure) ∨
      ¬ settings.IsComparable ∧ ∃ fault, checked path settings = .error (.fault fault) := by
  have comparable : Succeeds settings.complaints ↔ settings.IsComparable := succeeds_complaints_iff
  unfold checked
  cases listed : settings.complaints with
  | error fault =>
      rw [listed] at comparable
      refine Or.inr (Or.inr ⟨fun all => ?_, fault, rfl⟩)
      obtain ⟨_, same⟩ := comparable.2 all
      cases same
  | ok complaints =>
      rw [listed] at comparable
      cases complaints with
      | nil => exact Or.inl ⟨rfl, rfl⟩
      | cons first rest =>
          exact Or.inr (Or.inl ⟨comparable.1 ⟨_, rfl⟩, nofun, _, rfl, _, rfl⟩)

/-- The settings that data give, after they have been checked. -/
def checkedFrom (interpreter : String) (path : Path) (data : Value) : Attempt Settings :=
  ofTables interpreter (some path.text) data >>= fun settings => checked path settings

/-- What becomes of data with settings. -/
theorem checkedFrom_cases (interpreter : String) (path : Path) (named : data.IsNamed) :
    (∃ settings, checkedFrom interpreter path data = .ok settings ∧
        settings.IsAccepted interpreter data) ∨
      (∃ failure, checkedFrom interpreter path data = .error failure ∧
        IsRefusal (some path.text) failure) ∧
        ¬ IsUnfit interpreter data ∧
        (∀ settings : Settings, ¬ settings.IsAccepted interpreter data) ∨
      (∃ fault, checkedFrom interpreter path data = .error (.fault fault)) ∧
        IsUnfit interpreter data := by
  unfold checkedFrom
  rcases ofTables_cases interpreter (some path.text) named with
    ⟨settings, given, read⟩ | ⟨⟨failure, given, refusal⟩, isTable, unread⟩ |
      ⟨⟨fault, given⟩, noTable⟩
  · rw [given]
    rcases checked_cases path settings with
      ⟨fine, result⟩ | ⟨comparable, wrong, result⟩ | ⟨incomparable, result⟩
    · exact Or.inl ⟨settings, result, read, fine⟩
    · refine Or.inr (Or.inl ⟨result, read.not_isUnfit comparable, fun other accepted => ?_⟩)
      obtain rfl := read.unique accepted.read
      exact wrong accepted.fine
    · exact Or.inr (Or.inr ⟨result, Or.inr ⟨settings, read, incomparable⟩⟩)
  · rw [given]
    refine Or.inr (Or.inl ⟨⟨failure, rfl, refusal⟩, ?_, fun other accepted =>
      unread other accepted.read⟩)
    rintro (noTable | ⟨settings, read, _⟩)
    · obtain ⟨entries, rfl⟩ := isTable
      exact noTable entries rfl
    · exact unread settings read
  · rw [given]
    exact Or.inr (Or.inr ⟨⟨fault, rfl⟩, Or.inl noTable⟩)

theorem IsAccepted.not_isUnfit (accepted : settings.IsAccepted interpreter data) :
    ¬ IsUnfit interpreter data :=
  accepted.read.not_isUnfit (succeeds_complaints_iff.1 ⟨[], accepted.fine⟩)

/-! ### Documents -/

/-- Whether something in a document is of a wrong kind. -/
def IsIllTyped (interpreter : String) (path : Path) (document : Entries) : Prop :=
  IsMisplaced path document ∨
    ∃ data, partOf? path document = some data ∧ IsUnfit interpreter data

theorem isIllTyped_iff_of_part (part : partOf? path document = some data) :
    IsIllTyped interpreter path document ↔ IsUnfit interpreter data := by
  constructor
  · rintro (misplaced | ⟨data', part', unfit⟩)
    · cases (partOf?_of_isMisplaced misplaced).symm.trans part
    · obtain rfl := Option.some.inj (part.symm.trans part')
      exact unfit
  · exact fun unfit => Or.inr ⟨data, part, unfit⟩

/-- What becomes of a document. -/
theorem checkedFrom_dataOf_cases (interpreter : String) (path : Path)
    (named : (Value.dict document).IsNamed) :
    (∃ settings data, (dataOf path document >>= checkedFrom interpreter path) = .ok settings ∧
        partOf? path document = some data ∧ settings.IsAccepted interpreter data) ∨
      (∃ failure, (dataOf path document >>= checkedFrom interpreter path) = .error failure ∧
        IsRefusal (some path.text) failure) ∧ ¬ IsIllTyped interpreter path document ∧
        (∀ data, partOf? path document = some data →
          ∀ settings : Settings, ¬ settings.IsAccepted interpreter data) ∨
      (∃ fault,
        (dataOf path document >>= checkedFrom interpreter path) = .error (.fault fault)) ∧
        IsIllTyped interpreter path document := by
  rcases dataOf_cases path document with
    ⟨data, found, part⟩ | ⟨part, placed, found⟩ | ⟨_, misplaced, fault, found⟩
  · rw [found, isIllTyped_iff_of_part part]
    rcases checkedFrom_cases interpreter path (isNamed_of_partOf? named part) with
      ⟨settings, result, accepted⟩ | ⟨result, fit, other⟩ | wrong
    · exact Or.inl ⟨settings, data, result, part, accepted⟩
    · refine Or.inr (Or.inl ⟨result, fit, fun data' part' => ?_⟩)
      obtain rfl := Option.some.inj (part.symm.trans part')
      exact other
    · exact Or.inr (Or.inr wrong)
  · rw [found]
    refine Or.inr (Or.inl ⟨⟨_, rfl, _, rfl⟩, ?_, fun data part' => ?_⟩)
    · rintro (misplaced | ⟨data, part', _⟩)
      · exact placed misplaced
      · cases part.symm.trans part'
    · cases part.symm.trans part'
  · rw [found]
    exact Or.inr (Or.inr ⟨⟨fault, rfl⟩, Or.inl misplaced⟩)

/-! ### Files -/

section

variable {tree : Files} {text : String}

theorem load_of_file (isFile : tree.site path = .file text) :
    load interpreter tree path = (Value.ofToml? text).mapError .fault >>= fun document? =>
      match document? with
      | none => Attempt.problem (.configuration "Invalid TOML" (some path.text) [])
      | some document => dataOf path document >>= checkedFrom interpreter path := by
  have there : tree.hasPath path = true := by
    unfold Files.hasPath
    rw [isFile]
  have stored : tree.rawText path = .ok text := by
    unfold Files.rawText
    rw [isFile]
    rfl
  unfold load
  rw [isFile, if_neg nofun, if_neg (by rw [there]; decide), stored]
  rfl

/-- A file that can be read as a document, or as none, gives the settings that stand in it, each
in its place and all others with their defaults, if there is nothing to be said against them.
Otherwise it is refused for its configuration, unless something in it is of a wrong kind. -/
theorem stored_or_refused_of_load (interpreter : String) (isFile : tree.site path = .file text)
    {document? : Option Entries} (parsed : Value.ofToml? text = .ok document?) :
    (∀ settings, load interpreter tree path = .ok settings ↔
      ∃ document data, document? = some document ∧ partOf? path document = some data ∧
        settings.IsAccepted interpreter data) ∧
    (∀ failure, load interpreter tree path = .error failure →
      IsRefusal (some path.text) failure ∨ ∃ fault, failure = .fault fault) ∧
    ((∃ fault, load interpreter tree path = .error (.fault fault)) ↔
      ∃ document, document? = some document ∧ IsIllTyped interpreter path document) := by
  rw [load_of_file isFile, parsed]
  cases document? with
  | none =>
      refine ⟨fun settings => ⟨nofun, nofun⟩, fun failure failed => ?_, nofun, nofun⟩
      exact Or.inl ⟨_, (Except.error.inj failed).symm⟩
  | some document =>
      change
        (∀ settings,
          (dataOf path document >>= checkedFrom interpreter path) = .ok settings ↔ _) ∧
        (∀ failure,
          (dataOf path document >>= checkedFrom interpreter path) = .error failure → _) ∧
        ((∃ fault, (dataOf path document >>= checkedFrom interpreter path) =
          .error (.fault fault)) ↔ _)
      -- The settings are accepted, or refused, or something is of a wrong kind. Each excludes the
      -- others, since a document gives settings in one way only.
      rcases checkedFrom_dataOf_cases interpreter path (Value.isNamed_of_ofToml? parsed) with
        ⟨settings, data, result, part, accepted⟩ | ⟨⟨failure, result, refusal⟩, fit, none⟩ |
          ⟨⟨fault, result⟩, wrong⟩
      · rw [result]
        refine ⟨fun other => ⟨fun same => ?_, ?_⟩, nofun, nofun, ?_⟩
        · obtain rfl := Except.ok.inj same
          exact ⟨document, data, rfl, part, accepted⟩
        · rintro ⟨_, data', same, part', accepted'⟩
          obtain rfl := Option.some.inj same
          obtain rfl := Option.some.inj (part.symm.trans part')
          rw [accepted.read.unique accepted'.read]
        · rintro ⟨_, same, wrong⟩
          obtain rfl := Option.some.inj same
          exact absurd ((isIllTyped_iff_of_part part).1 wrong) accepted.not_isUnfit
      · rw [result]
        refine ⟨fun other => ⟨nofun, ?_⟩, fun _ same => ?_, ?_, ?_⟩
        · rintro ⟨_, data, same, part, accepted⟩
          obtain rfl := Option.some.inj same
          exact absurd accepted (none data part other)
        · exact Or.inl (Except.error.inj same ▸ refusal)
        · rintro ⟨fault, same⟩
          obtain ⟨_, rfl⟩ := refusal
          cases same
        · rintro ⟨_, same, wrong⟩
          obtain rfl := Option.some.inj same
          exact absurd wrong fit
      · rw [result]
        refine ⟨fun other => ⟨nofun, ?_⟩, fun _ same => ?_, fun _ => ⟨document, rfl, wrong⟩,
          fun _ => ⟨fault, rfl⟩⟩
        · rintro ⟨_, data, same, part, accepted⟩
          obtain rfl := Option.some.inj same
          exact absurd ((isIllTyped_iff_of_part part).1 wrong) accepted.not_isUnfit
        · exact Or.inr ⟨fault, (Except.error.inj same).symm⟩

/-- A tree with one file. -/
def treeWith (name text : String) : Files :=
  { files := [([name], text)] }

/-- Settings are loaded from a file in which one of them is given. -/
theorem stored_or_refused_of_load_size :
    load "python" (treeWith "typesynth.toml" "[search]\nmax_size = 5\n\n")
      ⟨0, ["typesynth.toml"]⟩ = .ok { maxSize := .int 5, python := .str "python" } := by
  have parsed : Value.ofToml? "[search]\nmax_size = 5\n\n" =
      .ok (some [(.str "search", .dict [(.str "max_size", .int 5)])]) :=
    Toml.ofToml?_field (by decide) ⟨"max_size", .int 5, (toString (5 : Int)).toList⟩ (by decide)
      (Toml.spells_integer (Value.lt_numeralBound (by decide))) rfl rfl
  refine ((stored_or_refused_of_load "python" rfl parsed).1 _).2
    ⟨_, _, rfl, rfl, ⟨⟨_, rfl, ?_⟩, ?_⟩, rfl⟩
  · simp only [List.forall_mem_cons]
    exact ⟨⟨_, _, rfl, ⟨.maxSize, rfl⟩, List.forall_mem_singleton.2 ⟨.maxSize, rfl, rfl⟩⟩, nofun⟩
  · intro slot
    cases slot <;> rfl

/-- A text in the place of a number is neither stored nor refused. -/
theorem not_stored_or_refused_of_load_text :
    load "python" (treeWith "typesynth.toml" "[search]\nmax_size = \"big\"\n\n")
      ⟨0, ["typesynth.toml"]⟩ =
      .error (.fault (Fault.describe .type
        "'<' not supported between instances of 'str' and 'int'")) := by
  have parsed : Value.ofToml? "[search]\nmax_size = \"big\"\n\n" =
      .ok (some [(.str "search", .dict [(.str "max_size", .str "big")])]) := by
    have allowed : ∀ c ∈ "big".toList, Toml.isForbidden c = false :=
      Toml.allowed_of_any (by decide)
    have spells : Toml.Spells "\"big\"".toList (.str "big") := Toml.spells_text allowed
    exact Toml.ofToml?_field (by decide) ⟨"max_size", .str "big", _⟩ (by decide) spells rfl rfl
  rw [load_of_file rfl, parsed]
  rfl

end

end Settings

end FunctionSynthesis
