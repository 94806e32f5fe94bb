import FunctionSynthesis.Proofs.Files
import FunctionSynthesis.Proofs.Json.Conversion
import FunctionSynthesis.Proofs.Settings.Loading
import FunctionSynthesis.Proofs.Settings.Writing
import FunctionSynthesis.Proofs.Trial.Writability

/-!
# Loading what was written

Settings of the kinds that they are declared with, against which nothing is to be said, are the
same after they have been written to a file and loaded from it, exactly if their integers are
short enough to be written and there is no control character in the name of the interpreter
(`reloads_iff`).
-/

namespace FunctionSynthesis

open Attempt (Succeeds)
open Toml (isForbidden)

namespace Settings

variable {settings : Settings} {v : Value}

/-! ### Kinds -/

/-- Whether a value is of the kind that a setting is declared with. A truth value counts as an
integer. -/
def Slot.Admits : Slot → Value → Prop
  | executor, v | python, v | logLevel, v | logFormat, v => ∃ s, v = .str s
  | timeoutSeconds, v | exampleTimeoutSeconds, v =>
      (∃ n, v = .int n) ∨ (∃ b, v = .bool b) ∨ ∃ x, v = .float x ∧ x ≠ .nan
  | _, v => (∃ n, v = .int n) ∨ ∃ b, v = .bool b

/-- Whether all settings are of the kinds that they are declared with. -/
def IsDeclared (settings : Settings) : Prop :=
  ∀ slot : Slot, slot.Admits (slot.get settings)

theorem isWritable_iff :
    settings.isWritable = true ↔ ∀ slot : Slot, (slot.get settings).isWritable = true := by
  simp only [isWritable, fields, Limits.fields, List.all_cons, List.all_nil, Bool.and_eq_true]
  constructor
  · rintro ⟨⟨_, _, _, _, _, _, _, _, _, _⟩, _, _, _, _, _, _⟩ slot
    cases slot <;> assumption
  · intro all
    exact ⟨⟨all .maxSize, all .timeoutSeconds, all .maxPoolSize, all .maxLiteralLength,
      all .executor, all .python, all .exampleTimeoutSeconds, all .logLevel, all .logFormat,
      trivial⟩,
      all .maxArrayArity, all .arithmeticConstants, all .constantPairs, all .variableTriples,
      all .concatConstants, trivial⟩

/-- A value of the kind of a setting can be spelled if it can be written and is no text with
control characters. -/
theorem Slot.Admits.isSpellable {slot : Slot} (admitted : slot.Admits v)
    (writable : v.isWritable = true)
    (allowed : ∀ s, v = .str s → ∀ c ∈ s.toList, isForbidden c = false) : IsSpellable v := by
  have cases : (∃ s, v = .str s) ∨ (∃ n, v = .int n) ∨ (∃ b, v = .bool b) ∨
      ∃ x, v = .float x ∧ x ≠ .nan := by
    cases slot <;> simp only [Slot.Admits] at admitted <;> tauto
  rcases cases with ⟨s, rfl⟩ | ⟨n, rfl⟩ | ⟨b, rfl⟩ | ⟨x, rfl, isNumber⟩
  · exact allowed s rfl
  · exact (Value.isWritable_int_iff n).1 writable
  · trivial
  · exact isNumber

/-! ### Words -/

/-- Where nothing is complained about, every check has been passed. -/
theorem passed_of_mapM {checks : List (Except Fault Bool × String)} {found : List (Option String)}
    (listed : (checks.mapM fun (check, complaint) => do
      return if ← check then some complaint else none) = .ok found)
    (fine : found.filterMap id = []) : ∀ check ∈ checks, check.1 = .ok false := by
  intro check member
  obtain ⟨complaint?, inside, result⟩ :=
    Attempt.exists_of_mem_right (Attempt.forall₂_of_mapM_eq_ok listed).flip member
  obtain ⟨raised, checked, same⟩ := Attempt.bind_eq_ok_iff.1 result
  cases raised with
  | false => exact checked
  | true =>
      obtain rfl := Attempt.pure_eq_ok_iff.1 same
      have none := List.filterMap_eq_nil_iff.1 fine _ inside
      cases none

/-- Settings that are words are among those that are known, but for the case of a level. -/
theorem words_of_complaints (fine : settings.complaints = .ok []) :
    isNoneOf settings.executor executors = false ∧
      isNoLogLevel settings.logLevel = .ok false ∧
      isNoneOf settings.logFormat logFormats = false := by
  obtain ⟨found, listed, same⟩ := Attempt.bind_eq_ok_iff.1 fine
  have passed := passed_of_mapM listed (Attempt.pure_eq_ok_iff.1 same)
  simp only [List.forall_mem_cons] at passed
  obtain ⟨_, _, _, _, executor, _, level, format, _⟩ := passed
  exact ⟨Attempt.pure_eq_ok_iff.1 executor, level, Attempt.pure_eq_ok_iff.1 format⟩

theorem allowed_of_isNoneOf {words : List String} (known : isNoneOf v words = false)
    (allowed : ∀ word ∈ words, word.toList.any isForbidden = false) {s : String}
    (text : v = .str s) : ∀ c ∈ s.toList, isForbidden c = false := by
  subst text
  have listed : (words.any fun word => Value.str s == .str word) = true := by
    simpa only [isNoneOf, Bool.not_eq_false'] using known
  obtain ⟨word, member, same⟩ := List.any_eq_true.1 listed
  obtain rfl := Value.str.inj ((Value.beq_str_iff _ _).1 same)
  exact Toml.allowed_of_any (allowed s member)

/-- Control characters have no other form. -/
theorem upperChar_of_isForbidden {c : Char} (forbidden : isForbidden c = true) :
    Text.upperChar c = [c] := by
  have code : c.toNat < 32 ∨ c.toNat = 127 := by
    simp only [isForbidden, Bool.or_eq_true, Bool.and_eq_true, decide_eq_true_iff] at forbidden
    exact forbidden.imp_left And.left
  have ascii : c.toNat < 0x80 := by omega
  have noLetter : ¬ (c.val ≥ 'a'.val ∧ c.val ≤ 'z'.val) := by
    rintro ⟨low, high⟩
    have low' : 97 ≤ c.toNat := low
    have high' : c.toNat ≤ 122 := high
    omega
  have same : c.toUpper = c := dif_neg noLetter
  rw [Text.upperChar, if_pos ascii, same]

theorem allowed_of_isNoLogLevel (known : isNoLogLevel v = .ok false) {s : String}
    (text : v = .str s) : ∀ c ∈ s.toList, isForbidden c = false := by
  subst text
  have plain : ∀ level ∈ logLevels, level.toList.any isForbidden = false := by decide
  have listed : logLevels.contains (String.ofList (Text.upper s.toList)) = true := by
    simpa only [Bool.not_eq_false'] using Attempt.pure_eq_ok_iff.1 known
  have level := Toml.allowed_of_any (plain _ (List.contains_iff_mem.1 listed))
  rw [String.toList_ofList] at level
  intro c member
  by_contra forbidden
  rw [Bool.not_eq_false] at forbidden
  -- A control character would be in the name of the level as well.
  have inside : c ∈ Text.upper s.toList :=
    List.mem_flatMap.2 ⟨c, member, by simp [upperChar_of_isForbidden forbidden]⟩
  rw [level c inside] at forbidden
  cases forbidden

/-- Settings against which nothing is to be said can be spelled, but for the name of the
interpreter. -/
theorem isSpellable_of_complaints (declared : settings.IsDeclared)
    (fine : settings.complaints = .ok []) (writable : settings.isWritable = true) {slot : Slot}
    (other : slot ≠ .python) : IsSpellable (slot.get settings) := by
  obtain ⟨executor, level, format⟩ := words_of_complaints fine
  refine (declared slot).isSpellable (isWritable_iff.1 writable slot) fun s text => ?_
  have kind := declared slot
  cases slot with
  | executor => exact allowed_of_isNoneOf executor (by decide) text
  | logLevel => exact allowed_of_isNoLogLevel level text
  | logFormat => exact allowed_of_isNoneOf format (by decide) text
  | python => exact absurd rfl other
  | _ =>
      rw [text] at kind
      simp [Slot.Admits] at kind

/-! ### Written files -/

variable {interpreter : String} {tree changed : Files} {path : Path}

/-- Whether settings that are written to a file can be loaded from it again, in surroundings with
an interpreter of their own. -/
def Reloads (settings : Settings) (interpreter : String) (tree : Files) (path : Path) : Prop :=
  ∃ text changed, settings.fileText = .ok text ∧ tree.writeText path text = .ok changed ∧
    load interpreter changed path = .ok settings

theorem fileText_eq_ok_iff {text : String} :
    settings.fileText = .ok text ↔ settings.isWritable = true ∧ text = settings.toToml := by
  unfold fileText
  split
  next writable => simp [writable, pure, Except.pure, eq_comm]
  next unwritable => simp [unwritable, throw, throwThe, MonadExceptOf.throw]

/-- A file that is read as the tables of settings gives the settings, if there is nothing to be
said against them. -/
theorem load_of_toToml (own : path.name ≠ projectFile)
    (isFile : changed.site path = .file settings.toToml)
    (parsed : Value.ofToml? settings.toToml = .ok (some settings.documentOf))
    (fine : settings.complaints = .ok []) : load interpreter changed path = .ok settings := by
  have named : (Value.dict settings.documentOf).IsNamed := Value.isNamed_of_ofToml? parsed
  have accepted : settings.IsAccepted interpreter (.dict settings.documentOf) :=
    ⟨isReadFrom_documentOf interpreter settings, fine⟩
  have whole : dataOf path settings.documentOf = .ok (.dict settings.documentOf) := by
    rw [dataOf, if_neg own]
    rfl
  rw [load_of_file isFile, parsed]
  change (dataOf path settings.documentOf >>= checkedFrom interpreter path) = _
  rw [whole]
  change checkedFrom interpreter path (.dict settings.documentOf) = _
  rcases checkedFrom_cases interpreter path named with
    ⟨given, result, other⟩ | ⟨_, _, none⟩ | ⟨_, unfit⟩
  · rw [result, other.read.unique accepted.read]
  · exact absurd accepted (none settings)
  · exact absurd unfit accepted.not_isUnfit

theorem not_reloads_of_forbidden (declared : settings.IsDeclared)
    (fine : settings.complaints = .ok []) {python : String} (named : settings.python = .str python)
    (forbidden : ∃ c ∈ python.toList, isForbidden c = true) :
    ¬ settings.Reloads interpreter tree path := by
  rintro ⟨text, changed, written, stored, loaded⟩
  obtain ⟨writable, rfl⟩ := fileText_eq_ok_iff.1 written
  have parsed := ofToml?_toToml_of_forbidden named forbidden
    fun slot other => isSpellable_of_complaints declared fine writable other
  rw [load_of_file (Files.site_of_writeText stored), parsed] at loaded
  cases loaded

/-- Settings survive being written to a file and loaded from it exactly if their integers are
short enough to be written, and there is no control character other than a tab in the name of the
interpreter. Of the settings it is supposed that they are of the kinds that they are declared
with, and that there is nothing to be said against them. -/
theorem reloads_iff (declared : settings.IsDeclared) (fine : settings.complaints = .ok [])
    (own : path.name ≠ projectFile) (free : tree.CanWrite path) :
    settings.Reloads interpreter tree path ↔ settings.isWritable = true ∧
      ∀ python, settings.python = .str python → ∀ c ∈ python.toList, isForbidden c = false := by
  constructor
  · intro reloads
    obtain ⟨text, _, written, _⟩ := id reloads
    refine ⟨(fileText_eq_ok_iff.1 written).1, fun python named c member => ?_⟩
    by_contra forbidden
    exact not_reloads_of_forbidden declared fine named
      ⟨c, member, (Bool.not_eq_false _).mp forbidden⟩ reloads
  · rintro ⟨writable, allowed⟩
    obtain ⟨changed, stored⟩ := free settings.toToml
    have spellable : ∀ slot : Slot, IsSpellable (slot.get settings) := by
      intro slot
      -- The name of the interpreter is the only text that is not checked.
      by_cases isPython : slot = .python
      · subst isPython
        exact (declared .python).isSpellable (isWritable_iff.1 writable .python) allowed
      · exact isSpellable_of_complaints declared fine writable isPython
    exact ⟨_, changed, fileText_eq_ok_iff.2 ⟨writable, rfl⟩, stored,
      load_of_toToml own (Files.site_of_writeText stored) (ofToml?_toToml spellable) fine⟩

theorem canWrite_own : Files.CanWrite {} ⟨0, ["typesynth.toml"]⟩ :=
  fun _ => ⟨_, rfl⟩

/-- Settings that are the defaults but for the interpreter. -/
theorem isDeclared_python (python : String) : IsDeclared { python := .str python } := by
  intro slot
  cases slot <;> simp [Slot.Admits, Slot.get]

/-- There may be quotes and backslashes in the name of the interpreter. -/
theorem reloads_quotes :
    let settings : Settings := { python := .str "C:\\\"Programs\"\\python.exe" }
    settings.IsDeclared ∧ settings.complaints = .ok [] ∧
      settings.Reloads "python" {} ⟨0, ["typesynth.toml"]⟩ := by
  intro settings
  have declared : settings.IsDeclared := isDeclared_python _
  have fine : settings.complaints = .ok [] := rfl
  have bound : 2 ^ 6 ≤ Value.numeralBound := Value.two_pow_le_numeralBound (by decide)
  have small (n : Nat) (few : n < 2 ^ 6) : (Value.int n).isWritable = true :=
    (Value.isWritable_int_iff n).2 (few.trans_le bound)
  have writable : settings.isWritable = true := by
    refine isWritable_iff.2 fun slot => ?_
    cases slot with
    | executor | python | logLevel | logFormat => rfl
    | _ => exact small _ (by decide)
  have allowed : ∀ python, settings.python = .str python →
      ∀ c ∈ python.toList, isForbidden c = false := by
    rintro python same
    obtain rfl := Value.str.inj same
    exact Toml.allowed_of_any (by decide)
  exact ⟨declared, fine, (reloads_iff declared fine (by decide) canWrite_own).2
    ⟨writable, allowed⟩⟩

/-- With a line end in the name of the interpreter, what is written is no document. -/
theorem not_reloads_lineEnd :
    let settings : Settings := { python := .str "a\nb" }
    settings.IsDeclared ∧ settings.complaints = .ok [] ∧
      Files.CanWrite {} ⟨0, ["typesynth.toml"]⟩ ∧
      ¬ settings.Reloads "python" {} ⟨0, ["typesynth.toml"]⟩ :=
  ⟨isDeclared_python _, rfl, canWrite_own,
    not_reloads_of_forbidden (isDeclared_python _) rfl rfl ⟨'\n', by decide, by decide⟩⟩

end Settings

end FunctionSynthesis
