import FunctionSynthesis.Proofs.Settings.Slot
import FunctionSynthesis.Proofs.Value.Equality

/-!
# Merged settings

Merging takes over every setting that is changed, and the limits all together as soon as one of
them is. So the limits that are at their defaults next to a changed one are taken over too, and
what the base has in their place is lost. All other settings are merged one by one
(`settingwise_merge`).
-/

namespace FunctionSynthesis

namespace Settings

variable {interpreter : String} {base override : Settings}

/-! ### Changed settings -/

/-- Whether a setting differs from its default, in surroundings with an interpreter of their own. -/
def Slot.isChanged (slot : Slot) (interpreter : String) (settings : Settings) : Bool :=
  !(slot.get settings == slot.get (standard interpreter))

/-- What becomes of a setting when settings are merged one by one. -/
def Slot.merged (slot : Slot) (interpreter : String) (base override : Settings) : Value :=
  if slot.isChanged interpreter override then slot.get override else slot.get base

/-- Take a setting over if it is changed. -/
def takeOver (interpreter : String) (override merged : Settings) (slot : Slot) : Settings :=
  if slot.get override == slot.get (standard interpreter) then merged
  else slot.set merged (slot.get override)

theorem Slot.merged_of_isChanged {slot : Slot}
    (changed : slot.isChanged interpreter override = true) :
    slot.merged interpreter base override = slot.get override :=
  if_pos changed

theorem Slot.merged_of_not_isChanged {slot : Slot}
    (unchanged : ¬ slot.isChanged interpreter override = true) :
    slot.merged interpreter base override = slot.get base :=
  if_neg unchanged

theorem get_takeOver (slot other : Slot) (merged override : Settings) :
    slot.get (takeOver interpreter override merged other) =
      if slot = other then slot.merged interpreter merged override else slot.get merged := by
  unfold takeOver Slot.merged Slot.isChanged
  by_cases same : slot = other
  · subst same
    by_cases isDefault : (slot.get override == slot.get (standard interpreter)) = true <;>
      simp [isDefault, Slot.get_set]
  · by_cases isDefault : (other.get override == other.get (standard interpreter)) = true <;>
      simp [isDefault, Slot.get_set, same]

/-- Settings that are taken over one after the other are merged one by one. -/
theorem get_foldl_takeOver (slot : Slot) (slots : List Slot) (merged override : Settings) :
    slot.get (slots.foldl (takeOver interpreter override) merged) =
      if slot ∈ slots then slot.merged interpreter merged override else slot.get merged := by
  induction slots generalizing merged with
  | nil => simp
  | cons other slots ih =>
      -- To take a setting over twice is to take it over once.
      have again : slot.merged interpreter (takeOver interpreter override merged other) override =
          slot.merged interpreter merged override := by
        by_cases changed : slot.isChanged interpreter override = true
        · rw [Slot.merged_of_isChanged changed, Slot.merged_of_isChanged changed]
        · rw [Slot.merged_of_not_isChanged changed, get_takeOver,
            Slot.merged_of_not_isChanged changed, ite_self]
      rw [List.foldl_cons, ih, again, get_takeOver]
      by_cases here : slot = other <;> by_cases later : slot ∈ slots <;> simp [here, later]

/-! ### Limits -/

/-- Whether a limit is changed. -/
def HasChangedLimit (interpreter : String) (settings : Settings) : Prop :=
  ∃ slot : Slot, slot.table = limitsTable ∧ slot.isChanged interpreter settings = true

theorem equal_limits_iff (interpreter : String) (settings : Settings) :
    settings.limits.equal (standard interpreter).limits = true ↔
      ¬ settings.HasChangedLimit interpreter := by
  have limits : settings.limits.equal (standard interpreter).limits =
      (Slot.all.filter fun slot => slot.table = limitsTable).all
        fun slot => slot.get settings == slot.get (standard interpreter) := rfl
  rw [limits, List.all_eq_true]
  constructor
  · rintro unchanged ⟨slot, isTable, changed⟩
    have isDefault := unchanged slot (List.mem_filter.2 ⟨slot.mem_all, decide_eq_true isTable⟩)
    simp [Slot.isChanged, isDefault] at changed
  · intro unchanged slot member
    have isTable : slot.table = limitsTable := by simpa using (List.mem_filter.1 member).2
    by_contra other
    exact unchanged ⟨slot, isTable, by simpa [Slot.isChanged] using other⟩

instance (interpreter : String) (settings : Settings) :
    Decidable (settings.HasChangedLimit interpreter) :=
  decidable_of_iff (¬ settings.limits.equal (standard interpreter).limits = true)
    (by rw [equal_limits_iff, not_not])

theorem get_withLimits (slot : Slot) (settings other : Settings) :
    slot.get { settings with limits := other.limits } =
      if slot.table = limitsTable then slot.get other else slot.get settings := by
  cases slot <;> rfl

/-! ### Merged settings -/

/-- The settings that are no limits. -/
def Slot.singles : List Slot :=
  all.filter fun slot => slot.table ≠ limitsTable

theorem Slot.mem_singles_iff (slot : Slot) : slot ∈ singles ↔ slot.table ≠ limitsTable := by
  rw [singles, List.mem_filter, decide_eq_true_iff]
  exact and_iff_right slot.mem_all

/-- What a setting is in the merged settings. -/
theorem get_merge (slot : Slot) (interpreter : String) (base override : Settings) :
    slot.get (base.merge interpreter override) =
      if slot.table = limitsTable then
        if override.HasChangedLimit interpreter then slot.get override else slot.get base
      else slot.merged interpreter base override := by
  have merged : base.merge interpreter override =
      if override.limits.equal (standard interpreter).limits then
        Slot.singles.foldl (takeOver interpreter override) base
      else
        { Slot.singles.foldl (takeOver interpreter override) base with
          limits := override.limits } := rfl
  rw [merged]
  by_cases changed : override.HasChangedLimit interpreter
  · rw [if_neg (fun equal => (equal_limits_iff interpreter override).1 equal changed),
      get_withLimits, get_foldl_takeOver, if_pos changed]
    by_cases isTable : slot.table = limitsTable <;> simp [isTable, Slot.mem_singles_iff]
  · rw [if_pos ((equal_limits_iff interpreter override).2 changed), get_foldl_takeOver,
      if_neg changed]
    by_cases isTable : slot.table = limitsTable <;> simp [isTable, Slot.mem_singles_iff]

theorem get_merge_of_limit {slot : Slot} (isTable : slot.table = limitsTable) :
    slot.get (base.merge interpreter override) =
      if override.HasChangedLimit interpreter then slot.get override else slot.get base := by
  rw [get_merge, if_pos isTable]

theorem get_merge_of_single {slot : Slot} (single : slot.table ≠ limitsTable) :
    slot.get (base.merge interpreter override) = slot.merged interpreter base override := by
  rw [get_merge, if_neg single]

/-- Whether what the base has for a limit is lost to a default. -/
structure Slot.IsLost (slot : Slot) (interpreter : String) (base override : Settings) : Prop where
  isLimit : slot.table = limitsTable
  unchanged : ¬ slot.isChanged interpreter override = true
  changedLimit : override.HasChangedLimit interpreter
  other : slot.get override ≠ slot.get base

theorem get_merge_eq_merged_iff (slot : Slot) (interpreter : String) (base override : Settings) :
    slot.get (base.merge interpreter override) = slot.merged interpreter base override ↔
      ¬ slot.IsLost interpreter base override := by
  by_cases isTable : slot.table = limitsTable
  · rw [get_merge_of_limit isTable]
    by_cases changed : slot.isChanged interpreter override = true
    · rw [if_pos ⟨slot, isTable, changed⟩, Slot.merged_of_isChanged changed]
      exact iff_of_true rfl fun lost => lost.unchanged changed
    · rw [Slot.merged_of_not_isChanged changed]
      by_cases some : override.HasChangedLimit interpreter
      · rw [if_pos some]
        constructor
        · exact fun same lost => lost.other same
        · intro kept
          by_contra other
          exact kept ⟨isTable, changed, some, other⟩
      · rw [if_neg some]
        exact iff_of_true rfl fun lost => some lost.changedLimit
  · rw [get_merge_of_single isTable]
    exact iff_of_true rfl fun lost => isTable lost.isLimit

/-! ### Laws -/

theorem Slot.isChanged_congr {slot : Slot} {a b : Settings} (same : slot.get a = slot.get b) :
    slot.isChanged interpreter a = slot.isChanged interpreter b := by
  rw [isChanged, isChanged, same]

theorem hasChangedLimit_congr {a b : Settings}
    (same : ∀ slot : Slot, slot.table = limitsTable → slot.get a = slot.get b) :
    a.HasChangedLimit interpreter ↔ b.HasChangedLimit interpreter := by
  apply exists_congr
  intro slot
  apply and_congr_right
  intro isTable
  rw [Slot.isChanged_congr (same slot isTable)]

theorem merge_assoc_of_single {slot : Slot} (single : slot.table ≠ limitsTable)
    (a b c : Settings) :
    slot.get ((a.merge interpreter b).merge interpreter c) =
      slot.get (a.merge interpreter (b.merge interpreter c)) := by
  rw [get_merge_of_single single, get_merge_of_single single]
  have inner : slot.get (b.merge interpreter c) = slot.merged interpreter b c :=
    get_merge_of_single single
  by_cases changed : slot.isChanged interpreter c = true
  · rw [Slot.merged_of_isChanged changed] at inner ⊢
    rw [Slot.merged_of_isChanged ((Slot.isChanged_congr inner).trans changed), inner]
  · rw [Slot.merged_of_not_isChanged changed] at inner ⊢
    rw [get_merge_of_single single, Slot.merged, Slot.merged, Slot.isChanged_congr inner, inner]

theorem merge_assoc_of_limit {slot : Slot} (isTable : slot.table = limitsTable)
    (a b c : Settings) :
    slot.get ((a.merge interpreter b).merge interpreter c) =
      slot.get (a.merge interpreter (b.merge interpreter c)) := by
  rw [get_merge_of_limit isTable, get_merge_of_limit isTable, get_merge_of_limit isTable]
  by_cases changed : c.HasChangedLimit interpreter
  · have taken : ∀ limit : Slot, limit.table = limitsTable →
        limit.get (b.merge interpreter c) = limit.get c := by
      intro limit isLimit
      rw [get_merge_of_limit isLimit, if_pos changed]
    rw [if_pos changed, if_pos ((hasChangedLimit_congr taken).2 changed), taken slot isTable]
  · have kept : ∀ limit : Slot, limit.table = limitsTable →
        limit.get (b.merge interpreter c) = limit.get b := by
      intro limit isLimit
      rw [get_merge_of_limit isLimit, if_neg changed]
    rw [if_neg changed, kept slot isTable]
    simp only [hasChangedLimit_congr kept]

theorem merge_assoc (interpreter : String) (a b c : Settings) :
    (a.merge interpreter b).merge interpreter c =
      a.merge interpreter (b.merge interpreter c) := by
  apply Slot.ext
  intro slot
  by_cases isTable : slot.table = limitsTable
  · exact merge_assoc_of_limit isTable a b c
  · exact merge_assoc_of_single isTable a b c

/-- Only the interpreter is another one in other surroundings. -/
theorem exists_standard (interpreter : String) :
    ∃ python, standard interpreter = { python := .str python } := by
  unfold standard
  split
  · exact ⟨_, rfl⟩
  · exact ⟨_, rfl⟩

/-- Every default is equal to itself. -/
theorem not_isChanged_standard (slot : Slot) (interpreter : String) :
    ¬ slot.isChanged interpreter (standard interpreter) = true := by
  obtain ⟨python, defaults⟩ := exists_standard interpreter
  rw [Slot.isChanged, defaults]
  cases slot with
  | python => simp [Slot.get, Value.beq_str_iff]
  | _ => exact Bool.false_ne_true

theorem merge_standard (interpreter : String) (base : Settings) :
    base.merge interpreter (standard interpreter) = base := by
  apply Slot.ext
  intro slot
  have noLimit : ¬ (standard interpreter).HasChangedLimit interpreter := by
    rintro ⟨limit, _, changed⟩
    exact not_isChanged_standard limit interpreter changed
  rw [get_merge, if_neg noLimit,
    Slot.merged_of_not_isChanged (not_isChanged_standard slot interpreter), ite_self]

/-- Whether settings compare as equal: what they have for a setting is the same or equal. -/
def IsEqualTo (a b : Settings) : Prop :=
  ∀ slot : Slot, slot.get a = slot.get b ∨ (slot.get a == slot.get b) = true

theorem isHashable_get_standard (slot : Slot) (interpreter : String) :
    (slot.get (standard interpreter)).isHashable = true := by
  obtain ⟨python, defaults⟩ := exists_standard interpreter
  rw [defaults]
  cases slot <;> rfl

theorem standard_equal_of_not_isChanged {slot : Slot} {settings : Settings}
    (unchanged : ¬ slot.isChanged interpreter settings = true) :
    (slot.get (standard interpreter) == slot.get settings) = true := by
  have same : (slot.get settings == slot.get (standard interpreter)) = true := by
    simpa [Slot.isChanged] using unchanged
  exact Value.equal_symm (isHashable_get_standard slot interpreter) same

theorem standard_merge (interpreter : String) (settings : Settings) :
    IsEqualTo ((standard interpreter).merge interpreter settings) settings := by
  intro slot
  by_cases changed : slot.isChanged interpreter settings = true
  · apply Or.inl
    by_cases isTable : slot.table = limitsTable
    · rw [get_merge_of_limit isTable, if_pos ⟨slot, isTable, changed⟩]
    · rw [get_merge_of_single isTable, Slot.merged_of_isChanged changed]
  · have isDefault := standard_equal_of_not_isChanged changed
    rw [get_merge, Slot.merged_of_not_isChanged changed]
    by_cases isTable : slot.table = limitsTable
    · by_cases some : settings.HasChangedLimit interpreter
      · simp [isTable, some]
      · simp [some, isDefault]
    · simp [isTable, isDefault]

/-! ### Memory -/

/-- A change leaves alone what was there before the copy was made. -/
theorem foldlM_changes {memory : List Settings} {address : ℕ}
    (isOverride : memory[address]? = some override)
    (changes : List (Settings → Settings → Settings)) (merged : Settings) :
    changes.foldlM (fun now change => do
      let settings ← now[address]?
      let merged ← now[memory.length]?
      return now.set memory.length (change settings merged)) (memory ++ [merged]) =
      some (memory ++ [changes.foldl (fun merged change => change override merged) merged]) := by
  obtain ⟨inside, _⟩ := List.getElem?_eq_some_iff.1 isOverride
  induction changes generalizing merged with
  | nil => rfl
  | cons change changes ih =>
      rw [List.foldlM_cons, List.getElem?_append_left inside, isOverride,
        List.getElem?_concat_length]
      have written : (memory ++ [merged]).set memory.length (change override merged) =
          memory ++ [change override merged] := by
        simp
      simp only [Option.bind_eq_bind, Option.bind_some, Option.pure_def, written]
      exact ih (change override merged)

theorem mergeAt_eq_some {memory : List Settings} {first second : ℕ}
    (isBase : memory[first]? = some base) (isOverride : memory[second]? = some override) :
    mergeAt interpreter memory first second =
      some (memory ++ [base.merge interpreter override]) := by
  unfold mergeAt
  rw [isBase]
  exact foldlM_changes isOverride (changes interpreter) base

/-- A setting is merged as if it was alone unless it is a limit that is lost. The settings that
are merged stay as they are, and merging is associative and has the defaults as identity. -/
theorem settingwise_merge (interpreter : String) (base override : Settings) :
    (∀ slot : Slot,
      slot.get (base.merge interpreter override) = slot.merged interpreter base override ↔
        ¬ slot.IsLost interpreter base override) ∧
    (∀ (memory : List Settings) (first second : ℕ),
      memory[first]? = some base → memory[second]? = some override →
        mergeAt interpreter memory first second =
          some (memory ++ [base.merge interpreter override])) ∧
    (∀ next : Settings, (base.merge interpreter override).merge interpreter next =
      base.merge interpreter (override.merge interpreter next)) ∧
    base.merge interpreter (standard interpreter) = base ∧
    IsEqualTo ((standard interpreter).merge interpreter base) base := by
  refine ⟨?_, ?_, ?_, ?_, ?_⟩
  · exact fun slot => get_merge_eq_merged_iff slot interpreter base override
  · exact fun _ _ _ isBase isOverride => mergeAt_eq_some isBase isOverride
  · exact merge_assoc interpreter base override
  · exact merge_standard interpreter base
  · exact standard_merge interpreter base

/-- A limit that is changed in both settings is merged like any other setting. -/
theorem settingwise_merge_changed :
    Slot.maxArrayArity.get
        (merge "python" { maxSize := .int 30, limits := { maxArrayArity := .int 7 } }
          { maxSize := .int 40, limits := { maxArrayArity := .int 9 } }) = .int 9 ∧
      mergeAt "python" [{ maxSize := .int 30 }, { python := .str "python" }] 0 1 =
        some [{ maxSize := .int 30 }, { python := .str "python" }, { maxSize := .int 30 }] := by
  constructor
  · refine (((settingwise_merge "python" _ _).1 Slot.maxArrayArity).2 ?_).trans rfl
    exact fun lost => lost.unchanged rfl
  · exact (settingwise_merge "python" { maxSize := .int 30 }
      { python := .str "python" }).2.1 _ 0 1 rfl rfl

/-- A limit of the base is lost to a default when another limit is changed. -/
theorem not_settingwise_merge_limits :
    ¬ ∀ (interpreter : String) (base override : Settings) (slot : Slot),
      slot.get (base.merge interpreter override) = slot.merged interpreter base override := by
  intro settingwise
  have arity : Value.int 3 = .int 7 :=
    settingwise "" { limits := { maxArrayArity := .int 7 } }
      { limits := { concatConstants := .int 9 } } Slot.maxArrayArity
  exact absurd (Value.int.inj arity) (by decide)

end Settings

end FunctionSynthesis
