import FunctionSynthesis.Proofs.Example.Reading
import FunctionSynthesis.Proofs.Example.Sameness
import FunctionSynthesis.Task

/-!
# Reading tasks

Data for tasks are read into one task for each entry, whose examples say enough for a query, or
they are refused by a problem of the file (`usable_of_ofData`). Only a name with an integer that
is too long to be written escapes both, because the name is written outside of what turns faults
into problems.
-/

namespace FunctionSynthesis

open Attempt (Succeeds)

/-- Examples that agree on the number of arguments give a query. -/
theorem Query.succeeds_ofExamples {examples : List Example} (nonempty : examples ≠ [])
    (even : ∀ x ∈ examples, x.inputs.length = Example.arityOf examples) {settings : Settings}
    {size length : Int} (isSize : settings.maxPoolSize = .int size)
    (isLength : settings.maxLiteralLength = .int length) (catalog : Option Catalog) :
    Succeeds (ofExamples examples settings catalog) := by
  have signature := Example.signature_eq_ok nonempty fun x member => (even x member).ge
  obtain ⟨pools, collected⟩ := Pools.succeeds_ofExamples examples isSize isLength
  exact ⟨_, Attempt.bind_eq_ok_iff.2
    ⟨_, signature, Attempt.bind_eq_ok_iff.2 ⟨pools, collected, rfl⟩⟩⟩

namespace Task

/-! ### One task -/

/-- The value that lists the examples of an entry. Without a value that counts as true there are
no examples. -/
def examplesIn (entry : Value) : Value :=
  let given := (entry.get? "examples").getD .none
  if given.isTruthy then given else .list []

/-- Whether a task has the name and the examples of an entry. -/
structure IsReadFrom (task : Task) (entry : Value) : Prop where
  name : ∃ name, entry.get? "name" = some name ∧ name.isWritable = true ∧
    task.name = name.plainText
  examples : ∃ items, (examplesIn entry).elements? = some items ∧
    List.Forall₂ Example.IsReadFrom task.examples items
  even : ∀ x ∈ task.examples, x.inputs.length = task.arity

/-- Whether an entry has a name that cannot be written. -/
def HasLongName (entry : Value) : Prop :=
  ∃ name, entry.get? "name" = some name ∧ name.isWritable = false

variable {source : String} {position : Nat} {entry name : Value}

theorem nameText_eq (name : Value) :
    nameText name = if name.isWritable then .ok name.plainText
      else .error (Fault.tooManyDigits none) := rfl

/-- What becomes of the examples of a task if they are not usable. -/
theorem examplesOf_of_error {given : Value} {fault : Fault}
    (failed : Example.ofValues (if given.isTruthy then given else .list []) = .error fault) :
    examplesOf source name given =
      if name.isWritable then
        .error (.problem (.taskFile source s!"{name.plainText}: {fault.message}" []))
      else .error (.fault (Fault.tooManyDigits none)) := by
  have unsuitable : (fault.kind.isValue || fault.kind = .type) = true :=
    Example.failsOnly_ofValues _ fault failed
  unfold examplesOf
  dsimp only
  rw [failed]
  dsimp only
  rw [if_pos unsuitable, nameText_eq]
  cases name.isWritable <;> rfl

theorem examplesOf_of_ok {given : Value} {examples : List Example}
    (read : Example.ofValues (if given.isTruthy then given else .list []) = .ok examples) :
    examplesOf source name given = .ok examples := by
  unfold examplesOf
  dsimp only
  rw [read]
  rfl

theorem ofEntry_of_name (named : entry.get? "name" = some name) :
    ofEntry source position entry =
      examplesOf source name ((entry.get? "examples").getD .none) >>= fun examples =>
        (nameText name).mapError .fault >>= fun text => .ok ⟨text, examples⟩ := by
  unfold ofEntry
  rw [named]
  rfl

theorem ofEntry_eq_ok_iff {task : Task} :
    ofEntry source position entry = .ok task ↔ task.IsReadFrom entry := by
  constructor
  · intro read
    cases named : entry.get? "name" with
    | none =>
        unfold ofEntry at read
        rw [named] at read
        cases read
    | some name =>
        rw [ofEntry_of_name named] at read
        obtain ⟨examples, listed, read⟩ := Attempt.bind_eq_ok_iff.1 read
        obtain ⟨text, written, read⟩ := Attempt.bind_eq_ok_iff.1 read
        obtain rfl := Except.ok.inj read
        rw [nameText_eq] at written
        split at written
        next writable =>
          obtain rfl := Except.ok.inj written
          cases found : Example.ofValues (examplesIn entry) with
          | error fault =>
              rw [examplesOf_of_error found, if_pos writable] at listed
              cases listed
          | ok examples' =>
              rw [examplesOf_of_ok found] at listed
              obtain rfl := Except.ok.inj listed
              obtain ⟨items, even⟩ := Example.ofValues_eq_ok_iff.1 found
              exact ⟨⟨name, named, writable, rfl⟩, items, even⟩
        next => cases written
  · rintro ⟨⟨name, named, writable, isName⟩, items, even⟩
    obtain ⟨text, examples⟩ := task
    obtain rfl : text = name.plainText := isName
    rw [ofEntry_of_name named, examplesOf_of_ok (Example.ofValues_eq_ok_iff.2 ⟨items, even⟩),
      nameText_eq, if_pos writable]
    rfl

/-- An entry whose name cannot be written is a fault, whatever its examples are. -/
theorem ofEntry_of_hasLongName (long : HasLongName entry) :
    ofEntry source position entry = .error (.fault (Fault.tooManyDigits none)) := by
  obtain ⟨name, named, unwritable⟩ := long
  rw [ofEntry_of_name named]
  cases found : Example.ofValues (examplesIn entry) with
  | error fault =>
      rw [examplesOf_of_error found, unwritable]
      rfl
  | ok examples =>
      rw [examplesOf_of_ok found, nameText_eq, unwritable]
      rfl

/-- Any other entry is a task or is refused by a problem of the file. -/
theorem failure_of_ofEntry {failure : Failure} (short : ¬ HasLongName entry)
    (failed : ofEntry source position entry = .error failure) :
    ∃ detail, failure = .problem (.taskFile source detail []) := by
  cases named : entry.get? "name" with
  | none =>
      unfold ofEntry at failed
      rw [named] at failed
      exact ⟨_, (Except.error.inj failed).symm⟩
  | some name =>
      have writable : name.isWritable = true := by
        by_contra unwritable
        exact short ⟨name, named, Bool.eq_false_iff.2 unwritable⟩
      rw [ofEntry_of_name named] at failed
      cases found : Example.ofValues (examplesIn entry) with
      | error fault =>
          rw [examplesOf_of_error found, if_pos writable] at failed
          exact ⟨_, (Except.error.inj failed).symm⟩
      | ok examples =>
          rw [examplesOf_of_ok found, nameText_eq, if_pos writable] at failed
          cases failed

/-! ### Lists of tasks -/

/-- The value that lists the entries of data. -/
def listIn (data : Value) : Value :=
  (data.get? "functions").getD data

/-- Whether the first entry of data that is no task has a name that cannot be written. -/
def StopsAtLongName (source : String) (data : Value) : Prop :=
  ∃ before entry after, listIn data = .list (before ++ entry :: after) ∧
    Succeeds (ofData source (.list before)) ∧ HasLongName entry

variable {data : Value} {entries : List Value}

theorem ofData_of_list (listed : listIn data = .list entries) :
    ofData source data = entries.zipIdx.mapM fun entry => ofEntry source entry.2 entry.1 := by
  have found : (data.get? "functions").getD data = .list entries := listed
  rw [ofData, found]

theorem ofData_of_not_list (other : ∀ entries, listIn data ≠ .list entries) :
    ofData source data = .error (.problem (.taskFile source
      "top level must be a list of functions" [])) := by
  unfold ofData
  split
  next entries listed => exact absurd listed (other entries)
  next => rfl

/-- Data are read into one task for each entry, in the same order. -/
theorem forall₂_of_ofData {tasks : List Task} (read : ofData source data = .ok tasks) :
    ∃ entries, listIn data = .list entries ∧ List.Forall₂ IsReadFrom tasks entries := by
  by_cases listed : ∃ entries, listIn data = .list entries
  · obtain ⟨entries, listed⟩ := listed
    rw [ofData_of_list listed] at read
    have pairs := (Attempt.forall₂_of_mapM_eq_ok read).imp fun _ _ => ofEntry_eq_ok_iff.1
    refine ⟨entries, listed, ?_⟩
    rw [← List.zipIdx_map_fst 0 entries, List.forall₂_map_right_iff]
    exact pairs.flip
  · rw [ofData_of_not_list fun entries same => listed ⟨entries, same⟩] at read
    cases read

theorem succeeds_ofData_of_forall (each : ∀ entry ∈ entries, ∃ task, IsReadFrom task entry) :
    Succeeds (ofData source (.list entries)) := by
  have read : ∀ entry ∈ entries.zipIdx, ∃ task, ofEntry source entry.2 entry.1 = .ok task :=
    fun entry member => (each entry.1 (List.fst_mem_of_mem_zipIdx member)).imp
      fun _ described => ofEntry_eq_ok_iff.2 described
  obtain ⟨tasks, pairs⟩ := Attempt.exists_forall₂ read
  rw [ofData_of_list rfl]
  exact ⟨tasks, Attempt.mapM_eq_ok_of_forall₂ pairs⟩

/-- Data are refused by a problem of the file, or they stop at a name that is too long. -/
theorem failure_of_ofData {failure : Failure} (failed : ofData source data = .error failure) :
    (∃ detail, failure = .problem (.taskFile source detail [])) ∨
      failure = .fault (Fault.tooManyDigits none) ∧ StopsAtLongName source data := by
  by_cases listed : ∃ entries, listIn data = .list entries
  · obtain ⟨entries, listed⟩ := listed
    -- Data fail with the first entry that is no task, and its name decides how.
    rw [ofData_of_list listed, Attempt.mapM_eq_error_iff] at failed
    obtain ⟨before, entry, after, split, ⟨tasks, read⟩, failed⟩ := failed
    by_cases long : HasLongName entry.1
    · rw [ofEntry_of_hasLongName long] at failed
      refine Or.inr ⟨(Except.error.inj failed).symm, before.map Prod.fst, entry.1,
        after.map Prod.fst, ?_, succeeds_ofData_of_forall fun given member => ?_, long⟩
      · rw [listed, ← List.zipIdx_map_fst 0 entries, split, List.map_append, List.map_cons]
      · obtain ⟨pair, inside, rfl⟩ := List.mem_map.1 member
        obtain ⟨task, _, read⟩ :=
          Attempt.exists_of_mem_right (Attempt.forall₂_of_mapM_eq_ok read).flip inside
        exact ⟨task, ofEntry_eq_ok_iff.1 read⟩
    · exact Or.inl (failure_of_ofEntry long failed)
  · rw [ofData_of_not_list fun entries same => listed ⟨entries, same⟩] at failed
    exact Or.inl ⟨_, (Except.error.inj failed).symm⟩

theorem ofData_of_stopsAtLongName (stops : StopsAtLongName source data) :
    ofData source data = .error (.fault (Fault.tooManyDigits none)) := by
  obtain ⟨before, entry, after, listed, succeeds, long⟩ := stops
  rw [ofData_of_list listed, Attempt.mapM_eq_error_iff]
  refine ⟨before.zipIdx, (entry, before.length), after.zipIdx (before.length + 1), ?_, ?_, ?_⟩
  · simp [List.zipIdx_append]
  · have alone : ofData source (.list before) = _ := ofData_of_list rfl
    rwa [alone] at succeeds
  · exact ofEntry_of_hasLongName long

/-- Data for tasks either give one task for each entry in order, each with examples from which
a query can be made if there are any, or are refused by a problem of the file, or stop at a
name that is too long. The last happens exactly when such a name is the first thing wrong. -/
theorem usable_of_ofData (source : String) (data : Value) :
    (match ofData source data with
      | .ok tasks =>
          (∃ entries, listIn data = .list entries ∧ List.Forall₂ IsReadFrom tasks entries) ∧
            ∀ task ∈ tasks, (∀ x ∈ task.examples, x.inputs.length = task.arity) ∧
              ∀ (settings : Settings) (size length : Int) (catalog : Option Catalog),
                task.examples ≠ [] → settings.maxPoolSize = .int size →
                  settings.maxLiteralLength = .int length →
                    Succeeds (Query.ofExamples task.examples settings catalog)
      | .error failure =>
          (∃ detail, failure = .problem (.taskFile source detail [])) ∨
            failure = .fault (Fault.tooManyDigits none)) ∧
    ((∃ fault, ofData source data = .error (.fault fault)) ↔ StopsAtLongName source data) := by
  constructor
  · split
    next tasks read =>
      obtain ⟨entries, listed, pairs⟩ := forall₂_of_ofData read
      refine ⟨⟨entries, listed, pairs⟩, fun task member => ?_⟩
      obtain ⟨entry, _, described⟩ := Attempt.exists_of_mem_right pairs.flip member
      refine ⟨described.even, fun settings size length catalog nonempty isSize isLength => ?_⟩
      exact Query.succeeds_ofExamples nonempty described.even isSize isLength catalog
    next failure failed => exact (failure_of_ofData failed).imp_right And.left
  · constructor
    · rintro ⟨fault, failed⟩
      rcases failure_of_ofData failed with ⟨detail, foreseen⟩ | ⟨_, stops⟩
      · cases foreseen
      · exact stops
    · exact fun stops => ⟨_, ofData_of_stopsAtLongName stops⟩

/-- Two functions are read from a file, of which the first has an example with two arguments. -/
theorem usable_of_ofData_functions :
    let example₁ : Value := .dict
      [(.str "input", .list [.int 1, .str "a"]), (.str "output", .none)]
    let data : Value := .dict [(.str "functions", .list [
      .dict [(.str "name", .str "first"), (.str "examples", .list [example₁])],
      .dict [(.str "name", .str "second")]])]
    ofData "tasks.json" data =
        .ok [⟨"first", [⟨[.int 1, .str "a"], .none⟩]⟩, ⟨"second", []⟩] ∧
      Succeeds (Query.ofExamples [⟨[.int 1, .str "a"], .none⟩] {} none) := by
  intro example₁ data
  have read : ofData "tasks.json" data =
      .ok [⟨"first", [⟨[.int 1, .str "a"], .none⟩]⟩, ⟨"second", []⟩] := rfl
  have usable := (usable_of_ofData "tasks.json" data).1
  rw [read] at usable
  exact ⟨read, (usable.2 _ (List.mem_cons_self ..)).2 {} _ _ none (List.cons_ne_nil _ _) rfl rfl⟩

/-- A name may be an integer with a digit too many, which is neither read nor refused. -/
theorem not_usable_of_ofData_long_name :
    ofData "tasks.yaml" (.list [.dict [(.str "name", .int Value.numeralBound)]]) =
      .error (.fault (Fault.tooManyDigits none)) := by
  have stops (name : Value) (long : name.isWritable = false) :
      StopsAtLongName "tasks.yaml" (.list [.dict [(.str "name", name)]]) :=
    ⟨[], .dict [(.str "name", name)], [], rfl, ⟨[], rfl⟩, name, rfl, long⟩
  exact ofData_of_stopsAtLongName (stops _ (Bool.eq_false_iff.2 Value.not_isWritable_numeralBound))

end Task

end FunctionSynthesis
