import Mathlib.Data.List.DropRight
import Mathlib.Data.List.Forall2
import FunctionSynthesis.Task.Synthesis

/-!
# Programs with all functions

The program that combines solutions has the code of each function that was found, and a remark
on each other one. Only the first line of a remark is sure to be a comment, so that the name of
a function, or the report of it, can break the program if it has more lines than one
(`combined_admits_iff`).
-/

namespace FunctionSynthesis

/-! ### Lines -/

section Lines

variable {ends : Char → Bool} {fits : List Char → Prop}

theorem forall_splitOnP_append_iff (lineFeed : ends '\n' = true) (first rest : List Char) :
    (∀ line ∈ (first ++ '\n' :: rest).splitOnP ends, fits line) ↔
      (∀ line ∈ first.splitOnP ends, fits line) ∧ ∀ line ∈ rest.splitOnP ends, fits line := by
  rw [List.splitOnP_append_cons first rest lineFeed, List.forall_mem_append]

theorem forall_splitOnP_concat_iff (lineFeed : ends '\n' = true) (empty : fits [])
    (chars : List Char) :
    (∀ line ∈ (chars ++ ['\n']).splitOnP ends, fits line) ↔
      ∀ line ∈ chars.splitOnP ends, fits line := by
  rw [forall_splitOnP_append_iff lineFeed, List.splitOnP_nil, List.forall_mem_singleton,
    and_iff_left empty]

/-- Line feeds at the end of a text only add empty lines. -/
theorem forall_splitOnP_replicate_iff (lineFeed : ends '\n' = true) (empty : fits [])
    (chars : List Char) (n : Nat) :
    (∀ line ∈ (chars ++ List.replicate n '\n').splitOnP ends, fits line) ↔
      ∀ line ∈ chars.splitOnP ends, fits line := by
  induction n with
  | zero => rw [List.replicate_zero, List.append_nil]
  | succ n ih =>
      rw [List.replicate_succ', ← List.append_assoc, forall_splitOnP_concat_iff lineFeed empty, ih]

/-- The lines of joined blocks are those of the blocks, apart from empty ones. -/
theorem forall_splitOnP_intercalate_iff (lineFeed : ends '\n' = true) (empty : fits [])
    (blocks : List (List Char)) :
    (∀ line ∈ (['\n', '\n'].intercalate blocks).splitOnP ends, fits line) ↔
      ∀ block ∈ blocks, ∀ line ∈ block.splitOnP ends, fits line := by
  induction blocks with
  | nil => simpa using empty
  | cons block blocks ih =>
      cases blocks with
      | nil => simp
      | cons next blocks =>
          have split : ['\n', '\n'].intercalate (block :: next :: blocks) =
              (block ++ ['\n']) ++ '\n' :: ['\n', '\n'].intercalate (next :: blocks) := by
            simp [List.intercalate_cons_cons]
          rw [split, forall_splitOnP_append_iff lineFeed,
            forall_splitOnP_concat_iff lineFeed empty, ih,
            List.forall_mem_cons (l := next :: blocks)]

end Lines

/-- Whether a block is a text without the line feeds at its end. -/
structure IsTrimmed (block text : String) : Prop where
  same : ∃ n, text.toList = block.toList ++ List.replicate n '\n'
  last : block.toList.getLast? ≠ some '\n'

theorem isTrimmed_withoutLastLineEnds (text : String) :
    IsTrimmed (Solution.withoutLastLineEnds text) text := by
  have kept : (Solution.withoutLastLineEnds text).toList =
      text.toList.rdropWhile (· = '\n') := String.toList_ofList
  have dropped : text.toList.rtakeWhile (· = '\n') =
      List.replicate (text.toList.rtakeWhile (· = '\n')).length '\n' :=
    List.eq_replicate_iff.2 ⟨rfl, fun c member => by simpa using List.mem_rtakeWhile_imp member⟩
  refine ⟨⟨(text.toList.rtakeWhile (· = '\n')).length, ?_⟩, ?_⟩
  · rw [kept, ← dropped, List.rdropWhile_append_rtakeWhile]
  · rw [kept]
    intro last
    have nonempty : text.toList.rdropWhile (· = '\n') ≠ [] := by
      intro none
      rw [none] at last
      cases last
    rw [List.getLast?_eq_some_getLast nonempty] at last
    have other := List.rdropWhile_last_not _ _ nonempty
    rw [Option.some.inj last] at other
    exact other rfl

/-! ### Solutions as blocks -/

/-- The lines of a text, for which some characters are the ends. -/
def linesOf (ends : Char → Bool) (text : String) : List (List Char) :=
  text.toList.splitOnP ends

namespace Solution

/-- What is said of a function that was not found. -/
def reason (solution : Solution) : String :=
  solution.report.elim "not synthesized" Report.message

/-- The remark on a function that was not found. -/
def remark (solution : Solution) : String :=
  s!"# {solution.name}: {solution.reason}"

variable {ends : Char → Bool} {solution : Solution} {solutions : List Solution}

theorem chunk_of_code {code : String} (coded : solution.code = some code) :
    solution.chunk = code := by
  rw [chunk, coded]

theorem toList_chunk_of_none (missing : solution.code = none) :
    solution.chunk.toList = solution.remark.toList ++ ['\n'] := by
  have line : solution.chunk = solution.remark ++ "\n" := by
    rw [chunk, missing]
    rfl
  rw [line, String.toList_append]
  rfl

/-- The block of a solution is its code or a remark, without line feeds at the end. -/
theorem isTrimmed_chunk (solution : Solution) :
    IsTrimmed (withoutLastLineEnds solution.chunk) (solution.code.getD solution.remark) := by
  cases coded : solution.code with
  | some code =>
      rw [chunk_of_code coded]
      exact isTrimmed_withoutLastLineEnds code
  | none =>
      have same : withoutLastLineEnds solution.chunk = withoutLastLineEnds solution.remark := by
        unfold withoutLastLineEnds
        rw [toList_chunk_of_none coded, List.reverse_append]
        rfl
      rw [same]
      exact isTrimmed_withoutLastLineEnds solution.remark

/-- Whether a line can stand in the program of solutions: it is empty, a line of the code of one
of them, or a comment. -/
def Admits (ends : Char → Bool) (solutions : List Solution) (line : List Char) : Prop :=
  line = [] ∨
  (∃ solution ∈ solutions, ∃ code, solution.code = some code ∧ line ∈ linesOf ends code) ∨
  line.head? = some '#'

theorem toList_remark (solution : Solution) :
    solution.remark.toList =
      '#' :: ' ' :: (solution.name.toList ++ ':' :: ' ' :: solution.reason.toList) := by
  have joined : solution.remark = "# " ++ solution.name ++ ": " ++ solution.reason := rfl
  rw [joined]
  simp only [String.toList_append, List.append_assoc]
  rfl

/-- The first line of a remark is empty or a comment. -/
theorem exists_linesOf_remark (ends : Char → Bool) (solution : Solution) :
    ∃ first rest, linesOf ends solution.remark = first :: rest ∧
      (first = [] ∨ first.head? = some '#') := by
  rw [linesOf, toList_remark, List.splitOnP_cons_eq_if_modifyHead]
  split
  · exact ⟨[], _, rfl, Or.inl rfl⟩
  · obtain ⟨first, rest, same⟩ := List.exists_cons_of_ne_nil (List.splitOnP_ne_nil ends _)
    rw [same]
    exact ⟨'#' :: first, rest, rfl, Or.inr rfl⟩

theorem combined_eq (solutions : List Solution) :
    combined solutions = "\n\n".intercalate
      (solutions.map fun solution => withoutLastLineEnds solution.chunk) ++ "\n" := by
  rw [combined]

theorem forall_linesOf_combined_iff (lineFeed : ends '\n' = true) {fits : List Char → Prop}
    (empty : fits []) (solutions : List Solution) :
    (∀ line ∈ linesOf ends (combined solutions), fits line) ↔
      ∀ solution ∈ solutions, ∀ line ∈ linesOf ends solution.chunk, fits line := by
  have joined : (combined solutions).toList = ['\n', '\n'].intercalate
      (solutions.map fun solution => (withoutLastLineEnds solution.chunk).toList) ++ ['\n'] := by
    rw [combined_eq, String.toList_append, String.toList_intercalate, List.map_map]
    rfl
  unfold linesOf
  rw [joined, forall_splitOnP_concat_iff lineFeed empty,
    forall_splitOnP_intercalate_iff lineFeed empty]
  simp only [List.forall_mem_map]
  refine forall₂_congr fun solution _ => ?_
  obtain ⟨n, same⟩ := (isTrimmed_withoutLastLineEnds solution.chunk).same
  rw [same, forall_splitOnP_replicate_iff lineFeed empty]

/-- The lines of solutions can stand in their program unless it is a later line of a remark. -/
theorem admits_chunk_iff (lineFeed : ends '\n' = true) (member : solution ∈ solutions) :
    (∀ line ∈ linesOf ends solution.chunk, Admits ends solutions line) ↔
      (solution.code = none →
        ∀ line ∈ (linesOf ends solution.remark).tail, Admits ends solutions line) := by
  cases coded : solution.code with
  | some code =>
      rw [chunk_of_code coded]
      refine iff_of_true (fun line inside => ?_) (fun missing => nomatch missing)
      exact Or.inr (Or.inl ⟨solution, member, code, coded, inside⟩)
  | none =>
      have empty : Admits ends solutions [] := Or.inl rfl
      obtain ⟨first, rest, split, marked⟩ := exists_linesOf_remark ends solution
      have admitted : Admits ends solutions first := marked.imp_right Or.inr
      rw [linesOf, toList_chunk_of_none coded, forall_splitOnP_concat_iff lineFeed empty,
        ← linesOf, split, List.tail_cons, List.forall_mem_cons, and_iff_right admitted,
        forall_prop_of_true rfl]

/-- The program of solutions has a block for each of them, in order and with an empty line in
between: the code that was found, or else a remark. All of its lines are empty, lines of code or
comments if and only if this is so of the later lines of the remarks, of which there are none
if names and reports have one line each. -/
theorem combined_admits_iff (ends : Char → Bool) (lineFeed : ends '\n' = true)
    (inside : ∀ c ∈ ['#', ':', ' '], ends c = false) (solutions : List Solution) :
    (∃ blocks, combined solutions = "\n\n".intercalate blocks ++ "\n" ∧
      List.Forall₂ (fun solution block =>
        IsTrimmed block (solution.code.getD solution.remark)) solutions blocks) ∧
    ((∀ line ∈ linesOf ends (combined solutions), Admits ends solutions line) ↔
      ∀ solution ∈ solutions, solution.code = none →
        ∀ line ∈ (linesOf ends solution.remark).tail, Admits ends solutions line) ∧
    ((∀ solution ∈ solutions, solution.code = none →
        ∀ c ∈ solution.name.toList ++ solution.reason.toList, ends c = false) →
      ∀ line ∈ linesOf ends (combined solutions), Admits ends solutions line) := by
  have admitted : (∀ line ∈ linesOf ends (combined solutions), Admits ends solutions line) ↔
      ∀ solution ∈ solutions, solution.code = none →
        ∀ line ∈ (linesOf ends solution.remark).tail, Admits ends solutions line :=
    (forall_linesOf_combined_iff lineFeed (Or.inl rfl) solutions).trans
      (forall₂_congr fun _ member => admits_chunk_iff lineFeed member)
  refine ⟨⟨_, combined_eq solutions, ?_⟩, admitted, fun plain => ?_⟩
  · rw [List.forall₂_map_right_iff, List.forall₂_same]
    exact fun solution _ => isTrimmed_chunk solution
  · rw [admitted]
    intro solution member missing
    have single : linesOf ends solution.remark = [solution.remark.toList] := by
      refine List.splitOnP_eq_singleton fun c within => ?_
      rw [toList_remark] at within
      have known := plain solution member missing c
      simp only [List.mem_cons, List.mem_append] at within known
      obtain rfl | rfl | within | rfl | rfl | within := within
      · exact inside _ (by simp)
      · exact inside _ (by simp)
      · exact known (Or.inl within)
      · exact inside _ (by simp)
      · exact inside _ (by simp)
      · exact known (Or.inr within)
    rw [single]
    exact fun line later => absurd later List.not_mem_nil

/-- A function with two lines of code, and one without examples. -/
theorem combined_admits_iff_mixed :
    let solutions : List Solution :=
      [{ name := "one", code := some "def one():\n    return 1\n" },
        Workshop.withoutExamples ⟨"two", []⟩]
    combined solutions = "def one():\n    return 1\n\n# two: two has no examples\n" ∧
    ∀ line ∈ linesOf (· = '\n') (combined solutions), Admits (· = '\n') solutions line := by
  intro solutions
  refine ⟨by unfold solutions; rfl, ?_⟩
  have plain : ∀ c ∈ "two".toList ++ "two has no examples".toList, decide (c = '\n') = false := by
    simp
  apply (combined_admits_iff (· = '\n') rfl (by simp) solutions).2.2
  intro solution member missing
  rw [List.mem_pair] at member
  obtain rfl | rfl := member
  · cases missing
  · exact plain

/-- The name of a function without examples can bring a line of its own into the program. -/
theorem not_combined_admits_lineEnd :
    ∃ tasks solutions,
      Task.ofData "tasks" (.list [.dict [(.str "name", .str "a\nimport os"),
        (.str "examples", .list [])]]) = .ok tasks ∧
      ({} : Workshop).solve tasks = .ok solutions ∧
      combined solutions = "# a\nimport os: a\nimport os has no examples\n" ∧
      ¬ ∀ line ∈ linesOf (· = '\n') (combined solutions), Admits (· = '\n') solutions line := by
  have joined : combined [Workshop.withoutExamples ⟨"a\nimport os", []⟩] =
      "# a\nimport os: a\nimport os has no examples\n" := by rfl
  refine ⟨[⟨"a\nimport os", []⟩], [Workshop.withoutExamples ⟨"a\nimport os", []⟩], ?_, rfl, joined,
    fun admitted => ?_⟩
  · rfl
  · have line : "import os: a".toList ∈ linesOf (· = '\n')
        "# a\nimport os: a\nimport os has no examples\n" := by decide
    rw [joined] at admitted
    obtain none | ⟨solution, member, code, coded, _⟩ | marked := admitted _ line
    · cases none
    · obtain rfl := List.mem_singleton.1 member
      cases coded
    · cases marked

end Solution

end FunctionSynthesis
