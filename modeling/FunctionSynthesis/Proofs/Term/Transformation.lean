import Mathlib.Data.List.ReduceOption
import FunctionSynthesis.Proofs.Term.Rewriting

/-!
# Transformations

A node and the list of its direct subterms determine each other: subterms are put back where they
were found, and as many others take their places. So rewriting treats all nodes alike
(`rewriteM_eq`): it asks about the nodes that are not below a replaced one, in pre-order, and puts
what it is given in the place of the topmost nodes that it is given something for
(`transforms_topmost`).
-/

namespace FunctionSynthesis.Term

/-! ### Nodes and their direct subterms -/

/-- The name that a node holds itself. -/
def ownName? : Term → Option String
  | .var name => some name
  | .call _ method _ => some method
  | .field _ name _ => some name
  | _ => none

theorem withChildren?_eq_some {t : Term} {parts : List Term}
    (length : parts.length = t.children.length) :
    t.withChildren? parts = some (t.withChildren parts) := by
  cases t with
  | call r name as =>
      obtain ⟨r', as', rfl⟩ := List.exists_cons_of_length_eq_add_one length
      rfl
  | field r name as =>
      obtain ⟨r', as', rfl⟩ := List.exists_cons_of_length_eq_add_one length
      rfl
  | record es =>
      obtain ⟨es', rfl⟩ := exists_flattenEntries length
      simp [withChildren?, withChildren, pairEntries?_flattenEntries]
  | slice r a b step =>
      obtain ⟨r', parts, rfl⟩ := List.exists_cons_of_length_eq_add_one length
      obtain ⟨a', parts, rfl⟩ := List.exists_cons_of_length_eq_add_one (Nat.succ.inj length)
      obtain ⟨b', parts, rfl⟩ :=
        List.exists_cons_of_length_eq_add_one (Nat.succ.inj (Nat.succ.inj length))
      rfl
  | _ => rfl

theorem kindName_withChildren (t : Term) (parts : List Term) :
    (t.withChildren parts).kindName = t.kindName := by
  unfold withChildren
  cases t with
  | call r name as => cases parts <;> rfl
  | field r name as => cases parts <;> rfl
  | record es =>
      cases paired : pairEntries? parts <;> simp [withChildren?, paired, kindName]
  | slice r a b step => rcases parts with _ | ⟨_, _ | ⟨_, _ | ⟨_, _⟩⟩⟩ <;> rfl
  | _ => rfl

theorem ownName?_withChildren (t : Term) (parts : List Term) :
    (t.withChildren parts).ownName? = t.ownName? := by
  unfold withChildren
  cases t with
  | call r name as => cases parts <;> rfl
  | field r name as => cases parts <;> rfl
  | record es =>
      cases paired : pairEntries? parts <;> simp [withChildren?, paired, ownName?]
  | slice r a b step => rcases parts with _ | ⟨_, _ | ⟨_, _ | ⟨_, _⟩⟩⟩ <;> rfl
  | _ => rfl

/-! ### Nodes and what is above them -/

theorem sizeOf_lt_of_mem_children {t part : Term} (inside : part ∈ t.children) :
    sizeOf part < sizeOf t := by
  cases t with
  | call r name as =>
      rcases List.mem_cons.1 inside with rfl | member
      · simp only [call.sizeOf_spec]
        omega
      · have smaller := List.sizeOf_lt_of_mem member
        simp only [call.sizeOf_spec]
        omega
  | field r name as =>
      rcases List.mem_cons.1 inside with rfl | member
      · simp only [field.sizeOf_spec]
        omega
      · have smaller := List.sizeOf_lt_of_mem member
        simp only [field.sizeOf_spec]
        omega
  | array ts =>
      have smaller : sizeOf part < sizeOf ts := List.sizeOf_lt_of_mem inside
      simp only [array.sizeOf_spec]
      omega
  | record es =>
      rw [children, flattenEntries_eq_flatMap, List.mem_flatMap] at inside
      obtain ⟨⟨key, value⟩, member, place⟩ := inside
      have smaller := List.sizeOf_lt_of_mem member
      have below : part = key ∨ part = value := by simpa using place
      simp only [Prod.mk.sizeOf_spec] at smaller
      simp only [record.sizeOf_spec]
      rcases below with rfl | rfl <;> omega
  | slice r a b step =>
      have below : part = r ∨ part = a ∨ part = b ∨ step = some part := by
        simpa [children] using inside
      simp only [slice.sizeOf_spec]
      rcases below with rfl | rfl | rfl | rfl
      · omega
      · omega
      · omega
      · simp only [Option.some.sizeOf_spec]
        omega
  | _ => exact absurd inside List.not_mem_nil

/-- The nodes of a term in pre-order, each with the nodes above it. -/
def placed (above : List Term) (t : Term) : List (List Term × Term) :=
  (above, t) :: t.children.attach.flatMap fun part => placed (above ++ [t]) part.1
termination_by sizeOf t
decreasing_by exact sizeOf_lt_of_mem_children part.2

theorem placed_eq (above : List Term) (t : Term) :
    placed above t = (above, t) :: t.children.flatMap (placed (above ++ [t])) := by
  rw [placed]
  simp only [List.flatMap_subtype, List.unattach_attach]

theorem map_snd_placed (above : List Term) (t : Term) :
    (placed above t).map (·.2) = t.walk := by
  induction t using inductionOnChildren generalizing above with
  | node t inductionHypothesis =>
      rw [placed_eq, walk_eq_cons, List.map_cons, List.map_flatMap]
      congr 1
      apply List.flatMap_congr
      intro part inside
      exact inductionHypothesis part inside (above ++ [t])

variable (test : Term → Bool)

/-- Whether no node passes a test. -/
def isClear (above : List Term) : Bool :=
  above.all fun node => !test node

/-- The nodes that are not below one that passes a test. -/
def visible (places : List (List Term × Term)) : List Term :=
  (places.filter fun place => isClear test place.1).map (·.2)

/-- The nodes of a term that are not below one that passes a test, in pre-order. -/
def exposed (t : Term) : List Term :=
  visible test (placed [] t)

variable {test}

@[simp]
theorem isClear_nil : isClear test [] = true := rfl

theorem isClear_append (above : List Term) (t : Term) :
    isClear test (above ++ [t]) = (isClear test above && !test t) := by
  simp [isClear]

theorem visible_placed (above : List Term) (t : Term) :
    visible test (placed above t) =
      (if isClear test above then [t] else []) ++
        t.children.flatMap fun part => visible test (placed (above ++ [t]) part) := by
  rw [placed_eq, visible, List.filter_cons]
  by_cases clear : isClear test above = true <;>
    simp [clear, visible, List.filter_flatMap, List.map_flatMap]

theorem visible_placed_of_not_isClear {above : List Term} (t : Term)
    (covered : isClear test above = false) : visible test (placed above t) = [] := by
  induction t using inductionOnChildren generalizing above with
  | node t inductionHypothesis =>
      have below : isClear test (above ++ [t]) = false := by
        rw [isClear_append, covered, Bool.false_and]
      rw [visible_placed, covered, if_neg Bool.false_ne_true, List.nil_append,
        List.flatMap_eq_nil_iff]
      intro part inside
      exact inductionHypothesis part inside below

theorem visible_placed_of_passes {above : List Term} {t : Term}
    (clear : isClear test above = true) (passes : test t = true) :
    visible test (placed above t) = [t] := by
  have below : isClear test (above ++ [t]) = false := by
    rw [isClear_append, passes, Bool.not_true, Bool.and_false]
  have nothing : (t.children.flatMap fun part =>
      visible test (placed (above ++ [t]) part)) = [] := by
    rw [List.flatMap_eq_nil_iff]
    intro part _
    exact visible_placed_of_not_isClear part below
  rw [visible_placed, if_pos clear, nothing, List.append_nil]

/-- Nodes above a term make no difference if none of them passes the test. -/
theorem visible_placed_of_isClear {above : List Term} (t : Term)
    (clear : isClear test above = true) :
    visible test (placed above t) = exposed test t := by
  induction t using inductionOnChildren generalizing above with
  | node t inductionHypothesis =>
      rw [exposed]
      by_cases passes : test t = true
      · rw [visible_placed_of_passes clear passes, visible_placed_of_passes isClear_nil passes]
      · have fails : test t = false := by simpa using passes
        have below (above : List Term) (clear : isClear test above = true) :
            isClear test (above ++ [t]) = true := by
          rw [isClear_append, clear, fails, Bool.not_false, Bool.and_true]
        rw [visible_placed, visible_placed [], if_pos clear, if_pos isClear_nil]
        congr 1
        apply List.flatMap_congr
        intro part inside
        rw [inductionHypothesis part inside (below above clear),
          inductionHypothesis part inside (below [] isClear_nil)]

theorem exposed_of_passes {t : Term} (passes : test t = true) : exposed test t = [t] :=
  visible_placed_of_passes isClear_nil passes

theorem exposed_of_fails {t : Term} (fails : test t = false) :
    exposed test t = t :: t.children.flatMap (exposed test) := by
  have below : isClear test ([] ++ [t]) = true := by
    rw [isClear_append, fails, Bool.not_false, Bool.and_true, isClear_nil]
  rw [exposed, visible_placed, if_pos isClear_nil, List.singleton_append]
  congr 1
  apply List.flatMap_congr
  intro part _
  exact visible_placed_of_isClear part below

/-! ### Topmost replacements -/

/-- Whether a term is another one in which each topmost node that passes a test is replaced, by
the replacements in pre-order. -/
inductive ReplacesTopmost (test : Term → Bool) : Term → List Term → Term → Prop
  | top {t u : Term} : test t = true → ReplacesTopmost test t [u] u
  | within {t : Term} {results : List (List Term × Term)} :
      test t = false →
      List.Forall₂ (fun part result => ReplacesTopmost test part result.1 result.2)
        t.children results →
      ReplacesTopmost test t (results.flatMap (·.1)) (t.withChildren (results.map (·.2)))

/-- Where no node passes the test, nothing is replaced. -/
theorem ReplacesTopmost.eq_self {t u : Term} {replacements : List Term}
    (replaces : ReplacesTopmost (fun _ => false) t replacements u) : u = t := by
  induction t using inductionOnChildren generalizing u replacements with
  | node t inductionHypothesis =>
      cases replaces with
      | top passes => exact absurd passes Bool.false_ne_true
      | @within _ results _ pairs =>
          have same : results.map (·.2) = t.children := by
            rw [← List.forall₂_eq_eq_eq, List.forall₂_map_left_iff]
            exact Attempt.forall₂_imp_of_mem pairs.flip
              fun _ _ part inside => inductionHypothesis part inside
          rw [same, withChildren_children]

/-! ### Questions and answers -/

section Runs

variable {σ : Type} {test : Term → Bool} {replace : Term → StateM σ (Option Term)}

theorem run_mapM_cons {α β : Type} (f : α → StateM σ β) (x : α) (xs : List α) (s : σ) :
    ((x :: xs).mapM f).run s =
      (((f x).run s).1 :: ((xs.mapM f).run ((f x).run s).2).1,
        ((xs.mapM f).run ((f x).run s).2).2) := by
  rw [List.mapM_cons]
  rfl

theorem run_mapM_append {α β : Type} (f : α → StateM σ β) (xs ys : List α) (s : σ) :
    ((xs ++ ys).mapM f).run s =
      (((xs.mapM f).run s).1 ++ ((ys.mapM f).run ((xs.mapM f).run s).2).1,
        ((ys.mapM f).run ((xs.mapM f).run s).2).2) := by
  rw [List.mapM_append]
  rfl

theorem run_rewriteM_of_some {t u : Term} {s s' : σ}
    (given : (replace t).run s = (some u, s')) : (rewriteM replace t).run s = (u, s') := by
  rw [rewriteM_eq, replacedOr, StateT.run_bind, given]
  rfl

theorem run_rewriteM_of_none {t : Term} {s s' : σ}
    (missing : (replace t).run s = (none, s')) :
    (rewriteM replace t).run s =
      (t.withChildren <$> t.children.mapM (rewriteM replace)).run s' := by
  rw [rewriteM_eq, replacedOr, StateT.run_bind, missing]
  rfl

/-- Whether a rewriting asks about the exposed nodes of a term, one after the other, and puts the
answers in the places of the topmost nodes that pass the test. -/
def Transforms (test : Term → Bool) (replace : Term → StateM σ (Option Term)) (t : Term) :
    Prop :=
  ∀ s,
    let answers := ((exposed test t).mapM replace).run s
    ((rewriteM replace t).run s).2 = answers.2 ∧
      ReplacesTopmost test t answers.1.reduceOption ((rewriteM replace t).run s).1

/-- Terms in turn are transformed one by one. -/
theorem exists_results_of_transforms {ts : List Term}
    (each : ∀ t ∈ ts, Transforms test replace t) (s : σ) :
    let answers := ((ts.flatMap (exposed test)).mapM replace).run s
    ∃ results : List (List Term × Term),
      List.Forall₂ (fun part result => ReplacesTopmost test part result.1 result.2) ts results ∧
      answers.1.reduceOption = results.flatMap (·.1) ∧
      (ts.mapM (rewriteM replace)).run s = (results.map (·.2), answers.2) := by
  induction ts generalizing s with
  | nil => exact ⟨[], .nil, rfl, rfl⟩
  | cons t ts inductionHypothesis =>
      obtain ⟨here, rest⟩ := List.forall_mem_cons.1 each
      obtain ⟨sameState, replaces⟩ := here s
      obtain ⟨results, pairs, given, ran⟩ :=
        inductionHypothesis rest ((rewriteM replace t).run s).2
      rw [sameState] at given ran
      refine ⟨((((exposed test t).mapM replace).run s).1.reduceOption,
        ((rewriteM replace t).run s).1) :: results, .cons replaces pairs, ?_, ?_⟩
      · rw [List.flatMap_cons, List.flatMap_cons, run_mapM_append, List.reduceOption_append,
          given]
      · rw [List.flatMap_cons, run_mapM_append, run_mapM_cons, sameState, ran]
        rfl

/-- Rewriting asks about what is exposed and replaces what is topmost, for every function that has
a replacement for just the nodes that pass a test. -/
theorem transforms_of_test
    (decides : ∀ node s, ((replace node).run s).1.isSome = test node) (t : Term) :
    Transforms test replace t := by
  induction t using inductionOnChildren with
  | node t inductionHypothesis =>
      intro s answers
      have decided := decides t s
      by_cases passes : test t = true
      · have given : ∃ u, ((replace t).run s).1 = some u :=
          Option.isSome_iff_exists.1 (decided.trans passes)
        obtain ⟨u, given⟩ := given
        have asked : answers = ([some u], ((replace t).run s).2) := by
          simp only [answers, exposed_of_passes passes]
          rw [run_mapM_cons, given]
          rfl
        rw [run_rewriteM_of_some (Prod.ext given rfl), asked]
        exact ⟨rfl, .top passes⟩
      · have fails : test t = false := by simpa using passes
        have missing : ((replace t).run s).1 = none := by
          rw [← Option.not_isSome_iff_eq_none, decided, fails]
          exact Bool.false_ne_true
        obtain ⟨results, pairs, given, ran⟩ :=
          exists_results_of_transforms inductionHypothesis ((replace t).run s).2
        have rebuilt : (rewriteM replace t).run s =
            (t.withChildren (results.map (·.2)), answers.2) := by
          simp only [answers, exposed_of_fails fails]
          rw [run_rewriteM_of_none (Prod.ext missing rfl), StateT.run_map, ran, run_mapM_cons]
          rfl
        have replacements : answers.1.reduceOption = results.flatMap (·.1) := by
          simp only [answers, exposed_of_fails fails]
          rw [run_mapM_cons, missing, List.reduceOption_cons_of_none, given]
        simp only [rebuilt, replacements, true_and]
        exact .within fails pairs

/-- Ask for a replacement, and note the node that is asked about. -/
def noting (replace : Term → Option Term) (node : Term) : StateM (List Term) (Option Term) := do
  modify (· ++ [node])
  return replace node

theorem run_mapM_noting (replace : Term → Option Term) (nodes noted : List Term) :
    ((nodes.mapM (noting replace)).run noted).2 = noted ++ nodes := by
  induction nodes generalizing noted with
  | nil => exact (List.append_nil noted).symm
  | cons node nodes inductionHypothesis =>
      rw [run_mapM_cons]
      exact (inductionHypothesis (noted ++ [node])).trans (List.append_cons ..).symm

end Runs

/-! ### Transformations -/

/-- The direct subterms of a node are a view of it that can be read and written. Put back, they
give the node; as many others give a node of its kind with its name, of which they are the direct
subterms and in which they can be exchanged again. A rewriting that is never given a replacement
leaves a term as it is. One that is given replacements for just the nodes that pass a test asks
once about each node that is not below a node that passes it, in pre-order, and the replacements
stand in the places of the topmost nodes that pass it. -/
theorem transforms_topmost (t : Term) :
    t.withChildren? t.children = some t ∧
    (∀ parts : List Term, parts.length = t.children.length →
      ∃ u, t.withChildren? parts = some u ∧ u.children = parts ∧
        u.kindName = t.kindName ∧ u.ownName? = t.ownName? ∧
        ∀ others : List Term, others.length = t.children.length →
          u.withChildren? others = t.withChildren? others) ∧
    (∀ (σ : Type) (replace : Term → StateM σ (Option Term)),
      (∀ node s, ((replace node).run s).1 = none) →
        ∀ s, ((rewriteM replace t).run s).1 = t) ∧
    (placed [] t).map (·.2) = t.walk ∧
    (∀ (σ : Type) (test : Term → Bool) (replace : Term → StateM σ (Option Term)),
      (∀ node s, ((replace node).run s).1.isSome = test node) →
        ∀ s,
          let answers := ((exposed test t).mapM replace).run s
          ((rewriteM replace t).run s).2 = answers.2 ∧
            ReplacesTopmost test t answers.1.reduceOption ((rewriteM replace t).run s).1) ∧
    ∀ replace : Term → Option Term,
      ((rewriteM (noting replace) t).run []).2 =
        exposed (fun node => (replace node).isSome) t := by
  refine ⟨?_, ?_, ?_, map_snd_placed [] t, ?_, ?_⟩
  · rw [withChildren?_eq_some rfl, withChildren_children]
  · intro parts length
    have kept := children_withChildren length
    refine ⟨t.withChildren parts, withChildren?_eq_some length, kept,
      kindName_withChildren t parts, ownName?_withChildren t parts, ?_⟩
    intro others length'
    have fits : others.length = (t.withChildren parts).children.length := by
      rw [kept, length', length]
    rw [withChildren?_eq_some fits, withChildren?_eq_some length',
      withChildren_withChildren length length']
  · intro σ replace never s
    have decides : ∀ node s, ((replace node).run s).1.isSome = false := by
      intro node s
      rw [never, Option.isSome_none]
    exact (transforms_of_test decides t s).2.eq_self
  · intro σ test replace decides s
    exact transforms_of_test decides t s
  · intro replace
    have decides : ∀ node s, ((noting replace node).run s).1.isSome = (replace node).isSome :=
      fun _ _ => rfl
    rw [(transforms_of_test decides t []).1]
    exact run_mapM_noting replace _ []

private def isListOrX : Term → Bool
  | .array _ => true
  | .var name => name == "x"
  | _ => false

/-- Replace lists and one variable by numbers in order. -/
private def numbering (node : Term) : StateM ℕ (Option Term) := do
  if isListOrX node then
    let n ← get
    set (n + 1)
    return some (int n)
  else return none

/-- A list is replaced with the variable in it, and the same variable elsewhere on its own. -/
theorem transforms_topmost_nested :
    let t := slice (array [var "x"]) (var "x") (var "y") none
    let u := slice (int 0) (int 1) (var "y") none
    t.withChildren? [int 0, int 1, var "y"] = some u ∧ u.children = [int 0, int 1, var "y"] ∧
      ((rewriteM numbering t).run 0).1 = u ∧ ReplacesTopmost isListOrX t [int 0, int 1] u := by
  intro t u
  have decides : ∀ node s, ((numbering node).run s).1.isSome = isListOrX node := by
    intro node s
    cases passes : isListOrX node <;> simp [numbering, passes] <;> rfl
  obtain ⟨_, exchanges, _, _, transforms, _⟩ := transforms_topmost t
  obtain ⟨v, given, parts, _⟩ := exchanges [int 0, int 1, var "y"] rfl
  have same : u = v := Option.some.inj given
  have asked : exposed isListOrX t = [t, array [var "x"], var "x", var "y"] := by
    have ofList : exposed isListOrX (array [var "x"]) = [array [var "x"]] := exposed_of_passes rfl
    have ofX : exposed isListOrX (var "x") = [var "x"] := exposed_of_passes rfl
    have ofY : exposed isListOrX (var "y") = [var "y"] := exposed_of_fails rfl
    rw [exposed_of_fails rfl]
    simp [t, children, ofList, ofX, ofY]
  obtain ⟨_, replaces⟩ := transforms ℕ isListOrX numbering decides 0
  rw [asked] at replaces
  exact ⟨same ▸ given, same ▸ parts, rfl, replaces⟩

end FunctionSynthesis.Term
