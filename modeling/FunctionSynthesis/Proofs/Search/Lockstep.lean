import FunctionSynthesis.Proofs.Search.Refinement

/-!
# Expansion and choice in lockstep

`Term.plug` puts terms in the places of the regular holes of a program, in pre-order,
and leaves everything else as it is. Both traversals of a search come to the same: what
a program with terms plugged in is rewritten to is the program with what these terms are
rewritten to (`Term.run_rewriteM_plug`). Expansion is the case of the holes themselves,
choice the case of the holes with their candidates, and together they plug the selected
candidates in (`Term.materialize_of_expandHoles`).
-/

namespace FunctionSynthesis.Term

/-! ### The holes to be expanded -/

/-- The goals of the regular holes in pre-order. -/
def regularGoals (t : Term) : List Ty :=
  t.walk.filterMap fun
    | .hole goal false => some goal
    | _ => none

mutual

/-- A term with the given terms in the places of its regular holes, in pre-order. A hole
that no term is given for stays. -/
def plug : Term → List Term → Term
  | .hole goal false, us => us.headD (.hole goal false)
  | .call r m as, us =>
      .call (plug r (us.take r.regularHoles)) m (plugAll as (us.drop r.regularHoles))
  | .field r name as, us =>
      .field (plug r (us.take r.regularHoles)) name (plugAll as (us.drop r.regularHoles))
  | .array ts, us => .array (plugAll ts us)
  | .record es, us => .record (plugEntries es us)
  | .slice r a b step, us =>
      let bounds := us.drop r.regularHoles
      let ends := bounds.drop a.regularHoles
      .slice (plug r (us.take r.regularHoles)) (plug a (bounds.take a.regularHoles))
        (plug b (ends.take b.regularHoles)) (plugStep step (ends.drop b.regularHoles))
  | t, _ => t
termination_by structural t => t

def plugAll : List Term → List Term → List Term
  | [], _ => []
  | t :: ts, us =>
      plug t (us.take t.regularHoles) :: plugAll ts (us.drop t.regularHoles)
termination_by structural ts => ts

def plugEntries : List (Term × Term) → List Term → List (Term × Term)
  | [], _ => []
  | (k, v) :: es, us =>
      let values := us.drop k.regularHoles
      (plug k (us.take k.regularHoles), plug v (values.take v.regularHoles)) ::
        plugEntries es (values.drop v.regularHoles)
termination_by structural es => es

def plugStep : Option Term → List Term → Option Term
  | none, _ => none
  | some s, us => some (plug s (us.take s.regularHoles))
termination_by structural s => s

end

theorem length_regularGoals (t : Term) : t.regularGoals.length = t.regularHoles := by
  have holes (ts : List Term) :
      (ts.filterMap fun
        | .hole goal false => some goal
        | _ => none).length = ts.countP isRegularHole := by
    induction ts with
    | nil => rfl
    | cons t ts ih =>
        rw [List.countP_cons, ← ih]
        cases t with
        | hole goal dependent => cases dependent <;> simp [isRegularHole]
        | _ => simp [isRegularHole]
  exact holes t.walk

theorem regularGoals_of_inner {t : Term} (inner : t.isLeaf = false) :
    t.regularGoals = t.children.flatMap regularGoals := by
  unfold regularGoals
  rw [walk_eq_cons, List.filterMap_cons_none, List.filterMap_flatMap]
  cases t <;> first | rfl | simp [isLeaf] at inner

/-! ### Plugging node by node -/

theorem plug_of_leaf {t : Term} (leaf : t.isLeaf = true) (notHole : t.isRegularHole = false)
    (us : List Term) : t.plug us = t := by
  cases t with
  | hole goal dependent =>
      cases dependent with
      | false => simp [isRegularHole] at notHole
      | true => rfl
  | _ => first | rfl | simp [isLeaf] at leaf

theorem plugAll_flattenEntries (es : List (Term × Term)) (us : List Term) :
    plugAll (flattenEntries es) us = flattenEntries (plugEntries es us) := by
  induction es generalizing us with
  | nil => rfl
  | cons entry es ih => simp [flattenEntries, plugAll, plugEntries, ih]

/-- In a node with subterms the terms are shared out among these from left to right. -/
theorem plug_of_inner {t : Term} (inner : t.isLeaf = false) (us : List Term) :
    t.plug us = t.withChildren (plugAll t.children us) := by
  unfold withChildren
  cases t with
  | call r m as => rfl
  | field r name as => rfl
  | array ts => rfl
  | record es =>
      simp [children, plug, withChildren?, plugAll_flattenEntries, pairEntries?_flattenEntries]
  | slice r a b step =>
      cases step with
      | none => rfl
      | some last => simp [children, plug, plugAll, plugStep, withChildren?]
  | _ => simp [isLeaf] at inner

/-- Induction on a term with others to be plugged in: at a regular hole there is one, at
any other leaf none, and in a node with subterms each of these has its share. -/
theorem inductionOnPlugs
    {motive : (t : Term) → (us : List Term) → us.length = t.regularHoles → Prop}
    (hole : ∀ goal u, motive (.hole goal false) [u] rfl)
    (leaf : ∀ t, t.isLeaf = true → t.isRegularHole = false →
      ∀ none : [].length = t.regularHoles, motive t [] none)
    (inner : ∀ t us length, t.isLeaf = false →
      (∀ part ∈ t.children, ∀ us length, motive part us length) → motive t us length)
    (t : Term) (us : List Term) (length : us.length = t.regularHoles) :
    motive t us length := by
  induction t using inductionOnChildren generalizing us with
  | node t ih =>
      cases isLeaf : t.isLeaf with
      | true =>
          cases isHole : t.isRegularHole with
          | true =>
              match t, isHole with
              | .hole goal false, _ =>
                  obtain ⟨u, rfl⟩ := List.length_eq_one_iff.1 length
                  exact hole goal u
          | false =>
              have none := length
              rw [regularHoles_of_leaf isLeaf isHole, List.length_eq_zero_iff] at none
              subst none
              exact leaf t isLeaf isHole length
      | false => exact inner t us length isLeaf ih

/-- The share of the first of several terms and that of the others. -/
theorem exists_shares {t : Term} {ts us : List Term}
    (length : us.length = ((t :: ts).map regularHoles).sum) :
    ∃ mine others, us = mine ++ others ∧ mine.length = t.regularHoles ∧
      others.length = (ts.map regularHoles).sum := by
  rw [List.map_cons, List.sum_cons] at length
  refine ⟨us.take t.regularHoles, us.drop t.regularHoles, (List.take_append_drop _ us).symm,
    List.length_take_of_le (by omega), ?_⟩
  rw [List.length_drop, length, Nat.add_sub_cancel_left]

theorem plugAll_cons_append {t : Term} {mine : List Term}
    (length : mine.length = t.regularHoles) (ts others : List Term) :
    plugAll (t :: ts) (mine ++ others) = t.plug mine :: plugAll ts others := by
  rw [plugAll, ← length, List.take_left, List.drop_left]

/-- A term with its own holes plugged in is itself. -/
theorem plug_regularGoals (t : Term) :
    t.plug (t.regularGoals.map fun goal => .hole goal false) = t := by
  induction t using inductionOnChildren with
  | node t ih =>
      cases leaf : t.isLeaf with
      | true =>
          cases isHole : t.isRegularHole with
          | true =>
              match t, isHole with
              | .hole goal false, _ => rfl
          | false => exact plug_of_leaf leaf isHole _
      | false =>
          have all (ts : List Term) (each : ∀ t ∈ ts,
              t.plug (t.regularGoals.map fun goal => .hole goal false) = t) :
              plugAll ts ((ts.flatMap regularGoals).map fun goal => .hole goal false) = ts := by
            induction ts with
            | nil => rfl
            | cons t ts ih =>
                obtain ⟨here, rest⟩ := List.forall_mem_cons.1 each
                rw [List.flatMap_cons, List.map_append,
                  plugAll_cons_append (by rw [List.length_map, length_regularGoals]), here,
                  ih rest]
          rw [plug_of_inner leaf, regularGoals_of_inner leaf, all _ ih, withChildren_children]

theorem length_plugAll (ts us : List Term) : (plugAll ts us).length = ts.length := by
  induction ts generalizing us with
  | nil => rfl
  | cons t ts ih => rw [plugAll, List.length_cons, List.length_cons, ih]

theorem isLeaf_plug {t : Term} (inner : t.isLeaf = false) (us : List Term) :
    (t.plug us).isLeaf = false := by
  rw [plug_of_inner inner, isLeaf_withChildren, inner]

theorem children_plug {t : Term} (inner : t.isLeaf = false) (us : List Term) :
    (t.plug us).children = plugAll t.children us := by
  rw [plug_of_inner inner, children_withChildren (length_plugAll _ us)]

theorem withChildren_plug {t : Term} (inner : t.isLeaf = false) (us vs : List Term) :
    (t.plug us).withChildren (plugAll t.children vs) = t.plug vs := by
  rw [plug_of_inner inner, plug_of_inner inner,
    withChildren_withChildren (length_plugAll _ us) (length_plugAll _ vs)]

theorem size_eq_children (t : Term) : t.size = 1 + (t.children.map size).sum := by
  unfold size
  rw [walk_eq_cons, List.length_cons, List.length_flatMap, Nat.add_comm]

/-- What is plugged in comes in addition to the nodes that are no regular holes. -/
theorem size_plug {t : Term} {us : List Term} (length : us.length = t.regularHoles) :
    (t.plug us).size + us.length = t.size + (us.map size).sum := by
  induction t, us, length using inductionOnPlugs with
  | hole goal u => exact Nat.add_comm _ _
  | leaf t leaf notHole _ =>
      rw [plug_of_leaf leaf notHole]
      rfl
  | inner t us length inner ih =>
    have all (ts us : List Term) (length : us.length = (ts.map regularHoles).sum)
        (each : ∀ t ∈ ts, ∀ us, us.length = t.regularHoles →
          (t.plug us).size + us.length = t.size + (us.map size).sum) :
        ((plugAll ts us).map size).sum + us.length =
          (ts.map size).sum + (us.map size).sum := by
      induction ts generalizing us with
      | nil =>
          rw [List.length_eq_zero_iff.1 length]
          rfl
      | cons t ts ih =>
          obtain ⟨mine, others, rfl, here, there⟩ := exists_shares length
          obtain ⟨now, later⟩ := List.forall_mem_cons.1 each
          have first := now mine here
          have rest := ih others there later
          simp only [plugAll_cons_append here, List.map_cons, List.map_append, List.sum_cons,
            List.sum_append, List.length_append]
          omega
    rw [size_eq_children, children_plug inner, size_eq_children t]
    have parts := all t.children us (length.trans (regularHoles_of_inner inner)) ih
    omega

/-! ### One traversal -/

variable {σ : Type} {replace : Term → StateT σ (Except Fault) (Option Term)}

theorem run_rewriteAllM_append_iff {s s' : σ} {ts ts' vs : List Term} :
    (rewriteAllM replace (ts ++ ts')).run s = .ok (vs, s') ↔
      ∃ us s₁ us', (rewriteAllM replace ts).run s = .ok (us, s₁) ∧
        (rewriteAllM replace ts').run s₁ = .ok (us', s') ∧ us ++ us' = vs := by
  induction ts generalizing s vs with
  | nil => simp [run_rewriteAllM_nil_iff]
  | cons t ts ih =>
      simp only [List.cons_append, run_rewriteAllM_cons_iff, ih]
      constructor
      · rintro ⟨t', s₁, _, here, ⟨us, s₂, us', first, second, rfl⟩, rfl⟩
        exact ⟨t' :: us, s₂, us', ⟨t', s₁, us, here, first, rfl⟩, second, rfl⟩
      · rintro ⟨_, s₂, us', ⟨t', s₁, us, here, first, rfl⟩, second, rfl⟩
        exact ⟨t', s₁, us ++ us', here, ⟨us, s₂, us', first, second, rfl⟩, rfl⟩

/-- Whether rewriting a term with others plugged in comes to rewriting these in turn. -/
def RewritesPlugs (replace : Term → StateT σ (Except Fault) (Option Term)) (t : Term)
    (us : List Term) : Prop :=
  ∀ vs s s', (rewriteAllM replace us).run s = .ok (vs, s') →
    (rewriteM replace (t.plug us)).run s = .ok (t.plug vs, s')

theorem run_rewriteAllM_plugAll {ts us vs : List Term} {s s' : σ}
    (length : us.length = (ts.map regularHoles).sum)
    (each : ∀ t ∈ ts, ∀ us, us.length = t.regularHoles → RewritesPlugs replace t us)
    (ran : (rewriteAllM replace us).run s = .ok (vs, s')) :
    (rewriteAllM replace (plugAll ts us)).run s = .ok (plugAll ts vs, s') := by
  induction ts generalizing us vs s with
  | nil =>
      rw [List.length_eq_zero_iff.1 length] at ran
      exact run_rewriteAllM_nil_iff.2 ⟨rfl, (run_rewriteAllM_nil_iff.1 ran).2⟩
  | cons t ts ih =>
      obtain ⟨mine, others, rfl, here, there⟩ := exists_shares length
      obtain ⟨now, later⟩ := List.forall_mem_cons.1 each
      obtain ⟨mine', s₁, others', first, second, rfl⟩ := run_rewriteAllM_append_iff.1 ran
      have here' := (length_of_run_rewriteAllM first).trans here
      rw [plugAll_cons_append here, plugAll_cons_append here']
      exact run_rewriteAllM_cons_iff.2 ⟨_, s₁, _, now mine here _ _ _ first,
        ih there later second, rfl⟩

/-- When no node with subterms is replaced and the leaves are kept that are no regular
holes, only what is plugged in is rewritten, in turn. -/
theorem run_rewriteM_plug {t : Term} {us : List Term}
    (passes : ∀ node : Term, node.isLeaf = false → Passes replace node)
    (kept : t.Everywhere fun leaf => leaf.isLeaf = true → leaf.isRegularHole = false →
      ∀ s, (rewriteM replace leaf).run s = .ok (leaf, s))
    (length : us.length = t.regularHoles) : RewritesPlugs replace t us := by
  induction t, us, length using inductionOnPlugs with
  | hole goal u =>
      intro vs s s' ran
      obtain ⟨v, s₁, _, here, rest, rfl⟩ := run_rewriteAllM_cons_iff.1 ran
      obtain ⟨rfl, rfl⟩ := run_rewriteAllM_nil_iff.1 rest
      exact here
  | leaf t leaf notHole _ =>
      intro vs s s' ran
      obtain ⟨rfl, rfl⟩ := run_rewriteAllM_nil_iff.1 ran
      rw [plug_of_leaf leaf notHole]
      exact kept.here leaf notHole s
  | inner t us length inner ih =>
      intro vs s s' ran
      have below := ((everywhere_iff_children t).1 kept).2
      have inner' := isLeaf_plug inner us
      refine (run_rewriteM_of_passes_iff (passes _ inner')).2
        ⟨plugAll t.children vs, ?_, withChildren_plug inner us vs⟩
      rw [children_plug inner]
      exact run_rewriteAllM_plugAll (length.trans (regularHoles_of_inner inner))
        (fun part inside us length => ih part inside us length (below part inside)) ran

/-! ### Expansion, then choice -/

variable {expander : Expander} {query : Query}

/-- Holes in a row are expanded to their candidates, which are counted in turn. -/
theorem run_expandHole_holes {goals : List Ty}
    (expands : ∀ goal ∈ goals, ∃ candidates, expander query goal = .ok candidates)
    (before : List Nat) :
    (rewriteAllM (expandHole expander query) (goals.map fun goal => .hole goal false)).run
        before =
      .ok (goals.map fun goal => .filled goal (fillings expander query goal),
        before ++ goals.map fun goal => (fillings expander query goal).length) := by
  induction goals generalizing before with
  | nil => exact run_rewriteAllM_nil_iff.2 ⟨rfl, (List.append_nil before).symm⟩
  | cons goal goals ih =>
      obtain ⟨⟨candidates, here⟩, rest⟩ := List.forall_mem_cons.1 expands
      have found : fillings expander query goal = candidates := by rw [fillings, here]
      have expanded : (expandHole expander query (.hole goal false)).run before =
          .ok (some (.filled goal candidates), before ++ [candidates.length]) := by
        rw [expandHole, here]
        rfl
      have first : (rewriteM (expandHole expander query) (.hole goal false)).run before =
          .ok (.filled goal candidates, before ++ [candidates.length]) :=
        (run_rewriteM_leaf_iff rfl).2 (Or.inl expanded)
      have second := ih rest (before ++ [candidates.length])
      rw [List.append_assoc, List.singleton_append] at second
      rw [List.map_cons, List.map_cons, List.map_cons, found]
      exact run_rewriteAllM_cons_iff.2 ⟨_, _, _, first, second, rfl⟩

/-- Filled holes in a row take the candidates at the selected positions, one after the
other. -/
theorem exists_chosen {candidates : Ty → List Term} {goals : List Ty} {selection : List Nat}
    (within : List.Forall₂ (· < ·) selection (goals.map fun goal => (candidates goal).length)) :
    ∃ chosen : List Term, chosen.length = goals.length ∧
      (∀ (i : Nat) goal position, goals[i]? = some goal → selection[i]? = some position →
        chosen[i]? = (candidates goal)[position]?) ∧
      ∀ rest, (rewriteAllM pick (goals.map fun goal => .filled goal (candidates goal))).run
        (selection.map Int.ofNat ++ rest) = .ok (chosen, rest) := by
  induction goals generalizing selection with
  | nil =>
      obtain rfl := List.forall₂_nil_right_iff.1 within
      exact ⟨[], rfl, by simp, fun rest => rfl⟩
  | cons goal goals ih =>
      obtain ⟨position, others, below, rest, rfl⟩ := List.forall₂_cons_right_iff.1 within
      obtain ⟨chosen, length, each, picks⟩ := ih rest
      have here := List.getElem?_eq_getElem below
      have picked : itemAt? (candidates goal) (Int.ofNat position) =
          some (candidates goal)[position] := by
        have nonnegative : ¬ (position : Int) < 0 := by omega
        simp [itemAt?, nonnegative, here]
      refine ⟨(candidates goal)[position] :: chosen, by simp [length], ?_, fun rest => ?_⟩
      · rintro (_ | i) goal' position' ofGoal ofPosition
        · obtain rfl : goal = goal' := by simpa using ofGoal
          obtain rfl : position = position' := by simpa using ofPosition
          simp [here]
        · exact each i goal' position' (by simpa using ofGoal) (by simpa using ofPosition)
      · exact run_rewriteAllM_cons_iff.2 ⟨_, _, _,
          (run_rewriteM_leaf_iff rfl).2 (Or.inl (run_pick_filled goal picked _)), picks rest,
          rfl⟩

/-- Expanding a program that lists no candidates gives one count for each regular hole,
that of the candidates for it, and materializing what has been expanded with a selection
within the counts puts the selected candidate in the place of each hole and leaves
everything else as it is. -/
theorem materialize_of_expandHoles {program : Term}
    (unfilled : program.Everywhere fun node => node.isUnfilled = true)
    (expands : ∀ goal ∈ program.regularGoals, ∃ candidates,
      expander query goal = .ok candidates) :
    ∃ expanded counts, program.expandHoles expander query = .ok (expanded, counts) ∧
      counts.length = program.regularHoles ∧
      counts = program.regularGoals.map
        (fun goal => (fillings expander query goal).length) ∧
      ∀ selection : List Nat, List.Forall₂ (· < ·) selection counts →
        ∃ chosen : List Term, chosen.length = counts.length ∧
          (∀ (i : Nat) goal position, program.regularGoals[i]? = some goal →
            selection[i]? = some position →
            chosen[i]? = (fillings expander query goal)[position]?) ∧
          expanded.materialize (selection.map Int.ofNat) = .ok (program.plug chosen) ∧
          (program.plug chosen).size + counts.length =
            program.size + (chosen.map size).sum := by
  have passesExpansion (node : Term) (inner : node.isLeaf = false) :
      Passes (expandHole expander query) node := by
    refine passes_expandHole fun goal dependent same => ?_
    subst same
    simp [isLeaf] at inner
  have holes (make : Ty → Term) :
      (program.regularGoals.map make).length = program.regularHoles := by
    rw [List.length_map, length_regularGoals]
  have expansion : RewritesPlugs (expandHole expander query) program
      (program.regularGoals.map fun goal => .hole goal false) :=
    run_rewriteM_plug passesExpansion
      (fun leaf _ isLeaf notHole => run_expandHole_of_leaf isLeaf notHole) (holes _)
  have expanded := expansion _ [] _ (run_expandHole_holes expands [])
  rw [plug_regularGoals, List.nil_append] at expanded
  refine ⟨_, _, expanded, by rw [List.length_map, length_regularGoals], rfl,
    fun selection within => ?_⟩
  obtain ⟨chosen, length, each, picks⟩ := exists_chosen within
  have choice : RewritesPlugs pick program (program.regularGoals.map fun goal =>
      .filled goal (fillings expander query goal)) :=
    run_rewriteM_plug (fun node inner => passes_pick (isUnfilled_of_inner inner))
      (fun leaf inside isLeaf _ s =>
        (run_rewriteM_leaf_of_passes isLeaf (passes_pick (unfilled leaf inside))).2 ⟨rfl, rfl⟩)
      (holes _)
  have materialized := choice _ _ _ (picks [])
  refine ⟨chosen, by rw [length, List.length_map], each, ?_, ?_⟩
  · rw [List.append_nil] at materialized
    unfold materialize
    change Prod.fst <$> (rewriteM pick _).run _ = _
    rw [materialized]
    rfl
  · rw [List.length_map, ← length]
    exact size_plug (length.trans (length_regularGoals program))

/-- A record whose key is a hole and whose value is a slice with a step, in which a hole
that is filled from the context stays. One of the candidates has a hole of its own, which
is left for another expansion. -/
theorem materialize_of_expandHoles_record :
    let expander : Expander := fun _ goal =>
      if goal == .string then .ok [.str "a", .plus (.var "x") (.hole .string false)]
      else .ok [.int 0, .int 1, .int 2]
    let query : Query := { env := [("x", .string)], goal := .record [] }
    let program : Term := .record [(.hole .string false,
      .slice (.var "x") (.hole .integer true) nothing (some (.hole .integer false)))]
    ∃ expanded, program.expandHoles expander query = .ok (expanded, [2, 3]) ∧
      expanded.materialize [1, 2] = .ok (.record [(.plus (.var "x") (.hole .string false),
        .slice (.var "x") (.hole .integer true) nothing (some (.int 2)))]) := by
  intro expander query program
  have unfilled : program.Everywhere fun node => node.isUnfilled = true := by
    simp [program, isUnfilled, nothing]
  have goals : program.regularGoals = [.string, .integer] := rfl
  obtain ⟨expanded, counts, expands, _, same, materializes⟩ :=
    @materialize_of_expandHoles expander query program unfilled (by
      rw [goals]
      exact List.forall_mem_cons.2 ⟨⟨_, rfl⟩, List.forall_mem_singleton.2 ⟨_, rfl⟩⟩)
  obtain rfl : counts = [2, 3] := same
  obtain ⟨chosen, length, each, materialized, _⟩ := materializes [1, 2] (by simp)
  have first := each 0 .string 1 rfl rfl
  have second := each 1 .integer 2 rfl rfl
  match chosen, length with
  | [_, _], _ =>
      obtain rfl := Option.some.inj first
      obtain rfl := Option.some.inj second
      exact ⟨expanded, expands, materialized⟩

end FunctionSynthesis.Term
