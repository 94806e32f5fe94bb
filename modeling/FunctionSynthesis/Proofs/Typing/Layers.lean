import FunctionSynthesis.Proofs.Typing.Monotonicity

/-!
# Layered programs

A layered program displays records under names around its inner parts, at any depth. Holes
of any goal stand at the top or as values of these displays, holes further down have classes
as goals and are not filled from the context, and there are no other displays with holes
(`IsLayered`). Replacing holes keeps the layers (`IsLayered.of_replaced`), and displays are
typed field by field, so filling from the context narrows the type of a layered program
(`IsLayered.exists_isWellBelow`), also where it puts a union in.
-/

namespace FunctionSynthesis

/-- Whether a type is a class, with a parameter or without one. -/
def Ty.isClass : Ty → Bool
  | .nominal _ => true
  | .generic _ _ => true
  | _ => false

namespace Term

/-! ### Displays under names -/

/-- The display of a record under names. -/
def named (fields : List (String × Term)) : Term :=
  .record (fields.map fun field => (str field.1, field.2))

/-- Fields under the names of others, when the texts are replaced by themselves. -/
theorem exists_named_of_replaced {related : Term → Term → Prop} {fields : List (String × Term)}
    {u : Term} (kept : ∀ name v, related (str name) v → v = str name)
    (replaced : Replaced related (named fields) u) :
    ∃ fields', u = named fields' ∧ List.Forall₂ (fun field' field =>
      field'.1 = field.1 ∧ Replaced related field.2 field'.2) fields' fields := by
  obtain ⟨entries, rfl, pairs⟩ := Replaced.record_iff.1 replaced
  rw [List.forall₂_map_left_iff] at pairs
  clear replaced
  induction pairs with
  | nil => exact ⟨[], rfl, .nil⟩
  | @cons field entry _ _ here _ ih =>
      obtain ⟨fields', same, below⟩ := ih
      have key : entry.1 = str field.1 := kept _ _ (here.1.related_of_leaf rfl)
      refine ⟨(field.1, entry.2) :: fields', ?_, .cons ⟨rfl, here.2⟩ below⟩
      rw [named, List.map_cons, ← key, ← Term.record.inj same]

theorem displayType_text (entries : List (Term × Term)) (fields : List (String × Ty)) :
    displayType entries (fields.map fun field => (.text field.1, field.2)) =
      .ok (.record fields) := by
  have names : (fields.map fun field => (Ty.text field.1, field.2)).mapM
      (fun (pair : Ty × Ty) => (staticKey? pair.1).map fun name => (name, pair.2)) =
      some fields := by
    induction fields with
    | nil => rfl
    | cons field fields ih =>
        rw [List.map_cons, List.mapM_cons, ih]
        rfl
  simp only [displayType, names]
  rfl

/-- Pairs of a text type and another type, as the types of fields under names. -/
theorem forall₂_text_iff (related : Term → Ty → Prop) {fields : List (String × Term)}
    {pairs : List (Ty × Ty)} :
    List.Forall₂ (fun field pair => .text field.1 = pair.1 ∧ related field.2 pair.2)
        fields pairs ↔
      ∃ types : List (String × Ty),
        pairs = types.map (fun fieldType => (.text fieldType.1, fieldType.2)) ∧
        List.Forall₂ (fun field fieldType =>
          fieldType.1 = field.1 ∧ related field.2 fieldType.2) fields types := by
  constructor
  · intro paired
    induction paired with
    | nil => exact ⟨[], rfl, .nil⟩
    | @cons field pair _ _ here _ ih =>
        obtain ⟨types, rfl, below⟩ := ih
        refine ⟨(field.1, pair.2) :: types, ?_, .cons ⟨rfl, here.2⟩ below⟩
        rw [List.map_cons, here.1]
  · rintro ⟨types, rfl, typed⟩
    rw [List.forall₂_map_right_iff]
    exact typed.imp fun _ _ here => ⟨congrArg _ here.1.symm, here.2⟩

theorem typeIn_named_eq_ok_iff {catalog : Catalog} {env : Environment}
    {fields : List (String × Term)} {type : Ty} :
    typeIn catalog env (named fields) = .ok type ↔
      ∃ types, type = .record types ∧ List.Forall₂ (fun field fieldType =>
        fieldType.1 = field.1 ∧ typeIn catalog env field.2 = .ok fieldType.2) fields types := by
  have ofName (name : String) (key : Ty) :
      typeIn catalog env (str name) = .ok key ↔ .text name = key := Attempt.pure_eq_ok_iff
  have texts := @forall₂_text_iff (fun t type => typeIn catalog env t = .ok type) fields
  rw [named, typeIn_record_eq_ok_iff]
  simp only [List.forall₂_map_left_iff, ofName]
  constructor
  · rintro ⟨pairs, typed, displayed⟩
    obtain ⟨types, rfl, below⟩ := texts.1 typed
    rw [displayType_text, Except.ok.injEq] at displayed
    exact ⟨types, displayed.symm, below⟩
  · rintro ⟨types, rfl, typed⟩
    exact ⟨_, texts.2 ⟨types, rfl, typed⟩, displayType_text _ types⟩

/-! ### Layers -/

/-- Whether a node can stand where no union or record is wanted: holes have classes as goals
and are to be expanded, and no record is displayed. -/
def IsPlainNode : Term → Prop
  | .literal v => v.isAtom = true
  | .hole goal dependent => dependent = false ∧ goal.IsWellFormed ∧ goal.isClass = true
  | .record _ => False
  | .filled _ _ => False
  | _ => True

/-- Whether a node can stand in a term that is finished: there are no holes, and no record
is displayed with one static key twice. -/
def IsFinishedNode (env : Environment) : Term → Prop
  | .literal v => v.isAtom = true
  | .record entries => (staticKeys env entries).Nodup
  | .hole _ _ => False
  | .filled _ _ => False
  | _ => True

/-- Whether a program consists of displays under names around holes, finished terms and
terms without displays. -/
inductive IsLayered (env : Environment) : Term → Prop
  | hole {goal : Ty} (dependent : Bool) :
      goal.IsWellFormed → IsLayered env (.hole goal dependent)
  | finished {t : Term} : Everywhere (IsFinishedNode env) t → IsLayered env t
  | plain {t : Term} : Everywhere IsPlainNode t → IsLayered env t
  | named {fields : List (String × Term)} :
      (fields.map Prod.fst).Nodup → (∀ field ∈ fields, IsLayered env field.2) →
      IsLayered env (named fields)

theorem isPlainNode_withChildren {node : Term} (parts : List Term) (plain : IsPlainNode node) :
    IsPlainNode (node.withChildren parts) := by
  unfold withChildren
  cases node with
  | call r m as => cases parts <;> trivial
  | field r name as => cases parts <;> trivial
  | array ts => trivial
  | slice r a b step =>
      match parts with
      | [] => trivial
      | [_] => trivial
      | [_, _] => trivial
      | _ :: _ :: _ :: _ => trivial
  | record es => exact plain.elim
  | _ => exact plain

theorem isDependentHole_of_isPlainNode {node : Term} (plain : IsPlainNode node) :
    node.isDependentHole = false := by
  cases node with
  | hole goal dependent => exact plain.1
  | _ => rfl

variable {env : Environment} {related : Term → Term → Prop} {t u : Term}

theorem notHole_of_isFinishedNode {node : Term} (finished : IsFinishedNode env node) :
    node.isRegularHole = false ∧ node.isDependentHole = false := by
  cases node with
  | hole goal dependent => exact finished.elim
  | _ => exact ⟨rfl, rfl⟩

/-- What holds of all nodes that layered programs are built from holds everywhere in them. -/
theorem IsLayered.everywhere {condition : Term → Prop} (layered : IsLayered env t)
    (hole : ∀ goal dependent, goal.IsWellFormed → condition (.hole goal dependent))
    (finished : ∀ node, IsFinishedNode env node → condition node)
    (plain : ∀ node, IsPlainNode node → condition node) (text : ∀ s, condition (str s))
    (display : ∀ fields, (fields.map Prod.fst).Nodup → condition (.named fields)) :
    Everywhere condition t := by
  induction layered with
  | hole dependent wellFormed => exact (everywhere_hole _ _).2 (hole _ dependent wellFormed)
  | finished nodes => exact fun node inside => finished node (nodes node inside)
  | plain nodes => exact fun node inside => plain node (nodes node inside)
  | @named fields distinct _ ih =>
      refine (everywhere_record _).2 ⟨display fields distinct, fun entry member => ?_⟩
      obtain ⟨field, inside, rfl⟩ := List.mem_map.1 member
      exact ⟨(everywhere_literal _).2 (text field.1), ih field inside⟩

theorem staticKeys_named (env : Environment) (fields : List (String × Term)) :
    staticKeys env (fields.map fun field => (str field.1, field.2)) = fields.map Prod.fst := by
  unfold staticKeys
  rw [List.filterMap_map]
  change fields.filterMap (some ∘ Prod.fst) = _
  rw [List.filterMap_eq_map]

theorem IsLayered.isTidy (layered : IsLayered env t) : Everywhere (IsTidyNode env) t := by
  refine layered.everywhere (fun _ _ wellFormed => wellFormed) (fun node finished => ?_)
    (fun node plain => ?_) (fun _ => rfl) fun fields distinct => ?_
  · cases node <;> first | exact finished | exact finished.elim
  · cases node <;> first | exact plain | exact plain.elim | exact plain.2.1
  · change (staticKeys env _).Nodup
    rw [staticKeys_named]
    exact distinct

/-- Replacing holes keeps the layers if layers are put in the place of holes, and terms
without displays in the place of those further down. -/
theorem IsLayered.of_replaced (layered : IsLayered env t) (replaced : Replaced related t u)
    (kept : ∀ leaf v, leaf.isRegularHole = false → leaf.isDependentHole = false →
      related leaf v → v = leaf)
    (hole : ∀ goal dependent v, goal.IsWellFormed → related (.hole goal dependent) v →
      IsLayered env v)
    (classHole : ∀ goal v, goal.IsWellFormed → goal.isClass = true →
      related (.hole goal false) v → Everywhere IsPlainNode v) : IsLayered env u := by
  induction layered generalizing u with
  | hole dependent wellFormed =>
      exact hole _ dependent u wellFormed (replaced.related_of_leaf rfl)
  | @finished t nodes =>
      have same : u = t := by
        refine replaced.eq_self fun leaf inside _ v put => ?_
        obtain ⟨notRegular, notDependent⟩ := notHole_of_isFinishedNode (nodes leaf inside)
        exact kept leaf v notRegular notDependent put
      exact same ▸ .finished nodes
  | plain nodes =>
      refine .plain (replaced.everywhere_of_everywhere
        (fun node parts _ => isPlainNode_withChildren parts) (fun leaf isLeaf here v put => ?_)
        nodes)
      cases leaf with
      | hole goal dependent =>
          obtain ⟨rfl, wellFormed, isClass⟩ := here
          exact classHole goal v wellFormed isClass put
      | _ =>
          obtain rfl := kept _ v rfl rfl put
          exact (everywhere_of_leaf (walk_of_isLeaf isLeaf)).2 here
  | @named fields distinct _ ih =>
      obtain ⟨fields', rfl, below⟩ := exists_named_of_replaced
        (fun name v => kept (str name) v rfl rfl) replaced
      have sameNames : fields'.map Prod.fst = fields.map Prod.fst := by
        rw [← List.forall₂_eq_eq_eq, List.forall₂_map_left_iff, List.forall₂_map_right_iff]
        exact below.imp fun _ _ => And.left
      refine .named (sameNames ▸ distinct) fun field' member => ?_
      obtain ⟨field, inside, _, replaced'⟩ := Attempt.exists_of_mem_right below.flip member
      exact ih field inside replaced'

/-- A layered program of which only dependent holes are replaced, by terms of narrower types,
has a narrower type. -/
theorem IsLayered.exists_isWellBelow {type : Ty} (envWellFormed : env.IsWellFormed)
    (layered : IsLayered env t) (replaced : Replaced related t u)
    (kept : ∀ leaf v, leaf.isDependentHole = false → related leaf v → v = leaf)
    (narrower : ∀ goal v, goal.IsWellFormed → related (.hole goal true) v →
      ∃ type, typeIn Catalog.standard env v = .ok type ∧ type.IsWellBelow goal)
    (typed : typeIn Catalog.standard env t = .ok type) :
    ∃ type', typeIn Catalog.standard env u = .ok type' ∧ type'.IsWellBelow type := by
  have known {t : Term} {type : Ty} (layered : IsLayered env t)
      (typed : typeIn Catalog.standard env t = .ok type) : type.IsWellBelow type :=
    .refl (isWellFormed_of_typeIn envWellFormed layered.isTidy typed)
  induction layered generalizing u type with
  | @hole goal dependent wellFormed =>
      have put := replaced.related_of_leaf rfl
      cases dependent with
      | false =>
          obtain rfl := kept _ u rfl put
          exact ⟨type, typed, known (.hole false wellFormed) typed⟩
      | true =>
          obtain rfl : goal = type := Attempt.pure_eq_ok_iff.1 typed
          exact narrower goal u wellFormed put
  | finished nodes =>
      obtain rfl := replaced.eq_self fun leaf inside _ v => kept leaf v
        (notHole_of_isFinishedNode (nodes leaf inside)).2
      exact ⟨type, typed, known (.finished nodes) typed⟩
  | plain nodes =>
      obtain rfl := replaced.eq_self fun leaf inside _ v => kept leaf v
        (isDependentHole_of_isPlainNode (nodes leaf inside))
      exact ⟨type, typed, known (.plain nodes) typed⟩
  | @named fields distinct layers ih =>
      have wellFormed := (known (.named distinct layers) typed).left
      obtain ⟨fields', rfl, below⟩ := exists_named_of_replaced
        (fun name v => kept (str name) v rfl) replaced
      obtain ⟨types, rfl, typedFields⟩ := typeIn_named_eq_ok_iff.1 typed
      -- between the fields that are filled and the types of the others are their own types
      have between : List.Forall₂ (fun (field' : String × Term) (fieldType : String × Ty) =>
          ∃ fieldType' : String × Ty,
            (fieldType'.1 = field'.1 ∧
              typeIn Catalog.standard env field'.2 = .ok fieldType'.2) ∧
            fieldType'.1 = fieldType.1 ∧ fieldType'.2.IsWellBelow fieldType.2)
          fields' types := by
        refine (Attempt.forall₂_comp below typedFields).imp fun field' fieldType => ?_
        rintro ⟨field, member, ⟨sameName, replaced'⟩, typeName, typedField⟩
        obtain ⟨type', typed', belowField⟩ := ih field member replaced' typedField
        exact ⟨(field'.1, type'), ⟨rfl, typed'⟩, sameName.trans typeName.symm, belowField⟩
      obtain ⟨types', typed', narrowerFields⟩ := Attempt.exists_forall₂_between between
      exact ⟨_, typeIn_named_eq_ok_iff.2 ⟨types', rfl, typed'⟩,
        Ty.isWellBelow_record narrowerFields wellFormed⟩

end Term

end FunctionSynthesis
