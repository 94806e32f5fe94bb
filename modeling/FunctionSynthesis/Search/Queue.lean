import FunctionSynthesis.Term

/-!
# Queues of programs

A queue gives out a program of least score first, and of several the one that
was pushed first. Programs of one score wait in a lane, and the lanes stand in
the order of their scores. `Queue.waiting` lists the programs in the order in
which they come out: a push inserts a program behind all that score no more
(`waiting_push`), and a pop takes the first one (`waiting_of_pop?`).
-/

namespace FunctionSynthesis.Search

/-- Programs of one score. Those in front come out first; those at the back have
been pushed since, the latest first. -/
structure Lane where
  score : Int
  front : List Term
  back : List Term

namespace Lane

/-- The programs of a lane in the order in which they come out. -/
def terms (lane : Lane) : List Term :=
  lane.front ++ lane.back.reverse

/-- The programs of a lane with their score. -/
def scored (lane : Lane) : List (Int × Term) :=
  lane.terms.map (lane.score, ·)

/-- Put a program into the lane of its score, which is opened if need be. -/
def push (score : Int) (t : Term) : List Lane → List Lane
  | [] => [⟨score, [t], []⟩]
  | lane :: rest =>
      if score < lane.score then ⟨score, [t], []⟩ :: lane :: rest
      else if lane.score < score then lane :: push score t rest
      else ⟨lane.score, lane.front, t :: lane.back⟩ :: rest

/-- The program that comes out first, and the lanes without it. -/
def pop? : List Lane → Option (Term × List Lane)
  | [] => none
  | ⟨score, t :: front, back⟩ :: rest => some (t, ⟨score, front, back⟩ :: rest)
  | ⟨score, [], back⟩ :: rest =>
      match back.reverse with
      | t :: front => some (t, ⟨score, front, []⟩ :: rest)
      | [] => pop? rest

/-- Lanes with ascending scores. -/
abbrev Ascending (lanes : List Lane) : Prop :=
  lanes.Pairwise fun a b => a.score < b.score

theorem score_of_mem_push {score : Int} {t : Term} {lanes : List Lane}
    {lane : Lane} (h : lane ∈ push score t lanes) :
    lane.score = score ∨ ∃ old ∈ lanes, lane.score = old.score := by
  induction lanes with
  | nil => simp_all [push]
  | cons first rest ih =>
      simp only [push] at h
      split at h
      · rcases List.mem_cons.1 h with rfl | h
        · exact .inl rfl
        · exact .inr ⟨lane, h, rfl⟩
      · split at h
        · rcases List.mem_cons.1 h with rfl | h
          · exact .inr ⟨lane, List.mem_cons_self, rfl⟩
          · exact (ih h).imp_right fun ⟨old, member, same⟩ =>
              ⟨old, List.mem_cons_of_mem _ member, same⟩
        · rcases List.mem_cons.1 h with rfl | h
          · exact .inr ⟨first, List.mem_cons_self, rfl⟩
          · exact .inr ⟨lane, List.mem_cons_of_mem _ h, rfl⟩

theorem ascending_push (score : Int) (t : Term) {lanes : List Lane}
    (h : Ascending lanes) : Ascending (push score t lanes) := by
  induction lanes with
  | nil => simp [push]
  | cons first rest ih =>
      obtain ⟨above, rising⟩ := List.pairwise_cons.1 h
      simp only [push]
      split
      next lower =>
        refine List.pairwise_cons.2 ⟨fun lane member => ?_, h⟩
        rcases List.mem_cons.1 member with rfl | member
        · exact lower
        · exact Int.lt_trans lower (above lane member)
      · split
        next higher =>
          refine List.pairwise_cons.2 ⟨fun lane member => ?_, ih rising⟩
          rcases score_of_mem_push member with same | ⟨old, member, same⟩
          · exact same ▸ higher
          · exact same ▸ above old member
        · exact List.pairwise_cons.2 ⟨above, rising⟩

theorem ascending_pop? {lanes left : List Lane} {t : Term}
    (h : Ascending lanes) (popped : pop? lanes = some (t, left)) :
    Ascending left := by
  induction lanes with
  | nil => simp [pop?] at popped
  | cons first rest ih =>
      obtain ⟨above, rising⟩ := List.pairwise_cons.1 h
      match first, popped with
      | ⟨score, _ :: front, back⟩, popped =>
          cases popped
          exact List.pairwise_cons.2 ⟨above, rising⟩
      | ⟨score, [], back⟩, popped =>
          simp only [pop?] at popped
          split at popped
          · cases popped
            exact List.pairwise_cons.2 ⟨above, rising⟩
          · exact ih rising popped

end Lane

/-- Programs in lanes of ascending scores. -/
structure Queue where
  lanes : List Lane
  ascending : Lane.Ascending lanes

namespace Queue

def empty : Queue := ⟨[], .nil⟩

instance : Inhabited Queue := ⟨empty⟩

/-- The programs with their scores, in the order in which they come out. -/
def waiting (queue : Queue) : List (Int × Term) :=
  queue.lanes.flatMap Lane.scored

def length (queue : Queue) : Nat :=
  queue.waiting.length

def isEmpty (queue : Queue) : Bool :=
  queue.waiting.isEmpty

def push (queue : Queue) (t : Term) (score : Int) : Queue :=
  ⟨Lane.push score t queue.lanes, Lane.ascending_push score t queue.ascending⟩

/-- The program that comes out next, and the queue without it. -/
def pop? (queue : Queue) : Option (Term × Queue) :=
  match popped : Lane.pop? queue.lanes with
  | none => none
  | some (t, left) => some (t, ⟨left, Lane.ascending_pop? queue.ascending popped⟩)

/-! ### The order of the programs -/

/-- Put a program behind all that score no more. -/
def insert (score : Int) (t : Term) : List (Int × Term) → List (Int × Term)
  | [] => [(score, t)]
  | (other, u) :: rest =>
      if score < other then (score, t) :: (other, u) :: rest
      else (other, u) :: insert score t rest

theorem insert_append_of_le {score : Int} {t : Term}
    {before : List (Int × Term)} (after : List (Int × Term))
    (h : ∀ entry ∈ before, entry.1 ≤ score) :
    insert score t (before ++ after) = before ++ insert score t after := by
  induction before with
  | nil => rfl
  | cons entry rest ih =>
      have := h entry List.mem_cons_self
      simp [insert, Int.not_lt.2 this,
        ih fun e member => h e (List.mem_cons_of_mem _ member)]

theorem insert_of_lt {score : Int} {t : Term} {after : List (Int × Term)}
    (h : ∀ entry ∈ after, score < entry.1) :
    insert score t after = (score, t) :: after := by
  cases after with
  | nil => rfl
  | cons entry rest => simp [insert, h entry List.mem_cons_self]

theorem score_of_mem_scored {lane : Lane} {entry : Int × Term}
    (h : entry ∈ lane.scored) : entry.1 = lane.score := by
  obtain ⟨_, _, rfl⟩ := List.mem_map.1 h
  rfl

theorem flatMap_scored_push (score : Int) (t : Term) {lanes : List Lane}
    (h : Lane.Ascending lanes) :
    (Lane.push score t lanes).flatMap Lane.scored =
      insert score t (lanes.flatMap Lane.scored) := by
  induction lanes with
  | nil => rfl
  | cons first rest ih =>
      obtain ⟨above, rising⟩ := List.pairwise_cons.1 h
      simp only [Lane.push]
      split
      next lower =>
        rw [insert_of_lt]
        · rfl
        · intro entry member
          obtain ⟨lane, inside, member⟩ := List.mem_flatMap.1 member
          rw [score_of_mem_scored member]
          rcases List.mem_cons.1 inside with rfl | inside
          · exact lower
          · exact Int.lt_trans lower (above lane inside)
      next notLower =>
        have noMore : ∀ entry ∈ first.scored, entry.1 ≤ score :=
          fun entry member => score_of_mem_scored member ▸ Int.not_lt.1 notLower
        rw [List.flatMap_cons, insert_append_of_le _ noMore]
        split
        · rw [List.flatMap_cons, ih rising]
        next notHigher =>
          have same : first.score = score :=
            Int.le_antisymm (Int.not_lt.1 notLower) (Int.not_lt.1 notHigher)
          rw [insert_of_lt]
          · simp [Lane.scored, Lane.terms, same]
          · intro entry member
            obtain ⟨lane, inside, member⟩ := List.mem_flatMap.1 member
            rw [score_of_mem_scored member, ← same]
            exact above lane inside

theorem waiting_push (queue : Queue) (t : Term) (score : Int) :
    (queue.push t score).waiting = insert score t queue.waiting :=
  flatMap_scored_push score t queue.ascending

theorem flatMap_scored_of_pop? {lanes left : List Lane} {t : Term}
    (popped : Lane.pop? lanes = some (t, left)) :
    ∃ score, lanes.flatMap Lane.scored = (score, t) :: left.flatMap Lane.scored := by
  induction lanes with
  | nil => simp [Lane.pop?] at popped
  | cons first rest ih =>
      match first, popped with
      | ⟨score, _ :: front, back⟩, popped =>
          cases popped
          exact ⟨score, by simp [Lane.scored, Lane.terms]⟩
      | ⟨score, [], back⟩, popped =>
          simp only [Lane.pop?] at popped
          split at popped
          next front reversed =>
            cases popped
            exact ⟨score, by simp [Lane.scored, Lane.terms, reversed]⟩
          next reversed =>
            simpa [Lane.scored, Lane.terms, reversed] using ih popped

theorem flatMap_scored_of_pop?_eq_none {lanes : List Lane}
    (popped : Lane.pop? lanes = none) : lanes.flatMap Lane.scored = [] := by
  induction lanes with
  | nil => rfl
  | cons first rest ih =>
      match first, popped with
      | ⟨score, [], back⟩, popped =>
          simp only [Lane.pop?] at popped
          split at popped
          · simp at popped
          next reversed =>
            simpa [Lane.scored, Lane.terms, reversed] using ih popped

/-- A pop takes the first of the programs that wait. -/
theorem waiting_of_pop? {queue left : Queue} {t : Term}
    (h : queue.pop? = some (t, left)) :
    ∃ score, queue.waiting = (score, t) :: left.waiting := by
  unfold pop? at h
  split at h
  · simp at h
  next popped =>
    cases h
    exact flatMap_scored_of_pop? popped

/-- Nothing comes out when nothing waits. -/
theorem waiting_of_pop?_eq_none {queue : Queue} (h : queue.pop? = none) :
    queue.waiting = [] := by
  unfold pop? at h
  split at h
  next popped => exact flatMap_scored_of_pop?_eq_none popped
  · simp at h

end Queue

end FunctionSynthesis.Search
