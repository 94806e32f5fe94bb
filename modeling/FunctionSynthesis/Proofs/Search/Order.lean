import FunctionSynthesis.Proofs.Search.Exactness

/-!
# The order of the queue

Every push into the queue of a search has a number, so that each program in it is an entry
of its own. A search takes the entries best first: the one that it takes scores less than
all others that wait, or scores the same and was pushed before them (`IsBestFirst`). When
the score of a program is its size, a candidate leaves nothing in the queue that is smaller
than the program it comes of, so the sizes of the programs that are taken never decrease
(`best_first_of_run`).
-/

namespace FunctionSynthesis

/-! ### Sizes -/

namespace Term

variable {related : Term → Term → Prop} {t u : Term}

/-- Replacing leaves by terms does not make a term smaller. -/
theorem Replaced.size_le (replaced : Replaced related t u) : t.size ≤ u.size := by
  have counted (v : Term) : v.size = v.walk.countP fun _ => true := by simp [size]
  rw [counted, counted]
  refine replaced.countP_le (fun _ _ => rfl) fun leaf _ _ v _ => ?_
  cases v <;> simp [walk]

end Term

namespace Search

variable {σ : Type} {plan : Plan σ} {program candidate next : Term}

/-- What a candidate leaves in the queue is no smaller than the program it comes of. -/
theorem Plan.Derivable.size_le_of_yields (derivable : plan.Derivable program)
    (unfilled : plan.StaysUnfilled) (attempted : .ok candidate ∈ plan.attempts program)
    (yields : plan.query.Yields candidate next) : program.size ≤ next.size := by
  obtain ⟨expansion, expanded⟩ := exists_expansion_of_mem_attempts attempted
  have refined := (derivable.mem_attempts_iff unfilled expanded).1 attempted
  have grown : program.size ≤ candidate.size :=
    (Term.replaced_of_mem_refinements refined).size_le
  cases yields.prepared with
  | kept _ => exact grown
  | resolved _ resolution =>
      exact grown.trans (Term.replaced_of_fillDependent resolution).1.size_le

/-! ### Entries -/

/-- A program in the queue, with its score and the number of pushes before its own. -/
structure Entry where
  score : Int
  number : Nat
  program : Term

namespace Entry

/-- Whether one entry comes out of the queue before another: it scores less, or it scores
the same and was pushed first. -/
def Precedes (e f : Entry) : Prop :=
  e.score < f.score ∨ e.score = f.score ∧ e.number < f.number

/-- An entry as the queue has it, without its number. -/
def scored (e : Entry) : Int × Term :=
  (e.score, e.program)

theorem Precedes.score_le {e f : Entry} (precedes : e.Precedes f) : e.score ≤ f.score :=
  precedes.elim Int.le_of_lt fun same => Int.le_of_eq same.1

theorem precedes_of_score_le {e f : Entry} (lower : e.score ≤ f.score)
    (earlier : e.number < f.number) : e.Precedes f :=
  (Int.lt_or_eq_of_le lower).imp_right fun same => ⟨same, earlier⟩

end Entry

/-- The score and the program that an event put into the queue. -/
def Event.queued? : Event → Option (Int × Term)
  | .queued program score => some (score, program)
  | _ => none

/-- The entries that were pushed when these events had happened one after the other: the
program that a search starts from, and those that were queued since. -/
def entries (seed : Term) (events : List Event) : List Entry :=
  ((seedScore, seed) :: events.filterMap Event.queued?).zipIdx.map fun push =>
    ⟨push.1.1, push.2, push.1.2⟩

theorem entries_append_of_silent {seed : Term} {events later : List Event}
    (silent : later.filterMap Event.queued? = []) :
    entries seed (events ++ later) = entries seed events := by
  rw [entries, List.filterMap_append, silent, List.append_nil, entries]

theorem entries_append_queued (seed : Term) (events : List Event) (score : Int)
    (program : Term) :
    entries seed (events ++ [.queued program score]) =
      entries seed events ++ [⟨score, (entries seed events).length, program⟩] := by
  simp [entries, Event.queued?, List.zipIdx_append, Nat.add_comm]

/-- The entries are numbered in turn. -/
theorem map_number_entries (seed : Term) (events : List Event) :
    (entries seed events).map Entry.number = List.range (entries seed events).length := by
  rw [entries, List.length_map, List.length_zipIdx, List.range_eq_range', List.map_map]
  exact List.zipIdx_map_snd 0 _

theorem number_lt_of_mem_entries {seed : Term} {events : List Event} {e : Entry}
    (member : e ∈ entries seed events) : e.number < (entries seed events).length := by
  rw [← List.mem_range, ← map_number_entries]
  exact List.mem_map_of_mem member

theorem nodup_entries (seed : Term) (events : List Event) :
    ((entries seed events).map Entry.number).Nodup := by
  rw [map_number_entries]
  exact List.nodup_range

/-- A program that is pushed waits between the entries that score no more and the others,
and the number of its push is the highest. -/
theorem exists_waiting_of_insert {waiting : List Entry} (e : Entry)
    (ordered : waiting.Pairwise Entry.Precedes)
    (latest : ∀ f ∈ waiting, f.number < e.number) :
    ∃ waiting' : List Entry, waiting'.map Entry.scored =
        Queue.insert e.score e.program (waiting.map Entry.scored) ∧
      waiting'.Perm (e :: waiting) ∧ waiting'.Pairwise Entry.Precedes := by
  induction waiting with
  | nil => exact ⟨[e], rfl, .refl _, List.pairwise_singleton _ _⟩
  | cons f waiting ih =>
      obtain ⟨first, rest⟩ := List.pairwise_cons.1 ordered
      rw [List.map_cons, Entry.scored, Queue.insert]
      split
      next lower =>
        refine ⟨e :: f :: waiting, rfl, .refl _, List.pairwise_cons.2 ⟨?_, ordered⟩⟩
        refine List.forall_mem_cons.2 ⟨Or.inl lower, fun g later => Or.inl ?_⟩
        exact Int.lt_of_lt_of_le lower (first g later).score_le
      next notLower =>
        obtain ⟨waiting', inserted, all, ordered'⟩ :=
          ih rest fun g later => latest g (List.mem_cons_of_mem _ later)
        refine ⟨f :: waiting', congrArg (f.scored :: ·) inserted, ?_, ?_⟩
        · exact (all.cons f).trans (.swap e f waiting)
        · refine List.pairwise_cons.2 ⟨fun g member => ?_, ordered'⟩
          rcases List.mem_cons.1 (all.subset member) with rfl | later
          · exact Entry.precedes_of_score_le (Int.not_lt.1 notLower)
              (latest f List.mem_cons_self)
          · exact first g later

/-! ### Best first -/

/-- Whether each of the entries that were taken by these events was in the queue then, and
precedes all others that were. -/
def IsBestFirst (seed : Term) (taken : List Entry) (events : List Event) : Prop :=
  ∀ earlier program later, events = earlier ++ .popped program :: later →
    let before := taken.take (earlier.filterMap Event.popped?).length
    ∃ e, taken[(earlier.filterMap Event.popped?).length]? = some e ∧ e.program = program ∧
      e ∈ entries seed earlier ∧ e ∉ before ∧
      ∀ f ∈ entries seed earlier, f ∉ before → f = e ∨ e.Precedes f

/-- What happens between two pops does not matter for the order. -/
theorem IsBestFirst.append_of_silent {seed : Term} {taken : List Entry}
    {events later : List Event} (best : IsBestFirst seed taken events)
    (silent : later.filterMap Event.popped? = []) :
    IsBestFirst seed taken (events ++ later) := by
  intro earlier program rest split
  rcases List.append_eq_append_iff.1 split with ⟨middle, rfl, same⟩ | ⟨middle, same, other⟩
  · rw [same, List.filterMap_append] at silent
    simp [Event.popped?] at silent
  · cases middle with
    | nil =>
        rw [List.nil_append] at other
        rw [← other] at silent
        simp [Event.popped?] at silent
    | cons event middle =>
        obtain ⟨rfl, rfl⟩ := List.cons.inj other
        exact best earlier program middle same

/-- The next entry that is taken has to precede all others in the queue. -/
theorem IsBestFirst.append_popped {seed : Term} {taken : List Entry} {events : List Event}
    {e : Entry} (best : IsBestFirst seed taken events)
    (length : taken.length = (events.filterMap Event.popped?).length)
    (inQueue : e ∈ entries seed events) (fresh : e ∉ taken)
    (least : ∀ f ∈ entries seed events, f ∉ taken → f = e ∨ e.Precedes f) :
    IsBestFirst seed (taken ++ [e]) (events ++ [.popped e.program]) := by
  intro earlier program rest split
  rcases List.eq_nil_or_concat rest with rfl | ⟨rest, last, rfl⟩
  · obtain ⟨rfl, same⟩ := List.append_inj' split rfl
    obtain rfl : e.program = program := by simpa using same
    dsimp only
    rw [← length, List.take_left, List.getElem?_concat_length]
    exact ⟨e, rfl, rfl, inQueue, fresh, least⟩
  · rw [List.concat_eq_append, ← List.cons_append, ← List.append_assoc] at split
    obtain ⟨same, _⟩ := List.append_inj' split rfl
    have fewer : (earlier.filterMap Event.popped?).length < taken.length := by
      rw [length, same]
      simp [Event.popped?]
    dsimp only
    rw [List.take_append_of_le_length fewer.le, List.getElem?_append_left fewer]
    exact best earlier program rest same

/-! ### The entries of a search -/

/-- The program that a search starts from. -/
def Plan.seed (plan : Plan σ) : Term :=
  .hole plan.query.goal false

/-- Whether a plan scores programs by their size and proposes no lists of candidates. -/
structure Plan.RanksBySize (plan : Plan σ) : Prop where
  score : plan.query.score = fun t => (t.size : Int)
  unfilled : plan.ProposesUnfilled

/-- Whether entries are of derivable programs, scored by their size, and in the order in
which a queue gives them out. -/
structure IsAscending (plan : Plan σ) (known : List Entry) : Prop where
  derivable : ∀ e ∈ known, plan.Derivable e.program
  scored : ∀ e ∈ known, e.score = e.program.size
  ordered : known.Pairwise Entry.Precedes

/-- The entries of a search in some state: those that were taken from the queue, in order,
and those that wait. -/
structure Ledger (plan : Plan σ) (taken waiting : List Entry) (s : State σ) : Prop where
  programs : taken.map Entry.program = s.poppedPrograms
  queued : waiting.map Entry.scored = s.queue.waiting
  all : (taken ++ waiting).Perm (entries plan.seed s.events.reverse)
  ordered : waiting.Pairwise Entry.Precedes
  best : IsBestFirst plan.seed taken s.events.reverse
  ascending : plan.RanksBySize → IsAscending plan (taken ++ waiting)

namespace Ledger

variable {taken waiting : List Entry} {s s' : State σ}

theorem nodup (ledger : Ledger plan taken waiting s) :
    ((taken ++ waiting).map Entry.number).Nodup :=
  (ledger.all.map Entry.number).nodup_iff.2 (nodup_entries plan.seed _)

theorem length_taken (ledger : Ledger plan taken waiting s) :
    taken.length = (s.events.reverse.filterMap Event.popped?).length := by
  rw [← List.length_map Entry.program, ledger.programs]
  rfl

/-- Whatever neither pushes nor pops leaves the entries as they are. -/
theorem of_silent (ledger : Ledger plan taken waiting s) {events : List Event}
    (silent : ∀ event ∈ events, event.queued? = none ∧ event.popped? = none)
    (queue : s'.queue = s.queue) (later : s'.events = events ++ s.events) :
    Ledger plan taken waiting s' := by
  have noPush : events.reverse.filterMap Event.queued? = [] :=
    List.filterMap_eq_nil_iff.2 fun event member => (silent event (List.mem_reverse.1 member)).1
  have noPop : events.reverse.filterMap Event.popped? = [] :=
    List.filterMap_eq_nil_iff.2 fun event member => (silent event (List.mem_reverse.1 member)).2
  refine ⟨?_, queue ▸ ledger.queued, ?_, ledger.ordered, ?_, ledger.ascending⟩
  · rw [State.poppedPrograms, State.gathered_of_events later, noPop, List.append_nil]
    exact ledger.programs
  · rw [later, List.reverse_append, entries_append_of_silent noPush]
    exact ledger.all
  · rw [later, List.reverse_append]
    exact ledger.best.append_of_silent noPop

/-- A program that is pushed waits with the others. -/
theorem push (ledger : Ledger plan taken waiting s)
    (grown : plan.RanksBySize →
      plan.Derivable next ∧ ∀ e ∈ taken, e.program.size ≤ next.size)
    (queue : s'.queue = s.queue.push next (plan.query.score next))
    (later : s'.events = .queued next (plan.query.score next) :: s.events) :
    ∃ waiting', Ledger plan taken waiting' s' := by
  let e : Entry := ⟨plan.query.score next, (entries plan.seed s.events.reverse).length, next⟩
  have latest : ∀ f ∈ taken ++ waiting, f.number < e.number := fun f member =>
    number_lt_of_mem_entries (ledger.all.subset member)
  obtain ⟨waiting', inserted, all, ordered⟩ := exists_waiting_of_insert e ledger.ordered
    fun f member => latest f (List.mem_append_right taken member)
  have known : (taken ++ waiting').Perm (taken ++ waiting ++ [e]) := by
    rw [List.append_assoc]
    exact (all.trans (List.perm_append_singleton e waiting).symm).append_left taken
  have chronological : s'.events.reverse =
      s.events.reverse ++ [.queued next (plan.query.score next)] := by
    rw [later, List.reverse_cons]
  refine ⟨waiting', ?_, ?_, ?_, ordered, ?_, fun bySize => ?_⟩
  · have latest : s'.events = [_] ++ s.events := later
    rw [State.poppedPrograms, State.gathered_of_events latest]
    exact ledger.programs.trans (List.append_nil _).symm
  · rw [inserted, queue, Queue.waiting_push, ledger.queued]
  · rw [chronological, entries_append_queued]
    exact known.trans (ledger.all.append_right [e])
  · rw [chronological]
    exact ledger.best.append_of_silent rfl
  · obtain ⟨derivable, larger⟩ := grown bySize
    have before := ledger.ascending bySize
    have size : e.score = e.program.size := congrFun bySize.score next
    refine ⟨fun f member => ?_, fun f member => ?_, ?_⟩
    · rcases List.mem_append.1 (known.subset member) with old | new
      · exact before.derivable f old
      · exact List.mem_singleton.1 new ▸ derivable
    · rcases List.mem_append.1 (known.subset member) with old | new
      · exact before.scored f old
      · exact List.mem_singleton.1 new ▸ size
    · obtain ⟨first, _, across⟩ := List.pairwise_append.1 before.ordered
      refine List.pairwise_append.2 ⟨first, ordered, fun f earlier g member => ?_⟩
      rcases List.mem_cons.1 (all.subset member) with rfl | old
      · have known := List.mem_append_left waiting earlier
        refine Entry.precedes_of_score_le ?_ (latest f known)
        rw [before.scored f known, size]
        exact Int.ofNat_le.2 (larger f earlier)
      · exact across f earlier g old

/-- The program that is popped is that of the first entry. -/
theorem pop (ledger : Ledger plan taken waiting s) {queue : Queue}
    (popped : s.queue.pop? = some (program, queue)) :
    ∃ e waiting', e.program = program ∧ Ledger plan (taken ++ [e]) waiting'
      (State.record { s with queue } (.popped program)) := by
  obtain ⟨score, order⟩ := Queue.waiting_of_pop? popped
  rw [← ledger.queued, List.map_eq_cons_iff] at order
  obtain ⟨e, waiting', rfl, scored, rest⟩ := order
  obtain rfl : e.program = program := congrArg Prod.snd scored
  obtain ⟨first, ordered⟩ := List.pairwise_cons.1 ledger.ordered
  have all : (taken ++ [e] ++ waiting').Perm (entries plan.seed s.events.reverse) := by
    rw [List.append_assoc]
    exact ledger.all
  have chronological : (State.record { s with queue } (.popped e.program)).events.reverse =
      s.events.reverse ++ [.popped e.program] := List.reverse_cons
  have fresh : e ∉ taken := by
    intro again
    have apart := (List.nodup_append.1 (List.map_append ▸ ledger.nodup)).2.2
    exact apart _ (List.mem_map_of_mem again) _ (List.mem_map_of_mem List.mem_cons_self) rfl
  refine ⟨e, waiting', rfl, ?_, rest, ?_, ordered, ?_, fun bySize => ?_⟩
  · rw [List.map_append, ledger.programs]
    have later : (State.record { s with queue } (.popped e.program)).events =
        [.popped e.program] ++ s.events := rfl
    exact (State.gathered_of_events later Event.popped?).symm
  · rw [chronological, entries_append_of_silent rfl]
    exact all
  · rw [chronological]
    refine ledger.best.append_popped ledger.length_taken (all.subset (by simp)) fresh ?_
    intro f member notTaken
    rcases List.mem_append.1 (ledger.all.symm.subset member) with gone | waits
    · exact absurd gone notTaken
    · exact (List.mem_cons.1 waits).imp_right (first f)
  · have before := ledger.ascending bySize
    rw [← List.singleton_append, ← List.append_assoc] at before
    exact before

end Ledger

/-- A search starts with one entry. -/
theorem ledger_start (plan : Plan σ) (examples : Int) (readings : Nat) (memory : σ)
    (read : Nat) :
    Ledger plan [] [⟨seedScore, 0, plan.seed⟩]
      { start plan examples readings memory with readings := read } where
  programs := rfl
  queued := rfl
  all := .refl _
  ordered := List.pairwise_singleton _ _
  best earlier program later split := by simp [start] at split
  ascending _ :=
    { derivable := List.forall_mem_singleton.2 .start
      scored := List.forall_mem_singleton.2 rfl
      ordered := List.pairwise_singleton _ _ }

/-! ### The steps of a search -/

/-- Whether the entries of a search are told by a ledger. -/
def IsOrderly (plan : Plan σ) (s : State σ) : Prop :=
  ∃ taken waiting, Ledger plan taken waiting s

/-- Whether the entries of a search are told by a ledger in which this program was taken
last. -/
def IsOrderlyAt (plan : Plan σ) (program : Term) (s : State σ) : Prop :=
  ∃ earlier e waiting, e.program = program ∧ Ledger plan (earlier ++ [e]) waiting s

variable {s s' : State σ}

theorem IsOrderlyAt.isOrderly (orderly : IsOrderlyAt plan program s) : IsOrderly plan s := by
  obtain ⟨earlier, e, waiting, _, ledger⟩ := orderly
  exact ⟨_, waiting, ledger⟩

theorem IsOrderlyAt.of_silent (orderly : IsOrderlyAt plan program s) {events : List Event}
    (silent : ∀ event ∈ events, event.queued? = none ∧ event.popped? = none)
    (queue : s'.queue = s.queue) (later : s'.events = events ++ s.events) :
    IsOrderlyAt plan program s' := by
  obtain ⟨earlier, e, waiting, same, ledger⟩ := orderly
  exact ⟨earlier, e, waiting, same, ledger.of_silent silent queue later⟩

theorem IsOrderlyAt.record (orderly : IsOrderlyAt plan program s) {event : Event}
    (silent : event.queued? = none ∧ event.popped? = none) :
    IsOrderlyAt plan program (s.record event) :=
  orderly.of_silent (List.forall_mem_singleton.2 silent) rfl rfl

/-- What a candidate of the last program that was taken leaves in the queue is no smaller
than any program taken before. -/
theorem IsOrderlyAt.push (orderly : IsOrderlyAt plan program s)
    (attempted : .ok candidate ∈ plan.attempts program)
    (yields : plan.query.Yields candidate next)
    (queue : s'.queue = s.queue.push next (plan.query.score next))
    (later : s'.events = .queued next (plan.query.score next) :: s.events) :
    IsOrderlyAt plan program s' := by
  obtain ⟨earlier, e, waiting, rfl, ledger⟩ := orderly
  have grown (bySize : plan.RanksBySize) :
      plan.Derivable next ∧ ∀ f ∈ earlier ++ [e], f.program.size ≤ next.size := by
    have before := ledger.ascending bySize
    have last : e ∈ earlier ++ [e] ++ waiting := by simp
    have unfilled := bySize.unfilled.staysUnfilled
    have derivable := before.derivable e last
    have larger := derivable.size_le_of_yields unfilled attempted yields
    refine ⟨derivable.of_yields unfilled attempted yields, fun f member => ?_⟩
    rcases List.mem_append.1 member with old | new
    · have inOrder := (List.pairwise_append.1 (List.pairwise_append.1 before.ordered).1).2.2
      have lower := (inOrder f old e (List.mem_singleton_self e)).score_le
      rw [before.scored f (List.mem_append_left _ member), before.scored e last] at lower
      exact (Int.ofNat_le.1 lower).trans larger
    · exact List.mem_singleton.1 new ▸ larger
  obtain ⟨waiting', pushed⟩ := ledger.push grown queue later
  exact ⟨earlier, e, waiting', rfl, pushed⟩

/-- A test leaves the queue as it is. -/
theorem IsOrderlyAt.test (orderly : IsOrderlyAt plan program s) (candidate : Term) :
    IsOrderlyAt plan program (test plan candidate s).state := by
  unfold Search.test
  obtain ⟨verdict, memory⟩ := plan.tester.test s.tester candidate
  have silent : ∀ event ∈ [Event.tested candidate verdict],
      event.queued? = none ∧ event.popped? = none := List.forall_mem_singleton.2 ⟨rfl, rfl⟩
  cases verdict <;> exact orderly.of_silent silent rfl rfl

theorem isOrderlyAt_of_considered {progress : Progress σ}
    (orderly : IsOrderlyAt plan program s) (attempted : .ok candidate ∈ plan.attempts program)
    (considered : Considered plan candidate s progress) :
    IsOrderlyAt plan program progress.state := by
  have typed : IsOrderlyAt plan program (s.record (.typed candidate)) :=
    orderly.record ⟨rfl, rfl⟩
  cases considered with
  | tested _ => exact orderly.test candidate
  | tooLarge _ _ => exact orderly
  | eliminated _ =>
      have eliminated : IsOrderlyAt plan program (State.record _ (.eliminated candidate)) :=
        typed.record ⟨rfl, rfl⟩
      exact eliminated.of_silent (List.forall_mem_nil _) rfl rfl
  | queued yields => exact typed.push attempted yields rfl rfl
  | dropped _ _ _ _ =>
      have dropped : IsOrderlyAt plan program (State.record _ (.dropped candidate)) :=
        typed.record ⟨rfl, rfl⟩
      exact dropped
  | outgrown _ _ _ _ => exact typed
  | failed events _ same =>
      subst same
      cases candidate.isClosed with
      | true => exact orderly
      | false => exact typed

/-! ### Rounds -/

variable {deadline : Option Number}

/-- The clock does not change the order. -/
theorem isOrderly_checkDeadline {taken waiting : List Entry}
    (ledger : Ledger plan taken waiting s) :
    (checkDeadline plan deadline s).Satisfies (Ledger plan taken waiting)
      (fun _ => IsOrderly plan) := by
  cases deadline with
  | none => exact ledger
  | some instant =>
      have read : Ledger plan taken waiting { s with readings := s.readings + 1 } :=
        ledger.of_silent (List.forall_mem_nil _) rfl rfl
      unfold checkDeadline
      dsimp only
      split
      · exact ⟨taken, waiting, read⟩
      · exact read

theorem isOrderlyAt_considerAttempt {attempt : Except Fault Term}
    (orderly : IsOrderlyAt plan program s) (attempted : attempt ∈ plan.attempts program) :
    (considerAttempt plan deadline attempt s).Satisfies (IsOrderlyAt plan program)
      (fun _ => IsOrderly plan) := by
  obtain ⟨earlier, e, waiting, same, ledger⟩ := orderly
  refine Progress.satisfies_next (isOrderly_checkDeadline ledger) fun s ledger => ?_
  have orderly : IsOrderlyAt plan program s := ⟨earlier, e, waiting, same, ledger⟩
  cases attempt with
  | error fault => exact orderly.isOrderly
  | ok candidate =>
      have considered := isOrderlyAt_of_considered orderly attempted
        (considered_consider plan candidate s)
      revert considered
      dsimp only [Progress.needing]
      cases consider plan candidate s with
      | ongoing s => exact id
      | ended outcome s => exact IsOrderlyAt.isOrderly

theorem isOrderly_explore (orderly : IsOrderlyAt plan program s) :
    (explore plan deadline program s).Satisfies (IsOrderly plan)
      (fun _ => IsOrderly plan) := by
  have expanded (frontiers : List (Ty × Nat)) :
      IsOrderlyAt plan program (s.record (.expanded frontiers)) :=
    orderly.record ⟨rfl, rfl⟩
  cases expansion : program.expandHoles plan.expander plan.query with
  | error fault =>
      rw [explore_of_error plan deadline expansion]
      exact (expanded _).isOrderly
  | ok result =>
      rw [explore_of_ok plan deadline expansion]
      have keeps : ∀ done attempt rest s, done ++ attempt :: rest = plan.attempts program →
          IsOrderlyAt plan program s → (considerAttempt plan deadline attempt s).Satisfies
            (IsOrderlyAt plan program) (fun _ => IsOrderly plan) :=
        fun done attempt rest s split orderly =>
          isOrderlyAt_considerAttempt orderly (by simp [← split])
      exact (Progress.satisfies_inTurn keeps (expanded _)).imp fun s => IsOrderlyAt.isOrderly

theorem isOrderly_round (orderly : IsOrderly plan s) :
    (round plan deadline s).Satisfies (IsOrderly plan) (fun _ => IsOrderly plan) := by
  obtain ⟨taken, waiting, ledger⟩ := orderly
  refine Progress.satisfies_next (isOrderly_checkDeadline ledger) fun s ledger => ?_
  cases next : s.queue.pop? with
  | none => exact ⟨taken, waiting, ledger⟩
  | some popped =>
      obtain ⟨program, queue⟩ := popped
      obtain ⟨e, waiting', same, ledger'⟩ := ledger.pop next
      exact isOrderly_explore ⟨taken, e, waiting', same, ledger'⟩

theorem isOrderly_run (plan : Plan σ) (n : Nat) (examples : Int) (readings : Nat)
    (memory : σ) :
    IsOrderly plan (run plan n (start plan examples readings memory)).state := by
  have begins (deadline : Option Number) :
      IsOrderly plan ((start plan examples readings memory).readFor deadline) := by
    rw [State.readFor_eq]
    exact ⟨_, _, ledger_start plan examples readings memory _⟩
  have kept : (run plan n (start plan examples readings memory)).Satisfies (IsOrderly plan)
      (fun _ => IsOrderly plan) :=
    satisfies_run n (fun _ _ => begins none) (fun deadline _ => begins deadline)
      fun deadline _ => satisfies_rounds (fun s => isOrderly_round) n (begins deadline)
  revert kept
  cases run plan n (start plan examples readings memory) <;> exact id

/-- A search takes the entries of its queue in turn, each of them once and the best of
them first. When the score of a program is its size, the sizes of the programs that are
taken never decrease, and programs of one size are taken in the order of their pushes. -/
theorem best_first_of_run (plan : Plan σ) (n : Nat) (examples : Int) (readings : Nat)
    (memory : σ) :
    let s := (run plan n (start plan examples readings memory)).state
    ∃ taken waiting : List Entry,
      taken.map Entry.program = s.poppedPrograms ∧
      waiting.map Entry.scored = s.queue.waiting ∧
      (taken ++ waiting).Perm (entries plan.seed s.events.reverse) ∧
      (taken.map Entry.number).Nodup ∧
      IsBestFirst plan.seed taken s.events.reverse ∧
      (plan.RanksBySize → taken.Pairwise fun e f =>
        e.program.size ≤ f.program.size ∧
          (e.program.size = f.program.size → e.number < f.number)) := by
  intro s
  obtain ⟨taken, waiting, ledger⟩ := isOrderly_run plan n examples readings memory
  have once : (taken.map Entry.number).Nodup := by
    have all := ledger.nodup
    rw [List.map_append] at all
    exact (List.nodup_append.1 all).1
  refine ⟨taken, waiting, ledger.programs, ledger.queued, ledger.all, once, ledger.best,
    fun bySize => ?_⟩
  have ascending := ledger.ascending bySize
  refine (List.pairwise_append.1 ascending.ordered).1.imp_of_mem ?_
  intro e f first second precedes
  have scored (g : Entry) (member : g ∈ taken) : g.score = g.program.size :=
    ascending.scored g (List.mem_append_left waiting member)
  rw [Entry.Precedes, scored e first, scored f second] at precedes
  omega

/-- The sizes of the programs that a search takes that builds lists and sums. -/
theorem best_first_of_run_lists :
    let plan : Plan Unit :=
      { query := { env := [("x", .integer)], goal := .top, maxSize := .int 3 }
        expander := .fixed
          [.array [.hole .top false], .plus (.var "x") (.hole .integer true), .var "x"]
        tester := ⟨fun _ _ => (.rejected, ())⟩ }
    let popped := (run plan 6 (start plan 0 0 ())).state.poppedPrograms
    popped = [.hole .top false, .array [.hole .top false], .plus (.var "x") (.var "x"),
        .array [.array [.hole .top false]]] ∧
      popped.Pairwise fun t u => t.size ≤ u.size := by
  intro plan popped
  have bySize : plan.RanksBySize := by
    refine ⟨rfl, fun goal ts proposed t member => ?_⟩
    obtain rfl := Except.ok.inj proposed
    revert t
    simp [Term.Everywhere, Term.walk, Term.walkAll, Term.plus, Term.isUnfilled]
  obtain ⟨taken, _, programs, _, _, _, _, ascending⟩ := best_first_of_run plan 6 0 0 ()
  refine ⟨rfl, ?_⟩
  rw [show popped = taken.map Entry.program from programs.symm, List.pairwise_map]
  exact (ascending bySize).imp And.left

end Search

end FunctionSynthesis
