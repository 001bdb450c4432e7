import UpdaterLaunch.Agenda

/-! The tasks that an agenda has still to run, in line or asleep, less those that were silenced.
Posting adds one, a turn takes off at most the one that it runs, the clock takes off none, and
cancelling takes off those of one queue.
-/

namespace UpdaterLaunch

universe u

namespace Agenda

variable {τ : Type u}

/-- What the turn of the first in line comes to: it was silenced before, it runs, or it has to
wait for its time.
-/
inductive Turn (agenda : Agenda τ) : Option τ → Agenda τ → Prop
  | silenced {first rest} (line : agenda.ready = first :: rest)
    (dead : agenda.isLive first = false)
    : agenda.Turn none { agenda with ready := rest }
  | runs {first rest} (line : agenda.ready = first :: rest)
    (live : agenda.isLive first = true) (due : first.due ≤ agenda.now)
    : agenda.Turn (some first.task) ({ agenda with ready := rest }.strike first)
  | sleeps {first rest} (line : agenda.ready = first :: rest)
    (live : agenda.isLive first = true) (early : agenda.now < first.due)
    : agenda.Turn none
        { agenda with ready := rest, sleepers := insertByDue first agenda.sleepers }

/-- Every turn is one of the three, by the two tests that it makes. -/
theorem turn_of_turn? {agenda after : Agenda τ} {task : Option τ}
    (h : agenda.turn? = some (task, after))
    : agenda.Turn task after := by
  unfold turn? at h
  cases line : agenda.ready with
  | nil => simp [line] at h
  | cons first rest =>
      simp only [line] at h
      cases live : agenda.isLive first with
      | false =>
          simp only [live, Bool.not_false, ↓reduceIte] at h
          obtain ⟨rfl, rfl⟩ := Prod.mk.inj (Option.some.inj h)
          exact .silenced line live
      | true =>
          simp only [live, Bool.not_true, Bool.false_eq_true, ↓reduceIte] at h
          split at h
          · rename_i due
            obtain ⟨rfl, rfl⟩ := Prod.mk.inj (Option.some.inj h)
            exact .runs line live due
          · rename_i early
            obtain ⟨rfl, rfl⟩ := Prod.mk.inj (Option.some.inj h)
            exact .sleeps line live (Nat.lt_of_not_le early)

/-- Whoever is first in line has a turn. -/
theorem exists_turn {agenda : Agenda τ} {first : Posting τ} {rest : List (Posting τ)}
    (line : agenda.ready = first :: rest)
    : ∃ task after, agenda.Turn task after := by
  cases live : agenda.isLive first with
  | false => exact ⟨_, _, .silenced line live⟩
  | true =>
      rcases Nat.lt_or_ge agenda.now first.due with early | due
      · exact ⟨_, _, .sleeps line live early⟩
      · exact ⟨_, _, .runs line live due⟩

/-- A turn takes no time. -/
theorem Turn.now {agenda after : Agenda τ} {task : Option τ} (turn : agenda.Turn task after)
    : after.now = agenda.now := by
  cases turn <;> rfl

/-- Whoever is put among the sleepers is one more of them. -/
theorem insertByDue_perm (posting : Posting τ) (postings : List (Posting τ))
    : (insertByDue posting postings).Perm (posting :: postings) := by
  fun_induction insertByDue posting postings with
  | case1 => exact .rfl
  | case2 first rest _ ih => exact (ih.cons first).trans (.swap posting first rest)
  | case3 => exact .rfl

theorem mem_insertByDue_iff {posting other : Posting τ} {postings : List (Posting τ)}
    : other ∈ insertByDue posting postings ↔ other = posting ∨ other ∈ postings :=
  (insertByDue_perm posting postings).mem_iff.trans List.mem_cons

/-- Striking a task off its queue silences nobody. -/
theorem isLive_strike (agenda : Agenda τ) (struck posting : Posting τ)
    : (agenda.strike struck).isLive posting = agenda.isLive posting := by
  simp only [isLive, strike, List.getElem?_modify]
  split <;> cases agenda.queues[posting.queue]? <;> rfl

/-- Posting silences nobody. -/
theorem isLive_post (agenda : Agenda τ) (queue delay : Nat) (task : τ) (posting : Posting τ)
    : (agenda.post queue delay task).isLive posting = agenda.isLive posting := by
  unfold post
  cases there : agenda.queues[queue]? with
  | none => rfl
  | some q =>
      by_cases own : queue = posting.queue
      · subst own
        obtain ⟨inside, -⟩ := List.getElem?_eq_some_iff.mp there
        simp only [isLive, List.getElem?_set_self inside, there, Option.any_some]
      · simp only [isLive, List.getElem?_set_ne own]

/-- Every task was posted on a queue that is there, and the queue has been cancelled at least as
often as it had been then.
-/
def Sound (agenda : Agenda τ) : Prop :=
  ∀ posting ∈ agenda.ready ++ agenda.sleepers,
    ∃ queue, agenda.queues[posting.queue]? = some queue ∧ posting.generation ≤ queue.generation

/-- Cancelling a queue silences exactly the tasks that were posted on it. -/
theorem isLive_cancel {agenda : Agenda τ} (sound : agenda.Sound) (queue : Nat)
    {posting : Posting τ} (member : posting ∈ agenda.ready ++ agenda.sleepers)
    : (agenda.cancel queue).isLive posting
      = (agenda.isLive posting && decide (posting.queue ≠ queue)) := by
  obtain ⟨q, there, older⟩ := sound posting member
  simp only [isLive, cancel, List.getElem?_modify, there]
  by_cases own : queue = posting.queue
  · simp only [own, ↓reduceIte, Option.map_eq_map, Option.map_some, Option.any_some, ne_eq,
      not_true_eq_false, decide_false, Bool.and_false, decide_eq_false_iff_not]
    omega
  · simp [own, Ne.symm own]

-----------------------------------------------------------------------------------------
-- The tasks still to run
-----------------------------------------------------------------------------------------

/-- The tasks still to run, those in line before those asleep. -/
def tasks (agenda : Agenda τ) : List (Posting τ) :=
  (agenda.ready ++ agenda.sleepers).filter agenda.isLive

/-- Posting on a queue that is there adds one task that is still to run. -/
theorem tasks_post_perm {agenda : Agenda τ} {queue : Nat} {q : Queue}
    (there : agenda.queues[queue]? = some q) (delay : Nat) (task : τ)
    : (agenda.post queue delay task).tasks.Perm
        ({ due := agenda.dueAfter delay, queue, id := q.nextId, generation := q.generation, task }
          :: agenda.tasks) := by
  have same : (agenda.post queue delay task).isLive = agenda.isLive :=
    funext fun posting => agenda.isLive_post queue delay task posting
  unfold tasks
  rw [same]
  simp only [post, there, List.append_assoc, List.filter_append, List.filter_cons]
  have live : agenda.isLive
      { due := agenda.dueAfter delay, queue, id := q.nextId, generation := q.generation, task }
      = true := by
    simp [isLive, there]
  rw [if_pos live]
  exact List.perm_middle

/-- The clock adds no task and takes none off. -/
theorem tasks_moveTo (agenda : Agenda τ) (time : Nat)
    : (agenda.moveTo time).tasks = agenda.tasks := by
  simp only [tasks, moveTo, List.append_assoc, List.takeWhile_append_dropWhile]
  rfl

/-- A turn takes the task that it runs off those still to run, and no other. -/
theorem Turn.tasks_perm {agenda after : Agenda τ} {task : Option τ}
    (turn : agenda.Turn task after)
    : ∃ ran : List (Posting τ),
        ran.map (·.task) = task.toList ∧ agenda.tasks.Perm (ran ++ after.tasks) := by
  cases turn with
  | silenced line dead =>
      refine ⟨[], rfl, .of_eq ?_⟩
      simp only [tasks, line, List.cons_append, List.filter_cons, dead, Bool.false_eq_true,
        ↓reduceIte]
      rfl
  | @runs first rest line live due =>
      refine ⟨[first], rfl, .of_eq ?_⟩
      have same : ({ agenda with ready := rest }.strike first).isLive = agenda.isLive :=
        funext fun posting => isLive_strike { agenda with ready := rest } first posting
      unfold tasks
      rw [same]
      simp only [line, List.cons_append, List.filter_cons, live, ↓reduceIte, strike,
        List.nil_append]
  | @sleeps first rest line live early =>
      refine ⟨[], rfl, ?_⟩
      have moved : (agenda.ready ++ agenda.sleepers).Perm
          (rest ++ insertByDue first agenda.sleepers) := by
        rw [line]
        exact (List.perm_middle.symm).trans
          ((insertByDue_perm first agenda.sleepers).symm.append_left rest)
      exact moved.filter agenda.isLive

/-- Cancelling takes the tasks of one queue off, and no other. -/
theorem tasks_cancel {agenda : Agenda τ} (sound : agenda.Sound) (queue : Nat)
    : (agenda.cancel queue).tasks = agenda.tasks.filter (·.queue ≠ queue) := by
  -- the sleepers of the queue are taken out as well, which removes no task: they are silenced
  have silenced (postings : List (Posting τ))
      (within : ∀ p ∈ postings, p ∈ agenda.ready ++ agenda.sleepers)
      : postings.filter (agenda.cancel queue).isLive
        = (postings.filter agenda.isLive).filter (·.queue ≠ queue) := by
    rw [List.filter_filter]
    refine List.filter_congr fun p member => ?_
    rw [isLive_cancel sound queue (within p member), Bool.and_comm]
  have line := silenced agenda.ready fun p => List.mem_append_left _
  have asleep := silenced (agenda.sleepers.filter (·.queue ≠ queue))
    fun p member => List.mem_append_right _ (List.mem_filter.mp member).1
  have ready : (agenda.cancel queue).ready = agenda.ready := rfl
  have sleepers
      : (agenda.cancel queue).sleepers = agenda.sleepers.filter (·.queue ≠ queue) := rfl
  simp only [tasks, List.filter_append, ready, sleepers] at *
  rw [line, asleep]
  congr 1
  simp only [List.filter_filter]
  refine List.filter_congr fun p _ => ?_
  cases agenda.isLive p <;> simp

/-- The tasks in line and asleep, be they silenced or not. -/
def waiting (agenda : Agenda τ) : List (Posting τ) := agenda.ready ++ agenda.sleepers

/-- Nobody joins those who wait by a turn. -/
theorem Turn.waiting_subset {agenda after : Agenda τ} {task : Option τ}
    (turn : agenda.Turn task after)
    : ∀ posting ∈ after.waiting, posting ∈ agenda.waiting := by
  intro posting member
  cases turn with
  | silenced line =>
      rw [waiting, line]
      exact List.mem_cons_of_mem _ member
  | runs line =>
      rw [waiting, line]
      exact List.mem_cons_of_mem _ member
  | @sleeps first rest line =>
      rw [waiting, line]
      rcases List.mem_append.mp member with ready | asleep
      · exact List.mem_append_left _ (List.mem_cons_of_mem _ ready)
      · rcases mem_insertByDue_iff.mp asleep with rfl | asleep
        · exact List.mem_append_left _ List.mem_cons_self
        · exact List.mem_append_right _ asleep

theorem waiting_moveTo (agenda : Agenda τ) (time : Nat)
    : (agenda.moveTo time).waiting = agenda.waiting := by
  simp only [waiting, moveTo, List.append_assoc, List.takeWhile_append_dropWhile]

theorem mem_waiting_cancel {agenda : Agenda τ} {queue : Nat} {posting : Posting τ}
    (member : posting ∈ (agenda.cancel queue).waiting)
    : posting ∈ agenda.waiting := by
  rcases List.mem_append.mp member with ready | asleep
  · exact List.mem_append_left _ ready
  · exact List.mem_append_right _ (List.mem_filter.mp asleep).1

/-- An agenda stays sound if no task comes to it and its queues only count further. -/
theorem Sound.of_subset {agenda after : Agenda τ} (sound : agenda.Sound)
    (subset : ∀ posting ∈ after.waiting, posting ∈ agenda.waiting)
    (grown
      : ∀ (number : Nat) (queue : Queue),
          agenda.queues[number]? = some queue
          → ∃ later : Queue,
              after.queues[number]? = some later ∧ queue.generation ≤ later.generation)
    : after.Sound := by
  intro posting member
  obtain ⟨queue, there, older⟩ := sound posting (subset posting member)
  obtain ⟨later, still, more⟩ := grown _ _ there
  exact ⟨later, still, Nat.le_trans older more⟩

/-- A queue that is changed in place, and counts no less, leaves all queues counting no less. -/
theorem grown_modify {queues : List Queue} {index : Nat} {change : Queue → Queue}
    (grows : ∀ queue, queue.generation ≤ (change queue).generation) (number : Nat)
    (queue : Queue) (there : queues[number]? = some queue)
    : ∃ later : Queue,
        (queues.modify index change)[number]? = some later
        ∧ queue.generation ≤ later.generation := by
  rw [List.getElem?_modify, there]
  by_cases own : index = number
  · exact ⟨change queue, by simp [own], grows queue⟩
  · exact ⟨queue, by simp [own], Nat.le_refl _⟩

/-- Posting keeps an agenda sound: the new task has its queue's count. -/
theorem Sound.post {agenda : Agenda τ} (sound : agenda.Sound) (queue delay : Nat) (task : τ)
    : (agenda.post queue delay task).Sound := by
  unfold Agenda.post
  cases there : agenda.queues[queue]? with
  | none => exact sound
  | some q =>
      obtain ⟨inside, -⟩ := List.getElem?_eq_some_iff.mp there
      intro posting member
      simp only [List.append_assoc, List.mem_append, List.mem_singleton] at member
      have old (known : posting ∈ agenda.ready ++ agenda.sleepers)
          : ∃ later,
              (agenda.queues.set queue
                { q with nextId := q.nextId + 1, pending := q.pending ++ [q.nextId] })[
                  posting.queue]?
                = some later
              ∧ posting.generation ≤ later.generation := by
        obtain ⟨own, found, older⟩ := sound posting known
        by_cases same : queue = posting.queue
        · subst same
          obtain rfl := Option.some.inj (there.symm.trans found)
          exact ⟨_, List.getElem?_set_self inside, older⟩
        · exact ⟨own, by rw [List.getElem?_set_ne same, found], older⟩
      rcases member with ready | new | asleep
      · exact old (List.mem_append_left _ ready)
      · subst new
        exact ⟨_, List.getElem?_set_self inside, Nat.le_refl _⟩
      · exact old (List.mem_append_right _ asleep)

/-- A turn keeps an agenda sound. -/
theorem Sound.turn {agenda after : Agenda τ} {task : Option τ} (sound : agenda.Sound)
    (turn : agenda.Turn task after)
    : after.Sound := by
  have same (number : Nat) (queue : Queue) (there : agenda.queues[number]? = some queue)
      : ∃ later : Queue,
          agenda.queues[number]? = some later ∧ queue.generation ≤ later.generation :=
    ⟨queue, there, Nat.le_refl _⟩
  have subset := turn.waiting_subset
  cases turn with
  | silenced line dead => exact sound.of_subset subset same
  | runs line live due =>
      exact sound.of_subset subset (grown_modify fun queue => Nat.le_refl queue.generation)
  | sleeps line live early => exact sound.of_subset subset same

/-- The clock keeps an agenda sound. -/
theorem Sound.moveTo {agenda : Agenda τ} (sound : agenda.Sound) (time : Nat)
    : (agenda.moveTo time).Sound := by
  refine sound.of_subset (fun posting member => ?_)
    fun _ queue there => ⟨queue, there, Nat.le_refl _⟩
  rwa [waiting_moveTo] at member

/-- Cancelling keeps an agenda sound. -/
theorem Sound.cancel {agenda : Agenda τ} (sound : agenda.Sound) (queue : Nat)
    : (agenda.cancel queue).Sound := by
  exact sound.of_subset (fun _ => mem_waiting_cancel)
    (grown_modify fun queue => Nat.le_succ queue.generation)

-----------------------------------------------------------------------------------------
-- An agenda with one task or none
-----------------------------------------------------------------------------------------

/-- Nobody is in line or asleep. -/
structure Idle (agenda : Agenda τ) : Prop where
  ready : agenda.ready = []
  sleepers : agenda.sleepers = []

/-- One task is still to run, in line or asleep, and nobody else is in either place. -/
structure HoldsOnly (agenda : Agenda τ) (posting : Posting τ) : Prop where
  live : agenda.isLive posting = true
  place
    : (agenda.ready = [posting] ∧ agenda.sleepers = [])
      ∨ (agenda.ready = [] ∧ agenda.sleepers = [posting])

/-- An idle agenda has no task to run. -/
theorem Idle.tasks {agenda : Agenda τ} (idle : agenda.Idle) : agenda.tasks = [] := by
  simp [Agenda.tasks, idle.ready, idle.sleepers]

/-- An idle agenda is sound. -/
theorem Idle.sound {agenda : Agenda τ} (idle : agenda.Idle) : agenda.Sound := by
  intro posting member
  rw [idle.ready, idle.sleepers] at member
  exact absurd member List.not_mem_nil

/-- An agenda that holds one task has that one to run. -/
theorem HoldsOnly.tasks {agenda : Agenda τ} {posting : Posting τ}
    (holds : agenda.HoldsOnly posting)
    : agenda.tasks = [posting] := by
  rcases holds.place with ⟨ready, sleepers⟩ | ⟨ready, sleepers⟩ <;>
    simp [Agenda.tasks, ready, sleepers, holds.live]

/-- Nobody has a turn on an idle agenda. -/
theorem Idle.turn? {agenda : Agenda τ} (idle : agenda.Idle) : agenda.turn? = none := by
  simp only [Agenda.turn?, idle.ready]

/-- Nobody wakes on an idle agenda. -/
theorem Idle.next? {agenda : Agenda τ} (idle : agenda.Idle) : agenda.next? = none := by
  simp [Agenda.next?, idle.sleepers]

/-- Cancelling leaves an idle agenda idle. -/
theorem Idle.cancel {agenda : Agenda τ} (idle : agenda.Idle) (queue : Nat)
    : (agenda.cancel queue).Idle where
  ready := idle.ready
  sleepers := by simp [Agenda.cancel, idle.sleepers]

/-- An idle agenda holds the one task that is posted on a queue that is there. -/
theorem Idle.post {agenda : Agenda τ} (idle : agenda.Idle) {queue : Nat} {q : Queue}
    (there : agenda.queues[queue]? = some q) (delay : Nat) (task : τ)
    : ∃ posting : Posting τ,
        (agenda.post queue delay task).HoldsOnly posting
        ∧ posting.task = task
        ∧ posting.due = agenda.dueAfter delay := by
  refine
    ⟨{ due := agenda.dueAfter delay, queue, id := q.nextId, generation := q.generation, task },
      ⟨?_, .inl ⟨?_, ?_⟩⟩, rfl, rfl⟩
  · rw [isLive_post]
    simp [isLive, there]
  · simp only [Agenda.post, there, idle.ready, List.nil_append]
  · simp only [Agenda.post, there, idle.sleepers]

/-- The turn of an only task runs it when it is due, which leaves the agenda idle, and makes it wait
when it is not. The clock stands still in either case.
-/
theorem HoldsOnly.turn {agenda after : Agenda τ} {posting : Posting τ} {task : Option τ}
    (holds : agenda.HoldsOnly posting) (turn : agenda.Turn task after)
    : after.now = agenda.now
      ∧ ((task = none ∧ after.HoldsOnly posting)
        ∨ (task = some posting.task ∧ posting.due ≤ agenda.now ∧ after.Idle)) := by
  cases turn with
  | silenced line dead =>
      rcases holds.place with ⟨ready, -⟩ | ⟨ready, -⟩
      · obtain ⟨rfl, -⟩ := List.cons.inj (line.symm.trans ready)
        simp [holds.live] at dead
      · simp [ready] at line
  | runs line live due =>
      rcases holds.place with ⟨ready, sleepers⟩ | ⟨ready, -⟩
      · obtain ⟨rfl, rfl⟩ := List.cons.inj (line.symm.trans ready)
        exact ⟨rfl, .inr ⟨rfl, due, rfl, sleepers⟩⟩
      · simp [ready] at line
  | sleeps line live early =>
      rcases holds.place with ⟨ready, sleepers⟩ | ⟨ready, -⟩
      · obtain ⟨rfl, rfl⟩ := List.cons.inj (line.symm.trans ready)
        refine ⟨rfl, .inl ⟨rfl, holds.live, .inr ⟨rfl, ?_⟩⟩⟩
        simp only [sleepers, insertByDue]
      · simp [ready] at line

/-- When an only task is the next to wake, the clock goes to its due time and it is in line. -/
theorem HoldsOnly.clock {agenda : Agenda τ} {posting : Posting τ} {due : Nat}
    (holds : agenda.HoldsOnly posting) (next : agenda.next? = some due)
    : due = posting.due
      ∧ (agenda.moveTo due).now = max agenda.now posting.due
      ∧ (agenda.moveTo due).HoldsOnly posting := by
  rcases holds.place with ⟨-, sleepers⟩ | ⟨ready, sleepers⟩
  · simp [Agenda.next?, sleepers] at next
  · obtain rfl : posting.due = due := by simpa [Agenda.next?, sleepers] using next
    have reached : posting.due ≤ max agenda.now posting.due := Nat.le_max_right _ _
    refine ⟨rfl, rfl, holds.live, .inl ⟨?_, ?_⟩⟩
    · simp only [Agenda.moveTo, ready, sleepers, List.takeWhile_cons, List.takeWhile_nil, reached,
        decide_true, ↓reduceIte, List.nil_append]
    · simp only [Agenda.moveTo, sleepers, List.dropWhile_cons, List.dropWhile_nil, reached,
        decide_true, ↓reduceIte]

end Agenda

end UpdaterLaunch
