import UpdaterLaunch.Proofs.PartyIsolation
import UpdaterLaunch.Proofs.RetryChains

/-! One attempt, followed through a world in which others use the same scheduler and the same clock.
What is pending of it is only where its own scheduler keeps it; whatever others do, and however time
passes, it stays there until its turn comes.
-/

namespace UpdaterLaunch

theorem total_eq_zero_iff {α : Type} {size : α → Nat} {items : List α}
    : total size items = 0 ↔ ∀ item ∈ items, size item = 0 := by
  induction items with
  | nil => simp [total]
  | cons first rest ih => simp [total, ih]

/-- An attempt: whose it is, and how things are when it is asked for. -/
structure Attempt where
  number : Nat
  first : Coordinator
  registry : Registry
  start : Nat

namespace Attempt

variable (attempt : Attempt)

/-- How often the attempt is put off. -/
def last : Nat := attempt.first.timesPutOff attempt.registry

/-- The coordinator after some cycles of the attempt. -/
def after (count : Nat) : Coordinator := attempt.first.afterCycles attempt.registry count

/-- The scheduler that the attempt is put off on. -/
def scheduler : Nat := attempt.first.scheduler

/-- How long it is put off each time. -/
def delay : Span := attempt.first.budget.delay

end Attempt

namespace Scheduler

/-- A scheduler as it would be without the retries of all others. -/
def ofOne (number : Nat) : Scheduler → Scheduler
  | .manual queue => .manual (queue.filter (·.2 = number))
  | .inline => .inline
  | .timed => .timed

theorem keeps_ofOne (number : Nat) (kind : Scheduler)
    : (kind.ofOne number).keeps number = kind.keeps number := by
  cases kind with
  | manual queue => simp [ofOne, keeps, List.countP_eq_length_filter]
  | inline | timed => rfl

end Scheduler

/-- In an orderly agenda a task that has its turn and runs does so at its due time. -/
theorem Agenda.Orderly.runs {τ : Type} {agenda after : Agenda τ} {task : τ}
    (orderly : agenda.Orderly) (turn : agenda.Turn (some task) after)
    : ∃ posting : Posting τ,
        posting.task = task
        ∧ posting.due = agenda.now
        ∧ agenda.tasks.Perm (posting :: after.tasks) := by
  cases turn with
  | @runs first rest line live due =>
      refine ⟨first, rfl, ?_, ?_⟩
      · apply Nat.le_antisymm due
        apply orderly.line
        rw [line]
        exact List.mem_cons_self
      · refine .of_eq ?_
        have same : ({ agenda with ready := rest }.strike first).isLive = agenda.isLive :=
          funext fun posting => isLive_strike { agenda with ready := rest } first posting
        unfold Agenda.tasks
        rw [same]
        simp only [line, List.cons_append, List.filter_cons, live, ↓reduceIte, strike]

namespace World

variable {attempt : Attempt} {kind : Scheduler} {asleep : List (Posting Task)} {cycles : Nat}
  {world after : World} {time : Nat}

/-- Where an attempt stands: so many of its cycles have been run, and all that is pending of it is
on its own scheduler or on the agenda.
-/
structure Stands (attempt : Attempt) (kind : Scheduler) (asleep : List (Posting Task))
    (cycles : Nat) (world : World) : Prop where
  registry : world.registry = attempt.registry
  there : world.coordinator? attempt.number = some (attempt.after cycles)
  orderly : world.agenda.Orderly
  queue : attempt.scheduler < world.agenda.queues.length
  retries : ∀ posting ∈ world.agenda.waiting, ∃ other, posting.task = .retry other
  own : (world.schedulers[attempt.scheduler]?).map (Scheduler.ofOne attempt.number) = some kind
  others
    : ∀ scheduler queue,
        world.schedulers[scheduler]? = some (.manual queue)
        → scheduler ≠ attempt.scheduler
        → ∀ retry ∈ queue, retry.2 ≠ attempt.number
  asleep : (world.agenda.tasks.filter (isRetryOf attempt.number)).Perm asleep

namespace Stands

/-- A live coordinator goes through its attempt alive. -/
theorem live (stands : Stands attempt kind asleep cycles world)
    (alive : attempt.first.alive = true)
    : world.live? attempt.number = some (attempt.after cycles) := by
  refine live?_eq_some_iff.mpr ⟨stands.there, ?_⟩
  exact (Coordinator.afterCycles_fixed attempt.first attempt.registry cycles).1.trans alive

/-- The coordinator stays on its scheduler. -/
theorem scheduler_after (attempt : Attempt) (cycles : Nat)
    : (attempt.after cycles).scheduler = attempt.scheduler :=
  (Coordinator.afterCycles_fixed attempt.first attempt.registry cycles).2

theorem kept (stands : Stands attempt kind asleep cycles world)
    : world.kept attempt.number = kind.keeps attempt.number + asleep.length := by
  obtain ⟨whole, there, own⟩ := Option.map_eq_some_iff.mp stands.own
  have counted := total_set (Scheduler.keeps attempt.number) .inline there
  have nothing
      : total (Scheduler.keeps attempt.number)
          (world.schedulers.set attempt.scheduler .inline) = 0 := by
    rw [total_eq_zero_iff]
    intro other member
    obtain ⟨scheduler, inside, found⟩ := List.mem_iff_getElem.mp member
    have found := (List.getElem?_eq_getElem inside).trans (congrArg some found)
    by_cases same : attempt.scheduler = scheduler
    · rw [same, List.getElem?_set_self (by simpa using inside)] at found
      rw [← Option.some.inj found]
      rfl
    · rw [List.getElem?_set_ne same] at found
      cases other with
      | manual queue =>
          apply List.countP_eq_zero.mpr
          intro retry member
          simpa using stands.others scheduler queue found (Ne.symm same) retry member
      | inline | timed => rfl
  have onAgenda : world.agenda.tasks.countP (isRetryOf attempt.number) = asleep.length := by
    rw [List.countP_eq_length_filter]
    exact stands.asleep.length_eq
  rw [← own, Scheduler.keeps_ofOne]
  rw [nothing, Scheduler.keeps] at counted
  simp only [World.kept, onAgenda]
  omega

-----------------------------------------------------------------------------------------
-- What others do
-----------------------------------------------------------------------------------------

theorem note (stands : Stands attempt kind asleep cycles world) (about : Option Nat)
    (notices : List Notice)
    : Stands attempt kind asleep cycles (world.note about notices) :=
  { stands with }

theorem put_other (stands : Stands attempt kind asleep cycles world) {other : Nat}
    (ne : other ≠ attempt.number) (coordinator : Coordinator)
    : Stands attempt kind asleep cycles (world.put other coordinator) :=
  { stands with
    there := (coordinator?_put_of_ne world coordinator (Ne.symm ne)).trans stands.there }

/-- Another queue on some other scheduler does not matter, if nothing of the attempt is put there.
-/
theorem requeue_other (stands : Stands attempt kind asleep cycles world) {scheduler : Nat}
    (ne : scheduler ≠ attempt.scheduler) {queue : List (Span × Nat)}
    (foreign : ∀ retry ∈ queue, retry.2 ≠ attempt.number)
    : Stands attempt kind asleep cycles
        { world with schedulers := world.schedulers.set scheduler (.manual queue) } :=
  { stands with
    own := by
      dsimp only
      rw [List.getElem?_set_ne ne]
      exact stands.own
    others := by
      intro other others there apart
      dsimp only at there
      by_cases same : scheduler = other
      · subst same
        rw [List.getElem?_set] at there
        simp only [↓reduceIte] at there
        split at there
        · obtain rfl := Scheduler.manual.inj (Option.some.inj there)
          exact foreign
        · simp at there
      · rw [List.getElem?_set_ne same] at there
        exact stands.others other others there apart }

/-- Another queue on the scheduler of the attempt is what there is of it then. -/
theorem requeue (stands : Stands attempt kind asleep cycles world) {old : List (Span × Nat)}
    (there : world.schedulers[attempt.scheduler]? = some (.manual old))
    (queue : List (Span × Nat))
    : Stands attempt (.manual (queue.filter (·.2 = attempt.number))) asleep cycles
        { world with
          schedulers := world.schedulers.set attempt.scheduler (.manual queue) } :=
  { stands with
    own := by
      obtain ⟨inside, -⟩ := List.getElem?_eq_some_iff.mp there
      dsimp only
      rw [List.getElem?_set_self inside]
      rfl
    others := by
      intro other others found apart
      dsimp only at found
      rw [List.getElem?_set_ne (Ne.symm apart)] at found
      exact stands.others other others found apart }

theorem withAgenda (stands : Stands attempt kind asleep cycles world) {agenda : Agenda Task}
    {rest : List (Posting Task)} (orderly : agenda.Orderly)
    (queues : agenda.queues.length = world.agenda.queues.length)
    (retries : ∀ posting ∈ agenda.waiting, ∃ other, posting.task = .retry other)
    (asleep : (agenda.tasks.filter (isRetryOf attempt.number)).Perm rest)
    : Stands attempt kind rest cycles { world with agenda } :=
  { stands with orderly, retries, asleep, queue := queues ▸ stands.queue }

/-- A retry that is posted on a timed scheduler is one more task, the attempt's or not. -/
theorem post_timed (stands : Stands attempt kind asleep cycles world) {scheduler : Nat}
    (timed : world.schedulers[scheduler]? = some .timed)
    (inside : scheduler < world.agenda.queues.length) (delay : Span) (number : Nat)
    : ∃ posting : Posting Task,
        posting.due = world.agenda.dueAfter delay.ticks
        ∧ Stands attempt kind (if number = attempt.number then posting :: asleep else asleep) cycles
            (world.post scheduler delay number) := by
  have found := List.getElem?_eq_getElem inside
  refine ⟨world.agenda.newPosting scheduler world.agenda.queues[scheduler] delay.ticks
    (.retry number), rfl, ?_⟩
  simp only [World.post, timed]
  apply note
  refine stands.withAgenda (stands.orderly.post _ _ _) (Agenda.length_queues_post _ _ _ _) ?_ ?_
  · intro posting member
    rcases (Agenda.mem_waiting_post_iff found).mp member with rfl | old
    · exact ⟨number, rfl⟩
    · exact stands.retries posting old
  · have perm := (Agenda.tasks_post_perm found delay.ticks (Task.retry number)).filter
      (isRetryOf attempt.number)
    refine perm.trans ?_
    rw [List.filter_cons]
    by_cases mine : number = attempt.number
    · simp only [isRetryOf, mine, decide_true, ↓reduceIte]
      exact stands.asleep.cons _
    · simp only [isRetryOf, mine, Task.retry.injEq, decide_false, Bool.false_eq_true, ↓reduceIte]
      exact stands.asleep

theorem post_other (stands : Stands attempt kind asleep cycles world) {other : Nat}
    (ne : other ≠ attempt.number) (scheduler : Nat) (delay : Span)
    : Stands attempt kind asleep cycles (world.post scheduler delay other) := by
  cases there : world.schedulers[scheduler]? with
  | none => simpa only [World.post, there] using stands
  | some found =>
      cases found with
      | manual queue =>
          simp only [World.post, there]
          by_cases own : scheduler = attempt.scheduler
          · subst own
            have kept := stands.requeue there (queue ++ [(delay, other)])
            have same : kind = .manual (queue.filter (·.2 = attempt.number)) := by
              have own := stands.own
              rw [there] at own
              exact (Option.some.inj own).symm
            rw [same]
            simpa [ne] using kept
          · apply stands.requeue_other own
            intro retry member
            rcases List.mem_append.mp member with old | new
            · exact stands.others scheduler queue there own retry old
            · rw [List.mem_singleton.mp new]
              exact ne
      | inline => simpa only [World.post, there] using stands
      | timed =>
          by_cases inside : scheduler < world.agenda.queues.length
          · obtain ⟨posting, -, posted⟩ := stands.post_timed there inside delay other
            rwa [if_neg ne] at posted
          · have nowhere : world.agenda.queues[scheduler]? = none :=
              List.getElem?_eq_none (Nat.le_of_not_lt inside)
            simp only [World.post, there, Agenda.post, nowhere]
            exact stands.note _ _

/-- Whatever another coordinator decides leaves the attempt where it stands. -/
theorem attempt_other (stands : Stands attempt kind asleep cycles world) {other : Nat}
    (ne : other ≠ attempt.number)
    : Stands attempt kind asleep cycles (world.attempt other) := by
  refine attempt_keeps ?_ ?_ stands
  · intro world stands cycle
    exact (stands.put_other ne cycle.after).note _ _
  · intro world stands scheduler delay
    exact stands.post_other ne scheduler delay

theorem attempts_other (stands : Stands attempt kind asleep cycles world)
    (queue : List (Span × Nat)) (foreign : ∀ retry ∈ queue, retry.2 ≠ attempt.number)
    : Stands attempt kind asleep cycles
        (queue.foldl (fun world retry => world.attempt retry.2) world) := by
  induction queue generalizing world with
  | nil => exact stands
  | cons retry rest ih =>
      apply ih (stands.attempt_other (foreign retry List.mem_cons_self))
      intro other member
      exact foreign other (List.mem_cons_of_mem _ member)

-----------------------------------------------------------------------------------------
-- How time passes
-----------------------------------------------------------------------------------------

theorem moveTo (stands : Stands attempt kind asleep cycles world)
    (line : world.agenda.ready = []) {time : Nat}
    (early : ∀ posting ∈ world.agenda.sleepers, time ≤ posting.due)
    : Stands attempt kind asleep cycles (world.moveTo time) := by
  refine stands.withAgenda (stands.orderly.clock line early) rfl ?_ ?_
  · rw [Agenda.waiting_moveTo]
    exact stands.retries
  · rw [Agenda.tasks_moveTo]
    exact stands.asleep

/-- Whatever wakes leaves the attempt where it stands, but for a retry of its own, which is tried
again at its due time.
-/
theorem wake (stands : Stands attempt kind asleep cycles world) {before : Nat}
    (woken : world.wake? before = some after)
    : Stands attempt kind asleep cycles after
      ∨ ∃ (posting : Posting Task) (rest : List (Posting Task)) (taken : World),
          asleep.Perm (posting :: rest)
          ∧ Stands attempt kind rest cycles taken
          ∧ taken.schedulers = world.schedulers
          ∧ taken.agenda.now = posting.due
          ∧ after = taken.attempt attempt.number := by
  obtain ⟨⟨task, agenda⟩, next, rfl⟩ := Option.map_eq_some_iff.mp woken
  rcases Agenda.wake?_cases next with turn | ⟨rfl, line, due, first, -, rfl⟩
  · have orderly := stands.orderly.turn turn
    have retries : ∀ posting ∈ agenda.waiting, ∃ other, posting.task = .retry other :=
      fun posting member => stands.retries posting (turn.waiting_subset posting member)
    cases task with
    | none =>
        obtain ⟨ran, tasks, perm⟩ := turn.tasks_perm
        obtain rfl := List.map_eq_nil_iff.mp tasks
        have same := (perm.filter (isRetryOf attempt.number)).symm.trans stands.asleep
        exact .inl (stands.withAgenda orderly turn.length_queues retries same)
    | some task =>
        obtain ⟨posting, rfl, due, perm⟩ := stands.orderly.runs turn
        obtain ⟨number, isRetry⟩ : ∃ other, posting.task = .retry other := by
          have member : posting ∈ world.agenda.tasks := perm.mem_iff.mpr List.mem_cons_self
          exact stands.retries posting (List.mem_filter.mp member).1
        have split := (perm.filter (isRetryOf attempt.number)).symm.trans stands.asleep
        rw [List.filter_cons] at split
        simp only [isRetryOf, isRetry, Task.retry.injEq, decide_eq_true_eq] at split
        rw [isRetry]
        by_cases mine : number = attempt.number
        · subst mine
          rw [if_pos rfl] at split
          refine .inr ⟨posting, _, { world with agenda }, split.symm, ?_, rfl, ?_, rfl⟩
          · exact stands.withAgenda orderly turn.length_queues retries .rfl
          · exact turn.now.trans due.symm
        · rw [if_neg mine] at split
          have taken := stands.withAgenda orderly turn.length_queues retries split
          exact .inl (taken.attempt_other mine)
  · exact .inl (stands.moveTo line (stands.orderly.next first))

/-- When nobody is due before a time any more, nothing of the attempt is, either. -/
theorem later (stands : Stands attempt kind asleep cycles (world.runBefore time))
    : (world.runBefore time).agenda.ready = []
      ∧ (∀ posting ∈ (world.runBefore time).agenda.sleepers, time ≤ posting.due)
      ∧ ∀ posting ∈ asleep, time ≤ posting.due := by
  have rests := Option.map_eq_none_iff.mp (world.wake?_runBefore time)
  obtain ⟨line, early⟩ := stands.orderly.nobody rests
  refine ⟨line, early, ?_⟩
  intro posting member
  have task := List.mem_filter.mp (stands.asleep.mem_iff.mpr member)
  have waits := (List.mem_filter.mp task.1).1
  rw [line, List.nil_append] at waits
  exact early posting waits

-----------------------------------------------------------------------------------------
-- The next cycle of the attempt
-----------------------------------------------------------------------------------------

theorem timed (stands : Stands attempt .timed asleep cycles world)
    : world.schedulers[attempt.scheduler]? = some .timed := by
  obtain ⟨found, there, own⟩ := Option.map_eq_some_iff.mp stands.own
  cases found with
  | manual queue | inline => cases own
  | timed => exact there

theorem inline (stands : Stands attempt .inline asleep cycles world)
    : world.schedulers[attempt.scheduler]? = some .inline := by
  obtain ⟨found, there, own⟩ := Option.map_eq_some_iff.mp stands.own
  cases found with
  | manual queue | timed => cases own
  | inline => exact there

theorem manual {own : List (Span × Nat)} (stands : Stands attempt (.manual own) asleep cycles world)
    : ∃ queue,
        world.schedulers[attempt.scheduler]? = some (.manual queue)
        ∧ queue.filter (·.2 = attempt.number) = own := by
  obtain ⟨found, there, same⟩ := Option.map_eq_some_iff.mp stands.own
  cases found with
  | manual queue => exact ⟨queue, there, Scheduler.manual.inj same⟩
  | inline | timed => cases same

/-- An attempt of the coordinator that is not on an inline scheduler is the next cycle. It leaves
the agenda and the schedulers alone, but for one retry that is posted if it was not the last cycle.
-/
theorem next (stands : Stands attempt kind asleep cycles world)
    (alive : attempt.first.alive = true)
    (kept : world.schedulers[attempt.scheduler]? ≠ some .inline) (within : cycles ≤ attempt.last)
    : ∃ recorded : World,
        Stands attempt kind asleep (cycles + 1) recorded
        ∧ recorded.agenda = world.agenda
        ∧ recorded.schedulers = world.schedulers
        ∧ world.attempt attempt.number
          = if cycles < attempt.last then
              recorded.post attempt.scheduler attempt.delay attempt.number
            else recorded := by
  have live := stands.live alive
  have cycled := attempt_of_kept live (by rwa [scheduler_after])
  rw [scheduler_after, stands.registry] at cycled
  refine ⟨world.recorded attempt.number ((attempt.after cycles).cycle attempt.registry), ?_,
    rfl, rfl, ?_⟩
  · exact { stands with there := coordinator?_put_self stands.there _ }
  · rw [cycled]
    split
    · rename_i early
      have putOff : attempt.first.PutOff attempt.registry cycles (attempt.after cycles) :=
        Coordinator.putOff_afterCycles within
      exact cycled_of_reschedule (putOff.again early).1
    · rename_i late
      obtain rfl : cycles = attempt.last := Nat.le_antisymm within (Nat.le_of_not_lt late)
      exact cycled_of_settled (Coordinator.cycle_last attempt.first attempt.registry).1

theorem next_timed (stands : Stands attempt .timed [] cycles world)
    (alive : attempt.first.alive = true) (within : cycles ≤ attempt.last)
    : ∃ asleep : List (Posting Task),
        asleep.map (·.due)
          = (if cycles < attempt.last then [world.agenda.dueAfter attempt.delay.ticks] else [])
        ∧ Stands attempt .timed asleep (cycles + 1) (world.attempt attempt.number) := by
  obtain ⟨recorded, next, agenda, schedulers, eq⟩ :=
    stands.next alive (by simp [stands.timed]) within
  rw [eq]
  by_cases early : cycles < attempt.last
  · rw [if_pos early, if_pos early, ← agenda]
    obtain ⟨posting, due, posted⟩ :=
      next.post_timed next.timed next.queue attempt.delay attempt.number
    rw [if_pos rfl] at posted
    exact ⟨[posting], by simp [due], posted⟩
  · rw [if_neg early, if_neg early]
    exact ⟨[], rfl, next⟩

theorem next_manual {own : List (Span × Nat)}
    (stands : Stands attempt (.manual own) asleep cycles world)
    (alive : attempt.first.alive = true) (within : cycles ≤ attempt.last)
    : Stands attempt
        (.manual (own ++ if cycles < attempt.last then [(attempt.delay, attempt.number)] else []))
        asleep (cycles + 1) (world.attempt attempt.number) := by
  obtain ⟨queue, there, same⟩ := stands.manual
  obtain ⟨recorded, next, agenda, schedulers, eq⟩ := stands.next alive (by simp [there]) within
  rw [eq]
  by_cases early : cycles < attempt.last
  · rw [if_pos early, if_pos early]
    rw [← schedulers] at there
    have posted := next.requeue there (queue ++ [(attempt.delay, attempt.number)])
    simpa [World.post, there, same] using posted
  · rwa [if_neg early, if_neg early, List.append_nil]

/-- On an inline scheduler an attempt is over when it returns. -/
theorem next_inline (stands : Stands attempt .inline asleep 0 world)
    (alive : attempt.first.alive = true)
    : Stands attempt .inline asleep (attempt.last + 1) (world.attempt attempt.number) := by
  have live := stands.live alive
  have whole : ((attempt.after 0).runThrough world.registry).2
      = attempt.after (attempt.last + 1) := by
    rw [stands.registry]
    exact Coordinator.runThrough_afterCycles (Nat.zero_le _)
  rw [attempt_of_inline live stands.inline, whole]
  apply note
  exact { stands with there := coordinator?_put_self stands.there _ }

end Stands

end World

end UpdaterLaunch
