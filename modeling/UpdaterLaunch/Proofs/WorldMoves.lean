import UpdaterLaunch.World.Request

/-! What moves a world on. A run is any sequence of requests, turns of the line and steps of the
clock; a step of the world is a request with all that is due after it. An attempt is a row of
decision cycles, of which all but the last are those that an inline scheduler runs at once.
-/

namespace UpdaterLaunch

namespace World

/-- What moves a world on: a request by itself, everything that is due by now, the turn of whoever
is first in line, or the clock.
-/
inductive Move
  | request (request : Request)
  | settle
  | turn
  | clock (time : Nat)

/-- The world after a move. A turn that nobody waits for changes nothing. -/
def move (world : World) : Move → World
  | .request request => (world.handle request).2
  | .settle => world.settle
  | .turn => world.turn?.getD world
  | .clock time => world.moveTo time

/-- The world after a run. -/
def after (world : World) (moves : List Move) : World := moves.foldl move world

/-- A step of the world is a request followed by everything that is due after it. -/
theorem step_eq_after (world : World) (request : Request)
    : (world.step request).2 = world.after [.request request, .settle] :=
  rfl

/-- A run in two parts is the second part after the first. -/
theorem after_append (world : World) (moves more : List Move)
    : world.after (moves ++ more) = (world.after moves).after more :=
  List.foldl_append

/-- So any number of steps of the world is a run, by induction. -/
theorem foldl_step_eq_after (world : World) (requests : List Request)
    : requests.foldl (fun world request => (world.step request).2) world
      = world.after (requests.flatMap fun request => [.request request, .settle]) := by
  induction requests generalizing world with
  | nil => rfl
  | cons request rest ih =>
      rw [List.foldl_cons, ih, step_eq_after, ← after_append]
      rfl

/-- To fire a manual scheduler fires all that it keeps. -/
theorem handle_fire {world : World} {scheduler : Nat} {queue : List (Span × Nat)}
    (there : world.schedulers[scheduler]? = some (.manual queue))
    : world.handle (.fire scheduler) = (.number queue.length, world.fire scheduler queue) := by
  simp only [handle, there]

/-- To fire a place of a manual scheduler that is taken makes the attempt that was put off there. -/
theorem handle_fireAt_of_some {world : World} {scheduler index : Nat}
    {queue : List (Span × Nat)} {retry : Span × Nat}
    (there : world.schedulers[scheduler]? = some (.manual queue))
    (found : queue[index]? = some retry)
    : world.handle (.fireAt scheduler index)
      = (.number 1,
          { world with
            schedulers := world.schedulers.set scheduler (.manual (queue.eraseIdx index)) }.attempt
            retry.2) := by
  simp only [handle, there, fireAt, found]

/-- To fire a place that is not taken does nothing. -/
theorem handle_fireAt_of_none {world : World} {scheduler index : Nat}
    {queue : List (Span × Nat)} (there : world.schedulers[scheduler]? = some (.manual queue))
    (beyond : queue[index]? = none)
    : world.handle (.fireAt scheduler index) = (.number 0, world) := by
  simp only [handle, there, fireAt, beyond]

/-- A coordinator that was there is replaced. -/
theorem coordinator?_put_self {world : World} {number : Nat} {old : Coordinator}
    (there : world.coordinator? number = some old) (new : Coordinator)
    : (world.put number new).coordinator? number = some new := by
  have entry : world.coordinators[number]? = some (some old) := Option.join_eq_some_iff.mp there
  obtain ⟨inside, -⟩ := List.getElem?_eq_some_iff.mp entry
  simp only [coordinator?, put, List.getElem?_set_self inside, Option.join_some]

/-- No other coordinator is touched when one is replaced. -/
theorem coordinator?_put_of_ne (world : World) {number other : Nat} (new : Coordinator)
    (ne : other ≠ number)
    : (world.put number new).coordinator? other = world.coordinator? other := by
  simp only [coordinator?, put, List.getElem?_set_ne ne.symm]

/-- A live coordinator is there and was not dropped. -/
theorem live?_eq_some_iff {world : World} {number : Nat} {coordinator : Coordinator}
    : world.live? number = some coordinator
      ↔ world.coordinator? number = some coordinator ∧ coordinator.alive = true :=
  Option.filter_eq_some_iff

/-- Posting touches no coordinator. -/
@[simp]
theorem coordinators_post (world : World) (scheduler : Nat) (delay : Span) (number : Nat)
    : (world.post scheduler delay number).coordinators = world.coordinators := by
  unfold post
  split <;> rfl

/-- An inline scheduler keeps nothing that is posted. -/
theorem post_of_inline {world : World} {scheduler : Nat}
    (inline : world.schedulers[scheduler]? = some .inline) (delay : Span) (number : Nat)
    : world.post scheduler delay number = world := by
  simp only [post, inline]

/-- A timed scheduler keeps what is posted on the agenda, and nothing else changes but the log. -/
theorem post_of_timed {world : World} {scheduler : Nat}
    (timed : world.schedulers[scheduler]? = some .timed) (delay : Span) (number : Nat)
    : (world.post scheduler delay number).schedulers = world.schedulers
      ∧ (world.post scheduler delay number).agenda
        = world.agenda.post scheduler delay.ticks (.retry number) := by
  simp only [post, timed]
  exact ⟨rfl, rfl⟩

/-- Posting touches no package. -/
@[simp]
theorem registry_post (world : World) (scheduler : Nat) (delay : Span) (number : Nat)
    : (world.post scheduler delay number).registry = world.registry := by
  unfold post
  split <;> rfl

/-- The lines that a cancel on a timed scheduler puts into the log. -/
def cancelNotices (world : World) (scheduler : Nat) : List Notice :=
  match world.agenda.pending scheduler with
  | 0 => []
  | count + 1 => [.retriesCancelled (count + 1)]

/-- Cancelling on a timed scheduler silences what is posted there and leaves its line. -/
theorem cancel_of_timed {world : World} {scheduler : Nat}
    (timed : world.schedulers[scheduler]? = some .timed) (about : Option Nat)
    : world.cancel scheduler about
      = ({ world with agenda := world.agenda.cancel scheduler } : World).note about
          (world.cancelNotices scheduler) := by
  cases count : world.agenda.pending scheduler with
  | zero =>
      simp only [cancel, timed, cancelNotices, count]
      rfl
  | succ count' => simp only [cancel, timed, cancelNotices, count]

/-- What holds now, with a manual queue emptied, and with a timed one silenced, holds after a
cancel, whatever the kind of the scheduler.
-/
theorem cancel_keeps {P : World → Prop} {world : World} {scheduler : Nat} {about : Option Nat}
    (same : P world)
    (emptied : P { world with schedulers := world.schedulers.set scheduler (.manual []) })
    (silenced
      : P (({ world with agenda := world.agenda.cancel scheduler } : World).note about
          (world.cancelNotices scheduler)))
    : P (world.cancel scheduler about) := by
  cases there : world.schedulers[scheduler]? with
  | none => simpa only [cancel, there] using same
  | some kind =>
      cases kind with
      | manual queue => simpa only [cancel, there] using emptied
      | inline => simpa only [cancel, there] using same
      | timed =>
          rw [cancel_of_timed there]
          exact silenced

/-- Cancelling touches no coordinator. -/
@[simp]
theorem coordinators_cancel (world : World) (scheduler : Nat) (about : Option Nat)
    : (world.cancel scheduler about).coordinators = world.coordinators :=
  cancel_keeps (P := fun after => after.coordinators = world.coordinators) rfl rfl rfl

-----------------------------------------------------------------------------------------
-- An attempt is a row of decision cycles
-----------------------------------------------------------------------------------------

/-- The world in which a cycle has changed its coordinator and left its lines in the log. -/
def recorded (world : World) (number : Nat) (cycle : Coordinator.Cycle) : World :=
  (world.put number cycle.after).note (some number) cycle.notices

/-- The world after one decision cycle of a coordinator: the cycle is recorded, and a launch that
was put off is posted once, for the delay that was decided.
-/
def cycled (world : World) (number scheduler : Nat) (cycle : Coordinator.Cycle) : World :=
  match cycle.decision with
  | .reschedule delay => (world.recorded number cycle).post scheduler delay number
  | _ => world.recorded number cycle

/-- What holds once a cycle is recorded, and also if a retry is posted then, holds after the
cycle.
-/
theorem cycled_keeps {P : World → Prop} {world : World} {number scheduler : Nat}
    {cycle : Coordinator.Cycle} (recorded : P (world.recorded number cycle))
    (posted : ∀ delay, P ((world.recorded number cycle).post scheduler delay number))
    : P (world.cycled number scheduler cycle) := by
  unfold cycled
  split
  · exact posted _
  · exact recorded

/-- A cycle that puts the launch off posts a retry. -/
theorem cycled_of_reschedule {world : World} {number scheduler : Nat} {cycle : Coordinator.Cycle}
    {delay : Span} (putOff : cycle.decision = .reschedule delay)
    : world.cycled number scheduler cycle
      = (world.recorded number cycle).post scheduler delay number := by
  simp only [cycled, putOff]

/-- A cycle that does not put the launch off posts nothing. -/
theorem cycled_of_settled {world : World} {number scheduler : Nat} {cycle : Coordinator.Cycle}
    (settled : ∀ delay, cycle.decision ≠ .reschedule delay)
    : world.cycled number scheduler cycle = world.recorded number cycle := by
  unfold cycled
  split
  · rename_i delay putOff
    exact absurd putOff (settled delay)
  · rfl

/-- A cycle changes one coordinator and no other. -/
theorem coordinators_cycled (world : World) (number scheduler : Nat) (cycle : Coordinator.Cycle)
    : (world.cycled number scheduler cycle).coordinators
      = (world.put number cycle.after).coordinators :=
  cycled_keeps (P := fun after => after.coordinators = (world.put number cycle.after).coordinators)
    rfl fun _ => coordinators_post _ _ _ _

/-- A cycle leaves the packages alone. -/
theorem registry_cycled (world : World) (number scheduler : Nat) (cycle : Coordinator.Cycle)
    : (world.cycled number scheduler cycle).registry = world.registry :=
  cycled_keeps (P := fun after => after.registry = world.registry) rfl
    fun _ => registry_post _ _ _ _

/-- A cycle ends neither its coordinator nor changes what that is made of. -/
theorem cycle_after_fixed (coordinator : Coordinator) (registry : Registry)
    : (coordinator.cycle registry).after.alive = coordinator.alive
      ∧ (coordinator.cycle registry).after.scheduler = coordinator.scheduler := by
  unfold Coordinator.cycle
  dsimp only
  split <;> exact ⟨rfl, rfl⟩

/-- A live coordinator lives on after its cycle. -/
theorem live?_cycled {world : World} {number : Nat} {coordinator : Coordinator}
    (live : world.live? number = some coordinator)
    : (world.cycled number coordinator.scheduler (coordinator.cycle world.registry)).live? number
      = some (coordinator.cycle world.registry).after := by
  obtain ⟨there, alive⟩ := live?_eq_some_iff.mp live
  refine live?_eq_some_iff.mpr ⟨?_, ?_⟩
  · have replaced := coordinator?_put_self there (coordinator.cycle world.registry).after
    simpa only [coordinator?, coordinators_cycled] using replaced
  · rw [(cycle_after_fixed coordinator world.registry).1, alive]

/-- Replacing a coordinator twice, with lines logged each time, is replacing it once with all the
lines.
-/
theorem put_note_put_note (world : World) (number : Nat) (first second : Coordinator)
    (earlier later : List Notice)
    : (((world.put number first).note (some number) earlier).put number second).note
        (some number) later
      = (world.put number second).note (some number) (earlier ++ later) := by
  simp only [put, note, List.set_set, List.map_append, List.reverse_append, List.append_assoc]

/-- Running through is one cycle if that does not put the launch off. -/
theorem runThrough_of_settled {coordinator : Coordinator} {registry : Registry}
    (settled : ∀ delay, (coordinator.cycle registry).decision ≠ .reschedule delay)
    : coordinator.runThrough registry
      = ((coordinator.cycle registry).notices, (coordinator.cycle registry).after) := by
  rw [Coordinator.runThrough]
  split
  · rename_i delay put
    exact absurd put (settled delay)
  · rfl

/-- If a cycle puts the launch off, running through goes on with the next cycle. -/
theorem runThrough_of_reschedule {coordinator : Coordinator} {registry : Registry} {delay : Span}
    (put : (coordinator.cycle registry).decision = .reschedule delay)
    : coordinator.runThrough registry
      = ((coordinator.cycle registry).notices
            ++ ((coordinator.cycle registry).after.runThrough registry).1,
          ((coordinator.cycle registry).after.runThrough registry).2) := by
  rw [Coordinator.runThrough]
  split
  · rfl
  · rename_i settled
    exact absurd put (settled delay)

/-- An attempt is one cycle, unless an inline scheduler is asked for a retry. -/
theorem attempt_eq_cycled {world : World} {number : Nat} {coordinator : Coordinator}
    (live : world.live? number = some coordinator)
    (settled
      : world.schedulers[coordinator.scheduler]? = some .inline
        → ∀ delay, (coordinator.cycle world.registry).decision ≠ .reschedule delay)
    : world.attempt number
      = world.cycled number coordinator.scheduler (coordinator.cycle world.registry) := by
  unfold attempt
  rw [live]
  dsimp only
  split
  · rename_i inline
    rw [runThrough_of_settled (settled inline), cycled_of_settled (settled inline)]
    rfl
  · rfl

/-- An inline scheduler that is asked for a retry makes the next attempt within the call. -/
theorem attempt_eq_attempt_cycled {world : World} {number : Nat} {coordinator : Coordinator}
    {delay : Span} (live : world.live? number = some coordinator)
    (inline : world.schedulers[coordinator.scheduler]? = some .inline)
    (put : (coordinator.cycle world.registry).decision = .reschedule delay)
    : world.attempt number
      = (world.cycled number coordinator.scheduler
          (coordinator.cycle world.registry)).attempt number := by
  have next := live?_cycled live
  have posted
      : world.cycled number coordinator.scheduler (coordinator.cycle world.registry)
        = world.recorded number (coordinator.cycle world.registry) := by
    have stays
        : (world.recorded number (coordinator.cycle world.registry)).schedulers[
            coordinator.scheduler]?
          = some .inline := inline
    rw [cycled_of_reschedule put, post_of_inline stays]
  have again
      : (world.cycled number coordinator.scheduler
          (coordinator.cycle world.registry)).schedulers[
            (coordinator.cycle world.registry).after.scheduler]?
        = some .inline := by
    rw [(cycle_after_fixed coordinator world.registry).2, posted]
    exact inline
  unfold attempt
  rw [live, next]
  dsimp only
  rw [inline, again, registry_cycled, posted, runThrough_of_reschedule put]
  -- the lines of the first cycle and of the rest are in the log as those of one attempt
  exact (put_note_put_note _ _ _ _ _ _).symm

/-- What holds of the last cycle of an attempt, and of an attempt if it holds of the rest after the
first cycle, holds of every attempt. By induction on the retries that are left, of which each
cycle but the last spends one.
-/
theorem attempt_induction {number : Nat} {P : World → World → Prop}
    (last
      : ∀ world coordinator,
          world.live? number = some coordinator
          → (world.schedulers[coordinator.scheduler]? = some .inline
              → ∀ delay, (coordinator.cycle world.registry).decision ≠ .reschedule delay)
          → P world
              (world.cycled number coordinator.scheduler (coordinator.cycle world.registry)))
    (more
      : ∀ world coordinator delay after,
          world.live? number = some coordinator
          → world.schedulers[coordinator.scheduler]? = some .inline
          → (coordinator.cycle world.registry).decision = .reschedule delay
          → P (world.cycled number coordinator.scheduler (coordinator.cycle world.registry)) after
          → P world after)
    {world : World} {coordinator : Coordinator}
    (live : world.live? number = some coordinator)
    : P world (world.attempt number) := by
  generalize bound : coordinator.launchesLeft = left
  induction left using Nat.strongRecOn generalizing world coordinator with
  | ind left ih =>
      by_cases goesOn
          : world.schedulers[coordinator.scheduler]? = some .inline
            ∧ ∃ delay, (coordinator.cycle world.registry).decision = .reschedule delay
      -- an inline scheduler makes the next attempt at once, with one retry less in the budget
      · obtain ⟨inline, delay, put⟩ := goesOn
        have spent := Coordinator.launchesLeft_cycle_of_reschedule put
        rw [attempt_eq_attempt_cycled live inline put]
        refine more world coordinator delay _ live inline put ?_
        exact ih _ (by omega) (live?_cycled live) rfl
      · have settled
            : world.schedulers[coordinator.scheduler]? = some .inline
              → ∀ delay, (coordinator.cycle world.registry).decision ≠ .reschedule delay :=
          fun inline delay put => goesOn ⟨inline, delay, put⟩
        rw [attempt_eq_cycled live settled]
        exact last world coordinator live settled

/-- What recording cycles and posting retries of a coordinator keep, its attempts keep, by induction
on the cycles that an inline scheduler runs at once.
-/
theorem attempt_keeps {number : Nat} {P : World → Prop} {world : World}
    (recorded : ∀ {world}, P world → ∀ cycle, P (world.recorded number cycle))
    (posted : ∀ {world}, P world → ∀ scheduler delay, P (world.post scheduler delay number))
    (holds : P world)
    : P (world.attempt number) := by
  have cycled {world : World} (holds : P world) (scheduler : Nat) (cycle : Coordinator.Cycle)
      : P (world.cycled number scheduler cycle) :=
    cycled_keeps (recorded holds cycle) fun delay => posted (recorded holds cycle) scheduler delay
  cases live : world.live? number with
  | none => simpa only [attempt, live] using holds
  | some coordinator =>
      refine attempt_induction (P := fun before after => P before → P after) ?_ ?_ live holds
      · exact fun world coordinator _ _ holds => cycled holds _ _
      · exact fun world coordinator _ after _ _ _ rest holds => rest (cycled holds _ _)

end World

end UpdaterLaunch
