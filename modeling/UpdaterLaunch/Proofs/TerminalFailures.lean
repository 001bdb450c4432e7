import UpdaterLaunch.Proofs.Broadcasts
import UpdaterLaunch.Proofs.RelievedRuns

/-! When the failure of a coordinator is final. A coordinator that has its scheduler for itself owes
an event to every attempt that it is asked for. Once it has paid them all, nothing of it is pending:
there is nothing to stop, and nothing more happens unless it is asked again. A failure before that
is not final, as the other attempts still have their retries.
-/

namespace UpdaterLaunch

/-- Nothing is taken from a scheduler if nobody is gone. -/
theorem Scheduler.without_nobody : Scheduler.without (fun _ => false) = id := by
  funext kind
  cases kind <;> simp [Scheduler.without]

theorem Task.isOf_nobody : Task.isOf (fun _ => false) = fun _ => false := by
  funext task
  cases task <;> rfl

namespace World

variable {world : World} {number scheduler : Nat}

-----------------------------------------------------------------------------------------
-- Events that are owed
-----------------------------------------------------------------------------------------

/-- The events of a course are told in the log, by induction on the course. -/
theorem Course.emitted {steady : Prop} {cycles : List Coordinator.Cycle} {last : World}
    (course : Course steady number world cycles last)
    : last.emitted number = world.emitted number ++ cycles.filterMap (·.event?) := by
  induction course with
  | start => simp
  | rest _ rests ih => simpa only [World.emitted, rests.lines] using ih
  | @cycle cycles before coordinator cycle _ live opened performs ih =>
      have told : (before.cycled number coordinator.scheduler cycle).emitted number
          = before.emitted number ++ cycle.event?.toList := by
        simp only [World.emitted, cycleLines_cycled _ _ _ performs.isOfCycle,
          List.filterMap_append, emitted_notices performs]
      rw [told, ih, List.filterMap_append]
      cases event : cycle.event? <;> simp [event]

-----------------------------------------------------------------------------------------
-- Stopping what does not go on
-----------------------------------------------------------------------------------------

theorem InOrder.relieved_self (ordered : world.InOrder)
    : world.Relieved (fun _ => false) world := by
  refine ⟨by simp, rfl, rfl, ?_, ?_, rfl, rfl⟩
  · rw [Scheduler.without_nobody, List.map_id]
  · rw [Task.isOf_nobody]
    exact ordered.orderly.relieved_self ordered.listed.sound

/-- To stop the retries on a scheduler that has none left makes no difference. -/
theorem InOrder.relieved_stop (ordered : world.InOrder) (clear : world.isClear scheduler = true)
    (named about : Option Nat)
    : world.Relieved (fun _ => false)
        ((world.note named [.stoppingRetries]).cancel scheduler about) := by
  have self := ordered.relieved_self
  have stopping : ∀ notice ∈ [Notice.stoppingRetries], notice.isOfStop = true := by
    simp [Notice.isOfStop]
  have noted := self.note_stop named stopping
  have schedulers : (world.note named [.stoppingRetries]).schedulers = world.schedulers := rfl
  cases there : world.schedulers[scheduler]? with
  | none => simpa only [World.cancel, schedulers, there] using noted
  | some kind =>
      cases kind with
      | manual queue =>
          obtain rfl : queue = [] := by
            simpa [isClear, World.pending, there, Pending.isEmpty] using clear
          obtain ⟨inside, found⟩ := List.getElem?_eq_some_iff.mp there
          have same : world.schedulers.set scheduler (.manual []) = world.schedulers := by
            rw [← found, List.set_getElem_self]
          simp only [World.cancel, schedulers, there, same]
          exact noted
      | inline => simpa only [World.cancel, schedulers, there] using noted
      | timed =>
          have none : world.agenda.pending scheduler = 0 := by
            simpa [isClear, World.pending, there, Pending.isEmpty] using clear
          have nobody : ∀ posting ∈ world.agenda.tasks, posting.queue ≠ scheduler := by
            rw [ordered.listed.count, List.countP_eq_zero] at none
            simpa using none
          have cancelled : world.Relieved (fun _ => false)
              { world with agenda := world.agenda.cancel scheduler } := by
            refine { self with agenda := ?_ }
            rw [Task.isOf_nobody]
            exact ordered.orderly.relieved_cancel ordered.listed.sound nobody
          have there
              : (world.note named [.stoppingRetries]).schedulers[scheduler]? = some .timed := there
          rw [cancel_of_timed there]
          exact (cancelled.note_stop named stopping).note_stop about
            (Relieved.isOfStop_cancelNotices _ _)

/-- Nor does it make a difference to ask a coordinator to stop that has nothing pending. -/
theorem InOrder.abreast_stop (ordered : world.InOrder) (sole : world.Sole number scheduler)
    (clear : world.isClear scheduler = true)
    : Abreast (fun _ => false) world (world.act (.call (.command number .stop))) := by
  simp only [World.act, Act.move, World.move, Call.request, World.handle]
  cases live : world.live? number with
  | none => exact ⟨ordered.relieved_self, rfl⟩
  | some coordinator =>
      have own : coordinator.scheduler = scheduler := by
        simpa [Party.single] using sole.apart.side live
      simp only [obey, World.stopRetries, live, own]
      refine ⟨ordered.relieved_stop clear _ _, ?_⟩
      rw [now_cancel]
      rfl

/-- What schedulers have still to run is the same where nobody is gone. -/
theorem Abreast.pending {lone : World} (abreast : Abreast (fun _ => false) world lone)
    (listed : world.agenda.Listed) (listedToo : lone.agenda.Listed)
    : lone.pending = world.pending := by
  have schedulers := abreast.relieved.schedulers
  rw [Scheduler.without_nobody, List.map_id] at schedulers
  have pending (scheduler : Nat)
      : lone.agenda.pending scheduler = world.agenda.pending scheduler := by
    rw [abreast.relieved.agenda.pending listed listedToo scheduler, Task.isOf_nobody]
    simp
  simp only [World.pending, schedulers, pending]

-----------------------------------------------------------------------------------------
-- Attempts that are answered
-----------------------------------------------------------------------------------------

/-- When as many events were emitted as attempts were asked for, nothing is pending. -/
theorem Passage.kept_of_answered {steady : Prop} {called lost : Nat} {last : World}
    (passage : Passage steady number world called lost last) (none : world.kept number = 0)
    {events : List Event} (told : last.emitted number = world.emitted number ++ events)
    (answered : called ≤ events.length)
    : last.kept number = 0 := by
  obtain ⟨cycles, course, balance⟩ := passage.course
  rw [course.emitted, List.append_right_inj] at told
  have length := congrArg List.length told
  omega

/-- A coordinator of which nothing is pending. To stop it changes no answer and no state from then
on, whatever happens. And as long as it is not asked to launch again it makes no cycle, and spends
and emits nothing, however much time passes.
-/
structure Finished (number scheduler : Nat) (last : World) : Prop where
  clear : last.isClear scheduler = true
  stop
    : ∀ later : List Act,
        let stopped := last.act (.call (.command number .stop))
        stopped.replies (fun _ => true) later = last.replies (fun _ => true) later
        ∧ (stopped.acts later).pending = (last.acts later).pending
        ∧ (stopped.acts later).coordinators = (last.acts later).coordinators
        ∧ (stopped.acts later).registry = (last.acts later).registry
        ∧ (stopped.acts later).agenda.now = (last.acts later).agenda.now
  idle
    : ∀ later : List Act,
        .call (.command number .tryLaunch) ∉ later
        → (last.acts later).emitted number = last.emitted number
          ∧ (last.acts later).isClear scheduler = true
          ∧ ((last.acts later).coordinator? number).map (fun c => (c.counters, c.made))
            = (last.coordinator? number).map fun c => (c.counters, c.made)

theorem InOrder.finished (ordered : world.InOrder) (sole : world.Sole number scheduler)
    (served : world.Served number) (none : world.kept number = 0)
    : Finished number scheduler world := by
  have clear := sole.kept_eq_zero_iff.mp none
  refine ⟨clear, ?_, ?_⟩
  · intro later stopped
    have abreast : Abreast (fun _ => false) world stopped := ordered.abreast_stop sole clear
    have stays : stopped.InOrder := ordered.acts [.call (.command number .stop)]
    obtain ⟨replies, after⟩ := abreast.acts later
    obtain ⟨same, heard⟩ := relievedActs_nobody world later
    rw [same, heard] at replies
    rw [same] at after
    refine ⟨replies, ?_, after.relieved.coordinators, after.relieved.registry, after.now⟩
    exact after.pending (ordered.acts later).listed (stays.acts later).listed
  · intro later uncalled
    obtain ⟨made, idles⟩ := served.idles none
    have still : (world.acts later).Idles number made := by
      apply (lasting_idles number made).acts idles
      rintro other order member ⟨rfl, rfl⟩
      exact uncalled member
    obtain ⟨more, -, less, rest⟩ := served.acts later
    have course := idles.course still rest
    obtain ⟨before, found, -⟩ := served.coordinator
    obtain ⟨after, now, performed⟩ := course.performed found
    have clears : (world.acts later).Sole number scheduler :=
      (lasting_sole number _).acts sole fun _ _ _ => id
    refine ⟨?_, clears.kept_eq_zero_iff.mp still.kept, ?_⟩
    · simpa using course.emitted
    · have made : after.made = before.made := performed.made
      have counters : after.counters = before.counters := performed.counters
      rw [found, now, Option.map_some, Option.map_some, counters, made]

/-- A coordinator that has answered every attempt has finished, whoever is in line. Let it use its
scheduler alone, and let nothing be pending there after some acts. When later on it has emitted an
event for each attempt that it was asked for since, whichever events these are, nothing of it is
pending any more.
-/
theorem answered_is_finished {origin : World} {first : Coordinator}
    (quiet : origin.Quiet) (listed : origin.agenda.Listed) (served : origin.Served number)
    (there : origin.coordinator? number = some first)
    (unshared
      : ∀ other user,
          origin.coordinator? other = some user
          → user.scheduler = first.scheduler
          → other = number)
    {early : List Act} (clear : (origin.acts early).isClear first.scheduler = true)
    {acts : List Act} {events : List Event}
    (told
      : ((origin.acts early).acts acts).emitted number
        = (origin.acts early).emitted number ++ events)
    (answered : acts.countP (Act.isLaunchOf number) ≤ events.length)
    : Finished number first.scheduler ((origin.acts early).acts acts) := by
  have begun : (origin.acts early).Sole number first.scheduler :=
    (lasting_sole number _).acts (quiet.sole listed there unshared) fun _ _ _ => id
  have serves : (origin.acts early).Served number :=
    (lasting_served number).acts served fun _ _ _ => id
  obtain ⟨called, le, lost, passage⟩ := serves.acts acts
  have none := passage.kept_of_answered (begun.kept_eq_zero_iff.mpr clear) told
    (Nat.le_trans le answered)
  have ordered := ((quiet.settled listed).inOrder.acts early).acts acts
  exact ordered.finished ((lasting_sole number _).acts begun fun _ _ _ => id) passage.served none

-----------------------------------------------------------------------------------------
-- Failures that are final
-----------------------------------------------------------------------------------------

/-- A failure is final once every attempt has had its event. Let a coordinator use its scheduler
alone, and let nothing be pending there after some calls. When later on it has emitted an event for
each attempt that it was asked for since, the last of them a failure, then its scheduler has nothing
left. To stop it changes no answer and no state from then on, whatever is called for. And as long as
it is not asked to launch again it makes no cycle, and spends and emits nothing, however much time
passes.
-/
theorem failed_is_final {origin : World} {first : Coordinator}
    (quiet : origin.Quiet) (listed : origin.agenda.Listed) (served : origin.Served number)
    (there : origin.coordinator? number = some first)
    (unshared
      : ∀ other user,
          origin.coordinator? other = some user
          → user.scheduler = first.scheduler
          → other = number)
    {early : List Call} (clear : (origin.takes early).isClear first.scheduler = true)
    {calls : List Call} {events : List Event} {reason : Failure}
    (failed
      : ((origin.takes early).takes calls).emitted number
        = (origin.takes early).emitted number ++ events ++ [.failed reason])
    (answered : calls.countP (Call.isLaunchOf number) ≤ events.length + 1)
    : let last := (origin.takes early).takes calls
      let stopped := (last.take (.command number .stop)).2
      last.isClear first.scheduler = true
      ∧ (∀ later,
          stopped.answers (fun _ => true) later = last.answers (fun _ => true) later
          ∧ (stopped.takes later).pending = (last.takes later).pending
          ∧ (stopped.takes later).coordinators = (last.takes later).coordinators
          ∧ (stopped.takes later).registry = (last.takes later).registry
          ∧ (stopped.takes later).agenda.now = (last.takes later).agenda.now)
      ∧ ∀ later,
          .command number .tryLaunch ∉ later
          → (last.takes later).emitted number = last.emitted number
            ∧ (last.takes later).isClear first.scheduler = true
            ∧ ((last.takes later).coordinator? number).map (fun c => (c.counters, c.made))
              = (last.coordinator? number).map fun c => (c.counters, c.made) := by
  intro last stopped
  have settled : last.Settled := ((quiet.settled listed).takes early).takes calls
  have rests : last.act .settle = last := settled.settle
  have whole : last = (origin.acts (stepwise early)).acts (stepwise calls) := by
    rw [← takes_eq_acts, ← takes_eq_acts]
  rw [takes_eq_acts origin] at clear
  rw [List.append_assoc, takes_eq_acts, takes_eq_acts] at failed
  have each : (stepwise calls).countP (Act.isLaunchOf number)
      ≤ (events ++ [Event.failed reason]).length := by
    rwa [countP_stepwise, List.length_append, List.length_singleton]
  have finished := answered_is_finished quiet listed served there unshared clear failed each
  rw [← whole] at finished
  -- calls one step after the other are a way in which things can happen
  refine ⟨finished.clear, ?_, ?_⟩
  · intro later
    have alike := finished.stop (.settle :: stepwise later)
    simp only [World.acts, World.replies, List.foldl_cons, rests] at alike
    simp only [takes_eq_acts, answers_eq_replies]
    exact alike
  · intro later uncalled
    rw [takes_eq_acts]
    exact finished.idle (stepwise later) fun member => uncalled (mem_stepwise_iff.mp member)

/-- Two attempts overlap: the one is put off, the other gives up, and when its retry comes due the
first gives up as well. Both have had their events then, and nothing happens any more.
-/
theorem failed_is_final_after_both
    : let first : Coordinator :=
        { budget := .ofMillis 1 1 100
          checker := .always false
          factory := fun _ => { action := "update" }
          scheduler := 0 }
      let origin : World :=
        { schedulers := [.timed], agenda := .ofQueues 1, coordinators := [some first] }
      let calls : List Call := [.command 0 .tryLaunch, .command 0 .tryLaunch, .advance 100]
      let last := origin.takes calls
      last.emitted 0 = [.failed .launchRetries, .failed .launchRetries]
      ∧ calls.countP (Call.isLaunchOf 0) = 2
      ∧ last.isClear 0 = true
      ∧ (last.takes [.command 0 .subscribe, .advance 5000]).emitted 0 = last.emitted 0 := by
  intro first origin calls last
  have quiet : origin.Quiet := by
    refine ⟨⟨rfl, rfl⟩, ?_⟩
    intro scheduler queue there
    rcases scheduler with - | scheduler <;> cases there
  have listed : origin.agenda.Listed := by
    apply quiet.idle.listed
    intro number queue there
    rcases number with - | number <;> cases there
    rfl
  have there : origin.coordinator? 0 = some first := rfl
  have served : origin.Served 0 := served_of_idle quiet.idle rfl there Nat.zero_lt_one rfl
  have unshared (other) (user) (found : origin.coordinator? other = some user)
      (_ : user.scheduler = first.scheduler)
      : other = 0 := by
    rcases other with - | other
    · rfl
    · cases found
  have failed : last.emitted 0 = [.failed .launchRetries, .failed .launchRetries] := by
    simp only [last, calls, origin, first]
    cbv
  have count : calls.countP (Call.isLaunchOf 0) = 2 := by decide
  obtain ⟨clear, -, rest⟩ :=
    @failed_is_final 0 origin first quiet listed served there unshared [] rfl calls
      [.failed .launchRetries] .launchRetries failed (Nat.le_of_eq count)
  exact ⟨failed, count, clear, (rest _ (by simp)).1⟩

/-- A failure is not final while an attempt is put off: the retry of the first attempt is pending
when the second one gives up, and launches when it comes due, unless it is stopped.
-/
theorem failed_not_final_while_put_off
    : let first : Coordinator :=
        { budget := .ofMillis 1 1 100
          checker := .scripted (· = 2) 0
          factory := fun _ => { action := "update" }
          scheduler := 0 }
      let origin : World :=
        { schedulers := [.timed], agenda := .ofQueues 1, coordinators := [some first] }
      let last := origin.takes [.command 0 .tryLaunch, .command 0 .tryLaunch]
      last.emitted 0 = [.failed .launchRetries]
      ∧ last.isClear 0 = false
      ∧ (last.takes [.advance 100]).emitted 0
        = [.failed .launchRetries, .launchRequested { action := "update" }]
      ∧ (last.takes [.command 0 .stop, .advance 100]).emitted 0 = [.failed .launchRetries] := by
  intro first origin last
  simp only [last, origin, first]
  refine ⟨?_, ?_, ?_, ?_⟩ <;> cbv

end World

end UpdaterLaunch
