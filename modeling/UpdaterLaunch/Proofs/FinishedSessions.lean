import Mathlib
import UpdaterLaunch.Proofs.SessionTraces
import UpdaterLaunch.Proofs.SoleUsers

/-! What can still happen after a session has told its end. All retries were stopped then, and the
session turns down whatever else is asked of it but one thing: it may be started again, and then its
coordinator makes another attempt that nobody waits for.
-/

namespace UpdaterLaunch

-----------------------------------------------------------------------------------------
-- What lasts through all that is done with a session
-----------------------------------------------------------------------------------------

namespace World.Lasting

variable {barred : Nat → Command → Prop} {P : World → Prop} {world after : World}
  {session later : Session}

/-- By induction on the rounds and on the steps of the clock. -/
theorem wait (lasting : Lasting barred P) (holds : P world) (session : Session)
    (deadline : Option Nat)
    : P (session.wait deadline world) := by
  refine exhaust_keeps (P := P) ?_ holds
  intro world after waited holds
  unfold Session.wait? at waited
  split at waited
  · cases waited
  · split at waited
    · obtain rfl := Option.some.inj waited
      exact lasting.turns holds _
    · obtain ⟨due, -, rfl⟩ := Option.map_eq_some_iff.mp waited
      exact lasting.clock holds due

theorem read? (lasting : Lasting barred P) (holds : P world) {event : Event}
    (reads : session.read? world = some (event, after))
    : P after := by
  unfold Session.read? at reads
  obtain ⟨coordinator, there, reads⟩ := Option.bind_eq_some_iff.mp reads
  split at reads
  · rename_i event hub mailed
    obtain ⟨rfl, rfl⟩ := Prod.mk.inj (Option.some.inj reads)
    have same := (Hub.mail_fixed coordinator.hub session.slot .tryRecv).1
    rw [mailed] at same
    exact lasting.put holds there ⟨rfl, rfl, rfl, same⟩
  · cases reads

/-- Whatever a session tells, it tells it in a world in which the property still holds; for an end,
it stops all retries then.
-/
theorem poll? (lasting : Lasting barred P) (holds : P world) {told : Session.Next}
    (known : session.poll? world = some (told, later, after))
    : (P after ∧ later = session ∧ ∀ outcome, told ≠ .finish outcome)
      ∨ ∃ outcome before,
          P before
          ∧ told = .finish outcome
          ∧ later = { session with queuedFinish := none, outcome := some outcome }
          ∧ after = before.stopRetries session.coordinator := by
  unfold Session.poll? at known
  split at known
  · obtain ⟨rfl, rest⟩ := Prod.mk.inj (Option.some.inj known)
    obtain ⟨rfl, rfl⟩ := Prod.mk.inj rest
    exact .inl ⟨holds, rfl, nofun⟩
  · rename_i outcome going queued
    obtain ⟨rfl, rest⟩ := Prod.mk.inj (Option.some.inj known)
    obtain ⟨rfl, rfl⟩ := Prod.mk.inj rest
    exact .inr ⟨outcome, world, holds, rfl, rfl, rfl⟩
  · obtain ⟨⟨event, read⟩, reads, same⟩ := Option.map_eq_some_iff.mp known
    have ahead := lasting.read? holds reads
    cases event with
    | launchRequested target =>
        obtain ⟨rfl, rest⟩ := Prod.mk.inj same
        obtain ⟨rfl, rfl⟩ := Prod.mk.inj rest
        exact .inl ⟨ahead, rfl, nofun⟩
    | failed reason =>
        obtain ⟨rfl, rest⟩ := Prod.mk.inj same
        obtain ⟨rfl, rfl⟩ := Prod.mk.inj rest
        exact .inr ⟨.cancelled, _, lasting.note ahead _ _, rfl, rfl, rfl⟩

end World.Lasting

namespace Session

open World (Lasting only?)

variable {barred : Nat → World.Command → Prop} {P : World → Prop} {stage : Stage} {number : Nat}

/-- A session that is asked what to do next waits first, and what it tells it tells then. -/
theorem take_next (stage : Stage) (timeout : Nat)
    : let deadline := stage.world.agenda.now + timeout
      let waited := stage.session.wait (some deadline) stage.world
      stage.take (.next timeout)
        = match stage.session.poll? waited with
          | some (told, session, world) => (some (.told told), { session, world })
          | none => (none, { stage with world := waited.moveTo deadline }) := by
  intro deadline waited
  cases known : stage.session.poll? waited with
  | none =>
      simp only [waited, deadline] at known
      simp only [Stage.take, next, known, waited, deadline]
  | some answer =>
      simp only [waited, deadline] at known
      simp only [Stage.take, next, known]

/-- Whatever is done with a session keeps what lasts, and it stays a session of its coordinator. -/
theorem lasting_take (lasting : Lasting barred P) (own : stage.session.coordinator = number)
    (launches : ¬ barred number .tryLaunch) (holds : P stage.world) {act : Act}
    (allowed
      : ∀ other command,
          act = .move (.request (.command other command)) → ¬ barred other command)
    : P (stage.take act).2.world ∧ (stage.take act).2.session.coordinator = number := by
  cases act with
  | start restored =>
      cases restored with
      | true => exact ⟨holds, own⟩
      | false => exact ⟨lasting.attempt holds (own ▸ launches), own⟩
  | report verdict =>
      cases takes : stage.session.accepts with
      | false =>
          rw [take_report_of_refused takes]
          exact ⟨lasting.note holds _ _, own⟩
      | true =>
          have heard := lasting.note holds (some stage.session.coordinator)
            [.verdictReceived verdict]
          rw [take_report_of_accepted takes]
          dsimp only
          split
          · exact ⟨heard, own⟩
          · exact ⟨lasting.attempt heard (own ▸ launches), own⟩
  | next timeout =>
      rw [take_next]
      have waited := lasting.wait holds stage.session (some (stage.world.agenda.now + timeout))
      split
      · rename_i told session world known
        rcases lasting.poll? waited known with ⟨kept, rfl, -⟩ | ⟨outcome, before, kept, -, rfl, rfl⟩
        · exact ⟨kept, own⟩
        · exact ⟨lasting.stopRetries kept _, own⟩
      · exact ⟨lasting.clock waited _, own⟩
  | stop => exact ⟨lasting.stopRetries holds _, own⟩
  | move move =>
      refine ⟨lasting.move holds move ?_, own⟩
      rintro other command rfl
      exact allowed other command rfl

/-- By induction on what is done. -/
theorem lasting_after (lasting : Lasting barred P) (own : stage.session.coordinator = number)
    (launches : ¬ barred number .tryLaunch) (holds : P stage.world) {acts : List Act}
    (allowed
      : ∀ other command,
          .move (.request (.command other command)) ∈ acts → ¬ barred other command)
    : P (stage.after acts).world ∧ (stage.after acts).session.coordinator = number := by
  induction acts generalizing stage with
  | nil => exact ⟨holds, own⟩
  | cons act rest ih =>
      have taken
          : P (stage.take act).2.world ∧ (stage.take act).2.session.coordinator = number := by
        apply lasting_take lasting own launches holds
        rintro other command rfl
        exact allowed other command List.mem_cons_self
      apply ih taken.2 taken.1
      intro other command member
      exact allowed other command (List.mem_cons_of_mem _ member)

-----------------------------------------------------------------------------------------
-- The end of a session
-----------------------------------------------------------------------------------------

/-- When a session tells its end it has stopped all retries. -/
theorem finish_of_told (lasting : Lasting barred P) (holds : P stage.world) {timeout : Nat}
    {outcome : Outcome} (told : (stage.take (.next timeout)).1 = some (.told (.finish outcome)))
    : ∃ before,
        P before
        ∧ (stage.take (.next timeout)).2
          = { session := { stage.session with queuedFinish := none, outcome := some outcome }
              world := before.stopRetries stage.session.coordinator } := by
  have waited := lasting.wait holds stage.session (some (stage.world.agenda.now + timeout))
  rw [take_next] at told ⊢
  split at told
  · rename_i answer session world known
    obtain rfl := Fact.told.inj (Option.some.inj told)
    rcases lasting.poll? waited known with
      ⟨-, -, goesOn⟩ | ⟨ending, before, kept, same, rfl, rfl⟩
    · exact absurd rfl (goesOn outcome)
    · obtain rfl := Next.finish.inj same
      exact ⟨before, kept, rfl⟩
  · cases told

/-- A session has told its end, and its coordinator has nothing pending and has made no more targets
than at first.
-/
structure Ended (number made : Nat) (outcome : Outcome) (first : World) (stage : Stage) : Prop where
  own : stage.session.coordinator = number
  ended : stage.session.outcome = some outcome
  idles : stage.world.Idles number made
  passage : ∃ lost, World.Passage False number first 0 lost stage.world

namespace Ended

variable {made : Nat} {outcome : Outcome} {first : World}

/-- Whatever is done with a session that has ended leaves it so, unless that makes an attempt. -/
theorem take (ended : Ended number made outcome first stage) {act : Act}
    (restored : act ≠ .start false)
    (uncalled : act ≠ .move (.request (.command number .tryLaunch)))
    : Ended number made outcome first (stage.take act).2 := by
  obtain ⟨own, told, idles, lost, passage⟩ := ended
  have lasting := World.lasting_idles number made
  cases act with
  | start again =>
      cases again with
      | true => exact ⟨own, told, idles, lost, passage⟩
      | false => exact absurd rfl restored
  | report verdict =>
      rw [take_report_of_refused (by simp [accepts, told])]
      have noted : World.Passage False number stage.world 0 0
          (stage.world.note (some stage.session.coordinator) [.verdictIgnored verdict]) :=
        idles.served.passage_of_untouched False rfl rfl rfl
          (World.cycleLines_note_of_other _ _ _ (by simp [Notice.isOfCycle]))
      exact ⟨own, told, lasting.note idles _ _, lost, passage.trans noted⟩
  | next timeout =>
      rw [take_next_of_ended told]
      exact ⟨own, told, idles, lost, passage⟩
  | stop =>
      have stopped := lasting.stopRetries idles number
      have same
          : (stage.take .stop).2 = { stage with world := stage.world.stopRetries number } := by
        rw [Stage.take, stop, own]
      rw [same]
      refine ⟨own, told, stopped, ?_⟩
      cases live : stage.world.live? number with
      | none => exact ⟨lost, by simpa only [World.stopRetries, live] using passage⟩
      | some coordinator => exact ⟨_, passage.trans (idles.served.stopRetries False live)⟩
  | move move =>
      have allowed (other) (command) (same : move = .request (.command other command))
          : ¬ only? number .tryLaunch other command := by
        rintro ⟨rfl, rfl⟩
        exact uncalled (congrArg Act.move same)
      have silent : World.callsOf number stage.world move = 0 := by
        unfold World.callsOf
        split
        · exact if_neg fun both => uncalled (by rw [both.1])
        · rfl
      have moved : World.Passage False number stage.world _ _ (stage.world.move move) :=
        idles.served.move move False.elim
      have more := passage.trans moved
      rw [silent] at more
      exact ⟨own, told, lasting.move idles move allowed, _, more⟩

/-- By induction on what is done. -/
theorem after (ended : Ended number made outcome first stage) {acts : List Act}
    (restored : .start false ∉ acts)
    (uncalled : .move (.request (.command number .tryLaunch)) ∉ acts)
    : Ended number made outcome first (stage.after acts) := by
  induction acts generalizing stage with
  | nil => exact ended
  | cons act rest ih =>
      have next : Ended number made outcome first (stage.take act).2 := by
        apply ended.take
        · rintro rfl
          exact restored List.mem_cons_self
        · rintro rfl
          exact uncalled List.mem_cons_self
      exact ih next (restored ∘ List.mem_cons_of_mem act) (uncalled ∘ List.mem_cons_of_mem act)

end Ended

/-- A session that has told its end is inert, unless it is started again or its coordinator is asked
from outside to launch. Its coordinator may be in any state that comes of a world in which nothing
is pending, and uses its scheduler alone. Whatever was done and happened before, and whatever is
done and happens after it, in whatever time: the outcome stays, and asking what to do next tells of
it and does nothing; the coordinator makes no decision cycle, so it makes no target, asks nothing,
spends nothing and emits nothing; and nothing is pending on its scheduler.
-/
theorem finished_inert {origin : World} {number : Nat} {first : Coordinator}
    (quiet : origin.Quiet) (listed : origin.agenda.Listed) (served : origin.Served number)
    (there : origin.coordinator? number = some first)
    (unshared
      : ∀ other user,
          origin.coordinator? other = some user
          → user.scheduler = first.scheduler
          → other = number)
    {early : List World.Move} (lasts : .request (.command number .drop) ∉ early)
    {coordinator : Coordinator} (live : (origin.after early).live? number = some coordinator)
    {acts : List Act} (stays : .move (.request (.command number .drop)) ∉ acts)
    {timeout : Nat} {outcome : Outcome}
    (told
      : ((((Stage.opened number coordinator (origin.after early)).after acts).take
          (.next timeout)).1)
        = some (.told (.finish outcome)))
    {later : List Act} (restored : .start false ∉ later)
    (uncalled : .move (.request (.command number .tryLaunch)) ∉ later)
    : let stage := (Stage.opened number coordinator (origin.after early)).after acts
      let finished := (stage.take (.next timeout)).2
      let last := finished.after later
      last.session.outcome = some outcome
      ∧ (∀ timeout, last.take (.next timeout) = (some (.told (.finished outcome)), last))
      ∧ last.world.isClear first.scheduler = true
      ∧ last.world.emitted number = finished.world.emitted number
      ∧ ∃ before after,
          finished.world.coordinator? number = some before
          ∧ last.world.coordinator? number = some after
          ∧ after.counters = before.counters
          ∧ after.made = before.made
          ∧ after.checker.asked? = before.checker.asked? := by
  intro stage finished last
  have lasting := (World.lasting_sole number first.scheduler).and
    ((World.lasting_served number).and (World.lasting_live number))
  -- all three last up to the end that is told, in spite of the session that is opened on the way
  have started : (origin.after early).Sole number first.scheduler
      ∧ (origin.after early).Served number
      ∧ ((origin.after early).live? number).isSome := by
    refine ⟨?_, ?_, by rw [live]; rfl⟩
    · exact (World.lasting_sole number _).after (quiet.sole listed there unshared)
        fun _ _ _ => id
    · exact (World.lasting_served number).after served fun _ _ _ => id
  have joined : coordinator.Spared { coordinator with hub := coordinator.hub.subscribe } :=
    ⟨rfl, rfl, rfl, rfl⟩
  have entered := lasting.put started (World.live?_eq_some_iff.mp live).1 joined
  have holds : (stage.world.Sole number first.scheduler
        ∧ stage.world.Served number
        ∧ (stage.world.live? number).isSome)
      ∧ stage.session.coordinator = number := by
    refine lasting_after lasting rfl (nomatch ·.2) entered ?_
    rintro other command member ⟨rfl, rfl⟩
    exact stays member
  obtain ⟨holds, own⟩ := holds
  obtain ⟨world, ⟨sole, serves, lives⟩, stopped⟩ := finish_of_told lasting holds told
  obtain ⟨alive, lives⟩ := Option.isSome_iff_exists.mp lives
  have clear := sole.stopped lives
  rw [own] at stopped
  obtain ⟨made, idles⟩ :=
    ((World.lasting_served number).stopRetries serves number).idles clear
  have ended : Ended number made outcome finished.world finished := by
    refine ⟨?_, ?_, ?_, 0, ?_⟩ <;> simp only [finished, stage, stopped]
    · exact own
    · exact idles
    · exact .refl False idles.served
  have final : Ended number made outcome finished.world last := ended.after restored uncalled
  obtain ⟨lost, passage⟩ := final.passage
  have course := ended.idles.course final.idles passage
  obtain ⟨before, found, -⟩ := ended.idles.served.coordinator
  obtain ⟨after, now, performed⟩ := course.performed found
  have lines := course.lines
  rw [List.flatMap_nil, List.append_nil] at lines
  have still : last.world.Sole number first.scheduler := by
    have onlyUser := World.lasting_sole number first.scheduler
    have after : finished.world.Sole number first.scheduler := by
      simp only [finished, stage, stopped]
      exact onlyUser.stopRetries sole _
    exact (lasting_after onlyUser rfl id after fun _ _ _ => id).1
  refine
    ⟨final.ended, take_next_of_ended final.ended, ?_, ?_, before, after, found, now, ?_, ?_, ?_⟩
  · exact still.kept_eq_zero_iff.mp final.idles.kept
  · simp only [World.emitted, lines]
  · exact performed.counters
  · exact performed.made
  · simpa using performed.asked

/-- The updater failed and cannot be launched for now, so a retry is pending when the coordinator is
asked to launch from outside as well and gives up. The session tells so and cancels the retry. Then
its caller reports again, stops, waits, asks, and starts the session as a restored one.
-/
theorem finished_inert_with_retry_pending
    : let first : Coordinator :=
        { budget := .ofMillis 1 4 100
          checker := .scripted (· = 0) 0
          factory := fun _ => { action := "update" }
          scheduler := 0 }
      let origin : World :=
        { schedulers := [.timed], agenda := .ofQueues 1, coordinators := [some first] }
      let acts : List Act :=
        [.start false, .next 50, .report .failed, .move (.request (.command 0 .tryLaunch))]
      let later : List Act :=
        [.report .failed, .stop, .move (.request (.advance 500)), .next 50, .start true]
      let stage := (Stage.opened 0 first origin).after acts
      stage.world.kept 0 = 1
      ∧ (stage.take (.next 50)).1 = some (.told (.finish .cancelled))
      ∧ ((stage.take (.next 50)).2.after later).session.outcome = some .cancelled
      ∧ ((stage.take (.next 50)).2.after later).world.isClear 0 = true := by
  intro first origin acts later stage
  have quiet : origin.Quiet := by
    refine ⟨⟨rfl, rfl⟩, ?_⟩
    intro scheduler queue there
    rcases scheduler with - | scheduler <;> cases there
  have listed : origin.agenda.Listed := by
    apply quiet.idle.listed
    intro number queue there
    rcases number with - | number
    · obtain rfl := Option.some.inj there
      rfl
    · cases there
  have there : origin.coordinator? 0 = some first := rfl
  have served : origin.Served 0 :=
    World.served_of_idle quiet.idle rfl there Nat.zero_lt_one rfl
  have unshared (other) (user) (found : origin.coordinator? other = some user)
      (_ : user.scheduler = first.scheduler)
      : other = 0 := by
    rcases other with - | other
    · rfl
    · cases found
  have pending : stage.world.kept 0 = 1 := by
    dsimp only [stage, acts, origin, first]
    cbv
  have told : (stage.take (.next 50)).1 = some (.told (.finish .cancelled)) := by
    dsimp only [stage, acts, origin, first]
    cbv
  obtain ⟨outcome, -, clear, -⟩ :=
    @finished_inert origin 0 first quiet listed served there unshared [] List.not_mem_nil first rfl
      acts (by simp [acts]) 50 .cancelled told later (by simp [later]) (by simp [later])
  exact ⟨pending, told, outcome, clear⟩

/-- A session that has told its end can still be started, as nothing checks for the end there. The
coordinator makes another cycle, puts the launch off, and gives up when the retry comes due.
-/
theorem not_inert_when_started_again
    : let first : Coordinator :=
        { budget := .ofMillis 1 4 100
          checker := .scripted (· = 0) 0
          factory := fun _ => { action := "update" }
          scheduler := 0 }
      let origin : World :=
        { schedulers := [.timed], agenda := .ofQueues 1, coordinators := [some first] }
      let stage := (Stage.opened 0 first origin).after [.start false, .next 50, .report .ok]
      let finished := (stage.take (.next 50)).2
      let started := finished.after [.start false]
      let waited := started.after [.move (.request (.advance 500))]
      (stage.take (.next 50)).1 = some (.told (.finish .updated))
      ∧ (finished.world.coordinator? 0).map (·.counters)
        = some { updateTries := 1, launchTries := 0 }
      ∧ (started.world.coordinator? 0).map (·.counters)
        = some { updateTries := 1, launchTries := 1 }
      ∧ started.world.isClear 0 = false
      ∧ finished.world.emitted 0 = [.launchRequested { action := "update" }]
      ∧ waited.world.emitted 0
        = [.launchRequested { action := "update" }, .failed .launchRetries] := by
  intro first origin stage finished started waited
  dsimp only [waited, started, finished, stage, origin, first]
  refine ⟨?_, ?_, ?_, ?_, ?_, ?_⟩ <;> cbv

end Session

end UpdaterLaunch
