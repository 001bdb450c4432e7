import Mathlib
import UpdaterLaunch.Proofs.PartyRuns
import UpdaterLaunch.Proofs.WorldCalls

/-! Coordinators that share no scheduler do not disturb each other. Two runs are compared, one with
all that others ask for and one without. Their clocks may stop at different times, and others may
stand in line, so each is compared with the run in which only the party has tasks: after every act
both show the party what that one does.
-/

namespace UpdaterLaunch.World

variable {party : Party} {world lone : World} {number scheduler : Nat}

-----------------------------------------------------------------------------------------
-- What concerns a party
-----------------------------------------------------------------------------------------

/-- The calls that concern a party: those to its coordinators, its schedulers and its subscriptions,
the clock and the registry.
-/
def Party.concerns (party : Party) : Call → Bool
  | .command number _ | .mail number _ _ => party.coordinators number
  | .fire scheduler | .fireAt scheduler _ | .cancel scheduler => party.schedulers scheduler
  | .advance _ | .change _ => true

/-- Whether an act concerns a party: a call that does, whatever is due by now, and the turn of a
task that stands on one of its schedulers.
-/
def Party.attends (party : Party) (world : World) : Act → Bool
  | .call asked => party.concerns asked
  | .settle => true
  | .turn => (world.agenda.ready.head?).any (party.schedulers ·.queue)

/-- Those among some acts that concern a party. -/
def attended (party : Party) (world : World) : List Act → List Act
  | [] => []
  | act :: rest =>
      if party.attends world act then act :: attended party (world.act act) rest
      else attended party (world.act act) rest

-----------------------------------------------------------------------------------------
-- Handling calls
-----------------------------------------------------------------------------------------

/-- The world is beside the party's own, and the clocks agree. -/
structure Handled (party : Party) (world lone : World) : Prop where
  shadows : world.Shadows party lone
  apart : world.Apart party
  now : lone.agenda.now = world.agenda.now

namespace Handled

theorem attempt (handled : Handled party world lone) (own : party.coordinators number = true)
    : Handled party (world.attempt number) (lone.attempt number) where
  shadows := handled.shadows.attempt handled.apart handled.now own
  apart := handled.apart.attempt number
  now := by rw [now_attempt, now_attempt, handled.now]

theorem attempt_other (handled : Handled party world lone)
    (stranger : party.coordinators number = false)
    : Handled party (world.attempt number) lone where
  shadows := handled.shadows.attempt_other handled.apart stranger
  apart := handled.apart.attempt number
  now := by rw [now_attempt, handled.now]

theorem attempts (handled : Handled party world lone) (queue : List (Span × Nat))
    (own : ∀ retry ∈ queue, party.coordinators retry.2 = true)
    : Handled party (queue.foldl (fun world retry => world.attempt retry.2) world)
        (queue.foldl (fun world retry => world.attempt retry.2) lone) := by
  induction queue generalizing world lone with
  | nil => exact handled
  | cons retry rest ih =>
      apply ih (handled.attempt (own retry List.mem_cons_self))
      intro other member
      exact own other (List.mem_cons_of_mem _ member)

theorem attempts_other (handled : Handled party world lone) (queue : List (Span × Nat))
    (strangers : ∀ retry ∈ queue, party.coordinators retry.2 = false)
    : Handled party (queue.foldl (fun world retry => world.attempt retry.2) world) lone := by
  induction queue generalizing world with
  | nil => exact handled
  | cons retry rest ih =>
      apply ih (handled.attempt_other (strangers retry List.mem_cons_self))
      intro other member
      exact strangers other (List.mem_cons_of_mem _ member)

theorem put (handled : Handled party world lone) (own : party.coordinators number = true)
    {old new : Coordinator} (there : world.coordinator? number = some old)
    (same : new.scheduler = old.scheduler)
    : Handled party (world.put number new) (lone.put number new) :=
  ⟨handled.shadows.put own there new, handled.apart.put there same, handled.now⟩

theorem put_other (handled : Handled party world lone)
    (stranger : party.coordinators number = false) {old new : Coordinator}
    (there : world.coordinator? number = some old) (same : new.scheduler = old.scheduler)
    : Handled party (world.put number new) lone :=
  ⟨handled.shadows.put_other stranger new, handled.apart.put there same, handled.now⟩

theorem note (handled : Handled party world lone) (about : Option Nat) (notices : List Notice)
    : Handled party (world.note about notices) (lone.note about notices) :=
  ⟨handled.shadows.note about notices, handled.apart.note about notices, handled.now⟩

theorem note_other (handled : Handled party world lone) {about : Option Nat}
    (stranger : about.any party.coordinators = false) (notices : List Notice)
    : Handled party (world.note about notices) lone :=
  ⟨handled.shadows.note_other stranger notices, handled.apart.note about notices, handled.now⟩

theorem cancel (handled : Handled party world lone) (own : party.schedulers scheduler = true)
    (about : Option Nat)
    : Handled party (world.cancel scheduler about) (lone.cancel scheduler about) where
  shadows := handled.shadows.cancel own about
  apart := handled.apart.cancel scheduler about
  now := by rw [now_cancel, now_cancel, handled.now]

theorem cancel_other (handled : Handled party world lone)
    (foreign : party.schedulers scheduler = false) {about : Option Nat}
    (stranger : about.any party.coordinators = false)
    : Handled party (world.cancel scheduler about) lone where
  shadows := handled.shadows.cancel_other foreign stranger
  apart := handled.apart.cancel scheduler about
  now := by rw [now_cancel, handled.now]

theorem stopRetries (handled : Handled party world lone) (own : party.coordinators number = true)
    : Handled party (world.stopRetries number) (lone.stopRetries number) := by
  unfold World.stopRetries
  rw [handled.shadows.live? own]
  cases live : world.live? number with
  | none => exact handled
  | some coordinator =>
      have served : party.schedulers coordinator.scheduler = true := by
        rw [← handled.apart.side live, own]
      exact (handled.note _ _).cancel served _

theorem stopRetries_other (handled : Handled party world lone)
    (stranger : party.coordinators number = false)
    : Handled party (world.stopRetries number) lone := by
  unfold World.stopRetries
  cases live : world.live? number with
  | none => exact handled
  | some coordinator =>
      have foreign : party.schedulers coordinator.scheduler = false := by
        rw [← handled.apart.side live, stranger]
      have unnamed : (some number).any party.coordinators = false := by simpa using stranger
      exact (handled.note_other unnamed _).cancel_other foreign unnamed

theorem subscribe (handled : Handled party world lone) (own : party.coordinators number = true)
    {coordinator : Coordinator} (there : world.coordinator? number = some coordinator)
    : Handled party (world.subscribe number coordinator) (lone.subscribe number coordinator) := by
  have replaced := handled.put own there
    (rfl : ({ coordinator with hub := coordinator.hub.subscribe } : Coordinator).scheduler = _)
  refine ⟨{ replaced.shadows with subscriptions := ?_ }, ?_, replaced.now⟩
  · simp [World.subscribe, handled.shadows.subscriptions, own]
  · exact ⟨replaced.apart.users, replaced.apart.queued, replaced.apart.tasks⟩

theorem subscribe_other (handled : Handled party world lone)
    (stranger : party.coordinators number = false) {coordinator : Coordinator}
    (there : world.coordinator? number = some coordinator)
    : Handled party (world.subscribe number coordinator) lone := by
  have replaced := handled.put_other stranger there
    (rfl : ({ coordinator with hub := coordinator.hub.subscribe } : Coordinator).scheduler = _)
  refine ⟨{ replaced.shadows with subscriptions := ?_ }, ?_, replaced.now⟩
  · simp [World.subscribe, handled.shadows.subscriptions, stranger]
  · exact ⟨replaced.apart.users, replaced.apart.queued, replaced.apart.tasks⟩

theorem change (handled : Handled party world lone) (change : Registry.Change)
    : Handled party (world.change change) (lone.change change) := by
  unfold World.change
  rw [handled.shadows.registry]
  refine note ?_ _ _
  refine ⟨{ handled.shadows with registry := rfl }, ?_, handled.now⟩
  exact ⟨handled.apart.users, handled.apart.queued, handled.apart.tasks⟩

theorem requeue (handled : Handled party world lone) (own : party.schedulers scheduler = true)
    {queue : List (Span × Nat)} (sided : ∀ retry ∈ queue, party.coordinators retry.2 = true)
    : Handled party
        { world with schedulers := world.schedulers.set scheduler (.manual queue) }
        { lone with schedulers := lone.schedulers.set scheduler (.manual queue) } where
  shadows := handled.shadows.requeue own queue
  apart := handled.apart.requeue (by simpa only [own] using sided)
  now := handled.now

theorem requeue_other (handled : Handled party world lone)
    (foreign : party.schedulers scheduler = false) {queue : List (Span × Nat)}
    (sided : ∀ retry ∈ queue, party.coordinators retry.2 = false)
    : Handled party
        { world with schedulers := world.schedulers.set scheduler (.manual queue) } lone where
  shadows := handled.shadows.requeue_other foreign queue
  apart := handled.apart.requeue (by simpa only [foreign] using sided)
  now := handled.now

end Handled

-----------------------------------------------------------------------------------------
-- Subscriptions by their own numbers
-----------------------------------------------------------------------------------------

theorem mail_of_mem {slot : Nat} (member : (number, slot) ∈ world.subscriptions)
    (request : Hub.Mail)
    : world.mail (world.subscriptions.idxOf (number, slot)) request
      = match world.coordinator? number with
        | none => (.refused .noSubscriber, world)
        | some coordinator =>
            ((coordinator.hub.mail slot request).1,
              world.put number
                { coordinator with hub := (coordinator.hub.mail slot request).2 }) := by
  have found : world.subscriptions[world.subscriptions.idxOf (number, slot)]?
      = some (number, slot) := by
    rw [List.getElem?_eq_getElem (List.idxOf_lt_length_iff.mpr member), List.getElem_idxOf]
  cases there : world.coordinator? number with
  | none => simp only [mail, found, there]
  | some coordinator => simp only [mail, found, there]

theorem mail_of_not_mem {slot : Nat} (absent : (number, slot) ∉ world.subscriptions)
    (request : Hub.Mail)
    : world.mail (world.subscriptions.idxOf (number, slot)) request
      = (.refused .noSubscriber, world) := by
  have beyond : world.subscriptions[world.subscriptions.idxOf (number, slot)]? = none := by
    rw [List.idxOf_eq_length absent]
    exact List.getElem?_eq_none (Nat.le_refl _)
  simp only [mail, beyond]

namespace Handled

/-- A call that does not concern the party is not seen. -/
theorem ignores (handled : Handled party world lone) {call : Call}
    (unconcerned : party.concerns call = false)
    : Handled party (world.handle (call.request world)).2 lone := by
  cases call with
  | command number order =>
      have stranger : party.coordinators number = false := unconcerned
      simp only [Call.request, handle]
      cases live : world.live? number with
      | none => exact handled
      | some coordinator =>
          have there := (live?_eq_some_iff.mp live).1
          cases order with
          | tryLaunch => exact handled.attempt_other stranger
          | stop => exact handled.stopRetries_other stranger
          | drop => exact handled.put_other stranger there rfl
          | subscribe => exact handled.subscribe_other stranger there
          | setLaunchable value =>
              simp only [obey]
              split
              · exact handled.put_other stranger there rfl
              · exact handled
  | fire scheduler =>
      have foreign : party.schedulers scheduler = false := unconcerned
      simp only [Call.request, handle]
      split
      · rename_i queue there
        have strangers := handled.apart.members there foreign
        exact (handled.requeue_other foreign (by simp)).attempts_other queue strangers
      · exact handled
  | fireAt scheduler index =>
      have foreign : party.schedulers scheduler = false := unconcerned
      simp only [Call.request, handle]
      split
      · rename_i queue there
        have strangers := handled.apart.members there foreign
        simp only [World.fireAt]
        split
        · rename_i delay number found
          have others : ∀ retry ∈ queue.eraseIdx index, party.coordinators retry.2 = false :=
            fun retry member => strangers retry (List.mem_of_mem_eraseIdx member)
          have taken := handled.requeue_other foreign others
          exact taken.attempt_other (strangers _ (List.mem_of_getElem? found))
        · exact handled
      · exact handled
  | cancel scheduler =>
      simp only [Call.request, handle]
      split
      · exact handled.cancel_other unconcerned rfl
      · exact handled
  | advance ms => simp [Party.concerns] at unconcerned
  | change what => simp [Party.concerns] at unconcerned
  | mail number slot request =>
      have stranger : party.coordinators number = false := unconcerned
      simp only [Call.request, handle]
      by_cases member : (number, slot) ∈ world.subscriptions
      · rw [mail_of_mem member]
        cases there : world.coordinator? number with
        | none => exact handled
        | some coordinator => exact handled.put_other stranger there rfl
      · rw [mail_of_not_mem member]
        exact handled

/-- A call that concerns the party is answered in its own world as in the whole one, and does the
same there.
-/
theorem answers (handled : Handled party world lone) {call : Call}
    (concerned : party.concerns call = true)
    : call.heard (lone.handle (call.request lone)).2 (lone.handle (call.request lone)).1
        = call.heard (world.handle (call.request world)).2 (world.handle (call.request world)).1
      ∧ Handled party (world.handle (call.request world)).2
          (lone.handle (call.request lone)).2 := by
  cases call with
  | command number order =>
      have own : party.coordinators number = true := concerned
      simp only [Call.request, handle, handled.shadows.live? own]
      cases live : world.live? number with
      | none => exact ⟨by cases order <;> rfl, handled⟩
      | some coordinator =>
          have there := (live?_eq_some_iff.mp live).1
          cases order with
          | tryLaunch => exact ⟨rfl, handled.attempt own⟩
          | stop => exact ⟨rfl, handled.stopRetries own⟩
          | drop => exact ⟨rfl, handled.put own there rfl⟩
          | subscribe =>
              refine ⟨?_, handled.subscribe own there⟩
              simp [obey, Call.heard, World.subscribe]
          | setLaunchable value =>
              simp only [obey]
              split
              · exact ⟨rfl, handled.put own there rfl⟩
              · exact ⟨rfl, handled⟩
  | fire scheduler =>
      have own : party.schedulers scheduler = true := concerned
      simp only [Call.request, handle, handled.shadows.schedulers scheduler own]
      split
      · rename_i queue there
        have members := handled.apart.members there own
        exact ⟨rfl, (handled.requeue own (by simp)).attempts queue members⟩
      · exact ⟨rfl, handled⟩
  | fireAt scheduler index =>
      have own : party.schedulers scheduler = true := concerned
      simp only [Call.request, handle, handled.shadows.schedulers scheduler own]
      split
      · rename_i queue there
        have members := handled.apart.members there own
        simp only [World.fireAt]
        split
        · rename_i delay number found
          have others : ∀ retry ∈ queue.eraseIdx index, party.coordinators retry.2 = true :=
            fun retry member => members retry (List.mem_of_mem_eraseIdx member)
          have taken := handled.requeue own others
          exact ⟨rfl, taken.attempt (members _ (List.mem_of_getElem? found))⟩
        · exact ⟨rfl, handled⟩
      · exact ⟨rfl, handled⟩
  | cancel scheduler =>
      have own : party.schedulers scheduler = true := concerned
      have same := handled.shadows.schedulers scheduler own
      have outside : lone.schedulers.length ≤ scheduler ↔ world.schedulers.length ≤ scheduler := by
        rw [← List.getElem?_eq_none_iff, ← List.getElem?_eq_none_iff, same]
      have inside : scheduler < lone.schedulers.length ↔ scheduler < world.schedulers.length := by
        omega
      simp only [Call.request, handle, inside]
      split
      · exact ⟨rfl, handled.cancel own none⟩
      · exact ⟨rfl, handled⟩
  | advance ms =>
      obtain ⟨shadows, apart, now⟩ := handled.shadows.advance handled.apart handled.now ms
      exact ⟨rfl, shadows, apart, now⟩
  | change what =>
      simp only [Call.request]
      cases what with
      | install package => exact ⟨rfl, handled.change _⟩
      | uninstall name =>
          simp only [handle, handled.shadows.registry]
          exact ⟨rfl, handled.change _⟩
      | suspend name value =>
          simp only [handle, handled.shadows.registry]
          exact ⟨rfl, handled.change _⟩
  | mail number slot request =>
      have own : party.coordinators number = true := concerned
      have both : (number, slot) ∈ lone.subscriptions ↔ (number, slot) ∈ world.subscriptions := by
        simp [handled.shadows.subscriptions, own]
      simp only [Call.request, handle]
      by_cases member : (number, slot) ∈ world.subscriptions
      · rw [mail_of_mem member, mail_of_mem (both.mpr member),
          handled.shadows.coordinators number own]
        cases there : world.coordinator? number with
        | none => exact ⟨rfl, handled⟩
        | some coordinator => exact ⟨rfl, handled.put own there rfl⟩
      · rw [mail_of_not_mem member, mail_of_not_mem (fun found => member (both.mp found))]
        exact ⟨rfl, handled⟩

end Handled

-----------------------------------------------------------------------------------------
-- Turns
-----------------------------------------------------------------------------------------

theorem act_turn {task : Option Task} {agenda : Agenda Task} (turn : world.agenda.Turn task agenda)
    : world.act .turn = world.resume (task, agenda) := by
  simp only [act, Act.move, move, turn?, Agenda.turn?_of_turn turn, Option.map_some,
    Option.getD_some]

theorem act_turn_of_nobody (line : world.agenda.ready = []) : world.act .turn = world := by
  simp only [act, Act.move, move, turn?, Agenda.turn?_eq_none_iff.mpr line, Option.map_none,
    Option.getD_none]

namespace Handled

/-- The turn of a task of the party is one in its own world, too. -/
theorem turn (handled : Handled party world lone) {first : Posting Task}
    {rest : List (Posting Task)} (line : world.agenda.ready = first :: rest)
    (own : party.schedulers first.queue = true)
    : Handled party (world.act .turn) (lone.act .turn) := by
  obtain ⟨task, agenda, turn⟩ := Agenda.exists_turn line
  obtain ⟨alike, too, kept, now⟩ := handled.shadows.agenda.turn turn line own
  have moved := handled.apart.withAgenda turn.waiting_subset
  rw [act_turn turn, act_turn too]
  refine ⟨handled.shadows.resume handled.apart moved kept now ?_, handled.apart.resume turn, ?_⟩
  · intro running some
    exact ⟨first, by simp [line], turn.runs_first line running some, own⟩
  · rw [now_resume, now_resume, now]

/-- The turn of any other task is nothing to the party. -/
theorem turn_other (handled : Handled party world lone) {first : Posting Task}
    {rest : List (Posting Task)} (line : world.agenda.ready = first :: rest)
    (foreign : party.schedulers first.queue = false)
    : Handled party (world.act .turn) lone := by
  obtain ⟨task, agenda, turn⟩ := Agenda.exists_turn line
  have kept := handled.shadows.agenda.turn_other turn line foreign
  have moved := handled.apart.withAgenda turn.waiting_subset
  rw [act_turn turn]
  refine ⟨handled.shadows.resume_other handled.apart moved kept ?_, handled.apart.resume turn, ?_⟩
  · intro running some
    exact ⟨first, by simp [line], turn.runs_first line running some, foreign⟩
  · rw [now_resume, turn.now, handled.now]

theorem settle (handled : Handled party world lone) : Handled party world.settle lone.settle := by
  obtain ⟨shadows, apart⟩ := handled.shadows.runBefore handled.apart (world.agenda.now + 1)
  rw [← handled.now] at shadows
  refine ⟨?_, apart, ?_⟩
  · simpa only [World.settle, handled.now] using shadows
  · rw [now_settle, now_settle, handled.now]

-----------------------------------------------------------------------------------------
-- Runs with and without the others
-----------------------------------------------------------------------------------------

/-- An act that does not concern the party is not seen. -/
theorem pass (handled : Handled party world lone) {act : Act}
    (unattended : party.attends world act = false)
    : act.reply party.concerns world = [] ∧ Handled party (world.act act) lone := by
  cases act with
  | call asked =>
      have unconcerned : party.concerns asked = false := unattended
      exact ⟨by simp [Act.reply, unconcerned], handled.ignores unconcerned⟩
  | settle => cases unattended
  | turn =>
      refine ⟨rfl, ?_⟩
      cases line : world.agenda.ready with
      | nil => rwa [act_turn_of_nobody line]
      | cons first rest =>
          apply handled.turn_other line
          simpa [Party.attends, line] using unattended

/-- An act that concerns the party is answered in its own world as in the whole one, and comes to
the same there.
-/
theorem act (handled : Handled party world lone) {act : Act}
    (attends : party.attends world act = true)
    : act.reply party.concerns world = act.reply (fun _ => true) lone
      ∧ Handled party (world.act act) (lone.act act) := by
  cases act with
  | call asked =>
      have concerned : party.concerns asked = true := attends
      obtain ⟨answer, after⟩ := handled.answers concerned
      have answer : asked.answer lone = asked.answer world := answer
      exact ⟨by simp [Act.reply, concerned, answer], after⟩
  | settle => exact ⟨rfl, handled.settle⟩
  | turn =>
      refine ⟨rfl, ?_⟩
      cases line : world.agenda.ready with
      | nil => simp [Party.attends, line] at attends
      | cons first rest =>
          apply handled.turn line
          simpa [Party.attends, line] using attends

/-- What happens in the whole world shows the party what comes of those acts that concern it in its
own world, by induction on the acts.
-/
theorem acts (handled : Handled party world lone) (acts : List Act)
    : world.replies party.concerns acts
        = lone.replies (fun _ => true) (world.attended party acts)
      ∧ Handled party (world.acts acts) (lone.acts (world.attended party acts)) := by
  induction acts generalizing world lone with
  | nil => exact ⟨rfl, handled⟩
  | cons act rest ih =>
      cases attends : party.attends world act with
      | false =>
          obtain ⟨unheard, next⟩ := handled.pass attends
          obtain ⟨replies, last⟩ := ih next
          simp only [World.replies, World.attended, attends, unheard, List.nil_append,
            Bool.false_eq_true, ↓reduceIte]
          exact ⟨replies, last⟩
      | true =>
          obtain ⟨reply, next⟩ := handled.act attends
          obtain ⟨replies, last⟩ := ih next
          simp only [World.replies, World.attended, attends, reply, replies, ↓reduceIte]
          exact ⟨trivial, last⟩

end Handled

/-- Where all that is due has run, calls one step after the other come to the same without those
that do not concern the party, as all that is left of these is to let run what is due.
-/
theorem acts_attended_stepwise (party : Party) (rests : lone.settle = lone) (world : World)
    (calls : List Call)
    : lone.acts (world.attended party (stepwise calls)) = lone.takes (calls.filter party.concerns)
      ∧ lone.replies (fun _ => true) (world.attended party (stepwise calls))
        = lone.answers (fun _ => true) (calls.filter party.concerns) := by
  induction calls generalizing world lone with
  | nil => exact ⟨rfl, rfl⟩
  | cons call rest ih =>
      cases concerned : party.concerns call with
      | false =>
          have less : world.attended party (stepwise (call :: rest))
              = .settle :: (world.take call).2.attended party (stepwise rest) := by
            simp only [stepwise, List.flatMap_cons, List.cons_append, attended, Party.attends,
              concerned, Bool.false_eq_true, ↓reduceIte]
            rfl
          have settled : lone.act .settle = lone := rests
          obtain ⟨last, answers⟩ := ih rests (world.take call).2
          rw [less, List.filter_cons_of_neg (by simp [concerned]), ← last, ← answers, acts,
            List.foldl_cons, replies, settled]
          exact ⟨rfl, rfl⟩
      | true =>
          have same : world.attended party (stepwise (call :: rest))
              = .call call :: .settle :: (world.take call).2.attended party (stepwise rest) := by
            simp only [stepwise, List.flatMap_cons, List.cons_append, attended, Party.attends,
              concerned, ↓reduceIte]
            rfl
          have settled : (lone.take call).2.settle = (lone.take call).2 := settle_settle _
          obtain ⟨last, answers⟩ := ih settled (world.take call).2
          rw [same, List.filter_cons_of_pos concerned]
          exact ⟨last, congrArg ((lone.take call).1 :: ·) answers⟩

theorem ready_takes (line : world.agenda.ready = []) (calls : List Call)
    : (world.takes calls).agenda.ready = [] := by
  induction calls generalizing world with
  | nil => exact line
  | cons call rest ih => exact ih (ready_settle _)

theorem replies_of_all {listens : Call → Bool} {acts : List Act}
    (all : ∀ call, .call call ∈ acts → listens call = true) (world : World)
    : world.replies listens acts = world.replies (fun _ => true) acts := by
  induction acts generalizing world with
  | nil => rfl
  | cons act rest ih =>
      have later :=
        ih (fun other member => all other (List.mem_cons_of_mem _ member)) (world.act act)
      cases act with
      | call asked =>
          have first := all asked List.mem_cons_self
          simp only [replies, Act.reply, first, ↓reduceIte, later]
      | settle | turn => exact later

/-- Among acts that concern the party only its own calls are left. -/
theorem concerns_of_mem_attended {world : World} {acts : List Act} {call : Call}
    (member : .call call ∈ world.attended party acts)
    : party.concerns call = true := by
  induction acts generalizing world with
  | nil => cases member
  | cons act rest ih =>
      simp only [attended] at member
      split at member
      · rename_i attends
        rcases List.mem_cons.mp member with rfl | later
        · exact attends
        · exact ih later
      · exact ih member

/-- Unless turns are given one by one, it does not depend on the world which acts concern the party.
-/
theorem attended_attended {acts : List Act} (whole : .turn ∉ acts) (world other : World)
    : other.attended party (world.attended party acts) = world.attended party acts := by
  induction acts generalizing world other with
  | nil => rfl
  | cons act rest ih =>
      have later := ih fun member => whole (List.mem_cons_of_mem _ member)
      cases act with
      | call asked =>
          cases concerned : party.concerns asked with
          | false =>
              simp only [attended, Party.attends, concerned, Bool.false_eq_true, ↓reduceIte]
              exact later _ _
          | true => simp only [attended, Party.attends, concerned, ↓reduceIte, later]
      | settle => simp only [attended, Party.attends, ↓reduceIte, later]
      | turn => exact absurd List.mem_cons_self whole

/-- What a scheduler of the party still has to run is the same in both worlds. -/
theorem Shadows.pending (shadows : world.Shadows party lone)
    (own : party.schedulers scheduler = true)
    : lone.pending[scheduler]? = world.pending[scheduler]? := by
  simp only [World.pending, List.getElem?_mapIdx, shadows.schedulers scheduler own]
  cases world.schedulers[scheduler]? with
  | none => rfl
  | some kind => cases kind <;> simp [shadows.agenda.pending own]

/-- All coordinators on some of the schedulers, with these schedulers. -/
def partyOf (world : World) (mine : Nat → Bool) : Party where
  coordinators number := (world.coordinator? number).any (mine ·.scheduler)
  schedulers := mine

/-- Nothing is pending, neither on the agenda nor in the hands of a manual scheduler. -/
structure Quiet (world : World) : Prop where
  idle : world.agenda.Idle
  empty
    : ∀ (scheduler : Nat) (queue : List (Span × Nat)),
        world.schedulers[scheduler]? = some (.manual queue) → queue = []

/-- While nothing is pending, everybody is apart from those on other schedulers. -/
theorem Quiet.handled (quiet : world.Quiet) (mine : Nat → Bool)
    : Handled (world.partyOf mine) world (world.only (world.partyOf mine)) where
  shadows := shadows_only quiet.idle.orderly
  apart := by
    refine ⟨?_, ?_, ?_⟩
    · intro number coordinator there
      simp [partyOf, there]
    · intro scheduler queue there retry member
      rw [quiet.empty scheduler queue there] at member
      exact absurd member List.not_mem_nil
    · simp [quiet.idle.waiting]
  now := rfl

/-- At any time the party's own world may begin anew, without the tasks of all others. -/
theorem Handled.anew (handled : Handled party world lone)
    : Handled party world (world.only party) :=
  ⟨shadows_only handled.shadows.agenda.orderly, handled.apart, rfl⟩

/-- Two worlds in which a party sees the same: its coordinators with all their counters and unread
events, what its schedulers have still to run, its lines in the log, the packages and the time.
-/
structure LookAlike (party : Party) (one other : World) : Prop where
  coordinators
    : ∀ number,
        party.coordinators number = true → one.coordinator? number = other.coordinator? number
  pending
    : ∀ scheduler,
        party.schedulers scheduler = true → one.pending[scheduler]? = other.pending[scheduler]?
  log : one.log.filter party.named = other.log.filter party.named
  registry : one.registry = other.registry
  now : one.agenda.now = other.agenda.now

theorem Handled.lookAlike (handled : Handled party world lone) : LookAlike party world lone where
  coordinators number own := (handled.shadows.coordinators number own).symm
  pending _ own := (handled.shadows.pending own).symm
  log := handled.shadows.log.symm
  registry := handled.shadows.registry.symm
  now := handled.now.symm

theorem LookAlike.trans_symm {one other : World} (first : LookAlike party one lone)
    (second : LookAlike party other lone)
    : LookAlike party one other where
  coordinators number own :=
    (first.coordinators number own).trans (second.coordinators number own).symm
  pending scheduler own := (first.pending scheduler own).trans (second.pending scheduler own).symm
  log := first.log.trans second.log.symm
  registry := first.registry.trans second.registry.symm
  now := first.now.trans second.now.symm

/-- Coordinators on some schedulers are not disturbed by those on others, whoever is in line. In a
world that had nothing pending at first, after any acts, let any acts follow, and compare them with
those that concern the party, in the world without the tasks of all others. There the party's calls
are answered in the same way, and at the end everything looks to it as it does in the whole world.
It does so also if these acts alone are done in the whole world, if no turns are given one by one.
-/
theorem party_undisturbed_in_line {world : World} (quiet : world.Quiet) (mine : Nat → Bool)
    (early acts : List Act)
    : let party := world.partyOf mine
      let start := world.acts early
      let lone := start.only party
      let kept := start.attended party acts
      (start.replies party.concerns acts = lone.replies (fun _ => true) kept
        ∧ LookAlike party (start.acts acts) (lone.acts kept))
      ∧ (.turn ∉ acts
        → start.replies party.concerns acts = start.replies (fun _ => true) kept
          ∧ LookAlike party (start.acts acts) (start.acts kept)) := by
  intro party start lone kept
  obtain ⟨-, begun⟩ := (quiet.handled mine).acts early
  obtain ⟨replies, last⟩ := begun.anew.acts acts
  refine ⟨⟨replies, last.lookAlike⟩, fun whole => ?_⟩
  obtain ⟨repliesToo, lastToo⟩ := begun.anew.acts kept
  have same : start.attended party kept = kept := attended_attended whole start start
  rw [same] at repliesToo lastToo
  have own : start.replies party.concerns kept = start.replies (fun _ => true) kept :=
    replies_of_all (fun call => concerns_of_mem_attended) start
  exact ⟨replies.trans (repliesToo.symm.trans own), last.lookAlike.trans_symm lastToo.lookAlike⟩

/-- Coordinators on some schedulers are not disturbed by those on others. In a world that had
nothing pending at first, after any calls, let any calls follow, and compare them with those among
them that concern the party: all that is asked of its coordinators, schedulers and subscriptions, of
the clock and of the registry. What these are answered is the same, and so are, at the end, the
party's coordinators with all their counters and unread events, what its schedulers have still to
run, its lines in the log, the packages and the time.
-/
theorem party_undisturbed {world : World} (quiet : world.Quiet) (mine : Nat → Bool)
    (early calls : List Call)
    : let party := world.partyOf mine
      let start := world.takes early
      let kept := calls.filter party.concerns
      let all := start.takes calls
      let own := start.takes kept
      start.answers party.concerns calls = start.answers (fun _ => true) kept
      ∧ (∀ number,
          party.coordinators number = true → all.coordinator? number = own.coordinator? number)
      ∧ (∀ scheduler,
          party.schedulers scheduler = true → all.pending[scheduler]? = own.pending[scheduler]?)
      ∧ all.log.filter party.named = own.log.filter party.named
      ∧ all.registry = own.registry
      ∧ all.agenda.now = own.agenda.now := by
  intro party start kept all own
  have same : start = world.acts (stepwise early) := takes_eq_acts world early
  have whole : .turn ∉ stepwise calls := by simp [stepwise]
  obtain ⟨-, alone⟩ := party_undisturbed_in_line quiet mine (stepwise early) (stepwise calls)
  obtain ⟨answers, alike⟩ := alone whole
  rw [← same] at answers alike
  -- nothing is due between calls that are made one step after the other
  obtain ⟨-, begun⟩ := (quiet.handled mine).acts (stepwise early)
  rw [← same] at begun
  have rests : start.settle = start :=
    settle_of_line (ready_takes quiet.idle.ready early) begun.shadows.agenda.orderly.asleep
  obtain ⟨last, heard⟩ := acts_attended_stepwise party rests start calls
  rw [heard, ← answers_eq_replies] at answers
  rw [last, ← takes_eq_acts] at alike
  exact ⟨answers, alike.coordinators, alike.pending, alike.log, alike.registry, alike.now⟩

/-- Two coordinators put their launches off at the same time, and their retries are due at the same
time. The first is stopped and dropped; the second gives up when its own budget is spent.
-/
theorem party_undisturbed_beside_dropped
    : let coordinator (scheduler : Nat) : Coordinator :=
        { budget := .ofMillis 1 0 100
          checker := .always false
          factory := fun _ => { action := "update" }
          scheduler }
      let world : World :=
        { schedulers := [.timed, .timed]
          agenda := .ofQueues 2
          coordinators := [some (coordinator 0), some (coordinator 1)] }
      let party := world.partyOf (· = 1)
      let calls : List Call :=
        [.command 0 .subscribe, .command 1 .subscribe, .command 0 .tryLaunch,
          .command 1 .tryLaunch, .command 0 .stop, .cancel 0, .command 0 .drop, .advance 100,
          .mail 1 0 .drain]
      world.Quiet
      ∧ world.answers party.concerns calls
        = [.number 0, .done, .done, .events [.failed .launchRetries]] := by
  intro coordinator world party calls
  have quiet : world.Quiet := by
    refine ⟨⟨rfl, rfl⟩, ?_⟩
    intro scheduler queue there
    rcases scheduler with - | - | scheduler <;> cases there
  refine ⟨quiet, ?_⟩
  obtain ⟨answers, -⟩ := party_undisturbed quiet (· = 1) [] calls
  refine answers.trans ?_
  cbv

end UpdaterLaunch.World
