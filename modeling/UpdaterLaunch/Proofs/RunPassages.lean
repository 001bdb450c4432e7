import UpdaterLaunch.Proofs.AttemptPassages
import UpdaterLaunch.Proofs.Trails
import UpdaterLaunch.Proofs.WorldCalls

/-! Every move of the world is a passage: what it calls for, what it cancels and what it loses with
a dropped coordinator are read off the move and the world, and add up over a run.
-/

namespace UpdaterLaunch

namespace World

/-- Cancelling keeps the agenda sound. -/
theorem sound_cancel {world : World} (sound : world.agenda.Sound) (scheduler : Nat)
    (about : Option Nat)
    : (world.cancel scheduler about).agenda.Sound :=
  cancel_keeps (P := fun after => after.agenda.Sound) sound sound (sound.cancel scheduler)

/-- Cancelling makes no line that a cycle makes. -/
theorem cycleLines_cancel (world : World) (scheduler : Nat) (about : Option Nat) (number : Nat)
    : (world.cancel scheduler about).cycleLines number = world.cycleLines number := by
  refine cancel_keeps (P := fun after => after.cycleLines number = world.cycleLines number)
    rfl rfl (cycleLines_note_of_other _ _ _ fun notice member => ?_)
  unfold cancelNotices at member
  split at member
  · simp at member
  · rw [List.mem_singleton.mp member]
    rfl

/-- Cancelling a scheduler loses the retries that it keeps, and no other. -/
theorem Served.cancel (steady : Prop) {world : World} {number : Nat}
    (served : world.Served number) (scheduler : Nat) (about : Option Nat)
    : Passage steady number world 0 (world.keptOn scheduler number)
        (world.cancel scheduler about) := by
  refine served.passage_of_same steady ?_ (sound_cancel served.sound _ _) (.cancel _ _ _)
    (cycleLines_cancel _ _ _ _) (.cancel served.sound _ _ _)
  simp only [coordinator?, coordinators_cancel]

/-- Stopping the retries of whomever loses those that are kept on the same scheduler. -/
theorem Served.stopRetries (steady : Prop) {world : World} {number other : Nat}
    {stopping : Coordinator} (served : world.Served number)
    (live : world.live? other = some stopping)
    : Passage steady number world 0 (world.keptOn stopping.scheduler number)
        (world.stopRetries other) := by
  have noted : Passage steady number world 0 0 (world.note (some other) [.stoppingRetries]) :=
    served.passage_of_untouched steady rfl rfl rfl
      (cycleLines_note_of_other _ _ _ (by simp [Notice.isOfCycle]))
  have cancelled := noted.trans
    (noted.served.cancel steady stopping.scheduler (some other))
  rw [Nat.zero_add, Nat.zero_add] at cancelled
  simp only [World.stopRetries, live]
  exact cancelled

-----------------------------------------------------------------------------------------
-- Letting the clock run
-----------------------------------------------------------------------------------------

/-- What is lost with dropped coordinators when the agenda comes to what it comes to. -/
def lapseAt (number before : Nat) (world : World) : Nat :=
  world.lapse number ((world.agenda.wake? before).bind (·.1))

/-- Waking whoever is next is a passage. -/
theorem Served.wake (steady : Prop) {world after : World} {number before : Nat}
    (served : world.Served number) (woken : world.wake? before = some after)
    : Passage steady number world 0 (world.lapseAt number before) after := by
  obtain ⟨⟨task, agenda⟩, next, rfl⟩ := Option.map_eq_some_iff.mp woken
  have lapsed : world.lapseAt number before = world.lapse number task := by
    simp only [lapseAt, next, Option.bind_some]
  rw [lapsed]
  unfold Agenda.wake? at next
  split at next
  · rename_i turn found
    exact served.resume steady (Agenda.turn_of_turn? (found.trans next))
  · obtain ⟨due, -, moved⟩ := Option.map_eq_some_iff.mp next
    obtain ⟨rfl, rfl⟩ := Prod.mk.inj moved
    have none : world.lapse number none = 0 := by simp [lapse]
    rw [none]
    exact served.moveTo steady due

/-- What is lost with dropped coordinators while everything due before a time runs. -/
def lapsesBefore (number before : Nat) (world : World) : Nat :=
  total (lapseAt number before) (trail (wake? before) size (size_wake_lt before) world)

/-- Running everything that is due before a time is a passage, by induction on the wakings. -/
theorem Served.runBefore (steady : Prop) {world : World} {number : Nat}
    (served : world.Served number) (before : Nat)
    : Passage steady number world 0 (world.lapsesBefore number before)
        (world.runBefore before) := by
  refine exhaust_tallies (Q := fun world => world.Served number)
    (P := fun first lost last => Passage steady number first 0 lost last) _ ?_ ?_ ?_ served
  · exact fun world after woken served => (served.wake steady woken).served
  · exact fun world served => .refl steady served
  · exact fun world after last lost woken served rest => (served.wake steady woken).trans rest

/-- Letting time pass is a passage. -/
theorem Served.advance (steady : Prop) {world : World} {number : Nat}
    (served : world.Served number) (ms : Nat)
    : Passage steady number world 0
        (if ms = 0 then 0 else world.lapsesBefore number (world.agenda.now + ms))
        (world.advance ms) := by
  unfold World.advance
  split
  · exact .refl steady served
  · have run := served.runBefore steady (world.agenda.now + ms)
    exact run.trans (run.served.moveTo steady _)

/-- Replacing a coordinator by itself at rest is a passage, and so is replacing another. -/
theorem Served.put {steady : Prop} {world : World} {number other : Nat}
    {coordinator rested : Coordinator} (served : world.Served number)
    (there : world.coordinator? other = some coordinator)
    (rests : other = number → coordinator.Rests steady rested)
    (opened
      : coordinator.hub.isOpen = coordinator.alive → rested.hub.isOpen = rested.alive)
    : Passage steady number world 0 0 (world.put other rested) := by
  by_cases own : other = number
  · subst own
    have before := (served.of_there there).2
    exact served.passage there (coordinator?_put_self there rested) (rests rfl) (opened before)
      served.sound (.of_same rfl rfl rfl) rfl (.of_same rfl rfl)
  · have untouched := coordinator?_put_of_ne world rested fun same => own same.symm
    exact served.passage_of_untouched steady untouched rfl rfl rfl

/-- What a live coordinator does on a command other than to try or to stop is a passage. Prepared
answers that are steady are not replaced.
-/
theorem Served.obey {steady : Prop} {world : World} {number other : Nat}
    {coordinator : Coordinator} (served : world.Served number)
    (live : world.live? other = some coordinator) {command : Command}
    (tries : command ≠ .tryLaunch) (stops : command ≠ .stop)
    (stays : steady → ∀ value, other = number → command ≠ .setLaunchable value)
    : Passage steady number world 0 0 (world.obey other coordinator command).2 := by
  obtain ⟨there, alive⟩ := live?_eq_some_iff.mp live
  cases command with
  | tryLaunch => exact absurd rfl tries
  | stop => exact absurd rfl stops
  | drop =>
      by_cases own : other = number
      · subst own
        have opened := (served.of_there there).2
        have ended
            : { coordinator with hub := coordinator.hub.after [.close] }.hub
              = coordinator.hub.close := by
          simp [Hub.after, Hub.handle, opened, alive]
        have rests := coordinator.rests_of_hub steady [.close] rfl
        refine served.put there (fun _ => ?_) fun _ => rfl
        exact { rests with hub := ⟨[.close], ended.symm, rfl⟩ }
      · exact served.put there (fun same => absurd same own) fun _ => rfl
  | subscribe =>
      have joined : Passage steady number world 0 0
          (world.put other { coordinator with hub := coordinator.hub.subscribe }) := by
        by_cases own : other = number
        · subst own
          have opened := (served.of_there there).2
          have joins
              : coordinator.hub.after [.subscribe] = coordinator.hub.subscribe := by
            simp [Hub.after, Hub.handle, opened, alive]
          have rests := coordinator.rests_of_hub steady [.subscribe] rfl
          rw [joins] at rests
          exact served.put there (fun _ => rests) id
        · exact served.put there (fun same => absurd same own) id
      have listed : Passage steady number _ 0 0 (world.subscribe other coordinator) :=
        joined.served.passage_of_untouched steady rfl rfl rfl rfl
      exact joined.trans listed
  | setLaunchable value =>
      cases kind : coordinator.checker with
      | resolving =>
          simp only [World.obey, kind]
          exact .refl steady served
      | scripted answers asked =>
          simp only [World.obey, kind]
          refine served.put there (fun own => ?_) id
          have rests := coordinator.rests_of_hub steady [] rfl
          exact
            { rests with
              asked := by simp [kind, Checker.asked?]
              checker := fun same => absurd rfl (stays same value own) }

/-- What a subscriber does is a passage. -/
theorem Served.mail (steady : Prop) {world : World} {number : Nat} (served : world.Served number)
    (subscription : Nat) (request : Hub.Mail)
    : Passage steady number world 0 0 (world.mail subscription request).2 := by
  unfold World.mail
  split
  · exact .refl steady served
  · rename_i other slot _
    split
    · exact .refl steady served
    · rename_i coordinator there
      refine served.put there (fun _ => ?_) fun opened => ?_
      · exact coordinator.rests_of_hub steady [.mail slot request] rfl
      · exact (Hub.mail_fixed coordinator.hub slot request).1.trans opened

-----------------------------------------------------------------------------------------
-- What a move calls for, cancels and loses
-----------------------------------------------------------------------------------------

/-- Counts the attempts of a coordinator that a move calls for from outside. -/
def callsOf (number : Nat) (world : World) : Move → Nat
  | .request (.command other .tryLaunch) =>
      if other = number ∧ (world.live? number).isSome then 1 else 0
  | _ => 0

/-- Counts the pending retries of a coordinator that a move cancels. -/
def discardsOf (number : Nat) (world : World) : Move → Nat
  | .request (.command other .stop) =>
      (world.live? other).elim 0 fun stopping => world.keptOn stopping.scheduler number
  | .request (.cancel scheduler) => world.keptOn scheduler number
  | _ => 0

/-- Counts the retries of a coordinator that a move runs after the coordinator was dropped. -/
def lapsesOf (number : Nat) (world : World) : Move → Nat
  | .request (.fire scheduler) =>
      match world.schedulers[scheduler]? with
      | some (.manual queue) =>
          total (fun retry => world.lapse number (some (.retry retry.2))) queue
      | _ => 0
  | .request (.fireAt scheduler index) =>
      match world.schedulers[scheduler]? with
      | some (.manual queue) =>
          world.lapse number ((queue[index]?).map fun retry => .retry retry.2)
      | _ => 0
  | .request (.advance ms) =>
      if ms = 0 then 0 else world.lapsesBefore number (world.agenda.now + ms)
  | .settle => world.lapsesBefore number (world.agenda.now + 1)
  | .turn => world.lapse number (world.agenda.turn?.bind (·.1))
  | _ => 0

/-- Whether a run leaves the prepared answers of a coordinator as they are. -/
def Steady (number : Nat) (moves : List Move) : Prop :=
  ∀ value, .request (.command number (.setLaunchable value)) ∉ moves

/-- A command to any coordinator is a passage; one to a coordinator that was dropped is refused. -/
theorem Served.handle_command {steady : Prop} {world : World} {number : Nat}
    (served : world.Served number) (other : Nat) (command : Command)
    (stays : steady → ∀ value, other = number → command ≠ .setLaunchable value)
    : Passage steady number world (callsOf number world (.request (.command other command)))
        (discardsOf number world (.request (.command other command)))
        (world.handle (.command other command)).2 := by
  cases live : world.live? other with
  | none =>
      have refused : world.handle (.command other command) = (.refused .noCoordinator, world) := by
        simp only [World.handle, live]
      have uncalled : callsOf number world (.request (.command other command)) = 0 := by
        cases command <;> simp only [callsOf]
        refine if_neg ?_
        rintro ⟨rfl, lives⟩
        simp [live] at lives
      have undone : discardsOf number world (.request (.command other command)) = 0 := by
        cases command <;> simp [discardsOf, live]
      rw [refused, uncalled, undone]
      exact .refl steady served
  | some coordinator =>
      have obeyed
          : (world.handle (.command other command)).2
            = (world.obey other coordinator command).2 := by
        simp only [World.handle, live]
      rw [obeyed]
      by_cases tries : command = .tryLaunch
      · subst tries
        exact served.attempt_any steady other
      · by_cases stops : command = .stop
        · subst stops
          simp only [callsOf, discardsOf, live, Option.elim_some]
          exact served.stopRetries steady live
        · have nothing
              : callsOf number world (.request (.command other command)) = 0
                ∧ discardsOf number world (.request (.command other command)) = 0 := by
            cases command <;> simp_all [callsOf, discardsOf]
          rw [nothing.1, nothing.2]
          exact served.obey live tries stops stays

/-- Firing all retries of a scheduler is a passage; only a manual one can be fired. -/
theorem Served.handle_fire (steady : Prop) {world : World} {number : Nat}
    (served : world.Served number) (scheduler : Nat)
    : Passage steady number world 0 (lapsesOf number world (.request (.fire scheduler)))
        (world.handle (.fire scheduler)).2 := by
  simp only [lapsesOf, World.handle]
  cases there : world.schedulers[scheduler]? with
  | none => exact .refl steady served
  | some kind =>
      cases kind with
      | manual queue => exact served.fire steady there
      | inline | timed => exact .refl steady served

/-- Firing one retry of a scheduler is a passage; only a manual one can be fired. -/
theorem Served.handle_fireAt (steady : Prop) {world : World} {number : Nat}
    (served : world.Served number) (scheduler index : Nat)
    : Passage steady number world 0 (lapsesOf number world (.request (.fireAt scheduler index)))
        (world.handle (.fireAt scheduler index)).2 := by
  simp only [lapsesOf, World.handle]
  cases there : world.schedulers[scheduler]? with
  | none => exact .refl steady served
  | some kind =>
      cases kind with
      | manual queue => exact served.fireAt steady there index
      | inline | timed => exact .refl steady served

/-- A cancel is a passage; on a scheduler that is not there it cancels nothing. -/
theorem Served.handle_cancel (steady : Prop) {world : World} {number : Nat}
    (served : world.Served number) (scheduler : Nat)
    : Passage steady number world 0 (world.keptOn scheduler number)
        (world.handle (.cancel scheduler)).2 := by
  by_cases inside : scheduler < world.schedulers.length
  · simp only [World.handle, if_pos inside]
    exact served.cancel steady scheduler none
  · have nothing : world.keptOn scheduler number = 0 := by
      simp only [keptOn, List.getElem?_eq_none (Nat.le_of_not_lt inside)]
    simp only [World.handle, if_neg inside, nothing]
    exact .refl steady served

/-- Every request of a world is a passage. -/
theorem Served.handle {steady : Prop} {world : World} {number : Nat}
    (served : world.Served number) (request : Request)
    (stays : steady → ∀ value, request ≠ .command number (.setLaunchable value))
    : Passage steady number world (callsOf number world (.request request))
        (discardsOf number world (.request request) + lapsesOf number world (.request request))
        (world.handle request).2 := by
  cases request with
  | command other command =>
      refine served.handle_command other command fun same value own => ?_
      rintro rfl
      exact stays same value (by rw [own])
  | fire scheduler =>
      simp only [discardsOf, Nat.zero_add]
      exact served.handle_fire steady scheduler
  | fireAt scheduler index =>
      simp only [discardsOf, Nat.zero_add]
      exact served.handle_fireAt steady scheduler index
  | cancel scheduler => exact served.handle_cancel steady scheduler
  | advance ms =>
      simp only [discardsOf, Nat.zero_add]
      exact served.advance steady ms
  | change change =>
      have changed : Passage steady number world 0 0 (world.change change) :=
        served.passage_of_untouched steady rfl rfl rfl (cycleLines_note_of_ne _ (by simp) _)
      cases change <;> exact changed
  | mail subscription request => exact served.mail steady subscription request

/-- Every move is a passage. -/
theorem Served.move {steady : Prop} {world : World} {number : Nat} (served : world.Served number)
    (move : Move)
    (stays : steady → ∀ value, move ≠ .request (.command number (.setLaunchable value)))
    : Passage steady number world (callsOf number world move)
        (discardsOf number world move + lapsesOf number world move) (world.move move) := by
  cases move with
  | request request =>
      exact served.handle request fun same value eq => stays same value (by rw [eq])
  | settle =>
      simp only [callsOf, discardsOf, lapsesOf, Nat.zero_add]
      exact served.runBefore steady _
  | turn =>
      simp only [callsOf, discardsOf, lapsesOf, Nat.zero_add, World.move, World.turn?]
      cases next : world.agenda.turn? with
      | none =>
          have nothing : world.lapse number none = 0 := by simp [lapse]
          simp only [Option.bind_none, nothing]
          exact .refl steady served
      | some turn => exact served.resume steady (Agenda.turn_of_turn? next)
  | clock time =>
      simp only [callsOf, discardsOf, lapsesOf]
      exact served.moveTo steady time

/-- What the moves of a run count for, together. -/
def tally (count : World → Move → Nat) (world : World) : List Move → Nat
  | [] => 0
  | move :: rest => count world move + tally count (world.move move) rest

/-- Every run is a passage, by induction on its moves. -/
theorem Served.after {steady : Prop} {world : World} {number : Nat}
    (served : world.Served number) {moves : List Move} (stays : steady → Steady number moves)
    : Passage steady number world (tally (callsOf number) world moves)
        (tally (discardsOf number) world moves + tally (lapsesOf number) world moves)
        (world.after moves) := by
  induction moves generalizing world with
  | nil => exact .refl steady served
  | cons move rest ih =>
      have first := served.move move fun same value eq =>
        stays same value (by rw [eq]; exact List.mem_cons_self)
      have later := ih first.served fun same value member =>
        stays same value (List.mem_cons_of_mem _ member)
      have whole := first.trans later
      rw [Nat.add_add_add_comm] at whole
      exact whole

-----------------------------------------------------------------------------------------
-- What callers ask for
-----------------------------------------------------------------------------------------

/-- Whether a call asks a coordinator to launch. -/
def Call.isLaunchOf (number : Nat) : Call → Bool
  | .command other .tryLaunch => other = number
  | _ => false

/-- Whether an act is a call that asks a coordinator to launch. -/
def Act.isLaunchOf (number : Nat) : Act → Bool
  | .call asked => asked.isLaunchOf number
  | .settle | .turn => false

theorem countP_stepwise (number : Nat) (calls : List Call)
    : (stepwise calls).countP (Act.isLaunchOf number) = calls.countP (Call.isLaunchOf number) := by
  induction calls with
  | nil => rfl
  | cons call rest ih =>
      have first : stepwise (call :: rest) = .call call :: .settle :: stepwise rest := rfl
      rw [first, List.countP_cons, List.countP_cons, ih, List.countP_cons]
      rfl

/-- An act calls for an attempt only if it asks for one; a dropped coordinator makes none. -/
theorem callsOf_move_le (world : World) (number : Nat) (act : Act)
    : callsOf number world (act.move world) ≤ if act.isLaunchOf number then 1 else 0 := by
  cases act with
  | call asked =>
      cases asked with
      | command other order =>
          cases order with
          | tryLaunch =>
              simp only [Act.move, Call.request, callsOf, Act.isLaunchOf, Call.isLaunchOf,
                decide_eq_true_eq]
              split
              · rename_i own
                exact Nat.le_of_eq (if_pos own.1).symm
              · exact Nat.zero_le _
          | stop | drop | subscribe | setLaunchable => exact Nat.zero_le _
      | fire | fireAt | cancel | advance | change | mail => exact Nat.zero_le _
  | settle | turn => exact Nat.zero_le _

theorem tally_callsOf_le (world : World) (number : Nat) (acts : List Act)
    : tally (callsOf number) world (world.movesOf acts)
      ≤ acts.countP (Act.isLaunchOf number) := by
  induction acts generalizing world with
  | nil => exact Nat.le_refl _
  | cons act rest ih =>
      have first := callsOf_move_le world number act
      have later := ih (world.act act)
      rw [List.countP_cons, Nat.add_comm]
      exact Nat.add_le_add first later

/-- Any acts are a passage, which calls for no more attempts than they ask for. -/
theorem Served.acts {world : World} {number : Nat} (served : world.Served number)
    (acts : List Act)
    : ∃ called ≤ acts.countP (Act.isLaunchOf number),
        ∃ lost, Passage False number world called lost (world.acts acts) := by
  have passage : Passage False number world _ _ (world.after (world.movesOf acts)) :=
    served.after False.elim
  rw [← acts_eq_after] at passage
  exact ⟨_, tally_callsOf_le world number acts, _, passage⟩

end World

end UpdaterLaunch
