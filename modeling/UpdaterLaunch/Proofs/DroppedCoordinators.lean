import UpdaterLaunch.Proofs.Leftovers

/-! A dropped coordinator is silent for good, and does nobody any harm. Its subscribers read what
they have not read yet; its retries wait where they are, in line or asleep, and do nothing when
their time comes. All others fare as if these retries had been taken away with it.
-/

namespace UpdaterLaunch

/-- Where and when a task is to run, and which one it is. -/
def Posting.plan {τ : Type} (posting : Posting τ) : Nat × Nat × Nat × τ :=
  (posting.due, posting.queue, posting.id, posting.task)

namespace World

variable {world : World} {number : Nat}

-----------------------------------------------------------------------------------------
-- Runs after a drop
-----------------------------------------------------------------------------------------

/-- What the subscribers of a coordinator ask of its hub in a run. -/
def mails (number : Nat) (world : World) : List Call → List Hub.Request
  | [] => []
  | call :: rest => call.mails world number ++ mails number (world.take call).2 rest

/-- What the subscribers of a coordinator ask of its hub, whatever else happens. -/
def mailed (number : Nat) (world : World) : List Act → List Hub.Request
  | [] => []
  | act :: rest => act.mails world number ++ mailed number (world.act act) rest

theorem mails_eq_mailed (number : Nat) (world : World) (calls : List Call)
    : world.mails number calls = world.mailed number (stepwise calls) := by
  induction calls generalizing world with
  | nil => rfl
  | cons call rest ih =>
      rw [mails, ih]
      rfl

/-- Whether a call is made for a certain subscription. -/
def Call.isMailOf (number slot : Nat) : Call → Bool
  | .mail other which _ => other = number ∧ which = slot
  | _ => false

theorem live?_of_dropped {coordinator : Coordinator}
    (there : world.coordinator? number = some coordinator.drop)
    : world.live? number = none := by
  simp [live?, there, Coordinator.drop]

theorem dead_act (ordered : world.InOrder) (dead : world.live? number = none) (act : Act)
    : (world.act act).live? number = none := by
  have still := (coordinator?_act ordered dead act).1
  simp only [live?, Option.filter_eq_none_iff, still, Option.map_eq_some_iff] at dead ⊢
  rintro _ ⟨coordinator, there, rfl⟩
  exact dead coordinator there

/-- Whatever happens, a dropped coordinator only serves its subscribers, by induction on the acts.
-/
theorem dropped_acts (ordered : world.InOrder) (dead : world.live? number = none)
    (acts : List Act)
    : (world.acts acts).live? number = none
      ∧ world.subscriptions <+: (world.acts acts).subscriptions
      ∧ (world.acts acts).coordinator? number
        = (world.coordinator? number).map fun coordinator =>
            { coordinator with hub := coordinator.hub.after (world.mailed number acts) } := by
  induction acts generalizing world with
  | nil => exact ⟨dead, List.prefix_refl _, Option.map_id'.symm⟩
  | cons act rest ih =>
      obtain ⟨first, listed⟩ := coordinator?_act ordered dead act
      obtain ⟨still, more, coordinator⟩ := ih (ordered.acts [act]) (dead_act ordered dead act)
      refine ⟨still, listed.trans more, coordinator.trans ?_⟩
      have first : (world.acts [act]).coordinator? number = _ := first
      rw [first, Option.map_map]
      congr 1
      funext coordinator
      simp only [Function.comp_apply, mailed, Hub.after_append]
      rfl

theorem received_append (slot : Nat) (hub : Hub) (requests more : List Hub.Request)
    : Hub.received slot hub (requests ++ more)
      = Hub.received slot hub requests ++ Hub.received slot (hub.after requests) more := by
  induction requests generalizing hub with
  | nil => rfl
  | cons request rest ih =>
      rw [List.cons_append, Hub.received_cons, Hub.received_cons, ih, List.append_assoc]
      rfl

/-- What a call gets for a subscription is what it gets from the hub. -/
theorem handedOver_answer {coordinator : Coordinator}
    (there : world.coordinator? number = some coordinator) {slot : Nat}
    (member : (number, slot) ∈ world.subscriptions) (call : Call)
    : (if call.isMailOf number slot then Hub.handedOver (call.answer world) else [])
      = Hub.received slot coordinator.hub (call.mails world number) := by
  cases call with
  | mail other which request =>
      by_cases own : other = number ∧ which = slot
      · obtain ⟨rfl, rfl⟩ := own
        have answer : (Call.mail other which request).answer world
            = (coordinator.hub.mail which request).1 := by
          simp only [Call.answer, Call.request, handle, Call.heard, mail_of_mem member, there]
        have asked : (Call.mail other which request).mails world other = [.mail which request] := by
          simp [Call.mails, member]
        rw [answer, asked, Hub.received_cons]
        simp [Call.isMailOf, Hub.Request.isOf, Hub.handle, Hub.received, Hub.heard]
      · rw [if_neg (by simpa [Call.isMailOf] using own)]
        simp only [Call.mails]
        split
        · rename_i asked
          have foreign : which ≠ slot := fun same => own ⟨asked.1, same⟩
          rw [Hub.received_cons]
          simp [Hub.Request.isOf, foreign, Hub.received, Hub.heard]
        · rfl
  | command | fire | fireAt | cancel | advance | change => rfl

theorem handedOver_reply {coordinator : Coordinator}
    (there : world.coordinator? number = some coordinator) {slot : Nat}
    (member : (number, slot) ∈ world.subscriptions) (act : Act)
    : (act.reply (Call.isMailOf number slot) world).flatMap Hub.handedOver
      = Hub.received slot coordinator.hub (act.mails world number) := by
  cases act with
  | call asked =>
      have heard := handedOver_answer there member asked
      simp only [Act.reply, Act.mails, ← heard]
      split <;> simp
  | settle | turn => rfl

/-- What a subscription of a dropped coordinator gets in a run is what it gets from the hub. -/
theorem replies_isMailOf (ordered : world.InOrder) (dead : world.live? number = none)
    {coordinator : Coordinator} (there : world.coordinator? number = some coordinator) {slot : Nat}
    (member : (number, slot) ∈ world.subscriptions) (acts : List Act)
    : (world.replies (Call.isMailOf number slot) acts).flatMap Hub.handedOver
      = Hub.received slot coordinator.hub (world.mailed number acts) := by
  induction acts generalizing world coordinator with
  | nil => rfl
  | cons act rest ih =>
      obtain ⟨next, listed⟩ := coordinator?_act ordered dead act
      rw [there, Option.map_some] at next
      have later := ih (ordered.acts [act]) (dead_act ordered dead act) next (listed.subset member)
      rw [mailed, received_append, replies, List.flatMap_append, handedOver_reply there member]
      exact congrArg _ later

-----------------------------------------------------------------------------------------
-- Silence
-----------------------------------------------------------------------------------------

/-- After its drop a coordinator makes no cycle and emits nothing, whatever happens. Each of its
subscriptions gets what it had not read, in order, and then hears that it is over. Its retries do
nothing: they are not more than at the drop, and with every call and all that is due after it each
stays where it is unless it is due, fired or cancelled.
-/
structure SilentAmid (number : Nat) (coordinator : Coordinator) (dropped : World)
    (acts : List Act)
    : Prop where
  state
    : (dropped.acts acts).coordinator? number
      = some
          { coordinator.drop with
            hub := coordinator.drop.hub.after (dropped.mailed number acts) }
  lines : (dropped.acts acts).cycleLines number = dropped.cycleLines number
  backlogs
    : ∀ slot backlog,
        (number, slot) ∈ dropped.subscriptions
        → coordinator.hub.backlog? slot = some backlog
        → .call (.mail number slot .unsubscribe) ∉ acts
        → ∃ unread,
            (dropped.replies (Call.isMailOf number slot) acts).flatMap Hub.handedOver ++ unread
              = backlog
            ∧ (Call.mail number slot .recv).answer (dropped.acts acts)
              = match unread with
                | [] => .closed
                | event :: _ => .event (some event)
  pending
    : ∃ taken : List Retry,
        (dropped.retries number).Perm (taken ++ (dropped.acts acts).retries number)
  retries
    : ∀ call : Call,
        let last := dropped.acts acts
        let next := (last.take call).2
        call.Spares number (next.agenda.now + 1) last next
  attempt : (dropped.acts acts).attempt number = dropped.acts acts

theorem mem_mailed {slot : Nat} {request : Hub.Mail} {acts : List Act}
    (member : .mail slot request ∈ world.mailed number acts)
    : .call (.mail number slot request) ∈ acts := by
  induction acts generalizing world with
  | nil => cases member
  | cons act rest ih =>
      rcases List.mem_append.mp member with first | later
      · cases act with
        | call asked =>
            cases asked with
            | mail other which asked =>
                simp only [Act.mails, Call.mails] at first
                split at first
                · rename_i own
                  obtain ⟨rfl, rfl⟩ := Hub.Request.mail.inj (List.mem_singleton.mp first)
                  rw [own.1]
                  exact List.mem_cons_self
                · cases first
            | command | fire | fireAt | cancel | advance | change => cases first
        | settle | turn => cases first
      · exact List.mem_cons_of_mem _ (ih later)

theorem sound_close (hub : Hub) : hub.close.Sound where
  nodup := List.nodup_nil
  bounded := by simp [Hub.close]
  listed := by simp [Hub.close]

theorem silentAmid (ordered : world.InOrder) (served : world.Served number)
    {coordinator : Coordinator} (there : world.coordinator? number = some coordinator.drop)
    (acts : List Act)
    : SilentAmid number coordinator world acts := by
  have dead := live?_of_dropped there
  obtain ⟨still, listed, state⟩ := dropped_acts ordered dead acts
  rw [there, Option.map_some] at state
  obtain ⟨called, -, lost, passage⟩ := served.acts acts
  obtain ⟨cycles, course, -⟩ := passage.course
  obtain rfl := course.eq_nil there (by rw [state, Option.map_some])
  refine ⟨state, ?_, ?_, ?_, ?_, attempt_of_gone still⟩
  · simpa using course.lines
  · intro slot backlog member unread stays
    obtain ⟨rest, left, whole⟩ :=
      (sound_close coordinator.hub).received_append_backlog unread (world.mailed number acts)
        fun asked => stays (mem_mailed asked)
    have closed : (coordinator.hub.close.after (world.mailed number acts)).isOpen = false := by
      rw [Hub.isOpen_after]
      rfl
    refine ⟨rest, ?_, ?_⟩
    · rw [replies_isMailOf ordered dead there member]
      exact whole.trans (List.append_nil backlog)
    · have answer : (Call.mail number slot .recv).answer (world.acts acts)
          = ((coordinator.hub.close.after (world.mailed number acts)).mail slot .recv).1 := by
        simp only [Call.answer, Call.request, handle, Call.heard,
          mail_of_mem (listed.subset member), state]
        rfl
      rw [answer]
      cases rest with
      | nil => exact (Hub.recv_eq_closed_iff left).mpr ⟨closed, rfl⟩
      | cons event others => simp [Hub.mail, left]
  · have keeps := List.getElem?_eq_getElem (served.of_there there).1
    obtain ⟨times, taken, ledger⟩ := course.ledger there keeps served.queues
    refine ⟨taken, ?_⟩
    simpa [Coordinator.posts] using ledger.balance
  · intro call
    exact spares_take (ordered.acts acts) still call

/-- After its drop a coordinator makes no cycle and emits nothing. Each of its subscriptions gets
what it had not read, in order, and then hears that it is over. Its retries stay where they are
until they are due, fired or cancelled, and do nothing.
-/
structure Silence (number : Nat) (coordinator : Coordinator) (dropped : World) (calls : List Call)
    : Prop where
  state
    : (dropped.takes calls).coordinator? number
      = some
          { coordinator.drop with
            hub := coordinator.drop.hub.after (dropped.mails number calls) }
  lines : (dropped.takes calls).cycleLines number = dropped.cycleLines number
  backlogs
    : ∀ slot backlog,
        (number, slot) ∈ dropped.subscriptions
        → coordinator.hub.backlog? slot = some backlog
        → .mail number slot .unsubscribe ∉ calls
        → ∃ unread,
            (dropped.answers (Call.isMailOf number slot) calls).flatMap Hub.handedOver ++ unread
              = backlog
            ∧ ((dropped.takes calls).take (.mail number slot .recv)).1
              = match unread with
                | [] => .closed
                | event :: _ => .event (some event)
  retries
    : ∀ call : Call,
        let last := dropped.takes calls
        let next := (last.take call).2
        call.Spares number (next.agenda.now + 1) last next
  attempt : (dropped.takes calls).attempt number = dropped.takes calls

/-- Calls one step after the other are a way in which things can happen. -/
theorem SilentAmid.silence {coordinator : Coordinator} {calls : List Call}
    (silent : SilentAmid number coordinator world (stepwise calls))
    : Silence number coordinator world calls := by
  have same := takes_eq_acts world calls
  refine ⟨?_, ?_, ?_, ?_, ?_⟩
  · rw [same, mails_eq_mailed]
    exact silent.state
  · rw [same]
    exact silent.lines
  · intro slot backlog member unread stays
    rw [same, answers_eq_replies]
    exact silent.backlogs slot backlog member unread fun asked => stays (mem_stepwise_iff.mp asked)
  · rw [same]
    exact silent.retries
  · rw [same]
    exact silent.attempt

-----------------------------------------------------------------------------------------
-- Everybody else
-----------------------------------------------------------------------------------------

/-- Beside a world there is one without the retries of a dropped coordinator: all coordinators are
the same, and so is what is to run, when and in which order. Only the numbers of what is pending
differ, and the lines of the log that give such numbers.
-/
structure Undisturbed (number : Nat) (world lone : World) : Prop where
  coordinators : lone.coordinators = world.coordinators
  subscriptions : lone.subscriptions = world.subscriptions
  registry : lone.registry = world.registry
  now : lone.agenda.now = world.agenda.now
  schedulers : lone.schedulers = world.schedulers.map (Scheduler.without (· = number))
  tasks
    : lone.agenda.tasks.map Posting.plan
      = (world.agenda.tasks.filter (!isRetryOf number ·)).map Posting.plan
  pending
    : ∀ scheduler : Nat,
        world.schedulers[scheduler]? = some .timed
        → world.agenda.pending scheduler
          = lone.agenda.pending scheduler + world.keptOn scheduler number
  log : lone.log.filter (!·.notice.isOfStop) = world.log.filter (!·.notice.isOfStop)

theorem isOf_eq (posting : Posting Task)
    : Task.isOf (· = number) posting.task = isRetryOf number posting := by
  cases whose : posting.task <;> simp [Task.isOf, isRetryOf, whose]

theorem Abreast.undisturbed {lone : World} (abreast : Abreast (· = number) world lone)
    (listed : world.agenda.Listed) (listedToo : lone.agenda.Listed)
    : Undisturbed number world lone where
  coordinators := abreast.relieved.coordinators
  subscriptions := abreast.relieved.subscriptions
  registry := abreast.relieved.registry
  now := abreast.now
  schedulers := abreast.relieved.schedulers
  tasks := by
    have planned (agenda : Agenda Task) (postings : List (Posting Task))
        : (postings.map agenda.outline).map Posting.plan = postings.map Posting.plan := by
      rw [List.map_map]
      rfl
    have same := congrArg (List.map Posting.plan) abreast.relieved.agenda.tasks
    rw [planned, planned] at same
    simpa only [isOf_eq] using same
  pending scheduler timed := by
    rw [abreast.relieved.agenda.pending listed listedToo]
    simp only [keptOn, timed, isOf_eq]
  log := abreast.relieved.log

/-- A coordinator that is dropped falls silent and harms nobody, whoever is in line then. In any
world whose tasks are in order, let it be dropped at some time, and let anything happen: calls, with
all that is due after them or without, and turns. The drop by itself changes nothing else, so its
retries may still have their turns, which come to nothing. And all calls are answered as in a world
from which these retries were taken at the drop.
-/
theorem dropped_silent_in_line {origin : World} {coordinator : Coordinator}
    (ordered : origin.InOrder) (served : origin.Served number) (early : List Act)
    (live : (origin.acts early).live? number = some coordinator) (acts : List Act)
    : let before := origin.acts early
      let dropped := before.put number coordinator.drop
      let own := dropped.without (· = number)
      let run := dropped.relievedActs (· = number) acts
      before.act (.call (.command number .drop)) = dropped
      ∧ SilentAmid number coordinator dropped acts
      ∧ own.replies (fun _ => true) (run.map (·.1)) = run.flatMap (·.2)
      ∧ Undisturbed number (dropped.acts acts) (own.acts (run.map (·.1))) := by
  intro before dropped own run
  have there := (live?_eq_some_iff.mp live).1
  have still : before.InOrder := ordered.acts early
  have orderedToo : dropped.InOrder := ⟨still.orderly, still.listed, still.timed⟩
  have servedToo : dropped.Served number :=
    (lasting_served number).drop ((lasting_served number).acts served fun _ _ _ => id) live id
  have ended : dropped.coordinator? number = some coordinator.drop :=
    coordinator?_put_self there coordinator.drop
  obtain ⟨replies, abreast⟩ := (orderedToo.abreast (live?_of_dropped ended)).acts acts
  refine ⟨?_, silentAmid orderedToo servedToo ended acts, replies, ?_⟩
  · simp only [act, Act.move, move, Call.request, handle, live, before]
    rfl
  · refine abreast.undisturbed ?_ ?_
    · exact (orderedToo.acts acts).listed
    · have listed : own.agenda.Listed := orderedToo.listed.without _
      exact lasting_listed.acts listed fun _ _ _ => id

/-- A retry without a delay is still in line when its coordinator is dropped. Its turn comes and
nothing happens; in the world without the retry there is no such turn.
-/
example
    : let coordinator : Coordinator :=
        { budget := .ofMillis 3 3 0
          checker := .always false
          factory := fun _ => { action := "update" }
          scheduler := 0 }
      let origin : World :=
        { schedulers := [.timed], agenda := .ofQueues 1, coordinators := [some coordinator] }
      let dropped := origin.acts [.call (.command 0 .tryLaunch), .call (.command 0 .drop)]
      dropped.retries 0 = [.timed 0 0]
      ∧ (dropped.act .turn).retries 0 = []
      ∧ (dropped.act .turn).cycleLines 0 = dropped.cycleLines 0
      ∧ (dropped.relievedActs (· = 0) [.turn]).length = 0 := by
  refine ⟨?_, ?_, ?_, ?_⟩ <;> cbv

/-- A coordinator that is dropped falls silent and harms nobody. In any run that starts when all
that is due has run, let it be dropped at some time, and let any calls follow: whatever is fired or
cancelled, however the clock moves, whatever others do, on its own scheduler or another. The drop
changes nothing else; afterwards the coordinator is silent. And all calls are answered as in a world
from which its retries were taken at the drop, if the positions on manual schedulers are counted
without them there; after both runs everybody else is the same.
-/
theorem dropped_silent {origin : World} {coordinator : Coordinator} (settled : origin.Settled)
    (served : origin.Served number) (early : List Call)
    (live : (origin.takes early).live? number = some coordinator) (calls : List Call)
    : let before := origin.takes early
      let dropped := before.put number coordinator.drop
      let own := dropped.without (· = number)
      let run := dropped.relieved (· = number) calls
      (before.take (.command number .drop)).2 = dropped
      ∧ Silence number coordinator dropped calls
      ∧ own.answers (fun _ => true) (run.map (·.1)) = run.map (·.2)
      ∧ Undisturbed number (dropped.takes calls) (own.takes (run.map (·.1))) := by
  intro before dropped own run
  have same : before = origin.acts (stepwise early) := takes_eq_acts origin early
  have settledToo : before.Settled := settled.takes early
  have stays : dropped.Settled :=
    ⟨settledToo.orderly, settledToo.listed, settledToo.timed, settledToo.line⟩
  rw [takes_eq_acts] at live
  obtain ⟨drop, silent, replies, undisturbed⟩ :=
    dropped_silent_in_line settled.inOrder served (stepwise early) live (stepwise calls)
  rw [← same] at live drop silent replies undisturbed
  have drop : before.act (.call (.command number .drop)) = dropped := drop
  have ended : dropped.coordinator? number = some coordinator.drop :=
    coordinator?_put_self (live?_eq_some_iff.mp live).1 coordinator.drop
  have abreast := stays.inOrder.abreast (live?_of_dropped ended)
  have rests : own.settle = own := abreast.rests stays.line
  obtain ⟨last, answers, due⟩ := relievedActs_stepwise (· = number) rests dropped calls
  rw [answers, due] at replies
  rw [last, ← takes_eq_acts] at undisturbed
  refine ⟨?_, silent.silence, replies, undisturbed⟩
  calc (before.take (.command number .drop)).2
    _ = (before.act (.call (.command number .drop))).settle := rfl
    _ = dropped := by rw [drop, stays.settle]

/-- Two coordinators share a manual scheduler that keeps three retries when the first coordinator is
dropped. The other one's retry, in the middle, is fired and posted again, and then all are fired: of
three retries only that one does anything. It is the only one in the world without the others.
-/
theorem dropped_silent_on_shared_scheduler
    : let coordinator : Coordinator :=
        { budget := .ofMillis 4 0 100
          checker := .always false
          factory := fun _ => { action := "update" }
          scheduler := 0 }
      let origin : World :=
        { schedulers := [.manual []]
          agenda := .ofQueues 1
          coordinators := [some coordinator, some coordinator] }
      let early : List Call :=
        [.command 0 .subscribe, .command 0 .tryLaunch, .command 1 .tryLaunch, .command 0 .tryLaunch]
      let dropped := ((origin.takes early).take (.command 0 .drop)).2
      origin.Settled
      ∧ origin.Served 0
      ∧ (∃ last, (origin.takes early).live? 0 = some last)
      ∧ dropped.answers (fun _ => true) [.fireAt 0 1, .fire 0, .mail 0 0 .recv]
        = [.number 1, .number 3, .closed]
      ∧ (dropped.without (· = 0)).answers (fun _ => true) [.fireAt 0 0, .fire 0, .mail 0 0 .recv]
        = [.number 1, .number 1, .closed] := by
  intro coordinator origin early dropped
  have idle : origin.agenda.Idle := ⟨rfl, rfl⟩
  have listed : origin.agenda.Listed := by
    apply idle.listed
    intro number queue there
    rcases number with - | number <;> cases there
    rfl
  have quiet : origin.Quiet := by
    refine ⟨idle, ?_⟩
    intro scheduler queue there
    rcases scheduler with - | scheduler <;> cases there
    rfl
  have served : origin.Served 0 := served_of_idle idle rfl rfl Nat.zero_lt_one rfl
  obtain ⟨last, live⟩ : ∃ last, (origin.takes early).live? 0 = some last := by
    apply Option.isSome_iff_exists.mp
    cbv
  refine ⟨quiet.settled listed, served, ⟨last, live⟩, ?_, ?_⟩
  · simp only [dropped, early, origin, coordinator]
    cbv
  · obtain ⟨same, -, answers, -⟩ := dropped_silent (quiet.settled listed) served early live
      [.fireAt 0 1, .fire 0, .mail 0 0 .recv]
    rw [← same] at answers
    have run
        : dropped.relieved (· = 0) [.fireAt 0 1, .fire 0, .mail 0 0 .recv]
          = [(.fireAt 0 0, .number 1), (.fire 0, .number 1), (.mail 0 0 .recv, .closed)] := by
      simp only [dropped, early, origin, coordinator]
      cbv
    rwa [run] at answers

end World

end UpdaterLaunch
