import UpdaterLaunch.Proofs.RelievedWorlds

/-! Runs of a world and of one that is relieved of the retries of dropped coordinators, act by act
and call by call. A caller who counts the positions on a manual scheduler without these retries gets
the same answers, but for the number of retries that it fires.
-/

namespace UpdaterLaunch

/-- Where a retry stands on a manual queue without the retries of the coordinators that are gone. -/
def Scheduler.position (gone : Nat → Bool) (queue : List (Span × Nat)) (index : Nat) : Nat :=
  index - (queue.take index).countP (gone ·.2)

namespace World

variable {gone : Nat → Bool} {world lone : World} {number scheduler : Nat}

-----------------------------------------------------------------------------------------
-- Calls in a relieved world
-----------------------------------------------------------------------------------------

/-- The manual queue that a call fires from, if it fires any. -/
def Call.queue? (world : World) : Call → Option (List (Span × Nat))
  | .fire scheduler | .fireAt scheduler _ =>
      match world.schedulers[scheduler]? with
      | some (.manual queue) => some queue
      | _ => none
  | _ => none

/-- A call as it is made where the retries of some coordinators are gone, with the answer that is
due there: these retries count neither for a position nor among those that are fired. A call that
fires just one of them is not made at all.
-/
def Call.relieved (gone : Nat → Bool) (world : World) (call : Call) : List (Call × Answer) :=
  match call, call.queue? world with
  | .fire _, some queue => [(call, .number (queue.countP (!gone ·.2)))]
  | .fireAt scheduler index, some queue =>
      if (queue[index]?).any (gone ·.2) then []
      else [(.fireAt scheduler (Scheduler.position gone queue index), (world.take call).1)]
  | _, _ => [(call, (world.take call).1)]

/-- A run as it is made where the retries of some coordinators are gone, with the answers. -/
def relieved (gone : Nat → Bool) (world : World) : List Call → List (Call × Answer)
  | [] => []
  | call :: rest => call.relieved gone world ++ relieved gone (world.take call).2 rest

/-- An act as it is done where the retries of some coordinators are gone, with the answer that is
due there, if it is a call. Such a retry has no turn there.
-/
def Act.relieved (gone : Nat → Bool) (world : World) : Act → List (Act × List Answer)
  | .call asked => (asked.relieved gone world).map fun made => (.call made.1, [made.2])
  | .settle => [(.settle, [])]
  | .turn =>
      if (world.agenda.ready.head?).any (Task.isOf gone ·.task) then [] else [(.turn, [])]

/-- Acts as they are done where the retries of some coordinators are gone, with the answers. -/
def relievedActs (gone : Nat → Bool) (world : World) : List Act → List (Act × List Answer)
  | [] => []
  | act :: rest => act.relieved gone world ++ relievedActs gone (world.act act) rest

theorem Call.of_queue? {queue : List (Span × Nat)}
    (fired : Call.queue? world (.fire scheduler) = some queue)
    : world.schedulers[scheduler]? = some (.manual queue) := by
  simp only [Call.queue?] at fired
  split at fired
  · rename_i there
    rw [there, Option.some.inj fired]
  · cases fired

/-- Only a manual scheduler can be fired. -/
theorem Call.refused_of_unfired (unfired : Call.queue? world (.fire scheduler) = none)
    : world.handle (.fire scheduler) = (.refused .noScheduler, world)
      ∧ ∀ index, world.handle (.fireAt scheduler index) = (.refused .noScheduler, world) := by
  cases there : world.schedulers[scheduler]? with
  | none => simp [handle, there]
  | some kind =>
      cases kind with
      | manual queue => simp [Call.queue?, there] at unfired
      | inline | timed => simp [handle, there]

theorem Call.relieved_nobody (world : World) (call : Call)
    : call.relieved (fun _ => false) world = [(call, call.answer world)] := by
  cases fired : call.queue? world with
  | none =>
      simp only [Call.relieved, fired]
      rfl
  | some queue =>
      cases call with
      | fire scheduler =>
          have there := Call.of_queue? fired
          simp [Call.relieved, fired, Call.answer, Call.request, handle, there, Call.heard]
      | fireAt scheduler index =>
          simp only [Call.relieved, fired, Scheduler.position, Option.any_false,
            Bool.false_eq_true, ↓reduceIte, List.countP_false]
          rfl
      | command | cancel | advance | change | mail => cases fired

/-- If nobody is gone, the acts are the same. -/
theorem relievedActs_nobody (world : World) (acts : List Act)
    : (world.relievedActs (fun _ => false) acts).map (·.1) = acts
      ∧ (world.relievedActs (fun _ => false) acts).flatMap (·.2)
        = world.replies (fun _ => true) acts := by
  induction acts generalizing world with
  | nil => exact ⟨rfl, rfl⟩
  | cons act rest ih =>
      obtain ⟨acts, answers⟩ := ih (world.act act)
      have same
          : act.relieved (fun _ => false) world = [(act, act.reply (fun _ => true) world)] := by
        cases act with
        | call asked => simp [Act.relieved, Call.relieved_nobody, Act.reply]
        | settle => rfl
        | turn =>
            cases first : world.agenda.ready.head? with
            | none => simp [Act.relieved, first, Act.reply]
            | some posting =>
                cases task : posting.task <;> simp [Act.relieved, first, task, Task.isOf, Act.reply]
      simp only [relievedActs, same, List.singleton_append, List.map_cons, List.flatMap_cons, acts,
        answers, replies]
      exact ⟨trivial, trivial⟩

/-- Taking one retry off a manual queue, and then those that are gone, is the same the other way
round.
-/
theorem filter_at {queue : List (Span × Nat)} {index : Nat} {retry : Span × Nat}
    (found : queue[index]? = some retry) (stays : gone retry.2 = false)
    : (queue.filter (!gone ·.2))[Scheduler.position gone queue index]? = some retry
      ∧ (queue.filter (!gone ·.2)).eraseIdx (Scheduler.position gone queue index)
        = (queue.eraseIdx index).filter (!gone ·.2) := by
  obtain ⟨inside, rfl⟩ := List.getElem?_eq_some_iff.mp found
  have parts : queue = queue.take index ++ queue[index] :: queue.drop (index + 1) := by simp
  have position
      : Scheduler.position gone queue index = ((queue.take index).filter (!gone ·.2)).length := by
    have whole := List.length_eq_countP_add_countP (l := queue.take index) (gone ·.2)
    rw [List.length_take, Nat.min_eq_left (Nat.le_of_lt inside)] at whole
    rw [Scheduler.position, ← List.countP_eq_length_filter]
    simp only [Bool.not_eq_true, Bool.decide_eq_false] at whole
    omega
  have kept
      : queue.filter (!gone ·.2)
        = (queue.take index).filter (!gone ·.2)
          ++ queue[index] :: (queue.drop (index + 1)).filter (!gone ·.2) := by
    conv => lhs; rw [parts]
    rw [List.filter_append, List.filter_cons_of_pos (by simpa using stays)]
  rw [position, kept, List.eraseIdx_eq_take_drop_succ queue, List.filter_append]
  constructor
  · simp
  · rw [List.eraseIdx_append_of_length_le (Nat.le_refl _)]
    simp

/-- Taking off a retry that is gone leaves the others. -/
theorem filter_at_of_gone {queue : List (Span × Nat)} {index : Nat} {retry : Span × Nat}
    (found : queue[index]? = some retry) (whose : gone retry.2 = true)
    : (queue.eraseIdx index).filter (!gone ·.2) = queue.filter (!gone ·.2) := by
  obtain ⟨inside, rfl⟩ := List.getElem?_eq_some_iff.mp found
  have parts : queue = queue.take index ++ queue[index] :: queue.drop (index + 1) := by simp
  conv => rhs; rw [parts]
  rw [List.eraseIdx_eq_take_drop_succ, List.filter_append, List.filter_append,
    List.filter_cons_of_neg (by simpa using whose)]

/-- Beyond the end of a manual queue there is nothing, also without the retries that are gone. -/
theorem filter_beyond {queue : List (Span × Nat)} {index : Nat} (beyond : queue[index]? = none)
    : (queue.filter (!gone ·.2))[Scheduler.position gone queue index]? = none := by
  have length := List.getElem?_eq_none_iff.mp beyond
  rw [List.getElem?_eq_none_iff, Scheduler.position, List.take_of_length_le length,
    ← List.countP_eq_length_filter]
  have whole := List.length_eq_countP_add_countP (l := queue) (gone ·.2)
  simp only [Bool.not_eq_true, Bool.decide_eq_false] at whole
  omega

-----------------------------------------------------------------------------------------
-- Handling calls
-----------------------------------------------------------------------------------------

/-- A world and one that is relieved of some retries, at the same time. -/
structure Abreast (gone : Nat → Bool) (world lone : World) : Prop where
  relieved : world.Relieved gone lone
  now : lone.agenda.now = world.agenda.now

namespace Abreast

theorem attempt (abreast : Abreast gone world lone) (number : Nat)
    : Abreast gone (world.attempt number) (lone.attempt number) where
  relieved := abreast.relieved.attempt abreast.now number
  now := by rw [now_attempt, now_attempt, abreast.now]

theorem attempt_other (abreast : Abreast gone world lone) (whose : gone number = true)
    : Abreast gone (world.attempt number) lone where
  relieved := abreast.relieved.attempt_other whose
  now := by rw [now_attempt, abreast.now]

/-- Of the retries that are fired, those that are gone do nothing. -/
theorem attempts (abreast : Abreast gone world lone) (queue : List (Span × Nat))
    : Abreast gone (queue.foldl (fun world retry => world.attempt retry.2) world)
        ((queue.filter (!gone ·.2)).foldl (fun world retry => world.attempt retry.2) lone) := by
  induction queue generalizing world lone with
  | nil => exact abreast
  | cons retry rest ih =>
      cases whose : gone retry.2 with
      | false =>
          rw [List.filter_cons_of_pos (by simpa using whose)]
          exact ih (abreast.attempt retry.2)
      | true =>
          rw [List.filter_cons_of_neg (by simpa using whose)]
          exact ih (abreast.attempt_other whose)

theorem requeue (abreast : Abreast gone world lone) (scheduler : Nat) (queue : List (Span × Nat))
    : Abreast gone { world with schedulers := world.schedulers.set scheduler (.manual queue) }
        { lone with
          schedulers := lone.schedulers.set scheduler (.manual (queue.filter (!gone ·.2))) } :=
  ⟨abreast.relieved.requeue scheduler queue, abreast.now⟩

theorem put (abreast : Abreast gone world lone) {old new : Coordinator}
    (there : world.coordinator? number = some old) (alive : new.alive = true → old.alive = true)
    : Abreast gone (world.put number new) (lone.put number new) :=
  ⟨abreast.relieved.put there alive, abreast.now⟩

theorem cancel (abreast : Abreast gone world lone) (scheduler : Nat) (about : Option Nat)
    : Abreast gone (world.cancel scheduler about) (lone.cancel scheduler about) where
  relieved := abreast.relieved.cancel scheduler about
  now := by rw [now_cancel, now_cancel, abreast.now]

theorem stopRetries (abreast : Abreast gone world lone) (number : Nat)
    : Abreast gone (world.stopRetries number) (lone.stopRetries number) := by
  unfold World.stopRetries
  rw [abreast.relieved.live?]
  cases world.live? number with
  | none => exact abreast
  | some coordinator =>
      have noted := abreast.relieved.note (some number) [.stoppingRetries]
      exact cancel ⟨noted, abreast.now⟩ _ _

theorem subscribe (abreast : Abreast gone world lone) {coordinator : Coordinator}
    (there : world.coordinator? number = some coordinator)
    : Abreast gone (world.subscribe number coordinator) (lone.subscribe number coordinator) := by
  have replaced := abreast.put there
    (id : ({ coordinator with hub := coordinator.hub.subscribe } : Coordinator).alive = true → _)
  refine ⟨{ replaced.relieved with subscriptions := ?_ }, replaced.now⟩
  simp only [World.subscribe, abreast.relieved.subscriptions]

/-- What cannot be fired, cannot be fired in the relieved world, either. -/
theorem unfired (abreast : Abreast gone world lone)
    (unfired : Call.queue? world (.fire scheduler) = none)
    : Call.queue? lone (.fire scheduler) = none := by
  simp only [Call.queue?] at unfired ⊢
  rw [abreast.relieved.scheduler?]
  cases there : world.schedulers[scheduler]? with
  | none => rfl
  | some kind =>
      cases kind with
      | manual queue => simp [there] at unfired
      | inline | timed => rfl

/-- A call that fires nothing is answered in both worlds alike, and does the same in both. -/
theorem handle (abreast : Abreast gone world lone) {call : Call}
    (unfired : call.queue? world = none)
    : call.heard (lone.handle (call.request lone)).2 (lone.handle (call.request lone)).1
        = call.heard (world.handle (call.request world)).2 (world.handle (call.request world)).1
      ∧ Abreast gone (world.handle (call.request world)).2
          (lone.handle (call.request lone)).2 := by
  have subscriptions := abreast.relieved.subscriptions
  cases call with
  | command number order =>
      simp only [Call.request, World.handle, abreast.relieved.live?]
      cases live : world.live? number with
      | none => exact ⟨by cases order <;> rfl, abreast⟩
      | some coordinator =>
          have there := (live?_eq_some_iff.mp live).1
          cases order with
          | tryLaunch => exact ⟨rfl, abreast.attempt number⟩
          | stop => exact ⟨rfl, abreast.stopRetries number⟩
          | drop => exact ⟨rfl, abreast.put there (by simp [Coordinator.drop])⟩
          | subscribe =>
              refine ⟨?_, abreast.subscribe there⟩
              simp [obey, Call.heard, World.subscribe, subscriptions]
          | setLaunchable value =>
              simp only [obey]
              split
              · exact ⟨rfl, abreast.put there id⟩
              · exact ⟨rfl, abreast⟩
  | fire scheduler =>
      obtain ⟨refused, -⟩ := Call.refused_of_unfired unfired
      obtain ⟨refusedToo, -⟩ := Call.refused_of_unfired (abreast.unfired unfired)
      simp only [Call.request, refused, refusedToo]
      exact ⟨rfl, abreast⟩
  | fireAt scheduler index =>
      obtain ⟨-, refused⟩ := Call.refused_of_unfired unfired
      obtain ⟨-, refusedToo⟩ := Call.refused_of_unfired (abreast.unfired unfired)
      simp only [Call.request, refused, refusedToo]
      exact ⟨rfl, abreast⟩
  | cancel scheduler =>
      have length : lone.schedulers.length = world.schedulers.length := by
        rw [abreast.relieved.schedulers, List.length_map]
      simp only [Call.request, World.handle, length]
      split
      · exact ⟨rfl, abreast.cancel scheduler none⟩
      · exact ⟨rfl, abreast⟩
  | advance ms =>
      obtain ⟨advanced, now⟩ := abreast.relieved.advance abreast.now ms
      exact ⟨rfl, advanced, now⟩
  | change what =>
      have changed : Abreast gone (world.change what) (lone.change what) :=
        ⟨abreast.relieved.change what, abreast.now⟩
      simp only [Call.request]
      cases what with
      | install package => exact ⟨rfl, changed⟩
      | uninstall name =>
          simp only [World.handle, abreast.relieved.registry]
          exact ⟨rfl, changed⟩
      | suspend name value =>
          simp only [World.handle, abreast.relieved.registry]
          exact ⟨rfl, changed⟩
  | mail number slot request =>
      simp only [Call.request, World.handle]
      by_cases member : (number, slot) ∈ world.subscriptions
      · rw [mail_of_mem member, mail_of_mem (subscriptions ▸ member),
          abreast.relieved.coordinator?]
        cases there : world.coordinator? number with
        | none => exact ⟨rfl, abreast⟩
        | some coordinator => exact ⟨rfl, abreast.put there id⟩
      · rw [mail_of_not_mem member, mail_of_not_mem (subscriptions ▸ member)]
        exact ⟨rfl, abreast⟩

/-- Whatever a call does, some relieved world stands beside the outcome. -/
theorem handled (abreast : Abreast gone world lone) (call : Call)
    : ∃ alike, Abreast gone (world.handle (call.request world)).2 alike := by
  cases fired : call.queue? world with
  | none => exact ⟨_, (abreast.handle fired).2⟩
  | some queue =>
      cases call with
      | fire scheduler =>
          have there := Call.of_queue? fired
          simp only [Call.request, World.handle, there]
          exact ⟨_, (abreast.requeue scheduler []).attempts queue⟩
      | fireAt scheduler index =>
          have there : world.schedulers[scheduler]? = some (.manual queue) :=
            Call.of_queue? fired
          simp only [Call.request, World.handle, there, World.fireAt]
          split
          · exact ⟨_, (abreast.requeue scheduler (queue.eraseIdx index)).attempt _⟩
          · exact ⟨lone, abreast⟩
      | command | cancel | advance | change | mail => cases fired

-----------------------------------------------------------------------------------------
-- Acts
-----------------------------------------------------------------------------------------

theorem settle (abreast : Abreast gone world lone) : Abreast gone world.settle lone.settle := by
  obtain ⟨settled, now⟩ := abreast.relieved.settle abreast.now
  exact ⟨settled, now⟩

/-- A task that is gone does nothing when it has its turn. -/
theorem turn_other (abreast : Abreast gone world lone) {first : Posting Task}
    {rest : List (Posting Task)} (line : world.agenda.ready = first :: rest)
    (whose : Task.isOf gone first.task = true)
    : Abreast gone (world.act .turn) lone := by
  obtain ⟨task, agenda, turn⟩ := Agenda.exists_turn line
  have kept := abreast.relieved.agenda.turn_other turn line whose
  rw [act_turn turn]
  refine ⟨abreast.relieved.resume_other kept ?_, ?_⟩
  · intro running some
    rw [← turn.runs_first line running some, whose]
  · rw [now_resume, turn.now, abreast.now]

/-- Any other task has its turn in both worlds. -/
theorem turn (abreast : Abreast gone world lone) {first : Posting Task}
    {rest : List (Posting Task)} (line : world.agenda.ready = first :: rest)
    (stays : Task.isOf gone first.task = false)
    : Abreast gone (world.act .turn) (lone.act .turn) := by
  obtain ⟨task, agenda, turn⟩ := Agenda.exists_turn line
  obtain ⟨alike, too, kept, now⟩ := abreast.relieved.agenda.turn turn line stays
  rw [act_turn turn, act_turn too]
  exact ⟨abreast.relieved.resume kept now task, by rw [now_resume, now_resume, now]⟩

/-- While nobody is in line, nobody is in line in the relieved world, either. -/
theorem turn_nobody (abreast : Abreast gone world lone) (line : world.agenda.ready = [])
    : Abreast gone (world.act .turn) (lone.act .turn) := by
  rwa [act_turn_of_nobody line, act_turn_of_nobody (abreast.relieved.agenda.line line)]

/-- A manual scheduler keeps all retries but those that are gone. -/
theorem manual (abreast : Abreast gone world lone) {queue : List (Span × Nat)}
    (there : world.schedulers[scheduler]? = some (.manual queue))
    : lone.schedulers[scheduler]? = some (.manual (queue.filter (!gone ·.2))) := by
  rw [abreast.relieved.scheduler?, there]
  rfl

/-- A call comes to the same in the relieved world as the one call that is made for it there. -/
theorem made {asked made : Call} {answer : Answer}
    (one : asked.relieved gone world = [(made, answer)]) (same : made.answer lone = answer)
    (after
      : Abreast gone (world.handle (asked.request world)).2 (lone.handle (made.request lone)).2)
    : lone.replies (fun _ => true) ((asked.relieved gone world).map (.call ·.1))
        = (asked.relieved gone world).map (·.2)
      ∧ Abreast gone (world.handle (asked.request world)).2
          (lone.acts ((asked.relieved gone world).map (.call ·.1))) := by
  rw [one]
  exact ⟨congrArg (fun answer => [answer]) same, after⟩

/-- One retry is fired at another place, or not at all if it is gone. -/
theorem call_fireAt (abreast : Abreast gone world lone) {queue : List (Span × Nat)}
    (there : world.schedulers[scheduler]? = some (.manual queue)) (index : Nat)
    : let asked := Call.fireAt scheduler index
      lone.replies (fun _ => true) ((asked.relieved gone world).map (.call ·.1))
        = (asked.relieved gone world).map (·.2)
      ∧ Abreast gone (world.handle (asked.request world)).2
          (lone.acts ((asked.relieved gone world).map (.call ·.1))) := by
  intro asked
  have fired : asked.queue? world = some queue := by simp only [asked, Call.queue?, there]
  have moved (stays : (queue[index]?).any (gone ·.2) = false)
      : asked.relieved gone world
        = [(.fireAt scheduler (Scheduler.position gone queue index), asked.answer world)] := by
    simp only [asked, Call.relieved, fired, stays]
    rfl
  have beside := abreast.manual there
  have taken := abreast.requeue scheduler (queue.eraseIdx index)
  cases found : queue[index]? with
  | none =>
      have handled := handle_fireAt_of_none there found
      have handledToo := handle_fireAt_of_none beside (filter_beyond found)
      refine made (moved (by rw [found, Option.any_none])) ?_ ?_
      · exact (congrArg Prod.fst handledToo).trans (congrArg Prod.fst handled).symm
      · simpa only [asked, Call.request, handled, handledToo] using abreast
  | some retry =>
      have handled := handle_fireAt_of_some there found
      cases whose : gone retry.2 with
      | true =>
          have none : asked.relieved gone world = [] := by
            simp only [asked, Call.relieved, fired, found, Option.any_some, whose, ↓reduceIte]
          have less : Abreast gone
              { world with
                schedulers := world.schedulers.set scheduler (.manual (queue.eraseIdx index)) }
              lone :=
            ⟨abreast.relieved.requeue_other there (filter_at_of_gone found whose), abreast.now⟩
          rw [none]
          refine ⟨rfl, ?_⟩
          simp only [asked, Call.request, handled]
          exact less.attempt_other whose
      | false =>
          obtain ⟨foundToo, rest⟩ := filter_at found whose
          have handledToo := handle_fireAt_of_some beside foundToo
          rw [rest] at handledToo
          refine made (moved (by simpa only [found, Option.any_some] using whose)) ?_ ?_
          · exact (congrArg Prod.fst handledToo).trans (congrArg Prod.fst handled).symm
          · simpa only [asked, Call.request, handled, handledToo] using taken.attempt retry.2

/-- What a call comes to, it comes to in the relieved world, where it is made as it has to be. -/
theorem call (abreast : Abreast gone world lone) (asked : Call)
    : lone.replies (fun _ => true) ((asked.relieved gone world).map (.call ·.1))
        = (asked.relieved gone world).map (·.2)
      ∧ Abreast gone (world.handle (asked.request world)).2
          (lone.acts ((asked.relieved gone world).map (.call ·.1))) := by
  cases fired : asked.queue? world with
  | none =>
      have plain : asked.relieved gone world = [(asked, asked.answer world)] := by
        simp only [Call.relieved, fired]
        rfl
      obtain ⟨answer, after⟩ := abreast.handle fired
      exact made plain answer after
  | some queue =>
      cases asked with
      | fire scheduler =>
          have there := Call.of_queue? fired
          have beside := abreast.manual there
          have fewer : (Call.fire scheduler).relieved gone world
              = [(.fire scheduler, .number (queue.countP (!gone ·.2)))] := by
            simp only [Call.relieved, fired]
          refine made fewer ?_ ?_
          · simp only [Call.answer, Call.request, handle_fire beside, Call.heard,
              List.countP_eq_length_filter]
          · simp only [Call.request, handle_fire there, handle_fire beside]
            exact (abreast.requeue scheduler []).attempts queue
      | fireAt scheduler index => exact abreast.call_fireAt (Call.of_queue? fired) index
      | command | cancel | advance | change | mail => cases fired

/-- What an act comes to, it comes to in the relieved world, where it is done as it has to be. -/
theorem act (abreast : Abreast gone world lone) (act : Act)
    : lone.replies (fun _ => true) ((act.relieved gone world).map (·.1))
        = (act.relieved gone world).flatMap (·.2)
      ∧ Abreast gone (world.act act) (lone.acts ((act.relieved gone world).map (·.1))) := by
  cases act with
  | call asked =>
      obtain ⟨answers, after⟩ := abreast.call asked
      simp only [Act.relieved, List.map_map, List.flatMap_map, ← List.map_eq_flatMap]
      exact ⟨answers, after⟩
  | settle => exact ⟨rfl, abreast.settle⟩
  | turn =>
      cases line : world.agenda.ready with
      | nil =>
          simp only [Act.relieved, line, List.head?_nil, Option.any_none, Bool.false_eq_true,
            ↓reduceIte]
          exact ⟨rfl, abreast.turn_nobody line⟩
      | cons first rest =>
          cases whose : Task.isOf gone first.task with
          | true =>
              simp only [Act.relieved, line, List.head?_cons, Option.any_some, whose, ↓reduceIte]
              exact ⟨rfl, abreast.turn_other line whose⟩
          | false =>
              simp only [Act.relieved, line, List.head?_cons, Option.any_some, whose,
                Bool.false_eq_true, ↓reduceIte]
              exact ⟨rfl, abreast.turn line whose⟩

/-- So whatever happens comes to the same in both worlds, by induction on the acts. -/
theorem acts (abreast : Abreast gone world lone) (acts : List Act)
    : lone.replies (fun _ => true) ((world.relievedActs gone acts).map (·.1))
        = (world.relievedActs gone acts).flatMap (·.2)
      ∧ Abreast gone (world.acts acts) (lone.acts ((world.relievedActs gone acts).map (·.1))) := by
  induction acts generalizing world lone with
  | nil => exact ⟨rfl, abreast⟩
  | cons act rest ih =>
      obtain ⟨answer, after⟩ := abreast.act act
      obtain ⟨answers, last⟩ := ih after
      simp only [relievedActs, List.map_append, List.flatMap_append, replies_append, acts_append,
        answer, answers]
      exact ⟨trivial, last⟩

/-- While nobody is in line, nothing is due in the relieved world, either. -/
theorem rests (abreast : Abreast gone world lone) (line : world.agenda.ready = [])
    : lone.settle = lone := by
  apply settle_of_line (abreast.relieved.agenda.line line)
  intro other member
  obtain ⟨posting, inside, -, due⟩ := abreast.relieved.agenda.asleep member
  rw [due, abreast.now]
  exact abreast.relieved.agenda.orderly.asleep posting inside

end Abreast

-----------------------------------------------------------------------------------------
-- Calls one step after the other
-----------------------------------------------------------------------------------------

/-- At most one call is made for a call. -/
theorem Call.relieved_cases (gone : Nat → Bool) (world : World) (call : Call)
    : call.relieved gone world = [] ∨ ∃ made, call.relieved gone world = [made] := by
  unfold Call.relieved
  split
  · exact .inr ⟨_, rfl⟩
  · split
    · exact .inl rfl
    · exact .inr ⟨_, rfl⟩
  · exact .inr ⟨_, rfl⟩

/-- Where all that is due has run, calls one step after the other come to the same if some of them
are not made, as all that is left of these is to let run what is due.
-/
theorem relievedActs_stepwise (gone : Nat → Bool) (rests : lone.settle = lone) (world : World)
    (calls : List Call)
    : lone.acts ((world.relievedActs gone (stepwise calls)).map (·.1))
        = lone.takes ((world.relieved gone calls).map (·.1))
      ∧ lone.replies (fun _ => true) ((world.relievedActs gone (stepwise calls)).map (·.1))
        = lone.answers (fun _ => true) ((world.relieved gone calls).map (·.1))
      ∧ (world.relievedActs gone (stepwise calls)).flatMap (·.2)
        = (world.relieved gone calls).map (·.2) := by
  induction calls generalizing world lone with
  | nil => exact ⟨rfl, rfl, rfl⟩
  | cons call rest ih =>
      have parts : world.relievedActs gone (stepwise (call :: rest))
          = (call.relieved gone world).map (fun made => (.call made.1, [made.2]))
            ++ (.settle, []) :: (world.take call).2.relievedActs gone (stepwise rest) :=
        rfl
      rcases Call.relieved_cases gone world call with none | ⟨made, one⟩
      · have settled : lone.act .settle = lone := rests
        obtain ⟨last, answers, same⟩ := ih rests (world.take call).2
        simp only [parts, none, relieved, List.map_nil, List.nil_append, List.map_cons,
          List.flatMap_cons, ← last, ← answers, ← same, acts, List.foldl_cons, replies, settled]
        exact ⟨trivial, rfl, trivial⟩
      · have settled : (lone.take made.1).2.settle = (lone.take made.1).2 := settle_settle _
        obtain ⟨last, answers, same⟩ := ih settled (world.take call).2
        simp only [parts, one, relieved, List.map_cons, List.map_nil, List.singleton_append,
          List.flatMap_cons, ← same]
        exact ⟨last, congrArg ((lone.take made.1).1 :: ·) answers, rfl⟩

-----------------------------------------------------------------------------------------
-- Worlds in order
-----------------------------------------------------------------------------------------

/-- The tasks that are still to run are in order, on queues of timed schedulers that list them. They
may be asleep or in line.
-/
structure InOrder (world : World) : Prop where
  orderly : world.agenda.Orderly
  listed : world.agenda.Listed
  timed : world.Timed

namespace InOrder

theorem relieved (ordered : world.InOrder)
    (dead : ∀ number, gone number = true → world.live? number = none)
    : world.Relieved gone (world.without gone) :=
  relieved_without ordered.orderly ordered.listed.sound dead

/-- Whatever happens, the tasks stay in order. -/
theorem acts (ordered : world.InOrder) (acts : List Act) : (world.acts acts).InOrder where
  orderly := by
    have relieved : world.Relieved (fun _ => false) (world.without fun _ => false) :=
      ordered.relieved (by simp)
    have abreast : Abreast (fun _ => false) world (world.without fun _ => false) := ⟨relieved, rfl⟩
    exact (abreast.acts acts).2.relieved.agenda.orderly
  listed := lasting_listed.acts ordered.listed fun _ _ _ => id
  timed := lasting_timed.acts ordered.timed fun _ _ _ => id

theorem takes (ordered : world.InOrder) (calls : List Call) : (world.takes calls).InOrder := by
  rw [takes_eq_acts]
  exact ordered.acts _

/-- A world may be relieved of the retries of a coordinator that was dropped. -/
theorem abreast (ordered : world.InOrder) (dead : world.live? number = none)
    : Abreast (· = number) world (world.without (· = number)) := by
  refine ⟨ordered.relieved ?_, rfl⟩
  intro other whose
  rwa [of_decide_eq_true whose]

end InOrder

/-- A world between two calls: what is due has run, and the tasks that are still to run are in
order, on queues of timed schedulers that list them.
-/
structure Settled (world : World) : Prop where
  orderly : world.agenda.Orderly
  listed : world.agenda.Listed
  timed : world.Timed
  line : world.agenda.ready = []

namespace Settled

theorem inOrder (settled : world.Settled) : world.InOrder :=
  ⟨settled.orderly, settled.listed, settled.timed⟩

theorem settle (settled : world.Settled) : world.settle = world :=
  settle_of_line settled.line settled.orderly.asleep

theorem takes (settled : world.Settled) (calls : List Call) : (world.takes calls).Settled :=
  have ordered := settled.inOrder.takes calls
  ⟨ordered.orderly, ordered.listed, ordered.timed, ready_takes settled.line calls⟩

end Settled

/-- Where nothing is pending at all, nothing is due. -/
theorem Quiet.settled (quiet : world.Quiet) (listed : world.agenda.Listed) : world.Settled where
  orderly := quiet.idle.orderly
  listed := listed
  timed := by simp [Timed, quiet.idle.waiting]
  line := quiet.idle.ready

end World

end UpdaterLaunch
