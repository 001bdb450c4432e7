import UpdaterLaunch.Proofs.RelievedRuns

/-! What is left of a dropped coordinator. Nobody touches it any more but its subscribers, and each
of its retries stays where it is until it is due, fired or cancelled.
-/

namespace UpdaterLaunch.World

variable {world lone before middle after : World} {gone : Nat → Bool} {number scheduler : Nat}
  {stays more : Posting Task → Bool}

-----------------------------------------------------------------------------------------
-- Leaving a coordinator alone
-----------------------------------------------------------------------------------------

/-- The retries of a coordinator on the agenda, those of a kind. -/
def retriesOf (world : World) (number : Nat) (stays : Posting Task → Bool)
    : List (Posting Task) :=
  world.agenda.tasks.filter fun posting => isRetryOf number posting && stays posting

/-- As a world moves on, a coordinator is as it was, with its subscriptions and its retries; of
those on the agenda only a certain kind is looked at.
-/
structure LeavesAlone (number : Nat) (stays : Posting Task → Bool) (before after : World) : Prop
    where
  coordinator : after.coordinator? number = before.coordinator? number
  subscriptions : after.subscriptions = before.subscriptions
  queues
    : ∀ (scheduler : Nat) (queue : List (Span × Nat)),
        before.schedulers[scheduler]? = some (.manual queue)
        → ∃ later,
            after.schedulers[scheduler]? = some (.manual later)
            ∧ later.filter (·.2 = number) = queue.filter (·.2 = number)
  tasks : (after.retriesOf number stays).Perm (before.retriesOf number stays)

namespace LeavesAlone

/-- A world in which no scheduler is touched leaves everybody alone whose tasks are the same. -/
theorem of_tasks (coordinator : after.coordinator? number = before.coordinator? number)
    (subscriptions : after.subscriptions = before.subscriptions)
    (schedulers : after.schedulers = before.schedulers)
    (tasks : (after.retriesOf number stays).Perm (before.retriesOf number stays))
    : LeavesAlone number stays before after :=
  ⟨coordinator, subscriptions, fun _ queue there => ⟨queue, schedulers ▸ there, rfl⟩, tasks⟩

theorem refl (world : World) : LeavesAlone number stays world world :=
  of_tasks rfl rfl rfl (.refl _)

theorem trans (first : LeavesAlone number stays before middle)
    (second : LeavesAlone number stays middle after)
    : LeavesAlone number stays before after where
  coordinator := second.coordinator.trans first.coordinator
  subscriptions := second.subscriptions.trans first.subscriptions
  queues scheduler queue there := by
    obtain ⟨between, found, same⟩ := first.queues scheduler queue there
    obtain ⟨later, now, still⟩ := second.queues scheduler between found
    exact ⟨later, now, still.trans same⟩
  tasks := second.tasks.trans first.tasks

theorem post_other (world : World) {other : Nat} (ne : other ≠ number) (scheduler : Nat)
    (delay : Span)
    : LeavesAlone number stays world (world.post scheduler delay other) := by
  unfold World.post
  split
  · rename_i queue there
    refine ⟨rfl, rfl, ?_, .refl _⟩
    intro which own found
    by_cases same : scheduler = which
    · subst same
      obtain rfl := Scheduler.manual.inj (Option.some.inj (there.symm.trans found))
      refine ⟨_, List.getElem?_set_self (List.getElem?_eq_some_iff.mp there).1, ?_⟩
      simp [ne]
    · exact ⟨own, (List.getElem?_set_ne same).trans found, rfl⟩
  · refine of_tasks rfl rfl rfl ?_
    cases there : world.agenda.queues[scheduler]? with
    | none => simp only [retriesOf, World.note, Agenda.post, there, List.Perm.refl]
    | some q =>
        have posted := (Agenda.tasks_post_perm there delay.ticks (Task.retry other)).filter
          fun posting => isRetryOf number posting && stays posting
        rw [List.filter_cons_of_neg (by simp [isRetryOf, ne])] at posted
        exact posted
  · exact .refl _
  · exact .refl _

/-- An attempt leaves a dropped coordinator alone, whoever makes it. -/
theorem attempt (dead : world.live? number = none) (other : Nat)
    : LeavesAlone number stays world (world.attempt other) := by
  by_cases own : other = number
  · subst own
    rw [attempt_of_gone dead]
    exact .refl _
  · refine attempt_keeps (P := LeavesAlone number stays world) ?_ ?_ (.refl _)
    · intro middle alone cycle
      have same : (middle.recorded other cycle).coordinator? number = middle.coordinator? number :=
        coordinator?_put_of_ne middle cycle.after (Ne.symm own)
      exact alone.trans (of_tasks same rfl rfl (.refl _))
    · intro middle alone scheduler delay
      exact alone.trans (post_other _ own scheduler delay)

theorem dead (alone : LeavesAlone number stays before after) (dead : before.live? number = none)
    : after.live? number = none := by
  simpa only [live?, alone.coordinator] using dead

theorem attempts (dead : world.live? number = none) (queue : List (Span × Nat))
    : LeavesAlone number stays world
        (queue.foldl (fun world retry => world.attempt retry.2) world) := by
  induction queue generalizing world with
  | nil => exact .refl _
  | cons retry rest ih =>
      have first : LeavesAlone number stays world (world.attempt retry.2) := attempt dead retry.2
      exact first.trans (ih (first.dead dead))

/-- A turn before a time leaves those retries alone that are due at that time or later. -/
theorem turn (orderly : world.agenda.Orderly) {time : Nat} (early : world.agenda.now < time)
    {task : Option Task} {agenda : Agenda Task} (turn : world.agenda.Turn task agenda)
    : LeavesAlone number (time ≤ ·.due) world { world with agenda } := by
  refine of_tasks rfl rfl rfl ?_
  cases task with
  | none =>
      obtain ⟨ran, tasks, perm⟩ := turn.tasks_perm
      obtain rfl : ran = [] := List.map_eq_nil_iff.mp tasks
      exact (perm.filter _).symm
  | some running =>
      obtain ⟨posting, -, due, perm⟩ := orderly.runs turn
      have kept := perm.filter fun posting =>
        isRetryOf number posting && decide (time ≤ posting.due)
      rw [List.filter_cons_of_neg (by simp [due, early])] at kept
      exact kept.symm

theorem change (world : World) (change : Registry.Change)
    : LeavesAlone number stays world (world.change change) :=
  of_tasks rfl rfl rfl (.refl _)

theorem moveTo (world : World) (time : Nat)
    : LeavesAlone number stays world (world.moveTo time) := by
  refine of_tasks rfl rfl rfl ?_
  simp only [retriesOf, World.moveTo, Agenda.tasks_moveTo, List.Perm.refl]

/-- Whoever has a turn leaves those retries alone that are not due yet. -/
theorem resume (dead : world.live? number = none) (orderly : world.agenda.Orderly) {time : Nat}
    (early : world.agenda.now < time) {task : Option Task} {agenda : Agenda Task}
    (next : world.agenda.Turn task agenda)
    : LeavesAlone number (time ≤ ·.due) world (world.resume (task, agenda)) := by
  have taken : LeavesAlone number (time ≤ ·.due) world { world with agenda } :=
    turn orderly early next
  cases task with
  | none => exact taken
  | some running =>
      cases running with
      | retry other => exact taken.trans (attempt (taken.dead dead) other)
      | change what => exact taken.trans (change _ what)

/-- Whatever wakes before a time leaves those retries alone that are due at that time or later. -/
theorem wake (dead : world.live? number = none) (orderly : world.agenda.Orderly) {time : Nat}
    (early : world.agenda.now < time) (woken : world.wake? time = some after)
    : LeavesAlone number (time ≤ ·.due) world after := by
  obtain ⟨⟨task, agenda⟩, next, rfl⟩ := Option.map_eq_some_iff.mp woken
  rcases Agenda.wake?_cases next with turned | ⟨rfl, -, due, -, -, rfl⟩
  · exact resume dead orderly early turned
  · exact moveTo world due

/-- What runs before a time leaves the retries alone that are due at that time or later, and of a
dropped coordinator no other retries are left then. By induction on the wakings.
-/
theorem runBefore (relieved : world.Relieved gone lone) (whose : gone number = true) {time : Nat}
    (early : world.agenda.now < time)
    : LeavesAlone number (time ≤ ·.due) world (world.runBefore time)
      ∧ ∀ posting ∈ (world.runBefore time).agenda.tasks, time ≤ posting.due := by
  obtain ⟨alone, ⟨other, still⟩, -⟩
      : LeavesAlone number (time ≤ ·.due) world (world.runBefore time)
        ∧ (∃ other, (world.runBefore time).Relieved gone other)
        ∧ (world.runBefore time).agenda.now < time := by
    refine exhaust_keeps (P := fun later : World => LeavesAlone number (time ≤ ·.due) world later
      ∧ (∃ other, later.Relieved gone other) ∧ later.agenda.now < time) ?_
      ⟨.refl _, ⟨lone, relieved⟩, early⟩
    rintro later next woken ⟨alone, ⟨other, beside⟩, early⟩
    refine ⟨alone.trans (wake (beside.dead number whose) beside.agenda.orderly early woken), ?_,
      (now_wake early woken).2⟩
    rcases beside.wake woken with unseen | ⟨alike, -, seen⟩
    · exact ⟨other, unseen⟩
    · exact ⟨alike, seen⟩
  refine ⟨alone, ?_⟩
  have rests := Option.map_eq_none_iff.mp (world.wake?_runBefore time)
  obtain ⟨line, later⟩ := still.agenda.orderly.nobody rests
  intro posting member
  have waits := (List.mem_filter.mp member).1
  rw [line, List.nil_append] at waits
  exact later posting waits

end LeavesAlone

-----------------------------------------------------------------------------------------
-- What calls leave
-----------------------------------------------------------------------------------------

/-- Whether a call cancels what a scheduler keeps on the agenda. -/
def Call.cancels (world : World) (scheduler : Nat) : Call → Bool
  | .cancel other => other = scheduler
  | .command number .stop => (world.live? number).any (·.scheduler = scheduler)
  | _ => false

/-- What a call leaves of the retries that a manual scheduler keeps. -/
def Call.leaves (world : World) (scheduler : Nat) (call : Call) (queue : List (Span × Nat))
    : List (Span × Nat) :=
  match call with
  | .fire other => if other = scheduler then [] else queue
  | .fireAt other index => if other = scheduler then queue.eraseIdx index else queue
  | _ => if call.cancels world scheduler then [] else queue

/-- What a call asks of a coordinator's hub on behalf of its subscribers. -/
def Call.mails (world : World) (number : Nat) : Call → List Hub.Request
  | .mail other slot request =>
      if other = number ∧ (other, slot) ∈ world.subscriptions then [.mail slot request] else []
  | _ => []

theorem Call.leaves_eq_self {call : Call} {queue : List (Span × Nat)}
    (unfired : call.queue? world = none) (keeps : call.cancels world scheduler = false)
    (there : world.schedulers[scheduler]? = some (.manual queue))
    : call.leaves world scheduler queue = queue := by
  cases call with
  | fire other | fireAt other index =>
      have ne : other ≠ scheduler := by
        rintro rfl
        simp [Call.queue?, there] at unfired
      simp [Call.leaves, ne]
  | command | cancel | advance | change | mail => simp [Call.leaves, keeps]

/-- What is left of a dropped coordinator by a call: it serves its subscribers and does nothing
else. Retries on a manual scheduler stay there until they are fired or cancelled, and those on the
agenda until they are due or cancelled.
-/
structure Call.Spares (number time : Nat) (call : Call) (before after : World) : Prop where
  coordinator
    : after.coordinator? number
      = (before.coordinator? number).map fun coordinator =>
          { coordinator with hub := coordinator.hub.after (call.mails before number) }
  subscriptions : before.subscriptions <+: after.subscriptions
  queues
    : ∀ (scheduler : Nat) (queue : List (Span × Nat)),
        before.schedulers[scheduler]? = some (.manual queue)
        → ∃ later,
            after.schedulers[scheduler]? = some (.manual later)
            ∧ later.filter (·.2 = number)
              = (call.leaves before scheduler queue).filter (·.2 = number)
  tasks
    : (after.agenda.tasks.filter (isRetryOf number)).Perm
        (before.retriesOf number fun posting =>
          !call.cancels before posting.queue && decide (time ≤ posting.due))

namespace Call.Spares

variable {call : Call}

theorem served (unasked : call.mails before number = [])
    : before.coordinator? number
      = (before.coordinator? number).map fun coordinator =>
          { coordinator with hub := coordinator.hub.after (call.mails before number) } := by
  rw [unasked]
  exact Option.map_id'.symm

/-- A call that serves the subscribers of a coordinator, takes retries off manual queues and then
leaves the coordinator alone, spares it.
-/
theorem of_middle {time : Nat}
    (coordinator
      : middle.coordinator? number
        = (before.coordinator? number).map fun coordinator =>
            { coordinator with hub := coordinator.hub.after (call.mails before number) })
    (subscriptions : middle.subscriptions = before.subscriptions)
    (queues
      : ∀ (scheduler : Nat) (queue : List (Span × Nat)),
          before.schedulers[scheduler]? = some (.manual queue)
          → middle.schedulers[scheduler]? = some (.manual (call.leaves before scheduler queue)))
    (agenda : middle.agenda = before.agenda)
    (keeps : ∀ scheduler, call.cancels before scheduler = false)
    (alone : LeavesAlone number (time ≤ ·.due) middle after)
    (later : ∀ posting ∈ after.agenda.tasks, time ≤ posting.due)
    : call.Spares number time before after where
  coordinator := alone.coordinator.trans coordinator
  subscriptions := by rw [alone.subscriptions, subscriptions]
  queues scheduler queue there := alone.queues scheduler _ (queues scheduler queue there)
  tasks := by
    have all : after.agenda.tasks.filter (isRetryOf number)
        = after.retriesOf number (time ≤ ·.due) := by
      refine List.filter_congr ?_
      intro posting member
      simp [later posting member]
    rw [all]
    refine alone.tasks.trans (.of_eq ?_)
    simp only [retriesOf, agenda, keeps, Bool.not_false, Bool.true_and]

/-- A call that fires and cancels nothing spares whomever it leaves alone. -/
theorem of_alone {time : Nat} (unfired : call.queue? before = none)
    (keeps : ∀ scheduler, call.cancels before scheduler = false)
    (unasked : call.mails before number = [])
    (alone : LeavesAlone number (time ≤ ·.due) before after)
    (later : ∀ posting ∈ after.agenda.tasks, time ≤ posting.due)
    : call.Spares number time before after := by
  refine of_middle (served unasked) rfl ?_ rfl keeps alone later
  intro scheduler queue there
  rw [leaves_eq_self unfired (keeps scheduler) there, there]

/-- What is due when a call was handled runs as no-ops, and all else waits. -/
theorem settle {time : Nat} (spares : call.Spares number time before after)
    (relieved : after.Relieved gone lone) (whose : gone number = true)
    (le : time ≤ after.agenda.now + 1)
    : call.Spares number (after.agenda.now + 1) before after.settle := by
  obtain ⟨alone, later⟩ :=
    LeavesAlone.runBefore relieved whose (Nat.lt_succ_self after.agenda.now)
  refine ⟨?_, ?_, ?_, ?_⟩
  · rw [World.settle, alone.coordinator, spares.coordinator]
  · rw [World.settle, alone.subscriptions]
    exact spares.subscriptions
  · intro scheduler queue there
    obtain ⟨between, found, same⟩ := spares.queues scheduler queue there
    obtain ⟨later, now, still⟩ := alone.queues scheduler between found
    exact ⟨later, now, still.trans same⟩
  · have all : after.settle.agenda.tasks.filter (isRetryOf number)
        = after.settle.retriesOf number (after.agenda.now + 1 ≤ ·.due) := by
      refine List.filter_congr ?_
      intro posting member
      simp [later posting member]
    have part : after.retriesOf number (after.agenda.now + 1 ≤ ·.due)
        = (after.agenda.tasks.filter (isRetryOf number)).filter
            (after.agenda.now + 1 ≤ ·.due) := by
      rw [List.filter_filter]
      exact List.filter_congr fun posting _ => Bool.and_comm _ _
    rw [all]
    refine alone.tasks.trans ?_
    rw [part]
    refine (spares.tasks.filter _).trans (.of_eq ?_)
    simp only [retriesOf, List.filter_filter]
    refine List.filter_congr ?_
    intro posting _
    by_cases waits : after.agenda.now + 1 ≤ posting.due
    · simp [waits, Nat.le_trans le waits]
    · simp [waits]

end Call.Spares

/-- Cancelling takes all retries off one scheduler and leaves all others. -/
theorem cancel_leaves (sound : world.agenda.Sound) (timed : world.Timed) (scheduler : Nat)
    (about : Option Nat)
    : (∀ (other : Nat) (queue : List (Span × Nat)),
        world.schedulers[other]? = some (.manual queue)
        → (world.cancel scheduler about).schedulers[other]?
          = some (.manual (if scheduler = other then [] else queue)))
      ∧ (world.cancel scheduler about).agenda.tasks
        = world.agenda.tasks.filter (·.queue ≠ scheduler)
      ∧ (world.cancel scheduler about).subscriptions = world.subscriptions := by
  have all (untimed : world.schedulers[scheduler]? ≠ some .timed)
      : world.agenda.tasks.filter (·.queue ≠ scheduler) = world.agenda.tasks := by
    refine List.filter_eq_self.mpr ?_
    intro posting member
    have kind := timed posting (List.mem_filter.mp member).1
    have ne : posting.queue ≠ scheduler := by
      rintro rfl
      exact untimed kind
    simpa using ne
  have same (unmanual : ∀ queue, world.schedulers[scheduler]? ≠ some (.manual queue))
      (other : Nat) (queue : List (Span × Nat))
      (found : world.schedulers[other]? = some (.manual queue))
      : world.schedulers[other]? = some (.manual (if scheduler = other then [] else queue)) := by
    have ne : scheduler ≠ other := by
      rintro rfl
      exact unmanual queue found
    rw [if_neg ne, found]
  cases there : world.schedulers[scheduler]? with
  | none =>
      simp only [World.cancel, there, all (by simp [there])]
      exact ⟨same (by simp [there]), trivial, trivial⟩
  | some kind =>
      cases kind with
      | manual old =>
          simp only [World.cancel, there, all (by simp [there])]
          refine ⟨?_, trivial, trivial⟩
          intro other queue found
          by_cases own : scheduler = other
          · subst own
            rw [if_pos rfl, List.getElem?_set_self (List.getElem?_eq_some_iff.mp found).1]
          · rw [if_neg own, List.getElem?_set_ne own, found]
      | inline =>
          simp only [World.cancel, there, all (by simp [there])]
          exact ⟨same (by simp [there]), trivial, trivial⟩
      | timed =>
          rw [cancel_of_timed there]
          exact ⟨same (by simp [there]), Agenda.tasks_cancel sound scheduler, rfl⟩

namespace Call.Spares

variable {call : Call}

/-- A call that cancels what one scheduler keeps takes the retries there, and no others. -/
theorem of_cancel (sound : before.agenda.Sound) (timed : before.Timed) (about named : Option Nat)
    (notices : List Notice)
    (leaves
      : ∀ other queue,
          call.leaves before other queue = if scheduler = other then [] else queue)
    (cancels : ∀ other, call.cancels before other = decide (scheduler = other))
    (unasked : call.mails before number = [])
    : call.Spares number 0 before ((before.note named notices).cancel scheduler about) := by
  have soundToo : (before.note named notices).agenda.Sound := sound
  have timedToo : (before.note named notices).Timed := timed
  obtain ⟨queues, tasks, listed⟩ := cancel_leaves soundToo timedToo scheduler about
  refine ⟨?_, ?_, ?_, ?_⟩
  · rw [← served unasked]
    simp only [coordinator?, coordinators_cancel]
    rfl
  · rw [listed]
    exact List.prefix_refl _
  · intro other queue there
    rw [leaves]
    exact ⟨_, queues other queue there, rfl⟩
  · rw [tasks, List.filter_filter]
    refine .of_eq (List.filter_congr ?_)
    intro posting _
    simp [cancels, Ne, eq_comm]

end Call.Spares

/-- No command reaches a dropped coordinator. -/
theorem spares_command (ordered : world.InOrder) (dead : world.live? number = none) (other : Nat)
    (order : Command)
    : (Call.command other order).Spares number 0 world
        (world.handle (.command other order)).2 := by
  simp only [World.handle]
  cases live : world.live? other with
  | none =>
      refine .of_alone rfl ?_ rfl (.refl _) (by simp)
      intro scheduler
      cases order <;> simp [Call.cancels, live]
  | some coordinator =>
      have ne : number ≠ other := by
        rintro rfl
        rw [dead] at live
        cases live
      have replaced (new : Coordinator)
          : LeavesAlone number (0 ≤ ·.due) world (world.put other new) :=
        .of_tasks (coordinator?_put_of_ne world new ne) rfl rfl (.refl _)
      cases order with
      | tryLaunch => exact .of_alone rfl (fun _ => rfl) rfl (.attempt dead other) (by simp)
      | stop =>
          simp only [obey, World.stopRetries, live]
          refine .of_cancel ordered.listed.sound ordered.timed _ _ _ ?_ ?_ ?_
          · simp [Call.leaves, Call.cancels, live]
          · simp [Call.cancels, live]
          · rfl
      | drop => exact .of_alone rfl (fun _ => rfl) rfl (replaced coordinator.drop) (by simp)
      | subscribe =>
          have joined : (Call.command other .subscribe).Spares number 0 world
              (world.put other { coordinator with hub := coordinator.hub.subscribe }) :=
            .of_alone rfl (fun _ => rfl) rfl (replaced _) (by simp)
          exact ⟨joined.coordinator, List.prefix_append _ _, joined.queues, joined.tasks⟩
      | setLaunchable value =>
          simp only [obey]
          split
          · exact .of_alone rfl (fun _ => rfl) rfl (replaced _) (by simp)
          · exact .of_alone rfl (fun _ => rfl) rfl (.refl _) (by simp)

/-- If a call takes retries off one manual queue and then leaves a coordinator alone, it spares it.
-/
theorem Call.Spares.of_fired {call : Call} {queue : List (Span × Nat)}
    (there : world.schedulers[scheduler]? = some (.manual queue))
    (others : ∀ other old, other ≠ scheduler → call.leaves world other old = old)
    (keeps : ∀ other, call.cancels world other = false) (unasked : call.mails world number = [])
    (alone
      : LeavesAlone number (0 ≤ ·.due)
          { world with
            schedulers :=
              world.schedulers.set scheduler (.manual (call.leaves world scheduler queue)) }
          after)
    : call.Spares number 0 world after := by
  refine .of_middle ?_ ?_ ?_ ?_ keeps alone (by simp)
  · exact served unasked
  · rfl
  · intro other old found
    by_cases own : other = scheduler
    · subst own
      obtain rfl := Scheduler.manual.inj (Option.some.inj (there.symm.trans found))
      exact List.getElem?_set_self (List.getElem?_eq_some_iff.mp there).1
    · rw [others other old own]
      exact (List.getElem?_set_ne (Ne.symm own)).trans found
  · rfl

/-- Whatever is fired, a dropped coordinator does nothing. -/
theorem spares_fire (dead : world.live? number = none) (other : Nat)
    : (Call.fire other).Spares number 0 world (world.handle (.fire other)).2 := by
  cases fired : Call.queue? world (.fire other) with
  | none =>
      rw [(Call.refused_of_unfired fired).1]
      exact .of_alone fired (fun _ => rfl) rfl (.refl _) (by simp)
  | some queue =>
      have there := Call.of_queue? fired
      rw [handle_fire there]
      refine .of_fired there ?_ (fun _ => rfl) rfl ?_
      · intro scheduler old ne
        simp [Call.leaves, Ne.symm ne]
      · simp only [Call.leaves, ↓reduceIte]
        have still
            : ({ world with schedulers := world.schedulers.set other (.manual []) }
                : World).live? number = none := dead
        exact .attempts still queue

/-- Whichever retry is fired, a dropped coordinator does nothing. -/
theorem spares_fireAt (dead : world.live? number = none) (other index : Nat)
    : (Call.fireAt other index).Spares number 0 world (world.handle (.fireAt other index)).2 := by
  cases fired : Call.queue? world (.fireAt other index) with
  | none =>
      rw [(Call.refused_of_unfired fired).2]
      exact .of_alone fired (fun _ => rfl) rfl (.refl _) (by simp)
  | some queue =>
      have there : world.schedulers[other]? = some (.manual queue) := Call.of_queue? fired
      refine .of_fired there ?_ (fun _ => rfl) rfl ?_
      · intro scheduler old ne
        simp [Call.leaves, Ne.symm ne]
      · simp only [Call.leaves, ↓reduceIte]
        cases found : queue[index]? with
        | some retry =>
            rw [handle_fireAt_of_some there found]
            have still
                : ({ world with
                    schedulers := world.schedulers.set other (.manual (queue.eraseIdx index)) }
                    : World).live? number = none := dead
            exact .attempt still _
        | none =>
            rw [handle_fireAt_of_none there found]
            obtain ⟨inside, same⟩ := List.getElem?_eq_some_iff.mp there
            have same : world.schedulers.set other (.manual (queue.eraseIdx index))
                = world.schedulers := by
              rw [List.eraseIdx_of_length_le (List.getElem?_eq_none_iff.mp found), ← same,
                List.set_getElem_self]
            rw [same]
            exact .refl _

/-- A subscriber of a dropped coordinator is served from its backlog. -/
theorem spares_mail (other slot : Nat) (request : Hub.Mail)
    : (Call.mail other slot request).Spares number 0 world
        (world.mail (world.subscriptions.idxOf (other, slot)) request).2 := by
  have ignored (unasked : (Call.mail other slot request).mails world number = [])
      : (Call.mail other slot request).Spares number 0 world world :=
    .of_alone rfl (fun _ => rfl) unasked (.refl _) (by simp)
  by_cases member : (other, slot) ∈ world.subscriptions
  · rw [mail_of_mem member]
    by_cases own : other = number
    · subst own
      have asked : (Call.mail other slot request).mails world other = [.mail slot request] := by
        simp [Call.mails, member]
      cases there : world.coordinator? other with
      | none =>
          refine .of_middle ?_ rfl (fun _ _ found => found) rfl (fun _ => rfl) (.refl _) (by simp)
          rw [there, Option.map_none]
      | some coordinator =>
          refine .of_middle ?_ ?_ ?_ ?_ (fun _ => rfl) (.refl _) (by simp)
          · rw [coordinator?_put_self there, asked, there]
            rfl
          · rfl
          · exact fun _ _ found => found
          · rfl
    · have unasked : (Call.mail other slot request).mails world number = [] := by
        simp [Call.mails, own]
      cases there : world.coordinator? other with
      | none => exact ignored unasked
      | some coordinator =>
          refine .of_alone rfl (fun _ => rfl) unasked ?_ (by simp)
          exact .of_tasks (coordinator?_put_of_ne world _ (Ne.symm own)) rfl rfl (.refl _)
  · rw [mail_of_not_mem member]
    exact ignored (by simp [Call.mails, member])

/-- A call that is handled leaves a dropped coordinator alone but for its subscribers. -/
theorem spares_handle (ordered : world.InOrder) (dead : world.live? number = none) (call : Call)
    : ∃ time ≤ (world.handle (call.request world)).2.agenda.now + 1,
        call.Spares number time world (world.handle (call.request world)).2 := by
  cases call with
  | command other order => exact ⟨0, Nat.zero_le _, spares_command ordered dead other order⟩
  | fire other => exact ⟨0, Nat.zero_le _, spares_fire dead other⟩
  | fireAt other index => exact ⟨0, Nat.zero_le _, spares_fireAt dead other index⟩
  | cancel other =>
      have outside (beyond : ¬ other < world.schedulers.length)
          : world.cancel other none = world := by
        simp only [World.cancel, List.getElem?_eq_none (Nat.le_of_not_lt beyond)]
      have cancelled : (Call.cancel other).Spares number 0 world (world.cancel other none) := by
        refine .of_cancel ordered.listed.sound ordered.timed none none [] ?_ ?_ rfl
        · simp [Call.leaves, Call.cancels]
        · simp [Call.cancels]
      refine ⟨0, Nat.zero_le _, ?_⟩
      simp only [Call.request, World.handle]
      split
      · exact cancelled
      · rename_i beyond
        rwa [outside beyond] at cancelled
  | advance ms =>
      simp only [Call.request, World.handle, World.advance]
      split
      · exact ⟨0, Nat.zero_le _, .of_alone rfl (fun _ => rfl) rfl (.refl _) (by simp)⟩
      · rename_i some
        have early : world.agenda.now < world.agenda.now + ms :=
          Nat.lt_add_of_pos_right (Nat.pos_of_ne_zero some)
        obtain ⟨alone, later⟩ :=
          LeavesAlone.runBefore (ordered.abreast dead).relieved (decide_eq_true rfl) early
        refine ⟨world.agenda.now + ms, ?_, ?_⟩
        · exact Nat.le_succ_of_le (Nat.le_max_right _ _)
        · refine .of_alone rfl (fun _ => rfl) rfl (alone.trans (.moveTo _ _)) ?_
          simpa only [World.moveTo, Agenda.tasks_moveTo] using later
  | change what =>
      refine ⟨0, Nat.zero_le _, ?_⟩
      have changed : (Call.change what).Spares number 0 world (world.change what) :=
        .of_alone rfl (fun _ => rfl) rfl (.change world what) (by simp)
      cases what <;> exact changed
  | mail other slot request => exact ⟨0, Nat.zero_le _, spares_mail other slot request⟩

/-- What an act asks of a coordinator's hub on behalf of its subscribers. -/
def Act.mails (world : World) (number : Nat) : Act → List Hub.Request
  | .call asked => asked.mails world number
  | .settle | .turn => []

/-- Whatever happens, a dropped coordinator serves its subscribers and is not changed otherwise. -/
theorem coordinator?_act (ordered : world.InOrder) (dead : world.live? number = none) (act : Act)
    : (world.act act).coordinator? number
        = (world.coordinator? number).map (fun coordinator =>
            { coordinator with hub := coordinator.hub.after (act.mails world number) })
      ∧ world.subscriptions <+: (world.act act).subscriptions := by
  -- what leaves the coordinator alone asks nothing of its hub
  have unasked {after : World}
      (alone : LeavesAlone number (world.agenda.now + 1 ≤ ·.due) world after)
      : after.coordinator? number = (world.coordinator? number).map (fun coordinator =>
          { coordinator with hub := coordinator.hub.after [] })
        ∧ world.subscriptions <+: after.subscriptions :=
    ⟨alone.coordinator.trans Option.map_id'.symm, alone.subscriptions ▸ List.prefix_refl _⟩
  have early := Nat.lt_succ_self world.agenda.now
  cases act with
  | call asked =>
      obtain ⟨time, -, spares⟩ := spares_handle ordered dead asked
      exact ⟨spares.coordinator, spares.subscriptions⟩
  | settle =>
      have beside := (ordered.abreast dead).relieved
      exact unasked (LeavesAlone.runBefore beside (decide_eq_true rfl) early).1
  | turn =>
      cases line : world.agenda.ready with
      | nil =>
          rw [act_turn_of_nobody line]
          exact unasked (.refl world)
      | cons first rest =>
          obtain ⟨task, agenda, turn⟩ := Agenda.exists_turn line
          rw [act_turn turn]
          exact unasked (.resume dead ordered.orderly early turn)

/-- So whatever is called for, a dropped coordinator serves its subscribers, and its retries come to
nothing when they are due.
-/
theorem spares_take (ordered : world.InOrder) (dead : world.live? number = none) (call : Call)
    : call.Spares number ((world.take call).2.agenda.now + 1) world (world.take call).2 := by
  obtain ⟨alike, handled⟩ := (ordered.abreast dead).handled call
  obtain ⟨time, le, spares⟩ := spares_handle ordered dead call
  have now : (world.take call).2.agenda.now = (world.handle (call.request world)).2.agenda.now :=
    now_settle _
  rw [now]
  exact spares.settle handled.relieved (decide_eq_true rfl) le

end UpdaterLaunch.World
