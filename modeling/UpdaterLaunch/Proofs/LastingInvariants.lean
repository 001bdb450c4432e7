import UpdaterLaunch.Proofs.EventDelivery
import UpdaterLaunch.Proofs.PostingOrder
import UpdaterLaunch.Proofs.WorldMoves

/-! What is true of a world for good. A move comes to a few operations, so what each of these keeps
is kept by every run. One such thing is that a queue lists just the tasks that it has still to run,
and that it lists them by their numbers.
-/

namespace UpdaterLaunch

universe u

/-- A coordinator in another state, but on the same scheduler and as far with its cycles as before,
and neither it nor its hub has come to an end.
-/
structure Coordinator.Spared (old new : Coordinator) : Prop where
  scheduler : new.scheduler = old.scheduler
  made : new.made = old.made
  alive : new.alive = old.alive
  opened : new.hub.isOpen = old.hub.isOpen

namespace World

/-- A property of worlds that every operation keeps but for some commands, which are barred:
attempts, turns, the clock, cancelling, changes of the packages, lines in the log, a coordinator
that is spared or dropped, one more subscription, and a manual scheduler that keeps fewer retries
than before. A coordinator that may not be asked to launch has no retry that could run.
-/
structure Lasting (barred : Nat → Command → Prop) (P : World → Prop) : Prop where
  attempt
    : ∀ {world number}, P world → ¬ barred number .tryLaunch → P (world.attempt number)
  turn
    : ∀ {world} {task : Option Task} {agenda},
        P world → world.agenda.Turn task agenda → P { world with agenda }
  woken
    : ∀ {world number agenda},
        P world
        → world.agenda.Turn (some (.retry number)) agenda
        → ¬ barred number .tryLaunch
  clock : ∀ {world}, P world → ∀ time, P (world.moveTo time)
  cancel : ∀ {world}, P world → ∀ scheduler about, P (world.cancel scheduler about)
  change : ∀ {world}, P world → ∀ change, P (world.change change)
  note : ∀ {world}, P world → ∀ about notices, P (world.note about notices)
  put
    : ∀ {world number} {old new : Coordinator},
        P world
        → world.coordinator? number = some old
        → old.Spared new
        → P (world.put number new)
  drop
    : ∀ {world number coordinator},
        P world
        → world.live? number = some coordinator
        → ¬ barred number .drop
        → P (world.put number coordinator.drop)
  listed : ∀ {world}, P world → ∀ subscriptions, P { world with subscriptions }
  requeue
    : ∀ {world scheduler} {queue rest : List (Span × Nat)},
        P world
        → world.schedulers[scheduler]? = some (.manual queue)
        → rest ⊆ queue
        → P { world with schedulers := world.schedulers.set scheduler (.manual rest) }
  fired
    : ∀ {world : World} {scheduler : Nat} {queue : List (Span × Nat)},
        P world
        → world.schedulers[scheduler]? = some (.manual queue)
        → ∀ retry ∈ queue, ¬ barred retry.2 .tryLaunch

/-- No command is barred. -/
def unbarred (_number : Nat) (_command : Command) : Prop := False

namespace Lasting

variable {barred : Nat → Command → Prop} {P : World → Prop} {world later : World}

theorem attempts (lasting : Lasting barred P) (holds : P world) (queue : List (Span × Nat))
    (allowed : ∀ retry ∈ queue, ¬ barred retry.2 .tryLaunch)
    : P (queue.foldl (fun world retry => world.attempt retry.2) world) := by
  induction queue generalizing world with
  | nil => exact holds
  | cons retry rest ih =>
      apply ih (lasting.attempt holds (allowed retry List.mem_cons_self))
      intro other member
      exact allowed other (List.mem_cons_of_mem _ member)

theorem resume (lasting : Lasting barred P) (holds : P world) {task : Option Task}
    {agenda : Agenda Task} (turn : world.agenda.Turn task agenda)
    : P (world.resume (task, agenda)) := by
  have turned := lasting.turn holds turn
  cases task with
  | none => exact turned
  | some task =>
      cases task with
      | retry number => exact lasting.attempt turned (lasting.woken holds turn)
      | change change => exact lasting.change turned change

theorem turn? (lasting : Lasting barred P) (holds : P world) (next : world.turn? = some later)
    : P later := by
  obtain ⟨⟨task, agenda⟩, found, rfl⟩ := Option.map_eq_some_iff.mp next
  exact lasting.resume holds (Agenda.turn_of_turn? found)

theorem wake (lasting : Lasting barred P) (holds : P world) {before : Nat}
    (woken : world.wake? before = some later)
    : P later := by
  obtain ⟨⟨task, agenda⟩, next, rfl⟩ := Option.map_eq_some_iff.mp woken
  rcases Agenda.wake?_cases next with turn | ⟨rfl, -, due, -, -, rfl⟩
  · exact lasting.resume holds turn
  · exact lasting.clock holds due

/-- By induction on the wakings. -/
theorem runBefore (lasting : Lasting barred P) (holds : P world) (before : Nat)
    : P (world.runBefore before) :=
  exhaust_keeps (P := P) (fun _ _ woken holds => lasting.wake holds woken) holds

/-- By induction on the turns. -/
theorem turns (lasting : Lasting barred P) (holds : P world) (count : Nat)
    : P (world.turns count) := by
  fun_induction World.turns count world with
  | case1 world => exact holds
  | case2 count world nobody => exact holds
  | case3 count world next turn ih => exact ih (lasting.turn? holds turn)

theorem advance (lasting : Lasting barred P) (holds : P world) (ms : Nat)
    : P (world.advance ms) := by
  unfold World.advance
  split
  · exact holds
  · exact lasting.clock (lasting.runBefore holds _) _

theorem stopRetries (lasting : Lasting barred P) (holds : P world) (number : Nat)
    : P (world.stopRetries number) := by
  unfold World.stopRetries
  split
  · exact holds
  · exact lasting.cancel (lasting.note holds _ _) _ _

theorem command (lasting : Lasting barred P) (holds : P world) {number : Nat} {command : Command}
    (allowed : ¬ barred number command)
    : P (world.handle (.command number command)).2 := by
  simp only [World.handle]
  cases live : world.live? number with
  | none => exact holds
  | some coordinator =>
      have there := (live?_eq_some_iff.mp live).1
      cases command with
      | tryLaunch => exact lasting.attempt holds allowed
      | stop => exact lasting.stopRetries holds number
      | drop => exact lasting.drop holds live allowed
      | subscribe =>
          have joined
              : P (world.put number { coordinator with hub := coordinator.hub.subscribe }) :=
            lasting.put holds there ⟨rfl, rfl, rfl, rfl⟩
          exact lasting.listed joined _
      | setLaunchable value =>
          simp only [obey]
          split
          · exact lasting.put holds there ⟨rfl, rfl, rfl, rfl⟩
          · exact holds

theorem handle (lasting : Lasting barred P) (holds : P world) (request : Request)
    (allowed : ∀ number command, request = .command number command → ¬ barred number command)
    : P (world.handle request).2 := by
  cases request with
  | command number command => exact lasting.command holds (allowed number command rfl)
  | fire scheduler =>
      simp only [World.handle]
      split
      · rename_i queue there
        exact lasting.attempts (lasting.requeue holds there (List.nil_subset queue)) queue
          (lasting.fired holds there)
      · exact holds
  | fireAt scheduler index =>
      simp only [World.handle]
      split
      · rename_i queue there
        unfold fireAt
        split
        · rename_i delay number found
          have member := List.mem_of_getElem? found
          exact lasting.attempt
            (lasting.requeue holds there (List.eraseIdx_sublist queue index).subset)
            (lasting.fired holds there _ member)
        · exact holds
      · exact holds
  | cancel scheduler =>
      simp only [World.handle]
      split
      · exact lasting.cancel holds _ _
      · exact holds
  | advance ms => exact lasting.advance holds ms
  | change change => cases change <;> exact lasting.change holds _
  | mail subscription request =>
      simp only [World.handle, mail]
      split
      · exact holds
      · split
        · exact holds
        · rename_i number slot _ _ coordinator there
          exact lasting.put holds there
            ⟨rfl, rfl, rfl, (Hub.mail_fixed coordinator.hub slot request).1⟩

theorem move (lasting : Lasting barred P) (holds : P world) (move : Move)
    (allowed
      : ∀ number command, move = .request (.command number command) → ¬ barred number command)
    : P (world.move move) := by
  cases move with
  | request request =>
      exact lasting.handle holds request fun number command same =>
        allowed number command (congrArg Move.request same)
  | settle => exact lasting.runBefore holds _
  | turn =>
      simp only [World.move]
      cases next : world.turn? with
      | none => exact holds
      | some after => exact lasting.turn? holds next
  | clock time => exact lasting.clock holds time

/-- By induction on the moves. -/
theorem after (lasting : Lasting barred P) (holds : P world) {moves : List Move}
    (allowed
      : ∀ number command,
          .request (.command number command) ∈ moves → ¬ barred number command)
    : P (world.after moves) := by
  induction moves generalizing world with
  | nil => exact holds
  | cons move rest ih =>
      apply ih
      · apply lasting.move holds move
        rintro number command rfl
        exact allowed number command List.mem_cons_self
      · intro number command member
        exact allowed number command (List.mem_cons_of_mem _ member)

/-- Two properties that last, last together. -/
theorem and {Q : World → Prop} (first : Lasting unbarred P) (second : Lasting barred Q)
    : Lasting barred fun world => P world ∧ Q world where
  attempt both allowed := ⟨first.attempt both.1 id, second.attempt both.2 allowed⟩
  turn both next := ⟨first.turn both.1 next, second.turn both.2 next⟩
  woken both := second.woken both.2
  clock both time := ⟨first.clock both.1 time, second.clock both.2 time⟩
  cancel both scheduler about :=
    ⟨first.cancel both.1 scheduler about, second.cancel both.2 scheduler about⟩
  change both change := ⟨first.change both.1 change, second.change both.2 change⟩
  note both about notices := ⟨first.note both.1 about notices, second.note both.2 about notices⟩
  put both there spared := ⟨first.put both.1 there spared, second.put both.2 there spared⟩
  drop both live allowed := ⟨first.drop both.1 live id, second.drop both.2 live allowed⟩
  listed both more := ⟨first.listed both.1 more, second.listed both.2 more⟩
  requeue both there fewer := ⟨first.requeue both.1 there fewer, second.requeue both.2 there fewer⟩
  fired both := second.fired both.2

theorem congr {Q : World → Prop} (lasting : Lasting barred P) (same : ∀ world, Q world ↔ P world)
    : Lasting barred Q := by
  obtain rfl : Q = P := funext fun world => propext (same world)
  exact lasting

end Lasting

/-- What posts keep of an agenda, attempts keep. -/
theorem agenda_attempt {P : Agenda Task → Prop}
    (post : ∀ {agenda}, P agenda → ∀ queue delay task, P (agenda.post queue delay task))
    {world : World} (holds : P world.agenda) (number : Nat)
    : P (world.attempt number).agenda := by
  refine attempt_keeps (P := fun after => P after.agenda) (fun holds _ => holds) ?_ holds
  intro world holds scheduler delay
  unfold World.post
  split
  · exact holds
  · exact post holds _ _ _
  · exact holds
  · exact holds

/-- What posts, cancels, turns and the clock keep of an agenda lasts. -/
theorem lasting_agenda {P : Agenda Task → Prop}
    (post : ∀ {agenda}, P agenda → ∀ queue delay task, P (agenda.post queue delay task))
    (cancel : ∀ {agenda}, P agenda → ∀ queue, P (agenda.cancel queue))
    (turn : ∀ {agenda after} {task : Option Task}, P agenda → agenda.Turn task after → P after)
    (clock : ∀ {agenda}, P agenda → ∀ time, P (agenda.moveTo time))
    : Lasting unbarred fun world => P world.agenda where
  attempt holds _ := agenda_attempt post holds _
  turn holds next := turn holds next
  woken _ _ := id
  clock holds time := clock holds time
  cancel holds scheduler _ :=
    cancel_keeps (P := fun after => P after.agenda) holds holds (cancel holds scheduler)
  change holds _ := holds
  note holds _ _ := holds
  put holds _ _ := holds
  drop holds _ _ := holds
  listed holds _ := holds
  requeue holds _ _ := holds
  fired _ _ _ _ := id

end World

-----------------------------------------------------------------------------------------
-- Queues list what they have still to run
-----------------------------------------------------------------------------------------

namespace Agenda

variable {τ : Type u} {agenda after : Agenda τ}

/-- The numbers of the tasks of a queue that are still to run. -/
def toRun (agenda : Agenda τ) (queue : Nat) : List Nat :=
  (agenda.tasks.filter (·.queue = queue)).map (·.id)

/-- An agenda is sound, and every queue lists the tasks that it has still to run. -/
structure Listed (agenda : Agenda τ) : Prop where
  sound : agenda.Sound
  pending
    : ∀ (number : Nat) (queue : Queue),
        agenda.queues[number]? = some queue → queue.pending.Perm (agenda.toRun number)

theorem Idle.listed (idle : agenda.Idle)
    (empty
      : ∀ (number : Nat) (queue : Queue),
          agenda.queues[number]? = some queue → queue.pending = [])
    : agenda.Listed where
  sound := idle.sound
  pending number queue there := by
    rw [empty number queue there, toRun, idle.tasks]
    exact .nil

namespace Listed

/-- What is still to run on a queue is counted by it; a queue that is not there has nothing. -/
theorem count (listed : agenda.Listed) (queue : Nat)
    : agenda.pending queue = agenda.tasks.countP (·.queue = queue) := by
  unfold Agenda.pending
  cases there : agenda.queues[queue]? with
  | some q =>
      simp only [Option.map_some, Option.getD_some, (listed.pending queue q there).length_eq,
        toRun, List.length_map, List.countP_eq_length_filter]
  | none =>
      simp only [Option.map_none, Option.getD_none]
      symm
      rw [List.countP_eq_zero]
      intro posting member own
      obtain ⟨q, found, -⟩ := listed.sound posting (List.mem_filter.mp member).1
      rw [of_decide_eq_true own, there] at found
      cases found

theorem post (listed : agenda.Listed) (queue delay : Nat) (task : τ)
    : (agenda.post queue delay task).Listed where
  sound := listed.sound.post queue delay task
  pending number q there := by
    cases posts : agenda.queues[queue]? with
    | none =>
        have same : agenda.post queue delay task = agenda := by simp only [Agenda.post, posts]
        rw [same] at there ⊢
        exact listed.pending number q there
    | some old =>
        have tasks := ((tasks_post_perm posts delay task).filter (·.queue = number)).map (·.id)
        refine .trans ?_ tasks.symm
        simp only [Agenda.post, posts] at there
        -- the queue that was posted on has the new task at its end, every other one is as before
        by_cases own : queue = number
        · subst own
          rw [List.getElem?_set_self (List.getElem?_eq_some_iff.mp posts).1] at there
          obtain rfl := Option.some.inj there
          simp only [List.filter_cons, decide_true, ↓reduceIte, List.map_cons]
          exact List.perm_append_singleton _ _ |>.trans ((listed.pending queue old posts).cons _)
        · rw [List.getElem?_set_ne own] at there
          simp only [List.filter_cons, own, decide_false, Bool.false_eq_true, ↓reduceIte]
          exact listed.pending number q there

theorem cancel (listed : agenda.Listed) (queue : Nat) : (agenda.cancel queue).Listed where
  sound := listed.sound.cancel queue
  pending number q there := by
    simp only [Agenda.cancel, List.getElem?_modify] at there
    obtain ⟨old, found, rfl⟩ := Option.map_eq_some_iff.mp there
    simp only [toRun, tasks_cancel listed.sound, List.filter_filter]
    by_cases own : queue = number
    · subst own
      simp
    · have same (posting : Posting τ)
          : (decide (posting.queue = number) && decide (posting.queue ≠ queue))
            = decide (posting.queue = number) := by
        by_cases mine : posting.queue = number <;> simp [mine, Ne.symm own]
      simp only [same, if_neg own]
      exact listed.pending number old found

theorem turn (listed : agenda.Listed) {task : Option τ} (turn : agenda.Turn task after)
    : after.Listed where
  sound := listed.sound.turn turn
  pending number q there := by
    cases turn with
    | silenced line dead =>
        refine (listed.pending number q there).trans (.of_eq ?_)
        simp only [toRun, tasks, line, List.cons_append, List.filter_cons, dead,
          Bool.false_eq_true, ↓reduceIte]
        rfl
    | @sleeps first rest line live early =>
        have moved : (agenda.ready ++ agenda.sleepers).Perm
            (rest ++ insertByDue first agenda.sleepers) := by
          rw [line]
          exact (List.perm_middle.symm).trans
            ((insertByDue_perm first agenda.sleepers).symm.append_left rest)
        exact (listed.pending number q there).trans
          (((moved.filter agenda.isLive).filter _).map _)
    | @runs first rest line live due =>
        have same : ({ agenda with ready := rest }.strike first).isLive = agenda.isLive :=
          funext fun posting => isLive_strike { agenda with ready := rest } first posting
        have split
            : agenda.tasks = first :: ({ agenda with ready := rest }.strike first).tasks := by
          unfold tasks
          rw [same]
          simp only [line, List.cons_append, List.filter_cons, live, ↓reduceIte, strike]
        simp only [strike, List.getElem?_modify] at there
        obtain ⟨old, found, rfl⟩ := Option.map_eq_some_iff.mp there
        have listed := listed.pending number old found
        rw [toRun, split, List.filter_cons] at listed
        -- the task that runs is struck off the list of its own queue
        by_cases own : first.queue = number
        · rw [if_pos (by simpa using own), List.map_cons] at listed
          have struck := listed.erase first.id
          rw [List.erase_cons_head] at struck
          simpa only [own, ↓reduceIte, toRun] using struck
        · rw [if_neg (by simpa using own)] at listed
          simpa only [own, ↓reduceIte, toRun] using listed

theorem moveTo (listed : agenda.Listed) (time : Nat) : (agenda.moveTo time).Listed where
  sound := listed.sound.moveTo time
  pending number q there := by
    rw [toRun, tasks_moveTo]
    exact listed.pending number q there

end Listed

end Agenda

/-- So whatever happens in a world, its queues list what they have still to run. -/
theorem World.lasting_listed : Lasting unbarred fun world => world.agenda.Listed :=
  lasting_agenda .post .cancel (fun listed turn => listed.turn turn) .moveTo

end UpdaterLaunch
