import UpdaterLaunch.Agenda
import UpdaterLaunch.Coordinator
import UpdaterLaunch.Exhaust
import UpdaterLaunch.Total

/-! Coordinators, their schedulers and one package registry, on one clock. A scheduler keeps retries
in one of three ways: in a queue that is fired by hand, not at all, running each at once, or
asleep on the agenda until they are due. A retry belongs to a coordinator, by number; when its
time comes after the coordinator was dropped, it does nothing.
-/

namespace UpdaterLaunch

/-- How a scheduler keeps retries. -/
inductive Scheduler
  /-- Retries wait in posting order until they are fired, whatever their delay. -/
  | manual (queue : List (Span × Nat))
  /-- A retry runs as soon as it is posted. -/
  | inline
  /-- Retries sleep on the agenda, on the queue with the scheduler's number. -/
  | timed
deriving DecidableEq

/-- What the clock wakes. -/
inductive Task
  /-- A coordinator tries again. -/
  | retry (coordinator : Nat)
  /-- A package comes, goes or changes. -/
  | change (change : Registry.Change)
deriving DecidableEq

/-- A line of the log, with the coordinator that it is about, if any. -/
structure Entry where
  coordinator : Option Nat
  notice : Notice
deriving DecidableEq

/-- All that takes part. -/
structure World where
  registry : Registry := {}
  schedulers : List Scheduler := []
  /-- Each scheduler has the queue of its own number here; only a timed one uses it. -/
  agenda : Agenda Task := {}
  /-- The coordinators by number; nothing where one could not be put together. -/
  coordinators : List (Option Coordinator) := []
  /-- The subscriptions in the order in which they were made: a coordinator, and the number of the
  subscription there.
  -/
  subscriptions : List (Nat × Nat) := []
  /-- The log, last line first. -/
  log : List Entry := []

namespace World

-----------------------------------------------------------------------------------------
-- Views and small changes of the state
-----------------------------------------------------------------------------------------

/-- The coordinator of a number, dropped or not. -/
def coordinator? (world : World) (number : Nat) : Option Coordinator :=
  (world.coordinators[number]?).join

/-- The coordinator of a number, if it can still be used. -/
def live? (world : World) (number : Nat) : Option Coordinator :=
  (world.coordinator? number).filter (·.alive)

/-- The world with lines about a coordinator, or about none, added to the log. -/
def note (world : World) (about : Option Nat) (notices : List Notice) : World :=
  { world with log := (notices.map (Entry.mk about)).reverse ++ world.log }

/-- The world with another state of a coordinator. -/
def put (world : World) (number : Nat) (coordinator : Coordinator) : World :=
  { world with coordinators := world.coordinators.set number (some coordinator) }

/-- The notices of the log in the order in which they were made. -/
def notices (world : World) : List Notice := (world.log.map (·.notice)).reverse

/-- Applies a change to the registry. -/
def change (world : World) (change : Registry.Change) : World :=
  { world with registry := world.registry.apply change }.note none
    (world.registry.report change)

-----------------------------------------------------------------------------------------
-- Attempts, retries and cancelling
-----------------------------------------------------------------------------------------

/-- Posts a retry of a coordinator on a scheduler that keeps it. -/
def post (world : World) (scheduler : Nat) (delay : Span) (coordinator : Nat) : World :=
  match world.schedulers[scheduler]? with
  | some (.manual queue) =>
      { world with
        schedulers := world.schedulers.set scheduler (.manual (queue ++ [(delay, coordinator)])) }
  | some .timed =>
      { world with agenda := world.agenda.post scheduler delay.ticks (.retry coordinator) }.note
        (some coordinator) [.retryScheduled (world.agenda.nextId scheduler)]
  | some .inline | none => world

/-- Runs a decision cycle of a coordinator, and on an inline scheduler also the cycles that it
brings about. A dropped coordinator does nothing.
-/
def attempt (world : World) (number : Nat) : World :=
  match world.live? number with
  | none => world
  | some coordinator =>
      match world.schedulers[coordinator.scheduler]? with
      | some .inline =>
          let (notices, after) := coordinator.runThrough world.registry
          (world.put number after).note (some number) notices
      | _ =>
          let cycle := coordinator.cycle world.registry
          let world := (world.put number cycle.after).note (some number) cycle.notices
          match cycle.decision with
          | .reschedule delay => world.post coordinator.scheduler delay number
          | _ => world

/-- Cancels everything posted on a scheduler before; an inline one has nothing to cancel. -/
def cancel (world : World) (scheduler : Nat) (about : Option Nat) : World :=
  match world.schedulers[scheduler]? with
  | some (.manual _) =>
      { world with schedulers := world.schedulers.set scheduler (.manual []) }
  | some .timed =>
      let after := { world with agenda := world.agenda.cancel scheduler }
      match world.agenda.pending scheduler with
      | 0 => after
      | count + 1 => after.note about [.retriesCancelled (count + 1)]
  | some .inline | none => world

/-- Stops the retries of a coordinator by cancelling all that its scheduler keeps. -/
def stopRetries (world : World) (number : Nat) : World :=
  match world.live? number with
  | none => world
  | some coordinator =>
      (world.note (some number) [.stoppingRetries]).cancel coordinator.scheduler (some number)

/-- Runs what the clock has woken. -/
def run (world : World) : Task → World
  | .retry coordinator => world.attempt coordinator
  | .change change => world.change change

/-- What the agenda has come to: the world with that agenda, after running what is to run. -/
def resume (world : World) : Option Task × Agenda Task → World
  | (none, agenda) => { world with agenda }
  | (some task, agenda) => run { world with agenda } task

/-- Gives the next turn, or moves the clock to the next due time before a given one. -/
def wake? (before : Nat) (world : World) : Option World :=
  (world.agenda.wake? before).map world.resume

-----------------------------------------------------------------------------------------
-- Every waking spends a task or a retry of the budget
-----------------------------------------------------------------------------------------

/-- How often all coordinators together may still put a launch off. -/
def launchesLeft (world : World) : Nat :=
  total (fun c : Option Coordinator => c.elim 0 (·.launchesLeft)) world.coordinators

/-- The work that is to come, at most: a retry that is put off makes one post. -/
def size (world : World) : Nat := world.agenda.load (fun _ => 0) + 3 * world.launchesLeft

/-- A live coordinator stands in the list under its number. -/
theorem getElem?_of_live? {world : World} {number : Nat} {coordinator : Coordinator}
    (h : world.live? number = some coordinator)
    : world.coordinators[number]? = some (some coordinator) := by
  have found := (Option.filter_eq_some_iff.mp h).1
  exact Option.join_eq_some_iff.mp found

/-- Replacing a coordinator changes what is left by the difference of the two. -/
theorem launchesLeft_put {world : World} {number : Nat} {old : Coordinator} (new : Coordinator)
    (h : world.live? number = some old)
    : (world.put number new).launchesLeft + old.launchesLeft
      = world.launchesLeft + new.launchesLeft :=
  total_set (fun c : Option Coordinator => c.elim 0 (·.launchesLeft)) (some new)
    (getElem?_of_live? h)

/-- A post adds at most one task and spends nothing. -/
theorem size_post_le (world : World) (scheduler : Nat) (delay : Span) (number : Nat)
    : (world.post scheduler delay number).size ≤ world.size + 3 := by
  unfold post
  split
  · simp [size, launchesLeft]
  · have := world.agenda.load_post_le (fun _ => 0) scheduler delay.ticks (.retry number)
    simp only [size, note, launchesLeft]
    omega
  · simp
  · simp

/-- An attempt brings about no more than it spends. -/
theorem size_attempt_le (world : World) (number : Nat)
    : (world.attempt number).size ≤ world.size := by
  unfold attempt
  split
  · exact Nat.le_refl _
  · rename_i coordinator live
    split
    · have left := launchesLeft_put (coordinator.runThrough world.registry).2 live
      have := coordinator.launchesLeft_runThrough_le world.registry
      simp only [size, note, launchesLeft, put] at *
      omega
    · have left := launchesLeft_put (coordinator.cycle world.registry).after live
      have le := coordinator.launchesLeft_cycle_le world.registry
      dsimp only
      split
      · rename_i delay decision
        have spent := Coordinator.launchesLeft_cycle_of_reschedule decision
        refine Nat.le_trans (size_post_le _ _ _ _) ?_
        simp only [size, note, launchesLeft, put] at *
        omega
      · simp only [size, note, launchesLeft, put] at *
        omega

/-- Running a task brings about no more than it spends. -/
theorem size_run_le (world : World) (task : Task) : (world.run task).size ≤ world.size := by
  cases task with
  | retry number => exact world.size_attempt_le number
  | change change => simp [run, World.change, size, note, launchesLeft]

/-- What the agenda has come to brings about less than the agenda has lost. -/
theorem size_resume_lt {world : World} {task : Option Task} {agenda : Agenda Task}
    (less : agenda.load (fun _ => 0) + task.elim 0 (fun _ => 0)
      < world.agenda.load (fun _ => 0))
    : (world.resume (task, agenda)).size < world.size := by
  cases task with
  | none =>
      simp only [resume, size, launchesLeft, Option.elim_none] at *
      omega
  | some task =>
      refine Nat.lt_of_le_of_lt (size_run_le _ task) ?_
      simp only [size, launchesLeft, Option.elim_some] at *
      omega

/-- Waking takes away more than it brings about. -/
theorem size_wake_lt (before : Nat) (world after : World) (h : world.wake? before = some after)
    : after.size < world.size := by
  obtain ⟨⟨task, agenda⟩, woken, rfl⟩ := Option.map_eq_some_iff.mp h
  exact size_resume_lt (Agenda.load_wake_lt _ woken)

-----------------------------------------------------------------------------------------
-- Letting the clock run
-----------------------------------------------------------------------------------------

/-- Runs everything that is due before a time, and what that posts, each at its own time. -/
def runBefore (world : World) (before : Nat) : World :=
  exhaust (wake? before) size (size_wake_lt before) world

/-- Runs everything that is due by now. -/
def settle (world : World) : World := world.runBefore (world.agenda.now + 1)

/-- Moves the clock forward to a time, which wakes tasks but runs none. -/
def moveTo (world : World) (time : Nat) : World :=
  { world with agenda := world.agenda.moveTo time }

/-- Lets time pass, if any: everything due strictly before the new time runs. -/
def advance (world : World) (ms : Nat) : World :=
  if ms = 0 then world
  else
    let time := world.agenda.now + ms
    (world.runBefore time).moveTo time

-----------------------------------------------------------------------------------------
-- Rounds of turns
-----------------------------------------------------------------------------------------

/-- Gives the first task in line its turn. -/
def turn? (world : World) : Option World := world.agenda.turn?.map world.resume

/-- Gives a number of turns, or as many as there are tasks in line. -/
def turns : Nat → World → World
  | 0, world => world
  | count + 1, world =>
      match world.turn? with
      | none => world
      | some world => turns count world

/-- The number of turns in a round. -/
def turnsInRound : Nat := 61

/-- Gives a round of turns. Whoever waits for something to happen looks for it between rounds. -/
def round (world : World) : World := world.turns turnsInRound

/-- A turn takes away more than it brings about. -/
theorem size_turn_lt {world after : World} (h : world.turn? = some after)
    : after.size < world.size := by
  obtain ⟨⟨task, agenda⟩, woken, rfl⟩ := Option.map_eq_some_iff.mp h
  exact size_resume_lt (Agenda.load_turn_lt _ woken)

/-- Turns bring about no more than they take away. -/
theorem size_turns_le (count : Nat) (world : World) : (world.turns count).size ≤ world.size := by
  fun_induction turns count world with
  | case1 => exact Nat.le_refl _
  | case2 => exact Nat.le_refl _
  | case3 world count after h ih => exact Nat.le_trans ih (Nat.le_of_lt (size_turn_lt h))

/-- A round with a task in line takes away more than it brings about. -/
theorem size_round_lt {world : World} (h : world.agenda.ready ≠ [])
    : world.round.size < world.size := by
  obtain ⟨first, rest, line⟩ := List.exists_cons_of_ne_nil h
  obtain ⟨after, turn⟩ : ∃ after, world.turn? = some after := by
    simp only [turn?, Agenda.turn?, line]
    split
    · exact ⟨_, rfl⟩
    · split <;> exact ⟨_, rfl⟩
  refine Nat.lt_of_le_of_lt ?_ (size_turn_lt turn)
  unfold round turnsInRound turns
  rw [turn]
  exact size_turns_le _ _

/-- Moving the clock to the next due time takes away from what is to come. -/
theorem size_moveTo_lt {world : World} {due : Nat} (h : world.agenda.next? = some due)
    : (world.moveTo due).size < world.size :=
  Nat.add_lt_add_right (Agenda.load_moveTo_lt _ h) _

-----------------------------------------------------------------------------------------
-- More schedulers
-----------------------------------------------------------------------------------------

/-- The world with one more scheduler that keeps its tasks on the agenda. -/
def addTimed (world : World) : World :=
  { world with
    schedulers := world.schedulers ++ [.timed]
    agenda := world.agenda.addQueue }

end World

end UpdaterLaunch
