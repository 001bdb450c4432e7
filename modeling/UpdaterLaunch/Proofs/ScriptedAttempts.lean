import UpdaterLaunch.Proofs.AttemptPassages
import UpdaterLaunch.Proofs.SequentialLoop

/-! A coordinator in the middle of a script, with one subscriber and at most one pending retry on a
timed scheduler of its own. Its next attempt does what the next round of the script says: there is
an event to read, or there is a retry to wait for, and never both.
-/

namespace UpdaterLaunch

-----------------------------------------------------------------------------------------
-- A hub with one reader
-----------------------------------------------------------------------------------------

/-- An open hub that sends to its only subscription, which has some events unread. -/
structure Hub.Feeds (unread : List Event) (hub : Hub) : Prop where
  opened : hub.isOpen = true
  observers : hub.observers = [0]
  backlogs : hub.backlogs = [some unread]

namespace Hub.Feeds

variable {hub : Hub} {unread : List Event}

theorem emit (feeds : hub.Feeds unread) (event : Event)
    : (hub.emit event).Feeds (unread ++ [event]) := by
  constructor <;>
    simp [Hub.emit, isLive, backlog?, deliver, feeds.opened, feeds.observers, feeds.backlogs]

theorem read {event : Event} (feeds : hub.Feeds (event :: unread))
    : ∃ rest, hub.mail 0 .tryRecv = (.event (some event), rest) ∧ rest.Feeds unread := by
  refine ⟨hub.withBacklog 0 (some unread), ?_, feeds.opened, feeds.observers, ?_⟩
  · simp [mail, backlog?, feeds.backlogs]
  · simp [withBacklog, feeds.backlogs]

theorem read_nil (feeds : hub.Feeds []) : hub.mail 0 .tryRecv = (.event none, hub) := by
  simp [mail, backlog?, feeds.backlogs]

end Hub.Feeds

/-- The only reader of a coordinator reads the oldest event first. -/
theorem Session.read?_of_cons {world : World} {number : Nat} {own : Coordinator} {event : Event}
    {unread : List Event} (there : world.coordinator? number = some own)
    (feeds : own.hub.Feeds (event :: unread))
    : ∃ hub,
        hub.Feeds unread
        ∧ Session.read? { coordinator := number, slot := 0 } world
          = some (event, world.put number { own with hub }) := by
  obtain ⟨hub, mail, rest⟩ := feeds.read
  refine ⟨hub, rest, ?_⟩
  simp [read?, there, mail]

theorem Session.read?_of_nil {world : World} {number : Nat} {own : Coordinator}
    (there : world.coordinator? number = some own) (feeds : own.hub.Feeds [])
    : Session.read? { coordinator := number, slot := 0 } world = none := by
  simp [read?, there, feeds.read_nil]

-----------------------------------------------------------------------------------------
-- Playing a script
-----------------------------------------------------------------------------------------

/-- The answer about a target that a checker gives after some more questions, if the packages stay
as they are.
-/
def Checker.answerAhead (registry : Registry) (target : Target) (ahead : Nat) : Checker → Bool
  | .scripted answers asked => answers (asked + ahead)
  | .resolving => registry.resolves target

/-- The answer after no more questions is the answer now. -/
theorem Checker.answerAhead_zero (registry : Registry) (target : Target) (checker : Checker)
    : checker.answerAhead registry target 0 = checker.answer registry target := by
  cases checker <;> rfl

/-- After a question every answer to come is one question nearer. -/
theorem Checker.answerAhead_next (registry : Registry) (target : Target) (ahead : Nat)
    (checker : Checker)
    : checker.next.answerAhead registry target ahead
      = checker.answerAhead registry target (ahead + 1) := by
  cases checker with
  | scripted answers asked =>
      simp only [next, answerAhead, Nat.add_assoc, Nat.add_comm 1 ahead]
  | resolving => rfl

namespace Coordinator

/-- The script of a coordinator that has made no target yet, for what the updater will report. -/
def script (coordinator : Coordinator) (registry : Registry) (verdict : Nat → Verdict)
    : Script where
  budget := coordinator.budget
  target := coordinator.factory
  answer round := coordinator.checker.answerAhead registry (coordinator.factory round) round
  verdict := verdict

/-- A coordinator plays a script if it has counted some launches and retries and has made some
targets, all the rest of it is as the script says, and its only subscriber has some events unread.
-/
structure Plays (script : Script) (registry : Registry) (launches retries rounds : Nat)
    (unread : List Event) (coordinator : Coordinator) : Prop where
  alive : coordinator.alive = true
  budget : coordinator.budget = script.budget
  factory : coordinator.factory = script.target
  updates : coordinator.counters.updateTries.toNat = launches
  putOff : coordinator.counters.launchTries.toNat = retries
  covers : script.budget.Covers coordinator.counters
  made : coordinator.made = rounds
  answers
    : ∀ ahead,
        coordinator.checker.answerAhead registry (script.target (rounds + ahead)) ahead
        = script.answer (rounds + ahead)
  opened : coordinator.hub.isOpen = true
  observers : coordinator.hub.observers = [0]
  backlogs : coordinator.hub.backlogs = [some unread]

variable {script : Script} {registry : Registry} {launches retries rounds : Nat}
  {coordinator : Coordinator}

theorem Plays.feeds {unread : List Event}
    (plays : coordinator.Plays script registry launches retries rounds unread)
    : coordinator.hub.Feeds unread :=
  ⟨plays.opened, plays.observers, plays.backlogs⟩

/-- A cycle takes one answer of the script, and its event is what there is to read after it. -/
theorem Plays.cycle (plays : coordinator.Plays script registry launches retries rounds [])
    : (coordinator.cycle registry).target = script.target rounds
      ∧ script.budget.decide coordinator.counters (script.answer rounds)
        = ((coordinator.cycle registry).after.counters, (coordinator.cycle registry).decision)
      ∧ (coordinator.cycle registry).after.Plays script registry
          (coordinator.cycle registry).after.counters.updateTries.toNat
          (coordinator.cycle registry).after.counters.launchTries.toNat (rounds + 1)
          (coordinator.cycle registry).event?.toList := by
  have performs := coordinator.performs_cycle registry
  have target : (coordinator.cycle registry).target = script.target rounds := by
    rw [performs.target, plays.factory, plays.made]
  have answer : (coordinator.cycle registry).launchable = script.answer rounds := by
    rw [performs.answer, target, ← Checker.answerAhead_zero]
    exact plays.answers 0
  have decides := performs.decides
  rw [answer, plays.budget] at decides
  have after := performs.after
  have feeds
      : (coordinator.cycle registry).after.hub.Feeds
          (coordinator.cycle registry).event?.toList := by
    rw [after]
    cases (coordinator.cycle registry).event? with
    | none => exact plays.feeds
    | some event => exact plays.feeds.emit event
  refine ⟨target, decides, ?_, ?_, ?_, rfl, rfl, ?_, ?_, ?_, feeds.opened, feeds.observers,
    feeds.backlogs⟩
  · rw [after]
    exact plays.alive
  · rw [after]
    exact plays.budget
  · rw [after]
    exact plays.factory
  · have covered := plays.covers.decide (script.answer rounds)
    rwa [decides] at covered
  · rw [after]
    exact congrArg (· + 1) plays.made
  · intro ahead
    rw [after, Checker.answerAhead_next, Nat.add_assoc, Nat.add_comm 1 ahead]
    exact plays.answers (ahead + 1)

/-- To read changes nothing but what is unread. -/
theorem Plays.withHub {unread rest : List Event} {hub : Hub}
    (plays : coordinator.Plays script registry launches retries rounds unread)
    (feeds : hub.Feeds rest)
    : ({ coordinator with hub } : Coordinator).Plays script registry launches retries rounds rest :=
  { plays with
    opened := feeds.opened
    observers := feeds.observers
    backlogs := feeds.backlogs }

/-- Neither limit is passed, so the counters stay within both. -/
theorem Plays.within {unread : List Event}
    (plays : coordinator.Plays script registry launches retries rounds unread)
    : launches ≤ script.budget.updateMax.toNat ∧ retries ≤ script.budget.launchMax.toNat := by
  obtain ⟨updates, putOff⟩ := plays.covers
  rw [← plays.updates, ← plays.putOff]
  exact ⟨UInt32.le_iff_toNat_le.mp updates, UInt32.le_iff_toNat_le.mp putOff⟩

end Coordinator

namespace World

-----------------------------------------------------------------------------------------
-- Worlds in which a script is played
-----------------------------------------------------------------------------------------

/-- A world hosts a coordinator that plays a script on a timed scheduler; no manual scheduler keeps
a retry of it.
-/
structure Hosts (script : Script) (number launches retries rounds : Nat) (unread : List Event)
    (world : World) : Prop where
  coordinator
    : ∃ coordinator,
        world.coordinator? number = some coordinator
        ∧ coordinator.Plays script world.registry launches retries rounds unread
        ∧ world.schedulers[coordinator.scheduler]? = some .timed
  queues : world.agenda.queues.length = world.schedulers.length
  unkept : total (Scheduler.keeps number) world.schedulers = 0

variable {script : Script} {number launches retries rounds : Nat} {unread : List Event}
  {world : World}

/-- The pending retries of a hosted coordinator are those on the agenda. -/
theorem Hosts.kept (hosts : world.Hosts script number launches retries rounds unread)
    : world.kept number = world.agenda.tasks.countP (isRetryOf number) := by
  simp only [World.kept, hosts.unkept, Nat.zero_add]

/-- A hosted coordinator's attempt is one cycle. -/
theorem Hosts.attempt (hosts : world.Hosts script number launches retries rounds [])
    : ∃ coordinator : Coordinator,
        coordinator.Plays script world.registry launches retries rounds []
        ∧ world.schedulers[coordinator.scheduler]? = some .timed
        ∧ world.attempt number
          = world.cycled number coordinator.scheduler (coordinator.cycle world.registry)
        ∧ (world.attempt number).Hosts script number
            (coordinator.cycle world.registry).after.counters.updateTries.toNat
            (coordinator.cycle world.registry).after.counters.launchTries.toNat (rounds + 1)
            (coordinator.cycle world.registry).event?.toList := by
  obtain ⟨coordinator, there, plays, timed⟩ := hosts.coordinator
  have live := live?_eq_some_iff.mpr ⟨there, plays.alive⟩
  have once : world.attempt number
      = world.cycled number coordinator.scheduler (coordinator.cycle world.registry) :=
    attempt_eq_cycled live fun inline => absurd (timed.symm.trans inline) (by simp)
  have same
      : (world.cycled number coordinator.scheduler
          (coordinator.cycle world.registry)).schedulers
        = world.schedulers := by
    have stays
        : (world.recorded number (coordinator.cycle world.registry)).schedulers[
            coordinator.scheduler]?
          = some .timed := timed
    exact cycled_keeps (P := fun after => after.schedulers = world.schedulers) rfl
      fun delay => (post_of_timed stays delay number).1
  refine ⟨coordinator, plays, timed, once, ?_, ?_, ?_⟩
  · refine ⟨(coordinator.cycle world.registry).after, ?_, ?_, ?_⟩
    · rw [once]
      exact (live?_eq_some_iff.mp (live?_cycled live)).1
    · rw [once, registry_cycled]
      exact plays.cycle.2.2
    · rw [once, same, (cycle_after_fixed coordinator world.registry).2]
      exact timed
  · rw [once, (KeepsSchedulers.cycled _ _ _ _).queues, same, hosts.queues]
  · rw [once, same, hosts.unkept]

end World

end UpdaterLaunch
