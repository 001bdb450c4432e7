import Mathlib.Logic.Relation
import UpdaterLaunch.Host
import UpdaterLaunch.Proofs.ScriptedAttempts

/-! A client that asks a session what to do, and reports once on every launch, hears what a simple
sequential loop tells. Whatever order turns of the line, steps of the clock, questions and reports
come in, there is one thing to be waited for at any time until the session ends: a pending retry,
an unread event, a launch to be reported on, or an end that was not asked for yet.
-/

namespace UpdaterLaunch

/-- A client of a session, in the world that the session is in. -/
structure Client where
  session : Session
  world : World
  /-- Whether the client was told to launch and has not reported yet. -/
  owes : Bool := false
  /-- The number of its reports. -/
  reported : Nat := 0
  heard : Heard := []

/-- Whether a client is told to launch. -/
def Session.Next.asksToLaunch : Session.Next → Bool
  | .launchUpdater _ => true
  | .finish _ | .finished _ => false

namespace Client

/-- The client after it was told what to do. -/
def hears (client : Client) (told : Session.Next × Session × World) : Client :=
  { client with
    session := told.2.1
    world := told.2.2
    owes := told.1.asksToLaunch
    heard := client.heard ++ [(told.1, client.world.agenda.now)] }

/-- The client after its next report. -/
def reports (verdict : Nat → Verdict) (client : Client) : Client :=
  let (session, world) := client.session.report (verdict client.reported) client.world
  { client with session, world, owes := false, reported := client.reported + 1 }

/-- What may happen next to a disciplined client: the first in line has a turn, the clock goes to
the next due time, the client is told what to do, or it reports. It asks only when it owes no report
and has not been told that the session has ended.
-/
inductive Step (verdict : Nat → Verdict) (client : Client) : Client → Prop
  | turn {world} (next : client.world.turn? = some world)
    : Step verdict client { client with world }
  | clock {due} (next : client.world.agenda.next? = some due)
    : Step verdict client { client with world := client.world.moveTo due }
  | ask {answer} (settled : client.owes = false) (going : client.session.outcome = none)
    (told : client.session.poll? client.world = some answer)
    : Step verdict client (client.hears answer)
  | report (owes : client.owes = true) : Step verdict client (client.reports verdict)

/-- What a client may come to in any number of steps. -/
def Reaches (verdict : Nat → Verdict) : Client → Client → Prop :=
  Relation.ReflTransGen (Step verdict)

/-- The number of events that the session has not read. -/
def unread (client : Client) : Nat :=
  ((client.world.coordinator? client.session.coordinator).bind
    (·.hub.backlog? client.session.slot)).elim 0 List.length

/-- All that there is to be waited for: pending retries, unread events, a launch to be reported on,
and an end that was not asked for yet.
-/
def tokens (client : Client) : Nat :=
  client.world.kept client.session.coordinator + client.unread
    + (if client.owes then 1 else 0)
    + if client.session.queuedFinish.isSome then 1 else 0

/-- The client after waiting until there is something to do. -/
def waits (client : Client) : Client :=
  { client with world := client.session.wait none client.world }

/-- The client after asking what to do and waiting for an answer. -/
def asks (client : Client) : Client :=
  (client.session.poll? client.waits.world).elim client.waits client.waits.hears

/-- The client after asking what to do and reporting on a launch; nothing is asked of a session that
has ended.
-/
def serves (verdict : Nat → Verdict) (client : Client) : Client :=
  if client.session.outcome.isSome then client
  else if client.asks.owes then client.asks.reports verdict
  else client.asks

/-- The client after a number of questions. -/
def plays (verdict : Nat → Verdict) : Nat → Client → Client
  | 0, client => client
  | count + 1, client => (client.serves verdict).plays verdict count

end Client

namespace World

variable {script : Script} {number launches retries rounds : Nat} {unread : List Event}
  {world after : World}

/-- A world that differs only on the clock, in the log or in lines that nobody waits in hosts the
same.
-/
theorem Hosts.of_same (hosts : world.Hosts script number launches retries rounds unread)
    (coordinators : after.coordinators = world.coordinators)
    (registry : after.registry = world.registry)
    (schedulers : after.schedulers = world.schedulers)
    (queues : after.agenda.queues.length = world.agenda.queues.length)
    : after.Hosts script number launches retries rounds unread where
  coordinator := by
    obtain ⟨coordinator, there, plays, timed⟩ := hosts.coordinator
    refine ⟨coordinator, ?_, ?_, ?_⟩
    · rw [coordinator?, coordinators]
      exact there
    · rw [registry]
      exact plays
    · rw [schedulers]
      exact timed
  queues := by rw [queues, schedulers, hosts.queues]
  unkept := by rw [schedulers, hosts.unkept]

/-- Stopping the retries of a hosted coordinator changes nothing where none is pending. -/
theorem Hosts.stop (hosts : world.Hosts script number launches retries rounds unread)
    (idle : world.agenda.Idle)
    : (world.stopRetries number).Hosts script number launches retries rounds unread
      ∧ (world.stopRetries number).agenda.Idle
      ∧ (world.stopRetries number).agenda.now = world.agenda.now := by
  obtain ⟨coordinator, there, plays, timed⟩ := hosts.coordinator
  have live := live?_eq_some_iff.mpr ⟨there, plays.alive⟩
  have stays
      : (world.note (some number) [.stoppingRetries]).schedulers[coordinator.scheduler]?
        = some .timed := timed
  simp only [stopRetries, live, cancel_of_timed stays]
  exact ⟨hosts.of_same rfl rfl rfl (Agenda.length_queues_cancel _ _), idle.cancel _, rfl⟩

/-- A session reads nothing where nothing is unread. -/
theorem Hosts.read_nil (hosts : world.Hosts script number launches retries rounds [])
    : Session.read? { coordinator := number, slot := 0 } world = none := by
  obtain ⟨coordinator, there, plays, -⟩ := hosts.coordinator
  exact Session.read?_of_nil there plays.feeds

/-- A session reads the oldest event that is unread. -/
theorem Hosts.read {event : Event}
    (hosts : world.Hosts script number launches retries rounds (event :: unread))
    : ∃ after,
        Session.read? { coordinator := number, slot := 0 } world = some (event, after)
        ∧ after.Hosts script number launches retries rounds unread
        ∧ after.agenda = world.agenda := by
  obtain ⟨coordinator, there, plays, timed⟩ := hosts.coordinator
  obtain ⟨hub, rest, read⟩ := Session.read?_of_cons there plays.feeds
  refine ⟨world.put number { coordinator with hub }, read, ⟨?_, hosts.queues, hosts.unkept⟩, rfl⟩
  exact ⟨{ coordinator with hub }, coordinator?_put_self there _, plays.withHub rest, timed⟩

end World

-----------------------------------------------------------------------------------------
-- Where a client stands
-----------------------------------------------------------------------------------------

namespace Client

/-- Where a client of a hosted session stands, and what it will hear from there on. There is one
retry pending, for a round of the loop at its due time; or one event unread; or a launch to be
reported on; or a session that will end when it is asked next; or one that has ended.
-/
inductive Stands (script : Script) (number : Nat) (client : Client) : Heard → Prop
  | pending {launches retries : Nat} {posting : Posting Task}
    (hosts : client.world.Hosts script number launches retries (launches + retries) [])
    (holds : client.world.agenda.HoldsOnly posting) (task : posting.task = .retry number)
    (early : client.world.agenda.now ≤ posting.due)
    (session : client.session = { coordinator := number, slot := 0 })
    (owes : client.owes = false) (reported : client.reported = launches)
    : Stands script number client (script.actions launches retries posting.due)
  | launching {launches retries : Nat}
    (hosts
      : client.world.Hosts script number (launches + 1) retries (launches + retries + 1)
          [.launchRequested (script.target (launches + retries))])
    (idle : client.world.agenda.Idle)
    (session : client.session = { coordinator := number, slot := 0 })
    (owes : client.owes = false) (reported : client.reported = launches)
    : Stands script number client
        ((.launchUpdater (script.target (launches + retries)), client.world.agenda.now)
          :: script.reporting launches retries client.world.agenda.now)
  | failing {launches retries rounds : Nat} {reason : Failure}
    (hosts : client.world.Hosts script number launches retries rounds [.failed reason])
    (few : rounds ≤ launches + retries + 1) (idle : client.world.agenda.Idle)
    (session : client.session = { coordinator := number, slot := 0 })
    (owes : client.owes = false)
    : Stands script number client [(.finish .cancelled, client.world.agenda.now)]
  | owing {launches retries : Nat}
    (hosts
      : client.world.Hosts script number (launches + 1) retries (launches + retries + 1) [])
    (idle : client.world.agenda.Idle)
    (session : client.session = { coordinator := number, slot := 0 })
    (owes : client.owes = true) (reported : client.reported = launches)
    : Stands script number client
        (script.reporting launches retries client.world.agenda.now)
  | closing {launches retries rounds : Nat}
    (hosts : client.world.Hosts script number launches retries rounds [])
    (few : rounds ≤ launches + retries + 1) (idle : client.world.agenda.Idle)
    (session
      : client.session = { coordinator := number, slot := 0, queuedFinish := some .updated })
    (owes : client.owes = false)
    : Stands script number client [(.finish .updated, client.world.agenda.now)]
  | ended {launches retries rounds : Nat} {outcome : Outcome}
    (hosts : client.world.Hosts script number launches retries rounds [])
    (few : rounds ≤ launches + retries + 1) (idle : client.world.agenda.Idle)
    (session : client.session = { coordinator := number, slot := 0, outcome := some outcome })
    (owes : client.owes = false)
    : Stands script number client []

variable {script : Script} {number launches retries : Nat} {client : Client} {rest : Heard}

/-- An attempt where nothing is pending, unread or owed plays the next round of the loop: it leaves
an event to read, or a retry to wait for.
-/
theorem stands_attempt (client : Client)
    (hosts : client.world.Hosts script number launches retries (launches + retries) [])
    (idle : client.world.agenda.Idle)
    (session : client.session = { coordinator := number, slot := 0 })
    (owes : client.owes = false) (reported : client.reported = launches)
    : Stands script number { client with world := client.world.attempt number }
        (script.actions launches retries client.world.agenda.now) := by
  obtain ⟨coordinator, plays, timed, once, after⟩ := hosts.attempt
  obtain ⟨target, decides, -⟩ := plays.cycle
  obtain ⟨updates, putOff⟩ := Budget.decide_counts decides
  rw [plays.updates] at updates
  rw [plays.putOff] at putOff
  rw [updates, putOff] at after
  rcases Budget.decide_cases decides
    with ⟨launch, good, within⟩ | ⟨wait, bad, within⟩ | ⟨⟨reason, fails⟩, spent⟩
  -- the event is unread, and nothing is pending
  · rw [plays.updates] at within
    have same : (client.world.attempt number).agenda = client.world.agenda := by
      rw [once, World.cycled_of_settled (by simp [launch])]
      rfl
    simp only [Coordinator.Cycle.event?, launch, target, reduceCtorEq, ↓reduceIte,
      Nat.add_zero, Option.toList_some] at after
    rw [Script.actions_of_launch good within, ← same]
    exact .launching after (same ▸ idle) session owes reported
  -- the retry is in line, due after the delay, and nothing is unread
  · rw [plays.putOff] at within
    have posted : (client.world.attempt number).agenda
        = client.world.agenda.post coordinator.scheduler script.budget.delay.ticks
            (.retry number) := by
      have stays
          : (client.world.recorded number
              (coordinator.cycle client.world.registry)).schedulers[coordinator.scheduler]?
            = some .timed := timed
      rw [once, World.cycled_of_reschedule wait]
      exact (World.post_of_timed stays _ _).2
    obtain ⟨inside, -⟩ := List.getElem?_eq_some_iff.mp timed
    have queue := List.getElem?_eq_getElem (hosts.queues ▸ inside)
    obtain ⟨posting, holds, task, due⟩ := idle.post queue script.budget.delay.ticks (.retry number)
    have now : (client.world.attempt number).agenda.now = client.world.agenda.now := by
      simp only [posted, Agenda.post, queue]
    simp only [Coordinator.Cycle.event?, wait, reduceCtorEq, ↓reduceIte, Nat.add_zero,
      Option.toList_none] at after
    rw [Script.actions_of_wait bad within]
    have waited : script.waited client.world.agenda.now = posting.due := due.symm
    rw [waited]
    refine .pending after (posted ▸ holds) task ?_ session owes reported
    rw [now, ← waited]
    exact Nat.le_add_right _ _
  -- the limit is reached: the failure is unread, and no round will follow
  · rw [plays.updates, plays.putOff] at spent
    have same : (client.world.attempt number).agenda = client.world.agenda := by
      rw [once, World.cycled_of_settled (by simp [fails])]
      rfl
    simp only [Coordinator.Cycle.event?, fails, reduceCtorEq, ↓reduceIte, Nat.add_zero,
      Option.toList_some] at after
    rw [Script.actions_of_spent spent, ← same]
    exact .failing after (Nat.le_refl _) (same ▸ idle) session owes

/-- A turn runs the pending retry when it is due, which plays the next round, and otherwise lets it
wait. What the client will hear stays the same.
-/
theorem Stands.turn (stands : Stands script number client rest) {world : World}
    (next : client.world.turn? = some world)
    : Stands script number { client with world } rest := by
  obtain ⟨⟨task, agenda⟩, found, rfl⟩ := Option.map_eq_some_iff.mp next
  cases stands with
  | @pending launches retries posting hosts holds retry early session owes reported =>
      have turn := Agenda.turn_of_turn? found
      have hosted : ({ client.world with agenda } : World).Hosts script number launches retries
          (launches + retries) [] :=
        hosts.of_same rfl rfl rfl turn.length_queues
      obtain ⟨now, ⟨rfl, waits⟩ | ⟨rfl, due, idle⟩⟩ := holds.turn turn
      · exact .pending hosted waits retry (now ▸ early) session owes reported
      · have attempted := stands_attempt { client with world := { client.world with agenda } }
          hosted idle session owes reported
        have time : agenda.now = posting.due := now.trans (Nat.le_antisymm early due)
        rw [retry]
        rwa [← time]
  | launching _ idle => simp [idle.turn?] at found
  | failing _ _ idle => simp [idle.turn?] at found
  | owing _ idle => simp [idle.turn?] at found
  | closing _ _ idle => simp [idle.turn?] at found
  | ended _ _ idle => simp [idle.turn?] at found

/-- The clock goes to the due time of the pending retry, and nowhere if there is none. -/
theorem Stands.clock (stands : Stands script number client rest) {due : Nat}
    (next : client.world.agenda.next? = some due)
    : Stands script number { client with world := client.world.moveTo due } rest := by
  cases stands with
  | pending hosts holds retry early session owes reported =>
      obtain ⟨rfl, now, held⟩ := holds.clock next
      refine .pending (hosts.of_same rfl rfl rfl rfl) held retry ?_ session owes reported
      exact Nat.le_of_eq (now.trans (Nat.max_eq_right early))
  | launching _ idle => simp [idle.next?] at next
  | failing _ _ idle => simp [idle.next?] at next
  | owing _ idle => simp [idle.next?] at next
  | closing _ _ idle => simp [idle.next?] at next
  | ended _ _ idle => simp [idle.next?] at next

/-- A session that has nothing to read tells nothing while a retry is pending. -/
theorem poll?_of_nothing {number : Nat} {world : World} {launches retries rounds : Nat}
    (hosts : world.Hosts script number launches retries rounds [])
    : Session.poll? { coordinator := number, slot := 0 } world = none := by
  simp only [Session.poll?, hosts.read_nil, Option.map_none]

/-- An end of a session leaves nothing pending and nothing unread. -/
theorem stands_finish {session : Session} {world : World} {rounds : Nat} (outcome : Outcome)
    (hosts : world.Hosts script number launches retries rounds [])
    (few : rounds ≤ launches + retries + 1) (idle : world.agenda.Idle)
    (coordinator : session.coordinator = number) (slot : session.slot = 0)
    : Stands script number (client.hears (session.finish outcome world)) [] := by
  obtain ⟨stopped, still, -⟩ := hosts.stop idle
  have finished
      : (client.hears (session.finish outcome world)).session
        = { coordinator := number, slot := 0, outcome := some outcome } := by
    simp [hears, Session.finish, coordinator, slot]
  subst coordinator
  exact .ended stopped few still finished rfl

/-- What the client is told is the first of what it will hear, at the time at which it will hear
it; a launch is then to be reported on, and an end leaves nothing to be heard.
-/
theorem Stands.ask (stands : Stands script number client rest)
    {answer : Session.Next × Session × World} (settled : client.owes = false)
    (going : client.session.outcome = none)
    (told : client.session.poll? client.world = some answer)
    : ∃ more,
        rest = (answer.1, client.world.agenda.now) :: more
        ∧ Stands script number (client.hears answer) more := by
  cases stands with
  | pending hosts holds retry early session owes reported =>
      rw [session, poll?_of_nothing hosts] at told
      simp at told
  | @launching launches retries hosts idle session owes reported =>
      obtain ⟨world, read, left, agenda⟩ := hosts.read
      rw [session] at told
      simp only [Session.poll?, read, Option.map_some, Option.some.injEq] at told
      subst told
      refine ⟨_, rfl, ?_⟩
      rw [← agenda]
      exact .owing left (agenda ▸ idle) rfl rfl reported
  | @failing launches retries rounds reason hosts few idle session owes =>
      obtain ⟨world, read, left, agenda⟩ := hosts.read
      rw [session] at told
      simp only [Session.poll?, read, Option.map_some, Option.some.injEq] at told
      subst told
      refine ⟨[], rfl, ?_⟩
      have noted
          : (world.note (some number) [.givingUp reason]).Hosts script number launches retries
              rounds [] :=
        left.of_same rfl rfl rfl rfl
      exact stands_finish .cancelled noted few (agenda ▸ idle) rfl rfl
  | owing hosts idle session owes reported => simp [owes] at settled
  | closing hosts few idle session owes =>
      rw [session] at told
      simp only [Session.poll?, Option.some.injEq] at told
      subst told
      exact ⟨[], rfl, stands_finish .updated hosts few idle rfl rfl⟩
  | ended hosts few idle session owes => simp [session] at going

/-- A report of success leaves an end to be asked for, and any other plays the next round of the
loop.
-/
theorem Stands.report (stands : Stands script number client rest) (owes : client.owes = true)
    : Stands script number (client.reports script.verdict) rest := by
  cases stands with
  | @owing launches retries hosts idle session _ reported =>
      have noted (verdict : Verdict)
          : (client.world.note (some number) [.verdictReceived verdict]).Hosts script number
              (launches + 1) retries (launches + 1 + retries) [] := by
        rw [Nat.add_right_comm]
        exact hosts.of_same rfl rfl rfl rfl
      unfold Script.reporting
      split
      · rename_i ok
        have ends
            : client.reports script.verdict
              = { client with
                  session := { coordinator := number, slot := 0, queuedFinish := some .updated }
                  world := client.world.note (some number) [.verdictReceived .ok]
                  owes := false
                  reported := client.reported + 1 } := by
          simp [reports, Session.report, session, reported, ok]
        rw [ends]
        exact .closing (noted .ok) (by omega) idle rfl rfl
      · rename_i failed
        have tries
            : client.reports script.verdict
              = { client with
                  world :=
                    (client.world.note (some number)
                      [.verdictReceived (script.verdict launches)]).attempt number
                  owes := false
                  reported := client.reported + 1 } := by
          cases verdict : script.verdict launches with
          | ok => exact absurd verdict failed
          | canceled | failed => simp [reports, Session.report, session, reported, verdict]
        rw [tries]
        exact stands_attempt
          { client with
            world := client.world.note (some number) [.verdictReceived (script.verdict launches)]
            owes := false
            reported := client.reported + 1 }
          (noted _) idle session rfl (by rw [reported])
  | pending _ _ _ _ _ settled => simp [settled] at owes
  | launching _ _ _ settled => simp [settled] at owes
  | failing _ _ _ _ settled => simp [settled] at owes
  | closing _ _ _ _ settled => simp [settled] at owes
  | ended _ _ _ _ settled => simp [settled] at owes

/-- Every step keeps what the client has heard and will hear together. -/
theorem Stands.step {after : Client} (stands : Stands script number client rest)
    (step : Step script.verdict client after)
    : ∃ more, Stands script number after more ∧ after.heard ++ more = client.heard ++ rest := by
  cases step with
  | turn next => exact ⟨rest, stands.turn next, rfl⟩
  | clock next => exact ⟨rest, stands.clock next, rfl⟩
  | ask settled going told =>
      obtain ⟨more, rfl, later⟩ := stands.ask settled going told
      exact ⟨more, later, by simp [hears]⟩
  | report owes => exact ⟨rest, stands.report owes, rfl⟩

/-- So does any number of steps, by induction. -/
theorem Stands.reaches {after : Client} (stands : Stands script number client rest)
    (reaches : client.Reaches script.verdict after)
    : ∃ more, Stands script number after more ∧ after.heard ++ more = client.heard ++ rest := by
  induction reaches with
  | refl => exact ⟨rest, stands, rfl⟩
  | tail _ step ih =>
      obtain ⟨middle, standing, whole⟩ := ih
      obtain ⟨more, later, kept⟩ := standing.step step
      exact ⟨more, later, kept.trans whole⟩

end Client

end UpdaterLaunch
