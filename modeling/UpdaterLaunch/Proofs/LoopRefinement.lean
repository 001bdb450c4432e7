import UpdaterLaunch.Proofs.DisciplinedClient

/-! A session with a disciplined client is a simple sequential loop, and always ends. What the
client hears is what the loop tells, at the same times, however turns, clock, questions and reports
fall; and a client that waits for every answer gets one each time, until it is told to finish.
-/

namespace UpdaterLaunch

namespace Script

/-- What concludes is not empty. -/
theorem Concludes.ne_nil {heard : Heard} (concludes : Concludes heard) : heard ≠ [] := by
  cases concludes <;> simp

/-- The loop concludes also from a launch that is to be reported on. -/
theorem reporting_ne_nil (script : Script) (launches retries now : Nat)
    : script.reporting launches retries now ≠ [] := by
  unfold reporting
  split
  · simp
  · exact (script.concludes_actions _ _ _).1.ne_nil

end Script

namespace Client

variable {script : Script} {number : Nat} {client : Client} {rest : Heard}

/-- There is nothing more to be heard exactly when the session has ended. -/
theorem Stands.rest_eq_nil_iff (stands : Stands script number client rest)
    : rest = [] ↔ client.session.outcome.isSome = true := by
  cases stands with
  | pending _ _ _ _ session =>
      simp [session, (script.concludes_actions _ _ _).1.ne_nil]
  | launching _ _ session => simp [session]
  | failing _ _ _ session => simp [session]
  | owing _ _ session => simp [session, script.reporting_ne_nil]
  | closing _ _ _ session => simp [session]
  | ended _ _ _ session => simp [session]

/-- Until the session ends there is one thing to be waited for, whichever it is. -/
theorem Stands.tokens (stands : Stands script number client rest)
    (going : client.session.outcome = none)
    : client.tokens = 1 := by
  have unread {world : World} {launches retries rounds : Nat} {events : List Event}
      (hosts : world.Hosts script number launches retries rounds events)
      : ((world.coordinator? number).bind (·.hub.backlog? 0)).elim 0 List.length
        = events.length := by
    obtain ⟨coordinator, there, plays, -⟩ := hosts.coordinator
    simp [there, Hub.backlog?, plays.backlogs]
  cases stands with
  | pending hosts holds retry _ session owes =>
      simp [Client.tokens, Client.unread, session, owes, hosts.kept, holds.tasks,
        World.isRetryOf, retry, unread hosts]
  | launching hosts idle session owes =>
      simp [Client.tokens, Client.unread, session, owes, hosts.kept, idle.tasks, unread hosts]
  | failing hosts _ idle session owes =>
      simp [Client.tokens, Client.unread, session, owes, hosts.kept, idle.tasks, unread hosts]
  | owing hosts idle session owes =>
      simp [Client.tokens, Client.unread, session, owes, hosts.kept, idle.tasks, unread hosts]
  | closing hosts _ idle session owes =>
      simp [Client.tokens, Client.unread, session, owes, hosts.kept, idle.tasks, unread hosts]
  | ended _ _ _ session => simp [session] at going

/-- A hosted coordinator has made one target for each launch and each retry, and at most one
more.
-/
theorem made_le {world : World} {launches retries rounds : Nat} {events : List Event}
    (hosts : world.Hosts script number launches retries rounds events)
    (few : rounds ≤ launches + retries + 1)
    : ∃ coordinator,
        world.coordinator? number = some coordinator
        ∧ coordinator.made
          ≤ script.budget.launchMax.toNat + script.budget.updateMax.toNat + 1 := by
  obtain ⟨coordinator, there, plays, -⟩ := hosts.coordinator
  obtain ⟨updates, putOff⟩ := plays.within
  refine ⟨coordinator, there, ?_⟩
  rw [plays.made]
  omega

/-- No more cycles were run than both limits together allow, and one. -/
theorem Stands.made_le (stands : Stands script number client rest)
    : ∃ coordinator,
        client.world.coordinator? number = some coordinator
        ∧ coordinator.made
          ≤ script.budget.launchMax.toNat + script.budget.updateMax.toNat + 1 := by
  cases stands with
  | pending hosts => exact Client.made_le hosts (Nat.le_succ _)
  | launching hosts => exact Client.made_le hosts (by omega)
  | failing hosts few => exact Client.made_le hosts few
  | owing hosts => exact Client.made_le hosts (by omega)
  | closing hosts few => exact Client.made_le hosts few
  | ended hosts few => exact Client.made_le hosts few

-----------------------------------------------------------------------------------------
-- Waiting for an answer
-----------------------------------------------------------------------------------------

variable {verdict : Nat → Verdict}

/-- Turns are steps of a client that does nothing, by induction on their number. -/
theorem reaches_turns (client : Client) (count : Nat)
    : client.Reaches verdict { client with world := client.world.turns count } := by
  induction count generalizing client with
  | zero => exact .refl
  | succ count ih =>
      unfold World.turns
      split
      · exact .refl
      · rename_i world next
        exact .head (.turn next) (ih { client with world })

/-- To wait is to let turns and clock take their steps. -/
theorem reaches_waits (client : Client) : client.Reaches verdict client.waits := by
  refine exhaust_keeps (P := fun world => client.Reaches verdict { client with world })
    (fun before after waited reached => reached.trans ?_) .refl
  unfold Session.wait? at waited
  split at waited
  · simp at waited
  · split at waited
    · obtain rfl := Option.some.inj waited
      exact reaches_turns { client with world := before } _
    · obtain ⟨due, next, rfl⟩ := Option.map_eq_some_iff.mp waited
      exact .single (.clock (Option.filter_eq_some_iff.mp next).1)

/-- Waiting ends only where the session has an answer, if the client owes nothing and has not been
told of an end: wherever else it stands there is a turn to give or a sleeper to wake.
-/
theorem Stands.answered (stands : Stands script number client rest)
    (settled : client.owes = false) (going : client.session.outcome = none)
    : ∃ answer, client.session.poll? client.waits.world = some answer := by
  obtain ⟨more, standing, -⟩ := stands.reaches (reaches_waits client)
  -- waiting has ended, so it could not go on
  have stuck : client.session.wait? none client.waits.world = none := step_exhaust _
  by_cases answered : (client.session.poll? client.waits.world).isSome
  · exact Option.isSome_iff_exists.mp answered
  · exfalso
    have silent : client.session.poll? client.waits.world = none := by simpa using answered
    simp only [Session.wait?, silent, Option.isSome_none, Bool.false_eq_true, ↓reduceIte] at stuck
    have line : client.waits.world.agenda.ready = [] := by
      by_cases empty : client.waits.world.agenda.ready = []
      · exact empty
      · simp [empty] at stuck
    -- nobody is in line and nobody will wake, so no retry is pending; all else has an answer
    cases standing with
    | pending hosts holds =>
        rcases holds.place with ⟨ready, -⟩ | ⟨-, sleepers⟩
        · simp [line] at ready
        · simp [line, Agenda.next?, sleepers] at stuck
    | launching hosts idle session =>
        obtain ⟨world, read, -⟩ := hosts.read
        have same : client.session = { coordinator := number, slot := 0 } := session
        simp [same, Session.poll?, read] at silent
    | failing hosts few idle session =>
        obtain ⟨world, read, -⟩ := hosts.read
        have same : client.session = { coordinator := number, slot := 0 } := session
        simp [same, Session.poll?, read] at silent
    | owing hosts idle session owes =>
        have same : client.owes = true := owes
        simp [same] at settled
    | closing hosts few idle session =>
        have same
            : client.session
              = { coordinator := number, slot := 0, queuedFinish := some .updated } := session
        simp [same, Session.poll?] at silent
    | @ended _ _ _ outcome hosts few idle session =>
        have same
            : client.session = { coordinator := number, slot := 0, outcome := some outcome } :=
          session
        simp [same] at going

/-- A question with its report is a row of steps. -/
theorem reaches_serves (verdict : Nat → Verdict) (settled : client.owes = false)
    : client.Reaches verdict (client.serves verdict) := by
  unfold serves
  split
  · exact .refl
  · rename_i going
    have unended : client.session.outcome = none := by simpa using going
    have asked : client.Reaches verdict client.asks := by
      unfold asks
      cases told : client.session.poll? client.waits.world with
      | none => exact reaches_waits client
      | some answer => exact (reaches_waits client).tail (.ask settled unended told)
    split
    · rename_i owes
      exact asked.tail (.report owes)
    · exact asked

/-- A question gets the next of what is to be heard, and after it the client owes nothing. -/
theorem Stands.serves {action : Session.Next × Nat}
    (stands : Stands script number client (action :: rest)) (settled : client.owes = false)
    : Stands script number (client.serves script.verdict) rest
      ∧ (client.serves script.verdict).owes = false
      ∧ (client.serves script.verdict).heard = client.heard ++ [action] := by
  have going : client.session.outcome = none := by
    have unended := mt stands.rest_eq_nil_iff.mpr (List.cons_ne_nil action rest)
    simpa using unended
  obtain ⟨answer, told⟩ := stands.answered settled going
  obtain ⟨waiting, standing, kept⟩ := stands.reaches (reaches_waits client)
  obtain ⟨more, rfl, heard⟩ := standing.ask settled going told
  obtain ⟨rfl, rfl⟩ := List.cons.inj (List.append_cancel_left kept)
  have asked : client.asks = client.waits.hears answer := by
    simp only [asks, told, Option.elim_some]
  have ongoing : ¬client.session.outcome.isSome = true := by simp [going]
  unfold Client.serves
  rw [if_neg ongoing, asked]
  by_cases owes : (client.waits.hears answer).owes = true
  · rw [if_pos owes]
    exact ⟨heard.report owes, rfl, rfl⟩
  · rw [if_neg owes]
    exact ⟨heard, by simpa using owes, rfl⟩

/-- After a number of questions the client has heard as much of what is to be heard, by induction on
their number; it is there by steps, and owes nothing.
-/
theorem Stands.plays (stands : Stands script number client rest) (settled : client.owes = false)
    (count : Nat)
    : client.Reaches script.verdict (client.plays script.verdict count)
      ∧ Stands script number (client.plays script.verdict count) (rest.drop count)
      ∧ (client.plays script.verdict count).heard = client.heard ++ rest.take count := by
  induction count generalizing client rest with
  | zero => exact ⟨.refl, stands, by simp [Client.plays]⟩
  | succ count ih =>
      have served := reaches_serves script.verdict settled
      cases rest with
      | nil =>
          have ended := stands.rest_eq_nil_iff.mp rfl
          have same : client.serves script.verdict = client := if_pos ended
          obtain ⟨reached, standing, heard⟩ := ih stands settled
          simp only [Client.plays, same]
          exact ⟨reached, by simpa using standing, by simpa using heard⟩
      | cons action rest =>
          obtain ⟨next, owes, told⟩ := stands.serves settled
          obtain ⟨reached, standing, heard⟩ := ih next owes
          refine ⟨served.trans reached, standing, heard.trans ?_⟩
          rw [told, List.append_assoc]
          rfl

end Client

-----------------------------------------------------------------------------------------
-- Opening a session
-----------------------------------------------------------------------------------------

/-- A coordinator that was just put together has spent nothing, made nothing and told nobody. -/
theorem Coordinator.new_of_build {parts : Coordinator.Parts} {coordinator : Coordinator}
    (built : Coordinator.build parts = .ok coordinator)
    : coordinator.counters = {} ∧ coordinator.made = 0 ∧ coordinator.hub = {}
      ∧ coordinator.alive = true := by
  unfold Coordinator.build at built
  split at built
  · simp at built
  · simp at built
  · simp at built
  · simp at built
  · obtain rfl := Except.ok.inj built
    exact ⟨rfl, rfl, rfl, rfl⟩

namespace World

/-- A session that is opened over a new coordinator has the only subscription there. -/
theorem openSession_new (world : World) {coordinator : Coordinator}
    (silent : coordinator.hub = {}) (alive : coordinator.alive = true)
    : let number := world.coordinators.length
      let added := Host.addCoordinator world coordinator
      added.coordinator? number = some coordinator
      ∧ Host.openSession world coordinator 0
        = (some { coordinator := number, slot := 0 },
            added.put number { coordinator with hub := coordinator.hub.subscribe }) := by
  intro number added
  have there : added.coordinator? number = some coordinator := by
    simp [added, number, Host.addCoordinator, World.coordinator?, World.addTimed]
  have live := live?_eq_some_iff.mpr ⟨there, alive⟩
  have slot : coordinator.hub.backlogs.length = 0 := by rw [silent]; rfl
  refine ⟨there, ?_⟩
  simp only [added, number] at live
  simp only [Host.openSession, Nat.repeat, live, Session.ofCoordinator, slot, added, number]

/-- Nothing is pending on the clock, and no retry is kept for a coordinator yet to come. -/
structure Awaits (world : World) : Prop where
  queues : world.agenda.queues.length = world.schedulers.length
  idle : world.agenda.Idle
  unkept : world.kept world.coordinators.length = 0

/-- A session that is opened over a new coordinator, on a scheduler of its own, is at the start of
the coordinator's script, and no time has passed.
-/
theorem Awaits.openSession {world : World} {coordinator : Coordinator} (awaits : world.Awaits)
    (unspent : coordinator.counters = {}) (unused : coordinator.made = 0)
    (silent : coordinator.hub = {}) (alive : coordinator.alive = true)
    (own : coordinator.scheduler = world.schedulers.length) (verdict : Nat → Verdict)
    : ∃ opened,
        Host.openSession world coordinator 0
          = (some { coordinator := world.coordinators.length, slot := 0 }, opened)
        ∧ opened.Hosts (coordinator.script world.registry verdict) world.coordinators.length
            0 0 0 []
        ∧ opened.agenda.Idle
        ∧ opened.agenda.now = world.agenda.now := by
  obtain ⟨there, opens⟩ := world.openSession_new silent alive
  refine ⟨_, opens, ⟨?_, ?_, ?_⟩, ?_, rfl⟩
  · refine ⟨_, coordinator?_put_self there _, ?_, ?_⟩
    · constructor
      · exact alive
      · rfl
      · rfl
      · rw [unspent]
        rfl
      · rw [unspent]
        rfl
      · rw [unspent]
        exact Budget.covers_none _
      · exact unused
      · intro ahead
        rw [Nat.zero_add]
        rfl
      · rw [silent]
        rfl
      · rw [silent]
        rfl
      · rw [silent]
        rfl
    · simp [Host.addCoordinator, World.addTimed, World.put, own]
  · simp [Host.addCoordinator, World.addTimed, World.put, Agenda.addQueue, awaits.queues]
  · have unkept := awaits.unkept
    simp only [World.kept, Nat.add_eq_zero_iff] at unkept
    simp [Host.addCoordinator, World.addTimed, World.put, total_append, unkept.1, total,
      Scheduler.keeps]
  · exact ⟨awaits.idle.ready, awaits.idle.sleepers⟩

end World

/-- A session with a disciplined client is the sequential loop. The loop tells to launch a number of
times and then to finish. A client that waits for each answer hears what the loop tells, question by
question and at the same times, and is told to finish by one question more than there may be
launches. However turns, clock, questions and reports fall, what was heard so far is a first part
of the loop, and all of it exactly when the session has ended; until then exactly one thing is
there to be waited for; and the cycles are at most one more than both limits together. By
simulation of the client by the loop.
-/
theorem session_follows_loop {world : World} {parts : Coordinator.Parts}
    {coordinator : Coordinator} (awaits : world.Awaits)
    (built : Coordinator.build parts = .ok coordinator)
    (own : coordinator.scheduler = world.schedulers.length) (verdict : Nat → Verdict)
    : let number := world.coordinators.length
      let loop := (coordinator.script world.registry verdict).actions 0 0 world.agenda.now
      let launchMax := coordinator.budget.launchMax.toNat
      let updateMax := coordinator.budget.updateMax.toNat
      ∃ session opened,
        Host.openSession world coordinator 0 = (some session, opened)
        ∧ let start : Client := { session, world := session.start false opened }
          Script.Concludes loop
          ∧ (∀ count,
              start.Reaches verdict (start.plays verdict count)
              ∧ (start.plays verdict count).heard = loop.take count)
          ∧ (start.plays verdict (updateMax + 1)).session.outcome.isSome = true
          ∧ ∀ client,
              start.Reaches verdict client
              → client.heard <+: loop
                ∧ (client.session.outcome.isSome = true ↔ client.heard = loop)
                ∧ (client.session.outcome = none → client.tokens = 1)
                ∧ ∃ now,
                    client.world.coordinator? number = some now
                    ∧ now.made ≤ launchMax + updateMax + 1 := by
  intro number loop launchMax updateMax
  obtain ⟨unspent, unused, silent, alive⟩ := Coordinator.new_of_build built
  obtain ⟨opened, opens, hosts, idle, now⟩ :=
    awaits.openSession unspent unused silent alive own verdict
  refine ⟨_, opened, opens, ?_⟩
  intro start
  -- the first attempt is made with the start of the session, before anything is asked
  have stands : Client.Stands (coordinator.script world.registry verdict) number start loop := by
    have attempted := Client.stands_attempt
      { session := { coordinator := number, slot := 0 }, world := opened } hosts idle rfl rfl rfl
    rw [now] at attempted
    exact attempted
  obtain ⟨concludes, short⟩ :=
    (coordinator.script world.registry verdict).concludes_actions 0 0 world.agenda.now
  refine ⟨concludes, fun count => ?_, ?_, fun client reached => ?_⟩
  · obtain ⟨reached, -, heard⟩ := stands.plays rfl count
    exact ⟨reached, heard⟩
  · obtain ⟨-, standing, -⟩ := stands.plays rfl (updateMax + 1)
    exact standing.rest_eq_nil_iff.mp (List.drop_eq_nil_of_le short)
  · obtain ⟨rest, standing, whole⟩ := stands.reaches reached
    have whole : client.heard ++ rest = loop := whole
    refine ⟨⟨rest, whole⟩, ?_, standing.tokens, standing.made_le⟩
    rw [← standing.rest_eq_nil_iff, ← whole]
    simp

/-- The first answer is bad and the others are good, and the updater fails: the client waits 100
milliseconds, launches once, and is told to finish when the next launch would be one too many.
-/
theorem session_follows_loop_to_cancelled
    : let parts : Coordinator.Parts :=
        { budget := some (.ofMillis 1 1 100)
          checker := some (.ofList [false, true, true])
          factory := some fun _ => { action := "update" }
          scheduler := some 0 }
      let coordinator : Coordinator :=
        { budget := .ofMillis 1 1 100
          checker := .ofList [false, true, true]
          factory := fun _ => { action := "update" }
          scheduler := 0 }
      let verdict : Nat → Verdict := fun _ => .failed
      World.Awaits {}
      ∧ Coordinator.build parts = .ok coordinator
      ∧ coordinator.scheduler = ({} : World).schedulers.length
      ∧ ∃ session opened,
          Host.openSession {} coordinator 0 = (some session, opened)
          ∧ let start : Client := { session, world := session.start false opened }
            (start.plays verdict 2).heard
              = [(.launchUpdater { action := "update" }, 100), (.finish .cancelled, 100)]
            ∧ (start.plays verdict 2).session.outcome.isSome = true := by
  intro parts coordinator verdict
  have awaits : World.Awaits {} := ⟨rfl, ⟨rfl, rfl⟩, rfl⟩
  have built : Coordinator.build parts = .ok coordinator := rfl
  have own : coordinator.scheduler = ({} : World).schedulers.length := rfl
  obtain ⟨session, opened, opens, -, heard, ended, -⟩ :=
    session_follows_loop awaits built own verdict
  refine ⟨awaits, built, own, session, opened, opens, (heard 2).2.trans ?_, ended⟩
  rw [Script.actions_of_wait rfl (by decide), Script.actions_of_launch rfl (by decide),
    Script.reporting, if_neg (by decide), Script.actions_of_spent (by decide)]
  decide

end UpdaterLaunch
