import UpdaterLaunch.DryRun
import UpdaterLaunch.Proofs.AwaitedAttempts
import UpdaterLaunch.Proofs.LoopRefinement
import UpdaterLaunch.Proofs.RegistryHistories

/-! What a dry run comes to, in closed form. While the packages stay as they are, the answer to
every question is the same: either every launch is possible, and then the updater is launched at
once until it has succeeded or may not be launched again; or none is, and then the launch is put off
until no retry is left.
-/

namespace UpdaterLaunch

-----------------------------------------------------------------------------------------
-- One answer to all questions
-----------------------------------------------------------------------------------------

/-- A coordinator whose every target is the same and gets the answer of the packages, with what it
has counted; its only reader has nothing to read.
-/
structure Coordinator.Plain (budget : Budget) (target : Target) (registry : Registry)
    (launches retries : Nat) (own : Coordinator) : Prop where
  alive : own.alive = true
  budget : own.budget = budget
  factory : ∀ round, own.factory round = target
  answers : ∀ ahead, own.checker.answerAhead registry target ahead = registry.resolves target
  updates : own.counters.updateTries.toNat = launches
  putOff : own.counters.launchTries.toNat = retries
  feeds : own.hub.Feeds []

namespace Coordinator.Plain

variable {budget : Budget} {target : Target} {registry : Registry} {launches retries : Nat}
  {own : Coordinator}

theorem answerTo (plain : own.Plain budget target registry launches retries) (ahead : Nat)
    : own.answerTo registry ahead = registry.resolves target := by
  rw [Coordinator.answerTo, plain.factory, plain.answers]

/-- A launch that is possible is not put off, and one that is not is put off as often as allowed. -/
theorem timesPutOff (plain : own.Plain budget target registry launches retries)
    : own.timesPutOff registry
      = if registry.resolves target then 0 else budget.launchMax.toNat - retries := by
  have same : own.answerTo registry = fun _ => registry.resolves target :=
    funext plain.answerTo
  have left : own.launchesLeft = budget.launchMax.toNat - retries := by
    rw [launchesLeft, Budget.launchesLeft, plain.budget, plain.putOff]
  rw [Coordinator.timesPutOff, same, left]
  cases registry.resolves target with
  | true =>
      cases budget.launchMax.toNat - retries <;>
        simp [List.range_succ_eq_map, List.findIdx_cons]
  | false => simp [List.findIdx_eq_length.mpr]

/-- An attempt ends with a launch if one is possible and allowed. -/
theorem conclusion (plain : own.Plain budget target registry launches retries)
    : own.conclusion registry
      = if registry.resolves target then
          if launches < budget.updateMax.toNat then .launchRequested target
          else .failed .updateRetries
        else .failed .launchRetries := by
  simp only [Coordinator.conclusion, plain.answerTo, plain.factory, UInt32.lt_iff_toNat_lt,
    plain.updates, plain.budget]

/-- After an attempt that was read of, the counts are those of the attempt. -/
theorem concluded (plain : own.Plain budget target registry launches retries) {hub : Hub}
    (feeds : hub.Feeds [])
    : ({ own.afterCycles registry (own.timesPutOff registry + 1) with hub } : Coordinator).Plain
        budget target registry
        (launches + if (own.conclusion registry).asksToLaunch then 1 else 0)
        (retries + own.timesPutOff registry) := by
  have after := concluded_afterCycles own registry
  constructor
  · rw [after.same]
    exact plain.alive
  · rw [after.same]
    exact plain.budget
  · rw [after.same]
    exact plain.factory
  · intro ahead
    exact (after.answers target ahead).trans (plain.answers _)
  · exact after.updates.trans (congrArg (· + _) plain.updates)
  · exact after.retries.trans (congrArg (· + _) plain.putOff)
  · exact feeds

end Coordinator.Plain

namespace DryRun

-----------------------------------------------------------------------------------------
-- Playing a session
-----------------------------------------------------------------------------------------

section Playing

variable {attempt : Attempt} {horizon count number : Nat} {stage : Stage} {session next : Session}
  {world : World} {said : UInt32} {failures : Nat} {outcome : Outcome}

/-- Whether or not others have a turn first, the player gets to the end of the attempt. -/
theorem attend_underway (underway : stage.world.Underway attempt horizon count)
    (alive : attempt.first.alive = true)
    (far : attempt.start + attempt.last * attempt.wait ≤ horizon)
    (feeds : attempt.first.hub.Feeds [])
    : (attend (.ofOnly attempt.number) stage).world.Underway attempt horizon attempt.last := by
  obtain ⟨more, underway⟩
      : ∃ more,
          (if stage.patience = 0 then { world := stage.world.round, patience := stretch }
            else stage : Stage).world.Underway attempt horizon more := by
    split
    · exact underway.turns alive far _
    · exact ⟨count, underway⟩
  unfold attend
  dsimp only
  generalize (if stage.patience = 0 then _ else stage : Stage) = rested at underway ⊢
  split
  · rename_i answered
    rwa [(underway.isSome_poll?_iff feeds).mp answered] at underway
  · exact underway.wait alive far feeds

/-- A player that is told to launch does so, and reports how it went. -/
theorem play?_of_launch {target : Target}
    (told
      : session.poll? (attend session stage).world = some (.launchUpdater target, next, world))
    : play? failures session said stage
      = let patience := (attend session stage).patience - 1
        let world := world.note (some next.coordinator) [.updaterLaunching target (said + 1)]
        match failures with
        | failures + 1 =>
            play? failures (next.report .failed world).1 (said + 1)
              { world := (next.report .failed world).2, patience }
        | 0 =>
            conclude? (next.report .ok world).1 (said + 1)
              { world := (next.report .ok world).2, patience } := by
  cases failures with
  | zero =>
      rw [play?]
      simp only [told]
  | succ failures =>
      rw [play?]
      simp only [told]

/-- A player that is told of the end stops. -/
theorem play?_of_finish
    (told : session.poll? (attend session stage).world = some (.finish outcome, next, world))
    : play? failures session said stage
      = some
          { outcome
            launches := said
            stage :=
              { world := next.stop world, patience := (attend session stage).patience - 1 } } := by
  rw [play?]
  simp only [told, conclude?]

/-- An ending with the outcome, the counts and the time that it is to have. -/
structure Ending.Closes (number : Nat) (outcome : Outcome) (launches retries time : Nat)
    (ending : Ending) : Prop where
  ends : ending.outcome = outcome
  said : ending.launches.toNat = launches
  halts : ending.stage.world.agenda.now = time
  counted
    : ∃ own,
        ending.stage.world.coordinator? number = some own
        ∧ own.counters.updateTries.toNat = launches
        ∧ own.counters.launchTries.toNat = retries

theorem coordinator?_stop (session : Session) (world : World) (number : Nat)
    : (session.stop world).coordinator? number = world.coordinator? number := by
  unfold Session.stop World.stopRetries
  split
  · rfl
  · rw [World.coordinator?, World.coordinators_cancel]
    rfl

theorem now_stop (session : Session) (world : World)
    : (session.stop world).agenda.now = world.agenda.now := by
  unfold Session.stop World.stopRetries
  split
  · rfl
  · exact World.now_cancel _ _ _

end Playing

section Runs

variable {budget : Budget} {target : Target} {registry : Registry}
  {horizon number launches retries : Nat} {own : Coordinator} {world : World} {said : UInt32}
  {stage : Stage} {failures : Nat}

/-- The time that an attempt takes. -/
def span (own : Coordinator) (registry : Registry) : Nat :=
  own.timesPutOff registry * min own.budget.delay.ticks Agenda.longestSleep

/-- The player of a session that makes an attempt gets to the conclusion, when it is due. -/
theorem attend_attempt (bides : world.Bides number own registry horizon [])
    (plain : own.Plain budget target registry launches retries)
    (far : world.agenda.now + span own registry ≤ horizon) (patience : Nat)
    : let attended := (attend (.ofOnly number) { world := world.attempt number, patience }).world
      let after := own.afterCycles registry (own.timesPutOff registry + 1)
      attended.Bides number after registry horizon []
      ∧ attended.agenda.now = world.agenda.now + span own registry
      ∧ after.hub.Feeds [own.conclusion registry] := by
  intro attended after
  let attempt : Attempt := { number, first := own, registry, start := world.agenda.now }
  have stands
      : world.Bides attempt.number (attempt.after 0) attempt.registry horizon [] := bides
  have begun : (world.attempt number).Underway attempt horizon 0 :=
    stands.nextCycle plain.alive (Nat.zero_le _) (by simp [attempt])
  have done : attended.Underway attempt horizon attempt.last :=
    attend_underway begun plain.alive far plain.feeds
  have bides := done.bides
  have feeds : (attempt.after (attempt.last + 1)).hub.Feeds (attempt.unread attempt.last) :=
    Attempt.feeds plain.feeds (Nat.le_refl _)
  rw [Attempt.dues, if_neg (Nat.lt_irrefl _)] at bides
  rw [Attempt.unread, if_neg (Nat.lt_irrefl _)] at feeds
  exact ⟨bides, done.ended rfl, feeds⟩

/-- An attempt that fails is the end of the run. -/
theorem play?_of_failed (bides : world.Bides number own registry horizon [])
    (plain : own.Plain budget target registry launches retries)
    (far : world.agenda.now + span own registry ≤ horizon) (counted : said.toNat = launches)
    {reason : Failure} (fails : own.conclusion registry = .failed reason) (patience : Nat)
    : ∃ ending,
        play? failures (.ofOnly number) said { world := world.attempt number, patience }
          = some ending
        ∧ ending.Closes number .cancelled launches (retries + own.timesPutOff registry)
            (world.agenda.now + span own registry) := by
  obtain ⟨later, now, feeds⟩ := attend_attempt bides plain far patience
  rw [fails] at feeds
  obtain ⟨hub, rest, told⟩ := Session.poll?_of_failed later.there feeds
  have kept := plain.concluded rest
  rw [fails] at kept
  refine ⟨_, play?_of_finish told, rfl, counted, ?_, _, ?_, kept.updates, kept.putOff⟩
  · rw [now_stop, now_stop]
    exact now
  · rw [coordinator?_stop, coordinator?_stop]
    exact World.coordinator?_put_self later.there _

/-- A success that is reported is the end of the run. -/
theorem conclude?_of_ok {launches retries : Nat} (there : world.coordinator? number = some own)
    (updates : own.counters.updateTries.toNat = launches)
    (putOff : own.counters.launchTries.toNat = retries) (counted : said.toNat = launches)
    (patience : Nat)
    : ∃ ending,
        conclude? ((Session.ofOnly number).report .ok world).1 said
            { world := ((Session.ofOnly number).report .ok world).2, patience }
          = some ending
        ∧ ending.Closes number .updated launches retries world.agenda.now := by
  have finishes
      : ((Session.ofOnly number).report .ok world).1.poll?
            ((Session.ofOnly number).report .ok world).2
          = some (((Session.ofOnly number).report .ok world).1.finish .updated
              (world.note (some number) [.verdictReceived .ok])) := by
    simp [Session.report, Session.poll?, Session.ofOnly]
  refine ⟨_, by simp only [conclude?, finishes, Session.finish]; rfl, rfl, counted, ?_, own, ?_,
    updates, putOff⟩
  · rw [now_stop, now_stop]
    rfl
  · rw [coordinator?_stop, coordinator?_stop]
    exact there

/-- An attempt that ends with a launch is followed by the report: the end of the run, or the next
attempt.
-/
theorem play?_of_requested (bides : world.Bides number own registry horizon [])
    (plain : own.Plain budget target registry launches retries)
    (far : world.agenda.now + span own registry ≤ horizon) {requested : Target}
    (asks : own.conclusion registry = .launchRequested requested) (said : UInt32) (patience : Nat)
    : ∃ (after : Coordinator) (later : World) (left : Nat),
        later.Bides number after registry horizon []
        ∧ after.Plain budget target registry (launches + 1) (retries + own.timesPutOff registry)
        ∧ later.agenda.now = world.agenda.now + span own registry
        ∧ ∀ failures,
            play? failures (.ofOnly number) said { world := world.attempt number, patience }
            = match failures with
              | failures + 1 =>
                  play? failures (.ofOnly number) (said + 1)
                    { world :=
                        (later.note (some number) [.verdictReceived .failed]).attempt number
                      patience := left }
              | 0 =>
                  conclude? ((Session.ofOnly number).report .ok later).1 (said + 1)
                    { world := ((Session.ofOnly number).report .ok later).2
                      patience := left } := by
  obtain ⟨attended, now, feeds⟩ := attend_attempt bides plain far patience
  rw [asks] at feeds
  obtain ⟨hub, rest, told⟩ := Session.poll?_of_launch attended.there feeds
  have kept := plain.concluded rest
  rw [asks] at kept
  refine ⟨_, _, _, ?_, kept, ?_, fun failures => play?_of_launch told⟩
  · refine (World.Bides.put attended ?_).note _ _
    rfl
  · exact now

/-- While every launch is possible, the player launches at once until there is a success or no
launch is left, by induction on the failures to come.
-/
theorem play?_of_possible (possible : registry.resolves target = true)
    (bides : world.Bides number own registry horizon [])
    (plain : own.Plain budget target registry launches retries)
    (far : world.agenda.now ≤ horizon) (counted : said.toNat = launches) (patience : Nat)
    : ∃ ending,
        play? failures (.ofOnly number) said { world := world.attempt number, patience }
          = some ending
        ∧ ending.Closes number
            (if failures < budget.updateMax.toNat - launches then .updated else .cancelled)
            (launches + min (failures + 1) (budget.updateMax.toNat - launches)) retries
            world.agenda.now := by
  induction failures using Nat.strongRecOn generalizing own launches said world patience with
  | ind failures ih =>
      have atOnce : own.timesPutOff registry = 0 := by rw [plain.timesPutOff, if_pos possible]
      have standing : world.agenda.now + span own registry = world.agenda.now := by
        rw [span, atOnce, Nat.zero_mul, Nat.add_zero]
      have near : world.agenda.now + span own registry ≤ horizon := standing.symm ▸ far
      have conclusion := plain.conclusion
      rw [if_pos possible] at conclusion
      by_cases allowed : launches < budget.updateMax.toNat
      · rw [if_pos allowed] at conclusion
        obtain ⟨after, later, left, bides, next, now, plays⟩ :=
          play?_of_requested bides plain near conclusion said patience
        rw [atOnce, Nat.add_zero] at next
        rw [standing] at now
        have counted : (said + 1).toNat = launches + 1 := by
          rw [← counted] at allowed ⊢
          exact Budget.toNat_succ_of_lt (UInt32.lt_iff_toNat_lt.mpr allowed)
        rw [plays, ← now]
        cases failures with
        | zero =>
            have remains : 0 < budget.updateMax.toNat - launches := Nat.sub_pos_of_lt allowed
            rw [if_pos remains, Nat.zero_add, Nat.min_eq_left remains]
            exact conclude?_of_ok bides.there next.updates next.putOff counted left
        | succ failures =>
            obtain ⟨ending, played, closes⟩ :=
              ih failures (Nat.lt_succ_self failures) (bides.note _ _) next (now ▸ far) counted left
            refine ⟨ending, played, ?_⟩
            have remains
                : budget.updateMax.toNat - launches
                  = budget.updateMax.toNat - (launches + 1) + 1 := by
              omega
            rw [remains, Nat.add_min_add_right, ← Nat.add_assoc, Nat.add_right_comm launches]
            simp only [Nat.add_lt_add_iff_right]
            exact closes
      · rw [if_neg allowed] at conclusion
        have spent : budget.updateMax.toNat - launches = 0 :=
          Nat.sub_eq_zero_of_le (Nat.le_of_not_lt allowed)
        obtain ⟨ending, played, closes⟩ :=
          play?_of_failed bides plain near counted conclusion patience
        rw [atOnce, Nat.add_zero, standing] at closes
        rw [spent, if_neg (Nat.not_lt_zero failures), Nat.min_zero, Nat.add_zero]
        exact ⟨ending, played, closes⟩

/-- While no launch is possible, the first attempt is put off as often as allowed, and is the last.
-/
theorem play?_of_impossible (impossible : registry.resolves target = false)
    (bides : world.Bides number own registry horizon [])
    (plain : own.Plain budget target registry launches retries)
    (within : retries ≤ budget.launchMax.toNat)
    (far : world.agenda.now + span own registry ≤ horizon) (counted : said.toNat = launches)
    (patience : Nat)
    : ∃ ending,
        play? failures (.ofOnly number) said { world := world.attempt number, patience }
          = some ending
        ∧ ending.Closes number .cancelled launches budget.launchMax.toNat
            (world.agenda.now + span own registry) := by
  have putOff : retries + own.timesPutOff registry = budget.launchMax.toNat := by
    rw [plain.timesPutOff, impossible, if_neg Bool.false_ne_true]
    omega
  have conclusion := plain.conclusion
  rw [impossible, if_neg Bool.false_ne_true] at conclusion
  rw [← putOff]
  exact play?_of_failed bides plain far counted conclusion patience

end Runs

end DryRun

-----------------------------------------------------------------------------------------
-- Hosts on which a run can take place
-----------------------------------------------------------------------------------------

/-- One more queue disturbs nobody. -/
theorem Agenda.Orderly.addQueue {agenda : Agenda Task} (orderly : agenda.Orderly)
    : agenda.addQueue.Orderly where
  line := orderly.line
  asleep := orderly.asleep
  live posting member := by
    obtain ⟨queue, there, current⟩ := (Option.any_eq_true _ _).mp (orderly.live posting member)
    refine (Option.any_eq_true _ _).mpr ⟨queue, ?_, current⟩
    have inside := (List.getElem?_eq_some_iff.mp there).1
    exact (List.getElem?_append_left inside).trans there
  sorted := orderly.sorted

namespace World

/-- A world that takes one more coordinator, and in which no package changes up to a time. Every
scheduler has its queue, nobody is late, and nothing is pending for a coordinator yet to come.
-/
structure SteadyUntil (time : Nat) (world : World) : Prop where
  orderly : world.agenda.Orderly
  queues : world.agenda.queues.length = world.schedulers.length
  fresh
    : ∀ posting ∈ world.agenda.waiting,
        posting.task ≠ .retry world.coordinators.length
  changes
    : ∀ posting ∈ world.agenda.waiting,
        ∀ change, posting.task = .change change → time < posting.due

/-- A session that is opened in it has a new coordinator of its own, with nothing pending. -/
theorem SteadyUntil.openSession {time : Nat} {world : World} (steady : world.SteadyUntil time)
    {coordinator : Coordinator} (own : coordinator.scheduler = world.schedulers.length)
    (alive : coordinator.alive = true) (silent : coordinator.hub = {})
    : ∃ opened,
        Host.openSession world coordinator 0
          = (some (.ofOnly world.coordinators.length), opened)
        ∧ opened.Bides world.coordinators.length
            { coordinator with hub := coordinator.hub.subscribe } world.registry time []
        ∧ opened.agenda.now = world.agenda.now := by
  obtain ⟨there, opens⟩ := world.openSession_new silent alive
  have timed
      : (Host.addCoordinator world coordinator).schedulers[coordinator.scheduler]?
        = some .timed := by
    simp [Host.addCoordinator, World.addTimed, own]
  have none
      : world.agenda.addQueue.tasks.filter (isRetryOf world.coordinators.length) = [] := by
    refine List.filter_eq_nil_iff.mpr fun posting member => ?_
    simpa [isRetryOf] using steady.fresh posting (List.mem_filter.mp member).1
  refine ⟨_, opens, ⟨rfl, ?_, timed, ?_, steady.orderly.addQueue, steady.changes, ?_⟩, rfl⟩
  · exact coordinator?_put_self there _
  · simp [Host.addCoordinator, World.addTimed, World.put, Agenda.addQueue, own, steady.queues]
  · exact .of_eq (congrArg (List.map (·.due)) none)

end World

-----------------------------------------------------------------------------------------
-- The closed form
-----------------------------------------------------------------------------------------

namespace DryRun

/-- What a dry run should come to, in natural numbers. -/
structure Forecast where
  outcome : Option Outcome
  launches : Nat
  retries : Nat
  elapsed : Nat

namespace Forecast

/-- The forecast where the updater is not to be started. -/
def skipped : Forecast := { outcome := none, launches := 0, retries := 0, elapsed := 0 }

/-- The forecast where every launch is possible. -/
def possible (config : Config) : Forecast :=
  let failed := config.dryRun.failedUpdates.toNat
  let updateMax := config.updaterLaunch.updateMaxRetries.toNat
  { outcome := some (if failed < updateMax then .updated else .cancelled)
    launches := min (failed + 1) updateMax
    retries := 0
    elapsed := 0 }

/-- The forecast where no launch is possible. -/
def impossible (config : Config) : Forecast :=
  let launchMax := config.updaterLaunch.launchMaxRetries.toNat
  let delay := config.updaterLaunch.launchRetryDelayMs.toNat
  { outcome := some .cancelled
    launches := 0
    retries := launchMax
    elapsed := launchMax * min delay Agenda.longestSleep }

end Forecast

/-- The forecast for a configuration, the names of the packages that play a part, and what is
installed under each name.
-/
def forecast (config : Config) (provider : Provider) (installed : String → Option Installed)
    : Forecast :=
  match config.roleHolder.deferProvisioning, nonEmpty? provider.roleHolder,
    (nonEmpty? provider.updater).bind installed with
  | true, some _, some updater =>
      if updater.suspended = false ∧ Action.updateRoleHolder ∈ updater.handledActions then
        .possible config
      else .impossible config
  | _, _, _ => .skipped

/-- A run comes to its end, with a report as it is forecast. The counts of the machine are those
of the forecast, so none has run over.
-/
def Meets (forecast : Forecast) (host : Host) (patience : Nat) : Prop :=
  ∃ report left after,
    run? host patience = some (report, left, after)
    ∧ report.outcome = forecast.outcome
    ∧ report.launches.toNat = forecast.launches
    ∧ report.elapsed = forecast.elapsed
    ∧ (after.world.coordinator? host.world.coordinators.length).map
        (fun own => (own.counters.updateTries.toNat, own.counters.launchTries.toNat))
      = forecast.outcome.map fun _ => (forecast.launches, forecast.retries)

/-- What a run makes of the end of its session. -/
def Ending.result (host : Host) (ending : Ending) : Report × Nat × Host :=
  ({ outcome := some ending.outcome
     launches := ending.launches
     elapsed := ending.stage.world.agenda.now - host.world.agenda.now },
    ending.stage.patience, { host with world := ending.stage.world })

/-- A host that starts the updater, of a name and as it is installed. -/
structure Starts (name : String) (updater : Installed) (host : Host) : Prop where
  on : host.config.roleHolder.deferProvisioning = true
  holder : ∃ holder, nonEmpty? host.provider.roleHolder = some holder
  named : nonEmpty? host.provider.updater = some name
  installed : host.world.registry.get? name = some updater

/-- The target that starts the updater of a name. -/
def targetOf (name : String) : Target :=
  Target.withPackage { action := Action.updateRoleHolder } name

variable {host : Host} {time patience : Nat} {name : String} {updater : Installed}

/-- The check before a start finds out whether the updater is started. -/
theorem startCheck_iff
    : (host.provider.startCheck host.config.roleHolder.deferProvisioning
        host.world.registry.device).start = true
      ↔ ∃ name updater, Starts name updater host := by
  constructor
  · intro start
    unfold Provider.startCheck at start
    split at start
    · rename_i on
      split at start
      · cases start
      · cases start
      · rename_i holder name holds named
        obtain ⟨updater, installed⟩ := Option.isSome_iff_exists.mp start
        exact ⟨name, updater, on, ⟨holder, holds⟩, named, installed⟩
    · cases start
  · rintro ⟨name, updater, on, ⟨holder, holds⟩, named, installed⟩
    simp [Provider.startCheck, on, holds, named, Registry.device, Registry.isInstalled,
      installed]

theorem Starts.resolves_iff (starts : Starts name updater host)
    : host.world.registry.resolves (targetOf name) = true
      ↔ updater.suspended = false ∧ Action.updateRoleHolder ∈ updater.handledActions := by
  simp [Registry.resolves, targetOf, Target.withPackage, starts.installed, Installed.resolves]

/-- If the updater is not to be started, there is no session and nothing happens. -/
theorem meets_skipped (idle : ¬ ∃ name updater, Starts name updater host)
    : Meets .skipped host patience := by
  have nobody (notices : List Notice)
      : (host.world.note none notices).coordinator? host.world.coordinators.length = none := by
    simp [World.coordinator?, World.note]
  have idle := eq_false_of_ne_true (mt startCheck_iff.mp idle)
  have wired : host.wire = (none, host.world.note none (host.provider.startCheck
      host.config.roleHolder.deferProvisioning host.world.registry.device).notices) := by
    simp only [Host.wire, idle]
  refine ⟨_, patience, _, by simp only [run?, wired]; rfl, rfl, rfl, rfl, ?_⟩
  rw [nobody]
  rfl

/-- If the updater is to be started, the run is a session that is played from its first attempt. -/
theorem Starts.run? (starts : Starts name updater host) (steady : host.world.SteadyUntil time)
    (patience : Nat)
    : let number := host.world.coordinators.length
      ∃ world own,
        World.Bides number own host.world.registry time [] world
        ∧ own.Plain host.config.updaterLaunch.budget (targetOf name) host.world.registry 0 0
        ∧ world.agenda.now = host.world.agenda.now
        ∧ DryRun.run? host patience
          = (play? host.config.dryRun.failedUpdates.toNat (.ofOnly number) 0
              { world := world.attempt number, patience }).map (Ending.result host) := by
  intro number
  have start := startCheck_iff.mpr ⟨name, updater, starts⟩
  let wired := (host.world.note none (host.provider.startCheck
    host.config.roleHolder.deferProvisioning host.world.registry.device).notices).note
      (some number) [.sessionWired]
  have steady : wired.SteadyUntil time :=
    ⟨steady.orderly, steady.queues, steady.fresh, steady.changes⟩
  have own : (host.coordinator (targetOf name)).scheduler = wired.schedulers.length := rfl
  obtain ⟨opened, opens, bides, now⟩ := steady.openSession own rfl rfl
  have wires : host.wire = (some (.ofOnly number), opened) := by
    simp only [Host.wire, start, Provider.updaterTarget, starts.named]
    exact opens
  refine ⟨opened, _, bides, ?_, now, ?_⟩
  · exact ⟨rfl, rfl, fun _ => rfl, fun _ => rfl, rfl, rfl, ⟨rfl, rfl, rfl⟩⟩
  · simp only [DryRun.run?, wires, Option.map_eq_bind]
    rfl

/-- A session that is played to its end makes a report of it. -/
theorem meets_of_closes {outcome : Outcome} {launches retries elapsed : Nat}
    {played : Option Ending} (runs : run? host patience = played.map (Ending.result host))
    (plays
      : ∃ ending,
          played = some ending
          ∧ ending.Closes host.world.coordinators.length outcome launches retries
              (host.world.agenda.now + elapsed))
    : Meets { outcome := some outcome, launches, retries, elapsed } host patience := by
  obtain ⟨ending, rfl, closes⟩ := plays
  obtain ⟨own, there, updates, putOff⟩ := closes.counted
  refine ⟨_, _, _, runs, congrArg some closes.ends, closes.said, ?_, ?_⟩
  · exact (congrArg (· - _) closes.halts).trans (Nat.add_sub_cancel_left _ _)
  · rw [← updates, ← putOff]
    exact congrArg (Option.map _) there

theorem Starts.meets_possible (starts : Starts name updater host)
    (possible : host.world.registry.resolves (targetOf name) = true)
    (steady : host.world.SteadyUntil host.world.agenda.now)
    : Meets (.possible host.config) host patience := by
  obtain ⟨world, own, bides, plain, now, runs⟩ := starts.run? steady patience
  apply meets_of_closes runs
  obtain ⟨ending, played, closes⟩ :=
    play?_of_possible possible bides plain (Nat.le_of_eq now) UInt32.toNat_zero patience
  rw [Nat.zero_add, now] at closes
  exact ⟨ending, played, closes⟩

theorem Starts.meets_impossible (starts : Starts name updater host)
    (impossible : host.world.registry.resolves (targetOf name) = false)
    (steady
      : host.world.SteadyUntil
          (host.world.agenda.now + (Forecast.impossible host.config).elapsed))
    : Meets (.impossible host.config) host patience := by
  obtain ⟨world, own, bides, plain, now, runs⟩ := starts.run? steady patience
  apply meets_of_closes runs
  have takes : span own host.world.registry = (Forecast.impossible host.config).elapsed := by
    rw [span, plain.timesPutOff, impossible, if_neg Bool.false_ne_true, plain.budget]
    exact congrArg (_ * min · _) (Span.ticks_ofMillis _)
  have early
      : world.agenda.now + span own host.world.registry
        ≤ host.world.agenda.now + (Forecast.impossible host.config).elapsed :=
    Nat.le_of_eq (by rw [now, takes])
  obtain ⟨ending, played, closes⟩ :=
    play?_of_impossible impossible bides plain (Nat.zero_le _) early UInt32.toNat_zero patience
  rw [now, takes] at closes
  exact ⟨ending, played, closes⟩

/-- A run on a host meets its forecast, if no package changes before its end. -/
theorem run_meets (patience : Nat)
    (steady
      : host.world.SteadyUntil (host.world.agenda.now
          + (forecast host.config host.provider host.world.registry.get?).elapsed))
    : Meets (forecast host.config host.provider host.world.registry.get?) host patience := by
  revert steady
  unfold forecast
  split
  · rename_i holder updater on holds found
    obtain ⟨name, named, installed⟩ := Option.bind_eq_some_iff.mp found
    have starts : Starts name updater host := ⟨on, ⟨holder, holds⟩, named, installed⟩
    split
    · rename_i launchable
      exact starts.meets_possible (starts.resolves_iff.mpr launchable)
    · rename_i unlaunchable
      exact starts.meets_impossible
        (eq_false_of_ne_true (mt starts.resolves_iff.mp unlaunchable))
  · rename_i missing
    intro
    apply meets_skipped
    rintro ⟨name, updater, on, ⟨holder, holds⟩, named, installed⟩
    exact missing holder updater on holds (by rw [named]; exact installed)

end DryRun

-----------------------------------------------------------------------------------------
-- What a configuration installs
-----------------------------------------------------------------------------------------

/-- What is installed under a name by some packages in order: the last one of the name, not
suspended.
-/
def lastInstalled (packages : List Package) (name : String) : Option Installed :=
  (packages.reverse.find? (·.name = name)).map fun package =>
    { handledActions := package.handledActions, stub := package.stub }

/-- Packages that are installed take the place of those that were there, by induction. -/
theorem Registry.get?_install (packages : List Package) (registry : Registry) (name : String)
    : (packages.foldl Registry.install registry).get? name
      = (lastInstalled packages name).or (registry.get? name) := by
  induction packages generalizing registry with
  | nil => rfl
  | cons package rest ih =>
      rw [List.foldl_cons, ih, install, get?_put, lastInstalled, lastInstalled, List.reverse_cons,
        List.find?_append]
      cases rest.reverse.find? (·.name = name) with
      | some last => rfl
      | none =>
          by_cases own : package.name = name <;> simp [own]

/-- To set up a host installs its packages and does nothing else. -/
theorem World.change_install (packages : List Package) (world : World)
    : let after := packages.foldl (fun world package => world.change (.install package)) world
      after.registry = packages.foldl Registry.install world.registry
      ∧ after.agenda = world.agenda
      ∧ after.schedulers = world.schedulers
      ∧ after.coordinators = world.coordinators := by
  induction packages generalizing world with
  | nil => exact ⟨rfl, rfl, rfl, rfl⟩
  | cons package rest ih => exact ih _

namespace DryRun

/-- On a host as a configuration sets it up nothing is pending. -/
theorem meets_ofConfig (config : Config) (patience : Nat)
    : Meets (forecast config config.roleHolder.provider (lastInstalled config.packages))
        (.ofConfig config) patience := by
  obtain ⟨registry, agenda, schedulers, coordinators⟩ :=
    World.change_install config.packages {}
  have installed
      : (Host.ofConfig config).world.registry.get? = lastInstalled config.packages := by
    funext name
    rw [Host.ofConfig, registry, Registry.get?_install]
    exact Option.or_none
  have steady (time : Nat) : (Host.ofConfig config).world.SteadyUntil time := by
    have idle : (Host.ofConfig config).world.agenda.Idle := by
      rw [Host.ofConfig, agenda]
      exact ⟨rfl, rfl⟩
    refine ⟨idle.orderly, ?_, by simp [idle.waiting], by simp [idle.waiting]⟩
    rw [Host.ofConfig, agenda, schedulers]
    rfl
  have meets := run_meets patience (steady _)
  rwa [installed] at meets

/-- A dry run in closed form. On every host, whatever else goes on there, a run comes to its end,
and its report and counts are the forecast from the configuration, the names that the provider gives
and the packages, if no package changes before the end. On a host that is set up from a
configuration the last package of a name is installed, and nothing is suspended.
-/
theorem run_as_forecast {host : Host} (patience : Nat)
    (steady
      : host.world.SteadyUntil (host.world.agenda.now
          + (forecast host.config host.provider host.world.registry.get?).elapsed))
    : Meets (forecast host.config host.provider host.world.registry.get?) host patience
      ∧ ∀ config : Config,
          Meets (forecast config config.roleHolder.provider (lastInstalled config.packages))
            (.ofConfig config) patience :=
  ⟨run_meets patience steady, fun config => meets_ofConfig config patience⟩

/-- The updater is suspended until 250 milliseconds have passed: a run that puts the launch off
twice for 100 milliseconds ends before that.
-/
theorem run_as_forecast_while_suspended
    : let config : Config :=
        { roleHolder :=
            { packageName := some "holder"
              updaterPackageName := some "updater"
              deferProvisioning := true }
          updaterLaunch :=
            { launchRetryDelayMs := 100, launchMaxRetries := 2, updateMaxRetries := 1 }
          packages := [{ name := "updater", handledActions := [Action.updateRoleHolder] }] }
      let host :=
        schedule ((Host.ofConfig config).suspend ["updater"]) [(250, .suspend "updater" false)]
      let forecast := forecast host.config host.provider host.world.registry.get?
      host.world.SteadyUntil (host.world.agenda.now + forecast.elapsed)
      ∧ forecast.outcome = some .cancelled
      ∧ forecast.retries = 2
      ∧ forecast.elapsed = 200
      ∧ Meets forecast host stretch := by
  intro config host forecast
  have elapsed : forecast.elapsed = 200 := by decide
  have steady : host.world.SteadyUntil (host.world.agenda.now + forecast.elapsed) := by
    rw [elapsed]
    refine ⟨⟨by decide, by decide, by decide, .nil⟩, by decide, by decide, ?_⟩
    intro posting member change _
    rw [List.mem_singleton.mp member]
    decide
  exact ⟨steady, by decide, by decide, elapsed, (run_as_forecast stretch steady).1⟩

/-- A delay that is longer than the clock sleeps at a time: the run takes less than all its delays.
-/
theorem elapsed_less_than_delays
    : let config : Config :=
        { roleHolder :=
            { packageName := some "holder"
              updaterPackageName := some "updater"
              deferProvisioning := true }
          updaterLaunch := { launchRetryDelayMs := 946080000001, launchMaxRetries := 1 }
          packages := [{ name := "updater" }] }
      let launchMax := config.updaterLaunch.launchMaxRetries.toNat
      let delay := config.updaterLaunch.launchRetryDelayMs.toNat
      ∃ report left after,
        run? (.ofConfig config) = some (report, left, after)
        ∧ report.outcome = some .cancelled
        ∧ report.elapsed = 946080000000
        ∧ report.elapsed ≠ launchMax * delay := by
  intro config launchMax delay
  obtain ⟨report, left, after, runs, outcome, -, elapsed, -⟩ := meets_ofConfig config stretch
  have forecast : report.elapsed = 946080000000 := elapsed.trans (by decide)
  refine ⟨report, left, after, runs, outcome.trans (by decide), forecast, ?_⟩
  rw [forecast]
  decide

end DryRun

end UpdaterLaunch
