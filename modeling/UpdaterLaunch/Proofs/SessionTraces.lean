import Mathlib
import UpdaterLaunch.Session
import UpdaterLaunch.Proofs.Broadcasts

/-! What the caller of a session hears, whatever is done and happens in whatever order. The session
reads one stream of events: the latest one from before it was opened, and then all that its
coordinator emits. It tells its caller to launch for each event from the front, until it has an end:
by a report of success, or by a failure that it reads.
-/

namespace UpdaterLaunch.Session

-----------------------------------------------------------------------------------------
-- What is done, and what is learned from it
-----------------------------------------------------------------------------------------

/-- What the caller of a session may do, and whatever else may happen in the world. -/
inductive Act
  | start (restored : Bool)
  | report (verdict : Verdict)
  | next (timeout : Nat)
  | stop
  | move (move : World.Move)

/-- What the caller of a session learns: what to do next, or that a report was accepted. -/
inductive Fact
  | told (next : Next)
  | accepted (verdict : Verdict)
deriving DecidableEq

/-- A session in its world. -/
structure Stage where
  session : Session
  world : World

/-- Whether a session still takes reports: it has no end yet. -/
def accepts (session : Session) : Bool :=
  session.outcome.isNone && session.queuedFinish.isNone

namespace Stage

/-- A session that was just opened over a coordinator. -/
def opened (number : Nat) (coordinator : Coordinator) (world : World) : Stage where
  session := (ofCoordinator number coordinator world).1
  world := (ofCoordinator number coordinator world).2

/-- What an act comes to, and what is learned from it. Nothing is learned from asking what to do
next if the time is over before there is an answer.
-/
def take (stage : Stage) : Act → Option Fact × Stage
  | .start restored => (none, { stage with world := stage.session.start restored stage.world })
  | .report verdict =>
      let (session, world) := stage.session.report verdict stage.world
      (if stage.session.accepts then some (.accepted verdict) else none, { session, world })
  | .next timeout =>
      match stage.session.next timeout stage.world with
      | (some (next, session), world) => (some (.told next), { session, world })
      | (none, world) => (none, { stage with world })
  | .stop => (none, { stage with world := stage.session.stop stage.world })
  | .move move => (none, { stage with world := stage.world.move move })

/-- The stage after some acts. -/
def after (stage : Stage) (acts : List Act) : Stage :=
  acts.foldl (fun stage act => (stage.take act).2) stage

/-- All that is learned from some acts. -/
def facts (stage : Stage) : List Act → List Fact
  | [] => []
  | act :: rest => (stage.take act).1.toList ++ (stage.take act).2.facts rest

end Stage

/-- What a fact says is to be done next, if that is what it says. -/
def Fact.next? : Fact → Option Next
  | .told next => some next
  | .accepted _ => none

/-- What the caller was told to do, in order. -/
def answers (facts : List Fact) : List Next := facts.filterMap Fact.next?

/-- The end that an answer tells of, if it is the first to tell of one. -/
def Next.end? : Next → Option Outcome
  | .finish outcome => some outcome
  | .launchUpdater _ | .finished _ => none

/-- The end that the caller was told of. -/
def ended? (facts : List Fact) : Option Outcome := (answers facts).findSome? Next.end?

/-- What a caller is told for an event that the session reads. -/
def reply : Event → Next
  | .launchRequested target => .launchUpdater target
  | .failed _ => .finish .cancelled

/-- What is to be told next, by what was learned before: the end that was told of, that of a success
that was accepted, or else what the next event of the stream comes to, once there is one.
-/
def answer? (facts : List Fact) (stream : List Event) : Option Next :=
  match ended? facts with
  | some outcome => some (.finished outcome)
  | none =>
      if .accepted .ok ∈ facts then some (.finish .updated)
      else (stream[(answers facts).length]?).map reply

/-- Answers tell of a stream in order: launches for the targets that it begins with, then at most
one end, and then only the same end again.
-/
def Tells (stream : List Event) (answers : List Next) : Prop :=
  ∃ (targets : List Target) (rest : List Event) (ending : List Next),
    stream = targets.map .launchRequested ++ rest
    ∧ answers = targets.map .launchUpdater ++ ending
    ∧ (ending = []
      ∨ ∃ outcome count, ending = .finish outcome :: List.replicate count (.finished outcome))

/-- Nobody is in line, and nobody wakes before a time. -/
def RestsUntil (time : Nat) (world : World) : Prop :=
  world.agenda.ready = [] ∧ ∀ due, world.agenda.next? = some due → time ≤ due

-----------------------------------------------------------------------------------------
-- Reading the stream
-----------------------------------------------------------------------------------------

/-- A subscription that is listed nowhere has read some events of its stream and has some unread.
The stream begins with what was there for it when it came, and goes on with all that was emitted
since.
-/
structure Listens (number slot : Nat) (early seed read unread : List Event) (world : World)
    : Prop where
  feed
    : ∃ (broadcast : Broadcast) (events : List Event),
        world.broadcast? number = some broadcast
        ∧ broadcast.Sound
        ∧ slot ∉ broadcast.listed
        ∧ broadcast.hub.backlog? slot = some unread
        ∧ broadcast.emitted = early ++ events
        ∧ seed ++ events = read ++ unread

variable {number slot : Nat} {early seed read unread : List Event} {world after : World}
  {session : Session} {stage : Stage} {facts : List Fact}

namespace Listens

/-- Whatever happens in the world only adds to what is unread. -/
theorem airs (listens : Listens number slot early seed read unread world)
    (airs : World.Airs number world after)
    : ∃ events, Listens number slot early seed read (unread ++ events) after := by
  obtain ⟨broadcast, events, there, sound, own, backlog, emitted, stream⟩ := listens.feed
  obtain ⟨later, now, runs⟩ := airs broadcast there
  obtain ⟨more, last, left, still⟩ := sound.unread_runs runs backlog own
  refine ⟨more, later, events ++ more, now, sound.runs runs, still, left, ?_, ?_⟩
  · rw [last, emitted, List.append_assoc]
  · rw [← List.append_assoc, stream, List.append_assoc]

theorem read?_nil (listens : Listens number slot early seed read [] world)
    (own : session.coordinator = number) (mine : session.slot = slot)
    : session.read? world = none := by
  obtain ⟨broadcast, events, there, -, -, backlog, -⟩ := listens.feed
  obtain ⟨coordinator, live, rfl⟩ := Option.map_eq_some_iff.mp there
  have found := (World.live?_eq_some_iff.mp live).1
  subst own mine
  simp [read?, found, Hub.mail, backlog]

theorem read?_cons {event : Event} {rest : List Event}
    (listens : Listens number slot early seed read (event :: rest) world)
    (own : session.coordinator = number) (mine : session.slot = slot)
    : ∃ next,
        session.read? world = some (event, next)
        ∧ Listens number slot early seed (read ++ [event]) rest next := by
  obtain ⟨broadcast, events, there, sound, unlisted, backlog, emitted, stream⟩ := listens.feed
  obtain ⟨coordinator, live, rfl⟩ := Option.map_eq_some_iff.mp there
  obtain ⟨found, alive⟩ := World.live?_eq_some_iff.mp live
  subst own mine
  have isLive : coordinator.hub.isLive session.slot = true := by simp [Hub.isLive, backlog]
  refine ⟨world.put session.coordinator
    { coordinator with hub := coordinator.hub.withBacklog session.slot (some rest) }, ?_, ?_⟩
  · simp [read?, found, Hub.mail, backlog]
  · refine ⟨_, events, World.broadcast?_put live alive, ?_, unlisted, ?_, emitted, ?_⟩
    · refine ⟨sound.opened, sound.sound.withBacklog isLive _, ?_, sound.latest⟩
      intro other member
      simpa only [Hub.withBacklog, List.length_set] using sound.listed other member
    · rw [Hub.backlog?_withBacklog (Hub.lt_of_isLive isLive), if_pos rfl]
    · rw [stream]
      simp

/-- What was emitted early is still told, and what came after it is the stream. -/
theorem stream (listens : Listens number slot early seed read unread world)
    : early <+: world.emitted number
      ∧ seed ++ (world.emitted number).drop early.length = read ++ unread := by
  obtain ⟨broadcast, events, there, -, -, -, emitted, stream⟩ := listens.feed
  obtain ⟨coordinator, -, rfl⟩ := Option.map_eq_some_iff.mp there
  have told : world.emitted number = early ++ events := emitted
  rw [told, List.drop_left]
  exact ⟨List.prefix_append early events, stream⟩

end Listens

-----------------------------------------------------------------------------------------
-- What a session does to its world
-----------------------------------------------------------------------------------------

theorem airs_start (session : Session) (number : Nat) (restored : Bool) (world : World)
    : World.Airs number world (session.start restored world) := by
  cases restored with
  | true => exact .refl number world
  | false => exact World.airs_attempt world number session.coordinator

theorem airs_wait (session : Session) (number : Nat) (deadline : Option Nat) (world : World)
    : World.Airs number world (session.wait deadline world) := by
  refine exhaust_keeps (P := World.Airs number world) ?_ (.refl number world)
  intro earlier later waited soFar
  unfold wait? at waited
  split at waited
  · cases waited
  · split at waited
    · obtain rfl := Option.some.inj waited
      exact soFar.trans (World.airs_turns earlier number _)
    · obtain ⟨due, -, rfl⟩ := Option.map_eq_some_iff.mp waited
      exact soFar.trans (World.airs_moveTo earlier number due)

-----------------------------------------------------------------------------------------
-- Asking what to do next
-----------------------------------------------------------------------------------------

/-- A session after it has told of an event. -/
def heeding (session : Session) : Event → Session
  | .launchRequested _ => session
  | .failed _ => { session with queuedFinish := none, outcome := some .cancelled }

theorem poll?_of_silent (going : session.outcome = none) (unqueued : session.queuedFinish = none)
    (silent : session.read? world = none)
    : session.poll? world = none := by
  simp only [poll?, going, unqueued, silent, Option.map_none]

/-- What is read is told; giving up then stops the retries, which emits nothing. -/
theorem poll?_of_read {event : Event} (going : session.outcome = none)
    (unqueued : session.queuedFinish = none) (reads : session.read? world = some (event, after))
    (number : Nat)
    : ∃ last,
        session.poll? world = some (reply event, session.heeding event, last)
        ∧ World.Airs number after last := by
  cases event with
  | launchRequested target =>
      refine ⟨after, ?_, .refl number after⟩
      simp only [poll?, going, unqueued, reads, Option.map_some, reply, heeding]
  | failed reason =>
      refine ⟨session.stop (after.note (some session.coordinator) [.givingUp reason]), ?_, ?_⟩
      · simp only [poll?, going, unqueued, reads, Option.map_some, reply, heeding, finish]
      · refine (World.airs_note after number _ ?_).trans (World.airs_stopRetries _ number _)
        simp [Notice.isOfCycle]

/-- What is known without waiting is the answer, whatever the time. -/
theorem take_next_of_poll {told : Next}
    (known : stage.session.poll? stage.world = some (told, session, after)) (timeout : Nat)
    : stage.take (.next timeout) = (some (.told told), { session, world := after }) := by
  have still
      : stage.session.wait (some (stage.world.agenda.now + timeout)) stage.world = stage.world :=
    exhaust_of_none (by simp [wait?, known])
  simp only [Stage.take, next, still, known]

theorem take_next_of_ended {outcome : Outcome} (ended : stage.session.outcome = some outcome)
    (timeout : Nat)
    : stage.take (.next timeout) = (some (.told (.finished outcome)), stage) := by
  apply take_next_of_poll
  simp only [poll?, ended]

theorem take_next_of_queued {outcome : Outcome} (going : stage.session.outcome = none)
    (queued : stage.session.queuedFinish = some outcome) (timeout : Nat)
    : stage.take (.next timeout)
      = (some (.told (.finish outcome)),
          { session := { stage.session with queuedFinish := none, outcome := some outcome }
            world := stage.session.stop stage.world }) := by
  apply take_next_of_poll
  simp only [poll?, going, queued, finish]

/-- Waiting without an answer goes on until nothing is left to run before the deadline. -/
theorem restsUntil_wait {deadline : Nat}
    (silent : session.poll? (session.wait (some deadline) world) = none)
    : RestsUntil deadline (session.wait (some deadline) world) := by
  have stopped : session.wait? (some deadline) (session.wait (some deadline) world) = none :=
    step_exhaust world
  simp only [wait?, silent, Option.isSome_none, Bool.false_eq_true, if_false] at stopped
  split at stopped
  · cases stopped
  · rename_i nobody
    refine ⟨by simpa using nobody, ?_⟩
    intro due next
    simpa [next, Option.filter] using stopped

/-- A session without an end tells of the oldest event that it has not read, once there is one. If
there is none, nothing was left to run before the time was over.
-/
theorem Listens.take_next (listens : Listens number slot early seed read unread stage.world)
    (own : stage.session.coordinator = number) (mine : stage.session.slot = slot)
    (going : stage.session.outcome = none) (unqueued : stage.session.queuedFinish = none)
    (timeout : Nat)
    : let deadline := stage.world.agenda.now + timeout
      let waited := stage.session.wait (some deadline) stage.world
      (stage.take (.next timeout) = (none, { stage with world := waited.moveTo deadline })
        ∧ RestsUntil deadline waited
        ∧ Listens number slot early seed read [] (waited.moveTo deadline))
      ∨ ∃ event rest after,
          stage.take (.next timeout)
            = (some (.told (reply event)),
                { session := stage.session.heeding event, world := after })
          ∧ Listens number slot early seed (read ++ [event]) rest after := by
  intro deadline waited
  obtain ⟨events, now⟩ :=
    listens.airs (airs_wait stage.session number (some deadline) stage.world)
  cases left : unread ++ events with
  | nil =>
      rw [left] at now
      have silent : stage.session.poll? waited = none :=
        poll?_of_silent going unqueued (now.read?_nil own mine)
      refine .inl ⟨?_, restsUntil_wait silent, ⟨now.feed⟩⟩
      simp only [waited, deadline] at silent
      simp only [Stage.take, next, silent, waited, deadline]
  | cons event rest =>
      rw [left] at now
      obtain ⟨after, reads, ahead⟩ := now.read?_cons own mine
      obtain ⟨last, told, airs⟩ := poll?_of_read going unqueued reads number
      obtain ⟨more, still⟩ := ahead.airs airs
      refine .inr ⟨event, rest ++ more, last, ?_, still⟩
      simp only [deadline] at told
      simp only [Stage.take, next, told]

-----------------------------------------------------------------------------------------
-- Reporting
-----------------------------------------------------------------------------------------

theorem take_report_of_refused (refuses : stage.session.accepts = false) (verdict : Verdict)
    : stage.take (.report verdict)
      = (none,
          { stage with
            world := stage.world.note (some stage.session.coordinator) [.verdictIgnored verdict] })
      := by
  have closed : stage.session.outcome.isSome ∨ stage.session.queuedFinish.isSome := by
    simpa [accepts, Option.isSome_iff_ne_none, imp_iff_not_or] using refuses
  simp only [Stage.take, Session.report, if_pos closed, refuses, Bool.false_eq_true, if_false]

/-- An accepted report is noted. A success is kept for the next question, anything else makes
another attempt at once.
-/
theorem take_report_of_accepted (takes : stage.session.accepts = true) (verdict : Verdict)
    : let heard := stage.world.note (some stage.session.coordinator) [.verdictReceived verdict]
      stage.take (.report verdict)
        = (some (.accepted verdict),
            if verdict = .ok then
              { session := { stage.session with queuedFinish := some .updated }, world := heard }
            else { stage with world := heard.attempt stage.session.coordinator }) := by
  obtain ⟨going, unqueued⟩ : stage.session.outcome = none ∧ stage.session.queuedFinish = none := by
    simpa [accepts] using takes
  have refused : ¬(stage.session.outcome.isSome ∨ stage.session.queuedFinish.isSome) := by
    simp [going, unqueued]
  simp only [Stage.take, Session.report, if_neg refused, takes, if_true]
  cases verdict <;> rfl

-----------------------------------------------------------------------------------------
-- Where a session stands
-----------------------------------------------------------------------------------------

/-- Where a session stands that has read some events, by what its caller has learned: it goes on, it
will end when it is asked next, or it has ended.
-/
inductive Phase (facts : List Fact) : List Event → Option Outcome → Option Outcome → Prop
  | going {targets : List Target}
    (told : answers facts = targets.map .launchUpdater)
    (unagreed : .accepted .ok ∉ facts)
    : Phase facts (targets.map .launchRequested) none none
  | closing {targets : List Target}
    (told : answers facts = targets.map .launchUpdater)
    (agreed : .accepted .ok ∈ facts)
    : Phase facts (targets.map .launchRequested) (some .updated) none
  | ended {targets : List Target} {more : List Event} {outcome : Outcome} {count : Nat}
    (told
      : answers facts
        = targets.map .launchUpdater ++ .finish outcome :: List.replicate count (.finished outcome))
    : Phase facts (targets.map .launchRequested ++ more) none (some outcome)

theorem answers_told (facts : List Fact) (next : Next)
    : answers (facts ++ [.told next]) = answers facts ++ [next] :=
  List.filterMap_append

theorem answers_accepted (facts : List Fact) (verdict : Verdict)
    : answers (facts ++ [.accepted verdict]) = answers facts :=
  List.filterMap_append.trans (List.append_nil _)

theorem ended?_of_launches {targets : List Target}
    (told : answers facts = targets.map .launchUpdater)
    : ended? facts = none := by
  rw [ended?, told, List.findSome?_eq_none_iff]
  simp [Next.end?]

theorem ended?_of_end {targets : List Target} {outcome : Outcome} {count : Nat}
    (told
      : answers facts
        = targets.map .launchUpdater ++ .finish outcome :: List.replicate count (.finished outcome))
    : ended? facts = some outcome := by
  have launches : (targets.map Next.launchUpdater).findSome? Next.end? = none := by
    rw [List.findSome?_eq_none_iff]
    simp [Next.end?]
  rw [ended?, told, List.findSome?_append, launches]
  rfl

/-- A session in its world, by what its caller has learned. -/
structure Follows (number slot : Nat) (early seed : List Event) (facts : List Fact) (stage : Stage)
    : Prop where
  own : stage.session.coordinator = number
  mine : stage.session.slot = slot
  stands
    : ∃ read unread,
        Listens number slot early seed read unread stage.world
        ∧ Phase facts read stage.session.queuedFinish stage.session.outcome

namespace Follows

/-- Whatever happens without a word to its caller changes nothing about where a session stands. -/
theorem unheard (follows : Follows number slot early seed facts stage)
    (airs : World.Airs number stage.world after)
    : Follows number slot early seed (facts ++ (none : Option Fact).toList)
        { stage with world := after } := by
  rw [Option.toList_none, List.append_nil]
  obtain ⟨own, mine, read, unread, listens, phase⟩ := follows
  obtain ⟨events, now⟩ := listens.airs airs
  exact ⟨own, mine, read, unread ++ events, now, phase⟩

/-- A session takes reports as long as it has told of no end and accepted no success. -/
theorem accepts_iff (follows : Follows number slot early seed facts stage)
    : stage.session.accepts = true ↔ ended? facts = none ∧ .accepted .ok ∉ facts := by
  obtain ⟨⟨coordinator, slot, queued, outcome⟩, world⟩ := stage
  obtain ⟨-, -, read, unread, -, phase⟩ := follows
  cases phase with
  | going told unagreed => simp [accepts, ended?_of_launches told, unagreed]
  | closing told agreed => simp [accepts, agreed]
  | ended told => simp [accepts, ended?_of_end told]

theorem report (follows : Follows number slot early seed facts stage) (verdict : Verdict)
    : Follows number slot early seed (facts ++ (stage.take (.report verdict)).1.toList)
        (stage.take (.report verdict)).2 := by
  cases takes : stage.session.accepts with
  | false =>
      rw [take_report_of_refused takes]
      exact follows.unheard (World.airs_note _ _ _ (by simp [Notice.isOfCycle]))
  | true =>
      obtain ⟨going, unqueued⟩
          : stage.session.outcome = none ∧ stage.session.queuedFinish = none := by
        simpa [accepts] using takes
      have noted
          : World.Airs number stage.world
              (stage.world.note (some stage.session.coordinator) [.verdictReceived verdict]) :=
        World.airs_note _ _ _ (by simp [Notice.isOfCycle])
      rw [take_report_of_accepted takes verdict, Option.toList_some]
      obtain ⟨own, mine, read, unread, listens, phase⟩ := follows
      rw [going, unqueued] at phase
      cases phase with
      | going told unagreed =>
          have same := (answers_accepted facts verdict).trans told
          by_cases success : verdict = .ok
          · obtain ⟨events, now⟩ := listens.airs noted
            rw [if_pos success]
            refine ⟨own, mine, _, unread ++ events, now, ?_⟩
            simp only [going]
            exact .closing same (by simp [success])
          · obtain ⟨events, now⟩ := listens.airs (noted.trans (World.airs_attempt _ number _))
            rw [if_neg success]
            refine ⟨own, mine, _, unread ++ events, now, ?_⟩
            simp only [going, unqueued]
            exact .going same (by simp [unagreed, Ne.symm success])

theorem next (follows : Follows number slot early seed facts stage) (timeout : Nat)
    : Follows number slot early seed (facts ++ (stage.take (.next timeout)).1.toList)
        (stage.take (.next timeout)).2 := by
  obtain ⟨⟨coordinator, slot, queued, outcome⟩, world⟩ := stage
  obtain ⟨rfl, rfl, read, unread, listens, phase⟩ := follows
  cases phase with
  | @going targets told unagreed =>
      rcases listens.take_next rfl rfl rfl rfl timeout with
        ⟨answer, -, later⟩ | ⟨event, rest, after, answer, later⟩
      · rw [answer, Option.toList_none, List.append_nil]
        exact ⟨rfl, rfl, _, [], later, .going told unagreed⟩
      · rw [answer, Option.toList_some]
        cases event with
        | launchRequested target =>
            have further : answers (facts ++ [.told (.launchUpdater target)])
                = (targets ++ [target]).map .launchUpdater := by
              rw [answers_told, told, List.map_append, List.map_singleton]
            refine ⟨rfl, rfl, _, rest, later, ?_⟩
            rw [show [Event.launchRequested target] = [target].map .launchRequested from rfl,
              ← List.map_append]
            exact .going further (by simp [unagreed, reply])
        | failed reason =>
            refine ⟨rfl, rfl, _, rest, later, @Phase.ended _ targets [_] .cancelled 0 ?_⟩
            rw [reply, answers_told, told, List.replicate_zero]
  | @closing targets told agreed =>
      rw [take_next_of_queued rfl rfl, Option.toList_some]
      obtain ⟨events, now⟩ := listens.airs (World.airs_stopRetries world coordinator coordinator)
      rw [← List.append_nil (targets.map _)] at now
      refine ⟨rfl, rfl, _, unread ++ events, now, @Phase.ended _ targets [] .updated 0 ?_⟩
      rw [answers_told, told, List.replicate_zero]
  | @ended targets more outcome count told =>
      rw [take_next_of_ended rfl, Option.toList_some]
      refine ⟨rfl, rfl, _, unread, listens, @Phase.ended _ targets more outcome (count + 1) ?_⟩
      rw [answers_told, told, List.replicate_succ', List.append_assoc, List.cons_append]

theorem step (follows : Follows number slot early seed facts stage) {act : Act}
    (lasts : act ≠ .move (.request (.command number .drop)))
    : Follows number slot early seed (facts ++ (stage.take act).1.toList) (stage.take act).2 := by
  cases act with
  | start restored => exact follows.unheard (airs_start stage.session number restored stage.world)
  | report verdict => exact follows.report verdict
  | next timeout => exact follows.next timeout
  | stop => exact follows.unheard (World.airs_stopRetries stage.world number _)
  | move move =>
      refine follows.unheard (World.airs_move stage.world number ?_)
      rintro rfl
      exact lasts rfl

/-- By induction on what is done, with all that was learned before. -/
theorem run (follows : Follows number slot early seed facts stage) {acts : List Act}
    (lasts : .move (.request (.command number .drop)) ∉ acts)
    : Follows number slot early seed (facts ++ stage.facts acts) (stage.after acts) := by
  induction acts generalizing facts stage with
  | nil => simpa [Stage.facts, Stage.after] using follows
  | cons act rest ih =>
      have first : act ≠ .move (.request (.command number .drop)) := by
        rintro rfl
        exact lasts List.mem_cons_self
      have later := ih (follows.step first) (lasts ∘ List.mem_cons_of_mem act)
      rw [List.append_assoc] at later
      exact later

-----------------------------------------------------------------------------------------
-- What is to be heard next
-----------------------------------------------------------------------------------------

theorem tells (follows : Follows number slot early seed facts stage)
    : Tells (seed ++ (stage.world.emitted number).drop early.length) (answers facts) := by
  obtain ⟨⟨coordinator, slot, queued, outcome⟩, world⟩ := stage
  obtain ⟨-, -, read, unread, listens, phase⟩ := follows
  rw [listens.stream.2]
  cases phase with
  | @going targets told _ =>
      exact ⟨targets, unread, [], rfl, by rw [told, List.append_nil], .inl rfl⟩
  | @closing targets told _ =>
      exact ⟨targets, unread, [], rfl, by rw [told, List.append_nil], .inl rfl⟩
  | @ended targets more outcome count told =>
      exact ⟨targets, more ++ unread, _, List.append_assoc .., told, .inr ⟨outcome, count, rfl⟩⟩

/-- What is told next. As long as there is no end in sight, all that was read was told. -/
theorem answer (follows : Follows number slot early seed facts stage) (timeout : Nat)
    : let deadline := stage.world.agenda.now + timeout
      let waited := stage.session.wait (some deadline) stage.world
      let (fact, later) := stage.take (.next timeout)
      fact
        = (answer? facts (seed ++ (later.world.emitted number).drop early.length)).map .told
      ∧ (fact = none → RestsUntil deadline waited ∧ later.world = waited.moveTo deadline) := by
  intro deadline waited
  obtain ⟨⟨coordinator, slot, queued, outcome⟩, world⟩ := stage
  obtain ⟨rfl, rfl, read, unread, listens, phase⟩ := follows
  cases phase with
  | @going targets told unagreed =>
      rcases listens.take_next rfl rfl rfl rfl timeout with
        ⟨answer, rests, later⟩ | ⟨event, rest, after, answer, later⟩
      · rw [answer]
        simp only [answer?, ended?_of_launches told, if_neg unagreed, later.stream.2, told]
        exact ⟨by simp, fun _ => ⟨rests, rfl⟩⟩
      · rw [answer]
        simp only [answer?, ended?_of_launches told, if_neg unagreed, later.stream.2, told]
        exact ⟨by simp, nofun⟩
  | closing told agreed =>
      rw [take_next_of_queued rfl rfl]
      simp only [answer?, ended?_of_launches told, if_pos agreed]
      exact ⟨rfl, nofun⟩
  | ended told =>
      rw [take_next_of_ended rfl]
      simp only [answer?, ended?_of_end told]
      exact ⟨rfl, nofun⟩

end Follows

/-- A session that is opened has learned nothing and reads on from the latest event. -/
theorem follows_opened {coordinator : Coordinator} (live : world.live? number = some coordinator)
    {broadcast : Broadcast} (there : world.broadcast? number = some broadcast)
    (sound : broadcast.Sound)
    : Follows number coordinator.hub.backlogs.length (world.emitted number)
        coordinator.hub.latest.toList [] (.opened number coordinator world) := by
  obtain rfl := Option.some.inj ((World.broadcast?_of_live live).symm.trans there)
  obtain ⟨opened, sound', listed, latest⟩ := sound.step .subscribe
  refine ⟨rfl, rfl, [], coordinator.hub.latest.toList, ⟨?_⟩, @Phase.going _ [] rfl (by simp)⟩
  refine ⟨_, [], World.broadcast?_put live (World.live?_eq_some_iff.mp live).2, ?_, ?_, ?_, ?_, ?_⟩
  · exact ⟨opened, sound', fun slot member => listed slot (List.mem_append_left _ member), latest⟩
  · exact fun member => Nat.lt_irrefl _ (sound.listed _ member)
  · rw [Hub.backlog?_subscribe, if_pos rfl]
  · rw [List.append_nil]
  · rw [List.append_nil, List.nil_append]

/-- A session is told of one stream of events. Its coordinator may be in any state that comes of a
first one, in which no event was emitted and nobody had subscribed, and is not dropped. Then
whatever is done and happens, the session's answers are launches for the targets that the stream
begins with, then at most one end, and then only that same end again. After a success was accepted
the next answer is that the role holder was updated, and nothing of the stream matters any more.
Until then the next answer is about the next event of the stream, if there is one before the time is
over, and is the end if this event is a failure. A report is accepted as long as no success was
accepted and no end was told: it is noted, and anything but a success makes another attempt. Else it
leaves nothing but a line in the log.
-/
theorem trace_lawful {origin : World} {number : Nat}
    (begun : origin.broadcast? number = some { hub := {}, emitted := [], listed := [] })
    {early : List World.Move} (lasts : .request (.command number .drop) ∉ early)
    {acts : List Act} (stays : .move (.request (.command number .drop)) ∉ acts)
    : ∃ coordinator,
        let before := origin.after early
        let stage := (Stage.opened number coordinator before).after acts
        let facts := (Stage.opened number coordinator before).facts acts
        let stream (world : World) : List Event :=
          coordinator.hub.latest.toList
            ++ (world.emitted number).drop (before.emitted number).length
        before.live? number = some coordinator
        ∧ coordinator.hub.latest = (before.emitted number).getLast?
        ∧ before.emitted number <+: stage.world.emitted number
        ∧ Tells (stream stage.world) (answers facts)
        ∧ (∀ timeout,
            let deadline := stage.world.agenda.now + timeout
            let waited := stage.session.wait (some deadline) stage.world
            let (fact, later) := stage.take (.next timeout)
            fact = (answer? facts (stream later.world)).map .told
            ∧ (fact = none → RestsUntil deadline waited ∧ later.world = waited.moveTo deadline))
        ∧ ∀ verdict,
            let heard := stage.world.note (some number) [.verdictReceived verdict]
            let ignored := stage.world.note (some number) [.verdictIgnored verdict]
            if ended? facts = none ∧ .accepted .ok ∉ facts then
              (stage.take (.report verdict)).1 = some (.accepted verdict)
              ∧ (stage.take (.report verdict)).2.world
                = if verdict = .ok then heard else heard.attempt number
            else stage.take (.report verdict) = (none, { stage with world := ignored }) := by
  have sound : Broadcast.Sound { hub := {}, emitted := [], listed := [] } :=
    ⟨rfl, Hub.sound_empty, nofun, rfl⟩
  obtain ⟨broadcast, there, runs⟩ := World.airs_after origin number lasts _ begun
  obtain ⟨coordinator, live, same⟩ := Option.map_eq_some_iff.mp there
  have follows := (follows_opened live there (sound.runs runs)).run stays
  obtain ⟨read, unread, listens, -⟩ := follows.stands
  refine ⟨coordinator, live, ?_, listens.stream.1, follows.tells, follows.answer, ?_⟩
  · subst same
    exact (sound.runs runs).latest
  · intro verdict
    split
    · rename_i takes
      rw [take_report_of_accepted (follows.accepts_iff.mpr takes), follows.own]
      exact ⟨rfl, apply_ite Stage.world _ _ _⟩
    · rename_i refuses
      have closed := Bool.eq_false_iff.mpr (mt follows.accepts_iff.mp refuses)
      rw [take_report_of_refused closed, follows.own]

/-- A launch was asked for before the session was opened, and another one after the updater failed.
The caller reports a success, twice, when it has not heard of the second launch, and never does.
-/
theorem trace_lawful_past_unread_launch
    : let origin : World :=
        { schedulers := [.manual []]
          agenda := .ofQueues 1
          coordinators :=
            [some
              { budget := .ofMillis 1 4 100
                checker := .always true
                factory := fun count => { action := toString count }
                scheduler := 0 }] }
      let early : List World.Move := [.request (.command 0 .tryLaunch)]
      let acts : List Act :=
        [.next 50, .report .failed, .report .ok, .report .ok, .next 50, .next 50]
      let first : Event := .launchRequested { action := "0" }
      let second : Event := .launchRequested { action := "1" }
      origin.broadcast? 0 = some { hub := {}, emitted := [], listed := [] }
      ∧ ∃ coordinator,
          (origin.after early).live? 0 = some coordinator
          ∧ coordinator.hub.latest = some first
          ∧ ((Stage.opened 0 coordinator (origin.after early)).after acts).world.emitted 0
            = [first, second]
          ∧ (Stage.opened 0 coordinator (origin.after early)).facts acts
            = [.told (reply first), .accepted .failed, .accepted .ok, .told (.finish .updated),
                .told (.finished .updated)]
          ∧ Tells [first, second]
              [reply first, .finish .updated, .finished .updated] := by
  intro origin early acts first second
  have begun : origin.broadcast? 0 = some { hub := {}, emitted := [], listed := [] } := rfl
  have lasts : .request (.command 0 .drop) ∉ early := by simp [early]
  have stays : .move (.request (.command 0 .drop)) ∉ acts := by simp [acts]
  have newest : ((origin.after early).live? 0).map (·.hub.latest) = some (some first) := by
    dsimp only [origin, early, first]
    cbv
  have emitted
      : ((origin.after early).live? 0).map (fun coordinator =>
          ((Stage.opened 0 coordinator (origin.after early)).after acts).world.emitted 0)
        = some [first, second] := by
    dsimp only [origin, early, first, second, acts]
    cbv
  have facts
      : ((origin.after early).live? 0).map (fun coordinator =>
          (Stage.opened 0 coordinator (origin.after early)).facts acts)
        = some
            [.told (reply first), .accepted .failed, .accepted .ok, .told (.finish .updated),
              .told (.finished .updated)] := by
    dsimp only [origin, early, first, acts]
    cbv
  have once : (origin.after early).emitted 0 = [first] := by
    dsimp only [origin, early, first]
    cbv
  obtain ⟨coordinator, live, latest, -, tells, -⟩ := trace_lawful begun lasts stays
  rw [live, Option.map_some, Option.some.injEq] at newest emitted facts
  beta_reduce at tells
  rw [newest, emitted, facts, once] at tells
  exact ⟨begun, coordinator, live, newest, emitted, facts, tells⟩

end UpdaterLaunch.Session
