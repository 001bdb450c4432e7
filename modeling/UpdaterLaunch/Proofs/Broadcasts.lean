import Mathlib.Logic.Relation
import UpdaterLaunch.Proofs.RunPassages

/-! What the subscribers of a coordinator see of all that happens in a world. As long as the
coordinator is not dropped it comes to three things: an event is emitted and noted, somebody
subscribes and is listed, or somebody who is listed takes from the own backlog.
-/

namespace UpdaterLaunch

/-- The event that a line of the log says was emitted. -/
def Notice.emitted? : Notice → Option Event
  | .eventEmitted event _ => some event
  | _ => none

/-- What there is of a coordinator for its subscribers: the hub, the events that were emitted, and
the subscriptions that are listed in the world.
-/
structure Broadcast where
  hub : Hub
  emitted : List Event
  listed : List Nat

namespace Broadcast

/-- What may happen to a broadcast. -/
inductive Step (before : Broadcast) : Broadcast → Prop
  | emit (event : Event)
    : Step before
        { before with hub := before.hub.emit event, emitted := before.emitted ++ [event] }
  | subscribe
    : Step before
        { before with
          hub := before.hub.subscribe
          listed := before.listed ++ [before.hub.backlogs.length] }
  | mail {slot} (listed : slot ∈ before.listed) (request : Hub.Mail)
    : Step before { before with hub := (before.hub.mail slot request).2 }

/-- What may come of a broadcast. -/
def Runs : Broadcast → Broadcast → Prop := Relation.ReflTransGen Step

variable {before after : Broadcast} {slot : Nat}

/-- The hub is open and sound, the listed subscriptions were made there, and it keeps the event that
was emitted last.
-/
structure Sound (broadcast : Broadcast) : Prop where
  opened : broadcast.hub.isOpen = true
  sound : broadcast.hub.Sound
  listed : ∀ slot ∈ broadcast.listed, slot < broadcast.hub.backlogs.length
  latest : broadcast.hub.latest = broadcast.emitted.getLast?

theorem Sound.step (sound : before.Sound) (step : before.Step after) : after.Sound := by
  have opened := sound.opened
  cases step with
  | emit event =>
      refine ⟨opened, sound.sound.emit event, ?_, by simp [Hub.emit]⟩
      intro slot member
      simpa [Hub.emit, Hub.length_foldl_deliver] using sound.listed slot member
  | subscribe =>
      refine ⟨opened, sound.sound.subscribe, ?_, sound.latest⟩
      intro slot member
      simp only [Hub.subscribe, List.length_append, List.length_singleton]
      rcases List.mem_append.mp member with old | new
      · exact Nat.lt_succ_of_lt (sound.listed slot old)
      · rw [List.mem_singleton.mp new]
        exact Nat.lt_succ_self _
  | @mail asking listed request =>
      obtain ⟨stays, latest⟩ := Hub.mail_fixed before.hub asking request
      refine ⟨stays.trans opened, sound.sound.mail asking request, ?_, latest.trans sound.latest⟩
      intro slot member
      exact Nat.lt_of_lt_of_le (sound.listed slot member)
        (before.hub.length_handle_le (.mail asking request))

theorem Sound.runs (sound : before.Sound) (runs : before.Runs after) : after.Sound := by
  induction runs with
  | refl => exact sound
  | tail _ step ih => exact ih.step step

/-- What a subscription that is not listed has not read, it keeps, and gets what is emitted besides.
-/
theorem Sound.unread_step (sound : before.Sound) (step : before.Step after)
    {unread : List Event} (there : before.hub.backlog? slot = some unread)
    (own : slot ∉ before.listed)
    : ∃ events,
        after.emitted = before.emitted ++ events
        ∧ after.hub.backlog? slot = some (unread ++ events)
        ∧ slot ∉ after.listed := by
  cases step with
  | emit event =>
      refine ⟨[event], rfl, ?_, own⟩
      rw [sound.sound.backlog?_emit sound.opened, there]
      rfl
  | subscribe =>
      have made : slot < before.hub.backlogs.length :=
        Hub.lt_of_isLive (by simp [Hub.isLive, there])
      refine ⟨[], by simp, ?_, ?_⟩
      · rw [Hub.backlog?_subscribe, if_neg (Nat.ne_of_lt made), there, List.append_nil]
      · simp [own, Nat.ne_of_lt made]
  | @mail asking listed request =>
      have other : asking ≠ slot := by
        rintro rfl
        exact own listed
      have made : slot < before.hub.backlogs.length :=
        Hub.lt_of_isLive (by simp [Hub.isLive, there])
      have here : (before.hub.mail asking request).2.backlog? slot = _ :=
        sound.sound.backlog?_handle made (.mail asking request)
      refine ⟨[], by simp, ?_, own⟩
      rw [List.append_nil, ← there, here]
      exact if_neg other

/-- By induction it gets all that is ever emitted, in order. -/
theorem Sound.unread_runs (sound : before.Sound) (runs : before.Runs after)
    {unread : List Event} (there : before.hub.backlog? slot = some unread)
    (own : slot ∉ before.listed)
    : ∃ events,
        after.emitted = before.emitted ++ events
        ∧ after.hub.backlog? slot = some (unread ++ events)
        ∧ slot ∉ after.listed := by
  induction runs with
  | refl => exact ⟨[], by simp, by simpa using there, own⟩
  | tail earlier step ih =>
      obtain ⟨events, emitted, backlog, unlisted⟩ := ih
      obtain ⟨more, next, last, still⟩ := (sound.runs earlier).unread_step step backlog unlisted
      refine ⟨events ++ more, ?_, ?_, still⟩
      · rw [next, emitted, List.append_assoc]
      · rw [last, List.append_assoc]

end Broadcast

namespace World

/-- The events of a coordinator that the log says were emitted, oldest first. -/
def emitted (world : World) (number : Nat) : List Event :=
  (world.cycleLines number).filterMap Notice.emitted?

/-- The subscriptions to a coordinator that are listed, by their numbers there. -/
def listed (world : World) (number : Nat) : List Nat :=
  (world.subscriptions.filter (·.1 = number)).map (·.2)

/-- What there is for the subscribers of a coordinator that was not dropped. -/
def broadcast? (world : World) (number : Nat) : Option Broadcast :=
  (world.live? number).map fun coordinator =>
    { hub := coordinator.hub, emitted := world.emitted number, listed := world.listed number }

/-- For the subscribers of a coordinator that lives, what comes of a world is what may come of a
broadcast.
-/
def Airs (number : Nat) (before after : World) : Prop :=
  ∀ broadcast,
    before.broadcast? number = some broadcast
    → ∃ later, after.broadcast? number = some later ∧ broadcast.Runs later

variable {number other : Nat} {world before middle after : World} {coordinator : Coordinator}

theorem broadcast?_of_live (live : world.live? number = some coordinator)
    : world.broadcast? number
      = some
          { hub := coordinator.hub
            emitted := world.emitted number
            listed := world.listed number } := by
  simp only [broadcast?, live, Option.map_some]

/-- Another state of the coordinator shows by its hub. -/
theorem broadcast?_put (live : world.live? number = some coordinator) {next : Coordinator}
    (alive : next.alive = true)
    : (world.put number next).broadcast? number
      = some
          { hub := next.hub
            emitted := world.emitted number
            listed := world.listed number } := by
  have now := coordinator?_put_self (live?_eq_some_iff.mp live).1 next
  rw [broadcast?_of_live (live?_eq_some_iff.mpr ⟨now, alive⟩)]
  rfl

theorem Airs.refl (number : Nat) (world : World) : Airs number world world :=
  fun broadcast there => ⟨broadcast, there, .refl⟩

theorem Airs.trans (first : Airs number before middle) (second : Airs number middle after)
    : Airs number before after := by
  intro broadcast there
  obtain ⟨next, found, early⟩ := first broadcast there
  obtain ⟨last, now, late⟩ := second next found
  exact ⟨last, now, early.trans late⟩

/-- Nothing comes of it where the coordinator, its lines and the subscriptions stay. -/
theorem Airs.of_same (coordinator : after.coordinator? number = before.coordinator? number)
    (lines : after.cycleLines number = before.cycleLines number)
    (listed : after.listed number = before.listed number)
    : Airs number before after := by
  intro broadcast there
  refine ⟨broadcast, ?_, .refl⟩
  rw [← there]
  simp only [broadcast?, live?, emitted, coordinator, lines, listed]

theorem Airs.of_step {broadcast later : Broadcast}
    (there : before.broadcast? number = some broadcast)
    (now : after.broadcast? number = some later) (step : broadcast.Step later)
    : Airs number before after := by
  intro other found
  obtain rfl := Option.some.inj (there.symm.trans found)
  exact ⟨later, now, .single step⟩

-----------------------------------------------------------------------------------------
-- Attempts
-----------------------------------------------------------------------------------------

theorem listed_post (world : World) (scheduler : Nat) (delay : Span) (other number : Nat)
    : (world.post scheduler delay other).listed number = world.listed number := by
  unfold post
  split <;> rfl

theorem listed_cycled (world : World) (other scheduler : Nat) (cycle : Coordinator.Cycle)
    (number : Nat)
    : (world.cycled other scheduler cycle).listed number = world.listed number :=
  cycled_keeps (P := fun after => after.listed number = world.listed number) rfl
    fun _ => listed_post _ _ _ _ _

theorem listed_cancel (world : World) (scheduler : Nat) (about : Option Nat) (number : Nat)
    : (world.cancel scheduler about).listed number = world.listed number :=
  cancel_keeps (P := fun after => after.listed number = world.listed number) rfl rfl rfl

/-- The lines of a cycle tell of its event, if it has one, and of no other. -/
theorem emitted_notices {registry : Registry} {cycle : Coordinator.Cycle}
    (performs : coordinator.Performs registry cycle)
    : cycle.notices.filterMap Notice.emitted? = cycle.event?.toList := by
  have heard
      : (coordinator.checker.heard registry cycle.target).filterMap Notice.emitted? = [] := by
    unfold Checker.heard
    split <;> rfl
  have line : cycle.line.emitted? = none := by
    unfold Coordinator.Cycle.line
    split <;> rfl
  rw [performs.notices, List.filterMap_append, heard, List.nil_append,
    List.filterMap_cons_none line]
  cases cycle.event? <;> rfl

theorem airs_cycled (live : world.live? number = some coordinator)
    : Airs number world
        (world.cycled number coordinator.scheduler (coordinator.cycle world.registry)) := by
  have performs := coordinator.performs_cycle world.registry
  have now := live?_cycled live
  have lines := cycleLines_cycled world number coordinator.scheduler performs.isOfCycle
  have told := emitted_notices performs
  have hub := congrArg Coordinator.hub performs.after
  have listed := listed_cycled world number coordinator.scheduler
    (coordinator.cycle world.registry) number
  have next := broadcast?_of_live now
  rw [emitted, lines, List.filterMap_append, told, listed, hub] at next
  cases event : (coordinator.cycle world.registry).event? with
  | none =>
      intro broadcast found
      obtain rfl := Option.some.inj ((broadcast?_of_live live).symm.trans found)
      refine ⟨_, next, ?_⟩
      rw [event, Option.toList_none, List.append_nil]
      exact .refl
  | some emits =>
      refine .of_step (broadcast?_of_live live) next ?_
      rw [event]
      exact .emit emits

theorem airs_cycled_other (ne : other ≠ number) (scheduler : Nat) (cycle : Coordinator.Cycle)
    : Airs number world (world.cycled other scheduler cycle) := by
  have recorded : (world.recorded other cycle).cycleLines number = world.cycleLines number :=
    cycleLines_note_of_ne _ (by simpa using ne) _
  refine .of_same ?_ ?_ (listed_cycled _ _ _ _ _)
  · have untouched := coordinator?_put_of_ne world cycle.after ne.symm
    simpa only [coordinator?, coordinators_cycled] using untouched
  · exact cycled_keeps (P := fun after => after.cycleLines number = world.cycleLines number)
      recorded fun delay => (cycleLines_post _ _ _ _ _).trans recorded

/-- An attempt of anybody, by induction on the cycles that it takes at once. -/
theorem airs_attempt (world : World) (number other : Nat)
    : Airs number world (world.attempt other) := by
  have cycled {world : World} {coordinator : Coordinator}
      (live : world.live? other = some coordinator)
      : Airs number world
          (world.cycled other coordinator.scheduler (coordinator.cycle world.registry)) := by
    by_cases own : other = number
    · subst own
      exact airs_cycled live
    · exact airs_cycled_other own _ _
  cases live : world.live? other with
  | none =>
      rw [attempt_of_gone live]
      exact .refl number world
  | some coordinator =>
      refine attempt_induction (P := Airs number) ?_ ?_ live
      · exact fun world coordinator live _ => cycled live
      · exact fun world coordinator delay after live _ _ rest => (cycled live).trans rest

theorem airs_attempts (world : World) (number : Nat) (queue : List (Span × Nat))
    : Airs number world (queue.foldl (fun world retry => world.attempt retry.2) world) := by
  induction queue generalizing world with
  | nil => exact .refl number world
  | cons retry rest ih => exact (airs_attempt world number retry.2).trans (ih _)

-----------------------------------------------------------------------------------------
-- Requests
-----------------------------------------------------------------------------------------

theorem airs_note (world : World) (number : Nat) (about : Option Nat) {notices : List Notice}
    (plain : ∀ notice ∈ notices, notice.isOfCycle = false)
    : Airs number world (world.note about notices) :=
  .of_same rfl (cycleLines_note_of_other _ _ _ plain) rfl

theorem airs_cancel (world : World) (number scheduler : Nat) (about : Option Nat)
    : Airs number world (world.cancel scheduler about) := by
  refine .of_same ?_ (cycleLines_cancel _ _ _ _) (listed_cancel _ _ _ _)
  simp only [coordinator?, coordinators_cancel]

theorem airs_stopRetries (world : World) (number other : Nat)
    : Airs number world (world.stopRetries other) := by
  unfold stopRetries
  split
  · exact .refl number world
  · refine (airs_note world number _ ?_).trans (airs_cancel _ _ _ _)
    simp [Notice.isOfCycle]

theorem airs_change (world : World) (number : Nat) (change : Registry.Change)
    : Airs number world (world.change change) :=
  .of_same rfl (cycleLines_note_of_ne _ (by simp) _) rfl

theorem airs_put_other (ne : other ≠ number) (coordinator : Coordinator)
    : Airs number world (world.put other coordinator) :=
  .of_same (coordinator?_put_of_ne world coordinator ne.symm) rfl rfl

theorem airs_subscribe (live : world.live? other = some coordinator)
    : Airs number world (world.subscribe other coordinator) := by
  obtain ⟨there, alive⟩ := live?_eq_some_iff.mp live
  by_cases own : other = number
  · subst own
    have now := coordinator?_put_self there { coordinator with hub := coordinator.hub.subscribe }
    have still : (world.subscribe other coordinator).live? other
        = some { coordinator with hub := coordinator.hub.subscribe } :=
      live?_eq_some_iff.mpr ⟨now, alive⟩
    have listed : (world.subscribe other coordinator).listed other
        = world.listed other ++ [coordinator.hub.backlogs.length] := by
      simp [World.subscribe, World.listed, List.filter_append]
    have next := broadcast?_of_live still
    rw [listed] at next
    exact .of_step (broadcast?_of_live live) next .subscribe
  · refine .of_same (coordinator?_put_of_ne world _ (Ne.symm own)) rfl ?_
    simp [World.subscribe, World.listed, List.filter_append, own]

/-- A command to anybody, but not the end of the coordinator itself. -/
theorem airs_command (world : World) (number other : Nat) {order : Command}
    (lasts : other = number → order ≠ .drop)
    : Airs number world (world.handle (.command other order)).2 := by
  simp only [World.handle]
  cases live : world.live? other with
  | none => exact .refl number world
  | some coordinator =>
      obtain ⟨there, alive⟩ := live?_eq_some_iff.mp live
      cases order with
      | tryLaunch => exact airs_attempt world number other
      | stop => exact airs_stopRetries world number other
      | drop => exact airs_put_other (fun same => lasts same rfl) _
      | subscribe => exact airs_subscribe live
      | setLaunchable value =>
          simp only [obey]
          split
          · rename_i answers asked kind
            by_cases own : other = number
            · subst own
              intro broadcast found
              obtain rfl := Option.some.inj ((broadcast?_of_live live).symm.trans found)
              exact ⟨_, broadcast?_put live alive, .refl⟩
            · exact airs_put_other own _
          · exact .refl number world

theorem airs_mail (world : World) (number subscription : Nat) (request : Hub.Mail)
    : Airs number world (world.mail subscription request).2 := by
  unfold mail
  split
  · exact .refl number world
  · rename_i other slot asks
    split
    · exact .refl number world
    · rename_i coordinator there
      by_cases own : other = number
      · subst own
        intro broadcast found
        obtain ⟨living, live, rfl⟩ := Option.map_eq_some_iff.mp found
        obtain ⟨same, alive⟩ := live?_eq_some_iff.mp live
        obtain rfl := Option.some.inj (there.symm.trans same)
        have listed : slot ∈ world.listed other := by
          refine List.mem_map.mpr ⟨(other, slot), List.mem_filter.mpr ⟨?_, by simp⟩, rfl⟩
          exact List.mem_of_getElem? asks
        exact ⟨_, broadcast?_put live alive, .single (.mail listed request)⟩
      · exact airs_put_other own _

-----------------------------------------------------------------------------------------
-- Turns and the clock
-----------------------------------------------------------------------------------------

theorem airs_moveTo (world : World) (number time : Nat) : Airs number world (world.moveTo time) :=
  .of_same rfl rfl rfl

theorem airs_resume (world : World) (number : Nat) (next : Option Task × Agenda Task)
    : Airs number world (world.resume next) := by
  obtain ⟨task, agenda⟩ := next
  have moved : Airs number world { world with agenda } := .of_same rfl rfl rfl
  cases task with
  | none => exact moved
  | some task =>
      cases task with
      | retry other => exact moved.trans (airs_attempt _ number other)
      | change change => exact moved.trans (airs_change _ number change)

theorem airs_runBefore (world : World) (number before : Nat)
    : Airs number world (world.runBefore before) := by
  refine exhaust_keeps (P := Airs number world) ?_ (.refl number world)
  intro earlier later woken soFar
  obtain ⟨next, -, rfl⟩ := Option.map_eq_some_iff.mp woken
  exact soFar.trans (airs_resume earlier number next)

theorem airs_advance (world : World) (number ms : Nat)
    : Airs number world (world.advance ms) := by
  unfold advance
  split
  · exact .refl number world
  · exact (airs_runBefore world number _).trans (airs_moveTo _ number _)

theorem airs_turn {number : Nat} (turn : world.turn? = some after) : Airs number world after := by
  obtain ⟨next, -, rfl⟩ := Option.map_eq_some_iff.mp turn
  exact airs_resume world number next

theorem airs_turns (world : World) (number count : Nat)
    : Airs number world (world.turns count) := by
  fun_induction turns count world with
  | case1 world => exact .refl number world
  | case2 count world nobody => exact .refl number world
  | case3 count world next turn ih => exact (airs_turn turn).trans ih

-----------------------------------------------------------------------------------------
-- Runs
-----------------------------------------------------------------------------------------

theorem airs_handle (world : World) (number : Nat) {request : Request}
    (lasts : request ≠ .command number .drop)
    : Airs number world (world.handle request).2 := by
  cases request with
  | command other order =>
      refine airs_command world number other ?_
      rintro rfl rfl
      exact lasts rfl
  | fire scheduler =>
      simp only [World.handle]
      split
      · rename_i queue there
        refine Airs.trans ?_ (airs_attempts _ number queue)
        exact .of_same rfl rfl rfl
      · exact .refl number world
  | fireAt scheduler index =>
      simp only [World.handle]
      split
      · simp only [World.fireAt]
        split
        · refine Airs.trans ?_ (airs_attempt _ number _)
          exact .of_same rfl rfl rfl
        · exact .refl number world
      · exact .refl number world
  | cancel scheduler =>
      simp only [World.handle]
      split
      · exact airs_cancel world number scheduler none
      · exact .refl number world
  | advance ms => exact airs_advance world number ms
  | change change => cases change <;> exact airs_change world number _
  | mail subscription request => exact airs_mail world number subscription request

theorem airs_move (world : World) (number : Nat) {move : Move}
    (lasts : move ≠ .request (.command number .drop))
    : Airs number world (world.move move) := by
  cases move with
  | request request =>
      apply airs_handle world number
      rintro rfl
      exact lasts rfl
  | settle => exact airs_runBefore world number _
  | turn =>
      simp only [World.move]
      cases turn : world.turn? with
      | none => exact .refl number world
      | some after => exact airs_turn turn
  | clock time => exact airs_moveTo world number time

theorem airs_after (world : World) (number : Nat) {moves : List Move}
    (lasts : .request (.command number .drop) ∉ moves)
    : Airs number world (world.after moves) := by
  induction moves generalizing world with
  | nil => exact .refl number world
  | cons move rest ih =>
      have first : move ≠ .request (.command number .drop) := by
        rintro rfl
        exact lasts List.mem_cons_self
      have later : .request (.command number .drop) ∉ rest := lasts ∘ List.mem_cons_of_mem move
      exact (airs_move world number first).trans (ih _ later)

end World

end UpdaterLaunch
