import UpdaterLaunch.Proofs.AttemptTracking
import UpdaterLaunch.Proofs.LastingInvariants

/-! A coordinator that has its scheduler for itself, whatever else goes on in the world. All that is
pending on the scheduler is its own, and all that is pending of it is there. While nothing is, and
nobody asks for an attempt, the coordinator rests.
-/

namespace UpdaterLaunch.World

variable {world : World} {number scheduler : Nat}

-----------------------------------------------------------------------------------------
-- What lasts for a coordinator
-----------------------------------------------------------------------------------------

theorem coordinator?_attempt_of_ne {other : Nat} (world : World) (ne : other ≠ number)
    : (world.attempt other).coordinator? number = world.coordinator? number := by
  refine attempt_keeps (P := fun after => after.coordinator? number = world.coordinator? number)
    ?_ ?_ rfl
  · intro world same cycle
    exact (coordinator?_put_of_ne world cycle.after ne.symm).trans same
  · intro world same scheduler delay
    rwa [coordinator?, coordinators_post]

/-- A world serves a coordinator in whatever state, if the hub is open for as long as it lives. -/
theorem Served.put_any (served : world.Served number) {other : Nat} {old new : Coordinator}
    (there : world.coordinator? other = some old) (same : new.scheduler = old.scheduler)
    (opened : old.hub.isOpen = old.alive → new.hub.isOpen = new.alive)
    : (world.put other new).Served number := by
  refine ⟨served.sound, served.queues, ?_⟩
  by_cases own : number = other
  · subst own
    obtain ⟨inside, before⟩ := served.of_there there
    exact ⟨new, coordinator?_put_self there new, same ▸ inside, opened before⟩
  · obtain ⟨coordinator, found, rest⟩ := served.coordinator
    exact ⟨coordinator, (coordinator?_put_of_ne world new own).trans found, rest⟩

theorem lasting_served (number : Nat) : Lasting unbarred (·.Served number) where
  attempt served _ := (served.attempt_any False _).served
  turn served next :=
    ⟨served.sound.turn next, next.length_queues.trans served.queues, served.coordinator⟩
  woken _ _ := id
  clock served time := (served.moveTo False time).served
  cancel served scheduler about := (served.cancel False scheduler about).served
  change served _ := ⟨served.sound, served.queues, served.coordinator⟩
  note served _ _ := ⟨served.sound, served.queues, served.coordinator⟩
  put served there spared := by
    apply served.put_any there spared.scheduler
    intro opened
    rw [spared.opened, spared.alive, opened]
  drop served live _ := served.put_any (live?_eq_some_iff.mp live).1 rfl fun _ => rfl
  listed served _ := ⟨served.sound, served.queues, served.coordinator⟩
  requeue served there _ := by
    refine ⟨served.sound, ?_, ?_⟩
    · rw [List.length_set]
      exact served.queues
    · obtain ⟨coordinator, found, inside, opened⟩ := served.coordinator
      exact ⟨coordinator, found, by rwa [List.length_set], opened⟩
  fired _ _ _ _ := id

theorem lasting_apart (party : Party) : Lasting unbarred (·.Apart party) where
  attempt apart _ := apart.attempt _
  turn apart next := apart.withAgenda next.waiting_subset
  woken _ _ := id
  clock apart time := by
    apply apart.withAgenda
    intro posting member
    rwa [Agenda.waiting_moveTo] at member
  cancel apart scheduler about := apart.cancel scheduler about
  change apart _ := ⟨apart.users, apart.queued, apart.tasks⟩
  note apart about notices := apart.note about notices
  put apart there spared := apart.put there spared.scheduler
  drop apart live _ := apart.put (live?_eq_some_iff.mp live).1 rfl
  listed apart _ := ⟨apart.users, apart.queued, apart.tasks⟩
  requeue apart there fewer :=
    apart.requeue fun retry member => apart.queued _ _ there retry (fewer member)
  fired _ _ _ _ := id

/-- One command to one coordinator. -/
def only? (number : Nat) (command : Command) (other : Nat) (asked : Command) : Prop :=
  other = number ∧ asked = command

/-- A coordinator lives until it is dropped. -/
theorem lasting_live (number : Nat)
    : Lasting (only? number .drop) fun world => (world.live? number).isSome where
  attempt lives _ := by rwa [isSome_live?_attempt]
  turn lives _ := lives
  woken _ _ barred := nomatch barred.2
  clock lives _ := lives
  cancel lives scheduler about := by
    simpa only [live?, coordinator?, coordinators_cancel] using lives
  change lives _ := lives
  note lives _ _ := lives
  put {world other old new} lives there spared := by
    by_cases own : number = other
    · subst own
      have alive : old.alive = true := by
        simpa [live?, there, Option.filter, Option.isSome_iff_exists] using lives
      have now := coordinator?_put_self there new
      simp [live?, now, spared.alive, alive]
    · simpa only [live?, coordinator?_put_of_ne world new own] using lives
  drop {world other coordinator} lives _ allowed := by
    have ne : number ≠ other := fun own => allowed ⟨own.symm, rfl⟩
    simpa only [live?, coordinator?_put_of_ne world coordinator.drop ne] using lives
  listed lives _ := lives
  requeue lives _ _ := lives
  fired _ _ _ _ barred := nomatch barred.2

/-- Every task on the agenda stands on the queue of a timed scheduler. -/
def Timed (world : World) : Prop :=
  ∀ posting ∈ world.agenda.waiting, world.schedulers[posting.queue]? = some .timed

theorem Timed.requeue (timed : world.Timed) {queue rest : List (Span × Nat)}
    (there : world.schedulers[scheduler]? = some (.manual queue))
    : ({ world with schedulers := world.schedulers.set scheduler (.manual rest) } : World).Timed :=
  by
  intro posting member
  have own := timed posting member
  have ne : scheduler ≠ posting.queue := by
    rintro rfl
    rw [there] at own
    cases own
  rw [← own]
  exact List.getElem?_set_ne ne

theorem Timed.post (timed : world.Timed) (scheduler : Nat) (delay : Span) (number : Nat)
    : (world.post scheduler delay number).Timed := by
  unfold World.post
  split
  · rename_i queue there
    exact timed.requeue there
  · rename_i there
    intro posting member
    cases found : world.agenda.queues[scheduler]? with
    | none =>
        simp only [World.note, Agenda.post, found] at member
        exact timed posting member
    | some q =>
        rcases (Agenda.mem_waiting_post_iff found).mp member with rfl | old
        · exact there
        · exact timed posting old
  · exact timed
  · exact timed

theorem lasting_timed : Lasting unbarred Timed where
  attempt {world number} timed _ :=
    attempt_keeps (P := Timed) (fun timed _ => timed)
      (fun timed scheduler delay => timed.post scheduler delay number) timed
  turn timed next posting member := timed posting (next.waiting_subset posting member)
  woken _ _ := id
  clock timed time posting member := by
    rw [moveTo, Agenda.waiting_moveTo] at member
    exact timed posting member
  cancel {world} timed scheduler about := by
    cases there : world.schedulers[scheduler]? with
    | none => simpa only [cancel, there] using timed
    | some kind =>
        cases kind with
        | manual queue => simpa only [cancel, there] using timed.requeue there
        | inline => simpa only [cancel, there] using timed
        | timed =>
            rw [cancel_of_timed there]
            exact fun posting member => timed posting (Agenda.mem_waiting_cancel member)
  change timed _ := timed
  note timed _ _ := timed
  put timed _ _ := timed
  drop timed _ _ := timed
  listed timed _ := timed
  requeue timed there _ := timed.requeue there
  fired _ _ _ _ := id

-----------------------------------------------------------------------------------------
-- A coordinator of which nothing is pending
-----------------------------------------------------------------------------------------

theorem kept_eq_zero_iff
    : world.kept number = 0
      ↔ (∀ (scheduler : Nat) (queue : List (Span × Nat)),
            world.schedulers[scheduler]? = some (.manual queue) → ∀ retry ∈ queue, retry.2 ≠ number)
        ∧ ∀ posting ∈ world.agenda.tasks, posting.task ≠ .retry number := by
  simp only [kept, Nat.add_eq_zero_iff, total_eq_zero_iff, List.countP_eq_zero, isRetryOf,
    decide_eq_true_eq]
  refine and_congr_left fun _ => ⟨?_, ?_⟩
  · intro none scheduler queue there
    have own := none _ (List.mem_of_getElem? there)
    simpa only [Scheduler.keeps, List.countP_eq_zero, decide_eq_true_eq] using own
  · intro none kind member
    obtain ⟨scheduler, there⟩ := List.mem_iff_getElem?.mp member
    cases kind with
    | manual queue =>
        simpa only [Scheduler.keeps, List.countP_eq_zero, decide_eq_true_eq]
          using none scheduler queue there
    | inline | timed => rfl

/-- A coordinator is served, has made a number of targets, and nothing is pending of it. -/
structure Idles (number made : Nat) (world : World) : Prop where
  served : world.Served number
  kept : world.kept number = 0
  made : (world.coordinator? number).map (·.made) = some made

/-- Where nothing was pending and nothing was called for, nothing is pending. -/
theorem Passage.kept_eq_zero {steady : Prop} {lost : Nat} {after : World}
    (passage : Passage steady number world 0 lost after) (none : world.kept number = 0)
    : after.kept number = 0 := by
  obtain ⟨cycles, -, balance⟩ := passage.course
  omega

/-- Nobody but its caller makes a coordinator launch of which nothing is pending. -/
theorem lasting_idles (number made : Nat) : Lasting (only? number .tryLaunch) (Idles number made)
    where
  attempt {world other} idles allowed := by
    have ne : other ≠ number := fun own => allowed ⟨own, rfl⟩
    have passage := idles.served.attempt_any False other
    rw [if_neg fun both => ne both.1] at passage
    refine ⟨passage.served, passage.kept_eq_zero idles.kept, ?_⟩
    rw [coordinator?_attempt_of_ne world ne]
    exact idles.made
  turn idles next := by
    refine ⟨(lasting_served number).turn idles.served next, ?_, idles.made⟩
    have taken := (Loses.turn next number).kept
    have before := idles.kept
    omega
  woken {world other agenda} idles next barred := by
    have taken := (Loses.turn next number).kept
    rw [if_pos (by rw [barred.1]), idles.kept] at taken
    cases taken
  clock {world} idles time := by
    have still := (Loses.moveTo world time number).kept
    rw [idles.kept, Nat.add_zero] at still
    exact ⟨(lasting_served number).clock idles.served time, still.symm, idles.made⟩
  cancel idles scheduler about := by
    have passage := idles.served.cancel False scheduler about
    refine ⟨passage.served, passage.kept_eq_zero idles.kept, ?_⟩
    simpa only [coordinator?, coordinators_cancel] using idles.made
  change idles change :=
    ⟨(lasting_served number).change idles.served change, idles.kept, idles.made⟩
  note idles about notices :=
    ⟨(lasting_served number).note idles.served about notices, idles.kept, idles.made⟩
  put {world other old new} idles there spared := by
    refine ⟨(lasting_served number).put idles.served there spared, idles.kept, ?_⟩
    by_cases own : number = other
    · subst own
      rw [coordinator?_put_self there, Option.map_some, spared.made]
      simpa only [there, Option.map_some] using idles.made
    · rw [coordinator?_put_of_ne world new own]
      exact idles.made
  drop {world other coordinator} idles live _ := by
    have there := (live?_eq_some_iff.mp live).1
    refine ⟨(lasting_served number).drop idles.served live id, idles.kept, ?_⟩
    by_cases own : number = other
    · subst own
      rw [coordinator?_put_self there]
      simpa only [there, Option.map_some, Coordinator.drop] using idles.made
    · rw [coordinator?_put_of_ne world coordinator.drop own]
      exact idles.made
  listed idles more := ⟨(lasting_served number).listed idles.served more, idles.kept, idles.made⟩
  requeue {world scheduler queue rest} idles there fewer := by
    refine ⟨(lasting_served number).requeue idles.served there fewer, ?_, idles.made⟩
    obtain ⟨queued, tasks⟩ := kept_eq_zero_iff.mp idles.kept
    refine kept_eq_zero_iff.mpr ⟨?_, tasks⟩
    intro other now found retry member
    dsimp only at found
    rw [List.getElem?_set] at found
    split at found
    · split at found
      · obtain rfl := Scheduler.manual.inj (Option.some.inj found)
        exact queued scheduler queue there retry (fewer member)
      · cases found
    · exact queued other now found retry member
  fired idles there retry member barred :=
    (kept_eq_zero_iff.mp idles.kept).1 _ _ there retry member barred.1

/-- A coordinator that has made no more targets than before has made no cycle. -/
theorem Course.eq_nil {steady : Prop} {cycles : List Coordinator.Cycle} {after : World}
    (course : Course steady number world cycles after) {coordinator : Coordinator}
    (there : world.coordinator? number = some coordinator)
    (made : (after.coordinator? number).map (·.made) = some coordinator.made)
    : cycles = [] := by
  obtain ⟨last, found, performed⟩ := course.performed there
  rw [found, Option.map_some, Option.some.injEq, performed.made] at made
  exact List.length_eq_zero_iff.mp (by omega)

theorem Idles.course {steady : Prop} {made called lost : Nat} {after : World}
    (idles : world.Idles number made) (still : after.Idles number made)
    (passage : Passage steady number world called lost after)
    : Course steady number world [] after := by
  obtain ⟨cycles, course, -⟩ := passage.course
  obtain ⟨coordinator, there, -, -⟩ := idles.served.coordinator
  have before := idles.made
  rw [there, Option.map_some] at before
  obtain rfl := course.eq_nil there (still.made.trans before.symm)
  exact course

theorem Served.idles (served : world.Served number) (none : world.kept number = 0)
    : ∃ made, world.Idles number made := by
  obtain ⟨coordinator, there, -, -⟩ := served.coordinator
  exact ⟨coordinator.made, served, none, by rw [there, Option.map_some]⟩

-----------------------------------------------------------------------------------------
-- The only user of a scheduler
-----------------------------------------------------------------------------------------

/-- The party of one coordinator with one scheduler. -/
def Party.single (number scheduler : Nat) : Party where
  coordinators other := other = number
  schedulers other := other = scheduler

/-- A coordinator is the only user of its scheduler: what is pending there is its own, and what is
pending of it is there, and is told of.
-/
structure Sole (number scheduler : Nat) (world : World) : Prop where
  apart : world.Apart (.single number scheduler)
  timed : world.Timed
  listed : world.agenda.Listed

theorem lasting_sole (number scheduler : Nat) : Lasting unbarred (Sole number scheduler) := by
  have parts := (lasting_apart (.single number scheduler)).and (lasting_timed.and lasting_listed)
  apply parts.congr
  exact fun world => ⟨fun sole => ⟨sole.apart, sole.timed, sole.listed⟩,
    fun ⟨apart, timed, listed⟩ => ⟨apart, timed, listed⟩⟩

/-- Whether nothing is left to run. -/
def Pending.isEmpty : Pending → Bool
  | .delays waits => waits.isEmpty
  | .nothing => true
  | .count left => left = 0

/-- Whether a scheduler has nothing left to run. -/
def isClear (world : World) (scheduler : Nat) : Bool :=
  (world.pending[scheduler]?).all (·.isEmpty)

theorem isClear_cancel (world : World) (scheduler : Nat) (about : Option Nat)
    : (world.cancel scheduler about).isClear scheduler = true := by
  cases there : world.schedulers[scheduler]? with
  | none => simp [isClear, pending, cancel, there]
  | some kind =>
      have inside := (List.getElem?_eq_some_iff.mp there).1
      cases kind with
      | manual queue =>
          have emptied : world.cancel scheduler about
              = { world with schedulers := world.schedulers.set scheduler (.manual []) } := by
            simp only [cancel, there]
          simp [emptied, isClear, pending, inside, Pending.isEmpty]
      | inline => simp [isClear, pending, cancel, there, Pending.isEmpty]
      | timed =>
          have silenced : (world.agenda.cancel scheduler).pending scheduler = 0 := by
            simp only [Agenda.pending, Agenda.cancel, List.getElem?_modify, ↓reduceIte]
            cases world.agenda.queues[scheduler]? <;> rfl
          rw [cancel_of_timed there]
          simp [isClear, pending, note, there, Pending.isEmpty, silenced]

namespace Sole

/-- Nothing is pending of the only user of a scheduler exactly if the scheduler has nothing left. -/
theorem kept_eq_zero_iff (sole : world.Sole number scheduler)
    : world.kept number = 0 ↔ world.isClear scheduler = true := by
  rw [World.kept_eq_zero_iff]
  have own (posting) (member : posting ∈ world.agenda.tasks)
      : posting.task = .retry number ↔ posting.queue = scheduler := by
    obtain ⟨other, retry, side⟩ := sole.apart.tasks posting (List.mem_filter.mp member).1
    simpa [retry, Party.single] using side
  have clear (there : world.schedulers[scheduler]? = some .timed)
      : world.isClear scheduler = true
        ↔ ∀ posting ∈ world.agenda.tasks, posting.queue ≠ scheduler := by
    simp [isClear, pending, there, Pending.isEmpty, sole.listed.count, List.countP_eq_zero]
  refine ⟨?_, ?_⟩
  · rintro ⟨queued, tasks⟩
    cases there : world.schedulers[scheduler]? with
    | none => simp [isClear, pending, there]
    | some kind =>
        cases kind with
        | manual queue =>
            have none : queue = [] := by
              apply List.eq_nil_iff_forall_not_mem.mpr
              intro retry member
              apply queued scheduler queue there retry member
              simpa [Party.single] using sole.apart.queued scheduler queue there retry member
            simp [isClear, pending, there, Pending.isEmpty, none]
        | inline => simp [isClear, pending, there, Pending.isEmpty]
        | timed =>
            refine (clear there).mpr ?_
            intro posting member same
            exact tasks posting member ((own posting member).mpr same)
  · intro empty
    refine ⟨?_, ?_⟩
    · rintro other queue there retry member rfl
      obtain rfl : other = scheduler := by
        simpa [Party.single] using sole.apart.queued other queue there retry member
      have none : queue = [] := by
        simpa [isClear, pending, there, Pending.isEmpty] using empty
      simp [none] at member
    · intro posting member retry
      have here := (own posting member).mp retry
      have there := sole.timed posting (List.mem_filter.mp member).1
      rw [here] at there
      exact (clear there).mp empty posting member here

/-- After the only user of a scheduler has stopped its retries, nothing is pending of it. -/
theorem stopped (sole : world.Sole number scheduler) {coordinator : Coordinator}
    (live : world.live? number = some coordinator)
    : (world.stopRetries number).kept number = 0 := by
  have own : coordinator.scheduler = scheduler := by
    have side := sole.apart.side live
    simpa [Party.single] using side
  have after := (lasting_sole number scheduler).stopRetries sole number
  refine after.kept_eq_zero_iff.mpr ?_
  simp only [stopRetries, live, own]
  exact isClear_cancel _ _ _

end Sole

/-- Where nothing is pending at all, whoever shares its scheduler with nobody is its only user. -/
theorem Quiet.sole (quiet : world.Quiet) (listed : world.agenda.Listed) {coordinator : Coordinator}
    (there : world.coordinator? number = some coordinator)
    (unshared
      : ∀ other user,
          world.coordinator? other = some user
          → user.scheduler = coordinator.scheduler
          → other = number)
    : world.Sole number coordinator.scheduler where
  apart := by
    refine ⟨?_, ?_, ?_⟩
    · intro other user found
      simp only [Party.single, decide_eq_decide]
      refine ⟨?_, unshared other user found⟩
      rintro rfl
      rw [Option.some.inj (found.symm.trans there)]
    · intro scheduler queue found retry member
      rw [quiet.empty scheduler queue found] at member
      cases member
    · simp [quiet.idle.waiting]
  timed := by simp [Timed, quiet.idle.waiting]
  listed := listed

end UpdaterLaunch.World
