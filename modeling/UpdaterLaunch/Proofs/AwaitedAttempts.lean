import UpdaterLaunch.Session
import UpdaterLaunch.Proofs.AttemptQuiescence

/-! A session that waits for the end of one attempt, in a world that others move too. Its
coordinator keeps its retries on the clock, and nobody changes a package before a horizon. Turns of
the line and steps of the clock run a retry only when it is due, so the wait ends with the event of
the last cycle, at the time of that cycle.
-/

namespace UpdaterLaunch

namespace World

variable {number : Nat} {own : Coordinator} {registry : Registry} {horizon : Nat}
  {dues : List Nat} {world after : World}

/-- A coordinator on a timed scheduler, in a world that others move too: what it has come to, and
when its retries are due. No package changes up to the horizon.
-/
structure Bides (number : Nat) (own : Coordinator) (registry : Registry) (horizon : Nat)
    (dues : List Nat) (world : World) : Prop where
  registry : world.registry = registry
  there : world.coordinator? number = some own
  timed : world.schedulers[own.scheduler]? = some .timed
  queue : own.scheduler < world.agenda.queues.length
  orderly : world.agenda.Orderly
  changes
    : ∀ posting ∈ world.agenda.waiting,
        ∀ change, posting.task = .change change → horizon < posting.due
  dues : ((world.agenda.tasks.filter (isRetryOf number)).map (·.due)).Perm dues

namespace Bides

-----------------------------------------------------------------------------------------
-- What others do
-----------------------------------------------------------------------------------------

theorem note (bides : Bides number own registry horizon dues world) (about : Option Nat)
    (notices : List Notice)
    : Bides number own registry horizon dues (world.note about notices) :=
  { bides with }

theorem put (bides : Bides number own registry horizon dues world) {new : Coordinator}
    (same : new.scheduler = own.scheduler)
    : Bides number new registry horizon dues (world.put number new) :=
  { bides with
    there := coordinator?_put_self bides.there new
    timed := same ▸ bides.timed
    queue := same ▸ bides.queue }

theorem put_other (bides : Bides number own registry horizon dues world) {other : Nat}
    (ne : other ≠ number) (coordinator : Coordinator)
    : Bides number own registry horizon dues (world.put other coordinator) :=
  { bides with
    there := (coordinator?_put_of_ne world coordinator (Ne.symm ne)).trans bides.there }

theorem requeue_other (bides : Bides number own registry horizon dues world) {scheduler : Nat}
    {old : List (Span × Nat)} (manual : world.schedulers[scheduler]? = some (.manual old))
    (queue : List (Span × Nat))
    : Bides number own registry horizon dues
        { world with schedulers := world.schedulers.set scheduler (.manual queue) } :=
  { bides with
    timed := by
      have ne : scheduler ≠ own.scheduler := by
        rintro rfl
        exact absurd (manual.symm.trans bides.timed) (by simp)
      exact (List.getElem?_set_ne ne).trans bides.timed }

theorem withAgenda (bides : Bides number own registry horizon dues world) {agenda : Agenda Task}
    {rest : List Nat} (orderly : agenda.Orderly)
    (queues : agenda.queues.length = world.agenda.queues.length)
    (subset : ∀ posting ∈ agenda.waiting, posting ∈ world.agenda.waiting)
    (dues : ((agenda.tasks.filter (isRetryOf number)).map (·.due)).Perm rest)
    : Bides number own registry horizon rest { world with agenda } :=
  { bides with
    queue := queues ▸ bides.queue
    orderly := orderly
    changes := fun posting member => bides.changes posting (subset posting member)
    dues := dues }

/-- A retry that is posted on the clock is one more to come, for its own coordinator. -/
theorem post_timed (bides : Bides number own registry horizon dues world) {scheduler : Nat}
    (timed : world.schedulers[scheduler]? = some .timed)
    (inside : scheduler < world.agenda.queues.length) (delay : Span) (other : Nat)
    : Bides number own registry horizon
        (if other = number then world.agenda.dueAfter delay.ticks :: dues else dues)
        (world.post scheduler delay other) := by
  have found := List.getElem?_eq_getElem inside
  have perm := ((Agenda.tasks_post_perm found delay.ticks (Task.retry other)).filter
    (isRetryOf number)).map (·.due)
  simp only [World.post, timed]
  apply note
  refine
    { bides with
      queue := Nat.lt_of_lt_of_eq bides.queue (Agenda.length_queues_post _ _ _ _).symm
      orderly := bides.orderly.post _ _ _
      changes := ?_
      dues := perm.trans ?_ }
  · intro posting member change task
    rcases (Agenda.mem_waiting_post_iff found).mp member with rfl | old
    · cases task
    · exact bides.changes posting old change task
  · rw [List.filter_cons]
    by_cases mine : other = number
    · simp only [isRetryOf, mine, decide_true, ↓reduceIte, List.map_cons]
      exact bides.dues.cons _
    · simp only [isRetryOf, mine, Task.retry.injEq, decide_false, Bool.false_eq_true, ↓reduceIte]
      exact bides.dues

theorem post_other (bides : Bides number own registry horizon dues world) {other : Nat}
    (ne : other ≠ number) (scheduler : Nat) (delay : Span)
    : Bides number own registry horizon dues (world.post scheduler delay other) := by
  cases there : world.schedulers[scheduler]? with
  | none => simpa only [World.post, there] using bides
  | some found =>
      cases found with
      | manual queue =>
          simp only [World.post, there]
          exact bides.requeue_other there _
      | inline => simpa only [World.post, there] using bides
      | timed =>
          by_cases inside : scheduler < world.agenda.queues.length
          · have posted := bides.post_timed there inside delay other
            rwa [if_neg ne] at posted
          · have nowhere : world.agenda.queues[scheduler]? = none :=
              List.getElem?_eq_none (Nat.le_of_not_lt inside)
            simp only [World.post, there, Agenda.post, nowhere]
            exact bides.note _ _

/-- Whatever another coordinator decides is nothing to this one. -/
theorem attempt_other (bides : Bides number own registry horizon dues world) {other : Nat}
    (ne : other ≠ number)
    : Bides number own registry horizon dues (world.attempt other) := by
  refine attempt_keeps ?_ ?_ bides
  · intro world bides cycle
    exact (bides.put_other ne cycle.after).note _ _
  · intro world bides scheduler delay
    exact bides.post_other ne scheduler delay

-----------------------------------------------------------------------------------------
-- Turns and the clock
-----------------------------------------------------------------------------------------

theorem moveTo (bides : Bides number own registry horizon dues world)
    (line : world.agenda.ready = []) {due : Nat} (next : world.agenda.next? = some due)
    : Bides number own registry horizon dues (world.moveTo due) := by
  refine bides.withAgenda (bides.orderly.clock line (bides.orderly.next next)) rfl ?_ ?_
  · rw [Agenda.waiting_moveTo]
    exact fun _ => id
  · rw [Agenda.tasks_moveTo]
    exact bides.dues

/-- A retry to come is somewhere on the agenda. -/
theorem waits (bides : Bides number own registry horizon dues world) {due : Nat}
    (member : due ∈ dues)
    : ∃ posting ∈ world.agenda.waiting, posting.due = due := by
  obtain ⟨posting, task, rfl⟩ := List.mem_map.mp (bides.dues.mem_iff.mpr member)
  exact ⟨posting, (List.mem_filter.mp (List.mem_filter.mp task).1).1, rfl⟩

/-- No retry is overdue. -/
theorem now_le (bides : Bides number own registry horizon dues world) {due : Nat}
    (member : due ∈ dues)
    : world.agenda.now ≤ due := by
  obtain ⟨posting, waits, rfl⟩ := bides.waits member
  rcases List.mem_append.mp waits with ready | asleep
  · exact bides.orderly.line posting ready
  · exact Nat.le_of_lt (bides.orderly.asleep posting asleep)

/-- A turn is nothing to the coordinator, but for a retry of its own, which is tried again at its
due time. A change does not have its turn before the horizon.
-/
theorem turn (bides : Bides number own registry horizon dues world)
    (early : world.agenda.now ≤ horizon) (next : world.turn? = some after)
    : (Bides number own registry horizon dues after ∧ after.agenda.now = world.agenda.now)
      ∨ ∃ (rest : List Nat) (taken : World),
          dues.Perm (world.agenda.now :: rest)
          ∧ Bides number own registry horizon rest taken
          ∧ taken.agenda.now = world.agenda.now
          ∧ after = taken.attempt number := by
  obtain ⟨⟨task, agenda⟩, found, rfl⟩ := Option.map_eq_some_iff.mp next
  have turn := Agenda.turn_of_turn? found
  have orderly := bides.orderly.turn turn
  cases task with
  | none =>
      obtain ⟨ran, tasks, perm⟩ := turn.tasks_perm
      obtain rfl := List.map_eq_nil_iff.mp tasks
      have same := ((perm.filter (isRetryOf number)).map (·.due)).symm.trans bides.dues
      exact .inl ⟨bides.withAgenda orderly turn.length_queues turn.waiting_subset same, turn.now⟩
  | some task =>
      obtain ⟨posting, rfl, due, perm⟩ := bides.orderly.runs turn
      have waits : posting ∈ world.agenda.waiting := by
        have member : posting ∈ world.agenda.tasks := perm.mem_iff.mpr List.mem_cons_self
        exact (List.mem_filter.mp member).1
      have split := ((perm.filter (isRetryOf number)).map (·.due)).symm.trans bides.dues
      rw [List.filter_cons] at split
      cases task : posting.task with
      | change change =>
          have late := bides.changes posting waits change task
          omega
      | retry other =>
          simp only [isRetryOf, task, Task.retry.injEq, decide_eq_true_eq] at split
          by_cases mine : other = number
          · subst mine
            rw [if_pos rfl, List.map_cons, due] at split
            refine .inr ⟨_, { world with agenda }, split.symm, ?_, turn.now, rfl⟩
            exact bides.withAgenda orderly turn.length_queues turn.waiting_subset .rfl
          · rw [if_neg mine] at split
            have taken := bides.withAgenda orderly turn.length_queues turn.waiting_subset split
            exact .inl ⟨taken.attempt_other mine, (now_attempt _ _).trans turn.now⟩

end Bides

-----------------------------------------------------------------------------------------
-- An attempt under way
-----------------------------------------------------------------------------------------

variable {attempt : Attempt} {count : Nat}

/-- An attempt that was put off a number of times: the next retry is due one wait after the last,
and after the last cycle the clock stands still.
-/
structure Underway (attempt : Attempt) (horizon count : Nat) (world : World) : Prop where
  within : count ≤ attempt.last
  bides
    : Bides attempt.number (attempt.after (count + 1)) attempt.registry horizon
        (attempt.dues count) world
  ended
    : count = attempt.last → world.agenda.now = attempt.start + attempt.last * attempt.wait

/-- A cycle that is run at its time leaves the attempt under way. -/
theorem Bides.nextCycle
    (bides : Bides attempt.number (attempt.after count) attempt.registry horizon [] world)
    (alive : attempt.first.alive = true) (within : count ≤ attempt.last)
    (now : world.agenda.now = attempt.start + count * attempt.wait)
    : Underway attempt horizon count (world.attempt attempt.number) := by
  obtain ⟨lives, -⟩ :=
    Coordinator.afterCycles_fixed attempt.first attempt.registry count
  have live : world.live? attempt.number = some (attempt.after count) :=
    live?_eq_some_iff.mpr ⟨bides.there, lives.trans alive⟩
  have cycled := attempt_of_kept live (by simp [bides.timed])
  rw [bides.registry] at cycled
  have recorded
      : Bides attempt.number (attempt.after (count + 1)) attempt.registry horizon []
          (world.recorded attempt.number ((attempt.after count).cycle attempt.registry)) :=
    (bides.put (cycle_after_fixed _ _).2).note _ _
  refine ⟨within, ?_, ?_⟩
  · rw [cycled, Attempt.dues]
    by_cases early : count < attempt.last
    · have putOff : attempt.first.PutOff attempt.registry count (attempt.after count) :=
        Coordinator.putOff_afterCycles within
      have due : attempt.start + (count + 1) * attempt.wait
          = world.agenda.dueAfter attempt.delay.ticks := by
        rw [Agenda.dueAfter, now, Nat.succ_mul, Nat.add_assoc, Attempt.wait]
      have posted := recorded.post_timed bides.timed bides.queue attempt.delay attempt.number
      rw [if_pos rfl] at posted
      rw [cycled_of_reschedule (putOff.again early).1, if_pos early, due]
      exact posted
    · obtain rfl : count = attempt.last := Nat.le_antisymm within (Nat.le_of_not_lt early)
      have settled
          : ∀ delay,
              ((attempt.after attempt.last).cycle attempt.registry).decision ≠ .reschedule delay :=
        (Coordinator.cycle_last attempt.first attempt.registry).1
      rw [cycled_of_settled settled, if_neg early]
      exact recorded
  · intro last
    rw [now_attempt, now, last]

namespace Underway

theorem early (underway : Underway attempt horizon count world)
    : world.agenda.now ≤ attempt.start + attempt.last * attempt.wait := by
  rcases Nat.lt_or_eq_of_le underway.within with more | last
  · have due : world.agenda.now ≤ attempt.start + (count + 1) * attempt.wait :=
      underway.bides.now_le (by simp [Attempt.dues, more])
    have bound : (count + 1) * attempt.wait ≤ attempt.last * attempt.wait :=
      Nat.mul_le_mul_right attempt.wait more
    omega
  · exact Nat.le_of_eq (underway.ended last)

/-- A turn leaves the attempt under way, one cycle further if it was a retry's own. -/
theorem turn (underway : Underway attempt horizon count world)
    (alive : attempt.first.alive = true)
    (far : attempt.start + attempt.last * attempt.wait ≤ horizon)
    (next : world.turn? = some after)
    : ∃ more, Underway attempt horizon more after := by
  rcases underway.bides.turn (Nat.le_trans underway.early far) next
    with ⟨still, now⟩ | ⟨rest, taken, perm, bides, now, rfl⟩
  · exact ⟨count, underway.within, still, fun last => now.trans (underway.ended last)⟩
  · rw [Attempt.dues] at perm
    split at perm
    · rename_i more
      obtain ⟨due, none⟩ := List.cons.inj (List.perm_singleton.mp perm.symm)
      rw [none] at bides
      exact ⟨count + 1, bides.nextCycle alive more (now.trans due)⟩
    · exact absurd perm.length_eq (by simp)

/-- By induction on the turns. -/
theorem turns (underway : Underway attempt horizon count world)
    (alive : attempt.first.alive = true)
    (far : attempt.start + attempt.last * attempt.wait ≤ horizon) (given : Nat)
    : ∃ more, Underway attempt horizon more (world.turns given) := by
  fun_induction World.turns given world generalizing count with
  | case1 world => exact ⟨count, underway⟩
  | case2 given world nobody => exact ⟨count, underway⟩
  | case3 given world next turn ih =>
      obtain ⟨more, further⟩ := underway.turn alive far turn
      exact ih further

end Underway

end World

-----------------------------------------------------------------------------------------
-- A session that waits
-----------------------------------------------------------------------------------------

/-- What there is to read of an attempt that was put off a number of times. -/
def Attempt.unread (attempt : Attempt) (count : Nat) : List Event :=
  if count < attempt.last then [] else [attempt.first.conclusion attempt.registry]

/-- Until its last cycle an attempt tells nothing. -/
theorem Attempt.feeds {attempt : Attempt} {count : Nat} (feeds : attempt.first.hub.Feeds [])
    (within : count ≤ attempt.last)
    : (attempt.after (count + 1)).hub.Feeds (attempt.unread count) := by
  rw [Attempt.unread]
  split
  · rename_i more
    have putOff : attempt.first.PutOff attempt.registry (count + 1) (attempt.after (count + 1)) :=
      Coordinator.putOff_afterCycles more
    rw [putOff.same]
    exact feeds
  · rename_i last
    obtain rfl : count = attempt.last := Nat.le_antisymm within (Nat.le_of_not_lt last)
    have concluded : attempt.first.Concluded attempt.registry (attempt.after (attempt.last + 1)) :=
      Coordinator.concluded_afterCycles attempt.first attempt.registry
    rw [concluded.same]
    exact feeds.emit _

namespace Session

variable {number : Nat} {world : World} {own : Coordinator}

/-- The session that is the only reader of a coordinator. -/
def ofOnly (number : Nat) : Session := { coordinator := number, slot := 0 }

theorem poll?_of_nil (there : world.coordinator? number = some own) (feeds : own.hub.Feeds [])
    : (ofOnly number).poll? world = none := by
  simp only [poll?, ofOnly, read?_of_nil there feeds, Option.map_none]

theorem poll?_of_launch {target : Target} (there : world.coordinator? number = some own)
    (feeds : own.hub.Feeds [.launchRequested target])
    : ∃ hub,
        hub.Feeds []
        ∧ (ofOnly number).poll? world
          = some (.launchUpdater target, ofOnly number, world.put number { own with hub }) := by
  obtain ⟨hub, rest, read⟩ := read?_of_cons there feeds
  refine ⟨hub, rest, ?_⟩
  simp only [poll?, ofOnly, read, Option.map_some]

theorem poll?_of_failed {reason : Failure} (there : world.coordinator? number = some own)
    (feeds : own.hub.Feeds [.failed reason])
    : ∃ hub,
        hub.Feeds []
        ∧ (ofOnly number).poll? world
          = some ((ofOnly number).finish .cancelled
              ((world.put number { own with hub }).note (some number) [.givingUp reason])) := by
  obtain ⟨hub, rest, read⟩ := read?_of_cons there feeds
  refine ⟨hub, rest, ?_⟩
  simp only [poll?, ofOnly, read, Option.map_some]

theorem isSome_poll? {event : Event} (there : world.coordinator? number = some own)
    (feeds : own.hub.Feeds [event])
    : ((ofOnly number).poll? world).isSome = true := by
  cases event with
  | launchRequested target =>
      obtain ⟨hub, -, told⟩ := poll?_of_launch there feeds
      rw [told]
      rfl
  | failed reason =>
      obtain ⟨hub, -, told⟩ := poll?_of_failed there feeds
      rw [told]
      rfl

end Session

namespace World.Underway

variable {attempt : Attempt} {horizon count : Nat} {world : World}

/-- While the attempt is under way nothing is told, so there is an answer only when it is over. -/
theorem isSome_poll?_iff (underway : Underway attempt horizon count world)
    (feeds : attempt.first.hub.Feeds [])
    : ((Session.ofOnly attempt.number).poll? world).isSome = true ↔ count = attempt.last := by
  have reads := Attempt.feeds feeds underway.within
  unfold Attempt.unread at reads
  rcases Nat.lt_or_eq_of_le underway.within with more | last
  · rw [if_pos more] at reads
    simp [Session.poll?_of_nil underway.bides.there reads, Nat.ne_of_lt more]
  · rw [if_neg (Nat.not_lt.mpr (Nat.le_of_eq last.symm))] at reads
    simp [Session.isSome_poll? underway.bides.there reads, last]

/-- The session waits for the event and no longer: the clock moves only while the attempt is under
way, and what is asleep then wakes in time.
-/
theorem wait (underway : Underway attempt horizon count world)
    (alive : attempt.first.alive = true)
    (far : attempt.start + attempt.last * attempt.wait ≤ horizon)
    (feeds : attempt.first.hub.Feeds [])
    : Underway attempt horizon attempt.last
        ((Session.ofOnly attempt.number).wait none world) := by
  obtain ⟨more, waited⟩
      : ∃ more,
          Underway attempt horizon more ((Session.ofOnly attempt.number).wait none world) := by
    refine exhaust_keeps (P := fun later => ∃ more, Underway attempt horizon more later) ?_
      ⟨count, underway⟩
    rintro earlier later step ⟨more, underway⟩
    unfold Session.wait? at step
    split at step
    · cases step
    · rename_i silent
      split at step
      · obtain rfl := Option.some.inj step
        exact underway.turns alive far _
      · rename_i line
        obtain ⟨due, next, rfl⟩ := Option.map_eq_some_iff.mp step
        have ongoing : more ≠ attempt.last := fun last =>
          silent ((underway.isSome_poll?_iff feeds).mpr last)
        refine ⟨more, underway.within, ?_, fun last => absurd last ongoing⟩
        exact underway.bides.moveTo (by simpa using line) (Option.filter_eq_some_iff.mp next).1
  -- waiting has ended, so it could not go on
  have stuck
      : (Session.ofOnly attempt.number).wait? none
          ((Session.ofOnly attempt.number).wait none world) = none :=
    step_exhaust _
  suffices last : more = attempt.last from last ▸ waited
  apply Classical.byContradiction
  intro ongoing
  have silent := mt (waited.isSome_poll?_iff feeds).mp ongoing
  have early : more < attempt.last := Nat.lt_of_le_of_ne waited.within ongoing
  have due : attempt.start + (more + 1) * attempt.wait ∈ attempt.dues more := by
    simp [Attempt.dues, early]
  obtain ⟨posting, waits, -⟩ := waited.bides.waits due
  simp only [Session.wait?, silent, Bool.false_eq_true, ↓reduceIte] at stuck
  generalize (Session.ofOnly attempt.number).wait none world = later at *
  split at stuck
  · cases stuck
  · rename_i line
    have nobody : later.agenda.ready = [] := by simpa using line
    rw [Agenda.waiting, nobody, List.nil_append] at waits
    obtain ⟨first, rest, sleepers⟩ := List.exists_cons_of_ne_nil (List.ne_nil_of_mem waits)
    simp [Agenda.next?, sleepers] at stuck

end World.Underway

end UpdaterLaunch
