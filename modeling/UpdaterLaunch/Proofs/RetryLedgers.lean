import UpdaterLaunch.Proofs.DecisionCourses

/-! What a course posts. Each cycle that puts the launch off posts one retry, and no other does; all
that were posted, and all that were pending before, are either still pending, as they were posted,
or were taken off in between.
-/

namespace UpdaterLaunch

namespace Coordinator

/-- The retries that a cycle posts on a scheduler at a time: one for the delay that it has decided,
if it puts the launch off.
-/
def Cycle.posts (cycle : Cycle) (scheduler : Nat) (kind : Scheduler) (now : Nat) : List Retry :=
  match cycle.decision with
  | .reschedule delay => [kind.posted scheduler delay now]
  | .launch | .fail _ => []

/-- A cycle that does not put the launch off posts nothing. -/
theorem Cycle.posts_eq_nil {cycle : Cycle} (settled : ∀ delay, cycle.decision ≠ .reschedule delay)
    {scheduler : Nat} {kind : Scheduler} {now : Nat}
    : cycle.posts scheduler kind now = [] := by
  unfold posts
  split
  · rename_i delay put
    exact absurd put (settled delay)
  · rfl
  · rfl

/-- A cycle either posts a retry or emits an event. -/
theorem Cycle.length_posts (cycle : Cycle) (scheduler : Nat) (kind : Scheduler) (now : Nat)
    : (cycle.posts scheduler kind now).length + ([cycle].filterMap (·.event?)).length = 1 := by
  cases decision : cycle.decision <;> simp [posts, event?, decision]

/-- Schedulers of one kind make the same retries. -/
theorem Cycle.posts_congr {kind other : Scheduler} (same : other.emptied = kind.emptied)
    (cycle : Cycle) (scheduler now : Nat)
    : cycle.posts scheduler other now = cycle.posts scheduler kind now := by
  unfold posts
  split
  · rw [← other.posted_emptied, same, kind.posted_emptied]
  · rfl
  · rfl

/-- The retries that a row of cycles posts, each at its own time. -/
def posts (scheduler : Nat) (kind : Scheduler) (cycles : List Cycle) (times : List Nat)
    : List Retry :=
  (cycles.zip times).flatMap fun entry => entry.1.posts scheduler kind entry.2

/-- One more cycle posts after those before it. -/
theorem posts_append_singleton {cycles : List Cycle} {times : List Nat}
    (each : times.length = cycles.length) (scheduler : Nat) (kind : Scheduler) (cycle : Cycle)
    (now : Nat)
    : posts scheduler kind (cycles ++ [cycle]) (times ++ [now])
      = posts scheduler kind cycles times ++ cycle.posts scheduler kind now := by
  unfold posts
  rw [List.zip_append each.symm, List.flatMap_append]
  simp

/-- A row of cycles makes one retry or one event each, by induction on the row. -/
theorem length_posts {cycles : List Cycle} {times : List Nat} (each : times.length = cycles.length)
    (scheduler : Nat) (kind : Scheduler)
    : (posts scheduler kind cycles times).length + (cycles.filterMap (·.event?)).length
      = cycles.length := by
  induction cycles generalizing times with
  | nil => simp [posts]
  | cons cycle rest ih =>
      obtain ⟨now, later, rfl⟩ := List.exists_cons_of_length_eq_add_one each
      have first := cycle.length_posts scheduler kind now
      have shorter : later.length = rest.length := by simpa using each
      have others := ih shorter
      have events
          : ((cycle :: rest).filterMap (·.event?)).length
            = ([cycle].filterMap (·.event?)).length + (rest.filterMap (·.event?)).length := by
        rw [← List.length_append, ← List.filterMap_append, List.singleton_append]
      have posted
          : posts scheduler kind (cycle :: rest) (now :: later)
            = cycle.posts scheduler kind now ++ posts scheduler kind rest later := by
        simp only [posts, List.zip_cons_cons, List.flatMap_cons]
      rw [posted, events, List.length_append, List.length_cons]
      omega

end Coordinator

namespace World

variable {world : World} {number scheduler : Nat} {kind : Scheduler}

/-- A cycle adds what it posts to the pending retries, unless that runs at once. -/
theorem retries_cycled (number : Nat) (there : world.schedulers[scheduler]? = some kind)
    (queues : world.agenda.queues.length = world.schedulers.length) (cycle : Coordinator.Cycle)
    : (world.retries number ++ cycle.posts scheduler kind world.agenda.now).Perm
        ((if kind = .inline then cycle.posts scheduler kind world.agenda.now else [])
          ++ (world.cycled number scheduler cycle).retries number) := by
  cases decision : cycle.decision with
  | reschedule delay =>
      have posts : cycle.posts scheduler kind world.agenda.now
          = [kind.posted scheduler delay world.agenda.now] := by
        simp only [Coordinator.Cycle.posts, decision]
      rw [cycled_of_reschedule decision, posts]
      by_cases inline : kind = .inline
      · subst inline
        have inline : (world.recorded number cycle).schedulers[scheduler]? = some .inline := there
        rw [if_pos rfl, post_of_inline inline]
        exact List.perm_append_comm
      · rw [if_neg inline]
        have posted := (world.recorded number cycle).retries_post there queues inline delay number
          number
        rw [if_pos rfl] at posted
        exact List.perm_append_comm.trans posted.symm
  | launch | fail reason =>
      simp only [World.cycled, decision, Coordinator.Cycle.posts, ite_self, List.append_nil,
        List.nil_append]
      exact .refl _

/-- A cycle makes one event or one pending retry, unless its retry runs at once. -/
theorem kept_cycled (number : Nat) (there : world.schedulers[scheduler]? = some kind)
    (queues : world.agenda.queues.length = world.schedulers.length) (cycle : Coordinator.Cycle)
    : world.kept number + 1
      = ([cycle].filterMap (·.event?)).length + (world.cycled number scheduler cycle).kept number
        + if kind = .inline then (cycle.posts scheduler kind world.agenda.now).length else 0 := by
  have posted := (retries_cycled number there queues cycle).length_eq
  have one := cycle.length_posts scheduler kind world.agenda.now
  rw [List.length_append, List.length_append, length_retries, length_retries] at posted
  split at posted <;> simp only [*, ↓reduceIte, List.length_nil] at * <;> omega

/-- The books of a coordinator's retries over a row of its cycles, each made at its own time. What
was pending at first and what the cycles have posted on a scheduler was either taken off since, or
is pending as it was posted.
-/
structure Ledger (number scheduler : Nat) (kind : Scheduler) (first : World)
    (cycles : List Coordinator.Cycle) (times : List Nat) (taken : List Retry) (last : World)
    : Prop where
  each : times.length = cycles.length
  ordered : times.Pairwise (· ≤ ·)
  within : ∀ time ∈ times, first.agenda.now ≤ time ∧ time ≤ last.agenda.now
  balance
    : (first.retries number ++ Coordinator.posts scheduler kind cycles times).Perm
        (taken ++ last.retries number)

namespace Ledger

variable {first before after : World} {cycles : List Coordinator.Cycle} {times : List Nat}
  {taken off : List Retry}

/-- A rest adds nothing to what was posted. -/
theorem rest (ledger : Ledger number scheduler kind first cycles times taken before)
    (now : before.agenda.now ≤ after.agenda.now)
    (less : (before.retries number).Perm (off ++ after.retries number))
    : Ledger number scheduler kind first cycles times (taken ++ off) after where
  each := ledger.each
  ordered := ledger.ordered
  within time member :=
    ⟨(ledger.within time member).1, Nat.le_trans (ledger.within time member).2 now⟩
  balance := by
    rw [List.append_assoc]
    exact ledger.balance.trans (less.append_left taken)

/-- One more cycle posts what it has decided to, at the time that it is then. -/
theorem cycle (ledger : Ledger number scheduler kind first cycles times taken before)
    (begun : first.agenda.now ≤ before.agenda.now) (now : before.agenda.now ≤ after.agenda.now)
    {cycle : Coordinator.Cycle}
    (posted
      : (before.retries number ++ cycle.posts scheduler kind before.agenda.now).Perm
          (off ++ after.retries number))
    : Ledger number scheduler kind first (cycles ++ [cycle]) (times ++ [before.agenda.now])
        (taken ++ off) after where
  each := by rw [List.length_append, List.length_append, ledger.each]; rfl
  ordered := by
    refine List.pairwise_append.mpr ⟨ledger.ordered, List.pairwise_singleton _ _, ?_⟩
    intro time member same last
    rw [List.mem_singleton.mp last]
    exact (ledger.within time member).2
  within time member := by
    rcases List.mem_append.mp member with early | last
    · exact ⟨(ledger.within time early).1, Nat.le_trans (ledger.within time early).2 now⟩
    · rw [List.mem_singleton.mp last]
      exact ⟨begun, now⟩
  balance := by
    rw [Coordinator.posts_append_singleton ledger.each, ← List.append_assoc]
    refine (ledger.balance.append_right _).trans ?_
    rw [List.append_assoc, List.append_assoc]
    exact posted.append_left taken

/-- A retry that is not pending any more was tried in a cycle, or lost; all other cycles were called
for from outside.
-/
theorem tried (ledger : Ledger number scheduler kind first cycles times taken after)
    {called lost : Nat}
    (balance
      : first.kept number + called
        = (cycles.filterMap (·.event?)).length + after.kept number + lost)
    : taken.length + called = cycles.length + lost := by
  have books := ledger.balance.length_eq
  have posted := Coordinator.length_posts ledger.each scheduler kind
  rw [List.length_append, List.length_append, length_retries, length_retries] at books
  omega

end Ledger

namespace Course

variable {steady : Prop} {first last : World} {cycles : List Coordinator.Cycle}

/-- In a course every scheduler stays what it is, and the clock does not go back. -/
theorem keepsSchedulers (course : Course steady number first cycles last)
    : first.KeepsSchedulers last := by
  induction course with
  | start => exact .of_same rfl rfl rfl
  | rest _ rests ih => exact ih.trans rests.schedulers
  | cycle _ _ _ _ ih => exact ih.trans (.cycled _ _ _ _)

/-- The books of a course are in order, by induction on the course: a rest only takes retries off,
and a cycle posts what it has decided to.
-/
theorem ledger (course : Course steady number first cycles last) {coordinator : Coordinator}
    (there : first.coordinator? number = some coordinator)
    (keeps : first.schedulers[coordinator.scheduler]? = some kind)
    (queues : first.agenda.queues.length = first.schedulers.length)
    : ∃ times taken, Ledger number coordinator.scheduler kind first cycles times taken last := by
  induction course with
  | start => exact ⟨[], [], rfl, .nil, by simp, by simp [Coordinator.posts]⟩
  | rest _ rests ih =>
      obtain ⟨times, taken, ledger⟩ := ih
      obtain ⟨-, off, -, less⟩ := rests.retries
      exact ⟨times, taken ++ off, ledger.rest rests.schedulers.now less⟩
  | @cycle cycles before own cycle course live opened performs ih =>
      obtain ⟨times, taken, ledger⟩ := ih
      obtain ⟨after, found, performed⟩ := course.performed there
      obtain ⟨entry, -⟩ := live?_eq_some_iff.mp live
      obtain rfl := Option.some.inj (found.symm.trans entry)
      have early := course.keepsSchedulers
      -- the scheduler may keep other retries by now, but it is of the kind that it was
      obtain ⟨later, now, same⟩ := early.kind keeps
      rw [← performed.scheduler] at now
      have posted := retries_cycled number now
        (early.queues.trans (queues.trans early.length.symm)) cycle
      rw [cycle.posts_congr same, performed.scheduler] at posted
      rw [performed.scheduler]
      exact ⟨_, _, ledger.cycle early.now (KeepsSchedulers.cycled _ _ _ _).now posted⟩

end Course

end World

end UpdaterLaunch
