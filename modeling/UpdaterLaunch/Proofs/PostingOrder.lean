import UpdaterLaunch.Proofs.AgendaOrder

/-! The order of the tasks on one queue. They are numbered as they are posted, and of those due at
the same time the one posted first gets in line first, whether they have slept or not. So whoever
has a turn and is due precedes all that wait on its queue and all that is still to be posted there.
-/

namespace UpdaterLaunch

universe u

/-- A task precedes another if it is due earlier, or at the same time but was posted earlier. -/
def Posting.Precedes {τ : Type u} (posting other : Posting τ) : Prop :=
  posting.due < other.due ∨ posting.due = other.due ∧ posting.id < other.id

theorem Posting.Precedes.ne {τ : Type u} {posting other : Posting τ}
    (precedes : posting.Precedes other)
    : posting ≠ other := by
  rintro rfl
  rcases precedes with due | ⟨-, id⟩
  · exact Nat.lt_irrefl _ due
  · exact Nat.lt_irrefl _ id

namespace Agenda

variable {τ : Type u} {agenda after : Agenda τ}

/-- The task that is posted on a queue now. -/
def newPosting (agenda : Agenda τ) (queue : Nat) (q : Queue) (delay : Nat) (task : τ)
    : Posting τ :=
  { due := agenda.dueAfter delay, queue, id := q.nextId, generation := q.generation, task }

theorem Idle.waiting (idle : agenda.Idle) : agenda.waiting = [] := by
  rw [Agenda.waiting, idle.ready, idle.sleepers, List.append_nil]

theorem waiting_post {queue : Nat} {q : Queue} (there : agenda.queues[queue]? = some q)
    (delay : Nat) (task : τ)
    : (agenda.post queue delay task).waiting.Perm
        (agenda.newPosting queue q delay task :: agenda.waiting) := by
  simp only [waiting, post, there, List.append_assoc]
  exact List.perm_middle

theorem mem_waiting_post_iff {queue : Nat} {q : Queue} (there : agenda.queues[queue]? = some q)
    {delay : Nat} {task : τ} {posting : Posting τ}
    : posting ∈ (agenda.post queue delay task).waiting
      ↔ posting = agenda.newPosting queue q delay task ∨ posting ∈ agenda.waiting :=
  (waiting_post there delay task).mem_iff.trans List.mem_cons

-----------------------------------------------------------------------------------------
-- Numbers in posting order
-----------------------------------------------------------------------------------------

theorem nextId_post {queue : Nat} {q : Queue} (there : agenda.queues[queue]? = some q)
    (delay : Nat) (task : τ) (other : Nat)
    : (agenda.post queue delay task).nextId other
      = agenda.nextId other + if other = queue then 1 else 0 := by
  obtain ⟨inside, -⟩ := List.getElem?_eq_some_iff.mp there
  simp only [nextId, post, there]
  by_cases own : other = queue
  · subst own
    rw [List.getElem?_set_self inside, there]
    simp
  · simp [own, List.getElem?_set_ne (Ne.symm own)]

theorem nextId_cancel (agenda : Agenda τ) (queue other : Nat)
    : (agenda.cancel queue).nextId other = agenda.nextId other := by
  simp only [nextId, cancel, List.getElem?_modify]
  cases agenda.queues[other]? <;> simp only [Option.map_none, Option.map_some] <;> try rfl
  split <;> rfl

theorem nextId_strike (agenda : Agenda τ) (struck : Posting τ) (other : Nat)
    : (agenda.strike struck).nextId other = agenda.nextId other := by
  simp only [nextId, strike, List.getElem?_modify]
  cases agenda.queues[other]? <;> simp only [Option.map_none, Option.map_some] <;> try rfl
  split <;> rfl

theorem Turn.nextId {task : Option τ} (turn : agenda.Turn task after) (other : Nat)
    : after.nextId other = agenda.nextId other := by
  cases turn with
  | silenced => rfl
  | runs => exact nextId_strike _ _ _
  | sleeps => rfl

-----------------------------------------------------------------------------------------
-- The order of tasks on one queue
-----------------------------------------------------------------------------------------

/-- Besides, on each queue the tasks in line stand as they were posted, and so do sleepers that are
due at the same time; whoever has to go to sleep yet was posted after those who sleep.
-/
structure Ranked (agenda : Agenda τ) : Prop extends agenda.Orderly where
  numbered : ∀ posting ∈ agenda.waiting, posting.id < agenda.nextId posting.queue
  inLine : agenda.ready.Pairwise fun posting other =>
    posting.queue = other.queue → posting.id < other.id
  inSleep : agenda.sleepers.Pairwise fun posting other =>
    posting.queue = other.queue → posting.Precedes other
  newer : ∀ posting ∈ agenda.sleepers, ∀ other ∈ agenda.ready,
    posting.queue = other.queue → agenda.now < other.due → posting.id < other.id

theorem Idle.ranked (idle : agenda.Idle) : agenda.Ranked where
  toOrderly := idle.orderly
  numbered := by simp [idle.waiting]
  inLine := by simp [idle.ready]
  inSleep := by simp [idle.sleepers]
  newer := by simp [idle.sleepers]

namespace Ranked

theorem post (ranked : agenda.Ranked) {queue : Nat} {q : Queue}
    (there : agenda.queues[queue]? = some q) (delay : Nat) (task : τ)
    : (agenda.post queue delay task).Ranked := by
  have ready : (agenda.post queue delay task).ready
      = agenda.ready ++ [agenda.newPosting queue q delay task] := by
    simp only [Agenda.post, there]
    rfl
  have sleepers : (agenda.post queue delay task).sleepers = agenda.sleepers := by
    simp only [Agenda.post, there]
  have now : (agenda.post queue delay task).now = agenda.now := by
    simp only [Agenda.post, there]
  have newest (posting : Posting τ) (member : posting ∈ agenda.waiting)
      (same : posting.queue = queue)
      : posting.id < q.nextId := by
    have numbered := ranked.numbered posting member
    rw [same, nextId, there] at numbered
    exact numbered
  refine ⟨ranked.toOrderly.post queue delay task, ?_, ?_, ?_, ?_⟩
  · intro posting member
    rw [nextId_post there]
    rcases (mem_waiting_post_iff there).mp member with rfl | old
    · simp [newPosting, nextId, there]
    · exact Nat.lt_add_right _ (ranked.numbered posting old)
  · rw [ready]
    refine List.pairwise_append.mpr ⟨ranked.inLine, List.pairwise_singleton _ _, ?_⟩
    intro posting member other new same
    rw [List.mem_singleton.mp new] at same ⊢
    exact newest posting (List.mem_append_left _ member) same
  · rw [sleepers]
    exact ranked.inSleep
  · rw [ready, sleepers, now]
    intro posting asleep other member same early
    rcases List.mem_append.mp member with old | new
    · exact ranked.newer posting asleep other old same early
    · rw [List.mem_singleton.mp new] at same ⊢
      exact newest posting (List.mem_append_right _ asleep) same

theorem cancel (ranked : agenda.Ranked) (queue : Nat) : (agenda.cancel queue).Ranked where
  toOrderly := ranked.toOrderly.cancel queue
  numbered posting member := by
    rw [nextId_cancel]
    exact ranked.numbered posting (mem_waiting_cancel member)
  inLine := ranked.inLine
  inSleep := ranked.inSleep.filter _
  newer posting asleep := ranked.newer posting (List.mem_filter.mp asleep).1

theorem turn (ranked : agenda.Ranked) {task : Option τ} (turn : agenda.Turn task after)
    : after.Ranked := by
  have orderly := ranked.toOrderly.turn turn
  have numbered : ∀ posting ∈ after.waiting, posting.id < after.nextId posting.queue := by
    intro posting member
    rw [turn.nextId]
    exact ranked.numbered posting (turn.waiting_subset posting member)
  have behind {first : Posting τ} {rest : List (Posting τ)} (line : agenda.ready = first :: rest)
      : rest.Pairwise (fun posting other => posting.queue = other.queue → posting.id < other.id)
        ∧ ∀ posting ∈ agenda.sleepers, ∀ other ∈ rest,
            posting.queue = other.queue → agenda.now < other.due → posting.id < other.id := by
    have inLine := ranked.inLine
    have newer := ranked.newer
    rw [line] at inLine newer
    refine ⟨(List.pairwise_cons.mp inLine).2, ?_⟩
    intro posting asleep other member
    exact newer posting asleep other (List.mem_cons_of_mem _ member)
  cases turn with
  | silenced line dead =>
      exact ⟨orderly, numbered, (behind line).1, ranked.inSleep, (behind line).2⟩
  | runs line live due =>
      exact ⟨orderly, numbered, (behind line).1, ranked.inSleep, (behind line).2⟩
  | @sleeps first rest line live early =>
      have inLine := ranked.inLine
      rw [line] at inLine
      have head : first ∈ agenda.ready := by simp [line]
      refine ⟨orderly, numbered, (behind line).1, ?_, ?_⟩
      -- those who sleep already were posted before the one that joins them
      · refine pairwise_insertByDue ranked.sorted ranked.inSleep ?_ ?_
        · intro other asleep le same
          rcases Nat.lt_or_eq_of_le le with earlier | together
          · exact .inl earlier
          · exact .inr ⟨together, ranked.newer other asleep first head same early⟩
        · intro other asleep lt same
          exact .inl lt
      · intro posting asleep other member same later
        rcases mem_insertByDue_iff.mp asleep with rfl | old
        · exact (List.pairwise_cons.mp inLine).1 other member same
        · exact (behind line).2 posting old other member same later

/-- Whoever is woken together is due together, so they get in line as they were posted. -/
theorem clock (ranked : agenda.Ranked) (line : agenda.ready = []) {time : Nat}
    (early : ∀ posting ∈ agenda.sleepers, time ≤ posting.due)
    : (agenda.moveTo time).Ranked := by
  have orderly := ranked.toOrderly.clock line early
  obtain ⟨woken, asleep⟩ := parts_of_sorted ranked.sorted (max agenda.now time)
  have reached : ∀ posting ∈ (agenda.moveTo time).ready, posting.due = max agenda.now time := by
    intro posting member
    simp only [moveTo, line, List.nil_append, woken] at member
    obtain ⟨sleeper, le⟩ := List.mem_filter.mp member
    have := ranked.asleep posting sleeper
    have := early posting sleeper
    have := of_decide_eq_true le
    omega
  refine ⟨orderly, ?_, ?_, ?_, ?_⟩
  · rw [waiting_moveTo]
    exact ranked.numbered
  · have sub : (agenda.moveTo time).ready.Sublist agenda.sleepers := by
      simp only [moveTo, line, List.nil_append]
      exact List.takeWhile_sublist _
    refine (ranked.inSleep.sublist sub).imp_of_mem ?_
    intro posting other member otherMember precedes same
    rcases precedes same with due | ⟨-, id⟩
    · rw [reached posting member, reached other otherMember] at due
      exact absurd due (Nat.lt_irrefl _)
    · exact id
  · exact ranked.inSleep.sublist (List.dropWhile_sublist _)
  · intro posting _ other member _ later
    rw [reached other member] at later
    exact absurd later (Nat.lt_irrefl _)

end Ranked

/-- A task is past if it is not due any more, and precedes all of its queue that wait or are still
to be posted.
-/
structure Past (agenda : Agenda τ) (posting : Posting τ) : Prop where
  due : posting.due ≤ agenda.now
  numbered : posting.id < agenda.nextId posting.queue
  first : ∀ other ∈ agenda.waiting, other.queue = posting.queue → posting.Precedes other

theorem Past.of_subset {posting : Posting τ} (past : agenda.Past posting)
    (now : agenda.now ≤ after.now)
    (numbers : after.nextId posting.queue = agenda.nextId posting.queue)
    (subset : ∀ other ∈ after.waiting, other ∈ agenda.waiting)
    : after.Past posting where
  due := Nat.le_trans past.due now
  numbered := by
    rw [numbers]
    exact past.numbered
  first other member := past.first other (subset other member)

theorem Past.post {posting : Posting τ} (past : agenda.Past posting) {queue : Nat} {q : Queue}
    (there : agenda.queues[queue]? = some q) (delay : Nat) (task : τ)
    : (agenda.post queue delay task).Past posting := by
  have now : (agenda.post queue delay task).now = agenda.now := by simp only [Agenda.post, there]
  refine ⟨?_, ?_, ?_⟩
  · rw [now]
    exact past.due
  · rw [nextId_post there]
    exact Nat.lt_add_right _ past.numbered
  · intro other member same
    rcases (mem_waiting_post_iff there).mp member with rfl | old
    · have numbered := past.numbered
      rw [← same, nextId, newPosting, there] at numbered
      have due : posting.due ≤ (agenda.newPosting queue q delay task).due :=
        Nat.le_trans past.due (Nat.le_add_right _ _)
      rcases Nat.lt_or_eq_of_le due with earlier | together
      · exact .inl earlier
      · exact .inr ⟨together, numbered⟩
    · exact past.first other old same

/-- Whoever has a turn and is due precedes all others of its queue. -/
theorem Ranked.past_of_run (ranked : agenda.Ranked) {first : Posting τ}
    {rest : List (Posting τ)} (line : agenda.ready = first :: rest) (due : first.due ≤ agenda.now)
    : ({ agenda with ready := rest }.strike first).Past first := by
  have head : first ∈ agenda.ready := by simp [line]
  refine ⟨due, ?_, ?_⟩
  · rw [nextId_strike]
    exact ranked.numbered first (List.mem_append_left _ head)
  · intro other member same
    have punctual : first.due = agenda.now := Nat.le_antisymm due (ranked.line first head)
    rcases List.mem_append.mp member with behind | asleep
    · have inLine := ranked.inLine
      rw [line] at inLine
      have later : agenda.now ≤ other.due := ranked.line other (by
        rw [line]
        exact List.mem_cons_of_mem _ behind)
      rcases Nat.lt_or_eq_of_le (punctual ▸ later) with earlier | together
      · exact .inl earlier
      · exact .inr ⟨together, (List.pairwise_cons.mp inLine).1 other behind same.symm⟩
    · exact .inl (punctual ▸ ranked.asleep other asleep)

end Agenda

end UpdaterLaunch
