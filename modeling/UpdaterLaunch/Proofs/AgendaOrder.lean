import UpdaterLaunch.Proofs.AgendaTasks

/-! The order in which an agenda gives turns. On its way the clock skips nobody: whoever is in line
is not overdue, whoever sleeps is not due yet, and the sleepers stand by due time. So a task that
runs does so at its due time.
-/

namespace UpdaterLaunch

universe u

namespace Agenda

variable {τ : Type u} {agenda after : Agenda τ}

-----------------------------------------------------------------------------------------
-- What an agenda does next
-----------------------------------------------------------------------------------------

theorem turn?_eq_none_iff : agenda.turn? = none ↔ agenda.ready = [] := by
  unfold turn?
  cases line : agenda.ready with
  | nil => simp
  | cons first rest =>
      dsimp only
      split
      · simp
      · split <;> simp

/-- What is woken is a turn, or the clock moves to the next due time while nobody is in line. -/
theorem wake?_cases {before : Nat} {task : Option τ} (h : agenda.wake? before = some (task, after))
    : agenda.Turn task after
      ∨ (task = none
        ∧ agenda.ready = []
        ∧ ∃ due, agenda.next? = some due ∧ due < before ∧ after = agenda.moveTo due) := by
  unfold wake? at h
  split at h
  · rename_i turn eq
    exact .inl (turn_of_turn? (eq.trans h))
  · rename_i nobody
    obtain ⟨due, next, eq⟩ := Option.map_eq_some_iff.mp h
    obtain ⟨rfl, rfl⟩ := Prod.mk.inj eq
    obtain ⟨first, within⟩ := Option.filter_eq_some_iff.mp next
    exact .inr ⟨rfl, turn?_eq_none_iff.mp nobody, due, first, by simpa using within, rfl⟩

theorem of_wake?_eq_none {before : Nat} (h : agenda.wake? before = none)
    : agenda.ready = [] ∧ ∀ due, agenda.next? = some due → before ≤ due := by
  unfold wake? at h
  split at h
  · simp at h
  · rename_i nobody
    refine ⟨turn?_eq_none_iff.mp nobody, ?_⟩
    intro due next
    simpa [next] using h

-----------------------------------------------------------------------------------------
-- Sleepers by due time
-----------------------------------------------------------------------------------------

/-- A task that is put among sleepers by due time has every relation to them that it has to those
due by then and to those due later.
-/
theorem pairwise_insertByDue {R : Posting τ → Posting τ → Prop} {posting : Posting τ}
    {postings : List (Posting τ)} (sorted : postings.Pairwise (·.due ≤ ·.due))
    (pairwise : postings.Pairwise R)
    (behind : ∀ other ∈ postings, other.due ≤ posting.due → R other posting)
    (ahead : ∀ other ∈ postings, posting.due < other.due → R posting other)
    : (insertByDue posting postings).Pairwise R := by
  fun_induction insertByDue posting postings with
  | case1 => exact List.pairwise_singleton _ _
  | case2 first rest le ih =>
      obtain ⟨firstSorted, restSorted⟩ := List.pairwise_cons.mp sorted
      obtain ⟨firstPairwise, restPairwise⟩ := List.pairwise_cons.mp pairwise
      refine List.pairwise_cons.mpr ⟨?_, ih restSorted restPairwise
        (fun other member => behind other (List.mem_cons_of_mem _ member))
        (fun other member => ahead other (List.mem_cons_of_mem _ member))⟩
      intro other member
      rcases mem_insertByDue_iff.mp member with rfl | old
      · exact behind first List.mem_cons_self le
      · exact firstPairwise other old
  | case3 first rest lt =>
      obtain ⟨firstSorted, -⟩ := List.pairwise_cons.mp sorted
      refine List.pairwise_cons.mpr ⟨?_, pairwise⟩
      intro other member
      apply ahead other member
      rcases List.mem_cons.mp member with rfl | later
      · exact Nat.lt_of_not_le lt
      · exact Nat.lt_of_lt_of_le (Nat.lt_of_not_le lt) (firstSorted other later)

/-- Of sleepers by due time, those that the clock has reached come first. -/
theorem parts_of_sorted {postings : List (Posting τ)} (sorted : postings.Pairwise (·.due ≤ ·.due))
    (now : Nat)
    : postings.takeWhile (·.due ≤ now) = postings.filter (·.due ≤ now)
      ∧ postings.dropWhile (·.due ≤ now) = postings.filter (now < ·.due) := by
  induction postings with
  | nil => exact ⟨rfl, rfl⟩
  | cons first rest ih =>
      obtain ⟨firstSorted, restSorted⟩ := List.pairwise_cons.mp sorted
      by_cases reached : first.due ≤ now
      · obtain ⟨woken, asleep⟩ := ih restSorted
        simp [reached, woken, asleep, Nat.not_lt.mpr reached]
      · have later (posting) (member : posting ∈ rest) : now < posting.due :=
          Nat.lt_of_lt_of_le (Nat.lt_of_not_le reached) (firstSorted posting member)
        have none : rest.filter (·.due ≤ now) = [] := by simpa using later
        have all : rest.filter (now < ·.due) = rest := by simpa using later
        simp [reached, none, all, Nat.lt_of_not_le reached]

theorem Turn.isLive {task : Option τ} (turn : agenda.Turn task after) (posting : Posting τ)
    : after.isLive posting = agenda.isLive posting := by
  cases turn with
  | silenced => rfl
  | runs => exact isLive_strike _ _ _
  | sleeps => rfl

theorem isLive_cancel_of_ne {queue : Nat} (agenda : Agenda τ) {posting : Posting τ}
    (ne : queue ≠ posting.queue)
    : (agenda.cancel queue).isLive posting = agenda.isLive posting := by
  simp [isLive, cancel, ne]

-----------------------------------------------------------------------------------------
-- Nobody is late
-----------------------------------------------------------------------------------------

/-- Nobody in line is overdue, nobody who is due sleeps, nobody silenced sleeps, and the sleepers
stand by due time.
-/
structure Orderly (agenda : Agenda τ) : Prop where
  line : ∀ posting ∈ agenda.ready, agenda.now ≤ posting.due
  asleep : ∀ posting ∈ agenda.sleepers, agenda.now < posting.due
  live : ∀ posting ∈ agenda.sleepers, agenda.isLive posting = true
  sorted : agenda.sleepers.Pairwise (·.due ≤ ·.due)

theorem Idle.orderly (idle : agenda.Idle) : agenda.Orderly := by
  constructor <;> simp [idle.ready, idle.sleepers]

namespace Orderly

/-- The next due time is that of the first to wake, and nobody is due earlier. -/
theorem next (orderly : agenda.Orderly) {due : Nat} (next : agenda.next? = some due)
    : ∀ posting ∈ agenda.sleepers, due ≤ posting.due := by
  obtain ⟨first, head, rfl⟩ := Option.map_eq_some_iff.mp next
  obtain ⟨rest, sleepers⟩ := List.head?_eq_some_iff.mp head
  have sorted := orderly.sorted
  rw [sleepers] at sorted ⊢
  intro posting member
  rcases List.mem_cons.mp member with rfl | later
  · exact Nat.le_refl _
  · exact (List.pairwise_cons.mp sorted).1 posting later

/-- If nobody is woken before a time, nobody is due before it. -/
theorem nobody (orderly : agenda.Orderly) {before : Nat} (nobody : agenda.wake? before = none)
    : agenda.ready = [] ∧ ∀ posting ∈ agenda.sleepers, before ≤ posting.due := by
  obtain ⟨line, next⟩ := of_wake?_eq_none nobody
  refine ⟨line, ?_⟩
  intro posting member
  obtain ⟨first, rest, sleepers⟩ := List.exists_cons_of_ne_nil (List.ne_nil_of_mem member)
  have head : agenda.next? = some first.due := by simp [Agenda.next?, sleepers]
  exact Nat.le_trans (next _ head) (orderly.next head posting member)

theorem post (orderly : agenda.Orderly) (queue delay : Nat) (task : τ)
    : (agenda.post queue delay task).Orderly := by
  have live : ∀ posting ∈ agenda.sleepers,
      (agenda.post queue delay task).isLive posting = true := by
    intro posting member
    rw [isLive_post]
    exact orderly.live posting member
  unfold Agenda.post at live ⊢
  split
  · exact orderly
  · rename_i q there
    rw [there] at live
    refine ⟨?_, orderly.asleep, live, orderly.sorted⟩
    intro posting member
    rcases List.mem_append.mp member with old | new
    · exact orderly.line posting old
    · rw [List.mem_singleton.mp new]
      exact Nat.le_add_right _ _

theorem cancel (orderly : agenda.Orderly) (queue : Nat) : (agenda.cancel queue).Orderly where
  line := orderly.line
  asleep posting member := orderly.asleep posting (List.mem_filter.mp member).1
  live posting member := by
    obtain ⟨asleep, other⟩ := List.mem_filter.mp member
    rw [isLive_cancel_of_ne _ (Ne.symm (of_decide_eq_true other))]
    exact orderly.live posting asleep
  sorted := orderly.sorted.filter _

theorem turn (orderly : agenda.Orderly) {task : Option τ} (turn : agenda.Turn task after)
    : after.Orderly := by
  have alive : ∀ posting, agenda.isLive posting = true → after.isLive posting = true := by
    intro posting live
    rwa [turn.isLive]
  have behind {first rest} (line : agenda.ready = first :: rest)
      : ∀ posting ∈ rest, agenda.now ≤ posting.due := by
    intro posting member
    apply orderly.line posting
    rw [line]
    exact List.mem_cons_of_mem _ member
  have asleep : ∀ posting ∈ agenda.sleepers, after.isLive posting = true :=
    fun posting member => alive posting (orderly.live posting member)
  cases turn with
  | silenced line dead => exact ⟨behind line, orderly.asleep, asleep, orderly.sorted⟩
  | runs line live due => exact ⟨behind line, orderly.asleep, asleep, orderly.sorted⟩
  | @sleeps first rest line live early =>
      refine ⟨behind line, ?_, ?_, ?_⟩
      · intro posting member
        rcases mem_insertByDue_iff.mp member with rfl | old
        · exact early
        · exact orderly.asleep posting old
      · intro posting member
        rcases mem_insertByDue_iff.mp member with rfl | old
        · exact live
        · exact orderly.live posting old
      · exact pairwise_insertByDue orderly.sorted orderly.sorted (fun _ _ le => le)
          fun _ _ lt => Nat.le_of_lt lt

/-- While nobody is in line, the clock may move to a time before which nobody is due; it wakes those
that are due at that very time.
-/
theorem clock (orderly : agenda.Orderly) (line : agenda.ready = []) {time : Nat}
    (early : ∀ posting ∈ agenda.sleepers, time ≤ posting.due)
    : (agenda.moveTo time).Orderly := by
  have due (posting) (member : posting ∈ agenda.sleepers) : max agenda.now time ≤ posting.due :=
    Nat.max_le.mpr ⟨Nat.le_of_lt (orderly.asleep posting member), early posting member⟩
  obtain ⟨woken, asleep⟩ := parts_of_sorted orderly.sorted (max agenda.now time)
  refine ⟨?_, ?_, ?_, ?_⟩
  · intro posting member
    simp only [moveTo, line, List.nil_append, woken] at member
    exact due posting (List.mem_filter.mp member).1
  · intro posting member
    simp only [moveTo, asleep] at member
    exact of_decide_eq_true (List.mem_filter.mp member).2
  · intro posting member
    exact orderly.live posting ((List.dropWhile_sublist _).subset member)
  · exact orderly.sorted.sublist (List.dropWhile_sublist _)

end Orderly

end Agenda

end UpdaterLaunch
