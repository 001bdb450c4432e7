import UpdaterLaunch.Budget

/-! What a row of decisions spends. Each launch counts one update and each launch that is put off
counts one retry, so the counters tell how many of either there were, and neither passes its limit.
-/

namespace UpdaterLaunch.Budget

/-- What has been spent after an answer for each of a row of cycles. -/
def spentAfter (budget : Budget) (spent : Counters) (answers : List Bool) : Counters :=
  answers.foldl (fun spent launchable => (budget.decide spent launchable).1) spent

/-- A budget covers what has been spent if neither of the limits is passed. -/
def Covers (budget : Budget) (spent : Counters) : Prop :=
  spent.updateTries ≤ budget.updateMax ∧ spent.launchTries ≤ budget.launchMax

/-- Every budget covers nothing. -/
theorem covers_none (budget : Budget) : budget.Covers {} := by
  constructor <;> exact UInt32.le_iff_toNat_le.mpr (Nat.zero_le _)

/-- The decisions on a row of answers are those on its first part, and then those on the rest from
what is spent by then.
-/
theorem decideAll_append (budget : Budget) (spent : Counters) (answers more : List Bool)
    : budget.decideAll spent (answers ++ more)
      = budget.decideAll spent answers
        ++ budget.decideAll (budget.spentAfter spent answers) more := by
  induction answers generalizing spent with
  | nil => rfl
  | cons launchable rest ih =>
      simp only [List.cons_append, decideAll, ih]
      rfl

/-- A decision counts one update if it is to launch, and one retry if it puts the launch off. -/
theorem decide_counts {budget : Budget} {spent after : Counters} {launchable : Bool}
    {decision : Decision} (h : budget.decide spent launchable = (after, decision))
    : after.updateTries.toNat
        = spent.updateTries.toNat + (if decision = .launch then 1 else 0)
      ∧ after.launchTries.toNat
        = spent.launchTries.toNat + if decision = .reschedule budget.delay then 1 else 0 := by
  unfold decide at h
  split at h
  · split at h
    · rename_i lt
      obtain ⟨rfl, rfl⟩ := Prod.mk.inj h
      simp [toNat_succ_of_lt lt]
    · obtain ⟨rfl, rfl⟩ := Prod.mk.inj h
      simp
  · split at h
    · rename_i lt
      obtain ⟨rfl, rfl⟩ := Prod.mk.inj h
      simp [toNat_succ_of_lt lt]
    · obtain ⟨rfl, rfl⟩ := Prod.mk.inj h
      simp

/-- A launch is decided on a good answer below the limit of updates, a retry on a bad one below the
limit of retries, and a failure at the limit.
-/
theorem decide_cases {budget : Budget} {spent after : Counters} {launchable : Bool}
    {decision : Decision} (h : budget.decide spent launchable = (after, decision))
    : (decision = .launch
        ∧ launchable = true
        ∧ spent.updateTries.toNat < budget.updateMax.toNat)
      ∨ (decision = .reschedule budget.delay
        ∧ launchable = false
        ∧ spent.launchTries.toNat < budget.launchMax.toNat)
      ∨ ((∃ reason, decision = .fail reason)
        ∧ if launchable then budget.updateMax.toNat ≤ spent.updateTries.toNat
          else budget.launchMax.toNat ≤ spent.launchTries.toNat) := by
  unfold decide at h
  cases launchable with
  | true =>
      simp only [↓reduceIte] at h
      split at h
      · rename_i lt
        obtain ⟨-, rfl⟩ := Prod.mk.inj h
        exact .inl ⟨rfl, rfl, UInt32.lt_iff_toNat_lt.mp lt⟩
      · rename_i least
        obtain ⟨-, rfl⟩ := Prod.mk.inj h
        exact .inr (.inr ⟨⟨_, rfl⟩, Nat.not_lt.mp fun lt => least (UInt32.lt_iff_toNat_lt.mpr lt)⟩)
  | false =>
      simp only [Bool.false_eq_true, ↓reduceIte] at h
      split at h
      · rename_i lt
        obtain ⟨-, rfl⟩ := Prod.mk.inj h
        exact .inr (.inl ⟨rfl, rfl, UInt32.lt_iff_toNat_lt.mp lt⟩)
      · rename_i least
        obtain ⟨-, rfl⟩ := Prod.mk.inj h
        exact .inr (.inr ⟨⟨_, rfl⟩, Nat.not_lt.mp fun lt => least (UInt32.lt_iff_toNat_lt.mpr lt)⟩)

/-- A decision never passes a limit, as it spends only below one. -/
theorem Covers.decide {budget : Budget} {spent : Counters} (covers : budget.Covers spent)
    (launchable : Bool)
    : budget.Covers (budget.decide spent launchable).1 := by
  obtain ⟨updates, launches⟩ := covers
  have next {used limit : UInt32} (lt : used < limit) : used + 1 ≤ limit := by
    have below := UInt32.lt_iff_toNat_lt.mp lt
    rw [UInt32.le_iff_toNat_le, toNat_succ_of_lt lt]
    exact below
  unfold Budget.decide
  split
  · split
    · rename_i lt
      exact ⟨next lt, launches⟩
    · exact ⟨updates, launches⟩
  · split
    · rename_i lt
      exact ⟨updates, next lt⟩
    · exact ⟨updates, launches⟩

/-- No row of decisions passes a limit. -/
theorem Covers.spentAfter {budget : Budget} {spent : Counters} (covers : budget.Covers spent)
    (answers : List Bool)
    : budget.Covers (budget.spentAfter spent answers) := by
  induction answers generalizing spent with
  | nil => exact covers
  | cons launchable rest ih => exact ih (covers.decide launchable)

/-- The counters after a row of decisions have gone up by its launches and by its launches put off,
by induction on the row.
-/
theorem spentAfter_counts (budget : Budget) (spent : Counters) (answers : List Bool)
    : (budget.spentAfter spent answers).updateTries.toNat
        = spent.updateTries.toNat
          + ((budget.decideAll spent answers).map (·.1)).count .launch
      ∧ (budget.spentAfter spent answers).launchTries.toNat
        = spent.launchTries.toNat
          + ((budget.decideAll spent answers).map (·.1)).count (.reschedule budget.delay) := by
  induction answers generalizing spent with
  | nil => exact ⟨rfl, rfl⟩
  | cons launchable rest ih =>
      rcases next : budget.decide spent launchable with ⟨after, decision⟩
      obtain ⟨updates, launches⟩ := decide_counts next
      obtain ⟨moreUpdates, moreLaunches⟩ := ih after
      have rows : budget.decideAll spent (launchable :: rest)
          = (decision, after) :: budget.decideAll after rest := by
        simp only [decideAll, next]
      have ends : budget.spentAfter spent (launchable :: rest) = budget.spentAfter after rest := by
        simp only [spentAfter, List.foldl_cons, next]
      rw [rows, ends, moreUpdates, moreLaunches, updates, launches]
      simp only [List.map_cons, List.count_cons, beq_iff_eq]
      omega

end UpdaterLaunch.Budget
