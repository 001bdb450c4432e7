import UpdaterLaunch.Proofs.BudgetAccounting

/-! How a row of answers shares a budget. A good answer asks for an update and a bad one for a
retry; of either kind the first ones get what is left of their share, and all later ones are
refused. So a decision depends on the earlier answers of its own kind, and on no others.
-/

namespace UpdaterLaunch

/-- What has been spent for answers of one kind: updates for good ones, retries for bad ones. -/
def Counters.tries (spent : Counters) : Bool → UInt32
  | true => spent.updateTries
  | false => spent.launchTries

namespace Budget

/-- How much may be spent for answers of one kind. -/
def limit (budget : Budget) : Bool → UInt32
  | true => budget.updateMax
  | false => budget.launchMax

/-- What is left for answers of one kind; nothing if more is spent than the budget allows. -/
def share (budget : Budget) (spent : Counters) (kind : Bool) : Nat :=
  (budget.limit kind).toNat - (spent.tries kind).toNat

/-- The decision on an answer, told from how many of its kind came before it. -/
def ruling (budget : Budget) (spent : Counters) (earlier : Nat) : Bool → Decision
  | true => if earlier < budget.share spent true then .launch else .fail .updateRetries
  | false =>
      if earlier < budget.share spent false then .reschedule budget.delay
      else .fail .launchRetries

/-- The decisions on the answers of one kind, in order. -/
def decisionsOn (budget : Budget) (kind : Bool) (spent : Counters) (answers : List Bool)
    : List Decision :=
  ((answers.zip (budget.decideAll spent answers)).filter (·.1 = kind)).map (·.2.1)

-----------------------------------------------------------------------------------------
-- One decision
-----------------------------------------------------------------------------------------

/-- The decision on an answer is the ruling on the first one of its kind. -/
theorem decide_ruling (budget : Budget) (spent : Counters) (launchable : Bool)
    : (budget.decide spent launchable).2 = budget.ruling spent 0 launchable := by
  cases launchable <;>
    simp only [decide, ruling, share, limit, Counters.tries, UInt32.lt_iff_toNat_lt,
      Nat.sub_pos_iff_lt, Bool.false_eq_true, ↓reduceIte] <;>
    split <;> rfl

/-- A decision spends one of the share of its own kind, if there is any left, and nothing else. -/
theorem decide_tries (budget : Budget) (spent : Counters) (launchable kind : Bool)
    : ((budget.decide spent launchable).1.tries kind).toNat
      = (spent.tries kind).toNat
        + if launchable = kind ∧ 0 < budget.share spent kind then 1 else 0 := by
  obtain ⟨updates, launches⟩ := decide_counts (Prod.eta (budget.decide spent launchable)).symm
  rw [decide_ruling] at updates launches
  cases kind with
  | true =>
      rw [Counters.tries, updates]
      cases launchable <;> simp only [ruling, Counters.tries] <;> split <;> simp_all
  | false =>
      rw [Counters.tries, launches]
      cases launchable <;> simp only [ruling, Counters.tries] <;> split <;> simp_all

/-- Each answer takes one from the share of its kind, down to nothing. -/
theorem share_decide (budget : Budget) (spent : Counters) (launchable kind : Bool)
    : budget.share (budget.decide spent launchable).1 kind
      = budget.share spent kind - if launchable = kind then 1 else 0 := by
  rw [share, decide_tries, share]
  by_cases own : launchable = kind
  · simp only [own, true_and, ↓reduceIte]
    split <;> omega
  · simp [own]

/-- After an answer the rulings on its kind are those on one more earlier answer. -/
theorem ruling_decide (budget : Budget) (spent : Counters) (earlier : Nat)
    (launchable kind : Bool)
    : budget.ruling (budget.decide spent launchable).1 earlier kind
      = budget.ruling spent (earlier + if launchable = kind then 1 else 0) kind := by
  cases kind <;> simp only [ruling, share_decide, Nat.lt_sub_iff_add_lt]

/-- A ruling grants what its answer asks for while the share of the kind lasts, and refuses it with
the cause of the kind from then on.
-/
theorem ruling_iff (budget : Budget) (spent : Counters) (earlier : Bool → Nat) (launchable : Bool)
    : let decision := budget.ruling spent (earlier launchable) launchable
      (decision = .launch ↔ launchable = true ∧ earlier true < budget.share spent true)
      ∧ (decision = .fail .updateRetries
          ↔ launchable = true ∧ budget.share spent true ≤ earlier true)
      ∧ (decision = .reschedule budget.delay
          ↔ launchable = false ∧ earlier false < budget.share spent false)
      ∧ (decision = .fail .launchRetries
          ↔ launchable = false ∧ budget.share spent false ≤ earlier false) := by
  cases launchable <;> simp only [ruling] <;> split <;> simp_all

-----------------------------------------------------------------------------------------
-- A row of decisions
-----------------------------------------------------------------------------------------

/-- The counter of a kind goes up with every answer of that kind until its share is empty, by
induction on the row.
-/
theorem tries_spentAfter (budget : Budget) (spent : Counters) (answers : List Bool) (kind : Bool)
    : ((budget.spentAfter spent answers).tries kind).toNat
      = (spent.tries kind).toNat + min (answers.count kind) (budget.share spent kind) := by
  induction answers generalizing spent with
  | nil => simp [spentAfter]
  | cons launchable rest ih =>
      have rows : budget.spentAfter spent (launchable :: rest)
          = budget.spentAfter (budget.decide spent launchable).1 rest := rfl
      rw [rows, ih, share_decide, decide_tries, List.count_cons]
      by_cases own : launchable = kind
      · simp only [own, true_and, ↓reduceIte, beq_self_eq_true]
        split <;> omega
      · simp [own]

/-- Every answer is decided on. -/
theorem length_decideAll (budget : Budget) (spent : Counters) (answers : List Bool)
    : (budget.decideAll spent answers).length = answers.length := by
  induction answers generalizing spent with
  | nil => rfl
  | cons launchable rest ih => simp [decideAll, ih]

/-- Each decision is the ruling on its answer and the earlier ones of its kind, and shows what is
spent by then. By induction on the row.
-/
theorem getElem?_decideAll {budget : Budget} {spent : Counters} {answers : List Bool} {i : Nat}
    {launchable : Bool} (answered : answers[i]? = some launchable)
    : (budget.decideAll spent answers)[i]?
      = some (budget.ruling spent ((answers.take i).count launchable) launchable,
          budget.spentAfter spent (answers.take (i + 1))) := by
  induction answers generalizing spent i with
  | nil => simp at answered
  | cons first rest ih =>
      cases i with
      | zero =>
          obtain rfl : first = launchable := by simpa using answered
          simp [decideAll, spentAfter, decide_ruling]
      | succ i =>
          have next : (budget.decideAll (budget.decide spent first).1 rest)[i]? = _ :=
            ih (by simpa using answered)
          have earlier : ((first :: rest).take (i + 1)).count launchable
              = (rest.take i).count launchable + if first = launchable then 1 else 0 := by
            simp [List.count_cons]
          rw [earlier, ← ruling_decide]
          simpa [decideAll, spentAfter] using next

/-- Of the answers of one kind, the first ones are granted what they ask for, as many as are left of
their share, and the others are refused: the answers of the other kind make no difference. By
induction on the row.
-/
theorem decisionsOn_eq (budget : Budget) (kind : Bool) (spent : Counters) (answers : List Bool)
    : budget.decisionsOn kind spent answers
      = (List.range (answers.count kind)).map (budget.ruling spent · kind) := by
  induction answers generalizing spent with
  | nil => rfl
  | cons first rest ih =>
      have rows : budget.decisionsOn kind spent (first :: rest)
          = (if first = kind then [(budget.decide spent first).2] else [])
            ++ budget.decisionsOn kind (budget.decide spent first).1 rest := by
        by_cases own : first = kind <;> simp [decisionsOn, decideAll, own]
      rw [rows, ih]
      by_cases own : first = kind
      · subst own
        simp [List.range_succ_eq_map, decide_ruling, ruling_decide]
      · simp [own, ruling_decide]

/-- Where a share is not empty yet, there is room for one more in its counter. -/
theorem tries_spentAfter_lt {budget : Budget} {spent : Counters} {answers : List Bool} {kind : Bool}
    (left : answers.count kind < budget.share spent kind)
    : ((budget.spentAfter spent answers).tries kind).toNat + 1 < UInt32.size := by
  have most := (budget.limit kind).toNat_lt
  rw [tries_spentAfter, Nat.min_eq_left (Nat.le_of_lt left)]
  unfold share at left
  simp only [UInt32.size]
  omega

/-- The exact law of a row of decisions, from any counters, below or above the limits. An answer is
granted what it asks for as long as fewer of its kind came before it than are left of its share, and
refused with the cause of its kind otherwise. Each step shows the counters reached by then, and what
is granted still fits them; at the end they have gone up by the answers of their kind, but by no
more than was left, so they stay below the larger of start and limit. Two rows with as many answers
of one kind get the same decisions on these, however the others are mixed in.
-/
theorem decisions_by_share (budget : Budget) (spent : Counters) (answers : List Bool)
    : let updatesLeft := budget.updateMax.toNat - spent.updateTries.toNat
      let retriesLeft := budget.launchMax.toNat - spent.launchTries.toNat
      let after := budget.spentAfter spent answers
      (budget.decideAll spent answers).length = answers.length
      ∧ (∀ i launchable, answers[i]? = some launchable
          → let before := budget.spentAfter spent (answers.take i)
            let updates := (answers.take i).count true
            let retries := (answers.take i).count false
            ∃ decision,
              (budget.decideAll spent answers)[i]?
                = some (decision, budget.spentAfter spent (answers.take (i + 1)))
              ∧ (decision = .launch ↔ launchable = true ∧ updates < updatesLeft)
              ∧ (decision = .fail .updateRetries ↔ launchable = true ∧ updatesLeft ≤ updates)
              ∧ (decision = .reschedule budget.delay
                  ↔ launchable = false ∧ retries < retriesLeft)
              ∧ (decision = .fail .launchRetries
                  ↔ launchable = false ∧ retriesLeft ≤ retries)
              ∧ (decision = .launch → before.updateTries.toNat + 1 < UInt32.size)
              ∧ (decision = .reschedule budget.delay
                  → before.launchTries.toNat + 1 < UInt32.size))
      ∧ after.updateTries.toNat = spent.updateTries.toNat + min (answers.count true) updatesLeft
      ∧ after.launchTries.toNat
        = spent.launchTries.toNat + min (answers.count false) retriesLeft
      ∧ after.updateTries.toNat ≤ max spent.updateTries.toNat budget.updateMax.toNat
      ∧ after.launchTries.toNat ≤ max spent.launchTries.toNat budget.launchMax.toNat
      ∧ ∀ kind more, more.count kind = answers.count kind
          → budget.decisionsOn kind spent more = budget.decisionsOn kind spent answers := by
  intro updatesLeft retriesLeft after
  have updates : after.updateTries.toNat = _ := budget.tries_spentAfter spent answers true
  have retries : after.launchTries.toNat = _ := budget.tries_spentAfter spent answers false
  have within {used count most : Nat} : used + min count (most - used) ≤ max used most := by
    omega
  refine ⟨budget.length_decideAll spent answers, ?_, updates, retries, ?_, ?_, ?_⟩
  · intro i launchable answered before _ _
    refine ⟨_, getElem?_decideAll answered, ?_⟩
    have room (kind : Bool) (left : (answers.take i).count kind < budget.share spent kind)
        : (before.tries kind).toNat + 1 < UInt32.size :=
      tries_spentAfter_lt left
    obtain ⟨launch, spentUpdates, putOff, spentRetries⟩ :=
      budget.ruling_iff spent (answers.take i).count launchable
    refine ⟨launch, spentUpdates, putOff, spentRetries, ?_, ?_⟩
    · exact fun launches => room true (launch.mp launches).2
    · exact fun waits => room false (putOff.mp waits).2
  · rw [updates]
    exact within
  · rw [retries]
    exact within
  · intro kind more alike
    rw [decisionsOn_eq, decisionsOn_eq, alike]

/-- One update is left of all that 32 bits can count, and more retries are spent than there are: the
first good answer launches, the second does not, and both bad ones are refused.
-/
theorem decisions_by_share_past_limits
    : let budget : Budget := .ofMillis 2 4294967295 100
      let spent : Counters := { updateTries := 4294967294, launchTries := 5 }
      let answers := [false, true, false, true]
      answers[3]? = some true
      ∧ (budget.decideAll spent answers)[3]?
        = some (.fail .updateRetries, budget.spentAfter spent answers)
      ∧ (budget.spentAfter spent answers).updateTries.toNat = 4294967295
      ∧ (budget.spentAfter spent answers).launchTries.toNat = 5
      ∧ [true, true].count true = answers.count true
      ∧ budget.decisionsOn true spent [true, true] = budget.decisionsOn true spent answers := by
  intro budget spent answers
  have last : answers[3]? = some true := rfl
  have alike : [true, true].count true = answers.count true := rfl
  obtain ⟨-, each, updates, retries, -, -, mixed⟩ := decisions_by_share budget spent answers
  obtain ⟨decision, shown, -, refused, -⟩ := each 3 true last
  have spentUp : decision = .fail .updateRetries := refused.mpr ⟨rfl, by decide⟩
  exact ⟨last, spentUp ▸ shown, updates.trans (by decide), retries.trans (by decide), alike,
    mixed true [true, true] alike⟩

end Budget

end UpdaterLaunch
