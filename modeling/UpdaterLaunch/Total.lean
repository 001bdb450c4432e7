/-! Sums of sizes over a list, as measures of what is still to come.
-/

namespace UpdaterLaunch

universe u

/-- The sizes of all items of a list together. -/
def total {α : Type u} (size : α → Nat) : List α → Nat
  | [] => 0
  | first :: rest => size first + total size rest

/-- The sizes of two lists in a row add up. -/
theorem total_append {α : Type u} (size : α → Nat) (items more : List α)
    : total size (items ++ more) = total size items + total size more := by
  induction items with
  | nil => simp [total]
  | cons first rest ih => simp only [List.cons_append, total, ih]; omega

/-- Leaving items out adds nothing. -/
theorem total_filter_le {α : Type u} (size : α → Nat) (kept : α → Bool) (items : List α)
    : total size (items.filter kept) ≤ total size items := by
  induction items with
  | nil => exact Nat.le_refl _
  | cons first rest ih =>
      simp only [List.filter_cons]
      split <;> simp only [total] <;> omega

/-- If each item is no larger by one measure than by another, all together are not either. -/
theorem total_le_total {α : Type u} {f g : α → Nat} (items : List α)
    (le : ∀ item, f item ≤ g item)
    : total f items ≤ total g items := by
  induction items with
  | nil => exact Nat.le_refl _
  | cons first rest ih =>
      have := le first
      simp only [total]
      omega

/-- Replacing an item changes the sum by the difference of the two. -/
theorem total_set {α : Type u} (size : α → Nat) {items : List α} {n : Nat} {old : α} (new : α)
    (h : items[n]? = some old)
    : total size (items.set n new) + size old = total size items + size new := by
  induction items generalizing n with
  | nil => simp at h
  | cons first rest ih =>
      cases n with
      | zero =>
          simp only [List.getElem?_cons_zero, Option.some.injEq] at h
          subst h
          simp only [List.set_cons_zero, total]
          omega
      | succ n =>
          have := ih (n := n) (by simpa using h)
          simp only [List.set_cons_succ, total]
          omega

end UpdaterLaunch
