/-! Histories are lists that grow at their end. Much of what is told from a history is that
something has happened in it and that nothing since has undone it; with one more entry, this has
either begun with that entry or was so before and lasts.
-/

namespace UpdaterLaunch

universe u

variable {α : Type u} {history : List α} {last : α}

/-- An entry of a history with one more entry is that one, or lies within what was before. -/
theorem split_concat {early late : List α} {entry : α}
    (split : history ++ [last] = early ++ entry :: late)
    : (late = [] ∧ entry = last ∧ early = history)
      ∨ ∃ rest, late = rest ++ [last] ∧ history = early ++ entry :: rest := by
  rcases List.eq_nil_or_concat late with rfl | ⟨rest, other, rfl⟩
  · obtain ⟨rfl, same⟩ := List.append_inj' split rfl
    exact .inl ⟨rfl, (List.cons.inj same).1.symm, rfl⟩
  · rw [List.concat_eq_append, ← List.cons_append, ← List.append_assoc] at split
    obtain ⟨same, eq⟩ := List.append_inj' split rfl
    obtain rfl := (List.cons.inj eq).1
    exact .inr ⟨rest, List.concat_eq_append, same⟩

/-- Something has begun with an entry of a history, as what was before it has it, and all entries
since keep it up.
-/
def Since (begins : List α → α → Prop) (keeps : α → Prop) (history : List α) : Prop :=
  ∃ early entry late,
    history = early ++ entry :: late
    ∧ begins early entry
    ∧ ∀ other ∈ late, keeps other

theorem since_concat_iff {begins : List α → α → Prop} {keeps : α → Prop}
    : Since begins keeps (history ++ [last])
      ↔ begins history last ∨ (Since begins keeps history ∧ keeps last) := by
  constructor
  · rintro ⟨early, entry, late, split, begun, kept⟩
    rcases split_concat split with ⟨-, rfl, rfl⟩ | ⟨rest, rfl, before⟩
    · exact .inl begun
    · refine .inr ⟨⟨early, entry, rest, before, begun, fun other member => ?_⟩, ?_⟩
      · exact kept other (List.mem_append_left _ member)
      · exact kept last (by simp)
  · rintro (begun | ⟨⟨early, entry, late, rfl, begun, kept⟩, lasts⟩)
    · exact ⟨history, last, [], rfl, begun, by simp⟩
    · refine ⟨early, entry, late ++ [last], by simp, begun, fun other member => ?_⟩
      rcases List.mem_append.mp member with old | new
      · exact kept other old
      · exact List.mem_singleton.mp new ▸ lasts

end UpdaterLaunch
