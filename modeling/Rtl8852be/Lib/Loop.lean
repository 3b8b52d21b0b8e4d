import Mathlib.Tactic.Common

/-!
# Loops that need not end

A step gives the next state or a result. `iter` makes at most so many steps, and a loop returns
what some number of steps leads to.
-/

namespace Loop

variable {σ ρ : Type*} {step : σ → σ ⊕ ρ} {s s' : σ} {r r' : ρ}

def iter (step : σ → σ ⊕ ρ) : ℕ → σ → Option ρ
  | 0, _ => none
  | n + 1, s =>
    match step s with
    | .inl s' => iter step n s'
    | .inr r => some r

def Returns (step : σ → σ ⊕ ρ) (s : σ) (r : ρ) : Prop := ∃ n, iter step n s = some r

lemma returns_of_inr (h : step s = .inr r') : Returns step s r ↔ r' = r := by
  constructor
  · rintro ⟨_ | n, hn⟩
    · simp [iter] at hn
    · simpa [iter, h] using hn
  · rintro rfl
    exact ⟨1, by simp [iter, h]⟩

lemma returns_of_inl (h : step s = .inl s') : Returns step s r ↔ Returns step s' r := by
  constructor
  · rintro ⟨_ | n, hn⟩
    · simp [iter] at hn
    · exact ⟨n, by simpa [iter, h] using hn⟩
  · rintro ⟨n, hn⟩
    exact ⟨n + 1, by simpa [iter, h] using hn⟩

lemma Returns.rec_on {P : σ → ρ → Prop} (h : Returns step s r)
    (done : ∀ s r, step s = .inr r → P s r)
    (next : ∀ s s' r, step s = .inl s' → Returns step s' r → P s' r → P s r) : P s r := by
  obtain ⟨n, hn⟩ := h
  induction n generalizing s with
  | zero => simp [iter] at hn
  | succ n ih =>
    rcases hs : step s with s' | r'
    · have hn' : iter step n s' = some r := by simpa [iter, hs] using hn
      exact next s s' r hs ⟨n, hn'⟩ (ih hn')
    · obtain rfl : r' = r := by simpa [iter, hs] using hn
      exact done s r' hs

lemma not_returns_of_fixed (h : step s = .inl s) : ¬ Returns step s r := by
  rintro ⟨n, hn⟩
  induction n with
  | zero => simp [iter] at hn
  | succ n ih => exact ih (by simpa [iter, h] using hn)

end Loop
