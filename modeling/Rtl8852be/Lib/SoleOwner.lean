import Mathlib.Data.Set.Insert

/-!
# Resources with one owner each

Keys that may each have one resource of a shared store. `SoleOwner` says that what is in use in the
store is what the keys have, and that no resource has two owners.
-/

structure SoleOwner {κ ι : Type*} (has : κ → Option ι) (held : Set ι) : Prop where
  held_iff : ∀ i, i ∈ held ↔ ∃ k, has k = some i
  owner : ∀ k k' i, has k = some i → has k' = some i → k = k'

namespace SoleOwner

variable {κ ι : Type*} {has has' : κ → Option ι} {held held' : Set ι} {k : κ} {i : ι}

lemma empty (hhas : ∀ k, has k = none) (hheld : ∀ i, i ∉ held) : SoleOwner has held := by
  refine ⟨fun i => ⟨fun hi => absurd hi (hheld i), ?_⟩, fun k k' i hk => ?_⟩
  · rintro ⟨k, hk⟩
    rw [hhas k] at hk
    cases hk
  · rw [hhas k] at hk
    cases hk

section

variable (h : SoleOwner has held)
include h

lemma mem (hk : has k = some i) : i ∈ held := (h.held_iff i).2 ⟨k, hk⟩

lemma existsUnique (hi : i ∈ held) : ∃! k, has k = some i := by
  obtain ⟨k, hk⟩ := (h.held_iff i).1 hi
  exact ⟨k, hk, fun k' hk' => h.owner k' k i hk' hk⟩

lemma congr (hhas : ∀ k, has' k = has k)
    (hheld : ∀ i, i ∈ held' ↔ i ∈ held) : SoleOwner has' held' := by
  rwa [show has' = has from funext hhas, show held' = held from Set.ext hheld]

lemma take (hi : i ∉ held) (hk : has' k = some i)
    (hother : ∀ k' ≠ k, has' k' = has k') (hnone : has k = none)
    (hheld : ∀ j, j ∈ held' ↔ j = i ∨ j ∈ held) : SoleOwner has' held' := by
  have hfresh : ∀ k' ≠ k, has' k' ≠ some i := by
    intro k' hk' he
    rw [hother k' hk'] at he
    exact hi (h.mem he)
  refine ⟨fun j => ?_, fun k₁ k₂ j h₁ h₂ => ?_⟩
  · rw [hheld]
    constructor
    · rintro (rfl | hj)
      · exact ⟨k, hk⟩
      · obtain ⟨k', hk'⟩ := (h.held_iff j).1 hj
        have hne : k' ≠ k := by
          rintro rfl
          rw [hnone] at hk'
          cases hk'
        exact ⟨k', by rw [hother k' hne, hk']⟩
    · rintro ⟨k', hk'⟩
      by_cases hne : k' = k
      · rw [hne, hk] at hk'
        exact .inl (Option.some.inj hk').symm
      · rw [hother k' hne] at hk'
        exact .inr (h.mem hk')
  · by_cases hk₁ : k₁ = k <;> by_cases hk₂ : k₂ = k
    · rw [hk₁, hk₂]
    · rw [hk₁, hk] at h₁
      exact absurd (h₂.trans h₁.symm) (hfresh k₂ hk₂)
    · rw [hk₂, hk] at h₂
      exact absurd (h₁.trans h₂.symm) (hfresh k₁ hk₁)
    · rw [hother k₁ hk₁] at h₁
      rw [hother k₂ hk₂] at h₂
      exact h.owner k₁ k₂ j h₁ h₂

lemma release (gone : κ → Prop) (hgone : ∀ k, gone k → has' k = none)
    (hkept : ∀ k, ¬ gone k → has' k = has k)
    (hheld : ∀ i, i ∈ held' ↔ i ∈ held ∧ ∀ k, gone k → has k ≠ some i) : SoleOwner has' held' := by
  have hold : ∀ k i, has' k = some i → ¬ gone k ∧ has k = some i := by
    intro k i hk
    by_cases hg : gone k
    · rw [hgone k hg] at hk
      cases hk
    · exact ⟨hg, by rw [← hkept k hg, hk]⟩
  refine ⟨fun i => ?_, fun k k' i hk hk' => h.owner k k' i (hold k i hk).2 (hold k' i hk').2⟩
  rw [hheld]
  constructor
  · rintro ⟨hi, hnot⟩
    obtain ⟨k, hk⟩ := (h.held_iff i).1 hi
    exact ⟨k, by rw [hkept k fun hg => hnot k hg hk, hk]⟩
  · rintro ⟨k, hk⟩
    obtain ⟨hg, hki⟩ := hold k i hk
    refine ⟨h.mem hki, fun k' hg' hk' => hg ?_⟩
    rwa [h.owner k k' i hki hk']

end

end SoleOwner
