import Mathlib.Data.Set.Insert

/-!
# Slots shared by key

Items that each stand in one of `n` slots, those with the same key in the same slot, and a memory
with a cell for each slot.
-/

structure SharedSlots {α κ : Type*} (slot : α → ℕ) (key : α → κ) (n : ℕ) (R : Set α) : Prop where
  lt : ∀ a ∈ R, slot a < n
  share : ∀ a ∈ R, ∀ b ∈ R, slot a = slot b ↔ key a = key b

namespace SharedSlots

variable {α κ : Type*} {slot : α → ℕ} {key : α → κ} {n : ℕ} {R R₀ : Set α} {a b : α}

section

variable (h : SharedSlots slot key n R)
include h

lemma mono (hsub : R₀ ⊆ R) : SharedSlots slot key n R₀ :=
  ⟨fun a ha => h.lt a (hsub ha), fun a ha b hb => h.share a (hsub ha) b (hsub hb)⟩

lemma insert (hlt : slot a < n) (hshare : ∀ b ∈ R, slot a = slot b ↔ key a = key b) :
    SharedSlots slot key n (Insert.insert a R) := by
  constructor
  · rintro b (rfl | hb)
    · exact hlt
    · exact h.lt b hb
  · rintro b (rfl | hb) c (rfl | hc)
    · simp
    · exact hshare c hc
    · rw [eq_comm, hshare b hb, eq_comm]
    · exact h.share b hb c hc

lemma insert_share (hb : b ∈ R) (hslot : slot a = slot b)
    (hkey : key a = key b) : SharedSlots slot key n (Insert.insert a R) := by
  refine h.insert (hslot ▸ h.lt b hb) fun c hc => ?_
  rw [hslot, hkey]
  exact h.share b hb c hc

lemma insert_fresh (hlt : slot a < n)
    (hslot : ∀ b ∈ R, slot b ≠ slot a) (hkey : ∀ b ∈ R, key b ≠ key a) :
    SharedSlots slot key n (Insert.insert a R) :=
  h.insert hlt fun b hb =>
    ⟨fun he => absurd he.symm (hslot b hb), fun he => absurd he.symm (hkey b hb)⟩

lemma replace (hb : b ∈ R) (hsub : R₀ ⊆ R) (hslot : slot a = slot b) (hkey : key a = key b) :
    SharedSlots slot key n (Insert.insert a R₀) :=
  (h.insert_share hb hslot hkey).mono (Set.insert_subset_insert hsub)

end

end SharedSlots

structure Mirrors {α κ : Type*} (slot : α → ℕ) (key : α → κ) (R : Set α)
    (image : ℕ → Option κ) : Prop where
  held : ∀ a ∈ R, image (slot a) = some (key a)
  owner : ∀ i k, image i = some k → ∃ a ∈ R, slot a = i

namespace Mirrors

open Function

variable {α κ : Type*} {slot : α → ℕ} {key : α → κ} {R R₀ : Set α} {image : ℕ → Option κ} {a b : α}

section

variable (h : Mirrors slot key R image)
include h

lemma key_eq (ha : a ∈ R) (hb : b ∈ R) (hslot : slot a = slot b) : key a = key b :=
  Option.some.inj ((h.held a ha).symm.trans (hslot ▸ h.held b hb))

lemma write (hsub : R₀ ⊆ R) (hkey : ∀ b ∈ R₀, slot b = slot a → key b = key a)
    (hleft : ∀ b ∈ R, slot b = slot a ∨ ∃ c ∈ R₀, slot c = slot b) :
    Mirrors slot key (insert a R₀) (update image (slot a) (some (key a))) := by
  constructor
  · rintro b (rfl | hb)
    · exact update_self _ _ _
    · by_cases hslot : slot b = slot a
      · rw [hslot, update_self, hkey b hb hslot]
      · rw [update_of_ne hslot]
        exact h.held b (hsub hb)
  · intro i k hk
    by_cases hi : i = slot a
    · exact ⟨a, Set.mem_insert a R₀, hi.symm⟩
    rw [update_of_ne hi] at hk
    obtain ⟨b, hb, rfl⟩ := h.owner i k hk
    obtain ⟨c, hc, hslot⟩ := (hleft b hb).resolve_left hi
    exact ⟨c, .inr hc, hslot⟩

lemma leave (hsub : R₀ ⊆ R)
    (hleft : ∀ b ∈ R, ∃ c ∈ R₀, slot c = slot b) : Mirrors slot key R₀ image := by
  refine ⟨fun a ha => h.held a (hsub ha), fun i k hk => ?_⟩
  obtain ⟨b, hb, rfl⟩ := h.owner i k hk
  exact hleft b hb

end

end Mirrors
