import Mathlib.Data.List.Perm.Basic

/-!
# Lists in blocks of one key

`blocks key ks l` has the elements of `l` block by block, one block for each key of `ks`, and inside
a block in the order of `l`.
-/

namespace Blocks

open List

variable {α β : Type*} [DecidableEq β] (key : α → β)
variable {x : α} {k : β} {l : List α} {ks : List β}

def block (k : β) (l : List α) : List α := l.filter fun x => key x = k

def blocks (ks : List β) (l : List α) : List α := ks.flatMap fun k => block key k l

variable {key}

@[simp] lemma block_nil (k : β) : block key k [] = [] := rfl

@[simp] lemma block_append (k : β) (l l' : List α) :
    block key k (l ++ l') = block key k l ++ block key k l' := filter_append ..

lemma block_singleton_self (x : α) : block key (key x) [x] = [x] := by
  simp [block]

lemma block_singleton_of_ne (h : key x ≠ k) : block key k [x] = [] := by
  simp [block, h]

lemma mem_block : x ∈ block key k l ↔ x ∈ l ∧ key x = k := by
  simp [block]

lemma block_eq_nil : block key k l = [] ↔ ∀ x ∈ l, key x ≠ k := by
  simp [block, filter_eq_nil_iff]

@[simp] lemma blocks_nil_keys (l : List α) : blocks key [] l = [] := rfl

@[simp] lemma blocks_cons (k : β) (ks : List β) (l : List α) :
    blocks key (k :: ks) l = block key k l ++ blocks key ks l := flatMap_cons ..

lemma blocks_append_keys (ks ks' : List β) (l : List α) :
    blocks key (ks ++ ks') l = blocks key ks l ++ blocks key ks' l := flatMap_append ..

lemma blocks_congr {l' : List α} : ∀ {ks : List β},
    (∀ k ∈ ks, block key k l = block key k l') → blocks key ks l = blocks key ks l'
  | [], _ => rfl
  | k :: ks, h => by
    obtain ⟨hk, hks⟩ := forall_mem_cons.1 h
    rw [blocks_cons, blocks_cons, hk, blocks_congr hks]

lemma mem_blocks : x ∈ blocks key ks l ↔ x ∈ l ∧ key x ∈ ks := by
  simp only [blocks, mem_flatMap, mem_block]
  constructor
  · rintro ⟨k, hk, hx, rfl⟩
    exact ⟨hx, hk⟩
  · rintro ⟨hx, hk⟩
    exact ⟨key x, hk, hx, rfl⟩

lemma block_blocks : ∀ {ks : List β}, ks.Nodup → k ∈ ks →
    block key k (blocks key ks l) = block key k l
  | k' :: ks, hnd, hk => by
    obtain ⟨hk', hks⟩ := nodup_cons.1 hnd
    rw [blocks_cons, block_append]
    by_cases he : k = k'
    · subst he
      have hrest : block key k (blocks key ks l) = [] := by
        refine block_eq_nil.2 fun x hx hxk => ?_
        exact hk' (hxk ▸ (mem_blocks.1 hx).2)
      rw [hrest, append_nil]
      simp [block]
    · have hfirst : block key k (block key k' l) = [] := by
        refine block_eq_nil.2 fun x hx hxk => ?_
        exact he (hxk.symm.trans (mem_block.1 hx).2)
      rw [hfirst, nil_append, block_blocks hks ((mem_cons.1 hk).resolve_left he)]

lemma blocks_perm : ∀ {ks : List β} {l : List α}, ks.Nodup → (∀ x ∈ l, key x ∈ ks) →
    (blocks key ks l).Perm l
  | [], l, _, h => by
    have hl : l = [] := eq_nil_iff_forall_not_mem.2 fun x hx => by simpa using h x hx
    rw [hl]
    exact List.Perm.refl _
  | k :: ks, l, hnd, h => by
    obtain ⟨hk, hks⟩ := nodup_cons.1 hnd
    have hrest : blocks key ks l = blocks key ks (l.filter fun x => !decide (key x = k)) := by
      refine blocks_congr fun k' hk' => ?_
      rw [block, block, filter_filter]
      refine filter_congr fun x _ => ?_
      have hne : k' ≠ k := fun he => hk (he ▸ hk')
      by_cases hx : key x = k' <;> simp [hx, hne]
    have ih : (blocks key ks (l.filter fun x => !decide (key x = k))).Perm
        (l.filter fun x => !decide (key x = k)) := by
      refine blocks_perm hks fun x hx => ?_
      obtain ⟨hx, hne⟩ := mem_filter.1 hx
      exact (mem_cons.1 (h x hx)).resolve_left (by simpa using hne)
    rw [blocks_cons, hrest]
    exact (ih.append_left _).trans (filter_append_perm (fun x => decide (key x = k)) l)

lemma blocks_append_other (hx : key x ∉ ks) (l : List α) :
    blocks key ks (l ++ [x]) = blocks key ks l := by
  refine blocks_congr fun k hk => ?_
  have hne : key x ≠ k := fun he => hx (he ▸ hk)
  rw [block_append, block_singleton_of_ne hne, append_nil]

lemma blocks_append_new (hx : key x ∉ ks) (hl : block key (key x) l = []) :
    blocks key (ks ++ [key x]) (l ++ [x]) = blocks key ks l ++ [x] := by
  rw [blocks_append_keys, blocks_append_other hx]
  simp [block_singleton_self, hl]

lemma blocks_append_old (hnd : ks.Nodup) (hx : key x ∈ ks) (l : List α) :
    ∃ pre post, blocks key ks l = pre ++ block key (key x) l ++ post
      ∧ blocks key ks (l ++ [x]) = pre ++ (block key (key x) l ++ [x]) ++ post
      ∧ ∀ y ∈ pre, key y ≠ key x := by
  obtain ⟨ks₁, ks₂, rfl⟩ := append_of_mem hx
  obtain ⟨-, hnd₂, hdisj⟩ := nodup_append.1 hnd
  have h₁ : key x ∉ ks₁ := fun hmem => hdisj _ hmem _ mem_cons_self rfl
  have h₂ : key x ∉ ks₂ := (nodup_cons.1 hnd₂).1
  refine ⟨blocks key ks₁ l, blocks key ks₂ l, ?_, ?_, fun y hy he => ?_⟩
  · rw [blocks_append_keys, blocks_cons, append_assoc]
  · rw [blocks_append_keys, blocks_cons, blocks_append_other h₁, blocks_append_other h₂,
      block_append, block_singleton_self, ← append_assoc]
  · exact h₁ (he ▸ (mem_blocks.1 hy).2)

end Blocks
