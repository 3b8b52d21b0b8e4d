import Mathlib.Data.List.Nodup

/-!
# Lists searched by a key

A linked list whose elements are found by a key: the first element with the key counts. With
distinct keys such a list is a finite map, and `get` says which.
-/

namespace Keyed

open List

variable {α κ : Type*} [DecidableEq κ] (key : α → κ)

def get (l : List α) (k : κ) : Option α := l.find? fun x => key x = k

def modify (k : κ) (f : α → α) : List α → List α
  | [] => []
  | x :: l => if key x = k then f x :: l else x :: modify k f l

def remove (k : κ) (l : List α) : List α := l.eraseP fun x => key x = k

def Distinct (l : List α) : Prop := (l.map key).Nodup

variable {key} {k k' : κ} {x y : α} {l : List α} {f : α → α}

@[simp] lemma get_nil : get key [] k = none := rfl

@[local simp]
lemma get_cons : get key (x :: l) k = if key x = k then some x else get key l k := by
  unfold get
  split_ifs with h <;> simp [h]

lemma mem_of_get (h : get key l k = some x) : x ∈ l := mem_of_find?_eq_some h

lemma key_of_get (h : get key l k = some x) : key x = k := by
  simpa using find?_some h

lemma get_eq_none : get key l k = none ↔ ∀ x ∈ l, key x ≠ k := by
  simp [get]

lemma get_append_singleton :
    get key (l ++ [x]) k = (get key l k).or (if key x = k then some x else none) := by
  unfold get
  rw [find?_append]
  split_ifs with h <;> simp [h]

omit [DecidableEq κ] in
lemma Distinct.eq_of_key (h : Distinct key l) (hx : x ∈ l) (hy : y ∈ l) (hk : key x = key y) :
    x = y :=
  inj_on_of_nodup_map h hx hy hk

lemma Distinct.get_of_mem (h : Distinct key l) (hx : x ∈ l) : get key l (key x) = some x := by
  rcases hg : get key l (key x) with _ | y
  · exact absurd rfl (get_eq_none.1 hg x hx)
  · rw [h.eq_of_key (mem_of_get hg) hx (key_of_get hg)]

lemma Distinct.cons (h : Distinct key l) (hx : get key l (key x) = none) :
    Distinct key (x :: l) := by
  refine nodup_cons.2 ⟨fun hmem => ?_, h⟩
  obtain ⟨y, hy, hk⟩ := mem_map.1 hmem
  exact get_eq_none.1 hx y hy hk

lemma Distinct.append_singleton (h : Distinct key l) (hx : get key l (key x) = none) :
    Distinct key (l ++ [x]) := by
  have hperm : (l ++ [x]).Perm (x :: l) := perm_append_singleton x l
  exact ((hperm.map key).nodup_iff).2 (h.cons hx)

lemma map_key_modify (hf : ∀ x, key (f x) = key x) : ∀ l : List α,
    (modify key k f l).map key = l.map key
  | [] => rfl
  | x :: l => by
    unfold modify
    split_ifs with h
    · simp [hf]
    · simp [map_key_modify hf l]

lemma Distinct.modify (h : Distinct key l) (hf : ∀ x, key (f x) = key x) :
    Distinct key (Keyed.modify key k f l) := by
  rwa [Distinct, map_key_modify hf]

lemma length_modify (k : κ) (f : α → α) : ∀ l : List α, (modify key k f l).length = l.length
  | [] => rfl
  | x :: l => by
    unfold modify
    split_ifs
    · rfl
    · simp [length_modify k f l]

lemma mem_modify : ∀ {l : List α}, y ∈ modify key k f l →
    y ∈ l ∨ ∃ x, get key l k = some x ∧ y = f x
  | [], h => nomatch h
  | x :: l, h => by
    unfold modify at h
    split_ifs at h with hk
    · rcases mem_cons.1 h with rfl | hmem
      · exact .inr ⟨x, by rw [get_cons, if_pos hk], rfl⟩
      · exact .inl (mem_cons_of_mem x hmem)
    · rcases mem_cons.1 h with rfl | hmem
      · exact .inl mem_cons_self
      · rcases mem_modify hmem with hold | ⟨x', hget, rfl⟩
        · exact .inl (mem_cons_of_mem x hold)
        · exact .inr ⟨x', by rw [get_cons, if_neg hk, hget], rfl⟩

lemma mem_modify_of_get (hget : get key l k = some x) (h : y ∈ modify key k f l) :
    y ∈ l ∨ y = f x := by
  rcases mem_modify h with hold | ⟨x', hget', rfl⟩
  · exact .inl hold
  · exact .inr (by rw [Option.some.inj (hget'.symm.trans hget)])

lemma get_modify_self (hf : ∀ x, key (f x) = key x) : ∀ l : List α,
    get key (modify key k f l) k = (get key l k).map f
  | [] => rfl
  | x :: l => by
    unfold modify
    split_ifs with h
    · simp [hf, h]
    · simp [h, get_modify_self hf l]

lemma get_modify_of_ne (hf : ∀ x, key (f x) = key x) (hk : k' ≠ k) : ∀ l : List α,
    get key (modify key k f l) k' = get key l k'
  | [] => rfl
  | x :: l => by
    unfold modify
    split_ifs with h
    · have hx : key x ≠ k' := fun he => hk (he.symm.trans h)
      simp [hf, hx]
    · simp [get_modify_of_ne hf hk l]

lemma modify_modify (hf : ∀ x, key (f x) = key x) (g : α → α) : ∀ l : List α,
    modify key k g (modify key k f l) = modify key k (fun x => g (f x)) l
  | [] => rfl
  | x :: l => by
    by_cases hx : key x = k
    · simp only [modify, if_pos hx, hf]
    · simp only [modify, if_neg hx, modify_modify hf g l]

lemma Distinct.remove (h : Distinct key l) : Distinct key (Keyed.remove key k l) :=
  h.sublist (eraseP_sublist.map key)

lemma get_remove_of_ne (hk : k' ≠ k) : ∀ l : List α, get key (remove key k l) k' = get key l k'
  | [] => rfl
  | x :: l => by
    have ih := get_remove_of_ne hk l
    unfold remove at ih ⊢
    by_cases h : key x = k
    · have hx : key x ≠ k' := fun he => hk (he.symm.trans h)
      rw [eraseP_cons_of_pos (by simpa using h), get_cons, if_neg hx]
    · rw [eraseP_cons_of_neg (by simpa using h), get_cons, get_cons, ih]

lemma Distinct.get_remove_self : ∀ {l : List α}, Distinct key l →
    get key (Keyed.remove key k l) k = none
  | [], _ => rfl
  | x :: l, h => by
    obtain ⟨hx, hl⟩ := nodup_cons.1 h
    unfold Keyed.remove
    by_cases hk : key x = k
    · rw [eraseP_cons_of_pos (by simpa using hk)]
      refine get_eq_none.2 fun y hy hky => hx ?_
      rw [hk, ← hky]
      exact mem_map_of_mem hy
    · rw [eraseP_cons_of_neg (by simpa using hk), get_cons, if_neg hk]
      exact Distinct.get_remove_self hl

lemma Distinct.mem_remove_iff : ∀ {l : List α}, Distinct key l →
    (y ∈ Keyed.remove key k l ↔ y ∈ l ∧ key y ≠ k)
  | [], _ => by simp [Keyed.remove]
  | x :: l, h => by
    obtain ⟨hx, hl⟩ := nodup_cons.1 h
    unfold Keyed.remove
    by_cases hk : key x = k
    · rw [eraseP_cons_of_pos (by simpa using hk), mem_cons]
      constructor
      · intro hy
        refine ⟨.inr hy, fun hky => hx ?_⟩
        rw [hk, ← hky]
        exact mem_map_of_mem hy
      · rintro ⟨rfl | hy, hky⟩
        · exact absurd hk hky
        · exact hy
    · rw [eraseP_cons_of_neg (by simpa using hk), mem_cons, mem_cons]
      have ih := Distinct.mem_remove_iff hl
      unfold Keyed.remove at ih
      rw [ih]
      constructor
      · rintro (rfl | ⟨hy, hky⟩)
        · exact ⟨.inl rfl, hk⟩
        · exact ⟨.inr hy, hky⟩
      · rintro ⟨rfl | hy, hky⟩
        · exact .inl rfl
        · exact .inr ⟨hy, hky⟩

lemma remove_modify (hf : ∀ x, key (f x) = key x) : ∀ l : List α,
    remove key k (modify key k f l) = remove key k l
  | [] => rfl
  | x :: l => by
    unfold modify remove
    split_ifs with h
    · rw [eraseP_cons_of_pos (by simpa [hf] using h), eraseP_cons_of_pos (by simpa using h)]
    · rw [eraseP_cons_of_neg (by simpa using h), eraseP_cons_of_neg (by simpa using h)]
      exact congrArg (x :: ·) (remove_modify hf l)

lemma Distinct.mem_modify_iff (h : Distinct key l) (hf : ∀ x, key (f x) = key x) :
    y ∈ Keyed.modify key k f l ↔ (y ∈ l ∧ key y ≠ k) ∨ ∃ x, get key l k = some x ∧ y = f x := by
  have hd := h.modify (k := k) hf
  by_cases hy : key y = k
  · -- an element with the key is the one that was changed
    constructor
    · intro hmem
      have hget := hd.get_of_mem hmem
      rw [hy, get_modify_self hf] at hget
      obtain ⟨x, hx, rfl⟩ := Option.map_eq_some_iff.1 hget
      exact .inr ⟨x, hx, rfl⟩
    · rintro (⟨-, hne⟩ | ⟨x, hx, rfl⟩)
      · exact absurd hy hne
      · exact mem_of_get (k := k) (by rw [get_modify_self hf, hx]; rfl)
  · have hleft : y ∈ Keyed.modify key k f l ↔ y ∈ Keyed.remove key k (Keyed.modify key k f l) := by
      rw [hd.mem_remove_iff]
      exact ⟨fun hmem => ⟨hmem, hy⟩, And.left⟩
    rw [hleft, remove_modify hf, h.mem_remove_iff]
    constructor
    · exact .inl
    · rintro (hmem | ⟨x, hx, rfl⟩)
      · exact hmem
      · exact absurd ((hf x).trans (key_of_get hx)) hy

lemma length_remove (h : get key l k = some x) : (remove key k l).length = l.length - 1 :=
  length_eraseP_of_mem (mem_of_get h) (by simpa using key_of_get h)

end Keyed
