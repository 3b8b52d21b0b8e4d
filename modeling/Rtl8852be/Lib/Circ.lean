import Mathlib.Data.Nat.ModEq

/-!
# Circular buffers

The `k`-th item put into a buffer of `N` slots, counting from zero, goes to slot `(k + o) % N`: an
index that starts at zero is used as it is when `o = 0`, and advanced before it is used when `o =
1`.
-/

namespace Circ

open Function List

variable {β : Type*} {N o : ℕ} {entry : ℕ → Option β} {items : List β} {got : ℕ}
variable {x : β} {l : List β}

lemma mod_ne {k m : ℕ} (h : k < m) (hN : m < k + N) : k % N ≠ m % N := by
  intro he
  have hd : N ∣ m - k := (Nat.modEq_iff_dvd' h.le).1 he
  have := Nat.le_of_dvd (by omega) hd
  omega

lemma add_mod_eq (c : ℕ) {d : ℕ} (hd : d < N) :
    (c + d) % N = if c % N + d < N then c % N + d else c % N + d - N := by
  have hc := Nat.mod_lt c (by omega : 0 < N)
  rw [← Nat.mod_add_mod]
  split_ifs with h
  · exact Nat.mod_eq_of_lt h
  · rw [Nat.mod_eq_sub_mod (by omega), Nat.mod_eq_of_lt (by omega)]

lemma wrap_succ (k : ℕ) (hN : 0 < N) :
    (if N ≤ k % N + 1 then 0 else k % N + 1) = (k + 1) % N := by
  have hlt := Nat.mod_lt k hN
  rcases Nat.lt_or_ge 1 N with h1 | h1
  · rw [add_mod_eq k h1]
    split_ifs <;> omega
  · have : N = 1 := by omega
    subst this
    simp [Nat.mod_one]

lemma getElem?_concat_cases {i : ℕ} {y : β} (h : (l ++ [x])[i]? = some y) :
    l[i]? = some y ∨ i = l.length ∧ y = x := by
  rcases Nat.lt_trichotomy i l.length with hlt | rfl | hgt
  · rw [getElem?_append_left hlt] at h
    exact .inl h
  · rw [getElem?_concat_length] at h
    cases h
    exact .inr ⟨rfl, rfl⟩
  · rw [getElem?_eq_none (by rw [length_append, length_singleton]; omega)] at h
    cases h

structure Fifo (o N : ℕ) (entry : ℕ → Option β) (items : List β) (got : ℕ) : Prop where
  got_le : got ≤ items.length
  held : ∀ k x, got ≤ k → items[k]? = some x → entry ((k + o) % N) = some x

lemma Fifo.start (o N : ℕ) (entry : ℕ → Option β) : Fifo o N entry [] 0 :=
  ⟨le_rfl, fun _ _ _ h => by simp at h⟩

section

variable (h : Fifo o N entry items got)
include h

lemma Fifo.write (hroom : items.length < got + N) (v : Option β) :
    Fifo o N (update entry ((items.length + o) % N) v) items got := by
  refine ⟨h.got_le, fun k y hk hy => ?_⟩
  have hlt := (List.getElem?_eq_some_iff.1 hy).1
  rw [update_of_ne (mod_ne (by omega) (by omega))]
  exact h.held k y hk hy

lemma Fifo.commit (hx : entry ((items.length + o) % N) = some x) :
    Fifo o N entry (items ++ [x]) got := by
  have hle := h.got_le
  refine ⟨by rw [length_append]; omega, fun k y hk hy => ?_⟩
  rcases getElem?_concat_cases hy with hy | ⟨rfl, rfl⟩
  · exact h.held k y hk hy
  · exact hx

lemma Fifo.push (hroom : items.length < got + N) (x : β) :
    Fifo o N (update entry ((items.length + o) % N) (some x)) (items ++ [x]) got :=
  (h.write hroom (some x)).commit (update_self ..)

lemma Fifo.next (hlt : got < items.length) :
    ∃ x, items[got]? = some x ∧ entry ((got + o) % N) = some x := by
  obtain ⟨x, hx⟩ : ∃ x, items[got]? = some x := ⟨_, getElem?_eq_getElem hlt⟩
  exact ⟨x, hx, h.held got x le_rfl hx⟩

lemma Fifo.take (hlt : got < items.length) : Fifo o N entry items (got + 1) :=
  ⟨hlt, fun k x hk hx => h.held k x (by omega) hx⟩

lemma Fifo.take_clear (hlt : got < items.length) (hroom : items.length < got + 1 + N) :
    Fifo o N (update entry ((got + o) % N) none) items (got + 1) := by
  refine ⟨hlt, fun k x hk hx => ?_⟩
  have hk' := (List.getElem?_eq_some_iff.1 hx).1
  rw [update_of_ne (mod_ne (by omega) (by omega)).symm]
  exact h.held k x (by omega) hx

end

lemma getElem?_of_prefix {l' : List β} {i : ℕ} (hp : l <+: l') (h : l[i]? = some x) :
    l'[i]? = some x := by
  obtain ⟨t, rfl⟩ := hp
  rwa [List.getElem?_append_left (List.getElem?_eq_some_iff.1 h).1]

lemma prefix_succ {l' : List β} (hp : l' <+: l) (h : l[l'.length]? = some x) :
    l' ++ [x] <+: l := by
  have htake : l.take (l'.length + 1) = l' ++ [x] := by
    rw [take_add_one, h, ← prefix_iff_eq_take.1 hp]
    rfl
  rw [← htake]
  exact take_prefix _ _

end Circ
