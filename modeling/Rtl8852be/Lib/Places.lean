import Rtl8852be.Lib.CntQueue

/-!
# Items in one of several queues

Each item of a pool is in exactly one queue, and an operation takes an item out of one and puts it
into another.
-/

namespace Places

open Function

variable {α κ : Type*}

/-- Each element of the pool is in one place, once. -/
structure Placed (pool : α → Prop) (q : κ → CntQueue α) : Prop where
  cover : ∀ x, pool x ↔ ∃ k, x ∈ (q k).items
  unique : ∀ {x k k'}, x ∈ (q k).items → x ∈ (q k').items → k = k'
  nodup : ∀ k, (q k).items.Nodup
  counted : ∀ k, (q k).Counted

variable {pool : α → Prop} {q q' : κ → CntQueue α} {k k' : κ} {x y : α}

lemma Placed.exists_unique (h : Placed pool q) (hx : pool x) : ∃! k, x ∈ (q k).items := by
  obtain ⟨k, hk⟩ := (h.cover x).1 hx
  exact ⟨k, hk, fun k' hk' => h.unique hk' hk⟩

lemma Placed.reorder (h : Placed pool q) (hperm : ∀ k, (q' k).items.Perm (q k).items)
    (hcnt : ∀ k, (q' k).Counted) : Placed pool q' where
  cover := fun x => by simp only [(hperm _).mem_iff, h.cover x]
  unique := fun hx hx' => h.unique ((hperm _).mem_iff.1 hx) ((hperm _).mem_iff.1 hx')
  nodup := fun k => (hperm k).nodup_iff.2 (h.nodup k)
  counted := hcnt

/-- The items `xs` leave the queue `k` for the queue `k'`. -/
structure Transferred (q q' : κ → CntQueue α) (xs : List α) (k k' : κ) : Prop where
  source : (q k).items.Perm (xs ++ (q' k).items)
  target : (q' k').items.Perm (xs ++ (q k').items)
  others : ∀ j, j ≠ k → j ≠ k' → (q' j).items = (q j).items
  counted : ∀ j, (q' j).Counted

section Transfer

variable {xs : List α}

lemma Transferred.mem_source (ht : Transferred q q' xs k k') (hx : x ∈ xs) : x ∈ (q k).items :=
  ht.source.mem_iff.2 (List.mem_append_left _ hx)

lemma Transferred.mem_iff (ht : Transferred q q' xs k k') (h : Placed pool q) (hne : k ≠ k')
    {j : κ} : y ∈ (q' j).items ↔ (y ∈ xs ∧ j = k') ∨ (y ∉ xs ∧ y ∈ (q j).items) := by
  by_cases hk : j = k
  · subst hk
    have hdisj := (List.nodup_append.1 (ht.source.nodup_iff.1 (h.nodup j))).2.2
    rw [ht.source.mem_iff, List.mem_append]
    by_cases hy : y ∈ xs
    · have hy' : y ∉ (q' j).items := fun hy' => hdisj y hy y hy' rfl
      simp [hy, hy', hne]
    · simp [hy]
  by_cases hk' : j = k'
  · subst hk'
    rw [ht.target.mem_iff, List.mem_append]
    by_cases hy : y ∈ xs <;> simp [hy]
  · rw [ht.others j hk hk']
    have hout : y ∈ (q j).items → y ∉ xs := fun hy hxs => hk (h.unique hy (ht.mem_source hxs))
    simp only [hk', and_false, false_or]
    exact ⟨fun hy => ⟨hout hy, hy⟩, fun hy => hy.2⟩

lemma Placed.transfer (h : Placed pool q) (ht : Transferred q q' xs k k') (hne : k ≠ k') :
    Placed pool q' where
  cover := by
    intro y
    simp only [ht.mem_iff h hne]
    by_cases hy : y ∈ xs
    · simpa [hy] using (h.cover y).2 ⟨k, ht.mem_source hy⟩
    · simpa [hy] using h.cover y
  unique := by
    intro y j j' hj hj'
    rw [ht.mem_iff h hne] at hj hj'
    rcases hj with ⟨hy, rfl⟩ | ⟨hy, hj⟩
    · rcases hj' with ⟨-, rfl⟩ | ⟨hy', -⟩
      · rfl
      · exact absurd hy hy'
    · rcases hj' with ⟨hy', -⟩ | ⟨-, hj'⟩
      · exact absurd hy' hy
      · exact h.unique hj hj'
  nodup := by
    intro j
    have hsource := List.nodup_append.1 (ht.source.nodup_iff.1 (h.nodup k))
    by_cases hk : j = k
    · subst hk
      exact hsource.2.1
    by_cases hk' : j = k'
    · subst hk'
      refine ht.target.nodup_iff.2 (List.nodup_append.2 ⟨hsource.1, h.nodup j, ?_⟩)
      rintro y hy _ hy' rfl
      exact hne (h.unique (ht.mem_source hy) hy')
    · rw [ht.others j hk hk']
      exact h.nodup j
  counted := ht.counted

end Transfer

section Move

variable [DecidableEq α]

structure Moved (q q' : κ → CntQueue α) (x : α) (k k' : κ) : Prop where
  source : q' k = (q k).erase x
  target : (q' k').items.Perm (x :: (q k').items)
  counted : (q' k').Counted
  others : ∀ j, j ≠ k → j ≠ k' → q' j = q j

section

variable (hm : Moved q q' x k k') (h : Placed pool q) (hx : x ∈ (q k).items)
include hm h hx

lemma Moved.transferred : Transferred q q' [x] k k' where
  source := by
    rw [hm.source]
    exact List.perm_cons_erase hx
  target := hm.target
  others := fun j hk hk' => by rw [hm.others j hk hk']
  counted := by
    intro j
    by_cases hk' : j = k'
    · subst hk'
      exact hm.counted
    by_cases hk : j = k
    · subst hk
      rw [hm.source]
      exact (h.counted j).erase hx
    · rw [hm.others j hk hk']
      exact h.counted j

lemma Moved.mem_iff
    (hne : k ≠ k') {j : κ} : y ∈ (q' j).items ↔ (y = x ∧ j = k') ∨ (y ≠ x ∧ y ∈ (q j).items) := by
  simpa using (hm.transferred h hx).mem_iff h hne

end

lemma Placed.move (h : Placed pool q) (hm : Moved q q' x k k') (hx : x ∈ (q k).items)
    (hne : k ≠ k') : Placed pool q' :=
  h.transfer (hm.transferred h hx) hne

end Move

variable {put : CntQueue α → CntQueue α}

section Shift

variable [DecidableEq α] [DecidableEq κ] {l : κ}

def shift (q : κ → CntQueue α) (x : α) (k k' : κ) (put : CntQueue α → CntQueue α) :
    κ → CntQueue α :=
  update (update q k ((q k).erase x)) k' (put (q k'))

lemma shift_target : shift q x k k' put k' = put (q k') := update_self _ _ _

lemma shift_source (hne : k ≠ k') : shift q x k k' put k = (q k).erase x := by
  rw [shift, update_of_ne hne, update_self]

lemma shift_other (hk : l ≠ k) (hk' : l ≠ k') : shift q x k k' put l = q l := by
  rw [shift, update_of_ne hk', update_of_ne hk]

lemma eq_shift (hne : k ≠ k') (hsource : q' k = (q k).erase x) (htarget : q' k' = put (q k'))
    (hothers : ∀ l, l = k ∨ l = k' ∨ q' l = q l) : q' = shift q x k k' put := by
  funext l
  by_cases hk' : l = k'
  · rw [hk', shift_target, htarget]
  by_cases hk : l = k
  · rw [hk, shift_source hne, hsource]
  · rw [shift_other hk hk']
    exact ((hothers l).resolve_left hk).resolve_left hk'

structure Puts (put : CntQueue α → CntQueue α) (x : α) : Prop where
  perm : ∀ q, (put q).items.Perm (x :: q.items)
  counted : ∀ {q}, q.Counted → (put q).Counted

omit [DecidableEq α] in
lemma puts_pushTail (x : α) : Puts (·.pushTail x) x where
  perm := fun q => List.perm_append_singleton x q.items
  counted := fun h => h.pushTail x

section

variable (hput : Puts put x) (h : Placed pool q)
include hput h

lemma Puts.moved (hne : k ≠ k') : Moved q (shift q x k k' put) x k k' where
  source := shift_source hne
  target := by
    rw [shift_target]
    exact hput.perm _
  counted := by
    rw [shift_target]
    exact hput.counted (h.counted k')
  others := fun _ hk hk' => shift_other hk hk'

lemma Puts.placed (hx : x ∈ (q k).items) (hne : k ≠ k') : Placed pool (shift q x k k' put) :=
  h.move (hput.moved h hne) hx hne

lemma Puts.mem_of_ne (hx : x ∈ (q k).items) (hne : k ≠ k')
    (hy : y ≠ x) : y ∈ (shift q x k k' put l).items ↔ y ∈ (q l).items := by
  rw [(hput.moved h hne).mem_iff h hx hne]
  simp [hy]

end

lemma Puts.mem_target (hput : Puts put x) : x ∈ (shift q x k k' put k').items := by
  rw [shift_target]
  exact (hput.perm _).mem_iff.2 (by simp)

end Shift

section Among

variable {p : κ → Bool}

def Among (p : κ → Bool) (q : κ → CntQueue α) (x : α) : Prop := ∃ k, p k = true ∧ x ∈ (q k).items

lemma Placed.among_iff (h : Placed pool q) (hx : x ∈ (q k).items) : Among p q x ↔ p k = true := by
  constructor
  · rintro ⟨j, hj, hxj⟩
    rwa [h.unique hx hxj]
  · exact fun hk => ⟨k, hk, hx⟩

variable [DecidableEq α] [DecidableEq κ]

section

variable (hput : Puts put x) (h : Placed pool q) (hx : x ∈ (q k).items) (hne : k ≠ k')
include hput h hx hne

lemma Puts.among_of_ne (hy : y ≠ x) : Among p (shift q x k k' put) y ↔ Among p q y := by
  simp only [Among, hput.mem_of_ne h hx hne hy]

lemma Puts.among_target : Among p (shift q x k k' put) x ↔ p k' = true :=
  (hput.placed h hx hne).among_iff hput.mem_target

lemma Puts.among_same (hkind : p k = p k') (y : α) :
    Among p (shift q x k k' put) y ↔ Among p q y := by
  by_cases hy : y = x
  · subst hy
    rw [hput.among_target h hx hne, h.among_iff hx, hkind]
  · exact hput.among_of_ne h hx hne hy

end

end Among

end Places
