import Mathlib.Data.List.Induction
import Rtl8852be.CoreSta

/-!
# The station table holds together while the PHL gives its part

`StaPrivInv` is the state of the table with some stations taken out of their chains and not yet
freed. A free is two moves, out of the chain and into the free queue. A station whose PHL part could
not be allocated is not found.
-/

namespace Rtl8852be

open Buckets Run Function List Option StaPriv

variable {sta : ℕ} {first : Option ℕ} {phl : Option ℕ}

lemma wifiMacHash_lt (mac : MacAddr) : wifiMacHash mac < numSta :=
  Nat.lt_of_le_of_lt Nat.and_le_right (by decide)

structure StaPrivInv (mine : MacAddr) (out : List ℕ) (s : StaPriv) : Prop where
  placed : (s.freeStaQueue ++ (s.chained ++ out)).Perm (range numSta)
  count : s.asocStaCount = s.chained.length + out.length
  home : ∀ k i, i ∈ s.staHash k ↔ i ∉ out ∧ ∃ a, s.allocFor i = some a ∧ wifiMacHash a = k
  left : ∀ i ∈ out, ∃ a, s.allocFor i = some a ∧ a ≠ mine
  inj : ∀ i j a, s.allocFor i = some a → s.allocFor j = some a → i = j
  unicast : ∀ i a, s.allocFor i = some a → isMcast a = false
  phl : ∀ i a, s.allocFor i = some a →
    ∃ sta ∈ s.assocStaQueue, s.phlSta i = some sta ∧ s.macAddr sta = a
  owner : ∀ sta ∈ s.assocStaQueue, ∃ i, s.allocFor i = some (s.macAddr sta) ∧ s.phlSta i = some sta
  nodup : s.assocStaQueue.Nodup

structure SelfFirst (mine : MacAddr) (psta : ℕ) (s : StaPriv) : Prop where
  alloc : s.allocFor psta = some mine
  first : ∃ sta, s.phlSta psta = some sta ∧ s.assocStaQueue.head? = some sta

variable {role : WifiRole} {mine : MacAddr} {out : List ℕ} {s : StaPriv} {i psta : ℕ}
  {a hwaddr : MacAddr}

namespace StaPrivInv

section

variable (h : StaPrivInv mine out s)
include h

lemma placed_nodup :
    (s.freeStaQueue ++ (s.chained ++ out)).Nodup := h.placed.nodup_iff.2 nodup_range

lemma chained_nodup : s.chained.Nodup := (nodup_append.1 (nodup_append.1 h.placed_nodup).2.1).1

lemma mem_chained (ha : s.allocFor i = some a) (hi : i ∉ out) : i ∈ s.chained :=
  Buckets.mem_chained.2 ⟨wifiMacHash a, wifiMacHash_lt a, (h.home _ i).2 ⟨hi, a, ha, rfl⟩⟩

lemma lt_numSta (ha : s.allocFor i = some a) : i < numSta := by
  have hmem : i ∈ s.chained ++ out := by
    by_cases hi : i ∈ out
    · exact mem_append_right _ hi
    · exact mem_append_left _ (h.mem_chained ha hi)
  exact mem_range.1 (h.placed.mem_iff.1 (mem_append_right _ hmem))

lemma allocFor_of_free (hi : i ∈ s.freeStaQueue) : s.allocFor i = none := by
  rcases ha : s.allocFor i with _ | a
  · rfl
  exfalso
  have hdisj := disjoint_of_nodup_append h.placed_nodup
  by_cases hout : i ∈ out
  · exact hdisj hi (mem_append_right _ hout)
  · exact hdisj hi (mem_append_left _ (h.mem_chained ha hout))

lemma chain_nodup (k : ℕ) : (s.staHash k).Nodup := by
  by_cases hk : k < numSta
  · exact Nodup.bucket h.chained_nodup hk
  have hempty : s.staHash k = [] := by
    refine eq_nil_iff_forall_not_mem.2 fun i hi => ?_
    obtain ⟨-, a, -, ha⟩ := (h.home k i).1 hi
    have := wifiMacHash_lt a
    omega
  rw [hempty]
  exact nodup_nil

lemma hit_iff (ha : s.allocFor i = some a) :
    s.hit first hwaddr i = true ↔ first = s.phlSta i ∨ a = hwaddr := by
  obtain ⟨sta, -, hsta, hmac⟩ := h.phl i a ha
  simp [hit, hsta, hmac]

lemma find_hit (ha : s.allocFor i = some a) (hi : i ∉ out)
    (hhit : s.hit first hwaddr i = true)
    (hone : ∀ j b, s.allocFor j = some b → s.hit first hwaddr j = true → j = i) :
    (s.staHash (wifiMacHash a)).find? (s.hit first hwaddr) = some i := by
  have hmem : i ∈ s.staHash (wifiMacHash a) := (h.home _ i).2 ⟨hi, a, ha, rfl⟩
  rcases hfind : (s.staHash (wifiMacHash a)).find? (s.hit first hwaddr) with _ | j
  · exact absurd hhit (find?_eq_none.1 hfind i hmem)
  · obtain ⟨-, b, hb, -⟩ := (h.home _ j).1 (mem_of_find?_eq_some hfind)
    rw [hone j b hb (find?_some hfind)]

lemma get (hap : role.type = .ap) (ha : s.allocFor i = some a)
    (hi : i ∉ out) : rtwGetStainfo role a s = some i := by
  have hhit : ∀ {j b}, s.allocFor j = some b → (s.hit none a j = true ↔ b = a) := by
    intro j b hb
    obtain ⟨sta, -, hsta, -⟩ := h.phl j b hb
    simp [h.hit_iff hb, hsta]
  simp [rtwGetStainfo, h.unicast i a ha, staHashIndex, hap]
  refine h.find_hit ha hi ((hhit ha).2 rfl) fun j b hb hj => ?_
  exact h.inj j i a (by rw [hb, (hhit hb).1 hj]) ha

end

lemma getBcmc (h : StaPrivInv role.macAddr out s) (hs : SelfFirst role.macAddr psta s)
    (hout : psta ∉ out) : rtwGetBcmcStainfo role s = some psta := by
  obtain ⟨sta, hsta, hhead⟩ := hs.first
  have hbc : isMcast bcAddr = true := by decide
  have hhit : ∀ {j b}, s.allocFor j = some b →
      (s.hit (some sta) bcAddr j = true ↔ s.phlSta j = some sta) := by
    intro j b hb
    have hne : b ≠ bcAddr := by
      rintro rfl
      rw [h.unicast j _ hb] at hbc
      cases hbc
    simp [h.hit_iff hb, hne, eq_comm]
  simp [rtwGetBcmcStainfo, rtwGetStainfo, hbc, hhead]
  refine h.find_hit hs.alloc hout ((hhit hs.alloc).2 hsta) fun j b hb hj => ?_
  -- both stations have the address of `sta`
  obtain ⟨sta', -, hsta', hmac'⟩ := h.phl j b hb
  obtain ⟨sta'', -, hsta'', hmac⟩ := h.phl psta _ hs.alloc
  have hj : sta' = sta := some.inj (hsta'.symm.trans ((hhit hb).1 hj))
  have hp : sta'' = sta := some.inj (hsta''.symm.trans hsta)
  subst hj hp
  exact h.inj j psta b hb (by rw [hs.alloc, ← hmac, hmac'])

lemma unlink (h : StaPrivInv mine out s) (ha : s.allocFor i = some a) (hne : a ≠ mine)
    (hi : i ∉ out) : StaPrivInv mine (out ++ [i]) (s.unlink i) where
  placed := by
    have hchain : (i :: (s.unlink i).chained).Perm s.chained :=
      perm_unlink h.chained_nodup (h.mem_chained ha hi)
    refine List.Perm.trans (List.Perm.append_left _ ?_) h.placed
    calc ((s.unlink i).chained ++ (out ++ [i])).Perm (i :: ((s.unlink i).chained ++ out)) := by
          rw [← append_assoc]
          exact perm_append_singleton _ _
      _ |>.Perm (s.chained ++ out) := hchain.append_right out
  count := by
    have hlen := (perm_unlink h.chained_nodup (h.mem_chained ha hi)).length_eq
    have hc := h.count
    simp [StaPriv.unlink, StaPriv.chained] at hlen hc ⊢
    omega
  home := by
    intro k j
    simp only [StaPriv.unlink, mem_unlink, h.home k j, mem_append, mem_singleton]
    tauto
  left := forall_mem_append.2 ⟨h.left, forall_mem_singleton.2 ⟨a, ha, hne⟩⟩
  inj := h.inj
  unicast := h.unicast
  phl := h.phl
  owner := h.owner
  nodup := h.nodup

lemma release (h : StaPrivInv mine (i :: out) s) (hsta : s.phlSta i = some sta) :
    StaPrivInv mine out ((s.release i).setAssoc (s.assocStaQueue.erase sta)) := by
  obtain ⟨a, ha, -⟩ := h.left i (by simp)
  have hmac : s.macAddr sta = a := by
    obtain ⟨sta', -, hsta', hmac⟩ := h.phl i a ha
    rw [← hmac, some.inj (hsta.symm.trans hsta')]
  have hi : i ∉ out := (nodup_cons.1 (nodup_append.1 (nodup_append.1 h.placed_nodup).2.1).2.1).1
  -- the others keep their address
  have hother : ∀ {j b}, update s.allocFor i none j = some b → j ≠ i ∧ s.allocFor j = some b := by
    intro j b hj
    by_cases hji : j = i
    · simp [hji] at hj
    · exact ⟨hji, by simpa [hji] using hj⟩
  refine ⟨?_, ?_, fun k j => ?_, fun j hj => ?_, fun j j' b hj hj' => ?_, fun j b hj => ?_,
    fun j b hj => ?_, fun sta' hsta' => ?_, h.nodup.erase sta⟩
  · refine List.Perm.trans ?_ h.placed
    simp [StaPriv.setAssoc, StaPriv.release, StaPriv.chained]
    exact List.Perm.append_left _ perm_middle.symm
  · have hc := h.count
    simp [StaPriv.setAssoc, StaPriv.release, StaPriv.chained] at hc ⊢
    omega
  · simp [StaPriv.setAssoc, StaPriv.release, h.home k j]
    by_cases hji : j = i <;> simp [hji]
  · obtain ⟨b, hb, hne⟩ := h.left j (mem_cons_of_mem _ hj)
    have hji : j ≠ i := fun he => hi (he ▸ hj)
    exact ⟨b, by simpa [StaPriv.setAssoc, StaPriv.release, hji] using hb, hne⟩
  · exact h.inj j j' b (hother hj).2 (hother hj').2
  · exact h.unicast j b (hother hj).2
  · obtain ⟨hji, hb⟩ := hother hj
    obtain ⟨sta', hmem, hsta', hmac'⟩ := h.phl j b hb
    have hne : sta' ≠ sta := by
      rintro rfl
      exact hji (h.inj j i b hb (by rw [ha, ← hmac, hmac']))
    exact ⟨sta', (mem_erase_of_ne hne).2 hmem, hsta', hmac'⟩
  · obtain ⟨hne, hmem⟩ := h.nodup.mem_erase_iff.1 hsta'
    obtain ⟨j, hj, hphl⟩ := h.owner sta' hmem
    have hji : j ≠ i := by
      rintro rfl
      exact hne (some.inj (hphl.symm.trans hsta))
    exact ⟨j, by simpa [StaPriv.setAssoc, StaPriv.release, hji] using hj, hphl⟩

lemma clearPhl (h : StaPrivInv mine out s) (hi : s.allocFor i = none) :
    StaPrivInv mine out (s.setPhlSta i none) := by
  have hne : ∀ {j b}, s.allocFor j = some b → j ≠ i := by
    rintro j b hj rfl
    simp [hi] at hj
  refine { h with phl := fun j b hj => ?_, owner := fun sta hsta => ?_ }
  · obtain ⟨sta, hmem, hsta, hmac⟩ := h.phl j b hj
    exact ⟨sta, hmem, by simpa [hne hj] using hsta, hmac⟩
  · obtain ⟨j, hj, hphl⟩ := h.owner sta hsta
    exact ⟨j, hj, by simpa [hne hj] using hphl⟩

end StaPrivInv

/-- The state after a free of a station out of its chain. The PHL takes its part from the queue,
and the pointer to it stays if the PHL reports a failure. -/
@[local simp] def StaPriv.freed (s : StaPriv) (psta sta : ℕ) (phl : Bool) : StaPriv :=
  if phl then ((s.release psta).setAssoc (s.assocStaQueue.erase sta)).setPhlSta psta none
  else (s.release psta).setAssoc (s.assocStaQueue.erase sta)

lemma StaPriv.freed_staHash (s : StaPriv) (psta sta : ℕ) (phl : Bool) :
    (s.freed psta sta phl).staHash = s.staHash := by cases phl <;> rfl

lemma StaPrivInv.freed (h : StaPrivInv mine (psta :: out) s) (hsta : s.phlSta psta = some sta)
    (phl : Bool) : StaPrivInv mine out (s.freed psta sta phl) := by
  have hkeep := h.release hsta
  cases phl
  · exact hkeep
  · exact hkeep.clearPhl (by simp [StaPriv.setAssoc, StaPriv.release])

lemma SelfFirst.freed (hs : SelfFirst mine i s) (h : StaPrivInv mine (psta :: out) s)
    (hsta : s.phlSta psta = some sta) (phl : Bool) : SelfFirst mine i (s.freed psta sta phl) := by
  obtain ⟨a, ha, hne⟩ := h.left psta (by simp)
  obtain ⟨first, hfirst, hhead⟩ := hs.first
  have hi : i ≠ psta := by
    rintro rfl
    exact hne (some.inj (ha.symm.trans hs.alloc))
  have hdiff : first ≠ sta := by
    rintro rfl
    obtain ⟨sta, -, hsta', hmac⟩ := h.phl psta a ha
    obtain ⟨sta', -, hsta'', hmac'⟩ := h.phl i _ hs.alloc
    have he : sta = sta' := some.inj (by rw [← hsta', ← hsta'', hsta, hfirst])
    exact hne (by rw [← hmac, ← hmac', he])
  have hkept : (s.assocStaQueue.erase sta).head? = some first := by
    obtain ⟨q, hq⟩ := head?_eq_some_iff.1 hhead
    rw [hq, erase_cons_tail (by simpa using hdiff)]
    rfl
  cases phl
  · exact ⟨by simpa [StaPriv.setAssoc, StaPriv.release, hi] using hs.alloc, first, hfirst, hkept⟩
  · exact ⟨by simpa [StaPriv.setAssoc, StaPriv.release, hi]
      using hs.alloc, first, by simpa [StaPriv.setAssoc,
      StaPriv.release, hi] using hfirst, hkept⟩

lemma rtwFreeStainfo_out (h : StaPrivInv role.macAddr (psta :: out) s) (hap : role.type = .ap)
    (phl : Bool) : ∃ sta, s.phlSta psta = some sta ∧
      rtwFreeStainfo role psta phl s = some (s.freed psta sta phl) := by
  obtain ⟨a, ha, hne⟩ := h.left psta (by simp)
  obtain ⟨sta, -, hsta, hmac⟩ := h.phl psta a ha
  have hstay : s.unlink psta = s := by
    have hno : ∀ k, psta ∉ s.staHash k := fun k hk => ((h.home k psta).1 hk).1 (by simp)
    rw [StaPriv.unlink, unlink_of_notMem hno]
  have hcore : rtwFreeCoreStainfo psta s = some (s.release psta) := by
    simp [rtwFreeCoreStainfo, hsta, hstay]
  have hself : phlSelfRoleSta role sta (s.release psta) = (false, s.release psta) := by
    have hmine : role.macAddr ≠ (s.release psta).macAddr sta := fun he => hne (hmac ▸ he.symm)
    simp [phlSelfRoleSta, hap, hmine]
  have hphl : (s.release psta).phlSta psta = some sta := hsta
  refine ⟨sta, hsta, ?_⟩
  rw [rtwFreeStainfo, hcore, bind_some, rtwFreePhlStainfo, hphl]
  simp only [phlFreeRoleSta, hself]
  cases phl <;> rfl

lemma rtwFreeStainfo_unlink (role : WifiRole) (psta : ℕ) (phl : Bool) (s : StaPriv) :
    rtwFreeStainfo role psta phl (s.unlink psta) = rtwFreeStainfo role psta phl s := by
  have htwice : (s.unlink psta).unlink psta = s.unlink psta := by
    rw [StaPriv.unlink, StaPriv.unlink, unlink_unlink]
  have hcore : rtwFreeCoreStainfo psta (s.unlink psta) = rtwFreeCoreStainfo psta s := by
    rw [rtwFreeCoreStainfo, rtwFreeCoreStainfo, htwice]
    rfl
  rw [rtwFreeStainfo, rtwFreeStainfo, hcore]

structure StaPrivGood (role : WifiRole) (mine : ℕ) (s : StaPriv) : Prop where
  inv : StaPrivInv role.macAddr [] s
  first : SelfFirst role.macAddr mine s

lemma StaPrivGood.free {mine : ℕ} (h : StaPrivGood role mine s) (hap : role.type = .ap)
    (ha : s.allocFor psta = some a) (hne : a ≠ role.macAddr) (phl : Bool) :
    ∃ s', rtwFreeStainfo role psta phl s = some s' ∧ StaPrivGood role mine s' := by
  have hout : StaPrivInv role.macAddr [psta] (s.unlink psta) := h.inv.unlink ha hne (by simp)
  have hfirst : SelfFirst role.macAddr mine (s.unlink psta) := ⟨h.first.alloc, h.first.first⟩
  obtain ⟨sta, hsta, hfree⟩ := rtwFreeStainfo_out hout hap phl
  rw [rtwFreeStainfo_unlink] at hfree
  exact ⟨_, hfree, hout.freed hsta phl, hfirst.freed hout hsta phl⟩

structure OnlyUnlinks (s s' : StaPriv) : Prop where
  alloc : s'.allocFor = s.allocFor
  phlSta : s'.phlSta = s.phlSta
  assoc : s'.assocStaQueue = s.assocStaQueue
  sub : ∀ k i, i ∈ s'.staHash k → i ∈ s.staHash k

lemma OnlyUnlinks.refl (s : StaPriv) : OnlyUnlinks s s := ⟨rfl, rfl, rfl, fun _ _ hi => hi⟩

lemma OnlyUnlinks.trans {s' s'' : StaPriv} (h : OnlyUnlinks s s') (h' : OnlyUnlinks s' s'') :
    OnlyUnlinks s s'' :=
  ⟨h'.alloc.trans h.alloc, h'.phlSta.trans h.phlSta, h'.assoc.trans h.assoc,
    fun k i hi => h.sub k i (h'.sub k i hi)⟩

lemma OnlyUnlinks.unlink (s : StaPriv) (i : ℕ) : OnlyUnlinks s (s.unlink i) :=
  ⟨rfl, rfl, rfl, fun _ _ hj => (mem_unlink.1 hj).1⟩

structure Walked (role : WifiRole) (mine : ℕ) (l : List ℕ) (s : StaPriv)
    (r : StaPriv × List ℕ) : Prop where
  inv : StaPrivInv role.macAddr r.2 r.1
  only : OnlyUnlinks s r.1
  gone : ∀ i ∈ l, ∀ k, i ∈ r.1.staHash k → i = mine

lemma freeAllNote_fold {mine : ℕ} : ∀ (l : List ℕ) {s : StaPriv} {out : List ℕ},
    StaPrivInv role.macAddr out s → s.allocFor mine = some role.macAddr → l.Nodup →
    (∀ i ∈ l, ∃ k, i ∈ s.staHash k) →
    Walked role mine l s (l.foldl (freeAllNote (some mine)) (s, out))
  | [], s, out, h, _, _, _ => ⟨h, .refl s, by simp⟩
  | i :: l, s, out, h, hmine, hnd, hin => by
    obtain ⟨hil, hl⟩ := nodup_cons.1 hnd
    obtain ⟨k, hk⟩ := hin i (by simp)
    obtain ⟨hout, a, ha, -⟩ := (h.home k i).1 hk
    rw [foldl_cons, freeAllNote]
    by_cases hi : mine = i
    · rw [if_pos (congrArg some hi)]
      have hw := freeAllNote_fold l h hmine hl fun j hj => hin j (by simp [hj])
      exact ⟨hw.inv, hw.only, forall_mem_cons.2 ⟨fun _ _ => hi.symm, hw.gone⟩⟩
    have hne : a ≠ role.macAddr := by
      rintro rfl
      exact hi (h.inj mine i _ hmine ha)
    have hlt := h.lt_numSta ha
    rw [if_neg (by simpa using hi), if_pos hlt]
    have hw := freeAllNote_fold l (h.unlink ha hne hout) hmine hl fun j hj => by
      obtain ⟨k, hk⟩ := hin j (by simp [hj])
      have hji : j ≠ i := fun he => hil (he ▸ hj)
      exact ⟨k, mem_unlink.2 ⟨hk, hji⟩⟩
    refine ⟨hw.inv, (OnlyUnlinks.unlink s i).trans hw.only, forall_mem_cons.2 ⟨?_, hw.gone⟩⟩
    exact fun k' hk' => absurd rfl (mem_unlink.1 (hw.only.sub k' i hk')).2

lemma freeAllChain_fold {mine : ℕ} : ∀ (ks : List ℕ) {s : StaPriv} {out : List ℕ},
    StaPrivInv role.macAddr out s → s.allocFor mine = some role.macAddr →
    ∃ r, ks.foldl (freeAllChain (some mine)) (s, out) = r ∧ StaPrivInv role.macAddr r.2 r.1 ∧
      OnlyUnlinks s r.1 ∧ ∀ k ∈ ks, ∀ i ∈ r.1.staHash k, i = mine
  | [], s, out, h, _ => ⟨_, rfl, h, .refl s, by simp⟩
  | k :: ks, s, out, h, hmine => by
    have hw := freeAllNote_fold (s.staHash k) h hmine (h.chain_nodup k) fun i hi => ⟨k, hi⟩
    obtain ⟨r, hr, hinv, honly, hks⟩ :=
      freeAllChain_fold ks hw.inv (by rw [hw.only.alloc]; exact hmine)
    refine ⟨r, hr, hinv, hw.only.trans honly, forall_mem_cons.2 ⟨fun i hi => ?_, hks⟩⟩
    exact hw.gone i (hw.only.sub k i (honly.sub k i hi)) k (honly.sub k i hi)

lemma freeAllFree_out {mine : ℕ} (hap : role.type = .ap) (phl : ℕ → Bool) :
    ∀ (out : List ℕ) {s : StaPriv}, StaPrivInv role.macAddr out s →
    SelfFirst role.macAddr mine s → ∃ s', freeAllFree role phl out s = some s' ∧
      StaPrivGood role mine s' ∧ s'.staHash = s.staHash
  | [], s, h, hs => ⟨s, rfl, ⟨h, hs⟩, rfl⟩
  | psta :: out, s, h, hs => by
    obtain ⟨sta, hsta, hfree⟩ := rtwFreeStainfo_out h hap (phl psta)
    obtain ⟨s', hs', hgood, hsame⟩ :=
      freeAllFree_out hap phl out (h.freed hsta (phl psta)) (hs.freed h hsta (phl psta))
    refine ⟨s', ?_, hgood, hsame.trans (s.freed_staHash psta sta (phl psta))⟩
    rw [freeAllFree, hfree, bind_some, hs']

lemma eq_singleton_of_nodup {l : List ℕ} (hnd : l.Nodup) (hi : i ∈ l) (hall : ∀ j ∈ l, j = i) :
    l = [i] := by
  have hrep : l = replicate l.length i := eq_replicate_iff.2 ⟨rfl, hall⟩
  have hlen : l.length = 1 := by
    have hpos := length_pos_of_mem hi
    have hle : l.length ≤ 1 := nodup_replicate.1 (hrep ▸ hnd)
    omega
  rw [hrep, hlen]
  rfl

lemma StaPrivGood.freeAll {mine : ℕ} (h : StaPrivGood role mine s) (hap : role.type = .ap)
    (phl : ℕ → Bool) : ∃ s', rtwFreeAllStainfo role phl s = some s' ∧ StaPrivGood role mine s' ∧
      s'.chained = [mine] := by
  have hself : mine ∈ s.chained := h.inv.mem_chained h.first.alloc (by simp)
  rw [rtwFreeAllStainfo]
  split_ifs with hone
  · refine ⟨s, rfl, h, ?_⟩
    have hlen : s.chained.length = 1 := by
      have hc := h.inv.count
      simp at hc
      omega
    obtain ⟨i, hi⟩ := length_eq_one_iff.1 hlen
    rw [hi] at hself ⊢
    rw [mem_singleton.1 hself]
  · rw [h.inv.getBcmc h.first (by simp)]
    obtain ⟨r, hr, hinv, honly, hgone⟩ := freeAllChain_fold (range numSta) h.inv h.first.alloc
    have hfirst : SelfFirst role.macAddr mine r.1 := by
      obtain ⟨sta, hsta, hhead⟩ := h.first.first
      exact ⟨by rw [honly.alloc, h.first.alloc], sta, by rw [honly.phlSta, hsta],
        by rw [honly.assoc, hhead]⟩
    obtain ⟨s', hs', hgood, hsame⟩ := freeAllFree_out hap phl r.2 hinv hfirst
    refine ⟨s', by rw [hr]; exact hs', hgood, ?_⟩
    refine eq_singleton_of_nodup hgood.inv.chained_nodup
      (hgood.inv.mem_chained hgood.first.alloc (by simp)) fun i hi => ?_
    obtain ⟨k, hk, hik⟩ := Buckets.mem_chained.1 hi
    rw [hsame] at hik
    exact hgone k (mem_range.2 hk) i hik

variable {rest : List ℕ}

lemma StaPrivInv.phlFind (h : StaPrivInv mine out s) (hap : role.type = .ap)
    (hnew : ∀ i < numSta, s.allocFor i ≠ some hwaddr) : phlFindStainfo role hwaddr s = none := by
  have hno : ∀ sta ∈ s.assocStaQueue, s.macAddr sta ≠ hwaddr := by
    rintro sta hsta rfl
    obtain ⟨i, hi, -⟩ := h.owner sta hsta
    exact hnew i (h.lt_numSta hi) hi
  simpa [phlFindStainfo, hap] using hno

/-- The state after an allocation that has an object to give, and for it what the PHL gave. -/
def StaPriv.entered (s : StaPriv) (psta : ℕ) (rest : List ℕ) (hwaddr : MacAddr) :
    Option ℕ → StaPriv
  | none => ((s.take psta rest).link (wifiMacHash hwaddr) psta hwaddr).setPhlSta psta none
  | some sta =>
    ((((s.take psta rest).link (wifiMacHash hwaddr) psta hwaddr).setMacAddr sta hwaddr).setAssoc
      (s.assocStaQueue ++ [sta])).setPhlSta psta (some sta)

lemma rtwAllocStainfo_cons (hap : role.type = .ap) (hfree : s.freeStaQueue = psta :: rest)
    (hfind : phlFindStainfo role hwaddr s = none) (phl : Option ℕ) :
    rtwAllocStainfo role hwaddr phl s = (some psta, s.entered psta rest hwaddr phl) := by
  have hindex : staHashIndex role hwaddr = wifiMacHash hwaddr := by simp [staHashIndex, hap]
  have hcore : rtwAllocCoreStainfo role hwaddr s =
      (some psta, (s.take psta rest).link (wifiMacHash hwaddr) psta hwaddr) := by
    have hlt := wifiMacHash_lt hwaddr
    simp only [rtwAllocCoreStainfo, hfree, hindex]
    rw [if_neg (by omega)]
  have hsame : phlFindStainfo role hwaddr ((s.take psta rest).link (wifiMacHash hwaddr) psta hwaddr)
      = none := hfind
  rw [rtwAllocStainfo, hcore]
  cases phl <;> simp only [rtwAllocPhlStainfo, phlAllocRoleSta, hsame] <;> rfl

section Fields

variable (s psta rest hwaddr)

@[simp] lemma StaPriv.entered_allocFor (phl : Option ℕ) :
    (s.entered psta rest hwaddr phl).allocFor =
      update s.allocFor psta (some hwaddr) := by cases phl <;> rfl

@[simp] lemma StaPriv.entered_phlSta (phl : Option ℕ) :
    (s.entered psta rest hwaddr phl).phlSta = update s.phlSta psta phl := by
  cases phl <;> simp [entered, setAssoc, setMacAddr, link, take]

@[simp] lemma StaPriv.entered_macAddr : (s.entered psta rest hwaddr (some sta)).macAddr =
    update s.macAddr sta hwaddr := rfl

@[simp] lemma StaPriv.entered_assocStaQueue :
    (s.entered psta rest hwaddr (some sta)).assocStaQueue = s.assocStaQueue ++ [sta] := rfl

@[simp] lemma StaPriv.entered_asocStaCount :
    (s.entered psta rest hwaddr (some sta)).asocStaCount = s.asocStaCount + 1 := rfl

end Fields

section

variable (hfree : s.freeStaQueue = psta :: rest) (hcast : isMcast hwaddr = false)
  (hnew : ∀ i < numSta, s.allocFor i ≠ some hwaddr) (hsta : sta ∉ s.assocStaQueue)
include hfree hcast hnew hsta

lemma StaPrivInv.entered (h : StaPrivInv mine [] s) :
    StaPrivInv mine [] (s.entered psta rest hwaddr (some sta)) := by
  have hfreed : s.allocFor psta = none := h.allocFor_of_free (by simp [hfree])
  have hsame : ∀ {j b}, s.allocFor j = some b → j ≠ psta := by
    rintro j b hj rfl
    simp [hfreed] at hj
  have halloc : ∀ {j b}, update s.allocFor psta (some hwaddr) j = some b →
      j = psta ∧ b = hwaddr ∨ s.allocFor j = some b := by
    intro j b hj
    by_cases hjp : j = psta
    · exact .inl ⟨hjp, by simpa [hjp, eq_comm] using hj⟩
    · exact .inr (by simpa [hjp] using hj)
  have hchain := chained_push (f := s.staHash) (x := psta) (wifiMacHash_lt hwaddr)
  refine ⟨?_, ?_, fun k j => ?_, by simp, fun j j' b hj hj' => ?_, fun j b hj => ?_,
    fun j b hj => ?_, fun sta' hsta' => ?_, ?_⟩
  · refine List.Perm.trans ?_ h.placed
    rw [hfree, append_nil, append_nil]
    exact (hchain.append_left rest).trans perm_middle
  · have hc := h.count
    have hsum : (s.entered psta rest hwaddr (some sta)).chained.length = s.chained.length + 1 :=
      hchain.length_eq
    simp [entered_asocStaCount, hsum] at hc ⊢
    omega
  · have hmem : j ∈ (s.entered psta rest hwaddr (some sta)).staHash k ↔
        j ∈ s.staHash k ∨ k = wifiMacHash hwaddr ∧ j = psta := mem_push
    rw [hmem, h.home k j]
    by_cases hjp : j = psta
    · simp [hjp, hfreed, eq_comm]
    · simp [hjp]
  · rcases halloc hj with ⟨hjp, hb⟩ | hold
    · rcases halloc hj' with ⟨hjp', -⟩ | hold'
      · rw [hjp, hjp']
      · exact absurd (hb ▸ hold') (hnew j' (h.lt_numSta hold'))
    · rcases halloc hj' with ⟨-, hb⟩ | hold'
      · exact absurd (hb ▸ hold) (hnew j (h.lt_numSta hold))
      · exact h.inj j j' b hold hold'
  · rcases halloc hj with ⟨-, rfl⟩ | hj
    · exact hcast
    · exact h.unicast j b hj
  · rcases halloc hj with ⟨rfl, rfl⟩ | hj
    · exact ⟨sta, by simp, by simp, by simp⟩
    · obtain ⟨sta', hmem, hsta', hmac'⟩ := h.phl j b hj
      have hne : sta' ≠ sta := fun he => hsta (he ▸ hmem)
      refine ⟨sta', mem_append_left _ hmem, ?_, ?_⟩
      · simpa [hsame hj] using hsta'
      · simpa [hne] using hmac'
  · rcases mem_append.1 hsta' with hmem | hmem
    · obtain ⟨j, hj, hphl⟩ := h.owner sta' hmem
      have hne : sta' ≠ sta := fun he => hsta (he ▸ hmem)
      refine ⟨j, ?_, ?_⟩
      · simpa [hne, hsame hj] using hj
      · simpa [hsame hj] using hphl
    · rw [mem_singleton.1 hmem]
      exact ⟨psta, by simp, by simp⟩
  · exact nodup_append.2 ⟨h.nodup, nodup_singleton _, fun x hx y hy => by
      rw [mem_singleton.1 hy]
      exact fun he => hsta (he ▸ hx)⟩

lemma StaPrivGood.entered {mine : ℕ} (h : StaPrivGood role mine s) :
    StaPrivGood role mine (s.entered psta rest hwaddr (some sta)) := by
  have hne : mine ≠ psta := by
    rintro rfl
    have hnone := h.inv.allocFor_of_free (i := mine) (by simp [hfree])
    simp [h.first.alloc] at hnone
  obtain ⟨first, hfirst, hhead⟩ := h.first.first
  refine ⟨h.inv.entered hfree hcast hnew hsta, by simpa [hne] using h.first.alloc, first,
    by simpa [hne] using hfirst, ?_⟩
  rw [entered_assocStaQueue, head?_append, hhead]
  rfl

end

lemma staPrivInv_init (mine : MacAddr) : StaPrivInv mine [] staPrivInit where
  placed := by decide
  count := by decide
  home := by simp
  left := by simp
  inj := by simp
  unicast := by simp
  phl := by simp
  owner := by simp
  nodup := nodup_nil

lemma staPrivBoot_eq (hap : role.type = .ap) (phl : Option ℕ) : staPrivBoot role phl =
      some (staPrivInit.entered 0 (range' 1 31) role.macAddr phl) := by
  have hfree : staPrivInit.freeStaQueue = 0 :: range' 1 31 := by decide
  have hfind : phlFindStainfo role role.macAddr staPrivInit = none :=
    (staPrivInv_init role.macAddr).phlFind hap fun i _ => by simp
  rw [staPrivBoot, rtwAllocStainfo_cons hap hfree hfind]

lemma staPrivGood_boot (hself : isMcast role.macAddr = false) (sta : ℕ) :
    StaPrivGood role 0 (staPrivInit.entered 0 (range' 1 31) role.macAddr (some sta)) :=
  ⟨(staPrivInv_init role.macAddr).entered (by decide) hself (fun i _ => by simp)
    (by simp), by simp, sta, by simp, rfl⟩

/-- The calls the table is made for: the addresses of allocated stations are distinct and unicast, a
station is freed once, and not the role's own. The PHL gives a station the role does not have. -/
def StaPriv.Legal (role : WifiRole) (s : StaPriv) : StaPrivEv → Prop
  | .alloc hwaddr phl => isMcast hwaddr = false ∧ (∀ i < numSta, s.allocFor i ≠ some hwaddr) ∧
      ∀ sta, phl = some sta → sta ∉ s.assocStaQueue
  | .free psta _ => ∃ a, s.allocFor psta = some a ∧ a ≠ role.macAddr
  | .freeAll _ => True

/-- The PHL has a station for an allocation that has an object. -/
def StaPriv.PhlGiven (s : StaPriv) : StaPrivEv → Prop
  | .alloc _ phl => s.freeStaQueue ≠ [] → phl ≠ none
  | .free _ _ => True
  | .freeAll _ => True

/-- The condition where there is a state. -/
def AtState (ok : StaPriv → StaPrivEv → Prop) (o : Option StaPriv) (e : StaPrivEv) : Prop :=
  ∀ s, o = some s → ok s e

/-- Each object is in one place, and every station that was returned and not freed is found. -/
structure StaTableOK (role : WifiRole) (s : StaPriv) : Prop where
  placed : (s.freeStaQueue ++ s.chained).Perm (range numSta)
  count : s.asocStaCount = s.chained.length
  found : ∀ psta a, s.allocFor psta = some a → rtwGetStainfo role a s = some psta

/-- The station of the role itself is the only one. -/
def OnlySelf (role : WifiRole) (s : StaPriv) : Prop :=
  ∃ psta, s.allocFor psta = some role.macAddr ∧ s.chained = [psta]

lemma not_tableOK_entered (hcast : isMcast hwaddr = false) :
    ¬ StaTableOK role (s.entered psta rest hwaddr none) := by
  intro h
  have hfound := h.found psta hwaddr (by simp)
  simp [rtwGetStainfo, hcast] at hfound
  have hhit := find?_some hfound
  simp [hit] at hhit

lemma staPrivStep_alloc (h : StaPrivInv mine [] s) (hap : role.type = .ap)
    (hnew : ∀ i < numSta, s.allocFor i ≠ some hwaddr) (hfree : s.freeStaQueue = psta :: rest)
    (phl : Option ℕ) : staPrivStep role (some s) (.alloc hwaddr phl) =
      some (s.entered psta rest hwaddr phl) := by
  have halloc := rtwAllocStainfo_cons hap hfree (h.phlFind hap hnew) phl
  simp [staPrivStep, halloc]

lemma StaPrivGood.step {mine : ℕ} (h : StaPrivGood role mine s) (hap : role.type = .ap)
    {e : StaPrivEv} (hlegal : s.Legal role e) (hphl : s.PhlGiven e) :
    ∃ s', staPrivStep role (some s) e = some s' ∧ StaPrivGood role mine s' := by
  cases e with
  | alloc hwaddr phl =>
    obtain ⟨hcast, hnew, hpool⟩ := hlegal
    rcases hfree : s.freeStaQueue with _ | ⟨psta, rest⟩
    · refine ⟨s, ?_, h⟩
      simp [staPrivStep, rtwAllocStainfo, rtwAllocCoreStainfo, hfree]
    · obtain ⟨sta, rfl⟩ := ne_none_iff_exists'.1 (hphl (by simp [hfree]))
      exact ⟨_, staPrivStep_alloc h.inv hap hnew hfree (some sta),
        h.entered hfree hcast hnew (hpool sta rfl)⟩
  | free psta phl =>
    obtain ⟨a, ha, hne⟩ := hlegal
    exact h.free hap ha hne phl
  | freeAll phl =>
    obtain ⟨s', hs', hgood, -⟩ := h.freeAll hap phl
    exact ⟨s', hs', hgood⟩

lemma staPriv_run_good (hap : role.type = .ap) (hself : isMcast role.macAddr = false)
    (hphl : phl ≠ none) (es : List StaPrivEv)
    (hlegal : RunOK (staPrivStep role) (AtState (Legal role)) (staPrivBoot role phl) es)
    (hgiven : RunOK (staPrivStep role) (AtState PhlGiven) (staPrivBoot role phl) es) :
    ∃ s, run (staPrivStep role) (staPrivBoot role phl) es = some s ∧ StaPrivGood role 0 s := by
  induction es using reverseRecOn with
  | nil =>
    obtain ⟨sta, rfl⟩ := ne_none_iff_exists'.1 hphl
    exact ⟨_, staPrivBoot_eq hap (some sta), staPrivGood_boot hself sta⟩
  | append_singleton es e ih =>
    obtain ⟨hlegal, he⟩ := (runOK_append_singleton _ _).1 hlegal
    obtain ⟨hgiven, he'⟩ := (runOK_append_singleton _ _).1 hgiven
    obtain ⟨s, hs, hgood⟩ := ih hlegal hgiven
    rw [run_append_singleton, hs]
    exact hgood.step hap (he s hs) (he' s hs)

/-- What the table promises after the calls `es`. -/
def StaPromise (role : WifiRole) (phl : Option ℕ) (es : List StaPrivEv) : Prop :=
  ∃ s, run (staPrivStep role) (staPrivBoot role phl) es = some s ∧ StaTableOK role s ∧
    ∀ ok, es.getLast? = some (.freeAll ok) → OnlySelf role s

/-- Exactly if the PHL has a station for the role itself and for each allocation that has an object.
-/
theorem staTable_run_iff (hap : role.type = .ap) (hself : isMcast role.macAddr = false)
    (phl : Option ℕ) (es : List StaPrivEv)
    (hlegal : RunOK (staPrivStep role) (AtState (Legal role)) (staPrivBoot role phl) es) :
    (∀ es', es' <+: es → StaPromise role phl es') ↔ phl ≠ none ∧
        RunOK (staPrivStep role) (AtState PhlGiven) (staPrivBoot role phl) es := by
  constructor
  · intro h
    have hphl : phl ≠ none := by
      rintro rfl
      obtain ⟨s, hs, hok, -⟩ := h [] nil_prefix
      rw [run_nil, staPrivBoot_eq hap, some.injEq] at hs
      subst hs
      exact not_tableOK_entered hself hok
    refine ⟨hphl, ?_⟩
    -- the first allocation without a PHL part breaks the promise at once
    induction es using reverseRecOn with
    | nil => trivial
    | append_singleton es e ih =>
      obtain ⟨hlegal', he⟩ := (runOK_append_singleton _ _).1 hlegal
      have hgiven := ih hlegal' fun es' hp => h es' (hp.trans (prefix_append _ _))
      refine (runOK_append_singleton _ _).2 ⟨hgiven, fun s hs => ?_⟩
      obtain ⟨s₀, hs₀, hgood⟩ := staPriv_run_good hap hself hphl es hlegal' hgiven
      obtain rfl : s₀ = s := some.inj (hs₀.symm.trans hs)
      cases e with
      | free | freeAll => trivial
      | alloc hwaddr given =>
        rintro hfree rfl
        obtain ⟨hcast, hnew, -⟩ := he s₀ hs
        obtain ⟨psta, rest, hq⟩ := exists_cons_of_ne_nil hfree
        obtain ⟨s', hs', hok, -⟩ := h _ (prefix_refl _)
        rw [run_append_singleton, hs, staPrivStep_alloc hgood.inv hap hnew hq, some.injEq] at hs'
        subst hs'
        exact not_tableOK_entered hcast hok
  · rintro ⟨hphl, hgiven⟩ es' hp
    obtain ⟨s, hs, hgood⟩ :=
      staPriv_run_good hap hself hphl es' (hlegal.of_prefix hp) (hgiven.of_prefix hp)
    refine ⟨s, hs, ⟨by simpa using hgood.inv.placed, by simpa using hgood.inv.count,
      fun _ _ ha => hgood.inv.get hap ha (by simp)⟩, fun ok hlast => ?_⟩
    obtain ⟨es₀, rfl⟩ := getLast?_eq_some_iff.1 hlast
    have hp₀ : es₀ <+: es := (prefix_append _ _).trans hp
    obtain ⟨s₀, hs₀, hgood₀⟩ :=
      staPriv_run_good hap hself hphl es₀ (hlegal.of_prefix hp₀) (hgiven.of_prefix hp₀)
    obtain ⟨s', hs', -, honly⟩ := hgood₀.freeAll hap ok
    rw [run_append_singleton, hs₀] at hs
    obtain rfl : s' = s := some.inj (hs'.symm.trans hs)
    exact ⟨0, hgood.first.alloc, honly⟩

def sampleApRole : WifiRole := ⟨.ap, 0x020000000001#48⟩

def samplePeer : MacAddr := 0x020000000002#48

lemma legal_samplePeer (hphl : phl = none ∨ phl = some 1) :
    AtState (Legal sampleApRole) (staPrivBoot sampleApRole (some 0))
      (.alloc samplePeer phl) := by
  intro s hs
  rw [staPrivBoot_eq rfl, some.injEq] at hs
  subst hs
  refine ⟨by decide, fun i _ => ?_, ?_⟩
  · by_cases hi : i = 0
    · simp [hi, sampleApRole, samplePeer]
    · simp [hi]
  · rintro sta rfl
    rcases hphl with hphl | hphl
    · cases hphl
    · simp [some.inj hphl]

def samplePeerCalls : List StaPrivEv := [.alloc samplePeer (some 1), .freeAll fun _ => true]

/-- A peer comes, and all stations but the role's own are freed. -/
theorem staTable_run_iff_peer : StaPromise sampleApRole (some 0) samplePeerCalls := by
  have hall := (staTable_run_iff rfl (by decide) (some 0) samplePeerCalls
    ⟨legal_samplePeer (.inr rfl), fun _ _ => trivial, trivial⟩).2
    ⟨by simp, fun _ _ _ => by simp, fun _ _ => trivial, trivial⟩
  exact hall samplePeerCalls (prefix_refl _)

/-- The PHL has no station for the peer, which is not found; to free it reads through null. -/
theorem staTable_fails : AtState (Legal sampleApRole) (staPrivBoot sampleApRole (some 0))
      (.alloc samplePeer none) ∧
    ¬ StaPromise sampleApRole (some 0) [.alloc samplePeer none] ∧
    run (staPrivStep sampleApRole) (staPrivBoot sampleApRole (some 0))
      [.alloc samplePeer none, .free 1 true] = none := by
  have hlegal := legal_samplePeer (.inl rfl)
  obtain ⟨s₀, hboot, hgood, hfree⟩ : ∃ s₀, staPrivBoot sampleApRole (some 0) = some s₀ ∧
      StaPrivGood sampleApRole 0 s₀ ∧ s₀.freeStaQueue = 1 :: range' 2 30 :=
    ⟨_, staPrivBoot_eq rfl (some 0), staPrivGood_boot (by decide) 0, rfl⟩
  have hap : sampleApRole.type = .ap := rfl
  have hstep := staPrivStep_alloc hgood.inv hap (hlegal s₀ hboot).2.1 hfree none
  rw [← hboot] at hstep
  refine ⟨hlegal, ?_, ?_⟩
  · rintro ⟨s, hs, hok, -⟩
    rw [run_cons, run_nil, hstep, some.injEq] at hs
    subst hs
    exact not_tableOK_entered (by decide) hok
  · rw [run_cons, run_cons, hstep, run_nil]
    simp [staPrivStep, rtwFreeStainfo, rtwFreeCoreStainfo]

end Rtl8852be
