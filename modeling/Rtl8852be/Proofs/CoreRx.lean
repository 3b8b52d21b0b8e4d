import Rtl8852be.CoreRx
import Rtl8852be.Proofs.Defrag
import Rtl8852be.Lib.Places

/-!
# Who has a received frame

Each frame is free, in the queue of a station, or held by the functions that work on it. A request
is returned with the frame it is attached to, so a frame freed once returns it once.
-/

namespace Rtl8852be

open Run Places Function List CntQueue RecvFrame Nat Bool

variable {f g : RecvFrame} {held' : List RecvFrame}

inductive FramePlace (σ : Type*) where
  | free
  | defrag (sta : σ)
  | held

variable {σ : Type*}

def FramePlace.queue (s : RecvPriv σ) (held : List RecvFrame) : FramePlace σ → CntQueue ℕ
  | .free => s.freeRecvQueue
  | .defrag sta => ⟨(s.defragQ sta).map RecvFrame.id, (s.defragQ sta).length⟩
  | .held => ⟨held.map RecvFrame.id, held.length⟩

/-- Each frame is in one place, the counter is right, and no request was returned twice. -/
structure ReleasedOnce (num : ℕ) (s : RecvPriv σ) : Prop where
  placed : Placed (· < num) (FramePlace.queue s [])
  returned : s.returned.Nodup

def Owned (s : RecvPriv σ) (held : List RecvFrame) (f : RecvFrame) : Prop :=
  f ∈ held ∨ ∃ sta, f ∈ s.defragQ sta

/-- While the frames in `held` are worked on, the requests of the frames that are not free are not
returned yet, and each belongs to one frame. -/
structure RecvInv (num : ℕ) (held : List RecvFrame) (s : RecvPriv σ) : Prop where
  placed : Placed (· < num) (FramePlace.queue s held)
  req_fresh : ∀ f, Owned s held f → ∀ r ∈ f.rxReq, r < s.reqs ∧ r ∉ s.returned
  req_unique : ∀ f g r, Owned s held f → Owned s held g → r ∈ f.rxReq → r ∈ g.rxReq → f.id = g.id
  returned_lt : ∀ r ∈ s.returned, r < s.reqs
  returned_nodup : s.returned.Nodup
  pkt : ∀ sta, ∀ f ∈ s.defragQ sta, f.pkt = true

lemma recvInit_inv (num : ℕ) : RecvInv num [] (recvInit σ num) where
  placed :=
    { cover := fun x => by
        constructor
        · exact fun hx => ⟨.free, mem_range.2 hx⟩
        rintro ⟨_ | _ | _, hx⟩
        · exact mem_range.1 hx
        · cases hx
        · cases hx
      unique := by
        rintro x (_ | _ | _) (_ | _ | _) hx hx'
        all_goals first | rfl | cases hx | cases hx'
      nodup := by
        rintro ⟨⟩
        · exact nodup_range
        · exact nodup_nil
        · exact nodup_nil
      counted := by
        rintro ⟨⟩
        · exact length_range.symm
        · rfl
        · rfl }
  req_fresh := by simp [Owned]
  req_unique := by simp [Owned]
  returned_lt := by simp
  returned_nodup := nodup_nil
  pkt := by simp

variable {s : RecvPriv σ} {num : ℕ} {held : List RecvFrame}

section Moves

lemma counted_queue (hfree : s.freeRecvQueue.Counted) (held : List RecvFrame) :
    ∀ p, (FramePlace.queue s held p).Counted
  | .free => hfree
  | .defrag _ => (length_map _).symm
  | .held => (length_map _).symm

lemma RecvInv.rehand (h : RecvInv num held s) {s' : RecvPriv σ}
    (hplaced : Placed (· < num) (FramePlace.queue s' held')) (hret : s'.returned = s.returned)
    (hreqs : s'.reqs = s.reqs)
    (howned : ∀ f, Owned s' held' f →
      f.rxReq = none ∨ ∃ g, Owned s held g ∧ g.id = f.id ∧ g.rxReq = f.rxReq)
    (hpkt : ∀ sta, ∀ f ∈ s'.defragQ sta, f.pkt = true) : RecvInv num held' s' where
  placed := hplaced
  req_fresh := by
    intro f hf r hr
    rw [hret, hreqs]
    rcases howned f hf with hnone | ⟨g, hg, -, heq⟩
    · rw [hnone] at hr
      cases hr
    · exact h.req_fresh g hg r (heq ▸ hr)
  req_unique := by
    intro f f' r hf hf' hr hr'
    rcases howned f hf with hnone | ⟨g, hg, hid, heq⟩
    · rw [hnone] at hr
      cases hr
    rcases howned f' hf' with hnone | ⟨g', hg', hid', heq'⟩
    · rw [hnone] at hr'
      cases hr'
    rw [← hid, ← hid']
    exact h.req_unique g g' r hg hg' (heq ▸ hr) (heq' ▸ hr')
  returned_lt := by
    rw [hret, hreqs]
    exact h.returned_lt
  returned_nodup := by
    rw [hret]
    exact h.returned_nodup
  pkt := hpkt

lemma RecvInv.alloc (h : RecvInv num held s) (hid : s.freeRecvQueue.items.head? = some f.id)
    (hreq : f.rxReq = none) :
    RecvInv num (f :: held) { s with freeRecvQueue := s.freeRecvQueue.dropFirst } := by
  obtain ⟨xs, hxs⟩ := head?_eq_some_iff.1 hid
  have ht : Transferred (FramePlace.queue s held)
      (FramePlace.queue { s with freeRecvQueue := s.freeRecvQueue.dropFirst } (f :: held))
      [f.id] .free .held :=
    { source := by simp [FramePlace.queue, hxs]
      target := List.Perm.refl _
      others := by
        rintro (_ | sta | _) hfree hheld
        · exact absurd rfl hfree
        · rfl
        · exact absurd rfl hheld
      counted := counted_queue (h.placed.counted .free).dropFirst _ }
  refine h.rehand (h.placed.transfer ht (by simp)) rfl rfl (fun g hg => ?_) h.pkt
  rcases hg with hg | ⟨sta, hg⟩
  · rcases mem_cons.1 hg with rfl | hg
    · exact .inl hreq
    · exact .inr ⟨g, .inl hg, rfl, rfl⟩
  · exact .inr ⟨g, .inr ⟨sta, hg⟩, rfl, rfl⟩

lemma RecvInv.hold (h : RecvInv num held s)
    (hperm : (held'.map fun f => (f.id, f.rxReq)).Perm (held.map fun f => (f.id, f.rxReq))) :
    RecvInv num held' s := by
  have hids : (held'.map RecvFrame.id).Perm (held.map RecvFrame.id) := by
    simpa [map_map, comp_def] using hperm.map Prod.fst
  refine h.rehand (h.placed.reorder ?_ (counted_queue (h.placed.counted .free) _)) rfl rfl
    (fun f hf => .inr ?_) h.pkt
  · rintro (_ | sta | _)
    · exact List.Perm.refl _
    · exact List.Perm.refl _
    · exact hids
  · rcases hf with hf | ⟨sta, hf⟩
    · have hmem := hperm.mem_iff.1 (mem_map_of_mem hf)
      obtain ⟨g, hg, heq⟩ := mem_map.1 hmem
      rw [Prod.mk.injEq] at heq
      exact ⟨g, .inl hg, heq⟩
    · exact ⟨f, .inr ⟨sta, hf⟩, rfl, rfl⟩

lemma owned_place (hf : Owned s held f) :
    ∃ p, p ≠ .free ∧ f.id ∈ (FramePlace.queue s held p).items := by
  rcases hf with hf | ⟨sta, hf⟩
  · exact ⟨.held, by simp, mem_map_of_mem hf⟩
  · exact ⟨.defrag sta, by simp, mem_map_of_mem hf⟩

lemma queue_free_items (f : RecvFrame) (s : RecvPriv σ) (held : List RecvFrame) :
    ∀ p : FramePlace σ, p ≠ .free →
      (FramePlace.queue (rtwFreeRecvframe f s) (held.filter fun g => g.id ≠ f.id) p).items =
        (FramePlace.queue s held p).items.filter fun x => x ≠ f.id
  | .free, hp => absurd rfl hp
  | .defrag _, _ => by simp [FramePlace.queue, rtwFreeRecvframe, filter_map, comp_def]
  | .held, _ => by simp [FramePlace.queue, filter_map, comp_def]

lemma RecvInv.free_transferred (h : RecvInv num held s) {p : FramePlace σ} (hp : p ≠ .free)
    (hmem : f.id ∈ (FramePlace.queue s held p).items) :
    Transferred (FramePlace.queue s held)
      (FramePlace.queue (rtwFreeRecvframe f s) (held.filter fun g => g.id ≠ f.id)) [f.id]
      p .free := by
  have hnot : ∀ j, j ≠ p → f.id ∉ (FramePlace.queue s held j).items :=
    fun j hj hfj => hj (h.placed.unique hfj hmem)
  have herase : s.freeRecvQueue.items.erase f.id = s.freeRecvQueue.items :=
    erase_of_not_mem (hnot .free hp.symm)
  refine ⟨?_, ?_, ?_, counted_queue ?_ _⟩
  · have hfilter : (FramePlace.queue s held p).items.filter (fun x => x ≠ f.id) =
        (FramePlace.queue s held p).items.erase f.id := by
      rw [(h.placed.nodup p).erase_eq_filter]
      exact filter_congr fun x _ => by simp [bne, beq_eq_decide_eq]
    rw [queue_free_items f s held p hp, hfilter]
    exact perm_cons_erase hmem
  · simp only [FramePlace.queue, rtwFreeRecvframe, herase]
    exact perm_append_singleton _ _
  · intro j hj hfree
    rw [queue_free_items f s held j hfree, filter_eq_self]
    intro x hx
    have hne : x ≠ f.id := fun he => hnot j hj (he ▸ hx)
    simpa using hne
  · have hcnt := h.placed.counted .free
    simp only [CntQueue.Counted, FramePlace.queue] at hcnt
    simp [CntQueue.Counted, rtwFreeRecvframe, herase, hcnt]

lemma owned_free (hg : Owned (rtwFreeRecvframe f s) (held.filter fun g => g.id ≠ f.id) g) :
    Owned s held g ∧ g.id ≠ f.id := by
  rcases hg with hg | ⟨sta, hg⟩
  · obtain ⟨hg, hne⟩ := mem_filter.1 hg
    exact ⟨.inl hg, by simpa using hne⟩
  · obtain ⟨hg, hne⟩ := mem_filter.1 hg
    exact ⟨.inr ⟨sta, hg⟩, by simpa using hne⟩

lemma RecvInv.free (h : RecvInv num held s) (hg : Owned s held g) (hid : g.id = f.id)
    (hreq : g.rxReq = f.rxReq) :
    RecvInv num (held.filter fun g => g.id ≠ f.id) (rtwFreeRecvframe f s) where
  placed := by
    obtain ⟨p, hp, hmem⟩ := owned_place hg
    exact h.placed.transfer (h.free_transferred hp (hid ▸ hmem)) hp
  req_fresh := by
    intro k hk r hr
    obtain ⟨hk, hne⟩ := owned_free hk
    obtain ⟨hlt, hnot⟩ := h.req_fresh k hk r hr
    refine ⟨hlt, fun hmem => ?_⟩
    rcases mem_append.1 hmem with hmem | hmem
    · exact hnot hmem
    · have hrf : r ∈ g.rxReq := hreq ▸ Option.mem_toList.1 hmem
      exact hne ((h.req_unique k g r hk hg hr hrf).trans hid)
  req_unique := fun k k' r hk hk' hr hr' =>
    h.req_unique k k' r (owned_free hk).1 (owned_free hk').1 hr hr'
  returned_lt := forall_mem_append.2 ⟨h.returned_lt,
    fun r hr => (h.req_fresh g hg r (hreq ▸ Option.mem_toList.1 hr)).1⟩
  returned_nodup := by
    refine nodup_append.2 ⟨h.returned_nodup, ?_, ?_⟩
    · cases f.rxReq <;> simp
    · rintro r hr _ hr' rfl
      exact (h.req_fresh g hg r (hreq ▸ Option.mem_toList.1 hr')).2 hr
  pkt := fun sta k hk => h.pkt sta k (mem_filter.1 hk).1

lemma RecvInv.filter_held (h : RecvInv num (f :: held) s) :
    held.filter (fun g => g.id ≠ f.id) = held := by
  have hnodup : (f.id :: held.map RecvFrame.id).Nodup := h.placed.nodup .held
  rw [filter_eq_self]
  intro g hg
  have hne : g.id ≠ f.id := fun he =>
    (nodup_cons.1 hnodup).1 (he ▸ mem_map_of_mem hg)
  simpa using hne

lemma RecvInv.free_held (h : RecvInv num (f :: held) s) :
    RecvInv num held (rtwFreeRecvframe f s) := by
  have hfree := h.free (f := f) (g := f) (.inl (by simp)) rfl rfl
  rwa [filter_cons_of_neg (by simp), h.filter_held] at hfree

lemma RecvInv.free_queue : ∀ (fs : List RecvFrame) {s : RecvPriv σ}, RecvInv num (fs ++ held) s →
    RecvInv num held (rtwFreeRecvframeQueue fs s)
  | [], _, h => h
  | f :: fs, s, h => by
    have hfree : RecvInv num (fs ++ held) (rtwFreeRecvframe f s) := free_held h
    exact free_queue fs hfree

variable [DecidableEq σ]

lemma RecvInv.take_queue (h : RecvInv num held s) (sta : σ) :
    RecvInv num (s.defragQ sta ++ held)
      { s with defragQ := update s.defragQ sta [] } := by
  have hother : ∀ sta', sta' ≠ sta → update s.defragQ sta [] sta' = s.defragQ sta' :=
    fun sta' hne => update_of_ne hne _ _
  have ht : Transferred (FramePlace.queue s held)
      (FramePlace.queue { s with defragQ := update s.defragQ sta [] } (s.defragQ sta ++ held))
      ((s.defragQ sta).map RecvFrame.id) (.defrag sta) .held :=
    { source := by simp [FramePlace.queue]
      target := by simp [FramePlace.queue]
      others := by
        rintro (_ | sta' | _) hsta hheld
        · rfl
        · simp only [FramePlace.queue, hother sta' fun he => hsta (he ▸ rfl)]
        · exact absurd rfl hheld
      counted := by
        refine counted_queue ?_ _
        exact h.placed.counted .free }
  have hmem : ∀ sta' f, f ∈ update s.defragQ sta [] sta' → f ∈ s.defragQ sta' := by
    intro sta' f hf
    by_cases hne : sta' = sta
    · subst hne
      simp at hf
    · rwa [hother sta' hne] at hf
  refine h.rehand (h.placed.transfer ht (by simp)) rfl rfl (fun f hf => .inr ?_)
    fun sta' f hf => h.pkt sta' f (hmem sta' f hf)
  rcases hf with hf | ⟨sta', hf⟩
  · rcases mem_append.1 hf with hf | hf
    · exact ⟨f, .inr ⟨sta, hf⟩, rfl, rfl⟩
    · exact ⟨f, .inl hf, rfl, rfl⟩
  · exact ⟨f, .inr ⟨sta', hmem sta' f hf⟩, rfl, rfl⟩

lemma RecvInv.enqueue (h : RecvInv num (f :: held) s) (sta : σ) (hpkt : f.pkt = true) :
    RecvInv num held
      { s with defragQ := update s.defragQ sta (s.defragQ sta ++ [f]) } := by
  have hother : ∀ sta', sta' ≠ sta →
      update s.defragQ sta (s.defragQ sta ++ [f]) sta' = s.defragQ sta' :=
    fun sta' hne => update_of_ne hne _ _
  have ht : Transferred (FramePlace.queue s (f :: held))
      (FramePlace.queue { s with defragQ := update s.defragQ sta (s.defragQ sta ++ [f]) } held)
      [f.id] .held (.defrag sta) :=
    { source := List.Perm.refl _
      target := by
        simp only [FramePlace.queue, update_self, map_append, map_singleton]
        exact perm_append_singleton _ _
      others := by
        rintro (_ | sta' | _) hheld hsta
        · rfl
        · simp only [FramePlace.queue, hother sta' fun he => hsta (he ▸ rfl)]
        · exact absurd rfl hheld
      counted := by
        refine counted_queue ?_ _
        exact h.placed.counted .free }
  have hmem : ∀ sta' g, g ∈ update s.defragQ sta (s.defragQ sta ++ [f]) sta' →
      g ∈ s.defragQ sta' ∨ g = f := by
    intro sta' g hg
    by_cases hne : sta' = sta
    · subst hne
      simpa using hg
    · rw [hother sta' hne] at hg
      exact .inl hg
  refine h.rehand (h.placed.transfer ht (by simp)) rfl rfl (fun g hg => .inr ?_)
    fun sta' g hg => ?_
  · rcases hg with hg | ⟨sta', hg⟩
    · exact ⟨g, .inl (mem_cons_of_mem _ hg), rfl, rfl⟩
    · rcases hmem sta' g hg with hg | rfl
      · exact ⟨g, .inr ⟨sta', hg⟩, rfl, rfl⟩
      · exact ⟨g, .inl (by simp), rfl, rfl⟩
  · rcases hmem sta' g hg with hg | rfl
    · exact h.pkt sta' g hg
    · exact hpkt

end Moves

section Fragments

lemma append_same (f g : RecvFrame) :
    (f.append g).id = f.id ∧ (f.append g).rxReq = f.rxReq ∧ (f.append g).pkt = f.pkt := by
  simp only [append, recvframePullTail, recvframePut]
  split_ifs <;> exact ⟨rfl, rfl, rfl⟩

lemma foldl_append_same : ∀ (fs : List RecvFrame) (f : RecvFrame),
    (fs.foldl append f).id = f.id ∧ (fs.foldl append f).rxReq = f.rxReq ∧
      (fs.foldl append f).pkt = f.pkt
  | [], _ => ⟨rfl, rfl, rfl⟩
  | g :: fs, f => by
    obtain ⟨hid, hreq, hpkt⟩ := append_same f g
    obtain ⟨hid', hreq', hpkt'⟩ := foldl_append_same fs (f.append g)
    exact ⟨hid'.trans hid, hreq'.trans hreq, hpkt'.trans hpkt⟩

lemma recvframeDefrag_frames (fs : List RecvFrame) : recvframeDefrag fs = (none, fs) ∨
      ∃ f rest g, fs = f :: rest ∧ recvframeDefrag fs = (some g, rest) ∧
        g.id = f.id ∧ g.rxReq = f.rxReq ∧ g.pkt = f.pkt := by
  cases fs with
  | nil => exact .inl rfl
  | cons f rest =>
    simp only [recvframeDefrag]
    split_ifs with hnum
    · exact .inl rfl
    rcases hloop : defragLoop f (f.nextPn 0) 1 rest with _ | g
    · exact .inl rfl
    · obtain ⟨-, rfl⟩ := (defragLoop_eq_some_iff rest f g _ _).1 hloop
      exact .inr ⟨f, rest, _, rfl, rfl, foldl_append_same rest f⟩

variable {e : RxFragment σ} {sta : σ}

lemma RecvInv.free_sta : ∀ (fs : List RecvFrame) {s : RecvPriv σ}, RecvInv num [] s →
    (∀ f ∈ fs, f ∈ s.defragQ sta) → (fs.map RecvFrame.id).Nodup →
    RecvInv num [] (rtwFreeRecvframeQueue fs s)
  | [], _, h, _, _ => h
  | f :: fs, s, h, hmem, hnodup => by
    obtain ⟨hnot, hnodup⟩ := nodup_cons.1 hnodup
    have hfree : RecvInv num [] (rtwFreeRecvframe f s) :=
      h.free (.inr ⟨sta, hmem f (by simp)⟩) rfl rfl
    refine free_sta fs hfree (fun g hg => mem_filter.2 ⟨hmem g (by simp [hg]), ?_⟩) hnodup
    have hne : g.id ≠ f.id := fun he => hnot (he ▸ mem_map_of_mem hg)
    simpa using hne

lemma mem_defragQ_free_queue : ∀ (fs : List RecvFrame) {s : RecvPriv σ},
    f ∈ s.defragQ sta → (∀ g ∈ fs, g.id ≠ f.id) → f ∈ (rtwFreeRecvframeQueue fs s).defragQ sta
  | [], _, hf, _ => hf
  | g :: fs, s, hf, hne => by
    have hstill : f ∈ (rtwFreeRecvframe g s).defragQ sta :=
      mem_filter.2 ⟨hf, by simpa using (hne g (by simp)).symm⟩
    exact mem_defragQ_free_queue fs hstill fun g' hg' => hne g' (by simp [hg'])

lemma RecvInv.queued (h : RecvInv num (e.frame :: held) s) : RecvInv num (e.queued :: held) s :=
  h.hold (List.Perm.refl _)

variable [DecidableEq σ]

lemma rxChkDefrag_pass (s : RecvPriv σ)
    (h : (e.frame.mfrag = false ∧ e.frame.fragNum = 0) ∨ e.sta = none) :
    rxChkDefrag e s = (.continue, some e.frame, s) ∨
      rxChkDefrag e s = (.drop, some e.frame, s) := by
  by_cases hwhole : e.frame.mfrag = false ∧ e.frame.fragNum = 0
  · have hchk : chkDefrag s.defragQ e = ⟨.continue, e.frame, e.sta.map s.defragQ, []⟩ := by
      simp only [chkDefrag, recvframeChkDefrag, if_pos hwhole]
    have hstep : defragStep s.defragQ e = s.defragQ := by
      rcases hsta : e.sta with _ | sta
      · simp [defragStep, hsta]
      · simp [defragStep, hchk, hsta]
    refine .inl ?_
    simp only [rxChkDefrag, hchk, hstep]
    rfl
  · have hsta : e.sta = none := h.resolve_left hwhole
    have hchk : chkDefrag s.defragQ e = ⟨.drop, e.frame, none, []⟩ := by
      simp [chkDefrag, recvframeChkDefrag, if_neg hwhole, hsta]
    refine .inr ?_
    simp only [rxChkDefrag, hchk, defragStep, hsta]
    rfl

lemma rxChkDefrag_wait (s : RecvPriv σ) (hmore : e.frame.mfrag = true) (hsta : e.sta = some sta) :
    rxChkDefrag e s = if e.frame.fragNum = 0 then
        (.defrag, some e.queued, rtwFreeRecvframeQueue (s.defragQ sta)
          { s with defragQ := update s.defragQ sta [e.queued] })
      else
        (.defrag, some e.queued,
          { s with defragQ := update s.defragQ sta (s.defragQ sta ++ [e.queued]) }) := by
  have hne : ¬ (e.frame.mfrag = false ∧ e.frame.fragNum = 0) := by simp [hmore]
  have hchk : chkDefrag s.defragQ e =
      if e.frame.fragNum = 0 then ⟨.defrag, e.queued, some [e.queued], s.defragQ sta⟩
      else ⟨.defrag, e.queued, some (s.defragQ sta ++ [e.queued]), []⟩ := by
    simp [chkDefrag, hsta, recvframeChkDefrag]
    rw [if_neg hne, if_pos (by exact hmore)]
    rfl
  simp only [rxChkDefrag, defragStep, hchk, hsta]
  split_ifs <;> rfl

lemma RecvInv.chk_wait (h : RecvInv num (e.frame :: held) s) (hpkt : e.frame.pkt = true)
    (hmore : e.frame.mfrag = true) (hsta : e.sta = some sta) :
    RecvInv num held (rxChkDefrag e s).2.2 := by
  rw [rxChkDefrag_wait s hmore hsta]
  split_ifs
  · -- the old fragments are taken out of the queue, the new one goes there, and the old are freed
    have htaken := h.queued.take_queue sta
    have hqueued : RecvInv num (e.queued :: (s.defragQ sta ++ held))
        { s with defragQ := update s.defragQ sta [] } :=
      htaken.hold (perm_middle.map _).symm
    have hput := hqueued.enqueue sta hpkt
    simp at hput
    exact free_queue _ hput
  · exact h.queued.enqueue sta hpkt

lemma RecvInv.chk_wait_mem (h : RecvInv num (e.frame :: held) s) (hmore : e.frame.mfrag = true)
    (hsta : e.sta = some sta) : e.queued ∈ (rxChkDefrag e s).2.2.defragQ sta := by
  rw [rxChkDefrag_wait s hmore hsta]
  split_ifs
  · refine mem_defragQ_free_queue _ (by simp) fun g hg hid => ?_
    have hheld : e.frame.id ∈ (FramePlace.queue s (e.frame :: held) .held).items := by
      simp [FramePlace.queue]
    have hqueue : e.frame.id ∈ (FramePlace.queue s (e.frame :: held) (.defrag sta)).items :=
      mem_map.2 ⟨g, hg, hid⟩
    exact absurd (h.placed.unique hheld hqueue) (by simp)
  · simp

/-- Nothing if the frame waits in the queue, the frame to go on with, or one to be dropped. -/
inductive Handed (num : ℕ) (held : List RecvFrame) :
    CoreRxState × Option RecvFrame × RecvPriv σ → Prop
  | queued {f : Option RecvFrame} {s : RecvPriv σ} (h : RecvInv num held s) :
    Handed num held (.defrag, f, s)
  | passed {f : RecvFrame} {s : RecvPriv σ} (hpkt : f.pkt = true) (h : RecvInv num (f :: held) s) :
    Handed num held (.continue, some f, s)
  | dropped {f : Option RecvFrame} {s : RecvPriv σ} (h : RecvInv num (f.toList ++ held) s) :
    Handed num held (.drop, f, s)

lemma RecvInv.chk_last (h : RecvInv num (e.frame :: held) s) (hpkt : e.frame.pkt = true)
    (hlast : e.frame.IsLast) (hsta : e.sta = some sta) : Handed num held (rxChkDefrag e s) := by
  simp only [rxChkDefrag, defragStep, chkDefrag_last s.defragQ hlast hsta, hsta]
  have htaken : RecvInv num (s.defragQ sta ++ [e.queued] ++ held)
      { s with defragQ := update s.defragQ sta [] } := by
    rw [append_assoc]
    exact h.queued.take_queue sta
  rcases recvframeDefrag_frames (s.defragQ sta ++ [e.queued]) with
    hres | ⟨f, rest, g, hfs, hres, hid, hreq, hgpkt⟩
  · rw [hres]
    exact .dropped (free_queue _ htaken)
  rw [hres]
  have hfpkt : f.pkt = true := by
    have hf : f ∈ s.defragQ sta ++ [e.queued] := by simp [hfs]
    rcases mem_append.1 hf with hf | hf
    · exact h.pkt sta f hf
    · rwa [mem_singleton.1 hf]
  rw [hfs] at htaken
  have hheld : RecvInv num (rest ++ g :: held) { s with defragQ := update s.defragQ sta [] } :=
    htaken.hold (by simp [hid, hreq])
  exact .passed (hgpkt.trans hfpkt) (free_queue rest hheld)

lemma RecvInv.chk_defrag (h : RecvInv num (e.frame :: held) s) (hpkt : e.frame.pkt = true) :
    Handed num held (rxChkDefrag e s) := by
  by_cases hpass : (e.frame.mfrag = false ∧ e.frame.fragNum = 0) ∨ e.sta = none
  · rcases rxChkDefrag_pass s hpass with heq | heq
    · rw [heq]
      exact .passed hpkt h
    · rw [heq]
      exact .dropped h
  · obtain ⟨hfrag, hne⟩ := not_or.1 hpass
    obtain ⟨sta, hsta⟩ := Option.ne_none_iff_exists'.1 hne
    cases hmore : e.frame.mfrag with
    | true =>
      have hwait := h.chk_wait hpkt hmore hsta
      rw [rxChkDefrag_wait s hmore hsta] at hwait ⊢
      split_ifs at hwait ⊢ <;> exact .queued hwait
    | false => exact h.chk_last hpkt ⟨hmore, fun h0 => hfrag ⟨hmore, h0⟩⟩ hsta

end Fragments

section Iteration

variable {m : Mpdu σ}

lemma owned_attach (hg : Owned (attachReq f s).2 ((attachReq f s).1 :: held) g) :
    g = (attachReq f s).1 ∨ Owned s (f :: held) g := by
  rcases hg with hg | hg
  · rcases mem_cons.1 hg with rfl | hg
    · exact .inl rfl
    · exact .inr (.inl (mem_cons_of_mem _ hg))
  · exact .inr (.inr hg)

lemma RecvInv.attach (h : RecvInv num (f :: held) s) :
    RecvInv num ((attachReq f s).1 :: held) (attachReq f s).2 where
  placed := h.placed
  req_fresh := by
    intro g hg r hr
    rcases owned_attach hg with rfl | hg
    · cases hr
      exact ⟨lt_succ_self _, fun hmem => lt_irrefl _ (h.returned_lt _ hmem)⟩
    · obtain ⟨hlt, hnot⟩ := h.req_fresh g hg r hr
      exact ⟨lt_succ_of_lt hlt, hnot⟩
  req_unique := by
    intro g g' r hg hg' hr hr'
    rcases owned_attach hg with rfl | hg
    · rcases owned_attach hg' with rfl | hg'
      · rfl
      · cases hr
        exact absurd (h.req_fresh g' hg' _ hr').1 (lt_irrefl _)
    · rcases owned_attach hg' with rfl | hg'
      · cases hr'
        exact absurd (h.req_fresh g hg _ hr).1 (lt_irrefl _)
      · exact h.req_unique g g' r hg hg' hr hr'
  returned_lt := fun r hr => lt_succ_of_lt (h.returned_lt r hr)
  returned_nodup := h.returned_nodup
  pkt := h.pkt

lemma RecvInv.post_process (h : RecvInv num (f :: held) s) (hpkt : f.pkt = true) :
    (∃ t, rtwCoreRxDataPostProcess m f s = (.done, t) ∧ RecvInv num held t) ∨
      rtwCoreRxDataPostProcess m f s = (.drop, s) := by
  simp only [rtwCoreRxDataPostProcess, coreRxProcessMsdu, rtwRecvIndicatepkt, hpkt]
  split_ifs
  · exact .inl ⟨_, rfl, h.free_held⟩
  · exact .inr rfl
  · exact .inr rfl
  · exact .inl ⟨_, rfl, h.free_held⟩
  · exact .inr rfl
  · exact .inl ⟨_, rfl, h.free_held⟩

/-- A management frame that is a last fragment and reaches a queue: `recvframe_defrag` frees it or
loses it, and the caller of `validate_recv_frame` frees it again. -/
def FreedTwice (v : Validation σ) (f : RecvFrame) : Prop :=
  v.verOk = true ∧ f.type = .mgmt ∧ v.protectOk = true ∧ f.IsLast ∧ (v.fragment f).sta ≠ none

variable [DecidableEq σ]
variable {v : Validation σ}

lemma RecvInv.mgnt_free (h : RecvInv num (f :: held) s) (hpkt : f.pkt = true)
    (hok : ¬ (f.IsLast ∧ (v.fragment f).sta ≠ none)) :
    RecvInv num held (rtwFreeRecvframe f (rxChkDefrag (v.fragment f) s).2.2) := by
  by_cases hpass : (f.mfrag = false ∧ f.fragNum = 0) ∨ (v.fragment f).sta = none
  · rcases rxChkDefrag_pass (e := v.fragment f) s hpass with heq | heq
    all_goals
      rw [heq]
      exact h.free_held
  · obtain ⟨hfrag, hne⟩ := not_or.1 hpass
    obtain ⟨sta, hsta⟩ := Option.ne_none_iff_exists'.1 hne
    have hmore : f.mfrag = true := by
      by_contra hmore
      rw [not_eq_true] at hmore
      exact hok ⟨⟨hmore, fun h0 => hfrag ⟨hmore, h0⟩⟩, hne⟩
    -- the fragment waits in the queue, from where the caller takes it
    have hwait := chk_wait (e := v.fragment f) h hpkt hmore hsta
    have hmem := chk_wait_mem (e := v.fragment f) h hmore hsta
    have hfree := hwait.free (f := f) (.inr ⟨sta, hmem⟩) rfl rfl
    rwa [h.filter_held] at hfree

lemma RecvInv.validate_free (h : RecvInv num (f :: held) s) (hpkt : f.pkt = true)
    (hok : ¬ FreedTwice v f) :
    RecvInv num held (rtwFreeRecvframe f (validateRecvFrame v f s).2) := by
  simp only [validateRecvFrame]
  split_ifs with hver
  · exact h.free_held
  cases htype : f.type with
  | mgmt =>
    simp only [validateRecvMgntFrame]
    split_ifs with hprotect
    · exact h.mgnt_free hpkt fun hlast => hok ⟨by simpa using hver, htype, hprotect, hlast⟩
    · exact h.free_held
  | ctrl | data | reserved => exact h.free_held

lemma validateRecvFrame_continue (h : (validateRecvFrame v f s).1 = true) :
    (validateRecvFrame v f s).2 = s := by
  simp only [validateRecvFrame] at h ⊢
  split_ifs at h ⊢
  cases htype : f.type with
  | mgmt => simp [htype] at h
  | ctrl | data | reserved => rfl

lemma RecvInv.clone {io : BuddyIo σ} (h : RecvInv num held s)
    (hok : s.freeRecvQueue.items ≠ [] → io.duplicated = true → ¬ FreedTwice io.validation f) :
    RecvInv num held (cloneBcmcPacket f s io) := by
  rcases hhead : s.freeRecvQueue.items.head? with _ | x
  · have hnil : s.freeRecvQueue.items = [] := head?_eq_none_iff.1 hhead
    simp only [cloneBcmcPacket, rtwAllocRecvframe, hhead, dropFirst_nil hnil]
    exact h
  have hne : s.freeRecvQueue.items ≠ [] := by
    rintro hnil
    simp [hnil] at hhead
  have halloc := h.alloc (f := { f with id := x, rxReq := none, pkt := io.duplicated }) hhead rfl
  simp only [cloneBcmcPacket, rtwAllocRecvframe, hhead]
  split_ifs with hdup
  · exact halloc.validate_free hdup (hok hne hdup)
  · exact halloc.free_held

lemma RecvInv.clones : ∀ (ios : List (BuddyIo σ)) {s : RecvPriv σ}, RecvInv num held s →
    (s.freeRecvQueue.items ≠ [] → ∀ io ∈ ios, io.duplicated = true → ¬ FreedTwice io.validation f) →
    RecvInv num held (rtwMiBuddyCloneBcmcPacket ios f s)
  | [], _, h, _ => h
  | io :: ios, s, h, hok => by
    have hclone : RecvInv num held (cloneBcmcPacket f s io) :=
      h.clone fun hne => hok hne io (by simp)
    refine clones ios hclone fun hne io' hio' => ?_
    by_cases hnil : s.freeRecvQueue.items = []
    · -- without a free frame nothing is cloned, and there still is none
      have hsame : cloneBcmcPacket f s io = s := by
        simp [cloneBcmcPacket, rtwAllocRecvframe, hnil, dropFirst_nil hnil]
      rw [hsame] at hne
      exact absurd hnil hne
    · exact hok hnil io' (by simp [hio'])

lemma RecvInv.update (h : RecvInv num (f :: held) s)
    (hok : m.pktOk = true → m.bmc = true → s.freeRecvQueue.items ≠ [] →
      ∀ io ∈ m.buddies, io.duplicated = true → ¬ FreedTwice io.validation f) :
    RecvInv num ((rtwCoreUpdateRecvframe m f s).2.1 :: held)
      (rtwCoreUpdateRecvframe m f s).2.2 := by
  simp only [rtwCoreUpdateRecvframe]
  split_ifs with hpkt hbmc
  · exact h.attach
  · have hpkt : RecvInv num ({ f with pkt := true } :: held) s := h.hold (List.Perm.refl _)
    exact (hpkt.clones m.buddies (hok (by simpa using ‹¬ m.pktOk = false›) hbmc)).attach
  · have hpkt : RecvInv num ({ f with pkt := true } :: held) s := h.hold (List.Perm.refl _)
    exact hpkt.attach

lemma rtwCoreUpdateRecvframe_continue (h : (rtwCoreUpdateRecvframe m f s).1 = true) :
    m.pktOk = true ∧ (m.bmc = true ∨ m.iface = true) ∧ m.monitor = false ∧
      ∃ r, (rtwCoreUpdateRecvframe m f s).2.1 = { f with pkt := true, rxReq := r } := by
  simp only [rtwCoreUpdateRecvframe] at h ⊢
  split_ifs at h ⊢ with hpkt hbmc
  · exact ⟨by simpa using hpkt, .inl hbmc, by simpa using h, _, rfl⟩
  · rw [and_eq_true] at h
    exact ⟨by simpa using hpkt, .inr h.1, by simpa using h.2, _, rfl⟩

lemma RecvInv.pre_process (h : RecvInv num (f :: held) s) (hpkt : f.pkt = true) :
    Handed num held (rtwCoreRxDataPreProcess m f s) := by
  simp only [rtwCoreRxDataPreProcess]
  by_cases hdec : m.decryptor = false
  · rw [if_pos hdec]
    exact .dropped h
  rw [if_neg hdec]
  have hchk := chk_defrag (e := m.validation.fragment f) h hpkt
  rcases hres : rxChkDefrag (m.validation.fragment f) s with ⟨ret, g, t⟩
  rw [hres] at hchk
  cases hchk with
  | queued h => exact .queued h
  | passed hpkt h =>
    split_ifs
    · exact .dropped h
    · exact .dropped h
    · exact .passed hpkt h
  | dropped h => exact .dropped h

lemma RecvInv.rx_data (h : RecvInv num (f :: held) s) (hpkt : f.pkt = true) :
    RecvInv num held (rxData m f s) := by
  have hpre := h.pre_process hpkt (m := m)
  rcases hres : rtwCoreRxDataPreProcess m f s with ⟨ret, g, t⟩
  rw [hres] at hpre
  simp only [rxData, hres]
  cases hpre with
  | queued h => exact h
  | passed hpkt h =>
    rcases h.post_process hpkt (m := m) with ⟨t', hpost, h'⟩ | hpost
    · simp only [hpost]
      exact h'
    · simp only [hpost]
      exact h.free_held
  | dropped h =>
    cases g with
    | none => exact h
    | some g => exact free_held h

/-- No management frame that is a last fragment gets to a queue, neither the frame itself nor a
copy of it. -/
def RecvOK (s : RecvPriv σ) : RecvEvent σ → Prop
  | .mpdu m => m.query = true → m.pktOk = true → (m.bmc = true → 2 ≤ s.freeRecvQueue.items.length →
      ∀ io ∈ m.buddies, io.duplicated = true → ¬ FreedTwice io.validation m.frame) ∧
    (1 ≤ s.freeRecvQueue.items.length → m.bmc = true ∨ m.iface = true → m.monitor = false →
      m.rxErr = false → m.adapterUp = true → ¬ FreedTwice m.validation m.frame)
  | .freeSta _ => True

lemma RecvInv.iteration (h : RecvInv num [] s) (hok : RecvOK s (.mpdu m)) :
    RecvInv num [] (rxIteration m s).2 := by
  rcases hhead : s.freeRecvQueue.items.head? with _ | x
  · have hnil : s.freeRecvQueue.items = [] := head?_eq_none_iff.1 hhead
    simp only [rxIteration, rtwAllocRecvframe, hhead, dropFirst_nil hnil]
    exact h
  obtain ⟨xs, hxs⟩ := head?_eq_some_iff.1 hhead
  set f : RecvFrame := { m.frame with id := x, rxReq := none, pkt := false } with hf
  set t : RecvPriv σ := { s with freeRecvQueue := s.freeRecvQueue.dropFirst } with ht
  have halloc : RecvInv num [f] t := h.alloc (f := f) hhead rfl
  simp only [rxIteration, rtwAllocRecvframe, hhead, ← hf, ← ht]
  by_cases hquery : m.query = false
  · rw [if_pos hquery]
    exact halloc.free_held
  rw [if_neg hquery]
  rw [not_eq_false] at hquery
  have hlen : t.freeRecvQueue.items ≠ [] → 2 ≤ s.freeRecvQueue.items.length := by
    intro hne
    simp [ht, dropFirst_items, hxs] at hne
    have := length_pos_of_ne_nil hne
    simp [hxs]
    omega
  have hupdate := halloc.update (m := m) fun hpkt hbmc hne => (hok hquery hpkt).1 hbmc (hlen hne)
  rcases hres : rtwCoreUpdateRecvframe m f t with ⟨_ | _, g, t'⟩
  · rw [hres] at hupdate
    exact hupdate.free_held
  rw [hres] at hupdate
  obtain ⟨hpkt, hiface, hmonitor, r, hg⟩ :=
    rtwCoreUpdateRecvframe_continue (m := m) (f := f) (s := t) (by rw [hres])
  rw [hres] at hg
  dsimp only at hg ⊢
  by_cases herr : m.rxErr = true ∨ m.adapterUp = false
  · rw [if_pos herr]
    exact hupdate.free_held
  rw [if_neg herr]
  obtain ⟨herr, hup⟩ := not_or.1 herr
  have hgpkt : g.pkt = true := by rw [hg]
  have honce : ¬ FreedTwice m.validation g := by
    rw [hg]
    exact (hok hquery hpkt).2 (by simp [hxs]) hiface hmonitor (by simpa using herr)
      (by simpa using hup)
  have hfree := hupdate.validate_free hgpkt honce
  rcases hval : validateRecvFrame m.validation g t' with ⟨_ | _, t''⟩
  · rw [hval] at hfree
    exact hfree
  · have hsame := validateRecvFrame_continue (v := m.validation) (f := g) (s := t') (by rw [hval])
    rw [hval] at hsame
    subst hsame
    exact hupdate.rx_data hgpkt

lemma RecvInv.step (h : RecvInv num [] s) (e : RecvEvent σ) (hok : RecvOK s e) :
    RecvInv num [] (recvStep s e) := by
  cases e with
  | mpdu m => exact h.iteration hok
  | freeSta sta => exact free_sta _ h (fun _ hf => hf) (h.placed.nodup (.defrag sta))

instance (v : Validation σ) (f : RecvFrame) : Decidable (FreedTwice v f) := by
  unfold FreedTwice
  infer_instance

instance (s : RecvPriv σ) : ∀ e : RecvEvent σ, Decidable (RecvOK s e)
  | .mpdu m => by
    unfold RecvOK
    infer_instance
  | .freeSta _ => inferInstanceAs (Decidable True)

/-- A call goes through the packets up to one at which the loop stops. -/
lemma rtwCoreRxProcess_eq_run : ∀ (ms : List (Mpdu σ)) (s : RecvPriv σ),
    ∃ ms', ms' <+: ms ∧ rtwCoreRxProcess ms s = run recvStep s (ms'.map .mpdu)
  | [], _ => ⟨[], prefix_refl _, rfl⟩
  | m :: ms, s => by
    rcases hm : rxIteration m s with ⟨_ | _, t⟩
    · refine ⟨[m], by simp, ?_⟩
      simp [rtwCoreRxProcess, hm, recvStep]
    · obtain ⟨ms', hp, heq⟩ := rtwCoreRxProcess_eq_run ms t
      refine ⟨m :: ms', cons_prefix_cons.2 ⟨rfl, hp⟩, ?_⟩
      simp [rtwCoreRxProcess, hm, recvStep, heq]

/-- In every run in which no management frame that is a last fragment gets to a queue, after each
step and each call of `rtw_core_rx_process`. -/
theorem recv_released_once_run (num : ℕ) (es : List (RecvEvent σ))
    (hok : RunOK recvStep RecvOK (recvInit σ num) es) (es' : List (RecvEvent σ))
    (ms : List (Mpdu σ)) (hp : es' ++ ms.map .mpdu <+: es) :
    ReleasedOnce num (rtwCoreRxProcess ms (run recvStep (recvInit σ num) es')) := by
  obtain ⟨ms', hms, heq⟩ := rtwCoreRxProcess_eq_run ms (run recvStep (recvInit σ num) es')
  have hp' : es' ++ ms'.map .mpdu <+: es := (prefix_append_right_inj _ |>.2 (hms.map _)).trans hp
  have hinv := run_inv recvStep RecvOK (P := RecvInv num []) (fun s e h hok => h.step e hok)
    (es' ++ ms'.map .mpdu) _ (recvInit_inv num) (hok.of_prefix hp')
  rw [run, foldl_append] at hinv
  rw [heq]
  exact ⟨hinv.placed, hinv.returned_nodup⟩

end Iteration

def plainMpdu (type : FrameType) (fragNum : Fin 16) (mfrag : Bool) : Mpdu Unit where
  query := true
  frame := { (plainFragment 1 fragNum mfrag []).frame with type := type }
  pktOk := true
  bmc := false
  iface := true
  buddies := []
  monitor := false
  rxErr := false
  adapterUp := true
  validation := ⟨true, true, true, some (), none, 0⟩
  decryptor := true
  chkmic := true
  portctrl := true
  amsdu := false
  actIndicate := true
  actForward := false
  wlanhdrToEthhdr := true
  indicatepktCheck := true

def recvSample : List (Mpdu Unit) :=
  [plainMpdu .data 0 true, plainMpdu .data 1 false, plainMpdu .mgmt 0 false, plainMpdu .mgmt 0 true]

theorem recv_released_once_sample : RunOK recvStep RecvOK (recvInit Unit 4) (recvSample.map .mpdu) ∧
      ReleasedOnce 4 (rtwCoreRxProcess recvSample (recvInit Unit 4)) :=
  ⟨by decide +kernel,
    recv_released_once_run 4 (recvSample.map .mpdu) (by decide +kernel) [] recvSample
      (prefix_refl _)⟩

/-- A single management frame with fragment number 1 is freed twice. -/
theorem recv_mgmt_freed_twice :
    ¬ ReleasedOnce 4 (rtwCoreRxProcess [plainMpdu .mgmt 1 false] (recvInit Unit 4)) := by
  intro h
  have hnodup := h.returned
  exact absurd hnodup (by decide +kernel)

end Rtl8852be
