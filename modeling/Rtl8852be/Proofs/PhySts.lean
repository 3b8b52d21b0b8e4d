import Rtl8852be.Lib.Lanes
import Rtl8852be.PhySts

/-!
# Nothing that waits for its PHY status is lost, doubled or given another's status

Every flush is followed by a reset, which drops nothing, for only the queue of the current PPDU of a
band is in use, and its counter is right (`PstsInv`).
-/

namespace Rtl8852be

open Run Function List StsPkt PpduStsInfo

variable {para : PpduStsPara} {s : PpduStsInfo} {b : Fin 2} {i : ℕ} {pkt sts : StsPkt}
variable {b' : Fin 2} {m : StsPkt} {env : StsEnv} {l : List StsPkt} {s' : PpduStsInfo}

namespace PpduStsInfo

def waiting (s : PpduStsInfo) (b : Fin 2) : List StsPkt := (s.frames b (s.curPpduCnt b)).items

@[simp] def pass (s : PpduStsInfo) (b : Fin 2) (l : List StsPkt) : PpduStsInfo :=
  (s.pqReset b (s.curPpduCnt b)).handleNormal l

def newPpdu (s : PpduStsInfo) (b : Fin 2) (i : ℕ) : PpduStsInfo :=
  (s.pass b (s.waiting b)).setCur b i

def enqueue (s : PpduStsInfo) (b : Fin 2) (pkt : StsPkt) : PpduStsInfo :=
  ((s.pqPush b (s.curPpduCnt b) pkt).accept b pkt.no).count

def bypass (s : PpduStsInfo) (pkt : StsPkt) : PpduStsInfo := (s.handleNormal [pkt]).count

lemma setFrames_self (s : PpduStsInfo) (b : Fin 2) (i : ℕ) (q : CntQueue StsPkt) :
    (s.setFrames b i q).frames b i = q := by simp [setFrames]

lemma setFrames_of_ne (s : PpduStsInfo) {i i' : ℕ} (q : CntQueue StsPkt) (h : b' ≠ b ∨ i' ≠ i) :
    (s.setFrames b i q).frames b' i' = s.frames b' i' := by
  by_cases hb : b' = b
  · subst hb
    have hi : i' ≠ i := h.resolve_left (by simp)
    simp [setFrames, hi]
  · simp [setFrames, hb]

lemma setFrames_eq_self {q : CntQueue StsPkt} (h : s.frames b i = q) : s.setFrames b i q = s := by
  subst h
  simp [setFrames]

end PpduStsInfo

structure PstsQueues (s : PpduStsInfo) : Prop where
  range : ∀ b, s.curPpduCnt b < phlMaxPpduCnt
  idle : ∀ b i, i ≠ s.curPpduCnt b → s.frames b i = ⟨[], 0⟩
  counted : ∀ b, (s.frames b (s.curPpduCnt b)).Counted
  own : ∀ b, ∀ m ∈ s.waiting b, m.band = b ∧ m.mdata.ppduCnt = s.curPpduCnt b

namespace PstsQueues

lemma pass (h : PstsQueues s) (b : Fin 2) (l : List StsPkt) : PstsQueues (s.pass b l) := by
  have hframes : ∀ b' i', (s.pass b l).frames b' i' =
      if b' = b ∧ i' = s.curPpduCnt b then ⟨[], 0⟩ else s.frames b' i' := by
    intro b' i'
    split_ifs with hb
    · obtain ⟨rfl, rfl⟩ := hb
      exact s.setFrames_self _ _ _
    · exact s.setFrames_of_ne _ (by tauto)
  refine ⟨h.range, fun b' i' hi => ?_, fun b' => ?_, fun b' m hm => ?_⟩
  · rw [hframes]
    split_ifs
    · rfl
    · exact h.idle b' i' hi
  · have hcur : (s.pass b l).curPpduCnt = s.curPpduCnt := rfl
    rw [hframes, hcur]
    split_ifs
    · rfl
    · exact h.counted b'
  · have hcur : (s.pass b l).curPpduCnt = s.curPpduCnt := rfl
    rw [waiting, hframes, hcur] at hm
    split_ifs at hm
    · cases hm
    · exact h.own b' m hm

lemma waiting_pass (s : PpduStsInfo) (b : Fin 2) (l : List StsPkt) :
    (s.pass b l).waiting b = [] := by
  have hself : (s.pass b l).frames b (s.curPpduCnt b) = ⟨[], 0⟩ := s.setFrames_self _ _ _
  exact congrArg CntQueue.items hself

lemma waiting_pass_of_ne (s : PpduStsInfo) (hb : b' ≠ b) (l : List StsPkt) :
    (s.pass b l).waiting b' = s.waiting b' :=
  congrArg CntQueue.items (s.setFrames_of_ne _ (.inl hb))

lemma eq_nil (h : PstsQueues s) (hb : s.waiting b = []) (i : ℕ) : s.frames b i = ⟨[], 0⟩ := by
  by_cases hi : i = s.curPpduCnt b
  · have hcnt := h.counted b
    rcases hq : s.frames b (s.curPpduCnt b) with ⟨items, cnt⟩
    rw [waiting, hq] at hb
    rw [hq, CntQueue.Counted] at hcnt
    simp_all
  · exact h.idle b i hi

lemma setCur (h : PstsQueues s) (hb : s.waiting b = []) (hi : i < phlMaxPpduCnt) :
    PstsQueues (s.setCur b i) := by
  have hcur : ∀ {b'}, b' ≠ b → (s.setCur b i).curPpduCnt b' = s.curPpduCnt b' := fun hb' =>
    update_of_ne hb' _ _
  have hself : (s.setCur b i).curPpduCnt b = i := update_self _ _ _
  have hframes : (s.setCur b i).frames = s.frames := rfl
  refine ⟨fun b' => ?_, fun b' i' hi' => ?_, fun b' => ?_, fun b' m hm => ?_⟩ <;>
    by_cases hb' : b' = b
  · rwa [hb', hself]
  · rw [hcur hb']
    exact h.range b'
  · rw [hb']
    exact h.eq_nil hb i'
  · rw [hcur hb'] at hi'
    exact h.idle b' i' hi'
  · rw [hb', hself, hframes, h.eq_nil hb i]
    rfl
  · rw [hcur hb']
    exact h.counted b'
  · rw [waiting, hframes, hb', h.eq_nil hb] at hm
    cases hm
  · rw [waiting, hframes, hcur hb'] at hm
    rw [hcur hb']
    exact h.own b' m hm

lemma newPpdu (h : PstsQueues s) (hi : i < phlMaxPpduCnt) : PstsQueues (s.newPpdu b i) :=
  (h.pass b _).setCur (waiting_pass s b _) hi

lemma waiting_newPpdu (h : PstsQueues s) (b : Fin 2) (i : ℕ) :
    (s.newPpdu b i).waiting b = [] := by
  have hempty := (h.pass b (s.waiting b)).eq_nil (waiting_pass s b _)
  exact congrArg CntQueue.items (hempty _)

lemma waiting_newPpdu_of_ne (s : PpduStsInfo) (hb : b' ≠ b) (i : ℕ) :
    (s.newPpdu b i).waiting b' = s.waiting b' := by
  have hcur : (s.newPpdu b i).curPpduCnt b' = s.curPpduCnt b' := update_of_ne hb _ _
  rw [waiting, hcur]
  exact waiting_pass_of_ne s hb (s.waiting b)

lemma waiting_enqueue (s : PpduStsInfo) (b : Fin 2) (pkt : StsPkt) :
    (s.enqueue b pkt).waiting b = s.waiting b ++ [pkt] := by
  have hself : (s.enqueue b pkt).frames b (s.curPpduCnt b) =
      (s.frames b (s.curPpduCnt b)).pushTail pkt := s.setFrames_self _ _ _
  exact congrArg CntQueue.items hself

lemma waiting_enqueue_of_ne (s : PpduStsInfo) (hb : b' ≠ b) (pkt : StsPkt) :
    (s.enqueue b pkt).waiting b' = s.waiting b' :=
  congrArg CntQueue.items (s.setFrames_of_ne _ (.inl hb))

lemma enqueue (h : PstsQueues s) (hband : pkt.band = b)
    (hcnt : pkt.mdata.ppduCnt = s.curPpduCnt b) : PstsQueues (s.enqueue b pkt) := by
  have hself : (s.enqueue b pkt).frames b (s.curPpduCnt b) =
      (s.frames b (s.curPpduCnt b)).pushTail pkt := s.setFrames_self _ _ _
  have hother : ∀ {b' i'}, b' ≠ b ∨ i' ≠ s.curPpduCnt b →
      (s.enqueue b pkt).frames b' i' = s.frames b' i' := s.setFrames_of_ne _
  refine ⟨h.range, fun b' i' hi => ?_, fun b' => ?_, fun b' m hm => ?_⟩ <;> by_cases hb : b' = b
  · subst hb
    rw [hother (.inr hi)]
    exact h.idle b' i' hi
  · rw [hother (.inl hb)]
    exact h.idle b' i' hi
  · subst hb
    exact hself ▸ (h.counted b').pushTail pkt
  · exact hother (.inl hb) ▸ h.counted b'
  · subst hb
    rw [waiting_enqueue] at hm
    rcases mem_append.1 hm with hm | hm
    · exact h.own b' m hm
    · rw [mem_singleton.1 hm]
      exact ⟨hband, hcnt⟩
  · rw [waiting_enqueue_of_ne s hb] at hm
    exact h.own b' m hm

lemma bypass (h : PstsQueues s) (pkt : StsPkt) : PstsQueues (s.bypass pkt) :=
  ⟨h.range, h.idle, h.counted, h.own⟩

lemma init (cur : Fin 2 → Fin 8) : PstsQueues (ppduStsInit cur) :=
  ⟨fun b => (cur b).isLt, fun _ _ _ => rfl, fun _ => rfl, fun _ _ hm => by cases hm⟩

end PstsQueues

lemma pqPopAll_counted : ∀ l : List StsPkt, pqPopAll l l.length = (l, ⟨[], 0⟩)
  | [] => rfl
  | pkt :: l => by rw [length_cons, pqPopAll, pqPopAll_counted l]

lemma phlRxProcFrameList_counted (h : (s.frames b i).Counted) :
    phlRxProcFrameList b i s = (s.pqReset b i).handleNormal (s.frames b i).items := by
  rcases hq : s.frames b i with ⟨items, cnt⟩
  rw [hq, CntQueue.Counted] at h
  simp only at h
  subst h
  rw [phlRxProcFrameList, hq]
  split_ifs with hcnt
  · have hnil : items = [] := length_eq_zero_iff.1 hcnt
    subst hnil
    have hempty : s.frames b i = ⟨[], 0⟩ := hq
    simp [setFrames_eq_self hempty, handleNormal]
  · simp only [pqPopAll_counted]
    rfl

lemma startOfPpdu_cur (h : PstsQueues s) (b : Fin 2) :
    startOfPpdu b s (s.curPpduCnt b) = s.pass b (s.waiting b) := by
  have hlist := phlRxProcFrameList_counted (h.counted b)
  rw [startOfPpdu]
  split_ifs with hcnt
  · rw [hlist, PpduStsInfo.pass]
    simp [setFrames, handleNormal, waiting]
  · have hcount := h.counted b
    have hnil : s.waiting b = [] := by
      exact length_eq_zero_iff.1 (by rw [waiting, ← hcount]; omega)
    rw [hnil, PpduStsInfo.pass, pqReset, setFrames_eq_self (h.eq_nil hnil _), handleNormal,
      append_nil]

lemma startOfPpdu_fold_nil : ∀ (l : List ℕ) {s : PpduStsInfo}, PstsQueues s →
    s.waiting b = [] → l.foldl (startOfPpdu b) s = s
  | [], _, _, _ => rfl
  | i :: l, s, h, hb => by
    have hstay : startOfPpdu b s i = s := by
      rw [startOfPpdu, h.eq_nil hb i]
      simp
    rw [foldl_cons, hstay, startOfPpdu_fold_nil l h hb]

lemma startOfPpdu_fold : ∀ (l : List ℕ) {s : PpduStsInfo}, PstsQueues s →
    s.curPpduCnt b ∈ l → l.foldl (startOfPpdu b) s = s.pass b (s.waiting b)
  | i :: l, s, h, hcur => by
    rw [foldl_cons]
    by_cases hi : i = s.curPpduCnt b
    · rw [hi, startOfPpdu_cur h b]
      exact startOfPpdu_fold_nil l (h.pass b _) (PstsQueues.waiting_pass s b _)
    · rw [show startOfPpdu b s i = s by simp [startOfPpdu, h.idle b i hi]]
      exact startOfPpdu_fold l h ((mem_cons.1 hcur).resolve_left (Ne.symm hi))

/-- The moves of an MPDU: the band may go to a new PPDU first, and then the MPDU waits or not. -/
inductive WifiMove (s : PpduStsInfo) (pkt : StsPkt) : PpduStsInfo → Prop
  | bypass : WifiMove s pkt (s.bypass pkt)
  | enqueue (hcnt : pkt.mdata.ppduCnt = s.curPpduCnt pkt.band) :
      WifiMove s pkt (s.enqueue pkt.band pkt)
  | newBypass (hcnt : pkt.mdata.ppduCnt < phlMaxPpduCnt) :
      WifiMove s pkt ((s.newPpdu pkt.band pkt.mdata.ppduCnt).bypass pkt)
  | newEnqueue (hcnt : pkt.mdata.ppduCnt < phlMaxPpduCnt) :
      WifiMove s pkt ((s.newPpdu pkt.band pkt.mdata.ppduCnt).enqueue pkt.band pkt)

lemma wifiMove (h : PstsQueues s) (pkt : StsPkt) :
    WifiMove s (pkt.numbered s.arrived) (phlRxProcessPsts para s (.wifi pkt)) := by
  simp only [phlRxProcessPsts]
  generalize pkt.numbered s.arrived = pkt
  simp only [phlRxProcWaitPhySts]
  split_ifs with hen hmax hband hcur hhit hhit
  · exact .bypass
  · exact .bypass
  · exact .bypass
  · have hflush := startOfPpdu_fold (range phlMaxPpduCnt) h
      (mem_range.2 (h.range pkt.band))
    have hempty : ∀ i, (s.pass pkt.band (s.waiting pkt.band)).frames pkt.band i = ⟨[], 0⟩ :=
      (h.pass pkt.band _).eq_nil (PstsQueues.waiting_pass s pkt.band _)
    rw [hflush, pqReset, setFrames_eq_self (hempty _)]
    have hmove : WifiMove s pkt _ := .newEnqueue (by omega)
    simpa [newPpdu, PpduStsInfo.enqueue, setFrames, setCur, PpduStsInfo.accept,
      PpduStsInfo.count] using hmove
  · rw [startOfPpdu_fold (range phlMaxPpduCnt) h (mem_range.2 (h.range pkt.band))]
    exact .newBypass (by omega)
  · rw [← not_not.1 hcur]
    exact .enqueue (not_not.1 hcur).symm
  · exact .bypass

inductive StsHanded (para : PpduStsPara) (env : StsEnv) (s : PpduStsInfo) (sts : StsPkt) :
    List StsPkt → Prop
  | plain : StsHanded para env s sts (s.waiting sts.band)
  | copied (first : StsPkt) (rest : List StsPkt) (hq : s.waiting sts.band = first :: rest)
      (hcnt : sts.mdata.ppduCnt = s.curPpduCnt sts.band) (hmatch : stsMatches first sts = true) :
      StsHanded para env s sts
        (copyPhyInfo para.pstsAmpdu (stsPhyInfo para env first sts) (s.waiting sts.band))

lemma length_copyPhyInfo (ampdu : Bool) (phy : PpduPhyInfo) :
    ∀ l : List StsPkt, (copyPhyInfo ampdu phy l).length = l.length
  | [] => rfl
  | pkt :: l => by cases ampdu <;> simp [copyPhyInfo, length_copyPhyInfo true phy l]

lemma map_no_copyPhyInfo (ampdu : Bool) (phy : PpduPhyInfo) :
    ∀ l : List StsPkt, (copyPhyInfo ampdu phy l).map no = l.map no
  | [] => rfl
  | pkt :: l => by
    cases ampdu <;> simp [copyPhyInfo, withPhy, map_no_copyPhyInfo true phy l]

lemma mem_copyPhyInfo {ampdu : Bool} {phy : PpduPhyInfo} :
    ∀ {l : List StsPkt}, m ∈ copyPhyInfo ampdu phy l → ∃ m₀ ∈ l, m = m₀ ∨ m = m₀.withPhy phy
  | pkt :: l, hm => by
    rcases mem_cons.1 hm with rfl | hm
    · exact ⟨pkt, by simp, .inr rfl⟩
    cases ampdu
    · exact ⟨m, mem_cons_of_mem _ hm, .inl rfl⟩
    · obtain ⟨m₀, hm₀, he⟩ := mem_copyPhyInfo (l := l) hm
      exact ⟨m₀, mem_cons_of_mem _ hm₀, he⟩

lemma StsHanded.length (h : StsHanded para env s sts l) :
    l.length = (s.waiting sts.band).length := by
  cases h with
  | plain => rfl
  | copied first rest hq hcnt hmatch => exact length_copyPhyInfo _ _ _

lemma StsHanded.map_no (h : StsHanded para env s sts l) :
    l.map no = (s.waiting sts.band).map no := by
  cases h with
  | plain => rfl
  | copied first rest hq hcnt hmatch => exact map_no_copyPhyInfo _ _ _

lemma statusMove (h : PstsQueues s) (sts : StsPkt) (env : StsEnv) :
    phlRxProcessPsts para s (.ppduStatus sts env) = s ∨ ∃ l, StsHanded para env s sts l ∧
        phlRxProcessPsts para s (.ppduStatus sts env) = s.pass sts.band l := by
  have hcounted := h.counted sts.band
  -- whatever list of the same length is put in the queue, it is passed on
  have hpass : ∀ {l : List StsPkt}, StsHanded para env s sts l →
      (phlRxProcFrameList sts.band (s.curPpduCnt sts.band) (s.setFrames sts.band
        (s.curPpduCnt sts.band) ⟨l, (s.frames sts.band (s.curPpduCnt sts.band)).cnt⟩)).pqReset
        sts.band (s.curPpduCnt sts.band) = s.pass sts.band l := by
    intro l hl
    rw [phlRxProcFrameList_counted, setFrames_self]
    · simp [setFrames, handleNormal]
    · rw [setFrames_self]
      exact hcounted.trans hl.length.symm
  simp only [phlRxProcessPsts, phlRxProcPhySts]
  split_ifs with hen hmax hband hcnt
  · exact .inl rfl
  · exact .inl rfl
  · exact .inl rfl
  · exact .inl rfl
  rcases hq : (s.frames sts.band (s.curPpduCnt sts.band)).items with _ | ⟨first, rest⟩
  · exact .inl rfl
  right
  by_cases hupt : (sts.mdata.ppduCnt = s.curPpduCnt sts.band ∧ stsMatches first sts = true)
  · have hl : StsHanded para env s sts _ := .copied first rest hq hupt.1 hupt.2
    refine ⟨_, hl, ?_⟩
    rw [← hpass hl, waiting, hq]
    simp [hupt.1, hupt.2]
  · have hl : StsHanded para env s sts _ := .plain
    refine ⟨_, hl, ?_⟩
    rw [← hpass hl, waiting, hq]
    have hfalse : (decide (sts.mdata.ppduCnt = s.curPpduCnt sts.band) &&
        stsMatches first sts) = false := by simpa using hupt
    simp [hfalse]

def bands : List (Fin 2) := [0, 1]

lemma mem_bands : ∀ b, b ∈ bands := by decide

lemma bands_nodup : bands.Nodup := by decide

def PpduStsInfo.waitNos (s : PpduStsInfo) (b : Fin 2) : List ℕ := (s.waiting b).map no

def PpduStsInfo.passedNos (s : PpduStsInfo) : List ℕ := s.indicated.map no

structure PstsInv (s : PpduStsInfo) : Prop where
  queues : PstsQueues s
  ledger : Lanes.Ledger bands s.passedNos s.waitNos s.accepted s.arrived

namespace PstsInv

lemma init (cur : Fin 2 → Fin 8) : PstsInv (ppduStsInit cur) :=
  ⟨.init cur, Lanes.Ledger.init bands⟩

section

variable (h : PstsInv s)
include h

lemma pass (hl : l.map no = s.waitNos b) : PstsInv (s.pass b l) := by
  have hlog : (s.pass b l).passedNos = s.passedNos ++ s.waitNos b := by
    rw [← hl]
    exact map_append
  have hwait : (s.pass b l).waitNos = update s.waitNos b [] := by
    funext b'
    by_cases hb : b' = b
    · subst hb
      rw [update_self, waitNos, PstsQueues.waiting_pass]
      rfl
    · rw [update_of_ne hb, waitNos, PstsQueues.waiting_pass_of_ne s hb]
      rfl
  refine ⟨h.queues.pass b l, ?_⟩
  rw [hlog, hwait]
  exact h.ledger.pass bands_nodup (mem_bands b)

lemma newPpdu (hi : i < phlMaxPpduCnt) : PstsInv (s.newPpdu b i) := by
  have hpass : PstsInv (s.pass b (s.waiting b)) := h.pass rfl
  have hwait : (s.newPpdu b i).waitNos = (s.pass b (s.waiting b)).waitNos := by
    funext b'
    rw [waitNos, waitNos]
    by_cases hb : b' = b
    · rw [hb, h.queues.waiting_newPpdu, PstsQueues.waiting_pass]
    · rw [PstsQueues.waiting_newPpdu_of_ne s hb, PstsQueues.waiting_pass_of_ne s hb]
  refine ⟨h.queues.newPpdu hi, ?_⟩
  rw [hwait]
  exact hpass.ledger

lemma enqueue (hno : pkt.no = s.arrived)
    (hcnt : pkt.mdata.ppduCnt = s.curPpduCnt pkt.band) : PstsInv (s.enqueue pkt.band pkt) := by
  have hwait : (s.enqueue pkt.band pkt).waitNos = Buckets.push s.waitNos pkt.band s.arrived := by
    funext b
    by_cases hb : b = pkt.band
    · rw [hb, Buckets.push_self, waitNos, PstsQueues.waiting_enqueue, map_append, ← hno]
      rfl
    · rw [Buckets.push_of_ne hb, waitNos, PstsQueues.waiting_enqueue_of_ne s hb]
      rfl
  have hacc : (s.enqueue pkt.band pkt).accepted = Buckets.push s.accepted pkt.band s.arrived := by
    rw [← hno]
    rfl
  refine ⟨h.queues.enqueue rfl hcnt, ?_⟩
  rw [hwait, hacc]
  exact h.ledger.accept bands_nodup (mem_bands _)

lemma bypass (hno : pkt.no = s.arrived) : PstsInv (s.bypass pkt) := by
  have hlog : (s.bypass pkt).passedNos = s.passedNos ++ [s.arrived] := by
    rw [← hno]
    exact map_append
  refine ⟨h.queues.bypass pkt, ?_⟩
  rw [hlog]
  exact h.ledger.bypass

lemma wifi (hm : WifiMove s pkt s') (hno : pkt.no = s.arrived) : PstsInv s' := by
  cases hm with
  | bypass => exact h.bypass hno
  | enqueue hcnt => exact h.enqueue hno hcnt
  | newBypass hcnt => exact (h.newPpdu hcnt).bypass hno
  | newEnqueue hcnt =>
    have hcur : (s.newPpdu pkt.band pkt.mdata.ppduCnt).curPpduCnt pkt.band = pkt.mdata.ppduCnt :=
      update_self _ _ _
    exact (h.newPpdu hcnt).enqueue hno hcur.symm

lemma step (e : PstsEv) : PstsInv (phlRxProcessPsts para s e) := by
  cases e with
  | wifi pkt => exact h.wifi (wifiMove h.queues pkt) rfl
  | ppduStatus sts env =>
    rcases statusMove h.queues sts env with he | ⟨l, hl, he⟩
    · rwa [he]
    · rw [he]
      exact h.pass hl.map_no

end

lemma run (para : PpduStsPara) (cur : Fin 2 → Fin 8) (es : List PstsEv) :
    PstsInv (run (phlRxProcessPsts para) (ppduStsInit cur) es) :=
  run_inv_all _ (fun _ e h => h.step e) es _ (init cur)

end PstsInv

def PstsEv.mpdu (s : PpduStsInfo) : PstsEv → Option StsPkt
  | .wifi pkt => some (pkt.numbered s.arrived)
  | .ppduStatus _ _ => none

/-- `m` is `m₀` with the PHY status of a report of its own PPDU. -/
def GivenPhy (para : PpduStsPara) (s : PpduStsInfo) (e : PstsEv) (b : Fin 2) (m₀ m : StsPkt) :
    Prop :=
  ∃ sts env first, e = .ppduStatus sts env ∧ (s.waiting b).head? = some first ∧
    sts.band = m₀.band ∧ sts.mdata.ppduCnt = m₀.mdata.ppduCnt ∧ stsMatches first sts = true ∧
    m = m₀.withPhy (stsPhyInfo para env first sts)

/-- A packet waits or is passed on as it came, or with the report of its own PPDU. -/
structure PhyOwn (para : PpduStsPara) (s : PpduStsInfo) (e : PstsEv) (s' : PpduStsInfo) : Prop where
  waits : ∀ b, ∀ m ∈ s'.waiting b, m ∈ s.waiting b ∨ e.mpdu s = some m
  passes : ∃ batch, s'.indicated = s.indicated ++ batch ∧
    ∀ m ∈ batch, e.mpdu s = some m ∨ ∃ b, ∃ m₀ ∈ s.waiting b, m = m₀ ∨ GivenPhy para s e b m₀ m

lemma waiting_newPpdu_sub (h : PstsQueues s) (hm : m ∈ (s.newPpdu b i).waiting b') :
    m ∈ s.waiting b' := by
  by_cases hb : b' = b
  · rw [hb, h.waiting_newPpdu] at hm
    cases hm
  · rwa [PstsQueues.waiting_newPpdu_of_ne s hb] at hm

lemma waiting_enqueue_sub (hm : m ∈ (s.enqueue b pkt).waiting b') :
    m ∈ s.waiting b' ∨ m = pkt := by
  by_cases hb : b' = b
  · rw [hb, PstsQueues.waiting_enqueue] at hm
    rw [hb]
    simpa using hm
  · rw [PstsQueues.waiting_enqueue_of_ne s hb] at hm
    exact .inl hm

lemma phyOwn_wifi (h : PstsQueues s) {e : PstsEv} (hm : WifiMove s pkt s')
    (he : e.mpdu s = some pkt) : PhyOwn para s e s' := by
  cases hm with
  | bypass =>
    refine ⟨fun b m hm => .inl hm, [pkt], rfl, fun m hm => .inl ?_⟩
    rw [he, mem_singleton.1 hm]
  | enqueue hcnt =>
    refine ⟨fun b m hm => ?_, [], (append_nil _).symm, by simp⟩
    rcases waiting_enqueue_sub hm with hm | rfl
    · exact .inl hm
    · exact .inr he
  | newBypass hcnt =>
    refine ⟨fun b m hm => .inl (waiting_newPpdu_sub h hm), s.waiting pkt.band ++ [pkt],
      append_assoc _ _ _, fun m hm => ?_⟩
    rcases mem_append.1 hm with hm | hm
    · exact .inr ⟨pkt.band, m, hm, .inl rfl⟩
    · exact .inl (by rw [he, mem_singleton.1 hm])
  | newEnqueue hcnt =>
    refine ⟨fun b m hm => ?_, s.waiting pkt.band, rfl, fun m hm => ?_⟩
    · rcases waiting_enqueue_sub hm with hm | rfl
      · exact .inl (waiting_newPpdu_sub h hm)
      · exact .inr he
    · exact .inr ⟨pkt.band, m, hm, .inl rfl⟩

lemma phyOwn_status (h : PstsQueues s) (hl : StsHanded para env s sts l) :
    PhyOwn para s (.ppduStatus sts env) (s.pass sts.band l) := by
  refine ⟨fun b m hm => .inl ?_, l, rfl, fun m hm => .inr ⟨sts.band, ?_⟩⟩
  · by_cases hb : b = sts.band
    · rw [hb, PstsQueues.waiting_pass] at hm
      cases hm
    · rwa [PstsQueues.waiting_pass_of_ne s hb] at hm
  · cases hl with
    | plain => exact ⟨m, hm, .inl rfl⟩
    | copied first rest hq hcnt hmatch =>
      obtain ⟨m₀, hm₀, rfl | he⟩ := mem_copyPhyInfo hm
      · exact ⟨m, hm₀, .inl rfl⟩
      · obtain ⟨hband, hown⟩ := h.own sts.band m₀ hm₀
        exact ⟨m₀, hm₀, .inr ⟨sts, env, first, rfl, by rw [hq]; rfl, hband.symm,
          hcnt.trans hown.symm, hmatch, he⟩⟩

lemma phyOwn_step (h : PstsQueues s) (e : PstsEv) :
    PhyOwn para s e (phlRxProcessPsts para s e) := by
  cases e with
  | wifi pkt => exact phyOwn_wifi h (wifiMove h pkt) rfl
  | ppduStatus sts env =>
    rcases statusMove h sts env with he | ⟨l, hl, he⟩
    · rw [he]
      exact ⟨fun b m hm => .inl hm, [], (append_nil _).symm, by simp⟩
    · rw [he]
      exact phyOwn_status h hl

/-- Only the queue of a band's current PPDU is in use, each MPDU was passed on once or waits, and
those that were taken to wait are passed on in order. -/
structure PstsOK (s : PpduStsInfo) : Prop where
  sole : ∀ b i, (s.frames b i).items ≠ [] → i = s.curPpduCnt b
  once : (s.passedNos ++ bands.flatMap s.waitNos).Perm (range s.arrived)
  order : ∀ b, s.accepted b = s.passedNos.filter (· ∈ s.accepted b) ++ s.waitNos b
  sorted : ∀ b, (s.accepted b).Pairwise (· < ·)

lemma PstsInv.ok (h : PstsInv s) : PstsOK s where
  sole := by
    intro b i hne
    by_contra hi
    exact hne (by rw [h.queues.idle b i hi])
  once := h.ledger.every
  order := h.ledger.order
  sorted := h.ledger.sorted

theorem phySts_run (para : PpduStsPara) (cur : Fin 2 → Fin 8) (es : List PstsEv) :
    PstsOK (run (phlRxProcessPsts para) (ppduStsInit cur) es) ∧
      ∀ e, PhyOwn para (run (phlRxProcessPsts para) (ppduStsInit cur) es) e
        (run (phlRxProcessPsts para) (ppduStsInit cur) (es ++ [e])) := by
  have hinv := PstsInv.run para cur es
  refine ⟨hinv.ok, fun e => ?_⟩
  rw [run_append_singleton]
  exact phyOwn_step hinv.queues e

end Rtl8852be
