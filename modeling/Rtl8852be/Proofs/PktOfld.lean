import Rtl8852be.PktOfld
import Rtl8852be.Lib.SoleOwner

/-!
# What the firmware holds is what the requests are for

The records of the entries own the packets of the firmware, one record each, unless the ids cannot
be updated or a packet of an entry that goes away is not deleted.
-/

namespace Rtl8852be

open List Keyed Option

variable {info : PktOfldInfo} {halDel : PktOfldType → Bool} {env : PktOfldReqEnv}

lemma PktOfldType.mem_all (t : PktOfldType) : t ∈ PktOfldType.all := by
  cases t <;> simp [PktOfldType.all]

def PktOfldInfo.recorded (info : PktOfldInfo) : Option ℕ :=
  if info.id = notUsed then none else some info.id

def PktOfld.record (s : PktOfld) (p : ℕ × PktOfldType) : Option ℕ :=
  (s.getEntry p.1).bind fun e => (e.pktInfo p.2).recorded

structure PktOfldInfo.Balanced (info : PktOfldInfo) : Prop where
  counted : info.req.Counted
  used : info.id ≠ notUsed ↔ info.req.items ≠ []

structure PktOfldInv (s : PktOfld) : Prop where
  distinct : Keyed.Distinct PktOfldEntry.macid s.entryQ.items
  balanced : ∀ m e, s.getEntry m = some e → ∀ t, (e.pktInfo t).Balanced
  owned : SoleOwner s.record (s.held : Set ℕ)

lemma recorded_eq_some {id : ℕ} : info.recorded = some id ↔ info.id ≠ notUsed ∧ info.id = id := by
  unfold PktOfldInfo.recorded
  split_ifs with h <;> simp [h]

lemma recorded_eq_none : info.recorded = none ↔ info.id = notUsed := by
  unfold PktOfldInfo.recorded
  split_ifs with h <;> simp [h]

lemma isPktOfld_iff : phlPktOfldIsPktOfld info = true ↔ info.id ≠ notUsed := by
  simp [phlPktOfldIsPktOfld]

variable {m : ℕ} {e : PktOfldEntry} {t : PktOfldType}

section Record

variable {s : PktOfld}

lemma record_of_getEntry (he : s.getEntry m = some e) :
    s.record (m, t) = (e.pktInfo t).recorded := by
  simp [PktOfld.record, he]

@[simp] lemma pktInfo_setInfo_self : (e.setInfo t info).pktInfo t = info :=
  Function.update_self ..

lemma pktInfo_setInfo_of_ne {t' : PktOfldType} (ht : t' ≠ t) :
    (e.setInfo t info).pktInfo t' = e.pktInfo t' :=
  Function.update_of_ne ht ..

lemma getEntry_setInfo_self (he : s.getEntry m = some e) :
    (s.setInfo m t info).getEntry m = some (e.setInfo t info) := by
  have hkey : ∀ e : PktOfldEntry, (e.setInfo t info).macid = e.macid := fun _ => rfl
  refine (get_modify_self hkey s.entryQ.items).trans ?_
  rw [show get PktOfldEntry.macid s.entryQ.items m = some e from he]
  rfl

lemma getEntry_setInfo_of_ne {m' : ℕ} (hm : m' ≠ m) :
    (s.setInfo m t info).getEntry m' = s.getEntry m' := by
  have hkey : ∀ e : PktOfldEntry, (e.setInfo t info).macid = e.macid := fun _ => rfl
  exact get_modify_of_ne hkey hm s.entryQ.items

lemma record_setInfo_self (he : s.getEntry m = some e) :
    (s.setInfo m t info).record (m, t) = info.recorded := by
  rw [record_of_getEntry (getEntry_setInfo_self he), pktInfo_setInfo_self]

lemma record_setInfo_of_ne (he : s.getEntry m = some e) {p : ℕ × PktOfldType}
    (hp : p ≠ (m, t)) : (s.setInfo m t info).record p = s.record p := by
  obtain ⟨m', t'⟩ := p
  by_cases hm : m' = m
  · subst hm
    have ht : t' ≠ t := fun heq => hp (by rw [heq])
    rw [record_of_getEntry (getEntry_setInfo_self he), record_of_getEntry he,
      pktInfo_setInfo_of_ne ht]
  · unfold PktOfld.record
    rw [getEntry_setInfo_of_ne hm]

end Record

inductive InfoMove (info info' : PktOfldInfo) (held held' : Finset ℕ) : Prop where
  | keep (hid : info'.id = info.id) (hheld : held' = held)
  | add (i : ℕ) (hfree : i ∉ held) (hold : info.recorded = none) (hnew : info'.recorded = some i)
    (hheld : held' = insert i held)
  | del (i : ℕ) (hold : info.recorded = some i) (hnew : info'.recorded = none)
    (hheld : held' = held.erase i)

lemma InfoMove.of_id {info' info₁ info₁' : PktOfldInfo} {held held' : Finset ℕ}
    (h : InfoMove info info' held held') (hid : info₁.id = info.id) (hid' : info₁'.id = info'.id) :
    InfoMove info₁ info₁' held held' := by
  have hold : info₁.recorded = info.recorded := by unfold PktOfldInfo.recorded; rw [hid]
  have hnew : info₁'.recorded = info'.recorded := by unfold PktOfldInfo.recorded; rw [hid']
  rcases h with ⟨heq, hheld⟩ | ⟨i, hfree, hbefore, hafter, hheld⟩ | ⟨i, hbefore, hafter, hheld⟩
  · exact .keep (by rw [hid', heq, hid]) hheld
  · exact .add i hfree (hold.trans hbefore) (hnew.trans hafter) hheld
  · exact .del i (hold.trans hbefore) (hnew.trans hafter) hheld

section Move

variable {s : PktOfld} {held : Finset ℕ}

lemma owned_infoMove (h : SoleOwner s.record (s.held : Set ℕ)) (he : s.getEntry m = some e)
    (hmove : InfoMove (e.pktInfo t) info s.held held) :
    SoleOwner (s.setInfo m t info).record (held : Set ℕ) := by
  have hself : (s.setInfo m t info).record (m, t) = info.recorded := record_setInfo_self he
  have hother : ∀ p ≠ (m, t), (s.setInfo m t info).record p = s.record p :=
    fun p hp => record_setInfo_of_ne he hp
  have hbefore : s.record (m, t) = (e.pktInfo t).recorded := record_of_getEntry he
  rcases hmove with ⟨hid, rfl⟩ | ⟨i, hfree, hold, hnew, rfl⟩ | ⟨i, hold, hnew, rfl⟩
  · refine h.congr (fun p => ?_) fun _ => Iff.rfl
    by_cases hp : p = (m, t)
    · rw [hp, hself, hbefore, PktOfldInfo.recorded, PktOfldInfo.recorded, hid]
    · exact hother p hp
  · exact h.take hfree (hself.trans hnew) hother (hbefore.trans hold) (by simp)
  · refine h.release (· = (m, t)) (fun p hp => ?_) hother fun j => ?_
    · rw [hp, hself, hnew]
    · rw [Finset.mem_coe, Finset.mem_erase, Finset.mem_coe, and_comm]
      refine and_congr_right fun _ => ⟨fun hne p hp hj => hne ?_, fun hall hj => ?_⟩
      · rw [hp, hbefore, hold] at hj
        exact (some.inj hj).symm
      · exact hall (m, t) rfl (by rw [hbefore, hold, hj])

lemma PktOfldInv.infoMove (h : PktOfldInv s) (he : s.getEntry m = some e)
    (hmove : InfoMove (e.pktInfo t) info s.held held) (hinfo : info.Balanced) :
    PktOfldInv { s.setInfo m t info with held := held } := by
  refine ⟨h.distinct.modify fun _ => rfl, fun m' e' he' t' => ?_, owned_infoMove h.owned he hmove⟩
  have he'' : (s.setInfo m t info).getEntry m' = some e' := he'
  by_cases hm : m' = m
  · subst hm
    rw [getEntry_setInfo_self he] at he''
    cases he''
    by_cases ht : t' = t
    · subst ht
      rwa [pktInfo_setInfo_self]
    · rw [pktInfo_setInfo_of_ne ht]
      exact h.balanced m' e he t'
  · rw [getEntry_setInfo_of_ne hm] at he''
    exact h.balanced m' e' he'' t'

end Move

lemma pktOfldAllocId_spec {held : Finset ℕ} (h : ∃ i < pktOfldMaxCount - 1, i ∉ held) :
    pktOfldAllocId held ≠ notUsed ∧ pktOfldAllocId held ∉ held := by
  obtain ⟨i, hi, hfree⟩ := h
  rcases hf : (range (pktOfldMaxCount - 1)).find? (· ∉ held) with _ | j
  · have := find?_eq_none.1 hf i (mem_range.2 hi)
    simp [hfree] at this
  · have hlt := mem_range.1 (mem_of_find?_eq_some hf)
    have hj : j ∉ held := by simpa using find?_some hf
    unfold pktOfldAllocId
    rw [hf]
    exact ⟨Nat.ne_of_lt hlt, hj⟩

section Types

variable (info : PktOfldInfo) (held : Finset ℕ)

/-- A download has an id to get, and its ids are updated. -/
def ReqTypeOK (env : PktOfldReqEnv) (type : PktOfldType) (info : PktOfldInfo) (held : Finset ℕ) :
    Prop :=
  info.id = notUsed → phlPktOfldConstructPacket env type → env.halAdd →
    env.updateIds ∧ ∃ i < pktOfldMaxCount - 1, i ∉ held

lemma phlPktOfldReqType_cases (hok : ReqTypeOK env t info held) :
    (∃ info' held', phlPktOfldReqType env t info held = (.success, info', held') ∧
        InfoMove info info' held held' ∧ info'.req = info.req ∧ info'.id ≠ notUsed) ∨
      phlPktOfldReqType env t info held = (.failure, info, held) ∧ info.id = notUsed := by
  by_cases hid : info.id = notUsed
  · have hinfo : { info with id := notUsed } = info := by rw [← hid]
    have hnot : phlPktOfldIsPktOfld info = false := by simp [phlPktOfldIsPktOfld, hid]
    cases hc : phlPktOfldConstructPacket env t
    · exact .inr ⟨by simp [phlPktOfldReqType, hnot, hc], hid⟩
    by_cases hfail : held.card = pktOfldMaxCount ∨ env.halAdd = false
    · refine .inr ⟨?_, hid⟩
      have hadd : halPktOfldAdd env.halAdd held = (none, held) := by
        rcases hfail with hcard | hno
        · simp [halPktOfldAdd, hcard]
        · simp [halPktOfldAdd, hno]
      simp [phlPktOfldReqType, hnot, hc, hadd, hinfo]
    · rw [not_or, Bool.not_eq_false] at hfail
      obtain ⟨hcard, hyes⟩ := hfail
      obtain ⟨hupd, hfree⟩ := hok hid hc hyes
      obtain ⟨hused, hnew⟩ := pktOfldAllocId_spec hfree
      refine .inl ⟨{ info with id := pktOfldAllocId held }, insert (pktOfldAllocId held) held, ?_,
        .add _ hnew (recorded_eq_none.2 hid) (recorded_eq_some.2 ⟨hused, rfl⟩) rfl, rfl, hused⟩
      simp [phlPktOfldReqType, hnot, hc, halPktOfldAdd, hcard, hyes, hupd]
  · exact .inl ⟨info, held, by simp [phlPktOfldReqType, isPktOfld_iff.2 hid], .keep rfl rfl, rfl,
      hid⟩

lemma phlPktOfldCancelType_cases (halDel : Bool) :
    (∃ st, st ≠ .success ∧ phlPktOfldCancelType halDel info held = (st, info, held)) ∨
      ∃ info' held', phlPktOfldCancelType halDel info held = (.success, info', held') ∧
        InfoMove info info' held held' ∧ info'.req = info.req ∧ info.id ≠ notUsed ∧
        (info'.id ≠ notUsed ↔ info.req.cnt ≠ 1) := by
  unfold phlPktOfldCancelType
  split_ifs with hid hcnt
  · exact .inl ⟨.failure, nofun, rfl⟩
  · have hused : info.id ≠ notUsed := by simpa [phlPktOfldIsPktOfld] using hid
    exact .inr ⟨info, held, rfl, .keep rfl rfl, rfl, hused, by simp [hused, hcnt]⟩
  have hused : info.id ≠ notUsed := by simpa [phlPktOfldIsPktOfld] using hid
  unfold halPktOfldDel
  split_ifs with hlast hmem hdel
  · exact .inl ⟨.failure, nofun, rfl⟩
  · exact .inr ⟨{ info with id := notUsed }, held.erase info.id, rfl,
      .del info.id (recorded_eq_some.2 ⟨hused, rfl⟩) (recorded_eq_none.2 rfl) rfl, rfl, hused,
      by simp [hcnt]⟩
  · exact .inl ⟨.failure, nofun, rfl⟩
  · exact .inl ⟨.failure, nofun, rfl⟩

end Types

lemma mem_phlPktOfldDelOfldType {e : PktOfldEntry} {i : ℕ} :
    ∀ {ts : List PktOfldType} {held : Finset ℕ}, (∀ t ∈ ts, (e.pktInfo t).id ≠ notUsed → halDel t) →
      (i ∈ phlPktOfldDelOfldType halDel e held ts ↔
        i ∈ held ∧ ∀ t ∈ ts, (e.pktInfo t).recorded ≠ some i)
  | [], held, _ => by simp [phlPktOfldDelOfldType]
  | t :: ts, held, hok => by
    have ih : ∀ {held : Finset ℕ}, i ∈ phlPktOfldDelOfldType halDel e held ts ↔
        i ∈ held ∧ ∀ t ∈ ts, (e.pktInfo t).recorded ≠ some i :=
      mem_phlPktOfldDelOfldType fun t' ht' => hok t' (mem_cons_of_mem _ ht')
    unfold phlPktOfldDelOfldType
    split_ifs with hp
    · have hused := isPktOfld_iff.1 hp
      have hdel : halDel t = true := hok t mem_cons_self hused
      have hlast : (e.pktInfo t).id ≠ pktOfldMaxCount - 1 := hused
      have hmem : i ∈ (halPktOfldDel (halDel t) (e.pktInfo t).id held).2 ↔
          i ∈ held ∧ (e.pktInfo t).id ≠ i := by
        unfold halPktOfldDel
        rw [if_neg hlast, hdel]
        by_cases hin : (e.pktInfo t).id ∈ held
        · rw [if_neg (not_not.2 hin), if_pos rfl, Finset.mem_erase, and_comm, ne_comm]
        · rw [if_pos hin]
          exact ⟨fun hi => ⟨hi, fun he => hin (he ▸ hi)⟩, And.left⟩
      rw [ih, hmem, forall_mem_cons, and_assoc]
      simp [recorded_eq_some, hused]
    · have hnone : (e.pktInfo t).recorded = none := by
        rw [isPktOfld_iff, not_not] at hp
        exact recorded_eq_none.2 hp
      rw [ih, forall_mem_cons]
      simp [hnone]

/-- A packet that is downloaded gets a free id and the firmware takes the ids, and deletes every
packet of an entry that is removed. -/
def PktOfldOK (s : PktOfld) : PktOfldEv → Prop
  | .addEntry _ _ => True
  | .delEntry macid halDel =>
    ∀ e ∈ s.getEntry macid, ∀ t ∈ PktOfldType.all, (e.pktInfo t).id ≠ notUsed → halDel t
  | .request macid type env =>
    ∀ e ∈ s.getEntry macid, env.allocReq → env.allocName →
      ReqTypeOK env type (e.pktInfo type) s.held
  | .cancel _ _ _ _ => True

section Step

variable {s : PktOfld}

section

variable (h : PktOfldInv s)
include h

lemma PktOfldInv.addEntry (alloc : Bool) :
    PktOfldInv (phlPktOfldAddEntry m alloc s).2 := by
  unfold phlPktOfldAddEntry
  split_ifs with hsome halloc
  · exact h
  · exact h
  have hnone : s.getEntry m = none := by simpa using hsome
  have hget : ∀ m', PktOfld.getEntry
      { s with entryQ := s.entryQ.pushFront (phlPktOfldInitEntry m) } m'
        = if m = m' then some (phlPktOfldInitEntry m) else s.getEntry m' := fun m' => get_cons
  refine ⟨h.distinct.cons hnone, fun m' e he t' => ?_, h.owned.congr (fun p => ?_) fun _ => Iff.rfl⟩
  · rw [hget] at he
    split_ifs at he with hm
    · cases he
      exact ⟨rfl, by simp [phlPktOfldInitEntry]⟩
    · exact h.balanced m' e he t'
  · unfold PktOfld.record
    rw [hget]
    split_ifs with hm
    · rw [← hm, hnone]
      rfl
    · rfl

lemma PktOfldInv.delEntry (hok : PktOfldOK s (.delEntry m halDel)) :
    PktOfldInv (phlPktOfldDelEntry m halDel s).2 := by
  unfold phlPktOfldDelEntry
  rcases he : s.getEntry m with _ | e
  · exact h
  have hself : get PktOfldEntry.macid (remove PktOfldEntry.macid m s.entryQ.items) m
      = none := h.distinct.get_remove_self
  have hother : ∀ m' ≠ m, get PktOfldEntry.macid
      (remove PktOfldEntry.macid m s.entryQ.items) m' = s.getEntry m' :=
    fun m' hm => get_remove_of_ne hm _
  refine ⟨h.distinct.remove, fun m' e' he' t' => ?_,
    h.owned.release (·.1 = m) (fun p hp => ?_) (fun p hp => ?_) fun i => ?_⟩
  · by_cases hm : m' = m
    · subst hm
      exact nomatch hself.symm.trans he'
    · exact h.balanced m' e' ((hother m' hm).symm.trans he') t'
  · simp only [PktOfld.record, PktOfld.getEntry, hp, hself]
    rfl
  · simp only [PktOfld.record, PktOfld.getEntry, hother p.1 hp]
  · refine (mem_phlPktOfldDelOfldType (hok e he)).trans (and_congr_right fun _ =>
      ⟨fun hall p hp => ?_, fun hall t' _ => ?_⟩)
    · obtain ⟨m', t'⟩ := p
      obtain rfl : m' = m := hp
      rw [record_of_getEntry he]
      exact hall t' t'.mem_all
    · rw [← record_of_getEntry he]
      exact hall (m, t') rfl

lemma PktOfldInv.request (hok : PktOfldOK s (.request m t env)) :
    PktOfldInv (phlPktOfldRequest m t env s).2.2 := by
  unfold phlPktOfldRequest
  rcases he : s.getEntry m with _ | e
  · exact h
  have hbal := h.balanced m e he t
  cases halloc : env.allocReq
  · simpa [phlPktOfldGenReq, halloc] using h
  have hseq : PktOfldInv { s with curSeq := (s.curSeq + 1) % 2 ^ 32 } :=
    ⟨h.distinct, h.balanced, h.owned⟩
  cases hname : env.allocName
  · simpa [phlPktOfldGenReq, halloc, hname] using hseq
  simp [phlPktOfldGenReq, halloc, hname]
  rcases phlPktOfldReqType_cases (phlPktOfldAddReq s.curSeq (e.pktInfo t)) s.held
      (hok e he halloc hname) with ⟨info, held, hreq, hmove, hq, hused⟩ | ⟨hreq, hid⟩
  · rw [hreq]
    refine hseq.infoMove he (hmove.of_id rfl rfl) ⟨?_, ?_⟩
    · rw [hq]
      exact hbal.counted.pushFront s.curSeq
    · rw [hq]
      simp [hused, phlPktOfldAddReq]
  · -- the request that was put in front is taken out again
    rw [hreq]
    have hundo : phlPktOfldDelReq s.curSeq (phlPktOfldAddReq s.curSeq (e.pktInfo t))
        = e.pktInfo t := by
      simp [phlPktOfldDelReq, phlPktOfldAddReq, CntQueue.pushFront, CntQueue.erase]
    simp only [hundo]
    exact hseq.infoMove he (.keep rfl rfl) hbal

lemma PktOfldInv.cancel (token : ℕ) (halDel : Bool) :
    PktOfldInv (phlPktOfldCancel m t token halDel s).2 := by
  unfold phlPktOfldCancel
  rcases he : s.getEntry m with _ | e
  · exact h
  have hbal := h.balanced m e he t
  by_cases htok : token ∈ (e.pktInfo t).req.items
  case neg => simpa [htok] using h
  simp [htok]
  rcases phlPktOfldCancelType_cases (e.pktInfo t) s.held halDel with
    ⟨st, hst, hcancel⟩ | ⟨info, held, hcancel, hmove, hq, hid, hused⟩
  · rw [hcancel]
    cases st
    · exact absurd rfl hst
    all_goals exact h
  rw [hcancel]
  refine h.infoMove he (hmove.of_id rfl rfl) ⟨?_, ?_⟩
  · show (info.req.erase token).Counted
    rw [hq]
    exact hbal.counted.erase htok
  · show info.id ≠ notUsed ↔ (info.req.erase token).items ≠ []
    have hcnt : (e.pktInfo t).req.cnt = (e.pktInfo t).req.items.length := hbal.counted
    have hlen := length_erase_of_mem htok
    have hpos := length_pos_of_mem htok
    rw [hused, hq, hcnt, CntQueue.erase_items, ← length_pos_iff, hlen]
    omega

lemma PktOfldInv.step {ev : PktOfldEv} (hok : PktOfldOK s ev) :
    PktOfldInv (pktOfldStep s ev) := by
  cases ev with
  | addEntry m alloc => exact h.addEntry alloc
  | delEntry m halDel => exact h.delEntry hok
  | request m t env => exact h.request hok
  | cancel m t token halDel => exact h.cancel token halDel

end

lemma pktOfldInv_init : PktOfldInv phlPktOfldInit :=
  ⟨nodup_nil, nofun, SoleOwner.empty (fun _ => rfl) (by simp [phlPktOfldInit])⟩

end Step

/-- The count is that of the requests and there is an id exactly while there are requests; a packet
is recorded once; a cancel with a token that is not outstanding changes nothing. -/
structure PktOfldAccounts (s : PktOfld) : Prop where
  reqCnt : ∀ m e, s.getEntry m = some e → ∀ t,
    (e.pktInfo t).req.cnt = (e.pktInfo t).req.items.length
  used : ∀ m e, s.getEntry m = some e → ∀ t,
    ((e.pktInfo t).id ≠ notUsed ↔ 0 < (e.pktInfo t).req.cnt)
  recorded : ∀ i ∈ s.held, ∃! p : ℕ × PktOfldType,
    ∃ e, s.getEntry p.1 = some e ∧ (e.pktInfo p.2).id = i
  cancel : ∀ m t token halDel,
    (∀ e, s.getEntry m = some e → token ∉ (e.pktInfo t).req.items) →
      phlPktOfldCancel m t token halDel s = (.failure, s)

lemma phlPktOfldCancel_unknown {m token : ℕ} {t : PktOfldType} (halDel : Bool)
    (h : ∀ e, s.getEntry m = some e → token ∉ (e.pktInfo t).req.items) :
    phlPktOfldCancel m t token halDel s = (.failure, s) := by
  unfold phlPktOfldCancel
  rcases he : s.getEntry m with _ | e
  · rfl
  · simp [h e he]

lemma PktOfldInv.recorded (h : PktOfldInv s) {i : ℕ} (hi : i ∈ s.held) :
    ∃! p : ℕ × PktOfldType, ∃ e, s.getEntry p.1 = some e ∧ (e.pktInfo p.2).id = i := by
  obtain ⟨p, hp, hunique⟩ := h.owned.existsUnique hi
  obtain ⟨e, he, hid⟩ := bind_eq_some_iff.1 hp
  have hused : i ≠ notUsed := by
    obtain ⟨hne, rfl⟩ := recorded_eq_some.1 hid
    exact hne
  refine ⟨p, ⟨e, he, (recorded_eq_some.1 hid).2⟩, ?_⟩
  rintro p' ⟨e', he', hid'⟩
  refine hunique p' (bind_eq_some_iff.2 ⟨e', he', recorded_eq_some.2 ⟨?_, hid'⟩⟩)
  rwa [hid']

lemma PktOfldInv.accounts (h : PktOfldInv s) : PktOfldAccounts s where
  reqCnt m e he t := (h.balanced m e he t).counted
  used m e he t := by
    have hbal := h.balanced m e he t
    rw [hbal.used, ← length_pos_iff, ← hbal.counted]
  recorded _ hi := h.recorded hi
  cancel _ _ _ halDel htok := phlPktOfldCancel_unknown halDel htok

theorem pktOfld_accounts_run (evs : List PktOfldEv)
    (hok : Run.RunOK pktOfldStep PktOfldOK phlPktOfldInit evs) :
    PktOfldAccounts (Run.run pktOfldStep phlPktOfldInit evs) :=
  (Run.run_inv pktOfldStep PktOfldOK (fun _ _ h hok => h.step hok) evs phlPktOfldInit
    pktOfldInv_init hok).accounts

/-- Two requests that share a packet, and the first one is cancelled. -/
theorem pktOfld_accounts_shared : PktOfldAccounts (Run.run pktOfldStep phlPktOfldInit
      [.addEntry 3 true, .request 3 .nullData ⟨true, true, true, true, true⟩,
        .request 3 .nullData ⟨true, true, true, false, false⟩, .cancel 3 .nullData 0 true]) :=
  pktOfld_accounts_run _ ⟨trivial, fun _ _ _ _ _ _ _ => ⟨rfl, 0, by decide, by decide⟩,
    fun _ _ _ _ _ _ => nofun, trivial, trivial⟩

/-- The ids cannot be updated, or the packet of a removed entry is not deleted. -/
theorem pktOfld_accounts_fails : ¬ PktOfldAccounts (Run.run pktOfldStep phlPktOfldInit
        [.addEntry 3 true, .request 3 .nullData ⟨true, true, true, true, false⟩]) ∧
      ¬ PktOfldAccounts (Run.run pktOfldStep phlPktOfldInit
        [.addEntry 3 true, .request 3 .nullData ⟨true, true, true, true, true⟩,
          .delEntry 3 fun _ => false]) := by
  refine ⟨fun h => ?_, fun h => ?_⟩
  · obtain ⟨⟨m, t⟩, ⟨e, he, hid⟩, -⟩ := h.recorded 0 (by decide)
    obtain rfl := mem_singleton.1 (mem_of_get he)
    cases t <;> cases hid
  · obtain ⟨⟨m, t⟩, ⟨e, he, -⟩, -⟩ := h.recorded 0 (by decide)
    exact nomatch he

section Client

variable (macid : ℕ) (sta : Bool) (env : PktOfldReqEnv) (s : PktOfld)

/-- The role has a null packet, and its id is found. -/
def NullOfld : Prop :=
  ∃ e, s.getEntry macid = some e ∧ phlPktOfldGetId macid .nullData s = (e.pktInfo .nullData).id ∧
    (e.pktInfo .nullData).id ≠ notUsed

/-- What the request for a packet that is not downloaded needs. -/
def Downloads : Prop := env.allocReq ∧ env.allocName ∧ env.construct ∧ env.halAdd ∧ env.updateIds ∧
  s.held.card ≠ pktOfldMaxCount

/-- The macid has an entry, and a request for its packet does not take the last id. -/
def NullOfldOK : Prop :=
  ∃ e, s.getEntry macid = some e ∧ ((e.pktInfo .nullData).id = notUsed → Downloads env s →
    ∃ i < pktOfldMaxCount - 1, i ∉ s.held)

@[local simp] lemma pktOfldAllocId_ne_notUsed (held : Finset ℕ) :
    pktOfldAllocId held ≠ notUsed ↔ ∃ i < pktOfldMaxCount - 1, i ∉ held := by
  refine ⟨fun h => ?_, fun h => (pktOfldAllocId_spec h).1⟩
  by_contra hno
  have hnone : (range (pktOfldMaxCount - 1)).find? (· ∉ held) = none := by
    simpa using hno
  exact h (by rw [pktOfldAllocId, hnone]; rfl)

section

variable {macid s} (he : s.getEntry macid = some e) (hid : (e.pktInfo .nullData).id = notUsed)
include he hid

lemma phlPktOfldRequest_status :
    (phlPktOfldRequest macid .nullData env s).1 = .success ↔ Downloads env s := by
  simp only [phlPktOfldRequest, he, phlPktOfldGenReq, Downloads]
  split_ifs with hreq hname
  · simp only [phlPktOfldReqType, phlPktOfldConstructPacket, phlPktOfldIsPktOfld,
      phlPktOfldAddReq, halPktOfldAdd]
    split_ifs <;> simp_all
  · simp_all
  · simp_all

lemma phlPktOfldRequest_id (h : Downloads env s) :
    ∃ e', (phlPktOfldRequest macid .nullData env s).2.2.getEntry macid = some e' ∧
      (e'.pktInfo .nullData).id = pktOfldAllocId s.held := by
  obtain ⟨hreq, hname, hc, ha, hu, hcard⟩ := h
  refine ⟨e.setInfo .nullData ⟨(e.pktInfo .nullData).req.pushFront s.curSeq,
    pktOfldAllocId s.held⟩, ?_, by simp⟩
  simp [phlPktOfldRequest, he, phlPktOfldGenReq, hreq, hname, phlPktOfldReqType,
    phlPktOfldConstructPacket, phlPktOfldIsPktOfld, phlPktOfldAddReq, halPktOfldAdd, hid, hc, ha,
    hu, hcard]
  exact getEntry_setInfo_self he

end

theorem mcc_client_null_iff :
    ((mccPktOffloadForClient macid sta env s).1 = .success →
      NullOfld macid (mccPktOffloadForClient macid sta env s).2) ↔
      (sta = true → NullOfldOK macid env s) := by
  unfold mccPktOffloadForClient NullOfldOK
  cases sta
  · simp
  rcases he : s.getEntry macid with _ | e
  · simp [phlPktOfldGetId, NullOfld, he, notUsed]
  by_cases hid : (e.pktInfo .nullData).id = notUsed
  · have hst := phlPktOfldRequest_status env he hid
    have hnew := phlPktOfldRequest_id env he hid
    have hget : phlPktOfldGetId macid .nullData s = notUsed := by simp [phlPktOfldGetId, he, hid]
    rcases hres : phlPktOfldRequest macid .nullData env s with ⟨st, token, s'⟩
    rw [hres] at hst hnew
    by_cases hd : Downloads env s
    · obtain ⟨e', he', hid'⟩ := hnew hd
      obtain rfl : st = .success := hst.2 hd
      have hnull : NullOfld macid s' ↔ pktOfldAllocId s.held ≠ notUsed := by
        simp [NullOfld, he', phlPktOfldGetId, hid']
      simp [hget, hid, hd, hnull]
    · have hne : st ≠ .success := fun h => hd (hst.1 h)
      simp [hget, hd]
  · simp [phlPktOfldGetId, NullOfld, he, hid]

/-- A station whose entry could not be added. -/
theorem mcc_client_null_fails :
    let res := mccPktOffloadForClient 3 true ⟨true, true, true, true, true⟩ phlPktOfldInit
    res.1 = .success ∧ ¬ NullOfld 3 res.2 :=
  ⟨rfl, fun ⟨_, he, _⟩ => nomatch he⟩

end Client

end Rtl8852be
