import Rtl8852be.Defrag
import Rtl8852be.Lib.Run
import Mathlib.Data.List.Sublists

/-!
# What comes out of the reassembly

The checks of `recvframe_defrag` make the numbers of the fragments 0, 1, 2 and so on (`Accepted`),
and the frame that comes out carries the payloads in that order (`payload_foldl_append`). They do
not look at the sequence number.
-/

namespace Rtl8852be

open Run RecvFrame List

variable {fs : List RecvFrame}

structure Fragment where
  seqNum : Fin 4096
  fragNum : Fin 16
  payload : List UInt8
  deriving DecidableEq

namespace RecvFrame

def payload (f : RecvFrame) : List UInt8 :=
  (f.data.drop (f.hdrlen + f.ivLen)).take (f.data.length - (f.hdrlen + f.ivLen) - f.icvLen)

def fragment (f : RecvFrame) : Fragment := ⟨f.seqNum, f.fragNum, f.payload⟩

def Sized (f : RecvFrame) : Prop := f.hdrlen + f.ivLen + f.icvLen ≤ f.data.length
  deriving Decidable

def body (f : RecvFrame) : ℕ := f.data.length - (f.hdrlen + f.ivLen)

end RecvFrame

/-- The bodies fit one after the other into `avail` bytes, each over the ICV of the one before. -/
def Fits : ℕ → List RecvFrame → Prop
  | _, [] => True
  | avail, f :: fs => f.body ≤ avail ∧ Fits (avail - f.body + f.icvLen) fs

instance decidableFits : ∀ (avail : ℕ) (fs : List RecvFrame), Decidable (Fits avail fs)
  | _, [] => inferInstanceAs (Decidable True)
  | avail, f :: fs =>
    have := decidableFits (avail - f.body + f.icvLen) fs
    inferInstanceAs (Decidable (_ ∧ _))

section Append

variable {f g : RecvFrame}

lemma append_keytrack (f g : RecvFrame) : (f.append g).keytrack = f.keytrack := by
  simp only [append, recvframePullTail, recvframePut]
  split_ifs <;> rfl

lemma append_eq (hf : f.Sized) (hg : g.Sized) (hfit : g.body ≤ f.room + f.icvLen) : f.append g =
      { f with
        data := f.data.take (f.data.length - f.icvLen) ++ g.data.drop (g.hdrlen + g.ivLen)
        room := f.room + f.icvLen - g.body
        icvLen := g.icvLen } := by
  simp only [Sized] at hf hg
  simp only [body] at hfit ⊢
  have hoff : (g.hdrlen + g.ivLen) % 256 = g.hdrlen + g.ivLen := Nat.mod_eq_of_lt g.offset_lt
  have hpull : g.recvframePull (g.hdrlen + g.ivLen) =
      { g with data := g.data.drop (g.hdrlen + g.ivLen) } := if_neg (by omega)
  have htail : f.recvframePullTail f.icvLen =
      { f with data := f.data.take (f.data.length - f.icvLen), room := f.room + f.icvLen } :=
    if_neg (by omega)
  have hput : ¬ f.room + f.icvLen < g.data.length - (g.hdrlen + g.ivLen) := by omega
  simp [append, hoff, hpull, htail, recvframePut, if_neg hput]

lemma append_sized (hf : f.Sized) (hg : g.Sized) (hfit : g.body ≤ f.room + f.icvLen) :
    (f.append g).Sized := by
  rw [append_eq hf hg hfit]
  simp [Sized] at hf hg ⊢
  omega

lemma payload_eq_drop (hf : f.Sized) :
    f.payload = (f.data.take (f.data.length - f.icvLen)).drop (f.hdrlen + f.ivLen) := by
  simp only [Sized] at hf
  rw [payload, drop_take]
  congr 1
  omega

lemma append_payload (hf : f.Sized) (hg : g.Sized) (hfit : g.body ≤ f.room + f.icvLen) :
    (f.append g).payload = f.payload ++ g.payload := by
  rw [append_eq hf hg hfit, payload_eq_drop hf]
  simp only [Sized] at hf hg
  -- of the bytes glued together, only the header in front and the last ICV are left out
  have hlen : (f.data.take (f.data.length - f.icvLen)).length = f.data.length - f.icvLen := by
    rw [length_take]
    omega
  simp [payload, hlen]
  rw [drop_append_of_le_length (by omega), take_append, take_of_length_le]
  · congr 2
    simp [hlen]
    omega
  · simp [hlen]
    omega

lemma payload_foldl_append : ∀ (fs : List RecvFrame) (f : RecvFrame), f.Sized →
    (∀ g ∈ fs, g.Sized) → Fits (f.room + f.icvLen) fs →
    (fs.foldl append f).payload = f.payload ++ (fs.map payload).flatten
  | [], f, _, _, _ => by simp
  | g :: fs, f, hf, hgs, hfit => by
    have hg := hgs g (by simp)
    have heq := append_eq hf hg hfit.1
    have hfit' : Fits ((f.append g).room + (f.append g).icvLen) fs := by
      rw [heq]
      exact hfit.2
    have ih := payload_foldl_append fs (f.append g) (append_sized hf hg hfit.1)
      (fun g' hg' => hgs g' (by simp [hg'])) hfit'
    rw [foldl_cons, ih, append_payload hf hg hfit.1]
    simp

end Append

/-- Fragments that the loop takes when it is at the packet number `curPn` and the fragment number
`curfragnum`. -/
def Follows (keytrack : ℕ) : UInt64 → ℕ → List RecvFrame → Prop
  | _, _, [] => True
  | curPn, curfragnum, f :: fs =>
    (f.encrypt.hasPn → f.pn = curPn + 1) ∧ f.keytrack = keytrack ∧ f.fragNum = curfragnum ∧
      Follows keytrack (f.nextPn curPn) (curfragnum + 1) fs

instance decidableFollows (keytrack : ℕ) : ∀ (curPn : UInt64) (curfragnum : ℕ)
    (fs : List RecvFrame), Decidable (Follows keytrack curPn curfragnum fs)
  | _, _, [] => inferInstanceAs (Decidable True)
  | curPn, curfragnum, f :: fs =>
    have := decidableFollows keytrack (f.nextPn curPn) (curfragnum + 1) fs
    inferInstanceAs (Decidable (_ ∧ _))

lemma Follows.fragNums {keytrack : ℕ} : ∀ {fs : List RecvFrame} {curPn : UInt64} {n : ℕ},
    Follows keytrack curPn n fs → fs.map (fun f => (f.fragNum : ℕ)) = range' n fs.length
  | [], _, _, _ => rfl
  | f :: fs, _, n, ⟨_, _, hnum, h⟩ => by
    rw [map_cons, length_cons, range'_succ, h.fragNums, hnum]

lemma defragLoop_eq_some_iff : ∀ (fs : List RecvFrame) (f g : RecvFrame) (curPn : UInt64) (n : ℕ),
    defragLoop f curPn n fs = some g ↔ Follows f.keytrack curPn n fs ∧ g = fs.foldl append f
  | [], f, g, curPn, n => by simp [defragLoop, Follows, eq_comm]
  | f' :: fs, f, g, curPn, n => by
    simp only [defragLoop, Follows, foldl_cons]
    split_ifs with hpn hkey hnum
    · simp only [false_iff]
      rintro ⟨⟨h, -⟩, -⟩
      exact hpn.2 (h hpn.1)
    · simp only [false_iff]
      rintro ⟨⟨-, h, -⟩, -⟩
      exact hkey h.symm
    · simp only [false_iff]
      rintro ⟨⟨-, -, h, -⟩, -⟩
      exact hnum h.symm
    simp at hpn hkey hnum
    have hmod : (n + 1) % 256 = n + 1 := by
      omega
    rw [hmod, defragLoop_eq_some_iff fs, append_keytrack]
    constructor
    · rintro ⟨hfs, rfl⟩
      exact ⟨⟨hpn, hkey.symm, hnum.symm, hfs⟩, rfl⟩
    · rintro ⟨⟨-, -, -, hfs⟩, rfl⟩
      exact ⟨hfs, rfl⟩

/-- Fragments from 0 on, with one key and consecutive packet numbers. -/
def Accepted : List RecvFrame → Prop
  | [] => False
  | f :: fs => f.fragNum = 0 ∧ Follows f.keytrack (f.nextPn 0) 1 fs

instance : ∀ fs : List RecvFrame, Decidable (Accepted fs)
  | [] => inferInstanceAs (Decidable False)
  | _ :: _ => inferInstanceAs (Decidable (_ ∧ _))

lemma Accepted.fragNums (h : Accepted fs) :
    fs.map (fun f => (f.fragNum : ℕ)) = range fs.length := by
  cases fs with
  | nil => exact h.elim
  | cons f fs =>
    rw [map_cons, h.1, h.2.fragNums, length_cons, range_eq_range']
    rfl

lemma recvframeDefrag_eq_some_iff (f : RecvFrame) (fs : List RecvFrame) (g : RecvFrame) :
    (recvframeDefrag (f :: fs)).1 = some g ↔ Accepted (f :: fs) ∧ g = fs.foldl append f := by
  simp only [recvframeDefrag, Accepted]
  split_ifs with hnum
  · simp [hnum]
  rw [not_not] at hnum
  have hloop := defragLoop_eq_some_iff fs f g (f.nextPn 0) 1
  split
  · rename_i hnone
    rw [hnone] at hloop
    simpa [hnum] using hloop
  · rename_i hsome
    rw [hsome] at hloop
    simpa [hnum] using hloop

lemma accepted_of_eq_some {g : RecvFrame} (h : (recvframeDefrag fs).1 = some g) :
    Accepted fs := by
  cases fs with
  | nil => cases h
  | cons f fs => exact ((recvframeDefrag_eq_some_iff f fs g).1 h).1

section Run

variable {σ : Type*}
variable (defragQ : σ → List RecvFrame)

/-- The last of several fragments. -/
def RecvFrame.IsLast (f : RecvFrame) : Prop := f.mfrag = false ∧ f.fragNum ≠ 0
  deriving Decidable

def RxFragment.queued (e : RxFragment σ) : RecvFrame := { e.frame with keytrack := e.keytrack }

lemma chkDefrag_last {e : RxFragment σ} {sta : σ} (hlast : e.frame.IsLast)
    (hsta : e.sta = some sta) :
    chkDefrag defragQ e =
      ⟨if (recvframeDefrag (defragQ sta ++ [e.queued])).1.isNone then .drop else .continue,
        (recvframeDefrag (defragQ sta ++ [e.queued])).1, some [],
        (recvframeDefrag (defragQ sta ++ [e.queued])).2⟩ := by
  have hne : ¬ (e.frame.mfrag = false ∧ e.frame.fragNum = 0) := fun h => hlast.2 h.2
  simp [chkDefrag, hsta, recvframeChkDefrag]
  rw [if_neg hne, if_neg (by simp [hlast.1])]
  rfl

lemma chkDefrag_last_none {e : RxFragment σ} (hlast : e.frame.IsLast) (hsta : e.sta = none) :
    (chkDefrag defragQ e).ret = .drop := by
  have hne : ¬ (e.frame.mfrag = false ∧ e.frame.fragNum = 0) := fun h => hlast.2 h.2
  simp [chkDefrag, hsta, recvframeChkDefrag, if_neg hne]

variable [DecidableEq σ]

/-- Some of the fragments that arrived are the packet's from 0 to `last`, all with the same sequence
number. -/
def Reassembled (arrived : List Fragment) (last : Fragment) (packet : List UInt8) : Prop :=
  ∃ frags : List Fragment, frags.Sublist arrived ∧ frags.getLast? = some last ∧
    frags.map (fun g => (g.fragNum : ℕ)) = range frags.length ∧
    (∀ g ∈ frags, g.seqNum = last.seqNum) ∧ packet = (frags.map Fragment.payload).flatten

/-- The last fragment gives the packet of one MSDU or is dropped, and the queue is empty then. -/
structure ExactAt (before : List (RxFragment σ)) (defragQ : σ → List RecvFrame)
    (e : RxFragment σ) : Prop where
  ret : (chkDefrag defragQ e).ret = .continue ∨ (chkDefrag defragQ e).ret = .drop
  packet : (chkDefrag defragQ e).ret = .continue → ∃ f, (chkDefrag defragQ e).frame = some f ∧
    Reassembled ((before ++ [e]).map fun e => e.frame.fragment) e.frame.fragment f.payload
  empty : ∀ sta ∈ e.sta, defragStep defragQ e sta = []

/-- A last fragment has the sequence number of those in the queue, every fragment is long enough for
its header, IV and ICV, and all fit behind the first one. -/
def DefragOK (defragQ : σ → List RecvFrame) (e : RxFragment σ) : Prop :=
  ∀ sta ∈ e.sta, e.frame.IsLast → Accepted (defragQ sta ++ [e.queued]) →
    (∀ f ∈ defragQ sta, f.seqNum = e.frame.seqNum) ∧
    (∀ f ∈ defragQ sta ++ [e.queued], f.Sized) ∧
    ∀ f ∈ (defragQ sta).head?, Fits (f.room + f.icvLen) ((defragQ sta).tail ++ [e.queued])

instance (defragQ : σ → List RecvFrame) (e : RxFragment σ) : Decidable (DefragOK defragQ e) := by
  unfold DefragOK
  infer_instance

/-- A queue stays as it is, gets the fragment at its end or instead of all others, or is emptied. -/
lemma defragStep_queue (e : RxFragment σ) (sta : σ) :
    defragStep defragQ e sta = defragQ sta ∨ defragStep defragQ e sta = [e.queued] ∨
      (sta ∈ e.sta ∧ e.frame.fragNum ≠ 0 ∧ defragStep defragQ e sta = defragQ sta ++ [e.queued]) ∨
      defragStep defragQ e sta = [] := by
  rcases hsta : e.sta with _ | k
  · simp [defragStep, hsta]
  by_cases hk : sta = k
  · subst hk
    simp [defragStep, chkDefrag, hsta, recvframeChkDefrag]
    split_ifs with hwhole hmore hfirst
    · simp
    · simp [RxFragment.queued]
    · simp [RxFragment.queued, hfirst]
    · simp
    · simp
  · refine .inl ?_
    simp only [defragStep, hsta]
    rcases (chkDefrag defragQ e).defragQ with _ | q
    · rfl
    · exact Function.update_of_ne hk _ _

lemma queue_sublist_arrived (before : List (RxFragment σ)) (sta : σ) :
    ((run defragStep (fun _ => []) before sta).map fragment).Sublist
      (before.map fun e => e.frame.fragment) := by
  induction before using reverseRecOn with
  | nil => simp
  | append_singleton before e ih =>
    rw [run_append_singleton, map_append, map_singleton]
    have hq : e.queued.fragment = e.frame.fragment := rfl
    rcases defragStep_queue (run defragStep (fun _ => []) before) e sta with h | h | ⟨-, -, h⟩ | h
    · rw [h]
      exact ih.trans (sublist_append_left _ _)
    · rw [h, map_singleton, hq]
      exact sublist_append_right _ _
    · rw [h, map_append, map_singleton, hq]
      exact ih.append (List.Sublist.refl _)
    · rw [h]
      exact nil_sublist _

lemma accepted_reassembled (last : RecvFrame) {defragQ : List RecvFrame} {f : RecvFrame}
    {arrived : List Fragment} (hsub : (defragQ.map fragment).Sublist arrived)
    (hres : (recvframeDefrag (defragQ ++ [last])).1 = some f)
    (hseq : ∀ g ∈ defragQ, g.seqNum = last.seqNum) (hlast : last.fragNum ≠ 0)
    (hsized : ∀ g ∈ defragQ ++ [last], g.Sized)
    (hfits : ∀ g ∈ defragQ.head?, Fits (g.room + g.icvLen) (defragQ.tail ++ [last])) :
    Reassembled (arrived ++ [last.fragment]) last.fragment f.payload := by
  cases defragQ with
  | nil =>
    have hacc := ((recvframeDefrag_eq_some_iff last [] f).1 hres).1
    exact absurd hacc.1 hlast
  | cons g fs =>
    obtain ⟨hacc, rfl⟩ := (recvframeDefrag_eq_some_iff g (fs ++ [last]) f).1 hres
    refine ⟨((g :: fs) ++ [last]).map fragment, ?_, ?_, ?_, ?_, ?_⟩
    · rw [map_append]
      exact hsub.append (List.Sublist.refl _)
    · rw [map_append, map_singleton, getLast?_concat]
    · have hnums := hacc.fragNums
      rwa [map_map, length_map]
    · intro x hx
      obtain ⟨y, hy, rfl⟩ := mem_map.1 hx
      rcases mem_append.1 hy with hy | hy
      · exact hseq y hy
      · rw [mem_singleton.1 hy]
    · have hpay := payload_foldl_append (fs ++ [last]) g (hsized g (by simp))
        (fun x hx => hsized x (by simp at hx ⊢; tauto)) (hfits g rfl)
      rw [hpay, map_map]
      rfl

/-- In every run whose last fragments meet the condition, each of them leads to an exact packet or
to a drop. -/
theorem defrag_exact_run (es : List (RxFragment σ))
    (hok : RunOK defragStep DefragOK (fun _ => []) es) (before : List (RxFragment σ))
    (e : RxFragment σ) (hp : before ++ [e] <+: es) (hlast : e.frame.IsLast) :
    ExactAt before (run defragStep (fun _ => []) before) e := by
  have hcond := (hok.of_prefix hp).last
  rcases hsta : e.sta with _ | sta
  · have hdrop := chkDefrag_last_none (run defragStep (fun _ => []) before) hlast hsta
    refine ⟨.inr hdrop, fun hret => ?_, by simp [hsta]⟩
    rw [hdrop] at hret
    cases hret
  have hchk := chkDefrag_last (run defragStep (fun _ => []) before) hlast hsta
  refine ⟨?_, ?_, ?_⟩
  · rw [hchk]
    split_ifs <;> simp
  · intro hret
    rw [hchk] at hret ⊢
    rcases hres : (recvframeDefrag (run defragStep (fun _ => []) before sta ++ [e.queued])).1
      with _ | f
    · rw [hres] at hret
      cases hret
    refine ⟨f, rfl, ?_⟩
    obtain ⟨hseq, hsized, hfits⟩ := hcond sta hsta hlast (accepted_of_eq_some hres)
    have hsub := queue_sublist_arrived before sta
    have hpacket := accepted_reassembled e.queued hsub hres hseq hlast.2 hsized hfits
    rwa [map_append]
  · intro sta' hsta'
    rw [hsta, Option.mem_some_iff] at hsta'
    subst hsta'
    simp [defragStep, hsta, hchk]

end Run

def plainFragment (seqNum : Fin 4096) (fragNum : Fin 16) (mfrag : Bool) (bytes : List UInt8) :
    RxFragment Unit where
  frame :=
    { id := 0, rxReq := none, pkt := true, type := .data, mfrag := mfrag, fragNum := fragNum
      seqNum := seqNum, hdrlen := 24, ivLen := 0, icvLen := 0, encrypt := .noPrivacy, keytrack := 0
      data := replicate 24 0 ++ bytes, room := 100, offset_lt := by decide }
  psta := some ()
  bcmcSta := none
  keytrack := 0

def defragSample : List (RxFragment Unit) :=
  [plainFragment 1 0 true [10, 11], plainFragment 2 0 false [20]]

theorem defrag_exact_sample :
    RunOK defragStep DefragOK (fun _ => []) (defragSample ++ [plainFragment 1 1 false [12]]) ∧
      ExactAt defragSample (run defragStep (fun _ => []) defragSample)
        (plainFragment 1 1 false [12]) :=
  ⟨by decide +kernel, defrag_exact_run (defragSample ++ [plainFragment 1 1 false [12]])
    (by decide +kernel) defragSample _ (prefix_refl _) (by decide)⟩

/-- The first fragment of the packet 1 and the last one of the packet 2 are taken for a packet. -/
theorem defrag_mixes_packets : ¬ ExactAt [plainFragment 1 0 true [10, 11]]
      (run defragStep (fun _ => []) [plainFragment 1 0 true [10, 11]])
      (plainFragment 2 1 false [20]) := by
  intro h
  obtain ⟨f, -, frags, hsub, hlast, hnums, hseq, -⟩ := h.packet (by decide +kernel)
  have hall : ∀ frags ∈ sublists [(⟨1, 0, [10, 11]⟩ : Fragment), ⟨2, 1, [20]⟩],
      frags.getLast? = some ⟨2, 1, [20]⟩ →
      frags.map (fun g => (g.fragNum : ℕ)) = range frags.length →
      ¬ ∀ g ∈ frags, g.seqNum = 2 := by decide
  exact hall frags (mem_sublists.2 hsub) hlast hnums hseq

lemma recvframeChkDefragRun_eq (isMcast : Bool) (pdefragQ : Option (List RecvFrame))
    (keytrack : ℕ) (f : RecvFrame) :
    (recvframeChkDefragRun isMcast pdefragQ keytrack f).toChkDefrag
      = recvframeChkDefrag pdefragQ keytrack f := by
  unfold recvframeChkDefragRun recvframeChkDefrag
  rcases hm : f.mfrag <;> by_cases hnum : f.fragNum = 0 <;> rcases pdefragQ with _ | q <;>
    simp [hm, hnum]

/-- A group addressed fragment is dropped, and it is not put into a queue or used. -/
structure GroupRejected (r : ChkDefragRun) : Prop where
  ret : r.ret = .drop
  linked : r.linked = false
  merged : r.merged = none

theorem group_fragment_rejected_iff {σ : Type*} (defragQ : σ → List RecvFrame) (e : RxFragment σ)
    (hfrag : e.frame.mfrag = true ∨ e.frame.fragNum ≠ 0) :
    GroupRejected (recvframeChkDefragRun true (e.sta.map defragQ) e.keytrack e.frame)
      ↔ e.sta = none := by
  rcases e.sta with _ | sta
  · simp
    unfold recvframeChkDefragRun
    rcases hm : e.frame.mfrag
    · have hnum : e.frame.fragNum ≠ 0 := by simpa [hm] using hfrag
      exact ⟨by simp [hm, hnum], by simp [hm, hnum], by simp [hm, hnum]⟩
    · exact ⟨by simp [hm], by simp [hm], by simp [hm]⟩
  · simp [reduceCtorEq]
    intro h
    have hlinked := h.linked
    unfold recvframeChkDefragRun at hlinked
    rcases hm : e.frame.mfrag
    · have hnum : e.frame.fragNum ≠ 0 := by simpa [hm] using hfrag
      simp [hm, hnum] at hlinked
    · simp [hm] at hlinked

theorem group_fragment_rejected_unknown : GroupRejected (recvframeChkDefragRun true none 0
    (plainFragment 1 0 true [10]).frame) :=
  (group_fragment_rejected_iff (fun _ : Unit => [])
    { plainFragment 1 0 true [10] with psta := none } (.inl rfl)).2 rfl

/-- The status of the first fragment, and the frame that the second gives. -/
theorem group_fragments_used :
    let r := recvframeChkDefragRun true (some []) 0 (plainFragment 1 0 true [10]).frame
    r.ret = .defrag ∧ r.linked = true ∧ r.defragQ = some [(plainFragment 1 0 true [10]).frame] ∧
      (recvframeChkDefragRun true r.defragQ 0 (plainFragment 1 1 false [12]).frame).merged.map
        RecvFrame.payload = some [10, 12] := by
  decide +kernel

end Rtl8852be
