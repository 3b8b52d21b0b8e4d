import Rtl8852be.IeList

/-!
# Edited element lists

A search compares an OUI with the bytes behind the header even if the element is shorter, so
removing elements is exact only if no short one is taken for a match. An empty element of extended
capabilities is never replaced, the header of the extended rates stays counted when they are
removed, and merged P2P elements are counted in a `u8`.
-/

namespace Rtl8852be

open Bytes PatchLog Tlv List Prod UInt8

variable {mem : ℕ → UInt8} {eid : UInt8} {oui : List UInt8} {pos stop : ℕ} {e : Elem}
  {es : List Elem}
variable {bs : List UInt8}

lemma holds_memmove {dst src n : ℕ} (h : Holds mem src bs) (hn : bs.length ≤ n) :
    Holds (rtwMemmove mem dst src n) dst bs := by
  refine holds_of_getElem fun i hi => ?_
  rw [rtwMemmove, store_load, if_pos ⟨by omega, by omega⟩, Nat.add_sub_cancel_left, h.getElem hi]

def firstHit (mem : ℕ → UInt8) (eid : UInt8) (oui : List UInt8) (pos : ℕ) (es : List Elem) :
    Option ℕ := (visit (ieStep mem eid oui) pos es ()).getLeft?

lemma firstHit_cons : firstHit mem eid oui pos (e :: es) = if ieTest mem eid oui pos then some pos
    else firstHit mem eid oui (pos + (e.body.length + 2)) es := by
  simp only [firstHit, visit, ieStep]
  split_ifs <;> rfl

lemma rtwGetIeEx_eq (h : Holds mem pos (encode es)) :
    rtwGetIeEx mem pos (encode es).length eid oui = firstHit mem eid oui pos es := by
  rw [rtwGetIeEx, walk_eq es _ (le_refl _) h rfl, firstHit]

lemma ofFn_load (h : Holds mem pos bs) : ofFn (load mem pos bs.length) = bs := by
  refine ext_getElem (by simp) fun i hi hi' => ?_
  simpa [load] using h.getElem hi'

/-- The elements at `pos` in a buffer that is zero otherwise. -/
def ieMem (pos : ℕ) (es : List Elem) : ℕ → UInt8 := blit (fun _ => 0) pos (encode es)

lemma ieMem_holds (pos : ℕ) (es : List Elem) : Holds (ieMem pos es) pos (encode es) :=
  holds_blit (encode es) _ pos

section Remove

variable {res : Bool × (ℕ → UInt8) × ℕ}

def Tlv.Elem.hits (eid : UInt8) (oui : List UInt8) (e : Elem) : Bool :=
  e.id == eid && oui.isPrefixOf e.body

lemma Tlv.Elem.hits_imp (h : Holds mem pos (encode (e :: es))) (he : e.hits eid oui) :
    ieTest mem eid oui pos := by
  simp [Elem.hits] at he
  obtain ⟨hid, rest, hbody⟩ := he
  obtain ⟨hpos, -, hin, -⟩ := holds_encode_cons.1 h
  rw [← hbody, holds_append] at hin
  exact ⟨hpos.trans hid, hin.1⟩

def keptElems (eid : UInt8) (oui : List UInt8) (es : List Elem) : List Elem :=
  es.filter fun e => !e.hits eid oui

/-- When the search comes to an element with the id whose body does not start with the OUI, the
bytes behind its header are not those of the OUI. -/
@[local simp] def OuiSafe (eid : UInt8) (oui : List UInt8) : (ℕ → UInt8) → ℕ → List Elem → Prop
  | _, _, [] => True
  | mem, pos, e :: es =>
    if e.hits eid oui then
      OuiSafe eid oui (rtwMemmove mem pos (pos + (e.body.length + 2)) (encode es).length) pos es
    else ¬ ieTest mem eid oui pos ∧ OuiSafe eid oui mem (pos + (e.body.length + 2)) es

structure Removed (eid : UInt8) (oui : List UInt8) (mem : ℕ → UInt8) (pos : ℕ) (es : List Elem)
    (res : Bool × (ℕ → UInt8) × ℕ) : Prop where
  frame : ∀ a < pos, res.2.1 a = mem a
  le : res.2.2 ≤ pos + (encode (keptElems eid oui es)).length
  len_iff : res.2.2 = pos + (encode (keptElems eid oui es)).length ↔ OuiSafe eid oui mem pos es
  holds : OuiSafe eid oui mem pos es → Holds res.2.1 pos (encode (keptElems eid oui es))
  status : OuiSafe eid oui mem pos es → (res.1 = true ↔ ∃ e ∈ es, e.hits eid oui)

lemma Removed.miss (h : Holds mem pos (encode (e :: es))) (hmiss : ¬ ieTest mem eid oui pos)
    (hr : Removed eid oui mem (pos + (e.body.length + 2)) es res) :
    Removed eid oui mem pos (e :: es) res := by
  have hhits : e.hits eid oui = false := Bool.eq_false_iff.2 fun he => hmiss (e.hits_imp h he)
  have hkept : keptElems eid oui (e :: es) = e :: keptElems eid oui es := by
    simp [keptElems, hhits]
  have hsafe : OuiSafe eid oui mem pos (e :: es) ↔
      OuiSafe eid oui mem (pos + (e.body.length + 2)) es := by
    simp [hhits, hmiss]
  have hlen := length_encode_cons e (keptElems eid oui es)
  have hle := hr.le
  have hframe : ∀ a < pos + (e.body.length + 2), res.2.1 a = mem a := hr.frame
  obtain ⟨hid, hn, hbody, -⟩ := holds_encode_cons.1 h
  refine ⟨fun a ha => hframe a (by omega), by rw [hkept]; omega, ?_, fun hs => ?_, fun hs => ?_⟩
  · rw [hkept, hsafe, ← hr.len_iff]
    omega
  · rw [hkept, holds_encode_cons, hframe _ (by omega), hframe _ (by omega)]
    exact ⟨hid, hn, holds_congr (fun a _ _ => hframe a (by omega)) hbody, hr.holds (hsafe.1 hs)⟩
  · rw [hr.status (hsafe.1 hs)]
    simp [hhits]

lemma Removed.hit (hhit : ieTest mem eid oui pos)
    (hr : Removed eid oui (rtwMemmove mem pos (pos + (e.body.length + 2)) (encode es).length)
      pos es res) :
    Removed eid oui mem pos (e :: es) (true, res.2) := by
  have hframe : ∀ a < pos, res.2.1 a = mem a := fun a ha =>
    (hr.frame a ha).trans (store_of_lt ha _)
  cases hhits : e.hits eid oui with
  | true =>
    have hkept : keptElems eid oui (e :: es) = keptElems eid oui es := by simp [keptElems, hhits]
    have hsafe : OuiSafe eid oui mem pos (e :: es) ↔ OuiSafe eid oui
        (rtwMemmove mem pos (pos + (e.body.length + 2)) (encode es).length) pos es := by
      simp [hhits]
    refine ⟨hframe, hkept ▸ hr.le, ?_, fun hs => hkept ▸ hr.holds (hsafe.1 hs), fun _ => ?_⟩
    · rw [hkept, hsafe]
      exact hr.len_iff
    · simp [hhits]
  | false =>
    -- the element is removed, and should not have been
    have hkept : keptElems eid oui (e :: es) = e :: keptElems eid oui es := by
      simp [keptElems, hhits]
    have hsafe : ¬ OuiSafe eid oui mem pos (e :: es) := by
      rw [OuiSafe, hhits]
      exact fun hs => hs.1 hhit
    have hlen := length_encode_cons e (keptElems eid oui es)
    have hle := hr.le
    refine ⟨hframe, by rw [hkept]; dsimp only; omega, ?_, fun hs => absurd hs hsafe,
      fun hs => absurd hs hsafe⟩
    rw [hkept]
    exact iff_of_false (by dsimp only; omega) hsafe

lemma removeIeLoop_removed : ∀ (es : List Elem) {mem : ℕ → UInt8} {left pos stop : ℕ},
    (encode es).length ≤ left → Holds mem pos (encode es) → pos + (encode es).length = stop →
    Removed eid oui mem pos es (removeIeLoop eid oui left mem pos stop)
  | [], mem, left, pos, stop, _, _, hstop => by
    have hres : removeIeLoop eid oui left mem pos stop = (false, mem, stop) := by
      cases left with
      | zero => rfl
      | succ left => simp [removeIeLoop, ← hstop, rtwGetIeEx, walk]
    rw [hres]
    exact ⟨fun _ _ => rfl, hstop.ge, by simp [keptElems, ← hstop], fun _ => trivial,
      fun _ => by simp⟩
  | e :: es, mem, 0, _, _, hleft, _, _ => by simp at hleft
  | e :: es, mem, left + 1, pos, stop, hleft, h, hstop => by
    have hget : rtwGetIeEx mem pos (stop - pos) eid oui = firstHit mem eid oui pos (e :: es) := by
      rw [← hstop, Nat.add_sub_cancel_left, rtwGetIeEx_eq h]
    obtain ⟨-, hn, -, hrest⟩ := holds_encode_cons.1 h
    rw [length_encode_cons] at hstop hleft
    by_cases hhit : ieTest mem eid oui pos
    · rw [removeIeLoop, hget, firstHit_cons, if_pos hhit]
      dsimp only
      rw [hn, e.toNat_length]
      have hend : stop - (pos + (e.body.length + 2)) = (encode es).length := by omega
      rw [hend]
      exact .hit hhit (removeIeLoop_removed es (by omega)
        (holds_memmove hrest (Nat.le_refl _)) (by omega))
    · refine Removed.miss h hhit ?_
      have hnext : rtwGetIeEx mem (pos + (e.body.length + 2)) (stop - (pos + (e.body.length + 2)))
          eid oui = rtwGetIeEx mem pos (stop - pos) eid oui := by
        rw [hget, firstHit_cons, if_neg hhit, ← rtwGetIeEx_eq hrest]
        congr 1
        omega
      have hsame : removeIeLoop eid oui (left + 1) mem pos stop =
          removeIeLoop eid oui (left + 1) mem (pos + (e.body.length + 2)) stop := by
        rw [removeIeLoop, removeIeLoop, hnext]
      rw [hsame]
      exact removeIeLoop_removed es (by omega) hrest (by omega)

/-- The elements after the offset that do not match are left, and all bytes before it. -/
structure RemoveExact (eid : UInt8) (oui : List UInt8) (mem : ℕ → UInt8) (offset : ℕ)
    (es : List Elem) (res : Bool × (ℕ → UInt8) × ℕ) : Prop where
  len : res.2.2 = offset + (encode (keptElems eid oui es)).length
  elems : Holds res.2.1 offset (encode (keptElems eid oui es))
  before : ∀ a < offset, res.2.1 a = mem a
  status : res.1 = true ↔ ∃ e ∈ es, e.hits eid oui

lemma rtwIesRemoveIe_removed (eid : UInt8) (oui : List UInt8) {offset iesLen : ℕ}
    (h : Holds mem offset (encode es))
    (hlen : offset + (encode es).length = iesLen) :
    Removed eid oui mem offset es (rtwIesRemoveIe mem iesLen offset eid oui) := by
  unfold rtwIesRemoveIe
  split_ifs with hle
  · have hnil : es = [] := by
      cases es with
      | nil => rfl
      | cons e es => rw [length_encode_cons] at hlen; omega
    subst hnil
    exact (removeIeLoop_removed [] (le_refl 0) h hlen :
      Removed eid oui mem offset [] (removeIeLoop eid oui 0 mem offset iesLen))
  · exact removeIeLoop_removed es (by omega) h hlen

lemma Removed.removeExact (hr : Removed eid oui mem pos es res)
    (hs : OuiSafe eid oui mem pos es) : RemoveExact eid oui mem pos es res :=
  ⟨hr.len_iff.2 hs, hr.holds hs, hr.frame, hr.status hs⟩

theorem remove_exact_iff {offset iesLen : ℕ} (h : Holds mem offset (encode es))
    (hlen : offset + (encode es).length = iesLen) :
    RemoveExact eid oui mem offset es (rtwIesRemoveIe mem iesLen offset eid oui) ↔
      OuiSafe eid oui mem offset es := by
  have hr := rtwIesRemoveIe_removed eid oui h hlen
  exact ⟨fun hex => hr.len_iff.1 hex.len, hr.removeExact⟩

/-- The first bytes of a P2P element, cut off inside the OUI. -/
def cutP2p : List Elem := [headElem 221 2 [80, 111], headElem 154 9 [0, 0, 0, 0, 0, 0, 0, 0, 0]]

/-- Of the two elements the second one goes. -/
theorem remove_exact_second :
    Holds (ieMem 0 cutP2p) 0 (encode cutP2p) ∧ RemoveExact 154 [0, 0] (ieMem 0 cutP2p) 0 cutP2p
      (rtwIesRemoveIe (ieMem 0 cutP2p) 15 0 154 [0, 0]) := by
  have h := ieMem_holds 0 cutP2p
  refine ⟨h, (remove_exact_iff h rfl).2 ⟨?_, trivial⟩⟩
  decide

/-- With the id and the length of the next element the first one looks like a P2P element. -/
theorem remove_exact_cut : ¬ RemoveExact 221 [80, 111, 154, 9] (ieMem 0 cutP2p) 0 cutP2p
      (rtwIesRemoveIe (ieMem 0 cutP2p) 15 0 221 [80, 111, 154, 9]) := by
  intro h
  exact absurd h.len (by decide)

end Remove

section Replace

variable {d : Elem} {pre post : List Elem}

lemma rtwGetIe_eq (eid : UInt8) (h : Holds mem pos (encode es))
    (hstop : pos + (encode es).length = stop) :
    rtwGetIe mem pos eid (stop - pos) = firstHit mem eid [] pos es := by
  rw [← hstop, Nat.add_sub_cancel_left, rtwGetIe, rtwGetIeEx_eq h]

lemma holds_split : Holds mem pos (encode (pre ++ e :: post)) ↔
    Holds mem pos (encode pre) ∧ mem (pos + (encode pre).length) = e.id ∧
      mem (pos + (encode pre).length + 1) = ofNat e.body.length ∧
      Holds mem (pos + (encode pre).length + 2) e.body ∧
      Holds mem (pos + (encode pre).length + (e.body.length + 2)) (encode post) := by
  rw [encode_append, holds_append, holds_encode_cons]

lemma length_split (pre : List Elem) (e : Elem) (post : List Elem) :
    (encode (pre ++ e :: post)).length =
      (encode pre).length + (e.body.length + 2 + (encode post).length) := by
  rw [encode_append, length_append, length_encode_cons]

lemma firstHit_append (es : List Elem) (hpre : ∀ x ∈ pre, x.id ≠ eid) {pos : ℕ}
    (h : Holds mem pos (encode (pre ++ es))) : firstHit mem eid [] pos (pre ++ es) =
      firstHit mem eid [] (pos + (encode pre).length) es := by
  induction pre generalizing pos with
  | nil => rfl
  | cons x pre ih =>
    obtain ⟨hid, -, -, hrest⟩ := holds_encode_cons.1 h
    have hx : x.id ≠ eid := hpre x mem_cons_self
    rw [cons_append, firstHit_cons, if_neg fun ht => hx (hid.symm.trans ht.1),
      ih (fun y hy => hpre y (mem_cons_of_mem x hy)) hrest, length_encode_cons, add_assoc]

lemma firstHit_none (hes : ∀ x ∈ es, x.id ≠ eid) (h : Holds mem pos (encode es)) :
    firstHit mem eid [] pos es = none := by
  simpa [firstHit, visit] using firstHit_append [] hes (by simpa using h)

lemma firstHit_some (hpre : ∀ x ∈ pre, x.id ≠ eid) (he : e.id = eid)
    (h : Holds mem pos (encode (pre ++ e :: post))) :
    firstHit mem eid [] pos (pre ++ e :: post) = some (pos + (encode pre).length) := by
  rw [firstHit_append _ hpre h, firstHit_cons]
  exact if_pos ⟨(holds_split.1 h).2.1.trans he, trivial⟩

/-- The element `e` is overwritten by `d`, and what follows it stands behind `d`. -/
lemma holds_replaced {mem' : ℕ → UInt8} (h : Holds mem pos (encode (pre ++ e :: post)))
    (hd : d.id = e.id) (hnew : ∀ a < pos + (encode pre).length + (d.body.length + 2),
      mem' a = blit mem (pos + (encode pre).length + 1) (ofNat d.body.length :: d.body) a)
    (hpost : Holds mem' (pos + (encode pre).length + (d.body.length + 2)) (encode post)) :
    Holds mem' pos (encode (pre ++ d :: post)) ∧ ∀ a < pos, mem' a = mem a := by
  have hbefore : ∀ a ≤ pos + (encode pre).length, mem' a = mem a := fun a ha =>
    (hnew a (by omega)).trans (blit_of_lt (by omega))
  have hbody := holds_blit (ofNat d.body.length :: d.body) mem (pos + (encode pre).length + 1)
  replace hbody := holds_congr (fun a _ ha => hnew a (by
    simp at ha
    omega)) hbody
  rw [holds_split] at h ⊢
  refine ⟨⟨holds_congr (fun a _ ha => hbefore a (by omega)) h.1, ?_, hbody.1, hbody.2, hpost⟩,
    fun a ha => hbefore a (by omega)⟩
  rw [hbefore _ (le_refl _), h.2.1, hd]

lemma find_append (hpre : ∀ x ∈ pre, x.id ≠ eid) (he : e.id = eid) :
    (pre ++ e :: post).find? (·.id = eid) = some e := by
  have hnone : pre.find? (·.id = eid) = none := by simpa using hpre
  simp [find?_append, hnone, he]

/-- The first element with the id of `d` becomes `d`, which is added if there is none. -/
def setFirst (d : Elem) : List Elem → List Elem
  | [] => [d]
  | e :: es => if e.id = d.id then d :: es else e :: setFirst d es

lemma setFirst_split (d : Elem) (es : List Elem) : ∃ pre post,
    setFirst d es = pre ++ d :: post ∧ (∀ x ∈ pre, x.id ≠ d.id) ∧
      (es = pre ∧ post = [] ∨ ∃ e, e.id = d.id ∧ es = pre ++ e :: post) := by
  induction es with
  | nil => exact ⟨[], [], rfl, nofun, .inl ⟨rfl, rfl⟩⟩
  | cons e es ih =>
    rw [setFirst]
    split_ifs with he
    · exact ⟨[], es, rfl, nofun, .inr ⟨e, he, rfl⟩⟩
    obtain ⟨pre, post, hset, hpre, hes⟩ := ih
    refine ⟨e :: pre, post, by rw [hset, cons_append], forall_mem_cons.2 ⟨he, hpre⟩, ?_⟩
    rcases hes with ⟨rfl, rfl⟩ | ⟨x, hx, rfl⟩
    · exact .inl ⟨rfl, rfl⟩
    · exact .inr ⟨x, hx, rfl⟩

/-- What the elements are to be. -/
def extCapElems (d : Elem) (es : List Elem) : List Elem :=
  if d.body = [] then keptElems d.id [] es else setFirst d es

/-- The elements are as `extCapElems` has them, and all before them is kept. -/
structure ExtCapExact (d : Elem) (mem : ℕ → UInt8) (offset : ℕ) (es : List Elem)
    (res : (ℕ → UInt8) × ℕ) : Prop where
  len : offset + (encode (extCapElems d es)).length = res.2
  elems : Holds res.1 offset (encode (extCapElems d es))
  before : ∀ a < offset, res.1 a = mem a
  parse : rtwParseExtCapIe [] res.1 res.2 offset = d.body

lemma parse_extCapElems (hd : d.id = wlanEidExtCap)
    (hlen : pos + (encode (extCapElems d es)).length = stop)
    (h : Holds mem pos (encode (extCapElems d es))) :
    rtwParseExtCapIe [] mem stop pos = d.body := by
  rw [rtwParseExtCapIe, rtwGetIe_eq _ h hlen]
  by_cases hnil : d.body = []
  · rw [extCapElems, if_pos hnil] at h ⊢
    rw [firstHit_none (fun x hx => ?_) h, hnil]
    simpa [Elem.hits, hd] using of_mem_filter hx
  · obtain ⟨pre, post, hset, hpre, -⟩ := setFirst_split d es
    rw [extCapElems, if_neg hnil, hset] at h ⊢
    obtain ⟨-, -, hn, hbody, -⟩ := holds_split.1 h
    rw [firstHit_some (hd ▸ hpre) hd h]
    dsimp only
    rw [hn, d.toNat_length, if_pos rfl]
    exact ofFn_load hbody

lemma update_replaced {alloc : Bool} {iesLen : ℕ} (hpre : ∀ x ∈ pre, x.id ≠ d.id)
    (he : e.id = d.id) (h : Holds mem pos (encode (pre ++ e :: post)))
    (hlen : pos + (encode (pre ++ e :: post)).length = iesLen) (hne : e.body ≠ [])
    (halloc : alloc ∨ e.body.length = d.body.length) :
    ∃ mem', rtwIesUpdateIe alloc mem iesLen pos d.id d.body =
        (mem', pos + (encode (pre ++ d :: post)).length) ∧
      Holds mem' pos (encode (pre ++ d :: post)) ∧ ∀ a < pos, mem' a = mem a := by
  have hget := (rtwGetIe_eq d.id h hlen).trans (firstHit_some hpre he h)
  obtain ⟨-, -, hn, -, hpost⟩ := holds_split.1 h
  rw [length_split] at hlen
  have hpos := length_pos_iff.2 hne
  rw [rtwIesUpdateIe, if_neg (by omega), hget]
  dsimp only
  rw [hn, e.toNat_length, if_neg (by omega), length_split]
  by_cases heq : e.body.length = d.body.length
  · rw [if_pos heq]
    refine ⟨_, congrArg (mk _) (by omega), holds_replaced h he.symm (fun _ _ => rfl) ?_⟩
    rw [← heq]
    refine holds_congr (fun a ha _ => blit_of_le ?_) hpost
    simp
    omega
  · rw [if_neg heq, halloc.resolve_right heq, if_neg (by simp)]
    refine ⟨_, congrArg (mk _) (by omega),
      holds_replaced h he.symm (fun a ha => store_of_lt ha _) (holds_of_getElem fun i hi => ?_)⟩
    have hi' : i < iesLen - (pos + (encode pre).length + (e.body.length + 2)) := by omega
    exact (store_add (load mem _ _) ⟨i, hi'⟩).trans (hpost.getElem hi)

lemma ouiSafe_none (h : Holds mem pos (encode es)) : OuiSafe eid [] mem pos es := by
  induction es generalizing mem pos with
  | nil => trivial
  | cons e es ih =>
    obtain ⟨hid, -, -, hrest⟩ := holds_encode_cons.1 h
    rw [OuiSafe]
    split_ifs with hhits
    · exact ih (holds_memmove hrest (le_refl _))
    · refine ⟨fun ht => hhits ?_, ih hrest⟩
      simp [Elem.hits, ← hid, ht.1]

/-- Unless the element to be replaced is empty, or there is no memory to move what is behind it. -/
theorem ext_cap_exact_iff {alloc : Bool} {offset iesLen : ℕ} (hd : d.id = wlanEidExtCap)
    (h : Holds mem offset (encode es)) (hlen : offset + (encode es).length = iesLen) :
    ExtCapExact d mem offset es (rtwUpdateExtCapIe alloc d.body mem iesLen offset) ↔
      (d.body ≠ [] → ∀ e ∈ es.find? (·.id = wlanEidExtCap),
        e.body ≠ [] ∧ (alloc ∨ e.body.length = d.body.length)) := by
  have hparse : ∀ {res : (ℕ → UInt8) × ℕ}, offset + (encode (extCapElems d es)).length = res.2 →
      Holds res.1 offset (encode (extCapElems d es)) → (∀ a < offset, res.1 a = mem a) →
      ExtCapExact d mem offset es res :=
    fun hl hh hb => ⟨hl, hh, hb, parse_extCapElems hd hl hh⟩
  unfold rtwUpdateExtCapIe
  by_cases hnil : d.body = []
  · rw [if_neg (by simpa using hnil)]
    refine iff_of_true ?_ fun hne => absurd hnil hne
    have hr := (rtwIesRemoveIe_removed wlanEidExtCap [] h hlen).removeExact (ouiSafe_none h)
    have hkept : keptElems wlanEidExtCap [] es = extCapElems d es := by
      rw [extCapElems, if_pos hnil, hd]
    exact hparse (hkept ▸ hr.len.symm) (hkept ▸ hr.elems) hr.before
  rw [if_pos hnil, rtwGetIe_eq _ h hlen]
  obtain ⟨pre, post, hset, hpre, ⟨rfl, rfl⟩ | ⟨e, he, rfl⟩⟩ := setFirst_split d es
  · have hnew : extCapElems d es = es ++ [d] := by rw [extCapElems, if_neg hnil, hset]
    have hblit := holds_blit (encode [d]) mem iesLen
    rw [firstHit_none (hd ▸ hpre) h]
    refine iff_of_true (hparse ?_ ?_ fun a ha => blit_of_lt (by omega)) fun _ e hfind => ?_
    · rw [hnew, encode_append, length_append, length_encode_cons, ← add_assoc, hlen]
      simp
    · rw [hnew, encode_append, holds_append, hlen, rtwSetIe, ← hd]
      exact ⟨holds_congr (fun a _ ha => blit_of_lt (by omega)) h, by simpa using hblit⟩
    · have hid := find?_some hfind
      exact absurd (by simpa [hd] using hid) (hpre e (mem_of_find?_eq_some hfind))
  · have hnew : extCapElems d (pre ++ e :: post) = pre ++ d :: post := by
      rw [extCapElems, if_neg hnil, hset]
    rw [firstHit_some (hd ▸ hpre) (he.trans hd) h]
    simp only [find_append (hd ▸ hpre) (he.trans hd), Option.mem_some_iff, forall_eq']
    refine ⟨fun hex _ => ?_, fun hok => ?_⟩
    · -- an element that is left as it was has the wrong length
      have hlen' := hex.len
      have hd0 := length_pos_iff.2 hnil
      rw [hnew, ← hd, rtwIesUpdateIe, rtwGetIe_eq _ h hlen, firstHit_some hpre he h] at hlen'
      dsimp only at hlen'
      rw [(holds_split.1 h).2.2.1, e.toNat_length, ← hlen] at hlen'
      simp only [length_split] at hlen'
      split_ifs at hlen' with h1 h2 h3 h4
      · omega
      · omega
      · exact ⟨ne_nil_of_length_pos (by omega), .inr h3⟩
      · omega
      · exact ⟨ne_nil_of_length_pos (by omega), .inl (by simpa using h4)⟩
    · obtain ⟨mem', hres, hholds, hbefore⟩ :=
        update_replaced hpre he h hlen (hok hnil).1 (hok hnil).2
      rw [← hd, hres]
      exact hparse (by rw [hnew]) (hnew ▸ hholds) hbefore

def grownIes : List Elem := [headElem 127 1 [4], headElem 1 1 [2]]

/-- The element of one byte is replaced by one of two bytes. -/
theorem ext_cap_exact_grown : Holds (ieMem 0 grownIes) 0 (encode grownIes) ∧
      ExtCapExact (headElem 127 2 [4, 8]) (ieMem 0 grownIes) 0 grownIes
        (rtwUpdateExtCapIe true [4, 8] (ieMem 0 grownIes) 6 0) := by
  have h := ieMem_holds 0 grownIes
  refine ⟨h, (ext_cap_exact_iff rfl h rfl).2 fun _ e he => ?_⟩
  cases he
  exact ⟨by decide, .inl rfl⟩

/-- An empty element stays as it is. -/
theorem ext_cap_exact_empty :
    ¬ ExtCapExact (headElem 127 1 [4]) (ieMem 0 [headElem 127 0 []]) 0 [headElem 127 0 []]
      (rtwUpdateExtCapIe true [4] (ieMem 0 [headElem 127 0 []]) 2 0) := by
  intro h
  exact absurd h.len (by decide)

end Replace

section Rates

variable {ies : ℕ → UInt8} {ieLength : ℕ}

lemma newRate_length (keep : RateSection) (rates : List UInt8) :
    (newRate keep rates).length ≤ rates.length := by
  rw [newRate, length_map]
  exact length_filter_le _ _

def rateElem (keep : RateSection) (e : Elem) : Elem :=
  ⟨e.id, newRate keep e.body, (newRate_length keep e.body).trans_lt e.short⟩

lemma rtwFilterSuppportRateie_replaced (keep : RateSection) (h : Holds ies 12 (encode es))
    (hlen : 12 + (encode es).length = ieLength) (hfind : es.find? (·.id = 1) = some e) :
    ∃ ies' es', rtwFilterSuppportRateie keep ies ieLength = (ies', 12 + (encode es').length) ∧
      setFirst (rateElem keep e) es = es' ∧ es'.map Elem.id = es.map Elem.id ∧
      Holds ies' 12 (encode es') ∧ ∀ a < 12, ies' a = ies a := by
  have he := find?_some hfind
  simp at he
  obtain ⟨pre, post, hset, hpre, ⟨rfl, -⟩ | ⟨e', he', rfl⟩⟩ := setFirst_split (rateElem keep e) es
  · exact absurd rfl (hpre e (mem_of_find?_eq_some hfind))
  rw [show (rateElem keep e).id = 1 from he] at hpre he'
  obtain rfl := Option.some.inj ((find_append hpre he').symm.trans hfind)
  obtain ⟨-, -, hn, hbody, hpost⟩ := holds_split.1 h
  have hnew := newRate_length keep e'.body
  rw [rtwFilterSuppportRateie, rtwGetIe_eq _ h hlen, firstHit_some hpre he h]
  rw [length_split] at hlen
  dsimp only
  rw [hn, e'.toNat_length, ofFn_load hbody]
  refine ⟨_, _, congrArg (mk _) ?_, hset, by simp [rateElem],
    holds_replaced h rfl (fun a ha => store_of_lt ha _) (holds_memmove ?_ (by omega))⟩
  · simp only [length_split, rateElem]
    omega
  · refine holds_congr (fun a ha _ => blit_of_le ?_) hpost
    simp
    omega

/-- The rates that the mode and the channel leave. -/
@[local simp] def rateSection (mode dsConfig : ℕ) : Option RateSection :=
  if mode = 1 then some .cck else if 14 < dsConfig ∨ mode % 2 = 0 then some .ofdm else none

/-- What the elements are to be, `e` being the one with the rates. -/
@[local simp] def rateElems (mode dsConfig : ℕ) (e : Elem) (es : List Elem) : List Elem :=
  let es := (rateSection mode dsConfig).elim es fun keep => setFirst (rateElem keep e) es
  if mode = 1 then keptElems 50 [] es else es

/-- The elements are as `rateElems` has them, and all before them is kept. -/
structure RatesExact (mode dsConfig : ℕ) (e : Elem) (es : List Elem) (ies : ℕ → UInt8)
    (res : (ℕ → UInt8) × ℕ) : Prop where
  len : 12 + (encode (rateElems mode dsConfig e es)).length = res.2
  elems : Holds res.1 12 (encode (rateElems mode dsConfig e es))
  before : ∀ a < 12, res.1 a = ies a

lemma keptElems_none (hes : ∀ x ∈ es, x.id ≠ eid) : keptElems eid [] es = es :=
  filter_eq_self.2 fun x hx => by simpa [Elem.hits] using hes x hx

lemma length_keptElems_le (eid : UInt8) (oui : List UInt8) (es : List Elem) :
    (encode (keptElems eid oui es)).length ≤ (encode es).length := by
  induction es with
  | nil => exact Nat.le_refl _
  | cons e es ih =>
    rw [keptElems, filter_cons]
    split_ifs
    · simp only [length_encode_cons]
      exact Nat.add_le_add_left ih _
    · rw [length_encode_cons]
      exact ih.trans (Nat.le_add_left _ _)

lemma length_keptElems_lt (pre post : List Elem) (he : e.id = eid) :
    (encode (keptElems eid [] (pre ++ e :: post))).length + (e.body.length + 2) ≤
      (encode (pre ++ e :: post)).length := by
  have hhits : e.hits eid [] = true := by simp [Elem.hits, he]
  have hkept : keptElems eid [] (pre ++ e :: post) =
      keptElems eid [] pre ++ keptElems eid [] post := by
    simp [keptElems, hhits]
  have h := length_keptElems_le eid [] pre
  have h' := length_keptElems_le eid [] post
  rw [hkept, encode_append, length_append, length_split]
  omega

/-- Unless the mode is 11B and there is an extended-rates element. -/
theorem rates_exact_iff {mode dsConfig : ℕ} (h : Holds ies 12 (encode es))
    (hlen : 12 + (encode es).length = ieLength) (hfind : es.find? (·.id = 1) = some e)
    (_ : e.body.length ≤ 16) :
    RatesExact mode dsConfig e es ies (rtwUpdateRateBymode mode dsConfig ies ieLength) ↔
      ¬ (mode = 1 ∧ ∃ x ∈ es, x.id = 50) := by
  unfold rtwUpdateRateBymode
  by_cases hb : mode = 1
  · rw [if_pos hb]
    obtain ⟨ies', es', hres, hset, hids, hh, hbefore⟩ :=
      rtwFilterSuppportRateie_replaced .cck h hlen hfind
    have hnew : rateElems mode dsConfig e es = keptElems 50 [] es' := by
      simp [hb, hset]
    rw [hres]
    dsimp only
    rw [rtwGetIe_eq 50 hh rfl]
    have hmem : (∃ x ∈ es, x.id = 50) ↔ ∃ x ∈ es', x.id = 50 := by
      rw [← mem_map, ← mem_map, hids]
    rw [hmem]
    rcases hext : es'.find? (·.id = 50) with _ | x
    · have hno : ∀ x ∈ es', x.id ≠ 50 := by simpa using hext
      rw [firstHit_none hno hh]
      refine iff_of_true ⟨?_, ?_, hbefore⟩ ?_
      · rw [hnew, keptElems_none hno]
      · rwa [hnew, keptElems_none hno]
      · exact fun ⟨_, x, hx, hid⟩ => hno x hx hid
    · -- the header of the element is still counted
      obtain ⟨hx, pre, post, rfl, hpre⟩ := find?_eq_some_iff_append.1 hext
      simp only [decide_eq_true_eq, Bool.not_eq_true', decide_eq_false_iff_not] at hx hpre
      have hlt := length_keptElems_lt pre post hx
      rw [firstHit_some hpre hx hh]
      refine iff_of_false (fun hex => ?_) (not_not.2 ⟨hb, x, by simp, hx⟩)
      have hlen' := hex.len
      rw [hnew] at hlen'
      dsimp only at hlen'
      rw [(holds_split.1 hh).2.2.1, x.toNat_length] at hlen'
      omega
  · rw [if_neg hb]
    refine iff_of_true ?_ fun hbad => hb hbad.1
    by_cases hofdm : 14 < dsConfig ∨ mode % 2 = 0
    · obtain ⟨ies', es', hres, hset, -, hh, hbefore⟩ :=
        rtwFilterSuppportRateie_replaced .ofdm h hlen hfind
      have hnew : rateElems mode dsConfig e es = es' := by
        simp [hb, hofdm, hset]
      rw [if_pos hofdm, hres]
      exact ⟨by rw [hnew], hnew ▸ hh, hbefore⟩
    · have hnew : rateElems mode dsConfig e es = es := by
        simp [hb, hofdm]
      rw [if_neg hofdm]
      exact ⟨by rw [hnew, hlen], by rwa [hnew], fun _ _ => rfl⟩

def cckIes : List Elem := [headElem 1 2 [130, 12], headElem 3 1 [6]]

/-- The rates of 1 and 6 Mbit/s, of which the first one is kept. -/
theorem rates_exact_cck : Holds (ieMem 12 cckIes) 12 (encode cckIes) ∧
      RatesExact 1 6 (headElem 1 2 [130, 12]) cckIes (ieMem 12 cckIes)
        (rtwUpdateRateBymode 1 6 (ieMem 12 cckIes) 19) := by
  have h := ieMem_holds 12 cckIes
  exact ⟨h, (rates_exact_iff h rfl rfl (by decide)).2 (by decide)⟩

def extIes : List Elem := [headElem 1 1 [130], headElem 50 1 [12]]

/-- With an extended-rates element the length is too large by 2. -/
theorem rates_exact_ext : ¬ RatesExact 1 6 (headElem 1 1 [130]) extIes (ieMem 12 extIes)
      (rtwUpdateRateBymode 1 6 (ieMem 12 extIes) 18) := by
  intro h
  exact absurd h.len (by decide)

end Rates

section Merge

lemma holds_prefix : ∀ {bs bs' : List UInt8} {pos : ℕ}, Holds mem pos bs → Holds mem pos bs' →
    bs.length ≤ bs'.length → bs <+: bs'
  | [], _, _, _, _, _ => nil_prefix
  | _ :: _, [], _, _, _, hle => absurd hle (by simp)
  | _ :: _, _ :: _, _, h, h', hle =>
    cons_prefix_cons.2 ⟨h.1.symm.trans h'.1, holds_prefix h.2 h'.2 (by simpa using hle)⟩

/-- No vendor element that is too short for the OUI is followed by the rest of it. -/
def P2pSafe (mem : ℕ → UInt8) : ℕ → List Elem → Prop
  | _, [] => True
  | pos, e :: es => (ieTest mem 221 p2pOui pos → 4 ≤ e.body.length) ∧
      P2pSafe mem (pos + (e.body.length + 2)) es

/-- What the P2P elements hold behind the OUI. -/
@[local simp] def p2pBodies (es : List Elem) : List UInt8 :=
  (es.filter (·.hits 221 p2pOui)).flatMap (·.body.drop 4)

lemma p2pBodies_cons (h : Holds mem pos (encode (e :: es)))
    (hsafe : ieTest mem 221 p2pOui pos → 4 ≤ e.body.length) : p2pBodies (e :: es) =
      (if ieTest mem 221 p2pOui pos then e.body.drop 4 else []) ++ p2pBodies es := by
  have hiff : e.hits 221 p2pOui ↔ ieTest mem 221 p2pOui pos := by
    refine ⟨e.hits_imp h, fun ht => ?_⟩
    obtain ⟨hid, -, hbody, -⟩ := holds_encode_cons.1 h
    simp [Elem.hits]
    exact ⟨hid.symm.trans ht.1, holds_prefix ht.2 hbody (hsafe ht)⟩
  simp only [p2pBodies, filter_cons, hiff]
  split_ifs <;> simp

lemma visit_p2pLen : ∀ (es : List Elem) {pos : ℕ} (len : ℤ), Holds mem pos (encode es) →
    P2pSafe mem pos es → visit (p2pLenStep mem) pos es len = .inr (len + (p2pBodies es).length)
  | [], _, len, _, _ => by simp [visit]
  | e :: es, pos, len, h, hsafe => by
    obtain ⟨-, hlen, -, hrest⟩ := holds_encode_cons.1 h
    rw [visit, p2pLenStep, hlen, e.toNat_length, p2pBodies_cons h hsafe.1]
    dsimp only
    rw [visit_p2pLen es _ hrest hsafe.2]
    split_ifs with ht
    · have := hsafe.1 ht
      simp only [length_append, length_drop]
      congr 1
      omega
    · rfl

lemma visit_p2pMerge : ∀ (es : List Elem) {pos : ℕ} (out : UInt8 × List UInt8),
    Holds mem pos (encode es) → P2pSafe mem pos es → visit (p2pMergeStep mem) pos es out =
      .inr (out.1 + UInt8.ofNat (p2pBodies es).length, out.2 ++ p2pBodies es)
  | [], _, out, _, _ => by simp [visit]
  | e :: es, pos, out, h, hsafe => by
    obtain ⟨-, hlen, hbody, hrest⟩ := holds_encode_cons.1 h
    rw [visit, p2pMergeStep, hlen, e.toNat_length, p2pBodies_cons h hsafe.1]
    split_ifs with ht hshort
    · exact absurd (hsafe.1 ht) (by omega)
    · rw [← take_append_drop 4 e.body, holds_append, length_take, min_eq_left (hsafe.1 ht)] at hbody
      have hdrop := ofFn_load hbody.2
      rw [length_drop] at hdrop
      dsimp only
      rw [hdrop, visit_p2pMerge es _ hrest hsafe.2]
      simp [UInt8.add_assoc]
    · exact visit_p2pMerge es _ hrest hsafe.2

lemma p2pSafe_of_merge : ∀ (es : List Elem) {pos : ℕ} {out res : UInt8 × List UInt8},
    Holds mem pos (encode es) → visit (p2pMergeStep mem) pos es out = .inr res →
    P2pSafe mem pos es
  | [], _, _, _, _, _ => trivial
  | e :: es, pos, out, res, h, hres => by
    obtain ⟨-, hlen, -, hrest⟩ := holds_encode_cons.1 h
    rw [visit, p2pMergeStep, hlen, e.toNat_length] at hres
    split_ifs at hres with ht hshort
    · exact ⟨fun _ => by omega, p2pSafe_of_merge es hrest hres⟩
    · exact ⟨fun ht' => absurd ht' ht, p2pSafe_of_merge es hrest hres⟩

lemma length_p2pBodies_le (es : List Elem) : (p2pBodies es).length ≤ (encode es).length := by
  induction es with
  | nil => simp
  | cons e es ih =>
    rw [length_encode_cons]
    simp only [p2pBodies, filter_cons] at ih ⊢
    split_ifs
    · simp only [flatMap_cons, length_append, length_drop]
      omega
    · omega

/-- The header and the bodies are written, and the length is that of the other function. -/
def P2pMergeExact (mem : ℕ → UInt8) (inLen : ℕ) (es : List Elem) : Prop :=
  rtwP2pMergeIes mem inLen =
    some (rtwGetP2pMergedIesLen mem inLen, 221 :: 0 :: p2pOui ++ p2pBodies es)

theorem p2p_merge_exact_iff {inLen : ℕ} (h : Holds mem 0 (encode es))
    (hlen : (encode es).length = inLen) (hmax : inLen < 2 ^ 31) :
    P2pMergeExact mem inLen es ↔ P2pSafe mem 0 es ∧ (p2pBodies es).length < 256 := by
  have hle := length_p2pBodies_le es
  have hsafe : P2pSafe mem 0 es → (P2pMergeExact mem inLen es ↔ (p2pBodies es).length < 256) := by
    intro hs
    have hmerge : rtwP2pMergeIes mem inLen =
        some ((p2pBodies es).length % 256 + 4, 221 :: 0 :: p2pOui ++ p2pBodies es) := by
      rw [rtwP2pMergeIes, walk_eq es _ hlen.le h (by omega), visit_p2pMerge es _ h hs]
      simp
    have hmerged : rtwGetP2pMergedIesLen mem inLen = (p2pBodies es).length + 4 := by
      rw [rtwGetP2pMergedIesLen, walk_eq es _ hlen.le h (by omega), visit_p2pLen es _ h hs,
        Sum.elim_inr]
      omega
    rw [P2pMergeExact, hmerge, hmerged]
    simp only [Option.some.injEq, mk.injEq, and_true]
    omega
  constructor
  · intro hex
    have hs : P2pSafe mem 0 es := by
      rw [P2pMergeExact, rtwP2pMergeIes, walk_eq es _ hlen.le h (by omega)] at hex
      rcases hv : visit (p2pMergeStep mem) 0 es (0, []) with _ | res
      · rw [hv] at hex
        cases hex
      · exact p2pSafe_of_merge es h hv
    exact ⟨hs, (hsafe hs).1 hex⟩
  · exact fun hs => (hsafe hs.1).2 hs.2

def p2pIes (n : ℕ) : List Elem := replicate 2 (headElem 221 132 (p2pOui ++ replicate n 0))

theorem p2p_merge_exact_two : Holds (ieMem 0 (p2pIes 3)) 0 (encode (p2pIes 3)) ∧
      P2pMergeExact (ieMem 0 (p2pIes 3)) 18 (p2pIes 3) := by
  have h := ieMem_holds 0 (p2pIes 3)
  exact ⟨h, (p2p_merge_exact_iff h rfl (by decide)).2 ⟨⟨fun _ => by decide, fun _ => by decide,
    trivial⟩, by decide⟩⟩

/-- Two elements with 128 bytes each behind the OUI: the length is 4 instead of 260. -/
theorem p2p_merge_exact_cut : ¬ P2pMergeExact (ieMem 0 (p2pIes 128)) 268 (p2pIes 128) :=
  fun h => absurd (congrArg (Option.map fst) h) (by decide +kernel)

end Merge

section Tim

variable {bmp : List UInt8} {k n2 : ℕ}

def octetsBit (octet : ℕ → UInt8) (a : ℕ) : Bool := (octet (a / 8)).toNat.testBit (a % 8)

/-- The octet of the traffic bitmap that a station reads from a TIM element. -/
def timOctet (ie : List UInt8) (o : ℕ) : UInt8 :=
  let n1 := (ie.getD 4 0).toNat / 2 * 2
  if n1 ≤ o ∧ o < n1 + ((ie.getD 1 0).toNat - 3) then ie.getD (o - n1 + 5) 0 else 0

/-- A station reads the bits of the bitmap from the element, and its size is right. -/
structure TimExact (bmp : List UInt8) (r : UInt8 × List UInt8) : Prop where
  bit : ∀ a < 8 * bmp.length, octetsBit (timOctet r.2) a = octetsBit (bmp.getD · 0) a
  group : (r.2.getD 4 0).toNat.testBit 0 = octetsBit (bmp.getD · 0) 0
  size : r.1.toNat = (r.2.getD 1 0).toNat + 2
  nonempty : 3 < (r.2.getD 1 0).toNat

lemma timLast_spec (bmp : List UInt8) : ∀ i, timLast bmp i ≤ i ∧
    (∀ o, timLast bmp i < o → o ≤ i → bmp.getD o 0 = 0) ∧
      (0 < timLast bmp i → bmp.getD (timLast bmp i) 0 ≠ 0)
  | 0 => ⟨le_rfl, fun o hlt hle => absurd hlt (by omega), nofun⟩
  | i + 1 => by
    obtain ⟨hle, hzero, hlast⟩ := timLast_spec bmp i
    rw [timLast]
    split_ifs with hi
    · exact ⟨le_rfl, fun o hlt hle => absurd hlt (by omega), fun _ => hi⟩
    refine ⟨by omega, fun o hlt ho => ?_, hlast⟩
    rcases Nat.lt_or_eq_of_le ho with ho | rfl
    · exact hzero o hlt (by omega)
    · exact not_not.1 hi

/-- Octets `2 * k` to `n2` hold every bit of the bitmap. -/
structure TimSpan (bmp : List UInt8) (k n2 : ℕ) : Prop where
  le : 2 * k ≤ n2
  lt : n2 < bmp.length
  zero : ∀ o, o < 2 * k ∨ n2 < o → bmp.getD o 0 = 0
  first : k = 0 → 0 < n2 → bmp.findIdx (· != 0) ≤ 1
  last : 0 < n2 → bmp.getD n2 0 ≠ 0

lemma exists_timSpan (h : bmp ≠ []) : ∃ k n2, TimSpan bmp k n2 ∧
    (if bmp.any (· != 0) then bmp.findIdx (· != 0) / 2 * 2 else 0) = 2 * k ∧
    (if bmp.any (· != 0) then timLast bmp (bmp.length - 1) else 0) = n2 := by
  have hlen := length_pos_iff.2 h
  split_ifs with hany
  · have hfind := findIdx_lt_length.2 (any_eq_true.1 hany)
    have hfirst : bmp.getD (bmp.findIdx (· != 0)) 0 ≠ 0 := by
      simpa [hfind] using findIdx_getElem (w := hfind)
    obtain ⟨hle, hzero, hlast⟩ := timLast_spec bmp (bmp.length - 1)
    have hfl : bmp.findIdx (· != 0) ≤ timLast bmp (bmp.length - 1) := by
      by_contra hlt
      exact hfirst (hzero _ (by omega) (by omega))
    refine ⟨bmp.findIdx (· != 0) / 2, _, ⟨by omega, by omega, fun o ho => ?_, by omega, hlast⟩,
      by omega, rfl⟩
    by_cases hin : o < bmp.length
    · rcases ho with ho | ho
      · simpa [hin] using not_of_lt_findIdx (show o < bmp.findIdx (· != 0) by omega)
      · exact hzero o ho (by omega)
    · simp [not_lt.1 hin]
  · refine ⟨0, 0, ⟨le_rfl, hlen, fun o _ => ?_, nofun, nofun⟩, rfl, rfl⟩
    simp at hany
    by_cases hin : o < bmp.length
    · simpa [hin] using hany _ (getElem_mem hin)
    · simp [not_lt.1 hin]

lemma timOctet_eq (h : TimSpan bmp k n2) (hlen : bmp.length ≤ 251) {b : ℕ} (hb : b < 2)
    (eid dtimCnt dtimPeriod : UInt8) (o : ℕ) : timOctet (eid :: .ofNat (2 + 1 + (n2 - 2 * k + 1)) ::
      dtimCnt :: dtimPeriod :: .ofNat (b ||| 2 * k) ::
        (bmp.drop (2 * k)).take (n2 - 2 * k + 1)) o = bmp.getD o 0 := by
  have hle := h.le
  have hlt := h.lt
  have hor : 2 * k + b = 2 * k ||| b := Nat.two_pow_add_eq_or_of_lt (i := 1) hb k
  have hstart : (2 * k + b) % 2 ^ 8 / 2 * 2 = 2 * k := by omega
  have hend : (2 + 1 + (n2 - 2 * k + 1)) % 2 ^ 8 - 3 = n2 - 2 * k + 1 := by omega
  simp only [timOctet, getD_cons_zero, getD_cons_succ, UInt8.toNat_ofNat', hend, Nat.or_comm b,
    ← hor, hstart]
  split_ifs with ho
  · simp [getElem?_take]
    rw [if_pos (by omega), Nat.add_sub_cancel' ho.1]
  · exact (h.zero o (by omega)).symm

theorem tim_exact_iff (dtimCnt dtimPeriod : UInt8) (bmp : List UInt8) (h : bmp ≠ [])
    (hlen : bmp.length ≤ 251) : TimExact bmp (rtwSetTimIe dtimCnt dtimPeriod bmp) ↔
      ¬ (bmp.findIdx (· != 0) ≤ 1 ∧ bmp.getD 250 0 ≠ 0) := by
  obtain ⟨k, n2, hspan, hk, hn2⟩ := exists_timSpan h
  have hbit0 : (if (bmp.getD 0 0).toNat.testBit 0 then 1 else 0) < 2 := by split_ifs <;> omega
  have hoctet := timOctet_eq hspan hlen hbit0 5 dtimCnt dtimPeriod
  obtain ⟨hle, hlt, hzero, hfirst, hlast⟩ := hspan
  simp only [rtwSetTimIe, hk, hn2]
  refine ⟨fun ⟨_, _, hsize, _⟩ ⟨hlow, hhigh⟩ => ?_, fun hno => ⟨fun a _ => ?_, ?_, ?_, ?_⟩⟩
  · have hn : n2 = 250 := by
      by_contra hne
      exact hhigh (hzero 250 (by omega))
    have hk0 : k = 0 := by
      split_ifs at hk <;> omega
    subst hn hk0
    simp at hsize
  · rw [octetsBit, hoctet, octetsBit]
  · simp [octetsBit]
    split_ifs <;> simp_all
  · have hne : n2 - 2 * k ≠ 250 := by
      intro heq
      obtain rfl : n2 = 250 := by omega
      exact hno ⟨hfirst (by omega) (by omega), hlast (by omega)⟩
    simp
    omega
  · simp
    omega

/-- Frames wait for stations 21 and 34. The octets before and behind theirs are left out. -/
theorem tim_exact_part : let bmp : List UInt8 := [0, 0, 0x20, 0, 4, 0]
    (rtwSetTimIe 2 3 bmp).2 = [5, 6, 2, 3, 2, 0x20, 0, 4] ∧ TimExact bmp (rtwSetTimIe 2 3 bmp) :=
  ⟨by decide, (tim_exact_iff 2 3 _ (by decide) (by decide)).2 (by decide)⟩

/-- The size wraps to 0. -/
theorem tim_exact_whole : ¬ TimExact (replicate 251 1) (rtwSetTimIe 0 1 (replicate 251 1)) :=
  fun h => absurd h.size (by decide +kernel)

end Tim

end Rtl8852be
