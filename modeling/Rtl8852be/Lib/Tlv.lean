import Mathlib.Data.List.Basic

/-!
# Elements of an identifier, a length and a body

A buffer of such elements is their concatenation. `decode` reads one back, and it is the only
reading: `decode_eq_some_iff`.
-/

namespace Rtl8852be.Tlv

variable {bs : List UInt8} {mem : ℕ → UInt8} {pos : ℕ}

structure Elem where
  id : UInt8
  body : List UInt8
  short : body.length < 256

variable {es : List Elem}

def Elem.bytes (e : Elem) : List UInt8 := e.id :: UInt8.ofNat e.body.length :: e.body

def encode (es : List Elem) : List UInt8 := es.flatMap Elem.bytes

@[simp] lemma encode_nil : encode [] = [] := rfl

@[simp] lemma encode_cons (e : Elem) (es : List Elem) :
    encode (e :: es) = e.id :: UInt8.ofNat e.body.length :: (e.body ++ encode es) := rfl

lemma encode_append (es es' : List Elem) : encode (es ++ es') = encode es ++ encode es' := by
  simp [encode]

lemma Elem.toNat_length (e : Elem) : (UInt8.ofNat e.body.length).toNat = e.body.length := by
  rw [UInt8.toNat_ofNat']
  exact Nat.mod_eq_of_lt e.short

/-- The element that starts a buffer: its identifier, and as much of the rest as its length says. -/
def headElem (id n : UInt8) (rest : List UInt8) : Elem where
  id := id
  body := rest.take n.toNat
  short := Nat.lt_of_le_of_lt (List.length_take_le _ _) n.toNat_lt

def decode : List UInt8 → Option (List Elem)
  | [] => some []
  | [_] => none
  | id :: n :: rest =>
    if n.toNat ≤ rest.length then (decode (rest.drop n.toNat)).map (headElem id n rest :: ·)
    else none
termination_by bs => bs.length
decreasing_by simp only [List.length_drop, List.length_cons]; omega

lemma headElem_length {id n : UInt8} {rest : List UInt8} (h : n.toNat ≤ rest.length) :
    (headElem id n rest).body.length = n.toNat := by
  simp [headElem, h]

lemma encode_of_decode (h : decode bs = some es) : bs = encode es := by
  fun_induction decode bs generalizing es with
  | case1 => simp_all
  | case2 => simp at h
  | case3 id n rest hn ih =>
    obtain ⟨es', hes', rfl⟩ := Option.map_eq_some_iff.1 h
    rw [encode_cons, headElem_length hn, ← ih hes']
    simp [headElem]
  | case4 => simp at h

lemma decode_encode (es : List Elem) : decode (encode es) = some es := by
  induction es with
  | nil => simp [decode]
  | cons e es ih =>
    have hhead : headElem e.id (UInt8.ofNat e.body.length) (e.body ++ encode es) = e := by
      simp only [headElem, e.toNat_length, List.take_left]
    rw [encode_cons, decode, hhead, e.toNat_length]
    simp [ih]

lemma decode_eq_some_iff : decode bs = some es ↔ bs = encode es :=
  ⟨encode_of_decode, fun h => h ▸ decode_encode es⟩

lemma decode_eq_none_iff : decode bs = none ↔ ¬ ∃ es, bs = encode es := by
  simp only [← decode_eq_some_iff, ← Option.isSome_iff_exists, Option.not_isSome_iff_eq_none]

/-- The bytes `bs` stand in memory from `pos` on. -/
def Holds (mem : ℕ → UInt8) : ℕ → List UInt8 → Prop
  | _, [] => True
  | pos, b :: bs => mem pos = b ∧ Holds mem (pos + 1) bs

@[simp] lemma holds_nil (mem : ℕ → UInt8) (pos : ℕ) : Holds mem pos [] := trivial

@[simp] lemma holds_cons {b : UInt8} :
    Holds mem pos (b :: bs) ↔ mem pos = b ∧ Holds mem (pos + 1) bs := Iff.rfl

instance decidableHolds (mem : ℕ → UInt8) : ∀ pos bs, Decidable (Holds mem pos bs)
  | _, [] => .isTrue trivial
  | pos, _ :: bs => haveI := decidableHolds mem (pos + 1) bs; inferInstanceAs (Decidable (_ ∧ _))

lemma holds_append {bs' : List UInt8} :
    Holds mem pos (bs ++ bs') ↔ Holds mem pos bs ∧ Holds mem (pos + bs.length) bs' := by
  induction bs generalizing pos with
  | nil => simp
  | cons b bs ih =>
    simp only [List.cons_append, holds_cons, ih, List.length_cons, and_assoc]
    rw [show pos + 1 + bs.length = pos + (bs.length + 1) by omega]

lemma Holds.getElem {i : ℕ} (h : Holds mem pos bs) (hi : i < bs.length) :
    mem (pos + i) = bs[i] := by
  induction bs generalizing pos i with
  | nil => simp at hi
  | cons b bs ih =>
    cases i with
    | zero => exact h.1
    | succ i =>
      rw [show pos + (i + 1) = pos + 1 + i by omega]
      exact ih h.2 (by simpa using hi)

lemma holds_of_getElem (h : ∀ i (hi : i < bs.length), mem (pos + i) = bs[i]) :
    Holds mem pos bs := by
  induction bs generalizing pos with
  | nil => trivial
  | cons b bs ih =>
    refine ⟨h 0 (by simp), ih fun i hi => ?_⟩
    rw [show pos + 1 + i = pos + (i + 1) by omega]
    exact h (i + 1) (by simpa using hi)

/-- A loop from one length byte to the next, up to `stop`, with the passes left. -/
def walk {σ ρ : Type*} (mem : ℕ → UInt8) (stop : ℕ) (f : σ → ℕ → ρ ⊕ σ) : ℕ → ℕ → σ → ρ ⊕ σ
  | 0, _, s => .inr s
  | left + 1, pos, s =>
    if pos < stop then
      match f s pos with
      | .inl r => .inl r
      | .inr s => walk mem stop f left (pos + ((mem (pos + 1)).toNat + 2)) s
    else .inr s

/-- The same from one element to the next. -/
def visit {σ ρ : Type*} (f : σ → ℕ → ρ ⊕ σ) : ℕ → List Elem → σ → ρ ⊕ σ
  | _, [], s => .inr s
  | pos, e :: es, s =>
    match f s pos with
    | .inl r => .inl r
    | .inr s => visit f (pos + (e.body.length + 2)) es s

lemma holds_encode_cons {e : Elem} : Holds mem pos (encode (e :: es)) ↔
      mem pos = e.id ∧ mem (pos + 1) = UInt8.ofNat e.body.length ∧ Holds mem (pos + 2) e.body ∧
        Holds mem (pos + (e.body.length + 2)) (encode es) := by
  simp [encode_cons, holds_cons, holds_append, Nat.add_assoc, Nat.reduceAdd, Nat.add_comm 2
    e.body.length]

lemma length_encode_cons (e : Elem) (es : List Elem) :
    (encode (e :: es)).length = e.body.length + 2 + (encode es).length := by
  simp [encode_cons]
  omega

lemma walk_eq {σ ρ : Type*} {stop : ℕ} {f : σ → ℕ → ρ ⊕ σ} :
    ∀ (es : List Elem) {left pos : ℕ} (s : σ), (encode es).length ≤ left →
      Holds mem pos (encode es) → pos + (encode es).length = stop →
      walk mem stop f left pos s = visit f pos es s
  | [], 0, _, _, _, _, _ => rfl
  | [], left + 1, pos, _, _, _, hstop => if_neg (by simpa using Nat.le_of_eq hstop.symm)
  | e :: es, 0, _, _, hleft, _, _ => by simp at hleft
  | e :: es, left + 1, pos, s, hleft, h, hstop => by
    rw [length_encode_cons] at hleft hstop
    obtain ⟨-, hlen, -, hrest⟩ := holds_encode_cons.1 h
    rw [walk, if_pos (by omega), hlen, e.toNat_length, visit]
    split
    · rfl
    · exact walk_eq es _ (by omega) hrest (by omega)

end Rtl8852be.Tlv
