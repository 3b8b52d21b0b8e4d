import Rtl8852be.Lib.Tlv

/-!
# A log of patches on a tape

A memory that can only be written once keeps a table as a log of entries with new values for some
places, one after the other, with blank cells behind the last one.
-/

namespace PatchLog

open Rtl8852be.Tlv (Holds holds_append holds_of_getElem)

variable {mem : ℕ → UInt8} {bs : List UInt8}

/-- The bytes written to the cells from `pos` on. -/
def blit (mem : ℕ → UInt8) (pos : ℕ) : List UInt8 → ℕ → UInt8
  | [] => mem
  | b :: bs => blit (Function.update mem pos b) (pos + 1) bs

@[simp] lemma blit_nil (mem : ℕ → UInt8) (pos : ℕ) : blit mem pos [] = mem := rfl

lemma blit_of_lt {pos a : ℕ} (h : a < pos) : blit mem pos bs a = mem a := by
  induction bs generalizing mem pos with
  | nil => rfl
  | cons b bs ih => rw [blit, ih (by omega), Function.update_of_ne (by omega)]

lemma blit_of_le {pos a : ℕ} (h : pos + bs.length ≤ a) : blit mem pos bs a = mem a := by
  induction bs generalizing mem pos with
  | nil => rfl
  | cons b bs ih =>
    rw [List.length_cons] at h
    rw [blit, ih (by omega), Function.update_of_ne (by omega)]

lemma holds_blit (bs : List UInt8) (mem : ℕ → UInt8) (pos : ℕ) :
    Holds (blit mem pos bs) pos bs := by
  induction bs generalizing mem pos with
  | nil => trivial
  | cons b bs ih =>
    refine ⟨?_, ih _ _⟩
    rw [blit, blit_of_lt (by omega), Function.update_self]

lemma holds_congr {mem' : ℕ → UInt8} {pos : ℕ}
    (h : ∀ a, pos ≤ a → a < pos + bs.length → mem' a = mem a) (hm : Holds mem pos bs) :
    Holds mem' pos bs := by
  refine holds_of_getElem fun i hi => ?_
  rw [h (pos + i) (by omega) (by omega), hm.getElem hi]

section Log

variable {ε : Type*} {enc : ε → List UInt8} {blank : UInt8} {start size : ℕ} {es : List ε}

def stop (enc : ε → List UInt8) (start : ℕ) (es : List ε) : ℕ := start + (es.flatMap enc).length

/-- The entries stand on the tape from `start` on, with blank cells up to `size` behind them. -/
structure LogAt (enc : ε → List UInt8) (blank : UInt8) (start size : ℕ) (mem : ℕ → UInt8)
    (es : List ε) : Prop where
  fits : stop enc start es ≤ size
  holds : Holds mem start (es.flatMap enc)
  blank : ∀ a, stop enc start es ≤ a → a < size → mem a = blank

lemma stop_append (es' : List ε) :
    stop enc start (es ++ es') = stop enc (stop enc start es) es' := by
  simp [stop, Nat.add_assoc]

lemma stop_singleton (e : ε) : stop enc start [e] = start + (enc e).length := by
  simp [stop]

lemma le_stop : start ≤ stop enc start es := Nat.le_add_right _ _

lemma LogAt.nil (hle : start ≤ size) (h : ∀ a, a < size → mem a = blank) :
    LogAt enc blank start size mem [] :=
  ⟨hle, trivial, fun a _ ha => h a ha⟩

lemma LogAt.append (h : LogAt enc blank start size mem es) (e : ε)
    (hfits : stop enc start es + (enc e).length ≤ size) :
    LogAt enc blank start size (blit mem (stop enc start es) (enc e)) (es ++ [e]) := by
  have hstop : stop enc start (es ++ [e]) = stop enc start es + (enc e).length := by
    rw [stop_append, stop_singleton]
  refine ⟨hstop ▸ hfits, ?_, fun a hle ha => ?_⟩
  · rw [List.flatMap_append, holds_append]
    refine ⟨holds_congr (fun a _ ha => blit_of_lt ha) h.holds, ?_⟩
    simpa [stop] using holds_blit (enc e) mem (stop enc start es)
  · rw [hstop] at hle
    rw [blit_of_le hle, h.blank a (by omega) ha]

lemma LogAt.blank_next (h : LogAt enc blank start size mem es) {n : ℕ}
    (hfits : stop enc start es + n ≤ size) (i : ℕ) (hi : i < n) :
    mem (stop enc start es + i) = blank :=
  h.blank _ (Nat.le_add_right _ _) (by omega)

end Log

section Patches

variable {ι β : Type*}
variable (m : ι → β)

/-- New values for some places. -/
structure Patch (ι β : Type*) where
  on : ι → Bool
  val : ι → β

def overlay (m : ι → β) (p : Patch ι β) : ι → β := fun i => if p.on i then p.val i else m i

def overs (m : ι → β) (ps : List (Patch ι β)) : ι → β := ps.foldl overlay m

@[simp] lemma overs_nil : overs m [] = m := rfl

@[simp] lemma overs_cons (p : Patch ι β) (ps : List (Patch ι β)) :
    overs m (p :: ps) = overs (overlay m p) ps := rfl

lemma overs_append (ps ps' : List (Patch ι β)) :
    overs m (ps ++ ps') = overs (overs m ps) ps' := List.foldl_append

/-- Patches that agree on their values leave those values wherever one of them is on. -/
lemma overs_eq_ite {ps : List (Patch ι β)} {v : ι → β} {i : ι} (h : ∀ p ∈ ps, p.val i = v i)
    (m : ι → β) : overs m ps i = if ∃ p ∈ ps, p.on i then v i else m i := by
  induction ps generalizing m with
  | nil => simp
  | cons p ps ih =>
    have hp : p.val i = v i := h p List.mem_cons_self
    rw [overs_cons, ih (fun p' hp' => h p' (List.mem_cons_of_mem p hp'))]
    by_cases hps : ∃ p' ∈ ps, p'.on i = true
    · rw [if_pos hps, if_pos (by simpa using .inr hps)]
    · rw [if_neg hps, overlay, hp]
      simp [hps]

end Patches

end PatchLog
