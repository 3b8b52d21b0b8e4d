import Mathlib.Algebra.Group.Nat.Defs
import Mathlib.Data.List.Basic

/-!
# Frames behind a length of four bytes

A buffer of frames, each behind its length as four bytes, lowest first. `split` is how a receiver
reads the buffer, and it gets the frames back.
-/

namespace Frames

open List

def le32 (n : ℕ) : List UInt8 :=
  [UInt8.ofNat n, UInt8.ofNat (n / 2 ^ 8), UInt8.ofNat (n / 2 ^ 16), UInt8.ofNat (n / 2 ^ 24)]

def ofLe32 (a b c d : UInt8) : ℕ := a.toNat + 2 ^ 8 * b.toNat + 2 ^ 16 * c.toNat + 2 ^ 24 * d.toNat

def frame (body : List UInt8) : List UInt8 := le32 body.length ++ body

def frames (bodies : List (List UInt8)) : List UInt8 := bodies.flatMap frame

def split : List UInt8 → Option (List (List UInt8))
  | [] => some []
  | a :: b :: c :: d :: rest =>
    if ofLe32 a b c d ≤ rest.length then
      (split (rest.drop (ofLe32 a b c d))).map (rest.take (ofLe32 a b c d) :: ·)
    else none
  | _ => none
termination_by bs => bs.length
decreasing_by simp only [length_drop, length_cons]; omega

lemma ofLe32_le32 {n : ℕ} (h : n < 2 ^ 32) :
    ofLe32 (UInt8.ofNat n) (UInt8.ofNat (n / 2 ^ 8)) (UInt8.ofNat (n / 2 ^ 16))
      (UInt8.ofNat (n / 2 ^ 24)) = n := by
  simp [ofLe32]
  omega

lemma length_frame (body : List UInt8) : (frame body).length = body.length + 4 := by
  simp [frame, le32]

lemma frames_append_singleton (bodies : List (List UInt8)) (body : List UInt8) :
    frames (bodies ++ [body]) = frames bodies ++ frame body := by
  simp [frames]

lemma split_frame_append {body rest : List UInt8} (h : body.length < 2 ^ 32) :
    split (frame body ++ rest) = (split rest).map (body :: ·) := by
  have hlen : body.length ≤ (body ++ rest).length := by simp
  rw [frame, le32, append_assoc]
  simp only [cons_append, nil_append]
  rw [split, ofLe32_le32 h, if_pos hlen, drop_left, take_left]

lemma split_frames : ∀ {bodies : List (List UInt8)}, (∀ b ∈ bodies, b.length < 2 ^ 32) →
    split (frames bodies) = some bodies
  | [], _ => by simp [frames, split]
  | b :: bodies, h => by
    have ih : split (frames bodies) = some bodies :=
      split_frames fun b' hb' => h b' (mem_cons_of_mem b hb')
    rw [show frames (b :: bodies) = frame b ++ frames bodies from rfl,
      split_frame_append (h b mem_cons_self), ih]
    rfl

end Frames
