import Mathlib.Tactic.Linarith

/-!
# Walking down to a least value that is kept in too few bits

A cost falls over the places from `lo` to `hi`, stays, and rises again. A walk stops at the first
place whose cost exceeds the last one, but it keeps the costs in a signed word of `m` values, and
takes a last cost of 0 for none.
-/

namespace Valley

variable {f s : ℤ → ℤ} {lo hi p q e x : ℤ} {m : ℕ}
variable {a b : ℤ}

/-- The place has a larger value than the one before, and that one is not 0. -/
def Rises (s : ℤ → ℤ) (x : ℤ) : Prop := s (x - 1) ≠ 0 ∧ s (x - 1) < s x

/-- The first place behind `lo` that rises, or one past the end. -/
structure Exit (s : ℤ → ℤ) (lo hi e : ℤ) : Prop where
  lt : lo < e
  le : e ≤ hi + 1
  before : ∀ x, lo < x → x < e → ¬ Rises s x
  rises : e ≤ hi → Rises s e

section Loop

/-! A loop with the passes left, the place, the last value and the last place walked over. -/

variable {F : ℕ → ℤ → ℤ → ℤ → ℤ} {stop : ℤ → ℤ → ℤ} {start : ℤ}
  (hstop : ∀ left last cand, F left (hi + 1) last cand = stop (hi + 1) cand)
  (hwalk : ∀ left x last cand, lo ≤ x → x ≤ hi → F (left + 1) x last cand
      = if last ≠ 0 ∧ last < s x then x else F left (x + 1) (s x) x)
  (hskip : ∀ left x last cand, start ≤ x → x < lo →
    F (left + 1) x last cand = F left (x + 1) last cand)

include hstop hwalk

/-- From behind the first place on, by induction on the passes left. -/
lemma exists_exit_of_before (left : ℕ) (x : ℤ) (hlo : lo < x) (hx : x ≤ hi + 1)
    (hleft : hi + 1 - x < left) (hb : ∀ y, lo < y → y < x → ¬ Rises s y) :
    ∃ e, Exit s lo hi e ∧
      F left x (s (x - 1)) (x - 1) = if e ≤ hi then e else stop (hi + 1) hi := by
  induction left generalizing x with
  | zero => exact absurd hleft (by simp; omega)
  | succ left ih =>
    rcases hx.lt_or_eq with hlt | rfl
    · rw [hwalk left x _ _ (by omega) (by omega)]
      by_cases hr : s (x - 1) ≠ 0 ∧ s (x - 1) < s x
      · refine ⟨x, ⟨hlo, hx, hb, fun _ => hr⟩, ?_⟩
        rw [if_pos hr, if_pos (by omega)]
      · rw [if_neg hr]
        have hnext : ∀ y, lo < y → y < x + 1 → ¬ Rises s y := fun y hy hyx =>
          (Int.lt_add_one_iff.1 hyx).lt_or_eq.elim (hb y hy) fun h => h ▸ hr
        have := ih (x + 1) (by omega) (by omega) (by push_cast at hleft; omega) hnext
        rwa [add_sub_cancel_right] at this
    · refine ⟨hi + 1, ⟨hlo, le_rfl, hb, fun h => absurd h (by omega)⟩, ?_⟩
      rw [hstop, if_neg (by omega), add_sub_cancel_right]

include hskip

lemma exists_exit (hle : lo ≤ hi) (left : ℕ) (x : ℤ) (hstart : start ≤ x) (hx : x ≤ lo)
    (hleft : hi + 1 - x < left) :
    ∃ e, Exit s lo hi e ∧ F left x 0 0 = if e ≤ hi then e else stop (hi + 1) hi := by
  induction left generalizing x with
  | zero => exact absurd hleft (by simp; omega)
  | succ left ih =>
    push_cast at hleft
    rcases hx.lt_or_eq with hlt | rfl
    · rw [hskip left x 0 0 hstart hlt]
      exact ih (x + 1) (by omega) (by omega) (by omega)
    · rw [hwalk left x 0 0 le_rfl hle, if_neg (fun h => h.1 rfl)]
      have := exists_exit_of_before hstop hwalk left (x + 1) (by omega) (by omega) (by omega)
        (fun y hy hyx => absurd hy (by omega))
      rwa [add_sub_cancel_right] at this

end Loop

section

variable (hm : 0 < m) (hle : b ≤ a)
include hm hle

lemma bdiv_mono : b.bdiv m ≤ a.bdiv m := by
  by_contra hlt
  have ha := Int.bmod_add_bdiv a m
  have hb := Int.bmod_add_bdiv b m
  have ha' := Int.bmod_lt (x := a) hm
  have hb' := Int.le_bmod (x := b) hm
  have hk : (m : ℤ) * a.bdiv m + m ≤ m * b.bdiv m := by nlinarith
  omega

lemma bdiv_gap (hne : a.bdiv m ≠ b.bdiv m) : (m : ℤ) * b.bdiv m + m ≤ m * a.bdiv m := by
  have hlt : b.bdiv m < a.bdiv m := lt_of_le_of_ne (bdiv_mono hm hle) hne.symm
  nlinarith

/-- Two values less than half a word apart compare like their words in one window, and the other
way round in two. -/
lemma bmod_lt_bmod_iff (hd : 2 * (a - b) < m) : a.bmod m < b.bmod m ↔ a.bdiv m ≠ b.bdiv m := by
  have ha := Int.bmod_add_bdiv a m
  have hb := Int.bmod_add_bdiv b m
  constructor
  · intro hlt heq
    rw [heq] at ha
    omega
  · intro hne
    have hgap := bdiv_gap hm hle hne
    omega

lemma bmod_neg_of_bdiv_ne (hd : 2 * (a - b) < m) (hne : a.bdiv m ≠ b.bdiv m) : a.bmod m < 0 := by
  have ha := Int.bmod_add_bdiv a m
  have hb := Int.bmod_add_bdiv b m
  have hb' := Int.bmod_lt (x := b) hm
  have hgap := bdiv_gap hm hle hne
  omega

end

/-- The cost falls from `lo` to `p`, stays up to `q`, and rises to `hi`, by less than half a word.
-/
structure Shape (f : ℤ → ℤ) (m : ℕ) (lo hi p q : ℤ) : Prop where
  lo_le : lo ≤ p
  le : p ≤ q
  le_hi : q ≤ hi
  falls : ∀ x, lo < x → x ≤ p → f x < f (x - 1)
  flat : ∀ x, p < x → x ≤ q → f x = f (x - 1)
  climbs : ∀ x, q < x → x ≤ hi → f (x - 1) < f x
  small : ∀ x, lo < x → x ≤ hi → 2 * (f (x - 1) - f x) < m ∧ 2 * (f x - f (x - 1)) < m

def Least (f : ℤ → ℤ) (lo hi x : ℤ) : Prop := (lo ≤ x ∧ x ≤ hi) ∧ ∀ y, lo ≤ y → y ≤ hi → f x ≤ f y

namespace Shape

variable (h : Shape f m lo hi p q)

include h

lemma anti {y : ℤ} (hx : lo ≤ x) (hxy : x ≤ y) (hy : y ≤ q) : f y ≤ f x := by
  induction y, hxy using Int.leInduction with
  | base => exact le_rfl
  | succ y hxy ih =>
    have hstep : f (y + 1) ≤ f (y + 1 - 1) := by
      rcases le_or_gt (y + 1) p with hyp | hyp
      · exact (h.falls _ (by omega) hyp).le
      · exact (h.flat _ hyp hy).le
    rw [add_sub_cancel_right] at hstep
    exact hstep.trans (ih (by omega))

lemma mono {y : ℤ} (hx : p ≤ x) (hxy : x ≤ y) (hy : y ≤ hi) : f x ≤ f y := by
  induction y, hxy using Int.leInduction with
  | base => exact le_rfl
  | succ y hxy ih =>
    have hstep : f (y + 1 - 1) ≤ f (y + 1) := by
      rcases le_or_gt (y + 1) q with hyq | hyq
      · exact (h.flat _ (by omega) hyq).ge
      · exact (h.climbs _ hyq hy).le
    rw [add_sub_cancel_right] at hstep
    exact (ih (by omega)).trans hstep

lemma least_iff : Least f lo hi x ↔ p ≤ x ∧ x ≤ q := by
  have hlo := h.lo_le
  have hle := h.le
  have hhi := h.le_hi
  constructor
  · rintro ⟨⟨hx, hx'⟩, hleast⟩
    by_contra hout
    rcases not_and_or.1 hout with hlt | hlt
    · have := h.falls (x + 1) (by omega) (by omega)
      rw [add_sub_cancel_right] at this
      exact (hleast (x + 1) (by omega) (by omega)).not_gt this
    · exact (hleast (x - 1) (by omega) (by omega)).not_gt (h.climbs x (by omega) hx')
  · rintro ⟨hx, hx'⟩
    refine ⟨⟨by omega, by omega⟩, fun y hy hy' => ?_⟩
    rcases le_or_gt y x with hyx | hyx
    · exact h.anti hy hyx hx'
    · exact h.mono hx hyx.le hy'

/-! Where the walk stops, with the costs kept as words. -/

lemma rises_iff_of_falls (hm : 0 < m) (hx : lo < x) (hxp : x ≤ p) :
    Rises (fun x => (f x).bmod m) x ↔ (f (x - 1)).bdiv m ≠ (f x).bdiv m := by
  have hlt := (h.falls x hx hxp).le
  have hd := (h.small x hx (hxp.trans (h.le.trans h.le_hi))).1
  constructor
  · rintro ⟨-, hr⟩
    exact (bmod_lt_bmod_iff hm hlt hd).1 hr
  · intro hne
    exact ⟨(bmod_neg_of_bdiv_ne hm hlt hd hne).ne, (bmod_lt_bmod_iff hm hlt hd).2 hne⟩

lemma not_rises_of_flat (hx : p < x) (hxq : x ≤ q) : ¬ Rises (fun x => (f x).bmod m) x := by
  rintro ⟨-, hr⟩
  simp [h.flat x hx hxq] at hr

lemma rises_iff_of_climbs (hm : 0 < m) (hx : q < x) (hxh : x ≤ hi) :
    Rises (fun x => (f x).bmod m) x
      ↔ (f (x - 1)).bmod m ≠ 0 ∧ (f (x - 1)).bdiv m = (f x).bdiv m := by
  have hlt := h.climbs x hx hxh
  have hlo : lo < x := (h.lo_le.trans h.le).trans_lt hx
  have hd := (h.small x hlo hxh).2
  have hiff := bmod_lt_bmod_iff hm hlt.le hd
  have ha := Int.bmod_add_bdiv (f x) m
  have hb := Int.bmod_add_bdiv (f (x - 1)) m
  refine and_congr_right fun _ => ⟨fun hr => ?_, fun heq => ?_⟩
  · by_contra hne
    exact absurd (hiff.2 fun he => hne he.symm) hr.not_gt
  · simp only
    rw [heq] at hb
    omega

lemma bdiv_eq (hm : 0 < m) {y : ℤ} (hx : lo ≤ x) (hxy : x ≤ y) (hy : y ≤ q)
    (hw : (f lo).bdiv m = (f y).bdiv m) : (f x).bdiv m = (f lo).bdiv m :=
  le_antisymm (bdiv_mono hm (h.anti le_rfl hx (hxy.trans hy)))
    (hw.trans_le (bdiv_mono hm (h.anti hx hxy hy)))

variable (he : Exit (fun x => (f x).bmod m) lo hi e)

include he

lemma lt_exit (hm : 0 < m) (hw : (f lo).bdiv m = (f p).bdiv m) : q < e := by
  by_contra hle
  have hhi := h.le_hi
  have hlt := he.lt
  have hr := he.rises (by omega)
  rcases le_or_gt e p with hep | hep
  · refine (h.rises_iff_of_falls hm hlt hep).1 hr ?_
    rw [h.bdiv_eq hm (x := e - 1) (by omega) (by omega) h.le hw,
      h.bdiv_eq hm (x := e) (by omega) hep h.le hw]
  · exact h.not_rises_of_flat hep (by omega) hr

/-- With one it stops on the way down, where the window changes for the first time. -/
lemma exit_le (hm : 0 < m) (hw : (f lo).bdiv m ≠ (f p).bdiv m) :
    e ≤ p ∧ (f lo).bdiv m = (f (e - 1)).bdiv m ∧ (f (e - 1)).bdiv m ≠ (f e).bdiv m := by
  -- as long as it has not stopped, the window is the first one
  have hstay : ∀ x, lo ≤ x → x < e → x ≤ p → (f lo).bdiv m = (f x).bdiv m := by
    intro x hx
    induction x, hx using Int.leInduction with
    | base => exact fun _ _ => rfl
    | succ x hx ih =>
      intro hxe hxp
      have hb := he.before (x + 1) (by omega) hxe
      rw [h.rises_iff_of_falls hm (by omega) hxp, not_not, add_sub_cancel_right] at hb
      exact (ih (by omega) (by omega)).trans hb
  have hlo := h.lo_le
  have hlt := he.lt
  have hep : e ≤ p := by
    by_contra hpe
    exact hw (hstay p hlo (by omega) le_rfl)
  have hr := he.rises (hep.trans (h.le.trans h.le_hi))
  exact ⟨hep, hstay (e - 1) (by omega) (by omega) (by omega),
    (h.rises_iff_of_falls hm hlt hep).1 hr⟩

/-- The place where the walk stops is right when the cost falls all the way in one window, or when
the window changes at the least place for the first time. -/
lemma least_exit_iff (hm : 0 < m) : Least f lo hi (if e ≤ hi then e else hi)
      ↔ ((f lo).bdiv m = (f p).bdiv m ∧ q = hi) ∨ (lo < p ∧ (f lo).bdiv m = (f (p - 1)).bdiv m
          ∧ (f (p - 1)).bdiv m ≠ (f p).bdiv m) := by
  have hle := h.le
  have hhi := h.le_hi
  have hlt := he.lt
  rw [h.least_iff]
  by_cases hw : (f lo).bdiv m = (f p).bdiv m
  · have hqe := h.lt_exit he hm hw
    have hright : ¬ (lo < p ∧ (f lo).bdiv m = (f (p - 1)).bdiv m
        ∧ (f (p - 1)).bdiv m ≠ (f p).bdiv m) := fun ⟨_, h1, h2⟩ => h2 (h1.symm.trans hw)
    simp [hw, hw ▸ hright]
    have hehi := he.le
    split_ifs <;> omega
  · obtain ⟨hep, hsame, hne⟩ := h.exit_le he hm hw
    rw [if_pos (by omega)]
    constructor
    · rintro ⟨hpe, -⟩
      obtain rfl : e = p := le_antisymm hep hpe
      exact .inr ⟨hlt, hsame, hne⟩
    · rintro (⟨heq, -⟩ | ⟨-, hpw, -⟩)
      · exact absurd heq hw
      · refine ⟨?_, by omega⟩
        by_contra hpe
        have h1 := h.bdiv_eq hm (x := e) (by omega) (y := p - 1) (by omega) (by omega) hpw
        exact hne (hsame.symm.trans h1.symm)

lemma least_before (hm : 0 < m) : Least f lo hi (e - 1) ↔ e - 1 = q := by
  have hle := h.le
  have hlt := he.lt
  rw [h.least_iff]
  by_cases hw : (f lo).bdiv m = (f p).bdiv m
  · have hqe := h.lt_exit he hm hw
    omega
  · obtain ⟨hep, -, -⟩ := h.exit_le he hm hw
    omega

lemma before_eq_iff (hm : 0 < m) : e - 1 = q ↔ (f lo).bdiv m = (f q).bdiv m
        ∧ (q = hi ∨ ((f q).bmod m ≠ 0 ∧ (f q).bdiv m = (f (q + 1)).bdiv m)) := by
  have hlo := h.lo_le
  have hle := h.le
  have hhi := h.le_hi
  have hlt := he.lt
  have hehi := he.le
  have hfloor : f q = f p := le_antisymm (h.anti hlo hle le_rfl) (h.mono le_rfl hle hhi)
  rw [hfloor]
  by_cases hw : (f lo).bdiv m = (f p).bdiv m
  · have hqe := h.lt_exit he hm hw
    simp [hw]
    constructor
    · intro heq
      rcases hhi.lt_or_eq with hqhi | hqhi
      · obtain rfl : e = q + 1 := by omega
        have hr := (h.rises_iff_of_climbs hm hqe (by omega)).1 (he.rises (by omega))
        rw [add_sub_cancel_right, hfloor] at hr
        exact .inr hr
      · exact .inl hqhi
    · rintro (heq | hnext)
      · omega
      · by_contra hgt
        refine he.before (q + 1) (by omega) (by omega) ?_
        rwa [h.rises_iff_of_climbs hm (by omega) (by omega), add_sub_cancel_right, hfloor]
  · obtain ⟨hep, -, -⟩ := h.exit_le he hm hw
    refine iff_of_false (fun h => ?_) (fun h => hw h.1)
    omega

end Shape

end Valley
