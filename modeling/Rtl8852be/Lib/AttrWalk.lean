import Rtl8852be.Lib.Loop

/-!
# Walks over attributes whose size is kept in 16 bits

A walk goes from one attribute to the next by their size modulo `2 ^ 16`. Behind a size that wrapped
it is on bytes inside an attribute.
-/

namespace AttrWalk

/-- What the bytes at a place say: the walk ends there, has found its attribute, or goes on. -/
structure Attrs where
  hdr : ℕ
  dataLen : ℕ → ℕ
  Ends : ℕ → Prop
  Here : ℕ → Prop
  Goes : ℕ → Prop

variable {a : Attrs} {n p q : ℕ} {r : Option ℕ} {hit : ℕ → Prop}

def Attrs.found (a : Attrs) (q : ℕ) : ℕ × ℕ := (q, a.hdr + a.dataLen q)

def Attrs.content (a : Attrs) (q : ℕ) : ℕ × ℕ := (q + a.hdr, a.dataLen q)

inductive Reads (a : Attrs) : ℕ → Option ℕ → Prop
  | ends {p : ℕ} : a.Ends p → Reads a p none
  | here {p : ℕ} : a.Here p → Reads a p (some p)
  | next {p : ℕ} {r : Option ℕ} : a.Goes p →
      Reads a (p + (a.dataLen p + a.hdr) % 65536) r → Reads a p r

/-- The first attribute that is hit among the complete ones within `n` bytes. -/
inductive First (a : Attrs) (hit : ℕ → Prop) (n : ℕ) : ℕ → ℕ → Prop
  | here {p : ℕ} : p + a.hdr + a.dataLen p ≤ n → hit p → First a hit n p p
  | next {p q : ℕ} : p + a.hdr + a.dataLen p ≤ n → ¬ hit p →
      First a hit n (p + a.hdr + a.dataLen p) q → First a hit n p q

/-- Sizes fit; where one does not, the walk from inside that attribute has a right result. -/
inductive Safe (a : Attrs) (Right : ℕ → Option ℕ → Prop) : ℕ → Prop
  | ends {p : ℕ} : a.Ends p → Safe a Right p
  | here {p : ℕ} : a.Here p → Safe a Right p
  | next {p : ℕ} : a.Goes p → a.dataLen p + a.hdr < 65536 → Safe a Right (p + a.hdr + a.dataLen p) →
      Safe a Right p
  | skewed {p : ℕ} {r : Option ℕ} : a.Goes p → 65536 ≤ a.dataLen p + a.hdr →
      Reads a (p + (a.dataLen p + a.hdr) % 65536) r → Right p r → Safe a Right p

lemma First.inside (h : First a hit n p q) : q + a.hdr + a.dataLen q ≤ n ∧ hit q := by
  induction h with
  | here hn hq => exact ⟨hn, hq⟩
  | next _ _ _ ih => exact ih

lemma First.here_iff (hhit : hit p) (hin : p + a.hdr + a.dataLen p ≤ n) :
    First a hit n p q ↔ p = q := by
  constructor
  · rintro (_ | ⟨-, hno, -⟩)
    · rfl
    · exact absurd hhit hno
  · rintro rfl
    exact .here hin hhit

lemma First.next_iff (hno : ¬ hit p) (hin : p + a.hdr + a.dataLen p ≤ n) :
    First a hit n p q ↔ First a hit n (p + a.hdr + a.dataLen p) q := by
  constructor
  · rintro (⟨-, hhit⟩ | ⟨-, -, h⟩)
    · exact absurd hhit hno
    · exact h
  · exact .next hin hno

lemma First.complete (h : First a hit n p q) : p + a.hdr + a.dataLen p ≤ n := by
  rcases h with ⟨hin, -⟩ | ⟨hin, -, -⟩ <;> exact hin

lemma Reads.le_some (h : Reads a p (some q)) : p ≤ q ∧ a.Here q := by
  generalize hr : some q = r at h
  induction h with
  | ends => cases hr
  | here hp =>
    cases hr
    exact ⟨Nat.le_refl _, hp⟩
  | next _ _ ih =>
    obtain ⟨hle, hq⟩ := ih hr
    exact ⟨Nat.le_of_add_right_le hle, hq⟩

lemma Reads.returns {step : ℕ → ℕ ⊕ Option (ℕ × ℕ)} (h : Reads a p r)
    (hends : ∀ p, a.Ends p → Loop.Returns step p none)
    (hhere : ∀ p, a.Here p → step p = .inr (some (a.found p)))
    (hgoes : ∀ p, a.Goes p → step p = .inl (p + (a.dataLen p + a.hdr) % 65536)) :
    Loop.Returns step p (r.map a.found) := by
  induction h with
  | ends hp => exact hends _ hp
  | here hp => exact (Loop.returns_of_inr (hhere _ hp)).2 rfl
  | next hp _ ih => exact (Loop.returns_of_inl (hgoes _ hp)).2 ih

lemma safe_iff {Right : ℕ → Option ℕ → Prop} (hends : ∀ p, a.Ends p → Right p none)
    (hhere : ∀ p, a.Here p → Right p (some p))
    (hgoes : ∀ p r, a.Goes p → a.dataLen p + a.hdr < 65536 →
      Reads a (p + a.hdr + a.dataLen p) r → (Right p r ↔ Right (p + a.hdr + a.dataLen p) r)) :
    (∃ r, Reads a p r ∧ Right p r) ↔ Safe a Right p := by
  have hsize : ∀ {p}, a.dataLen p + a.hdr < 65536 →
      p + (a.dataLen p + a.hdr) % 65536 = p + a.hdr + a.dataLen p := fun h => by omega
  constructor
  · rintro ⟨r, hr, hright⟩
    induction hr with
    | ends hp => exact .ends hp
    | here hp => exact .here hp
    | @next p r hp hr ih =>
      rcases Nat.lt_or_ge (a.dataLen p + a.hdr) 65536 with hlt | hge
      · rw [hsize hlt] at hr ih
        exact .next hp hlt (ih ((hgoes p r hp hlt hr).1 hright))
      · exact .skewed hp hge hr hright
  · intro h
    induction h with
    | ends hp => exact ⟨none, .ends hp, hends _ hp⟩
    | @here p hp => exact ⟨some p, .here hp, hhere _ hp⟩
    | next hp hlt _ ih =>
      obtain ⟨r, hr, hright⟩ := ih
      exact ⟨r, .next hp ((hsize hlt).symm ▸ hr), (hgoes _ r hp hlt hr).2 hright⟩
    | skewed hp _ hr hright => exact ⟨_, .next hp hr, hright⟩

end AttrWalk
