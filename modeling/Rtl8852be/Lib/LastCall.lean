import Mathlib.Data.List.Nodup

/-!
# Reports that are owed

Requests have callbacks, which are logged. From some moment on a request is settled and owes one
last call, which is made at once, or when something that was sent out comes back.
-/

namespace LastCall

open List

variable {κ γ : Type*} {fin c : γ} {settled settled' : κ → Prop} {owed : Option κ} {out : List κ}
  {log : List (κ × γ)} {k : κ}

structure Account (fin : γ) (settled : κ → Prop) (owed : Option κ) (out : List κ)
    (log : List (κ × γ)) : Prop where
  silent : log.Pairwise fun a b => a.2 = fin → b.1 ≠ a.1
  done : ∀ k, (k, fin) ∈ log → settled k
  reported : ∀ k, settled k → owed = some k ∨ (k, fin) ∈ log ∨ k ∈ out
  waits : ∀ k ∈ out, settled k ∧ (k, fin) ∉ log
  nodup : out.Nodup
  owes : ∀ k, owed = some k → settled k ∧ (k, fin) ∉ log ∧ k ∉ out

lemma Account.init (fin : γ) (h : ∀ k, ¬ settled k) : Account fin settled none [] [] where
  silent := .nil
  done := nofun
  reported := fun k hk => absurd hk (h k)
  waits := nofun
  nodup := .nil
  owes := nofun

lemma Account.congr (h : Account fin settled owed out log)
    (hsettled : ∀ k, settled' k ↔ settled k) : Account fin settled' owed out log := by
  have heq : settled' = settled := funext fun k => propext (hsettled k)
  rwa [heq]

lemma Account.settle (h : Account fin settled none out log) (hk : ¬ settled k)
    (hsettled : ∀ j, settled' j ↔ settled j ∨ j = k) :
    Account fin settled' (some k) out log where
  silent := h.silent
  done := fun j hj => (hsettled j).2 (.inl (h.done j hj))
  reported := by
    intro j hj
    rcases (hsettled j).1 hj with hj | rfl
    · exact .inr ((h.reported j hj).resolve_left nofun)
    · exact .inl rfl
  waits := fun j hj => ⟨(hsettled j).2 (.inl (h.waits j hj).1), (h.waits j hj).2⟩
  nodup := h.nodup
  owes := by
    intro j hj
    cases hj
    exact ⟨(hsettled k).2 (.inr rfl), fun hlog => hk (h.done k hlog),
      fun hout => hk (h.waits k hout).1⟩

lemma silent_append (h : log.Pairwise fun a b => a.2 = fin → b.1 ≠ a.1) (hk : (k, fin) ∉ log)
    (c : γ) : (log ++ [(k, c)]).Pairwise fun a b => a.2 = fin → b.1 ≠ a.1 := by
  refine pairwise_append.2 ⟨h, pairwise_singleton _ _, ?_⟩
  rintro ⟨j, d⟩ ha b hb hd hj
  obtain rfl := mem_singleton.1 hb
  obtain rfl : d = fin := hd
  obtain rfl : k = j := hj
  exact hk ha

lemma Account.call (h : Account fin settled owed out log) (hk : (k, fin) ∉ log) (hc : c ≠ fin) :
    Account fin settled owed out (log ++ [(k, c)]) := by
  have hmem : ∀ j, (j, fin) ∈ log ++ [(k, c)] ↔ (j, fin) ∈ log := by
    simp [hc.symm]
  refine ⟨silent_append h.silent hk c, ?_, ?_, ?_, h.nodup, ?_⟩
  · simpa only [hmem] using h.done
  · simpa only [hmem] using h.reported
  · simpa only [hmem] using h.waits
  · simpa only [hmem] using h.owes

lemma Account.calls {cs : List γ} (h : Account fin settled owed out log) (hk : (k, fin) ∉ log)
    (hcs : fin ∉ cs) : Account fin settled owed out (log ++ cs.map (k, ·)) := by
  induction cs generalizing log with
  | nil => simpa using h
  | cons c cs ih =>
    obtain ⟨hc, hcs⟩ := not_or.1 (mt mem_cons.2 hcs)
    have hk' : (k, fin) ∉ log ++ [(k, c)] := by simp [hk, hc]
    simpa using ih (h.call hk (Ne.symm hc)) hk' hcs

lemma Account.finish (h : Account fin settled (some k) out log) :
    Account fin settled none out (log ++ [(k, fin)]) := by
  obtain ⟨hsettled, hk, hout⟩ := h.owes k rfl
  have hmem : ∀ j, (j, fin) ∈ log ++ [(k, fin)] ↔ (j, fin) ∈ log ∨ j = k := by simp
  refine ⟨silent_append h.silent hk fin, ?_, ?_, ?_, h.nodup, nofun⟩
  · intro j hj
    rcases (hmem j).1 hj with hj | rfl
    · exact h.done j hj
    · exact hsettled
  · intro j hj
    rw [hmem]
    rcases h.reported j hj with hjk | hj | hj
    · exact .inr (.inl (.inr (Option.some.inj hjk).symm))
    · exact .inr (.inl (.inl hj))
    · exact .inr (.inr hj)
  · intro j hj
    refine ⟨(h.waits j hj).1, fun hlog => ?_⟩
    rcases (hmem j).1 hlog with hlog | rfl
    · exact (h.waits j hj).2 hlog
    · exact hout hj

/-- The last call that is owed will be made when what is sent out comes back. -/
lemma Account.send (h : Account fin settled (some k) out log) :
    Account fin settled none (out ++ [k]) log := by
  obtain ⟨hsettled, hk, hout⟩ := h.owes k rfl
  refine ⟨h.silent, h.done, ?_, ?_, ?_, nofun⟩
  · intro j hj
    rcases h.reported j hj with hjk | hj | hj
    · exact .inr (.inr (by simp [Option.some.inj hjk]))
    · exact .inr (.inl hj)
    · exact .inr (.inr (mem_append_left _ hj))
  · exact forall_mem_append.2 ⟨h.waits, forall_mem_singleton.2 ⟨hsettled, hk⟩⟩
  · exact (perm_append_singleton k out).nodup_iff.2 (nodup_cons.2 ⟨hout, h.nodup⟩)

lemma Account.back [DecidableEq κ] (h : Account fin settled none out log) (hk : k ∈ out) :
    Account fin settled (some k) (out.erase k) log := by
  refine ⟨h.silent, h.done, ?_, ?_, h.nodup.erase k, ?_⟩
  · intro j hj
    rcases h.reported j hj with hj | hj | hj
    · cases hj
    · exact .inr (.inl hj)
    · by_cases hjk : j = k
      · exact .inl (congrArg some hjk.symm)
      · exact .inr (.inr ((mem_erase_of_ne hjk).2 hj))
  · exact fun j hj => h.waits j (mem_of_mem_erase hj)
  · intro j hj
    cases hj
    exact ⟨(h.waits k hk).1, (h.waits k hk).2, h.nodup.not_mem_erase⟩

lemma count_le_one [DecidableEq κ] [DecidableEq γ]
    (h : log.Pairwise fun a b => a.2 = fin → b.1 ≠ a.1) (k : κ) : log.count (k, fin) ≤ 1 := by
  induction log with
  | nil => exact Nat.zero_le 1
  | cons a log ih =>
    obtain ⟨hhead, htail⟩ := pairwise_cons.1 h
    rw [count_cons]
    by_cases ha : a = (k, fin)
    · subst ha
      have hnone : (k, fin) ∉ log := fun hmem => hhead _ hmem rfl rfl
      simp [count_eq_zero.2 hnone]
    · simpa [ha] using ih htail

lemma Account.count_eq_one [DecidableEq κ] [DecidableEq γ]
    (h : Account fin settled none out log) (hk : settled k) (hout : k ∉ out) :
    log.count (k, fin) = 1 := by
  have hmem : (k, fin) ∈ log := ((h.reported k hk).resolve_left nofun).resolve_right hout
  exact Nat.le_antisymm (count_le_one h.silent k) (count_pos_iff.2 hmem)

end LastCall
