import Mathlib.Logic.Basic

/-!
# Runs of a step function

A machine is a step function on states and inputs. A run is a list of inputs, and `RunOK` says
that each step of it meets a condition on the state before the step and the input.
-/

namespace Run

variable {σ ε : Type*} (step : σ → ε → σ) (ok : σ → ε → Prop)
variable {P : σ → Prop}

def run (s : σ) (es : List ε) : σ := es.foldl step s

/-- Each event of the run is allowed in its state. -/
def RunOK : σ → List ε → Prop
  | _, [] => True
  | s, e :: es => ok s e ∧ RunOK (step s e) es

@[simp] lemma run_nil (s : σ) : run step s [] = s := rfl

@[simp] lemma run_cons (s : σ) (e : ε) (es : List ε) :
    run step s (e :: es) = run step (step s e) es := rfl

lemma run_append_singleton (s : σ) (es : List ε) (e : ε) :
    run step s (es ++ [e]) = step (run step s es) e := by
  rw [run, List.foldl_append]
  rfl

/-- What every step that meets the condition keeps holds at the end of a run that meets it. -/
lemma run_inv (hstep : ∀ s e, P s → ok s e → P (step s e)) :
    ∀ (es : List ε) (s : σ), P s → RunOK step ok s es → P (run step s es)
  | [], _, h, _ => h
  | e :: es, s, h, hok => run_inv hstep es (step s e) (hstep s e h hok.1) hok.2

lemma RunOK.of_prefix {step : σ → ε → σ} {ok : σ → ε → Prop} :
    ∀ {es' es : List ε} {s : σ}, es' <+: es → RunOK step ok s es → RunOK step ok s es'
  | [], _, _, _, _ => trivial
  | _ :: _, _ :: _, _, hp, hok => by
    obtain ⟨rfl, htail⟩ := List.cons_prefix_cons.1 hp
    exact ⟨hok.1, RunOK.of_prefix htail hok.2⟩

lemma runOK_append_singleton {e : ε} : ∀ {es : List ε} {s : σ},
    RunOK step ok s (es ++ [e]) ↔ RunOK step ok s es ∧ ok (run step s es) e
  | [], _ => and_comm
  | e' :: es, s => by
    have htail : RunOK step ok (step s e') (es ++ [e]) ↔ _ := runOK_append_singleton
    rw [List.cons_append, RunOK, RunOK, htail, and_assoc, run_cons]

/-- The last step of a run that meets the condition does so in the state before it. -/
lemma RunOK.last {step : σ → ε → σ} {ok : σ → ε → Prop} {e : ε} {es : List ε} {s : σ}
    (hok : RunOK step ok s (es ++ [e])) : ok (run step s es) e :=
  ((runOK_append_singleton step ok).1 hok).2

lemma runOK_of_forall {ok : ε → Prop} : ∀ (es : List ε) (s : σ), (∀ e ∈ es, ok e) →
    RunOK step (fun _ e => ok e) s es
  | [], _, _ => trivial
  | e :: es, s, h =>
    ⟨h e (by simp), runOK_of_forall es (step s e) fun e' he' => h e' (by simp [he'])⟩

lemma runOK_true : ∀ (es : List ε) (s : σ), RunOK step (fun _ _ => True) s es
  | [], _ => trivial
  | e :: es, s => ⟨trivial, runOK_true es (step s e)⟩

lemma run_inv_all (hstep : ∀ s e, P s → P (step s e)) (es : List ε) (s : σ) (h : P s) :
    P (run step s es) :=
  run_inv step (fun _ _ => True) (fun s e hs _ => hstep s e hs) es s h (runOK_true step es s)

/-- Two conditions that agree where an invariant holds, which either of them keeps. -/
lemma runOK_congr {ok' : σ → ε → Prop} (hiff : ∀ s e, P s → (ok s e ↔ ok' s e))
    (hstep : ∀ s e, P s → ok' s e → P (step s e)) :
    ∀ (es : List ε) (s : σ), P s → (RunOK step ok s es ↔ RunOK step ok' s es)
  | [], _, _ => Iff.rfl
  | e :: es, s, h => by
    rw [RunOK, RunOK, hiff s e h]
    exact and_congr_right fun hok => runOK_congr hiff hstep es (step s e) (hstep s e h hok)

instance decidableRunOK [∀ s e, Decidable (ok s e)] :
    ∀ (s : σ) (es : List ε), Decidable (RunOK step ok s es)
  | _, [] => inferInstanceAs (Decidable True)
  | s, e :: es =>
    have := decidableRunOK (step s e) es
    inferInstanceAs (Decidable (_ ∧ _))

end Run
