/-
Runs of a machine that answers: a step takes a state and an event to the
next state and an output, a run feeds it a list of events, oldest first.

* `after_invariant`: what every step preserves, every run preserves;
  `Guarded.invariant`: the same for runs whose steps all meet a condition
  on the state before the step and its event, `Guarded.ever_since`: what an
  output brings about lasts as long as no later output ends it.
* `outputs_split`: an output of a run is the output of one step, taken from
  the state the events before it lead to.
* `simulate`: a step-by-step simulation with agreeing outputs carries over
  to whole runs.
-/
import Mathlib.Data.List.Basic

namespace Runs

variable {σ ε ο : Type}

/-- The state after the events. -/
def after (step : σ → ε → σ × ο) : σ → List ε → σ
  | s, [] => s
  | s, e :: es => after step (step s e).1 es

/-- What the steps answer, in order. -/
def outputs (step : σ → ε → σ × ο) : σ → List ε → List ο
  | _, [] => []
  | s, e :: es => (step s e).2 :: outputs step (step s e).1 es

/-- Every step of the run meets `P`, read at the state before it. -/
def Guarded (step : σ → ε → σ × ο) (P : σ → ε → Prop) : σ → List ε → Prop
  | _, [] => True
  | s, e :: es => P s e ∧ Guarded step P (step s e).1 es

variable {step : σ → ε → σ × ο}

@[simp] theorem after_nil (s : σ) : after step s [] = s := rfl
@[simp] theorem outputs_nil (s : σ) : outputs step s [] = [] := rfl
@[simp] theorem after_cons (s : σ) (e : ε) (es : List ε) :
    after step s (e :: es) = after step (step s e).1 es := rfl
@[simp] theorem outputs_cons (s : σ) (e : ε) (es : List ε) :
    outputs step s (e :: es) = (step s e).2 :: outputs step (step s e).1 es := rfl

theorem after_append (s : σ) (es fs : List ε) :
    after step s (es ++ fs) = after step (after step s es) fs := by
  induction es generalizing s with
  | nil => rfl
  | cons e es ih => exact ih (step s e).1

@[simp] theorem after_concat (s : σ) (es : List ε) (e : ε) :
    after step s (es ++ [e]) = (step (after step s es) e).1 := after_append s es [e]

theorem outputs_append (s : σ) (es fs : List ε) :
    outputs step s (es ++ fs) = outputs step s es ++ outputs step (after step s es) fs := by
  induction es generalizing s with
  | nil => rfl
  | cons e es ih => simp only [List.cons_append, outputs_cons, after_cons, ih]

theorem outputs_concat (s : σ) (es : List ε) (e : ε) :
    outputs step s (es ++ [e]) = outputs step s es ++ [(step (after step s es) e).2] := outputs_append s es [e]

@[simp] theorem outputs_length (s : σ) (es : List ε) : (outputs step s es).length = es.length := by
  induction es generalizing s with
  | nil => rfl
  | cons e es ih => simp only [outputs_cons, List.length_cons, ih]

/-- An output comes from one step of the run. -/
theorem outputs_split {s : σ} {es : List ε} {pre post : List ο} {o : ο}
    (h : outputs step s es = pre ++ o :: post) :
    ∃ es₁ e es₂, es = es₁ ++ e :: es₂ ∧ pre = outputs step s es₁ ∧ o = (step (after step s es₁) e).2 := by
  induction es generalizing s pre with
  | nil => simp at h
  | cons e es ih =>
    cases pre with
    | nil =>
      simp only [outputs_cons, List.nil_append, List.cons.injEq] at h
      exact ⟨[], e, es, rfl, rfl, h.1.symm⟩
    | cons p pre =>
      simp only [outputs_cons, List.cons_append, List.cons.injEq] at h
      obtain ⟨es₁, e', es₂, rfl, rfl, ho⟩ := ih h.2
      exact ⟨e :: es₁, e', es₂, rfl, by simp [h.1], ho⟩

/-- The state after one more event. -/
theorem after_take_succ {s : σ} {es : List ε} {j : ℕ} {e : ε} (h : es[j]? = some e) :
    after step s (es.take (j + 1)) = (step (after step s (es.take j)) e).1 := by
  obtain ⟨hlt, rfl⟩ := List.getElem?_eq_some_iff.1 h
  rw [List.take_succ_eq_append_getElem hlt, after_concat]

/-- **A simulation of steps is one of runs**: every run is matched by one of
the other machine, whose outputs agree position by position. -/
theorem simulate {τ κ ω : Type} {step' : τ → κ → τ × ω} {R : σ → τ → Prop} {A : σ → ε → ω → Prop}
    (hstep : ∀ s t e, R s t → ∃ k, R (step s e).1 (step' t k).1 ∧ A s e (step' t k).2)
    {s : σ} {t : τ} (hR : R s t) (es : List ε) :
    ∃ ks, R (after step s es) (after step' t ks) ∧ (outputs step' t ks).length = es.length ∧
      ∀ j e, es[j]? = some e → ∃ o, (outputs step' t ks)[j]? = some o ∧ A (after step s (es.take j)) e o := by
  induction es generalizing s t with
  | nil => exact ⟨[], hR, rfl, by simp⟩
  | cons e es ih =>
    obtain ⟨k, hR', hA⟩ := hstep s t e hR
    obtain ⟨ks, hend, hlen, hout⟩ := ih hR'
    refine ⟨k :: ks, hend, by simp [hlen], fun j e' hj => ?_⟩
    cases j with
    | zero =>
      simp only [List.getElem?_cons_zero, Option.some.injEq] at hj
      subst hj
      exact ⟨_, rfl, hA⟩
    | succ j => exact hout j e' (by simpa using hj)

/-- What every step preserves, every run preserves. -/
theorem after_invariant (I : σ → Prop) (hstep : ∀ s e, I s → I (step s e).1) {s : σ} (hs : I s)
    (es : List ε) : I (after step s es) := by
  induction es generalizing s with
  | nil => exact hs
  | cons e es ih => exact ih (hstep s e hs)

/-- What every step preserves of the state and the outputs so far. -/
theorem outputs_invariant (I : σ → List ο → Prop)
    (hstep : ∀ s os e, I s os → I (step s e).1 (os ++ [(step s e).2])) {s : σ} {os : List ο} (hs : I s os)
    (es : List ε) : I (after step s es) (os ++ outputs step s es) := by
  induction es generalizing s os with
  | nil => simpa using hs
  | cons e es ih => simpa using ih (hstep s os e hs)

theorem guarded_append {P : σ → ε → Prop} (s : σ) (es fs : List ε) :
    Guarded step P s (es ++ fs) ↔ Guarded step P s es ∧ Guarded step P (after step s es) fs := by
  induction es generalizing s with
  | nil => simp [Guarded]
  | cons e es ih => simp only [List.cons_append, Guarded, after_cons, ih, and_assoc]

/-- An invariant that needs a condition on each step. -/
theorem Guarded.invariant {P : σ → ε → Prop} (I : σ → Prop)
    (hstep : ∀ s e, I s → P s e → I (step s e).1) {s : σ} (hs : I s) {es : List ε}
    (hg : Guarded step P s es) : I (after step s es) := by
  induction es generalizing s with
  | nil => exact hs
  | cons e es ih => exact ih (hstep s e hs hg.1) hg.2

/-- The same of the state and the outputs so far. -/
theorem Guarded.outputs_invariant {P : σ → ε → Prop} (I : σ → List ο → Prop)
    (hstep : ∀ s os e, I s os → P s e → I (step s e).1 (os ++ [(step s e).2])) {s : σ} {os : List ο} (hs : I s os)
    {es : List ε} (hg : Guarded step P s es) : I (after step s es) (os ++ outputs step s es) := by
  induction es generalizing s os with
  | nil => simpa using hs
  | cons e es ih => simpa using ih (hstep s os e hs hg.1) hg.2

/-- What steps with outputs of one kind keep. -/
theorem Guarded.lasts {P : σ → ε → Prop} {I Q : σ → Prop} {K : ο → Prop}
    (hstep : ∀ s e, I s → P s e → I (step s e).1)
    (hkeeps : ∀ s e, I s → Q s → K (step s e).2 → Q (step s e).1) {s : σ} (hs : I s) (hQ : Q s) {es : List ε}
    (hg : Guarded step P s es) (hout : ∀ o ∈ outputs step s es, K o) : Q (after step s es) := by
  induction es generalizing s with
  | nil => exact hQ
  | cons e es ih =>
    obtain ⟨ho, hrest⟩ := List.forall_mem_cons.1 hout
    exact ih (hstep s e hs hg.1) (hkeeps s e hs hQ ho) hg.2 hrest

/-- **What one output brings about, for as long as the later ones keep it.** -/
theorem Guarded.ever_since {P : σ → ε → Prop} {I Q : σ → Prop} {K : ο → Prop} {o : ο}
    (hstep : ∀ s e, I s → P s e → I (step s e).1)
    (hbrings : ∀ s e, I s → P s e → (step s e).2 = o → Q (step s e).1)
    (hkeeps : ∀ s e, I s → Q s → K (step s e).2 → Q (step s e).1) {s : σ} (hs : I s) {es : List ε}
    (hg : Guarded step P s es) {pre post : List ο} (hout : outputs step s es = pre ++ o :: post)
    (hpost : ∀ o' ∈ post, K o') : Q (after step s es) := by
  induction es generalizing s pre with
  | nil => simp at hout
  | cons e es ih =>
    have hI := hstep s e hs hg.1
    rcases pre with _ | ⟨o', pre⟩
    · obtain ⟨ho, hrest⟩ := List.cons.inj hout
      exact hg.2.lasts hstep hkeeps hI (hbrings s e hs hg.1 ho) (hrest ▸ hpost)
    · exact ih hI hg.2 (List.cons.inj hout).2

end Runs
