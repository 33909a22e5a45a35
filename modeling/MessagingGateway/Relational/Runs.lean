import Mathlib

/-!
# Runs of a transition system

A system is given by a step function: an input taken in a state produces an
output and the next state. A run is a finite sequence of steps, each allowed by
an environment condition on the state it is taken in, and it records the
observation (input and output) of every step in order. The rules below are the
ways a later proof uses a run: an invariant preserved by each allowed step holds
at the end, a run can be cut at any observation, and a rank that certain steps
decrease reaches zero after enough of them.
-/

namespace Relational

variable {σ ι ο : Type}

/-- `Run step allowed s trace s'`: allowed steps lead from `s` to `s'` and are
observed as `trace`. -/
inductive Run (step : ι → σ → ο × σ) (allowed : σ → ι → Prop) (s : σ) :
    List (ι × ο) → σ → Prop
  | nil : Run step allowed s [] s
  | snoc {trace : List (ι × ο)} {s' : σ} {i : ι} :
      Run step allowed s trace s' → allowed s' i →
      Run step allowed s (trace ++ [(i, (step i s').1)]) (step i s').2

namespace Run

variable {step : ι → σ → ο × σ} {allowed : σ → ι → Prop} {s s' s'' : σ}
  {trace : List (ι × ο)}

theorem invariant {P : σ → Prop} (hstep : ∀ s i, allowed s i → P s → P (step i s).2)
    (hrun : Run step allowed s trace s') (h : P s) : P s' := by
  induction hrun with
  | nil => exact h
  | snoc _ hi ih => exact hstep _ _ hi ih

/-- The invariant rule for a property of the observations made so far and the
state reached. -/
theorem invariant_trace {P : List (ι × ο) → σ → Prop}
    (hstep : ∀ trace s i, allowed s i → P trace s →
      P (trace ++ [(i, (step i s).1)]) (step i s).2)
    (hrun : Run step allowed s trace s') (h : P [] s) : P trace s' := by
  induction hrun with
  | nil => exact h
  | snoc _ hi ih => exact hstep _ _ _ hi ih

theorem mono {allowed' : σ → ι → Prop} (h : ∀ s i, allowed s i → allowed' s i)
    (hrun : Run step allowed s trace s') : Run step allowed' s trace s' := by
  induction hrun with
  | nil => exact .nil
  | snoc _ hi ih => exact .snoc ih (h _ _ hi)

/-- A run cut at any point of its trace. -/
theorem split {before after : List (ι × ο)} (hrun : Run step allowed s (before ++ after) s') :
    ∃ t, Run step allowed s before t ∧ Run step allowed t after s' := by
  induction after using List.reverseRecOn generalizing s' with
  | nil =>
    rw [List.append_nil] at hrun
    exact ⟨s', hrun, .nil⟩
  | append_singleton after e ih =>
    rw [← List.append_assoc] at hrun
    generalize htr : before ++ after ++ [e] = trace at hrun
    cases hrun with
    | nil => simp at htr
    | snoc hprev hi =>
      obtain ⟨rfl, he⟩ := List.append_inj' htr rfl
      obtain ⟨t, hbefore, hafter⟩ := ih hprev
      simp only [List.cons.injEq, and_true] at he
      subst he
      exact ⟨t, hbefore, .snoc hafter hi⟩

theorem of_singleton {e : ι × ο} (hrun : Run step allowed s [e] s') :
    allowed s e.1 ∧ step e.1 s = (e.2, s') := by
  generalize htr : [e] = trace at hrun
  cases hrun with
  | nil => simp at htr
  | @snoc prev t i hprev hi =>
    have hlen := congrArg List.length htr
    have hnil : prev = [] := by simpa using hlen
    subst hnil
    generalize hempty : ([] : List (ι × ο)) = empty at hprev
    cases hprev with
    | nil =>
      simp only [List.nil_append, List.cons.injEq, and_true] at htr
      subst htr
      exact ⟨hi, rfl⟩
    | snoc => simp at hempty

/-- Draining: what some inputs take away, as long as there is any, and no input
adds is gone after as many of those inputs. -/
theorem drained {P : σ → Prop} (rank : σ → Nat) (works : ι → Bool)
    (hP : ∀ s i, allowed s i → P s → P (step i s).2)
    (hle : ∀ s i, allowed s i → P s → rank (step i s).2 ≤ rank s)
    (hlt : ∀ s i, allowed s i → P s → works i = true → rank s ≠ 0 → rank (step i s).2 < rank s)
    (hrun : Run step allowed s trace s') (h : P s) :
    rank s' ≤ rank s - trace.countP fun e => works e.1 := by
  induction hrun with
  | nil => simp
  | @snoc trace t i hrun hi ih =>
    have ht : P t := hrun.invariant hP h
    have hdown := hle t i hi ht
    rw [List.countP_append, List.countP_singleton]
    by_cases hworks : works i = true
    · have hdrop := hlt t i hi ht hworks
      simp only [hworks, if_true]
      omega
    · simp only [hworks, Bool.false_eq_true, if_false]
      omega

end Run

/-! ### Running a list of inputs -/

/-- The observations and the last state of a list of inputs. -/
def execute (step : ι → σ → ο × σ) : List ι → σ → List (ι × ο) × σ
  | [], s => ([], s)
  | i :: inputs, s =>
    let later := execute step inputs (step i s).2
    ((i, (step i s).1) :: later.1, later.2)

/-- Every input of a list is allowed in the state it meets. -/
def AllAllowed (step : ι → σ → ο × σ) (allowed : σ → ι → Prop) : List ι → σ → Prop
  | [], _ => True
  | i :: inputs, s => allowed s i ∧ AllAllowed step allowed inputs (step i s).2

instance AllAllowed.decidable {step : ι → σ → ο × σ} {allowed : σ → ι → Prop}
    [∀ s i, Decidable (allowed s i)] :
    ∀ (inputs : List ι) (s : σ), Decidable (AllAllowed step allowed inputs s)
  | [], _ => .isTrue trivial
  | i :: inputs, s =>
    have : Decidable (AllAllowed step allowed inputs (step i s).2) :=
      AllAllowed.decidable inputs (step i s).2
    inferInstanceAs (Decidable (allowed s i ∧ AllAllowed step allowed inputs (step i s).2))

namespace Run

variable {step : ι → σ → ο × σ} {allowed : σ → ι → Prop} {s s' s'' : σ}

theorem trans {trace trace' : List (ι × ο)} (h : Run step allowed s trace s')
    (h' : Run step allowed s' trace' s'') : Run step allowed s (trace ++ trace') s'' := by
  induction h' with
  | nil => simpa using h
  | snoc _ hi ih =>
    rw [← List.append_assoc]
    exact .snoc ih hi

/-- The run of a list of allowed inputs. -/
theorem of_inputs (inputs : List ι) (h : AllAllowed step allowed inputs s) :
    Run step allowed s (execute step inputs s).1 (execute step inputs s).2 := by
  induction inputs generalizing s with
  | nil => exact .nil
  | cons i inputs ih => exact trans (.snoc .nil h.1) (ih h.2)

end Run

end Relational
