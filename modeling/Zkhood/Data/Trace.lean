import Mathlib.Data.List.Induction

/-!
# Runs of a labelled step function

A partial step function takes a state and a label to the next state, or refuses
the label. A run consumes a list of labels, its trace. Facts about every reached
state are proved once per step, with the trace so far at hand, and lifted to
runs of any length by `Trace.run_induction`.
-/

universe u v

namespace Trace

variable {σ : Type u} {Label : Type v}

/-- Take the steps of a trace one after another, unless one is refused. -/
def run (step : σ → Label → Option σ) (init : σ) : List Label → Option σ
  | [] => some init
  | label :: rest => (step init label).bind fun next => run step next rest

variable {step : σ → Label → Option σ}

theorem run_append (init : σ) (front back : List Label) :
    run step init (front ++ back) =
      (run step init front).bind fun reached => run step reached back := by
  induction front generalizing init with
  | nil => rfl
  | cons label rest ih =>
      simp only [List.cons_append, run, Option.bind_assoc]
      congr 1
      funext next
      exact ih next

theorem run_concat_eq_some_iff {init : σ} {trace : List Label} {label : Label} {final : σ} :
    run step init (trace ++ [label]) = some final ↔
      ∃ reached, run step init trace = some reached ∧ step reached label = some final := by
  rw [run_append, Option.bind_eq_some_iff]
  simp [run]

/-- What holds at the start and is kept by every step of a run holds at its end. The step may
use the trace which led to it. -/
theorem run_induction {init : σ} (motive : List Label → σ → Prop) (start : motive [] init)
    (extend : ∀ trace reached label next, run step init trace = some reached →
      motive trace reached → step reached label = some next → motive (trace ++ [label]) next)
    {trace : List Label} {final : σ} (executed : run step init trace = some final) :
    motive trace final := by
  induction trace using List.reverseRecOn generalizing final with
  | nil =>
      cases executed
      exact start
  | append_singleton trace label ih =>
      rcases run_concat_eq_some_iff.mp executed with ⟨reached, before, last⟩
      exact extend trace reached label final before (ih before) last

end Trace
