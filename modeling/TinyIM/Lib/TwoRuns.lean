/-
# TwoRuns — two computations side by side

`Alike x y s t V R` compares the run of `x` from `s` with the run of `y` from `t`: both return, with
values in `V`, or both stop for the same reason, and either way the states they leave are in `R`. The
rules follow the syntax of a `do` block, as those of `Ends` do; with `V` the equality and `R` "equal but
for what is secret" they read off a program that it does not reveal the secret. `exec_beside` does the
same for machines: two runs side by side are one run of pairs.
-/
import TinyIM.Lib.Runs
import TinyIM.Lib.Stops

namespace TinyIM.Lib.TwoRuns

open TinyIM.Lib.Runs TinyIM.Lib.Stops

variable {ε σ τ α β γ δ : Type}

/-! ## Computations -/

/-- The two ends of two runs correspond. -/
inductive EndAlike (V : α → β → Prop) (R : σ → τ → Prop) :
    EStateM.Result ε σ α → EStateM.Result ε τ β → Prop
  | ok {a b s t} (hV : V a b) (hR : R s t) : EndAlike V R (.ok a s) (.ok b t)
  | error (e : ε) {s t} (hR : R s t) : EndAlike V R (.error e s) (.error e t)

/-- The run of `x` from `s` ends as the run of `y` from `t`. -/
def Alike (x : EStateM ε σ α) (y : EStateM ε τ β) (s : σ) (t : τ) (V : α → β → Prop)
    (R : σ → τ → Prop) : Prop := EndAlike V R (x s) (y t)

section Rules

variable {x : EStateM ε σ α} {y : EStateM ε τ β} {s : σ} {t : τ} {V V' : α → β → Prop}
  {W : γ → δ → Prop} {R : σ → τ → Prop}

/-- The rule of consequence. -/
theorem Alike.mono (h : Alike x y s t V R) (hV : ∀ a b, V a b → V' a b) : Alike x y s t V' R := by
  unfold Alike at h ⊢
  generalize x s = r, y t = r' at h
  cases h with
  | ok hab hR => exact .ok (hV _ _ hab) hR
  | error e hR => exact .error e hR

/-- The values are those that the two runs return. -/
theorem Alike.returned (h : Alike x y s t V R) :
    Alike x y s t (fun a b => V a b ∧ (∃ s', x s = .ok a s') ∧ ∃ t', y t = .ok b t') R := by
  unfold Alike at h ⊢
  generalize x s = r, y t = r' at h ⊢
  cases h with
  | ok hV hR => exact .ok ⟨hV, ⟨_, rfl⟩, ⟨_, rfl⟩⟩ hR
  | error e hR => exact .error e hR

/-- The rule of sequencing. -/
theorem Alike.bind (h : Alike x y s t V R) {f : α → EStateM ε σ γ} {g : β → EStateM ε τ δ}
    (hnext : ∀ a b s' t', V a b → R s' t' → Alike (f a) (g b) s' t' W R) :
    Alike (x >>= f) (y >>= g) s t W R := by
  have hbind : EndAlike W R (EStateM.bind x f s) (EStateM.bind y g t) := by
    unfold Alike at h
    unfold EStateM.bind
    generalize x s = r, y t = r' at h
    cases h with
    | ok hV hR => exact hnext _ _ _ _ hV hR
    | error e hR => exact .error e hR
  exact hbind

theorem alike_pure {a : α} {b : β} (hV : V a b) (hR : R s t) :
    Alike (pure a : EStateM ε σ α) (pure b : EStateM ε τ β) s t V R := .ok hV hR

theorem alike_get (hR : R s t) :
    Alike (get : EStateM ε σ σ) (get : EStateM ε τ τ) s t R R := .ok hR hR

theorem alike_modify {f : σ → σ} {g : τ → τ} (hR : R (f s) (g t)) :
    Alike (modify f : EStateM ε σ PUnit) (modify g : EStateM ε τ PUnit) s t Eq R := .ok rfl hR

theorem alike_ite {c : Prop} [Decidable c] {x' : EStateM ε σ α} {y' : EStateM ε τ β}
    (h : c → Alike x y s t V R) (h' : ¬c → Alike x' y' s t V R) :
    Alike (if c then x else x') (if c then y else y') s t V R := by
  by_cases hc : c
  · rw [if_pos hc, if_pos hc]
    exact h hc
  · rw [if_neg hc, if_neg hc]
    exact h' hc

/-- A loop over one list. -/
theorem alike_forM {f : γ → EStateM ε σ PUnit} {g : γ → EStateM ε τ PUnit}
    (hround : ∀ c s t, R s t → Alike (f c) (g c) s t Eq R) :
    ∀ (l : List γ) {s : σ} {t : τ}, R s t → Alike (l.forM f) (l.forM g) s t Eq R
  | [], _, _, hR => alike_pure rfl hR
  | c :: l, s, t, hR =>
      (hround c s t hR).bind fun _ _ _ _ _ hR' => alike_forM hround l hR'

/-- The states the two runs leave are related. -/
theorem Alike.stateOf (h : Alike x y s t V R) : R (stateOf (x s)) (stateOf (y t)) := by
  unfold Alike at h
  generalize x s = r, y t = r' at h
  cases h with
  | ok _ hR => exact hR
  | error _ hR => exact hR

end Rules

/-! ## Machines -/

section Machines

variable {step : σ → ε → σ} {step' : τ → δ → τ}

/-- Two machines that take their steps together. -/
def beside (step : σ → ε → σ) (step' : τ → δ → τ) (p : σ × τ) (e : ε × δ) : σ × τ :=
  (step p.1 e.1, step' p.2 e.2)

theorem exec_beside (es : List (ε × δ)) (s : σ) (t : τ) : exec (beside step step') (s, t) es =
    (exec step s (es.map Prod.fst), exec step' t (es.map Prod.snd)) := by
  induction es generalizing s t with
  | nil => rfl
  | cons e es ih =>
      rw [exec_cons, List.map_cons, List.map_cons, exec_cons, exec_cons]
      exact ih _ _

end Machines

end TinyIM.Lib.TwoRuns
