/-
# Pooled — computations that take from a pool and give back

A computation may take elements out of a pool in its state, and is meant to put them back before it
ends. `wait` is the way to stop of one that finds the pool empty. Three notions describe what a
computation does to the pool: `Shrinks`, that it adds nothing; `Holds`, that it does not touch it; and
`Settles wait pool x s C R T`, that a condition `C` decides between two ends of the run of `x` from
`s`: with `C` everything is given back, `x` does not wait, and a returned value satisfies `R`; without
`C` something is lost. Sequencing composes the conditions, so the condition of a program is read off
its parts.
-/
import TinyIM.Lib.Stops
import Mathlib.Data.List.Perm.Basic
import Mathlib.Tactic.ByContra

namespace TinyIM.Lib.Pooled

open TinyIM.Lib.Stops

variable {ε σ κ α β : Type} (wait : ε) (pool : σ → List κ)

/-- However `x` ends, the pool is not larger than before. -/
def Shrinks (x : EStateM ε σ α) : Prop :=
  ∀ s, Ends x s (fun _ s' => (pool s').length ≤ (pool s).length)
    fun _ s' => (pool s').length ≤ (pool s).length

/-- `x` does not touch the pool; `T` says whether it may throw. -/
def Holds (T : Prop) (x : EStateM ε σ α) : Prop :=
  ∀ s, Ends x s (fun _ s' => pool s' = pool s) fun e s' => (T ∧ e ≠ wait) ∧ pool s' = pool s

/-- `C` decides whether `x`, run from `s`, keeps the pool or loses some of it; `T` says
whether it may throw although it keeps it. -/
structure Settles (x : EStateM ε σ α) (s : σ) (C : Prop) (R : α → Prop) (T : Prop) : Prop where
  kept : C → Ends x s (fun a s' => (pool s').Perm (pool s) ∧ R a)
    fun e s' => (T ∧ e ≠ wait) ∧ (pool s').Perm (pool s)
  lost : ¬C → Ends x s (fun _ s' => (pool s').length < (pool s).length)
    fun _ s' => (pool s').length < (pool s).length

variable {wait pool} {x : EStateM ε σ α} {s : σ} {C D T : Prop} {R : α → Prop}
  {R' : β → Prop}

/-- **`Settles.perm_iff`** — the pool is whole afterwards exactly under the condition. -/
theorem Settles.perm_iff (h : Settles wait pool x s C R T) :
    (pool (stateOf (x s))).Perm (pool s) ↔ C := by
  constructor
  · intro hperm
    by_contra hC
    have hlt := ends_stateOf.mp (h.lost hC)
    rw [hperm.length_eq] at hlt
    exact Nat.lt_irrefl _ hlt
  · intro hC
    exact ends_stateOf.mp ((h.kept hC).mono (fun _ _ hk => hk.1) fun _ _ hk => hk.2)

/-- Under the condition the computation does not wait. -/
theorem Settles.not_wait (h : Settles wait pool x s C R T) (hC : C) (s' : σ) :
    x s ≠ .error wait s' := by
  intro hx
  have hk := h.kept hC
  unfold Ends at hk
  rw [hx] at hk
  exact hk.1.2 rfl

theorem Settles.congr (h : Settles wait pool x s C R T) (hCD : C ↔ D) : Settles wait pool x s D R T :=
  ⟨fun hD => h.kept (hCD.mpr hD), fun hD => h.lost fun hC => hD (hCD.mp hC)⟩

/-- The conditions of a sequence are the conditions of its parts. -/
theorem Settles.bind (hx : Settles wait pool x s C R False) {f : α → EStateM ε σ β}
    (hf : ∀ a s', R a → (pool s').Perm (pool s) → Settles wait pool (f a) s' D R' T)
    (hshrink : ∀ a, Shrinks pool (f a)) : Settles wait pool (x >>= f) s (C ∧ D) R' T := by
  constructor
  · rintro ⟨hC, hD⟩
    rw [ends_bind]
    refine (hx.kept hC).mono ?_ fun _ _ hk => hk.1.1.elim
    rintro a s' ⟨hperm, hR⟩
    refine ((hf a s' hR hperm).kept hD).mono ?_ ?_
    · exact fun _ _ hk => ⟨hk.1.trans hperm, hk.2⟩
    · exact fun _ _ hk => ⟨hk.1, hk.2.trans hperm⟩
  · intro hCD
    rw [ends_bind]
    by_cases hC : C
    · -- the first part kept the pool, so the second one loses some of it
      have hD : ¬D := fun hD => hCD ⟨hC, hD⟩
      refine (hx.kept hC).mono ?_ fun _ _ hk => hk.1.1.elim
      rintro a s' ⟨hperm, hR⟩
      have hlost := (hf a s' hR hperm).lost hD
      rw [hperm.length_eq] at hlost
      exact hlost
    · -- what the first part lost, the second one does not bring back
      refine (hx.lost hC).mono ?_ fun _ _ hk => hk
      intro a s' hlt
      exact (hshrink a s').mono (fun _ _ hle => Nat.lt_of_le_of_lt hle hlt)
        fun _ _ hle => Nat.lt_of_le_of_lt hle hlt

theorem Holds.shrinks (hx : Holds wait pool T x) : Shrinks pool x := fun s =>
  (hx s).mono (fun _ _ heq => Nat.le_of_eq (congrArg List.length heq))
    fun _ _ heq => Nat.le_of_eq (congrArg List.length heq.2)

theorem holds_pure (a : α) : Holds wait pool T (pure a : EStateM ε σ α) := fun _ => rfl

theorem Holds.bind (hx : Holds wait pool T x) {f : α → EStateM ε σ β}
    (hf : ∀ a, Holds wait pool T (f a)) : Holds wait pool T (x >>= f) := by
  intro s
  rw [ends_bind]
  refine (hx s).mono ?_ fun _ _ heq => heq
  intro a s' heq
  exact (hf a s').mono (fun _ _ heq' => heq'.trans heq) fun _ _ heq' => ⟨heq'.1, heq'.2.trans heq⟩

theorem Holds.ite {c : Prop} [Decidable c] {y : EStateM ε σ α} (hx : Holds wait pool T x)
    (hy : Holds wait pool T y) : Holds wait pool T (if c then x else y) := by
  intro s
  rw [ends_ite]
  exact ⟨fun _ => hx s, fun _ => hy s⟩

theorem holds_forM {f : β → EStateM ε σ PUnit} (hf : ∀ b, Holds wait pool T (f b)) :
    ∀ l : List β, Holds wait pool T (l.forM f)
  | [] => holds_pure PUnit.unit
  | b :: l => (hf b).bind fun _ => holds_forM hf l

/-- A computation that holds the pool settles at once. -/
theorem Holds.settles (hx : Holds wait pool T x) (s : σ) :
    Settles wait pool x s True (fun _ => True) T :=
  ⟨fun _ => (hx s).mono (fun _ _ heq => ⟨.of_eq heq, trivial⟩) fun _ _ heq => ⟨heq.1, .of_eq heq.2⟩,
    fun h => absurd trivial h⟩

/-- A step that returns at once and changes nothing adds no condition. -/
theorem settles_bind_ok {a : α} (hx : x s = .ok a s) {f : α → EStateM ε σ β}
    (hf : Settles wait pool (f a) s C R' T) : Settles wait pool (x >>= f) s C R' T := by
  have hends : ∀ Q E, Ends (x >>= f) s Q E ↔ Ends (f a) s Q E := by
    intro Q E
    rw [ends_bind]
    unfold Ends
    rw [hx]
  exact ⟨fun hC => (hends _ _).mpr (hf.kept hC), fun hC => (hends _ _).mpr (hf.lost hC)⟩

/-- What follows and holds the pool adds no condition. -/
theorem Settles.bind_holds (hx : Settles wait pool x s C R False) {f : α → EStateM ε σ β}
    (hf : ∀ a, Holds wait pool T (f a)) : Settles wait pool (x >>= f) s C (fun _ => True) T :=
  (hx.bind (fun a s' _ _ => (hf a).settles s') fun a => (hf a).shrinks).congr
    (Iff.of_eq (and_true C))

theorem shrinks_pure (a : α) : Shrinks pool (pure a : EStateM ε σ α) := fun _ => Nat.le_refl _

theorem Shrinks.bind (hx : Shrinks pool x) {f : α → EStateM ε σ β}
    (hf : ∀ a, Shrinks pool (f a)) : Shrinks pool (x >>= f) := by
  intro s
  rw [ends_bind]
  refine (hx s).mono ?_ fun _ _ hle => hle
  intro a s' hle
  exact (hf a s').mono (fun _ _ hle' => Nat.le_trans hle' hle) fun _ _ hle' => Nat.le_trans hle' hle

theorem Shrinks.ite {c : Prop} [Decidable c] {y : EStateM ε σ α} (hx : Shrinks pool x)
    (hy : Shrinks pool y) : Shrinks pool (if c then x else y) := by
  intro s
  rw [ends_ite]
  exact ⟨fun _ => hx s, fun _ => hy s⟩

end TinyIM.Lib.Pooled
