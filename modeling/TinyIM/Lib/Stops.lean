/-
# Stops — postconditions of stateful computations that may stop early

`EStateM ε σ α` is the monad of a program that changes a state and may be left by an exception, with
the state changes made before the exception kept. `Ends x s Q E` says of the run of `x` from `s` that
it ends in `Q` if it returns and in `E` if it stops: the two postconditions of a Hoare triple, at a
given pre-state. The rules below follow the syntax of a `do` block, one equivalence for each way to
build a computation, so a specification is read off a program from its last statement to its first.
-/

namespace TinyIM.Lib.Stops

variable {ε σ τ α β : Type}

/-- The run of `x` from `s` returns with `Q` or stops with `E`. -/
def Ends (x : EStateM ε σ α) (s : σ) (Q : α → σ → Prop) (E : ε → σ → Prop) : Prop :=
  match x s with
  | .ok a s' => Q a s'
  | .error e s' => E e s'

/-- The state a run leaves, whether it returned or not. -/
def stateOf : EStateM.Result ε σ α → σ
  | .ok _ s => s
  | .error _ s => s

variable {x : EStateM ε σ α} {s : σ} {Q Q' : α → σ → Prop} {E E' : ε → σ → Prop}

/-- The rule of consequence. -/
theorem Ends.mono (h : Ends x s Q E) (hQ : ∀ a s', Q a s' → Q' a s')
    (hE : ∀ e s', E e s' → E' e s') : Ends x s Q' E' := by
  unfold Ends at h ⊢
  cases hx : x s with
  | ok a s' =>
      rw [hx] at h
      exact hQ a s' h
  | error e s' =>
      rw [hx] at h
      exact hE e s' h

/-- Two postconditions of one run hold together. -/
theorem Ends.and (h : Ends x s Q E) (h' : Ends x s Q' E') :
    Ends x s (fun a s' => Q a s' ∧ Q' a s') fun e s' => E e s' ∧ E' e s' := by
  unfold Ends at h h' ⊢
  cases hx : x s with
  | ok a s' =>
      rw [hx] at h h'
      exact ⟨h, h'⟩
  | error e s' =>
      rw [hx] at h h'
      exact ⟨h, h'⟩

/-- A run returns or stops. -/
theorem not_ends_false : ¬Ends x s (fun _ _ => False) fun _ _ => False := by
  unfold Ends
  cases x s with
  | ok a s' => exact id
  | error e s' => exact id

/-- A run ends the way it ends. -/
theorem ends_self : Ends x s (fun a s' => x s = .ok a s') fun e s' => x s = .error e s' := by
  unfold Ends
  cases x s with
  | ok a s' => rfl
  | error e s' => rfl

theorem ends_of_ok {a : α} {s' : σ} (hx : x s = .ok a s') : Ends x s Q E ↔ Q a s' := by
  unfold Ends
  rw [hx]

/-- The rule of sequencing. -/
@[simp] theorem ends_bind {f : α → EStateM ε σ β} {R : β → σ → Prop} :
    Ends (x >>= f) s R E ↔ Ends x s (fun a s' => Ends (f a) s' R E) E := by
  unfold Ends
  show (match EStateM.bind x f s with
    | .ok a s' => R a s'
    | .error e s' => E e s') ↔ _
  unfold EStateM.bind
  cases x s with
  | ok a s' => rfl
  | error e s' => rfl

@[simp] theorem ends_pure {a : α} : Ends (pure a) s Q E ↔ Q a s := Iff.rfl

@[simp] theorem ends_get {Q : σ → σ → Prop} : Ends get s Q E ↔ Q s s := Iff.rfl

@[simp] theorem ends_modify {f : σ → σ} {Q : PUnit → σ → Prop} :
    Ends (modify f) s Q E ↔ Q ⟨⟩ (f s) := Iff.rfl

@[simp] theorem ends_ite {c : Prop} [Decidable c] {y : EStateM ε σ α} :
    Ends (if c then x else y) s Q E ↔ (c → Ends x s Q E) ∧ (¬c → Ends y s Q E) := by
  by_cases hc : c
  · rw [if_pos hc]
    exact ⟨fun h => ⟨fun _ => h, fun hn => absurd hc hn⟩, fun h => h.1 hc⟩
  · rw [if_neg hc]
    exact ⟨fun h => ⟨fun hp => absurd hp hc, fun _ => h⟩, fun h => h.2 hc⟩

/-- A postcondition about the state alone is one about the state the run leaves. -/
theorem ends_stateOf {P : σ → Prop} :
    Ends x s (fun _ s' => P s') (fun _ s' => P s') ↔ P (stateOf (x s)) := by
  unfold Ends stateOf
  cases x s with
  | ok a s' => rfl
  | error e s' => rfl

/-- What a computation that does not stop establishes holds of the state it leaves. -/
theorem stateOf_of_ends {P : σ → Prop} (h : Ends x s (fun _ s' => P s') fun _ _ => False) :
    P (stateOf (x s)) :=
  ends_stateOf.mp (h.mono (fun _ _ hs => hs) fun _ _ hfalse => hfalse.elim)

/-- A loop over a list, when every round keeps an invariant of what is left to do. -/
theorem ends_forM {γ : Type} {f : γ → EStateM ε σ PUnit} {I : List γ → σ → Prop} {E : ε → σ → Prop}
    (hround : ∀ c l s, I (c :: l) s → Ends (f c) s (fun _ s' => I l s') E) :
    ∀ (l : List γ) (s : σ), I l s → Ends (l.forM f) s (fun _ s' => I [] s') E
  | [], _, h => h
  | c :: l, s, h => by
      show Ends (f c >>= fun _ => l.forM f) s _ E
      rw [ends_bind]
      exact (hround c l s h).mono (fun _ s' h' => ends_forM hround l s' h') fun _ _ he => he

end TinyIM.Lib.Stops
