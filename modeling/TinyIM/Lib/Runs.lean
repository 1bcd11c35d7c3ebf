/-
# Runs — event-driven machines, their runs, and the rules of induction over them

A machine is a total function `step : σ → ε → σ`: everything the environment chooses is part of the
event, so a run is a list of events and the state it reaches is a fold. Three rules cover the ways a
property of a run is established:

* `exec_preserves` — an invariant of one step holds after every run;
* `throughout_iff_stepsMeet` — when one step keeps `P` exactly if it meets a condition `C`, then `P`
  holds in every state a run visits exactly if every step of the run meets `C` where it is taken;
* `exec_history` — a relation between the events so far and the state, extended one event at a time;
  `history_iff` is its exact form.

`exec_simulates` connects two machines: a machine whose every step is some list of steps of another
one runs as that other one on the concatenated lists. `stamped` is what the events of a run output,
each output with the position of its event.
-/
import Mathlib.Data.List.Infix

namespace TinyIM.Lib.Runs

variable {σ ε τ δ : Type*}

/-- The state a run of events leads to. -/
def exec (step : σ → ε → σ) (s : σ) (es : List ε) : σ := es.foldl step s

section Machine

variable (step : σ → ε → σ)

@[simp] theorem exec_nil (s : σ) : exec step s [] = s := rfl

@[simp] theorem exec_cons (s : σ) (e : ε) (es : List ε) :
    exec step s (e :: es) = exec step (step s e) es := rfl

theorem exec_append (s : σ) (es fs : List ε) :
    exec step s (es ++ fs) = exec step (exec step s es) fs := List.foldl_append ..

@[simp] theorem exec_concat (s : σ) (es : List ε) (e : ε) :
    exec step s (es ++ [e]) = step (exec step s es) e := by
  rw [exec_append, exec_cons, exec_nil]

/-- `P` holds in every state the run visits, the first and the last included. -/
def Throughout (P : σ → Prop) (s : σ) (es : List ε) : Prop :=
  ∀ pre, pre <+: es → P (exec step s pre)

/-- Every step of the run meets `C` in the state it is taken in. -/
def StepsMeet (C : σ → ε → Prop) (s : σ) (es : List ε) : Prop :=
  ∀ pre e, pre ++ [e] <+: es → C (exec step s pre) e

variable {step}

theorem throughout_nil {P : σ → Prop} {s : σ} : Throughout step P s [] ↔ P s := by
  constructor
  · intro h
    exact h [] (List.prefix_refl _)
  · intro h pre hpre
    rw [List.prefix_nil.mp hpre]
    exact h

theorem throughout_cons {P : σ → Prop} {s : σ} {e : ε} {es : List ε} :
    Throughout step P s (e :: es) ↔ P s ∧ Throughout step P (step s e) es := by
  constructor
  · intro h
    refine ⟨h [] List.nil_prefix, ?_⟩
    intro pre hpre
    exact h (e :: pre) (List.cons_prefix_cons.mpr ⟨rfl, hpre⟩)
  · rintro ⟨hs, h⟩ pre hpre
    cases pre with
    | nil => exact hs
    | cons f pre =>
        obtain ⟨rfl, hrest⟩ := List.cons_prefix_cons.mp hpre
        exact h pre hrest

theorem Throughout.last {P : σ → Prop} {s : σ} {es : List ε} (h : Throughout step P s es) :
    P (exec step s es) := h es (List.prefix_refl _)

theorem stepsMeet_nil {C : σ → ε → Prop} {s : σ} : StepsMeet step C s [] := by
  intro pre e h
  have := h.length_le
  simp at this

theorem stepsMeet_cons {C : σ → ε → Prop} {s : σ} {e : ε} {es : List ε} :
    StepsMeet step C s (e :: es) ↔ C s e ∧ StepsMeet step C (step s e) es := by
  constructor
  · intro h
    refine ⟨h [] e (List.cons_prefix_cons.mpr ⟨rfl, List.nil_prefix⟩), ?_⟩
    intro pre f hpre
    exact h (e :: pre) f (List.cons_prefix_cons.mpr ⟨rfl, hpre⟩)
  · rintro ⟨hs, h⟩ pre f hpre
    cases pre with
    | nil =>
        obtain ⟨rfl, -⟩ := List.cons_prefix_cons.mp hpre
        exact hs
    | cons g pre =>
        obtain ⟨rfl, hrest⟩ := List.cons_prefix_cons.mp hpre
        exact h pre f hrest

/-- Whether the steps of a run meet a decidable condition can be decided. -/
instance decidableStepsMeet {C : σ → ε → Prop} [∀ s e, Decidable (C s e)] :
    ∀ (s : σ) (es : List ε), Decidable (StepsMeet step C s es)
  | _, [] => isTrue stepsMeet_nil
  | s, e :: es =>
    have : Decidable (StepsMeet step C (step s e) es) := decidableStepsMeet (step s e) es
    decidable_of_iff (C s e ∧ StepsMeet step C (step s e) es) stepsMeet_cons.symm

/-- **The invariant rule.** -/
theorem exec_preserves {I : σ → Prop} (hstep : ∀ s e, I s → I (step s e)) {s : σ} (hs : I s)
    (es : List ε) : I (exec step s es) := by
  induction es generalizing s with
  | nil => exact hs
  | cons e es ih => exact ih (hstep s e hs)

/-- The invariant rule for runs whose steps all meet a side condition. -/
theorem exec_preserves_of_stepsMeet {I : σ → Prop} {C : σ → ε → Prop}
    (hstep : ∀ s e, I s → C s e → I (step s e)) {s : σ} (hs : I s) :
    ∀ {es : List ε}, StepsMeet step C s es → I (exec step s es)
  | [], _ => hs
  | e :: es, h => by
      rw [stepsMeet_cons] at h
      exact exec_preserves_of_stepsMeet hstep (hstep s e hs h.1) h.2

/-- **The exactness rule.** If steps on events of `V` that meet `C` keep an invariant `I` that implies
`P`, and steps from `I` to `P` meet `C`, then `P` holds throughout a run of such events exactly when
every step meets `C`. -/
theorem throughout_iff_stepsMeet_kept {I P : σ → Prop} {C : σ → ε → Prop} {V : ε → Prop}
    (hP : ∀ s, I s → P s) (hkept : ∀ s e, V e → I s → C s e → I (step s e))
    (hexact : ∀ s e, V e → I s → P (step s e) → C s e) {s : σ} (hs : I s) {es : List ε}
    (hes : ∀ e ∈ es, V e) : Throughout step P s es ↔ StepsMeet step C s es := by
  induction es generalizing s with
  | nil => exact ⟨fun _ => stepsMeet_nil, fun _ => throughout_nil.mpr (hP s hs)⟩
  | cons e es ih =>
      rw [List.forall_mem_cons] at hes
      rw [throughout_cons, stepsMeet_cons]
      constructor
      · rintro ⟨-, h⟩
        have hC := hexact s e hes.1 hs (h [] List.nil_prefix)
        exact ⟨hC, (ih (hkept s e hes.1 hs hC) hes.2).mp h⟩
      · rintro ⟨hC, h⟩
        exact ⟨hP s hs, (ih (hkept s e hes.1 hs hC) hes.2).mpr h⟩

/-- The exactness rule for a property that one step keeps exactly when it meets `C`. -/
theorem throughout_iff_stepsMeet_of {I P : σ → Prop} {C : σ → ε → Prop} {V : ε → Prop}
    (hI : ∀ s e, V e → I s → I (step s e))
    (hstep : ∀ s e, V e → I s → P s → (P (step s e) ↔ C s e)) {s : σ} (hs : I s) (hP : P s)
    {es : List ε} (hes : ∀ e ∈ es, V e) : Throughout step P s es ↔ StepsMeet step C s es :=
  throughout_iff_stepsMeet_kept (I := fun s => I s ∧ P s) (fun _ h => h.2)
    (fun s e he h hC => ⟨hI s e he h.1, (hstep s e he h.1 h.2).mpr hC⟩)
    (fun s e he h => (hstep s e he h.1 h.2).mp) ⟨hs, hP⟩ hes

/-- The exactness rule for all runs. -/
theorem throughout_iff_stepsMeet {I P : σ → Prop} {C : σ → ε → Prop}
    (hI : ∀ s e, I s → I (step s e)) (hstep : ∀ s e, I s → P s → (P (step s e) ↔ C s e))
    {s : σ} (hs : I s) (hP : P s) (es : List ε) :
    Throughout step P s es ↔ StepsMeet step C s es :=
  throughout_iff_stepsMeet_of (V := fun _ => True) (fun s e _ => hI s e) (fun s e _ => hstep s e) hs hP
    fun _ _ => trivial

/-- **The history rule.** A relation between the events handled so far and the state they led to
holds of every run when it holds at the start and each further event extends it. -/
theorem exec_history {s : σ} {R : List ε → σ → Prop} (start : R [] s)
    (next : ∀ es e, R es (exec step s es) → R (es ++ [e]) (step (exec step s es) e))
    (es : List ε) : R es (exec step s es) := by
  induction es using List.reverseRecOn with
  | nil => exact start
  | append_singleton es e ih =>
      rw [exec_concat]
      exact next es e ih

end Machine

/-! ## Histories -/

/-- Some event of the history was a `P` when it was handled, and no event since was a `Q`. -/
def Since (P : List ε → ε → Prop) (Q : ε → Prop) (es : List ε) : Prop :=
  ∃ pre e rest, es = pre ++ e :: rest ∧ P pre e ∧ ∀ f ∈ rest, ¬Q f

section Since

variable {P : List ε → ε → Prop} {Q : ε → Prop}

theorem not_since_nil : ¬Since P Q [] := by
  rintro ⟨pre, e, rest, hes, -⟩
  exact absurd hes (by simp)

/-- One more event: either it is a `P` itself, or there was one and the new event does not end it. -/
theorem since_concat {es : List ε} {e : ε} :
    Since P Q (es ++ [e]) ↔ P es e ∨ Since P Q es ∧ ¬Q e := by
  constructor
  · rintro ⟨pre, e', rest, hes, hin, hrest⟩
    rcases List.eq_nil_or_concat rest with rfl | ⟨rest', f, rfl⟩
    · -- the new event is the `P`
      obtain ⟨rfl, he⟩ := List.append_inj' hes rfl
      rw [List.singleton_inj.mp he]
      exact Or.inl hin
    · -- the `P` is an earlier one, and the new event is among those after it
      rw [List.concat_eq_append, ← List.cons_append, ← List.append_assoc] at hes
      obtain ⟨rfl, hf⟩ := List.append_inj' hes rfl
      rw [List.concat_eq_append] at hrest
      rw [List.singleton_inj.mp hf]
      refine Or.inr ⟨⟨pre, e', rest', rfl, hin, ?_⟩, hrest f (by simp)⟩
      intro g hg
      exact hrest g (List.mem_append_left _ hg)
  · rintro (hin | ⟨⟨pre, e', rest, rfl, hin, hrest⟩, hout⟩)
    · exact ⟨es, e, [], rfl, hin, fun f hf => absurd hf List.not_mem_nil⟩
    · refine ⟨pre, e', rest ++ [e], by simp, hin, ?_⟩
      intro f hf
      rcases List.mem_append.mp hf with hf | hf
      · exact hrest f hf
      · rw [List.mem_singleton.mp hf]
        exact hout

end Since

section Exactness

variable {step : σ → ε → σ}

/-- **The exactness rule for histories.** If one more event extends a relation `R` between history and
state exactly when it meets `C`, then `R` holds throughout a run exactly when every event of it meets
`C`. -/
theorem history_iff {s : σ} {R : List ε → σ → Prop} {C : List ε → σ → ε → Prop} (hs : R [] s)
    (hstep : ∀ es e, R es (exec step s es) →
      (R (es ++ [e]) (step (exec step s es) e) ↔ C es (exec step s es) e)) (es : List ε) :
    (∀ pre, pre <+: es → R pre (exec step s pre)) ↔
      ∀ pre e, pre ++ [e] <+: es → C pre (exec step s pre) e := by
  constructor
  · intro h pre e hpre
    have hnext := h (pre ++ [e]) hpre
    rw [exec_concat] at hnext
    exact (hstep pre e (h pre ((List.prefix_append _ _).trans hpre))).mp hnext
  · intro h pre
    induction pre using List.reverseRecOn with
    | nil => exact fun _ => hs
    | append_singleton pre e ih =>
        intro hpre
        rw [exec_concat]
        exact (hstep pre e (ih ((List.prefix_append _ _).trans hpre))).mpr (h pre e hpre)

end Exactness

/-! ## Simulation -/

section Simulation

variable (step : σ → ε → σ) (emit : σ → ε → List δ)

/-- The events of the simulated machine along a run of the simulating one. -/
def emitted : σ → List ε → List δ
  | _, [] => []
  | s, e :: es => emit s e ++ emitted (step s e) es

variable {step emit}

theorem emitted_append (s : σ) (es fs : List ε) : emitted step emit s (es ++ fs) =
    emitted step emit s es ++ emitted step emit (exec step s es) fs := by
  induction es generalizing s with
  | nil => rfl
  | cons e es ih => rw [List.cons_append, emitted, emitted, ih, exec_cons, List.append_assoc]

theorem emitted_concat (s : σ) (es : List ε) (e : ε) :
    emitted step emit s (es ++ [e]) = emitted step emit s es ++ emit (exec step s es) e := by
  rw [emitted_append, emitted, emitted, List.append_nil]

/-- Steps that emit nothing together emit nothing. -/
theorem emitted_eq_nil {C : σ → ε → Prop} (h : ∀ s e, C s e → emit s e = []) {s : σ} {es : List ε}
    (hes : StepsMeet step C s es) : emitted step emit s es = [] := by
  induction es generalizing s with
  | nil => rfl
  | cons e es ih =>
      rw [stepsMeet_cons] at hes
      rw [emitted, h s e hes.1, ih hes.2]
      rfl

/-- All outputs of a run have a property exactly if those of each step do. -/
theorem forall_emitted_iff {P : δ → Prop} {s : σ} {es : List ε} :
    (∀ d ∈ emitted step emit s es, P d) ↔ StepsMeet step (fun s e => ∀ d ∈ emit s e, P d) s es := by
  induction es generalizing s with
  | nil => exact iff_of_true (fun d hd => absurd hd List.not_mem_nil) stepsMeet_nil
  | cons e es ih =>
      rw [stepsMeet_cons, emitted, List.forall_mem_append, ih]

/-- Outputs that are outputs of another machine on the images of the events. -/
theorem map_emitted {ε' δ' : Type*} {f : ε' → ε} {g : δ' → δ} {emit' : σ → ε' → List δ'}
    (h : ∀ s e, (emit' s e).map g = emit s (f e)) (s : σ) (es : List ε') :
    (emitted (fun s e => step s (f e)) emit' s es).map g = emitted step emit s (es.map f) := by
  induction es generalizing s with
  | nil => rfl
  | cons e es ih => rw [emitted, List.map_append, h, ih, List.map_cons, emitted]

/-- **`exec_simulates`** — if each step on an event of `V` is, through `abs`, the steps `emit` names,
then so is each run of such events. -/
theorem exec_simulates {V : ε → Prop} {step' : τ → δ → τ} {abs : σ → τ}
    (h : ∀ s e, V e → abs (step s e) = exec step' (abs s) (emit s e)) (s : σ) (es : List ε)
    (hes : ∀ e ∈ es, V e) : abs (exec step s es) = exec step' (abs s) (emitted step emit s es) := by
  induction es generalizing s with
  | nil => rfl
  | cons e es ih =>
      rw [List.forall_mem_cons] at hes
      rw [exec_cons, ih _ hes.2, h s e hes.1, emitted, exec_append]

end Simulation

/-! ## Progress -/

section Progress

variable {step : σ → ε → σ} {I : σ → Prop} {C : σ → ε → Prop} {rank : σ → Nat}

/-- If the steps of `C` lower a rank, there are at most as many of them as the rank says. -/
theorem length_le_rank (hI : ∀ s e, I s → C s e → I (step s e))
    (hrank : ∀ s e, I s → C s e → rank (step s e) < rank s) {s : σ} (hs : I s) {es : List ε}
    (hes : StepsMeet step C s es) : es.length ≤ rank s := by
  induction es generalizing s with
  | nil => exact Nat.zero_le _
  | cons e es ih =>
      rw [stepsMeet_cons] at hes
      have hrest := ih (hI s e hs hes.1) hes.2
      have hlower := hrank s e hs hes.1
      rw [List.length_cons]
      omega

/-- From every state some steps of `C` lead to one in which there is none left. -/
theorem exists_stepsMeet_of_rank (hI : ∀ s e, I s → C s e → I (step s e))
    (hrank : ∀ s e, I s → C s e → rank (step s e) < rank s) {s : σ} (hs : I s) :
    ∃ es, StepsMeet step C s es ∧ ∀ e, ¬C (exec step s es) e := by
  induction hn : rank s using Nat.strong_induction_on generalizing s with
  | h n ih =>
      by_cases hnext : ∃ e, C s e
      · obtain ⟨e, he⟩ := hnext
        obtain ⟨es, hes, hstuck⟩ := ih _ (hn ▸ hrank s e hs he) (hI s e hs he) rfl
        exact ⟨e :: es, stepsMeet_cons.mpr ⟨he, hes⟩, hstuck⟩
      · exact ⟨[], stepsMeet_nil, fun e he => hnext ⟨e, he⟩⟩

end Progress

/-! ## Outputs and the positions they come from -/

section Outputs

variable (step : σ → ε → σ) (emit : σ → ε → List δ) (s : σ)

/-- What the event at a position of a run outputs. -/
def outputAt (es : List ε) (k : Nat) : List δ :=
  (es[k]?).elim [] fun e => emit (exec step s (es.take k)) e

/-- The outputs of a run in order, each with the position of its event. -/
def stamped (es : List ε) : List (Nat × δ) :=
  (List.range es.length).flatMap fun k => (outputAt step emit s es k).map fun d => (k, d)

variable {step emit s}

theorem outputAt_concat_of_lt {es : List ε} {e : ε} {k : Nat} (hk : k < es.length) :
    outputAt step emit s (es ++ [e]) k = outputAt step emit s es k := by
  unfold outputAt
  rw [List.getElem?_append_left hk, List.take_append_of_le_length (Nat.le_of_lt hk)]

theorem outputAt_concat_self (es : List ε) (e : ε) :
    outputAt step emit s (es ++ [e]) es.length = emit (exec step s es) e := by
  unfold outputAt
  rw [List.getElem?_concat_length, List.take_left, Option.elim_some]

/-- One more event: its outputs come last, with its position. -/
theorem stamped_concat (es : List ε) (e : ε) : stamped step emit s (es ++ [e]) =
    stamped step emit s es ++ (emit (exec step s es) e).map fun d => (es.length, d) := by
  unfold stamped
  rw [List.length_append, List.length_singleton, List.range_succ, List.flatMap_append,
    List.flatMap_singleton, outputAt_concat_self]
  congr 1
  apply List.flatMap_congr
  intro k hk
  rw [outputAt_concat_of_lt (List.mem_range.mp hk)]

theorem mem_stamped {es : List ε} {k : Nat} {d : δ} :
    (k, d) ∈ stamped step emit s es ↔ k < es.length ∧ d ∈ outputAt step emit s es k := by
  simp only [stamped, List.mem_flatMap, List.mem_range, List.mem_map, Prod.mk.injEq]
  constructor
  · rintro ⟨k', hk', d', hd', rfl, rfl⟩
    exact ⟨hk', hd'⟩
  · rintro ⟨hk, hd⟩
    exact ⟨k, hk, d, hd, rfl, rfl⟩

/-- The outputs stand in the order of their events. -/
theorem stamped_sorted (es : List ε) :
    (stamped step emit s es).Pairwise fun a b => a.1 ≤ b.1 := by
  induction es using List.reverseRecOn with
  | nil => exact List.Pairwise.nil
  | append_singleton es e ih =>
      rw [stamped_concat, List.pairwise_append]
      refine ⟨ih, ?_, ?_⟩
      · rw [List.pairwise_map]
        exact List.pairwise_of_forall fun _ _ => Nat.le_refl _
      · rintro ⟨k, d⟩ hk b hb
        obtain ⟨d', -, rfl⟩ := List.mem_map.mp hb
        exact Nat.le_of_lt (mem_stamped.mp hk).1

/-- Of two outputs from different events, the one from the earlier event comes first. -/
theorem lt_iff_of_stamped {es : List ε} {p q i j : Nat} {a b : δ}
    (hp : (stamped step emit s es)[p]? = some (i, a)) (hq : (stamped step emit s es)[q]? = some (j, b))
    (hne : i ≠ j) : p < q ↔ i < j := by
  obtain ⟨hp, hp'⟩ := List.getElem?_eq_some_iff.mp hp
  obtain ⟨hq, hq'⟩ := List.getElem?_eq_some_iff.mp hq
  have hstamped : (stamped step emit s es).Pairwise fun a b => a.1 ≤ b.1 := stamped_sorted es
  have hsorted := List.pairwise_iff_getElem.mp hstamped
  constructor
  · intro hlt
    have hle := hsorted p q hp hq hlt
    rw [hp', hq'] at hle
    exact Nat.lt_of_le_of_ne hle hne
  · intro hlt
    by_contra hge
    rcases Nat.lt_or_eq_of_le (Nat.le_of_not_lt hge) with hgt | heq
    · have hle := hsorted q p hq hp hgt
      rw [hp', hq'] at hle
      exact Nat.lt_irrefl _ (Nat.lt_of_lt_of_le hlt hle)
    · subst heq
      rw [hq'] at hp'
      exact hne (Prod.mk.inj hp').1.symm

end Outputs

end TinyIM.Lib.Runs
