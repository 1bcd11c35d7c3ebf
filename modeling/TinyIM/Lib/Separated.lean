/-
# Separated — lists as pieces between occurrences of a separator

A list falls into pieces at the occurrences of another one, the separator. For a separator no two
occurrences of which can overlap there is one way to take a list apart so that no piece contains the
separator (`pieces_unique`), and it is the way a search from the left finds (`find_append`).
`weave` puts pieces together again, with anything between them.
-/
import Mathlib.Data.List.Basic

namespace TinyIM.Lib.Separated

variable {α : Type*} {sep p q r s : List α} {ps qs fillers : List (List α)}

/-! ## Pieces and what stands between them -/

/-- A piece, and after it the other ones, each with a filler in front. -/
def weave (p : List α) (ps fillers : List (List α)) : List α :=
  p ++ (List.zipWith (· ++ ·) fillers ps).flatten

@[simp] theorem weave_nil : weave p [] fillers = p := by
  rw [weave, List.zipWith_nil_right, List.flatten_nil, List.append_nil]

@[simp] theorem weave_cons {f : List α} :
    weave p (q :: ps) (f :: fillers) = p ++ (f ++ weave q ps fillers) := by
  rw [weave, weave, List.zipWith_cons_cons, List.flatten_cons, List.append_assoc]

/-- The list is these pieces with the separator between them, and no piece contains it. -/
structure Pieces (sep : List α) (p : List α) (ps : List (List α)) (s : List α) : Prop where
  head : ¬sep <:+: p
  tail : ∀ q ∈ ps, ¬sep <:+: q
  weave_eq : weave p ps (List.replicate ps.length sep) = s

theorem Pieces.of_cons (h : Pieces sep p (q :: ps) s) :
    Pieces sep q ps (weave q ps (List.replicate ps.length sep)) ∧
      p ++ (sep ++ weave q ps (List.replicate ps.length sep)) = s := by
  have htail := List.forall_mem_cons.mp h.tail
  have hs := h.weave_eq
  rw [List.length_cons, List.replicate_succ, weave_cons] at hs
  exact ⟨⟨htail.1, htail.2, rfl⟩, hs⟩

theorem Pieces.cons (hp : ¬sep <:+: p) (h : Pieces sep q ps s) :
    Pieces sep p (q :: ps) (p ++ (sep ++ s)) := by
  refine ⟨hp, List.forall_mem_cons.mpr ⟨h.head, h.tail⟩, ?_⟩
  rw [List.length_cons, List.replicate_succ, weave_cons, h.weave_eq]

/-! ## The search for the separator -/

section Find

variable [DecidableEq α]

/-- The position of the first occurrence. -/
def find (sep : List α) : List α → Option Nat
  | [] => if sep = [] then some 0 else none
  | a :: s => if sep <+: a :: s then some 0 else (find sep s).map (· + 1)

theorem find_eq_none : find sep s = none ↔ ¬sep <:+: s := by
  induction s with
  | nil =>
      rw [find, List.infix_nil]
      by_cases hsep : sep = []
      · simp only [hsep, if_pos, reduceCtorEq, not_true_eq_false]
      · simp only [hsep, if_neg, not_false_eq_true]
  | cons a s ih =>
      rw [find, List.infix_cons_iff]
      by_cases hpre : sep <+: a :: s
      · simp only [hpre, if_pos, reduceCtorEq, true_or, not_true_eq_false]
      · simp only [hpre, if_neg, not_false_eq_true, Option.map_eq_none_iff, ih, false_or]

/-- What stands before the first occurrence contains none. -/
theorem find_eq_some (hsep : sep ≠ []) :
    ∀ {s : List α} {n : Nat}, find sep s = some n →
      s = s.take n ++ (sep ++ s.drop (n + sep.length)) ∧ ¬sep <:+: s.take n
  | [], n, h => by
      rw [find, if_neg hsep] at h
      cases h
  | a :: s, n, h => by
      rw [find] at h
      by_cases hpre : sep <+: a :: s
      · rw [if_pos hpre] at h
        obtain rfl := Option.some.inj h
        obtain ⟨t, ht⟩ := hpre
        rw [List.take_zero, List.nil_append, Nat.zero_add, ← ht, List.drop_left, List.infix_nil]
        exact ⟨rfl, hsep⟩
      · rw [if_neg hpre, Option.map_eq_some_iff] at h
        obtain ⟨m, hm, rfl⟩ := h
        obtain ⟨hs, hfree⟩ := find_eq_some hsep hm
        rw [List.take_succ_cons, Nat.succ_add, List.drop_succ_cons, List.cons_append, ← hs]
        refine ⟨rfl, ?_⟩
        -- an occurrence before the first one would start at the head
        rw [List.infix_cons_iff]
        rintro (hhead | hrest)
        · exact hpre (hhead.trans ((List.prefix_cons_inj a).mpr (List.take_prefix m s)))
        · exact hfree hrest

end Find

/-! ## Separators that do not overlap -/

/-- No two occurrences overlap: nothing but the whole is both a beginning and an end of it. -/
def Unbordered (sep : List α) : Prop := ∀ t, t ≠ [] → t <+: sep → t <:+ sep → t = sep

/-- An occurrence of the separator does not start in a piece that contains none. -/
theorem not_prefix_append {a : α} (hsep : Unbordered sep) (hp : ¬sep <:+: a :: p) :
    ¬sep <+: a :: p ++ (sep ++ r) := by
  intro hpre
  rcases Nat.lt_or_ge (a :: p).length sep.length with hlt | hge
  · -- the piece ends inside the occurrence, and the rest of it starts the next one
    obtain ⟨t, ht⟩ :=
      List.prefix_of_prefix_length_le (List.prefix_append _ _) hpre (Nat.le_of_lt hlt)
    obtain ⟨u, hu⟩ := hpre
    rw [← ht, List.append_assoc, List.append_cancel_left_eq] at hu
    have htsep : t <+: sep := by
      refine List.prefix_of_prefix_length_le ⟨u, hu⟩ ?_ ?_
      · rw [ht]
        exact List.prefix_append _ _
      · rw [← ht, List.length_append]
        exact Nat.le_add_left _ _
    have hne : t ≠ [] := by
      rintro rfl
      rw [List.append_nil] at ht
      rw [ht] at hlt
      exact Nat.lt_irrefl _ hlt
    have hall : t = sep := hsep t hne htsep ⟨a :: p, ht⟩
    rw [hall] at ht
    have hlength := congrArg List.length ht
    rw [List.length_append, List.length_cons] at hlength
    omega
  · exact hp (List.prefix_of_prefix_length_le hpre (List.prefix_append _ _) hge).isInfix

/-- **`find_append`** — the first occurrence is where the first piece ends. -/
theorem find_append [DecidableEq α] (hsep : Unbordered sep) :
    ∀ {p : List α}, ¬sep <:+: p → find sep (p ++ (sep ++ r)) = some p.length
  | [], hp => by
      cases sep with
      | nil => exact absurd List.nil_infix hp
      | cons a sep =>
          rw [List.nil_append, List.cons_append, find, if_pos]
          · rfl
          · exact List.prefix_append (a :: sep) r
  | a :: p, hp => by
      have hrest : ¬sep <:+: p := fun h => hp (List.infix_cons h)
      have hhead := not_prefix_append (r := r) hsep hp
      rw [List.cons_append] at hhead ⊢
      rw [find, if_neg hhead, find_append hsep hrest]
      rfl

theorem Pieces.find_of_nil [DecidableEq α] (h : Pieces sep p [] s) : find sep s = none := by
  rw [← h.weave_eq, weave_nil]
  exact find_eq_none.mpr h.head

theorem Pieces.find_of_cons [DecidableEq α] (hsep : Unbordered sep) (h : Pieces sep p (q :: ps) s) :
    find sep s = some p.length := by
  rw [← h.of_cons.2]
  exact find_append hsep h.head

/-- **`exists_pieces`** — every list falls into pieces. -/
theorem exists_pieces (hsep : sep ≠ []) (s : List α) : ∃ p ps, Pieces sep p ps s := by
  classical
  induction hn : s.length using Nat.strongRecOn generalizing s with
  | _ n ih =>
      cases hfind : find sep s with
      | none =>
          exact ⟨s, [], find_eq_none.mp hfind, fun q hq => absurd hq List.not_mem_nil, weave_nil⟩
      | some i =>
          obtain ⟨hs, hfree⟩ := find_eq_some hsep hfind
          have hpos := List.length_pos_iff.mpr hsep
          have hshort : (s.drop (i + sep.length)).length < n := by
            have hlength := congrArg List.length hs
            rw [List.length_append, List.length_append] at hlength
            omega
          obtain ⟨q, ps, hrest⟩ := ih _ hshort _ rfl
          refine ⟨s.take i, q :: ps, ?_⟩
          have hall := hrest.cons hfree
          rw [← hs] at hall
          exact hall

/-- **`pieces_unique`** — and in one way only. -/
theorem pieces_unique (hsep : Unbordered sep) (h : Pieces sep p ps s) (h' : Pieces sep q qs s) :
    p = q ∧ ps = qs := by
  classical
  induction ps generalizing p q qs s with
  | nil =>
      cases qs with
      | nil =>
          refine ⟨?_, rfl⟩
          rw [← weave_nil (p := p), h.weave_eq, ← h'.weave_eq, weave_nil]
      | cons q' qs =>
          cases h.find_of_nil.symm.trans (h'.find_of_cons hsep)
  | cons p' ps ih =>
      cases qs with
      | nil => cases h'.find_of_nil.symm.trans (h.find_of_cons hsep)
      | cons q' qs =>
          have hlength : p.length = q.length :=
            Option.some.inj ((h.find_of_cons hsep).symm.trans (h'.find_of_cons hsep))
          obtain ⟨hp, hs⟩ := h.of_cons
          obtain ⟨hq, hs'⟩ := h'.of_cons
          obtain ⟨rfl, hrest⟩ := List.append_inj (hs.trans hs'.symm) hlength
          rw [← List.append_cancel_left hrest] at hq
          obtain ⟨rfl, rfl⟩ := ih hp hq
          exact ⟨rfl, rfl⟩

end TinyIM.Lib.Separated
