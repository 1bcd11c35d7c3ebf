/-
# StableSort — lists sorted by a key, with the order of equal keys kept

Two elements of the sorted list stand in the order of their keys, and in the order they had if the keys
are equal. So whether a relation holds between every element and every later one can be read off the
list before it is sorted (`pairwise_sortBy_iff`), also when one more element is put somewhere into it
(`pairwise_sortBy_insert`).
-/
import Mathlib.Data.List.Sort

namespace TinyIM.Lib.StableSort

variable {α κ : Type*} [LinearOrder κ] (key : α → κ) {l l₁ l₂ : List α} {R : α → α → Prop}

/-- Sort by the key. -/
def sortBy (l : List α) : List α := l.insertionSort fun a b => key a ≤ key b

instance key_total : Std.Total fun a b : α => key a ≤ key b := ⟨fun a b => le_total (key a) (key b)⟩

instance key_trans : IsTrans α fun a b : α => key a ≤ key b := ⟨fun _ _ _ => le_trans⟩

theorem perm_sortBy (l : List α) : (sortBy key l).Perm l := List.perm_insertionSort _ l

theorem mem_sortBy {a : α} : a ∈ sortBy key l ↔ a ∈ l := (perm_sortBy key l).mem_iff

theorem sortBy_sorted (l : List α) : (sortBy key l).Pairwise fun a b => key a ≤ key b :=
  List.pairwise_insertionSort _ l

/-- The elements with one key keep their order. -/
theorem filter_sortBy (l : List α) (k : κ) :
    (sortBy key l).filter (fun a => key a = k) = l.filter fun a => key a = k := by
  have hsame : (l.filter fun a => key a = k).Pairwise fun a b => key a ≤ key b := by
    rw [List.pairwise_filter]
    refine List.pairwise_of_forall ?_
    intro a b ha hb
    rw [of_decide_eq_true ha, of_decide_eq_true hb]
  have hsub : (l.filter fun a => key a = k).Sublist (sortBy key l) :=
    List.sublist_insertionSort hsame List.filter_sublist
  have hfilter := hsub.filter fun a => key a = k
  rw [List.filter_filter] at hfilter
  simp only [Bool.and_self] at hfilter
  exact (hfilter.eq_of_length ((perm_sortBy key l).filter _).length_eq.symm).symm

/-- Two elements with one key stand in the order they had. -/
theorem pair_sublist_sortBy {a b : α} (h : key a = key b) :
    [a, b].Sublist (sortBy key l) ↔ [a, b].Sublist l := by
  have hpair : [a, b].filter (fun c => key c = key b) = [a, b] := by
    rw [List.filter_eq_self]
    intro c hc
    rcases List.mem_pair.mp hc with rfl | rfl
    · exact decide_eq_true h
    · exact decide_eq_true rfl
  have hkeyed : ∀ l' : List α, [a, b].Sublist l' ↔
      [a, b].Sublist (l'.filter fun c => key c = key b) := by
    intro l'
    constructor
    · intro hl'
      have hfilter := hl'.filter fun c => key c = key b
      rwa [hpair] at hfilter
    · exact fun hl' => hl'.trans List.filter_sublist
  rw [hkeyed, filter_sortBy, ← hkeyed]

/-- **`pairwise_sortBy_iff`** — what holds of each element and each later one of the sorted list. -/
theorem pairwise_sortBy_iff : (sortBy key l).Pairwise R ↔
    (∀ a ∈ l, ∀ b ∈ l, key a < key b → R a b) ∧ l.Pairwise fun a b => key a = key b → R a b := by
  constructor
  · intro h
    constructor
    · intro a ha b hb hlt
      obtain ⟨i, hi, rfl⟩ := List.getElem_of_mem ((mem_sortBy key).mpr ha)
      obtain ⟨j, hj, rfl⟩ := List.getElem_of_mem ((mem_sortBy key).mpr hb)
      rcases Nat.lt_or_ge i j with hij | hij
      · exact List.pairwise_iff_getElem.mp h i j hi hj hij
      · -- the other way round the keys would be in the wrong order
        rcases Nat.lt_or_eq_of_le hij with hji | rfl
        · have hle := List.pairwise_iff_getElem.mp (sortBy_sorted key l) j i hj hi hji
          exact absurd hlt (not_lt_of_ge hle)
        · exact absurd hlt (lt_irrefl _)
    · rw [List.pairwise_iff_forall_sublist] at h ⊢
      intro a b hab heq
      exact h ((pair_sublist_sortBy key heq).mpr hab)
  · rintro ⟨hlt, heq⟩
    rw [List.pairwise_iff_forall_sublist] at heq ⊢
    intro a b hab
    have hle : key a ≤ key b := List.pairwise_iff_forall_sublist.mp (sortBy_sorted key l) hab
    rcases lt_or_eq_of_le hle with hkey | hkey
    · refine hlt a ?_ b ?_ hkey
      · exact (mem_sortBy key).mp (hab.subset List.mem_cons_self)
      · exact (mem_sortBy key).mp (hab.subset (List.mem_cons_of_mem _ List.mem_cons_self))
    · exact heq ((pair_sublist_sortBy key hkey).mp hab) hkey

/-- **`pairwise_sortBy_insert`** — one more element has to be related to each of the others, in the
order that the keys give them. -/
theorem pairwise_sortBy_insert {c : α} : (sortBy key (l₁ ++ c :: l₂)).Pairwise R ↔
    (sortBy key (l₁ ++ l₂)).Pairwise R ∧
      (∀ a ∈ l₁, (key a ≤ key c → R a c) ∧ (key c < key a → R c a)) ∧
      ∀ a ∈ l₂, (key a < key c → R a c) ∧ (key c ≤ key a → R c a) := by
  rw [pairwise_sortBy_iff, pairwise_sortBy_iff]
  simp only [List.mem_append, List.mem_cons, List.pairwise_append, List.pairwise_cons]
  constructor
  · rintro ⟨hlt, hfirst, ⟨hrest, hlast⟩, hcross⟩
    refine ⟨⟨?_, hfirst, hlast, ?_⟩, ?_, ?_⟩
    · rintro a ha b hb
      exact hlt a (ha.imp_right Or.inr) b (hb.imp_right Or.inr)
    · intro a ha b hb
      exact hcross a ha b (Or.inr hb)
    · intro a ha
      refine ⟨?_, hlt c (Or.inr (Or.inl rfl)) a (Or.inl ha)⟩
      intro hle
      rcases lt_or_eq_of_le hle with hkey | hkey
      · exact hlt a (Or.inl ha) c (Or.inr (Or.inl rfl)) hkey
      · exact hcross a ha c (Or.inl rfl) hkey
    · intro a ha
      refine ⟨hlt a (Or.inr (Or.inr ha)) c (Or.inr (Or.inl rfl)), ?_⟩
      intro hle
      rcases lt_or_eq_of_le hle with hkey | hkey
      · exact hlt c (Or.inr (Or.inl rfl)) a (Or.inr (Or.inr ha)) hkey
      · exact hrest a ha hkey
  · rintro ⟨⟨hlt, hfirst, hlast, hcross⟩, hl₁, hl₂⟩
    refine ⟨?_, hfirst, ⟨fun a ha hkey => (hl₂ a ha).2 (le_of_eq hkey), hlast⟩, ?_⟩
    · rintro a (ha | rfl | ha) b (hb | rfl | hb) hkey
      · exact hlt a (Or.inl ha) b (Or.inl hb) hkey
      · exact (hl₁ a ha).1 (le_of_lt hkey)
      · exact hlt a (Or.inl ha) b (Or.inr hb) hkey
      · exact (hl₁ b hb).2 hkey
      · exact absurd hkey (lt_irrefl _)
      · exact (hl₂ b hb).2 (le_of_lt hkey)
      · exact hlt a (Or.inr ha) b (Or.inl hb) hkey
      · exact (hl₂ a ha).1 hkey
      · exact hlt a (Or.inr ha) b (Or.inr hb) hkey
    · rintro a ha b (rfl | hb) hkey
      · exact (hl₁ a ha).1 (le_of_eq hkey)
      · exact hcross a ha b hb hkey

end TinyIM.Lib.StableSort
