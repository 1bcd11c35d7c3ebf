/-
# Table — keyed tables, auto-increment tables, and the cursor that reads a result

A relational table is a list of rows; what makes it a table is the constraint on its keys. `Keyed`
carries a primary key as a field, so a table with two rows of one key cannot be built and the
statements that write it prove once that they keep it. `Serial` carries an `AUTOINCREMENT` column the
same way: ids ascend, start above zero, and never exceed the counter the next insert takes its id
from.

As a set of rows a keyed table is the map from its keys to their rows (`sameRows_iff`), and each write
says what it does to that map key by key (`lookup_insertOrIgnore`, `lookup_updateWhere`,
`lookup_deleteWhere`): two writes that touch different keys commute because of nothing else.

The second half is what a client sees of a `SELECT` without `ORDER BY`: the rows in an order of the
engine's choosing (`reorder`, every permutation is one), handed out one by one until the rows or the
engine give out (`fetch`). `mem_pairUp_iff` says when two columns that were read apart pair up.
-/
import Mathlib.Data.List.Nodup
import Mathlib.Data.List.GetD
import Mathlib.Data.List.Permutation

namespace TinyIM.Lib.Table

variable {Row Key : Type*} {key : Row → Key}

/-! ## Tables with a primary key -/

/-- A table whose rows have pairwise different keys. -/
@[ext]
structure Keyed (Row : Type*) {Key : Type*} (key : Row → Key) where
  rows : List Row
  unique : (rows.map key).Nodup

namespace Keyed

/-- The table with no rows. -/
def empty : Keyed Row key := ⟨[], List.nodup_nil⟩

@[simp] theorem rows_empty : (empty : Keyed Row key).rows = [] := rfl

/-- A key names at most one row. -/
theorem eq_of_key_eq (t : Keyed Row key) {r r' : Row} (hr : r ∈ t.rows) (hr' : r' ∈ t.rows)
    (h : key r = key r') : r = r' := List.inj_on_of_nodup_map t.unique hr hr' h

/-- A key selects at most one row. -/
theorem length_filter_key_le_one [DecidableEq Key] (t : Keyed Row key) (k : Key) :
    (t.rows.filter fun r => key r = k).length ≤ 1 := by
  have hcount := List.nodup_iff_count_le_one.mp t.unique k
  rw [List.count, List.countP_map, List.countP_eq_length_filter] at hcount
  have hsame : (t.rows.filter fun r => key r = k) = t.rows.filter ((· == k) ∘ key) := by
    apply List.filter_congr
    intro r _
    rw [Bool.eq_iff_iff, decide_eq_true_eq, Function.comp_apply, beq_iff_eq]
  rw [hsame]
  exact hcount

section Insert

variable [DecidableEq Key]

/-- `INSERT`: one more row, or `none` when its key is taken. -/
def insert (t : Keyed Row key) (r : Row) : Option (Keyed Row key) :=
  if h : key r ∈ t.rows.map key then none
  else some ⟨t.rows ++ [r], by
    rw [List.map_append, List.nodup_append]
    refine ⟨t.unique, by simp, ?_⟩
    intro k hk k' hk'
    rw [List.map_singleton, List.mem_singleton] at hk'
    rintro rfl
    exact h (hk' ▸ hk)⟩

theorem insert_eq_some {t t' : Keyed Row key} {r : Row} (h : t.insert r = some t') :
    key r ∉ t.rows.map key ∧ t'.rows = t.rows ++ [r] := by
  unfold insert at h
  split at h
  · cases h
  · rename_i hk
    exact ⟨hk, by rw [← Option.some.inj h]⟩

theorem insert_eq_none {t : Keyed Row key} {r : Row} :
    t.insert r = none ↔ ∃ x ∈ t.rows, key x = key r := by
  unfold insert
  split
  · rename_i h
    exact ⟨fun _ => List.mem_map.mp h, fun _ => rfl⟩
  · rename_i h
    exact ⟨fun h' => (Option.some_ne_none _ h').elim, fun h' => absurd (List.mem_map.mpr h') h⟩

/-- `INSERT OR IGNORE`: a row whose key is taken is left out. -/
def insertOrIgnore (t : Keyed Row key) (r : Row) : Keyed Row key := (t.insert r).getD t

theorem mem_insertOrIgnore {t : Keyed Row key} {r x : Row} :
    x ∈ (t.insertOrIgnore r).rows ↔ x ∈ t.rows ∨ (x = r ∧ ∀ y ∈ t.rows, key y ≠ key r) := by
  unfold insertOrIgnore
  cases h : t.insert r with
  | none =>
      obtain ⟨y, hy, hk⟩ := insert_eq_none.mp h
      constructor
      · exact Or.inl
      · rintro (hx | ⟨-, hfree⟩)
        · exact hx
        · exact absurd hk (hfree y hy)
  | some t' =>
      obtain ⟨hk, hrows⟩ := insert_eq_some h
      rw [Option.getD_some, hrows, List.mem_append, List.mem_singleton]
      refine or_congr_right ⟨fun hx => ⟨hx, ?_⟩, fun hx => hx.1⟩
      intro y hy heq
      exact hk (heq ▸ List.mem_map_of_mem hy)

/-- An `INSERT OR IGNORE` leaves the table as it is exactly if the key is taken. -/
theorem insertOrIgnore_eq_self {t : Keyed Row key} {r : Row} :
    t.insertOrIgnore r = t ↔ ∃ x ∈ t.rows, key x = key r := by
  constructor
  · intro h
    have hr : r ∈ (t.insertOrIgnore r).rows ∨ ∃ x ∈ t.rows, key x = key r := by
      rw [mem_insertOrIgnore]
      by_cases htaken : ∃ x ∈ t.rows, key x = key r
      · exact Or.inr htaken
      · exact Or.inl (Or.inr ⟨rfl, fun y hy hk => htaken ⟨y, hy, hk⟩⟩)
    rw [h] at hr
    exact hr.elim (fun hr => ⟨r, hr, rfl⟩) id
  · intro h
    rw [insertOrIgnore, insert_eq_none.mpr h, Option.getD_none]

end Insert

/-- `UPDATE … WHERE`, of columns outside the key. -/
def updateWhere (t : Keyed Row key) (p : Row → Bool) (f : Row → Row)
    (hf : ∀ r, key (f r) = key r) : Keyed Row key :=
  ⟨t.rows.map fun r => if p r then f r else r, by
    have hkeys : (t.rows.map fun r => if p r then f r else r).map key = t.rows.map key := by
      rw [List.map_map]
      apply List.map_congr_left
      intro r _
      simp only [Function.comp_apply]
      split
      · exact hf r
      · rfl
    rw [hkeys]
    exact t.unique⟩

theorem mem_updateWhere {t : Keyed Row key} {p : Row → Bool} {f : Row → Row}
    (hf : ∀ r, key (f r) = key r) {x : Row} :
    x ∈ (t.updateWhere p f hf).rows ↔ ∃ r ∈ t.rows, x = if p r then f r else r := by
  simp only [updateWhere, List.mem_map, eq_comm]

/-- `DELETE … WHERE`. -/
def deleteWhere (t : Keyed Row key) (p : Row → Bool) : Keyed Row key :=
  ⟨t.rows.filter fun r => !p r, (List.filter_sublist.map key).nodup t.unique⟩

theorem mem_deleteWhere {t : Keyed Row key} {p : Row → Bool} {x : Row} :
    x ∈ (t.deleteWhere p).rows ↔ x ∈ t.rows ∧ p x = false := by
  simp only [deleteWhere, List.mem_filter, Bool.not_eq_true']

/-! ### A keyed table as a map -/

section Lookup

variable [DecidableEq Key] {t t' : Keyed Row key} {k : Key} {r : Row}

/-- The row of a key. -/
def lookup (t : Keyed Row key) (k : Key) : Option Row := t.rows.find? fun r => key r = k

theorem lookup_eq_some : t.lookup k = some r ↔ r ∈ t.rows ∧ key r = k := by
  unfold lookup
  constructor
  · intro h
    have hk := List.find?_some h
    exact ⟨List.mem_of_find?_eq_some h, of_decide_eq_true hk⟩
  · rintro ⟨hr, hk⟩
    cases hfind : t.rows.find? fun r => key r = k with
    | none => exact absurd (decide_eq_true hk) (List.find?_eq_none.mp hfind r hr)
    | some r' =>
        have hk' := List.find?_some hfind
        rw [t.eq_of_key_eq hr (List.mem_of_find?_eq_some hfind) (hk.trans (of_decide_eq_true hk').symm)]

theorem lookup_eq_none : t.lookup k = none ↔ ∀ r ∈ t.rows, key r ≠ k := by
  simp only [lookup, List.find?_eq_none, decide_eq_true_eq, ne_eq]

/-- The rows of a key are the one that is looked up. -/
theorem filter_key (t : Keyed Row key) (k : Key) :
    t.rows.filter (fun r => key r = k) = (t.lookup k).toList := by
  have hhead : (t.rows.filter fun r => key r = k).head? = t.lookup k := List.head?_filter
  have hlength := t.length_filter_key_le_one k
  cases hrows : t.rows.filter fun r => key r = k with
  | nil =>
      rw [hrows] at hhead
      rw [← hhead]
      rfl
  | cons r rest =>
      rw [hrows] at hhead hlength
      have hrest : rest = [] := List.length_eq_zero_iff.mp (Nat.le_zero.mp (Nat.le_of_succ_le_succ hlength))
      rw [← hhead, hrest]
      rfl

/-- The two tables hold the same rows. -/
def SameRows (t t' : Keyed Row key) : Prop := ∀ r, r ∈ t.rows ↔ r ∈ t'.rows

/-- **`sameRows_iff`** — as a set of rows, a table is the map from its keys to their rows. -/
theorem sameRows_iff : SameRows t t' ↔ ∀ k, t.lookup k = t'.lookup k := by
  constructor
  · intro h k
    refine Option.ext fun r => ?_
    rw [lookup_eq_some, lookup_eq_some, h r]
  · intro h r
    have hr : ∀ t : Keyed Row key, r ∈ t.rows ↔ t.lookup (key r) = some r := fun t => by
      rw [lookup_eq_some, and_iff_left rfl]
    rw [hr, hr, h]

/-- An `INSERT OR IGNORE` fills the key of its row, if it is free. -/
theorem lookup_insertOrIgnore : (t.insertOrIgnore r).lookup k =
    if key r = k then (t.lookup k).or (some r) else t.lookup k := by
  refine Option.ext fun x => ?_
  rw [lookup_eq_some, mem_insertOrIgnore]
  split
  · rename_i hk
    rw [Option.or_eq_some_iff, lookup_eq_some, lookup_eq_none, Option.some.injEq, hk]
    constructor
    · rintro ⟨hx | ⟨rfl, hfree⟩, hxk⟩
      · exact Or.inl ⟨hx, hxk⟩
      · exact Or.inr ⟨hfree, rfl⟩
    · rintro (⟨hx, hxk⟩ | ⟨hfree, rfl⟩)
      · exact ⟨Or.inl hx, hxk⟩
      · exact ⟨Or.inr ⟨rfl, hfree⟩, hk⟩
  · rename_i hk
    rw [lookup_eq_some]
    refine and_congr_left fun hxk => or_iff_left ?_
    rintro ⟨rfl, -⟩
    exact hk hxk

variable {p : Row → Bool} {q : Key → Prop} [DecidablePred q]

/-- An `UPDATE` whose condition reads the key alone changes the rows of the keys that meet it. -/
theorem lookup_updateWhere (hp : ∀ r, p r = true ↔ q (key r)) {f : Row → Row}
    (hf : ∀ r, key (f r) = key r) : (t.updateWhere p f hf).lookup k =
      if q k then (t.lookup k).map f else t.lookup k := by
  refine Option.ext fun x => ?_
  rw [lookup_eq_some, mem_updateWhere]
  split
  · rename_i hk
    rw [Option.map_eq_some_iff]
    constructor
    · rintro ⟨⟨r, hr, rfl⟩, hxk⟩
      by_cases hpr : p r = true
      · rw [if_pos hpr] at hxk ⊢
        exact ⟨r, lookup_eq_some.mpr ⟨hr, (hf r).symm.trans hxk⟩, rfl⟩
      · rw [if_neg hpr] at hxk
        exact absurd ((hp r).mpr (hxk ▸ hk)) hpr
    · rintro ⟨r, hr, rfl⟩
      obtain ⟨hmem, rfl⟩ := lookup_eq_some.mp hr
      exact ⟨⟨r, hmem, (if_pos ((hp r).mpr hk)).symm⟩, hf r⟩
  · rename_i hk
    rw [lookup_eq_some]
    constructor
    · rintro ⟨⟨r, hr, rfl⟩, hxk⟩
      by_cases hpr : p r = true
      · rw [if_pos hpr, hf] at hxk
        exact absurd (hxk ▸ (hp r).mp hpr) hk
      · rw [if_neg hpr] at hxk ⊢
        exact ⟨hr, hxk⟩
    · rintro ⟨hx, rfl⟩
      exact ⟨⟨x, hx, (if_neg (mt (hp x).mp hk)).symm⟩, rfl⟩

/-- A `DELETE` whose condition reads the key alone empties the keys that meet it. -/
theorem lookup_deleteWhere (hp : ∀ r, p r = true ↔ q (key r)) : (t.deleteWhere p).lookup k =
    if q k then none else t.lookup k := by
  refine Option.ext fun x => ?_
  rw [lookup_eq_some, mem_deleteWhere, ← Bool.not_eq_true, hp]
  split
  · rename_i hk
    refine iff_of_false ?_ (Option.some_ne_none _).symm
    rintro ⟨⟨-, hnot⟩, rfl⟩
    exact hnot hk
  · rename_i hk
    rw [lookup_eq_some]
    constructor
    · rintro ⟨⟨hx, -⟩, hxk⟩
      exact ⟨hx, hxk⟩
    · rintro ⟨hx, rfl⟩
      exact ⟨⟨hx, hk⟩, rfl⟩

end Lookup

end Keyed

/-! ## Tables with an auto-increment id -/

/-- A table whose integer ids were drawn from a counter that only goes up. -/
@[ext]
structure Serial (Row : Type*) (id : Row → Nat) where
  rows : List Row
  /-- The largest id drawn so far. -/
  last : Nat
  ascending : rows.Pairwise fun r r' => id r < id r'
  bounded : ∀ r ∈ rows, 0 < id r ∧ id r ≤ last

namespace Serial

variable {id : Row → Nat}

/-- The table with no rows, before the first id is drawn. -/
def empty : Serial Row id := ⟨[], 0, List.Pairwise.nil, by simp⟩

@[simp] theorem rows_empty : (empty : Serial Row id).rows = [] := rfl

@[simp] theorem last_empty : (empty : Serial Row id).last = 0 := rfl

/-- An id names at most one row. -/
theorem eq_of_id_eq (t : Serial Row id) {r r' : Row} (hr : r ∈ t.rows) (hr' : r' ∈ t.rows)
    (h : id r = id r') : r = r' := by
  have hnodup : (t.rows.map id).Nodup := List.pairwise_map.mpr (t.ascending.imp Nat.ne_of_lt)
  exact List.inj_on_of_nodup_map hnodup hr hr' h

/-- `INSERT` without an id: the row takes the next one. -/
def append (t : Serial Row id) (mk : Nat → Row) (hmk : ∀ n, id (mk n) = n) : Serial Row id where
  rows := t.rows ++ [mk (t.last + 1)]
  last := t.last + 1
  ascending := by
    rw [List.pairwise_append]
    refine ⟨t.ascending, List.pairwise_singleton _ _, ?_⟩
    intro r hr r' hr'
    rw [List.mem_singleton.mp hr', hmk]
    have := (t.bounded r hr).2
    omega
  bounded := by
    intro r hr
    rcases List.mem_append.mp hr with hr | hr
    · have := t.bounded r hr
      omega
    · rw [List.mem_singleton.mp hr, hmk]
      omega

@[simp] theorem rows_append (t : Serial Row id) (mk : Nat → Row) (hmk : ∀ n, id (mk n) = n) :
    (t.append mk hmk).rows = t.rows ++ [mk (t.last + 1)] := rfl

@[simp] theorem last_append (t : Serial Row id) (mk : Nat → Row) (hmk : ∀ n, id (mk n) = n) :
    (t.append mk hmk).last = t.last + 1 := rfl

/-- `DELETE … WHERE`; the counter stays. -/
def deleteWhere (t : Serial Row id) (p : Row → Bool) : Serial Row id where
  rows := t.rows.filter fun r => !p r
  last := t.last
  ascending := t.ascending.sublist List.filter_sublist
  bounded := fun r hr => t.bounded r (List.mem_of_mem_filter hr)

end Serial

/-! ## Reading a result -/

section Cursor

variable {α : Type*}

/-- The `k`-th order of a result; an index past the last one leaves the result as it is. -/
def reorder (k : Nat) (l : List α) : List α := l.permutations.getD k l

theorem reorder_perm (k : Nat) (l : List α) : (reorder k l).Perm l := by
  unfold reorder
  by_cases h : k < l.permutations.length
  · rw [List.getD_eq_getElem _ _ h]
    exact List.mem_permutations.mp (List.getElem_mem h)
  · rw [List.getD_eq_default _ _ (Nat.le_of_not_lt h)]

@[simp] theorem mem_reorder {k : Nat} {l : List α} {x : α} : x ∈ reorder k l ↔ x ∈ l :=
  (reorder_perm k l).mem_iff

/-- Any row can come first. -/
theorem exists_reorder_cons {l : List α} {x : α} (h : x ∈ l) : ∃ k rest, reorder k l = x :: rest := by
  obtain ⟨s, t, rfl⟩ := List.append_of_mem h
  have horder : x :: (s ++ t) ∈ (s ++ x :: t).permutations :=
    List.mem_permutations.mpr List.perm_middle.symm
  obtain ⟨k, hk, hget⟩ := List.getElem_of_mem horder
  exact ⟨k, s ++ t, by rw [reorder, List.getD_eq_getElem _ _ hk, hget]⟩

/-- The order of a result does not depend on what is in its rows. -/
theorem map_reorder {β : Type*} (f : α → β) (k : Nat) (l : List α) :
    (reorder k l).map f = reorder k (l.map f) := by
  unfold reorder
  rw [← List.map_permutations, List.getD_map]

/-- One of the orders of two rows is the other way round. -/
theorem reorder_one_of_length_two {l : List α} (h : l.length = 2) : reorder 1 l = l.reverse := by
  obtain ⟨x, y, rfl⟩ := List.length_eq_two.mp h
  simp [reorder, List.permutations, List.permutationsAux_cons, List.permutationsAux2]

/-- The rows a client gets by stepping a cursor: `ok i` says whether the `i`-th step goes through. -/
def fetch (ok : Nat → Bool) : Nat → List α → List α
  | _, [] => []
  | i, r :: rs => if ok i then r :: fetch ok (i + 1) rs else []

theorem fetch_of_ok {ok : Nat → Bool} (h : ∀ i, ok i = true) :
    ∀ (i : Nat) (l : List α), fetch ok i l = l
  | _, [] => rfl
  | i, r :: rs => by rw [fetch, if_pos (h i), fetch_of_ok h (i + 1) rs]

theorem fetch_prefixes (ok : Nat → Bool) : ∀ (i : Nat) (l : List α), fetch ok i l <+: l
  | _, [] => List.prefix_refl _
  | i, r :: rs => by
      rw [fetch]
      split
      · exact List.cons_prefix_cons.mpr ⟨rfl, fetch_prefixes ok (i + 1) rs⟩
      · exact List.nil_prefix

theorem map_fetch {β : Type*} (f : α → β) (ok : Nat → Bool) :
    ∀ (i : Nat) (l : List α), (fetch ok i l).map f = fetch ok i (l.map f)
  | _, [] => rfl
  | i, r :: rs => by
      rw [fetch, List.map_cons, fetch]
      split
      · rw [List.map_cons, map_fetch f ok (i + 1) rs]
      · rfl

theorem mem_of_mem_fetch {ok : Nat → Bool} {i : Nat} {l : List α} {x : α} (h : x ∈ fetch ok i l) :
    x ∈ l := (fetch_prefixes ok i l).subset h

/-- A cursor hands out no row twice that the result has once. -/
theorem nodup_fetch {ok : Nat → Bool} {i k : Nat} {l : List α} (h : l.Nodup) :
    (fetch ok i (reorder k l)).Nodup :=
  (fetch_prefixes ok i _).sublist.nodup ((reorder_perm k l).nodup_iff.mpr h)

end Cursor

/-! ## Two columns read apart -/

section Pairing

variable {κ ν : Type*} {keys : List κ} {values : List ν} {K : κ → Prop} {Named : κ → ν → Prop}

/-- Two columns put side by side, or nothing when they differ in length. -/
def pairUp (keys : List κ) (values : List ν) : List (κ × ν) :=
  if keys.length = values.length then keys.zip values else []

theorem fst_zip_of_mem {k : κ} (h : k ∈ keys) (hlen : keys.length = values.length) :
    ∃ v, (k, v) ∈ keys.zip values := by
  rw [← List.map_fst_zip (Nat.le_of_eq hlen)] at h
  obtain ⟨⟨k', v⟩, hp, rfl⟩ := List.mem_map.mp h
  exact ⟨v, hp⟩

theorem mem_of_mem_pairUp {p : κ × ν} (h : p ∈ pairUp keys values) : p.2 ∈ values := by
  unfold pairUp at h
  split at h
  · exact (List.of_mem_zip h).2
  · exact absurd h List.not_mem_nil

theorem nodup_pairUp (h : keys.Nodup) : (pairUp keys values).Nodup := by
  unfold pairUp
  split
  · rename_i hlen
    apply List.Nodup.of_map Prod.fst
    rw [List.map_fst_zip (Nat.le_of_eq hlen)]
    exact h
  · exact List.nodup_nil

/-- **`mem_pairUp_iff`** — two columns read apart pair every wanted key with its name, and nothing
else, exactly if no wanted key has a name, or they read all the wanted keys that have one and the
names stand in the order of the keys. -/
theorem mem_pairUp_iff (hkeys : ∀ k ∈ keys, K k)
    (hvalues : (∀ k v, K k → ¬Named k v) → values = [])
    (hname : ∀ k v v', Named k v → Named k v' → v = v') :
    (∀ k v, (k, v) ∈ pairUp keys values ↔ K k ∧ Named k v) ↔
      (∀ k v, K k → ¬Named k v) ∨
        ((∀ k v, K k → Named k v → k ∈ keys) ∧ List.Forall₂ Named keys values) := by
  unfold pairUp
  constructor
  · intro hall
    by_cases hnone : ∀ k v, K k → ¬Named k v
    · exact Or.inl hnone
    · obtain ⟨k, hk⟩ := not_forall.mp hnone
      obtain ⟨v, hv⟩ := not_forall.mp hk
      have hpair := (hall k v).mpr ⟨(Classical.not_imp.mp hv).1, not_not.mp (Classical.not_imp.mp hv).2⟩
      -- there is a pair, so the lengths agree
      split at hpair
      · rename_i hlen
        rw [if_pos hlen] at hall
        refine Or.inr ⟨?_, List.forall₂_iff_zip.mpr ⟨hlen, ?_⟩⟩
        · intro k v hk hv
          exact (List.of_mem_zip ((hall k v).mpr ⟨hk, hv⟩)).1
        · intro k v hp
          exact ((hall k v).mp hp).2
      · cases hpair
  · rintro (hnone | ⟨hread, hall⟩) k v
    · refine iff_of_false ?_ fun h => hnone k v h.1 h.2
      rw [hvalues hnone, List.zip_nil_right, ite_self]
      exact List.not_mem_nil
    · obtain ⟨hlen, hzip⟩ := List.forall₂_iff_zip.mp hall
      rw [if_pos hlen]
      constructor
      · intro hp
        exact ⟨hkeys k (List.of_mem_zip hp).1, hzip hp⟩
      · rintro ⟨hk, hv⟩
        obtain ⟨v', hp⟩ := fst_zip_of_mem (hread k v hk hv) hlen
        rw [hname k v v' hv (hzip hp)]
        exact hp

end Pairing

end TinyIM.Lib.Table
