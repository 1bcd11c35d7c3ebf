/-
# JsonNumber — the numbers a text writes, and the values they are stored as

A parser turns each number literal into a value of a kind that may not hold it. To speak about the
literal itself, a text is also parsed with the dialect that keeps every literal as it is
(`literals`); `parseText_literals` says that a dialect reads from a text what it makes of the literals
in it. `storeNumber_exact` says when the C++ library keeps the value: an integer of up to 53 bits is
stored exactly however it is written, with or without a fraction and an exponent.
-/
import TinyIM.Lib.Binary64
import Mathlib.Algebra.Order.Field.Power
import Mathlib.Algebra.Order.Field.Rat
import Mathlib.Tactic.Positivity

namespace TinyIM.Lib.Json

/-! ## Literals -/

/-- The value of a literal without its sign. -/
def Decimal.magnitude (x : Decimal) : ℚ := x.digits * 10 ^ x.exponent

/-- The number a literal denotes. -/
def Number.value : Number → ℚ
  | .integer negative n => if negative then -n else n
  | .fractional x => if x.negative then -x.magnitude else x.magnitude

section Literals

variable {C F : Type}

/-- The same dialect, except that it keeps every number literal. -/
def literals (d : Dialect C F) : Dialect C Number :=
  ⟨d.char, d.surrogate, fun n => some (.number_float n)⟩

mutual

/-- What a dialect makes of a value with the literals in place of its numbers. -/
def store (d : Dialect C F) : Json (List C) Number → Option (Json (List C) F)
  | .null => some .null
  | .boolean b => some (.boolean b)
  | .number_integer n => some (.number_integer n)
  | .number_unsigned n => some (.number_unsigned n)
  | .number_float n => d.number n
  | .string s => some (.string s)
  | .array xs => (storeElements d xs).map .array
  | .object ms => (storeMembers d ms).map .object

/-- `store` of each element. -/
def storeElements (d : Dialect C F) : List (Json (List C) Number) → Option (List (Json (List C) F))
  | [] => some []
  | x :: xs => do
    let y ← store d x
    let ys ← storeElements d xs
    return y :: ys

/-- `store` of each member. -/
def storeMembers (d : Dialect C F) :
    List (List C × Json (List C) Number) → Option (List (List C × Json (List C) F))
  | [] => some []
  | (k, x) :: ms => do
    let y ← store d x
    let ys ← storeMembers d ms
    return (k, y) :: ys

end

variable {d : Dialect C F}

theorem storeElements_cons {x : Json (List C) Number} {xs : List (Json (List C) Number)}
    {y : Json (List C) F} {ys : List (Json (List C) F)} (hx : store d x = some y)
    (hxs : storeElements d xs = some ys) : storeElements d (x :: xs) = some (y :: ys) := by
  rw [storeElements, hx, hxs]
  rfl

theorem storeMembers_cons {k : List C} {x : Json (List C) Number}
    {ms : List (List C × Json (List C) Number)} {y : Json (List C) F}
    {ys : List (List C × Json (List C) F)} (hx : store d x = some y)
    (hms : storeMembers d ms = some ys) : storeMembers d ((k, x) :: ms) = some ((k, y) :: ys) := by
  rw [storeMembers, hx, hms]
  rfl

theorem storeMembers_cons_eq_some {k : List C} {x : Json (List C) Number}
    {ms : List (List C × Json (List C) Number)} {ys : List (List C × Json (List C) F)}
    (h : storeMembers d ((k, x) :: ms) = some ys) :
    ∃ y ys', ys = (k, y) :: ys' ∧ store d x = some y ∧ storeMembers d ms = some ys' := by
  rw [storeMembers] at h
  obtain ⟨y, hy, h⟩ := Option.bind_eq_some_iff.mp h
  obtain ⟨ys', hys', h⟩ := Option.bind_eq_some_iff.mp h
  exact ⟨y, ys', (Option.some.inj h).symm, hy, hys'⟩

/-- The members keep their names. -/
theorem any_storeMembers [BEq C] {k : List C} {ms : List (List C × Json (List C) Number)}
    {ys : List (List C × Json (List C) F)} (h : storeMembers d ms = some ys) :
    (ys.any fun m => m.1 == k) = ms.any fun m => m.1 == k := by
  induction ms generalizing ys with
  | nil =>
      rw [← Option.some.inj h]
      rfl
  | cons m ms ih =>
      obtain ⟨k', x⟩ := m
      obtain ⟨y, ys', rfl, -, hys'⟩ := storeMembers_cons_eq_some h
      rw [List.any_cons, List.any_cons, ih hys']

/-- The member of a name is stored as the member of that name. -/
theorem lookup_storeMembers [BEq C] {k : List C} {ms : List (List C × Json (List C) Number)}
    {ys : List (List C × Json (List C) F)} (h : storeMembers d ms = some ys)
    {x : Json (List C) Number} (hx : ms.lookup k = some x) :
    ∃ y, ys.lookup k = some y ∧ store d x = some y := by
  induction ms generalizing ys with
  | nil => cases hx
  | cons m ms ih =>
      obtain ⟨k', x'⟩ := m
      obtain ⟨y, ys', rfl, hy, hys'⟩ := storeMembers_cons_eq_some h
      rw [List.lookup_cons] at hx ⊢
      cases hk : k == k' with
      | true =>
          rw [hk] at hx
          rw [← Option.some.inj hx]
          exact ⟨y, rfl, hy⟩
      | false =>
          rw [hk] at hx
          exact ih hys' hx

theorem storeMembers_addMember [BEq C] {k : List C} {x : Json (List C) Number}
    {ms : List (List C × Json (List C) Number)} {y : Json (List C) F}
    {ys : List (List C × Json (List C) F)} (hx : store d x = some y)
    (hms : storeMembers d ms = some ys) :
    storeMembers d (addMember k x ms) = some (addMember k y ys) := by
  unfold addMember
  rw [any_storeMembers hms]
  split
  · exact hms
  · exact storeMembers_cons hx hms

/-! ## Parsing for literals -/

theorem joinSurrogates_literals :
    ∀ us : List (Char ⊕ Nat), joinSurrogates (literals d) us = joinSurrogates d us
  | [] => rfl
  | .inl c :: us => by
      rw [joinSurrogates, joinSurrogates, joinSurrogates_literals us]
      rfl
  | [.inr _] => rfl
  | .inr u :: .inl c :: us => by
      simp only [joinSurrogates, joinSurrogates_literals us]
      rfl
  | .inr u :: .inr l :: us => by
      have hrest := joinSurrogates_literals (.inr l :: us)
      rw [joinSurrogates, joinSurrogates, hrest, joinSurrogates_literals us]
      rfl

theorem scanString_literals (cs : List Char) : scanString (literals d) cs = scanString d cs := by
  unfold scanString
  simp only [joinSurrogates_literals]

theorem keyword_literals {w cs r : List Char} {x : Json (List C) Number} {y v : Json (List C) F}
    (hx : store d x = some y) (h : keyword w y cs = some (v, r)) :
    ∃ x', keyword w x cs = some (x', r) ∧ store d x' = some v := by
  unfold keyword at h ⊢
  split at h
  · rename_i hw
    obtain ⟨rfl, rfl⟩ := Prod.mk.inj (Option.some.inj h)
    exact ⟨x, if_pos hw, hx⟩
  · cases h

end Literals

/-- A parser that builds on another one agrees with its counterpart for literals when the parts do. -/
theorem exists_of_map {α α' β β' : Type} {y : Option (α × List Char)} {y' : Option (α' × List Char)}
    {f : α → β} {f' : α' → β'} {S : α' → Option α} {T : β' → Option β} {b : β} {r : List Char}
    (hparts : ∀ a r, y = some (a, r) → ∃ a', y' = some (a', r) ∧ S a' = some a)
    (hf : ∀ a' a, S a' = some a → T (f' a') = some (f a))
    (h : (y.map fun p => (f p.1, p.2)) = some (b, r)) :
    ∃ b', (y'.map fun p => (f' p.1, p.2)) = some (b', r) ∧ T b' = some b := by
  obtain ⟨⟨a, r'⟩, ha, heq⟩ := Option.map_eq_some_iff.mp h
  obtain ⟨rfl, rfl⟩ := Prod.mk.inj heq
  obtain ⟨a', ha', hS⟩ := hparts _ _ ha
  exact ⟨f' a', by rw [ha']; rfl, hf a' a hS⟩

section Parser

variable {C F : Type} [BEq C] {d : Dialect C F} {fuel : Nat} {cs r : List Char}

theorem parseValue_literals {v : Json (List C) F}
    (ihe : ∀ cs vs r, parseElements d fuel cs = some (vs, r) →
      ∃ xs, parseElements (literals d) fuel cs = some (xs, r) ∧ storeElements d xs = some vs)
    (ihm : ∀ cs ms r, parseMembers d fuel cs = some (ms, r) →
      ∃ xs, parseMembers (literals d) fuel cs = some (xs, r) ∧ storeMembers d xs = some ms)
    (h : parseValue d (fuel + 1) cs = some (v, r)) :
    ∃ x, parseValue (literals d) (fuel + 1) cs = some (x, r) ∧ store d x = some v := by
  rw [parseValue] at h ⊢
  split at h
  · cases h
  · rename_i c cs' hcs
    by_cases hobject : c = '{'
    · rw [if_pos hobject] at h ⊢
      split at h
      · rename_i r' hr'
        obtain ⟨rfl, rfl⟩ := Prod.mk.inj (Option.some.inj h)
        exact ⟨.object [], rfl, rfl⟩
      · exact exists_of_map (ihm _) (fun xs ms hms => by rw [store, hms]; rfl) h
    · rw [if_neg hobject] at h ⊢
      by_cases harray : c = '['
      · rw [if_pos harray] at h ⊢
        split at h
        · rename_i r' hr'
          obtain ⟨rfl, rfl⟩ := Prod.mk.inj (Option.some.inj h)
          exact ⟨.array [], rfl, rfl⟩
        · exact exists_of_map (ihe _) (fun xs vs hvs => by rw [store, hvs]; rfl) h
      · rw [if_neg harray] at h ⊢
        split at h
        · rename_i hstring
          rw [if_pos hstring, scanString_literals]
          obtain ⟨⟨t, r'⟩, ht, heq⟩ := Option.map_eq_some_iff.mp h
          obtain ⟨rfl, rfl⟩ := Prod.mk.inj heq
          exact ⟨.string t, by rw [ht]; rfl, rfl⟩
        · rename_i hstring
          rw [if_neg hstring]
          split at h
          · rename_i hnull
            rw [if_pos hnull]
            exact keyword_literals rfl h
          · rename_i hnull
            rw [if_neg hnull]
            split at h
            · rename_i htrue
              rw [if_pos htrue]
              exact keyword_literals rfl h
            · rename_i htrue
              rw [if_neg htrue]
              split at h
              · rename_i hfalse
                rw [if_pos hfalse]
                exact keyword_literals rfl h
              · rename_i hfalse
                rw [if_neg hfalse]
                split at h
                · cases h
                · rename_i n r' hn
                  obtain ⟨v', hv, heq⟩ := Option.map_eq_some_iff.mp h
                  obtain ⟨rfl, rfl⟩ := Prod.mk.inj heq
                  exact ⟨.number_float n, rfl, hv⟩

theorem parseElements_literals {vs : List (Json (List C) F)}
    (ihv : ∀ cs v r, parseValue d fuel cs = some (v, r) →
      ∃ x, parseValue (literals d) fuel cs = some (x, r) ∧ store d x = some v)
    (ihe : ∀ cs vs r, parseElements d fuel cs = some (vs, r) →
      ∃ xs, parseElements (literals d) fuel cs = some (xs, r) ∧ storeElements d xs = some vs)
    (h : parseElements d (fuel + 1) cs = some (vs, r)) :
    ∃ xs, parseElements (literals d) (fuel + 1) cs = some (xs, r) ∧ storeElements d xs = some vs := by
  rw [parseElements] at h ⊢
  split at h
  · cases h
  · rename_i v cs₁ hv
    obtain ⟨x, hx, hstore⟩ := ihv _ _ _ hv
    rw [hx]
    split at h
    · rename_i c cs₂ hcs₂
      split at h
      · rename_i hcomma
        simp only [hcs₂, if_pos hcomma]
        exact exists_of_map (ihe _) (fun xs vs hvs => storeElements_cons hstore hvs) h
      · rename_i hcomma
        split at h
        · rename_i hclose
          obtain ⟨rfl, rfl⟩ := Prod.mk.inj (Option.some.inj h)
          refine ⟨[x], ?_, storeElements_cons hstore rfl⟩
          simp only [hcs₂, if_neg hcomma, if_pos hclose]
        · cases h
    · cases h

theorem parseMembers_literals {ms : List (List C × Json (List C) F)}
    (ihv : ∀ cs v r, parseValue d fuel cs = some (v, r) →
      ∃ x, parseValue (literals d) fuel cs = some (x, r) ∧ store d x = some v)
    (ihm : ∀ cs ms r, parseMembers d fuel cs = some (ms, r) →
      ∃ xs, parseMembers (literals d) fuel cs = some (xs, r) ∧ storeMembers d xs = some ms)
    (h : parseMembers d (fuel + 1) cs = some (ms, r)) :
    ∃ xs, parseMembers (literals d) (fuel + 1) cs = some (xs, r) ∧ storeMembers d xs = some ms := by
  rw [parseMembers] at h ⊢
  split at h
  · rename_i cs₁ hcs₁
    rw [scanString_literals]
    split at h
    · cases h
    · rename_i k cs₂ hk
      split at h
      · rename_i cs₃ hcs₃
        split at h
        · cases h
        · rename_i v cs₄ hv
          obtain ⟨x, hx, hstore⟩ := ihv _ _ _ hv
          split at h
          · rename_i c cs₅ hcs₅
            split at h
            · rename_i hcomma
              simp only [hx, hcs₅, if_pos hcomma]
              exact exists_of_map (ihm _) (fun xs ms hms => storeMembers_addMember hstore hms) h
            · rename_i hcomma
              split at h
              · rename_i hclose
                obtain ⟨rfl, rfl⟩ := Prod.mk.inj (Option.some.inj h)
                refine ⟨[(k, x)], ?_, storeMembers_cons hstore rfl⟩
                simp only [hx, hcs₅, if_neg hcomma, if_pos hclose]
              · cases h
          · cases h
      · cases h
  · cases h

/-- **`parse_literals`** — what is read with a dialect is what it makes of the literals that are read,
by induction on the fuel. -/
theorem parse_literals (fuel : Nat) :
    (∀ cs v r, parseValue d fuel cs = some (v, r) →
      ∃ x, parseValue (literals d) fuel cs = some (x, r) ∧ store d x = some v) ∧
    (∀ cs vs r, parseElements d fuel cs = some (vs, r) →
      ∃ xs, parseElements (literals d) fuel cs = some (xs, r) ∧ storeElements d xs = some vs) ∧
    ∀ cs ms r, parseMembers d fuel cs = some (ms, r) →
      ∃ xs, parseMembers (literals d) fuel cs = some (xs, r) ∧ storeMembers d xs = some ms := by
  induction fuel with
  | zero =>
      refine ⟨?_, ?_, ?_⟩
      · intro cs v r h
        rw [parseValue] at h
        cases h
      · intro cs vs r h
        rw [parseElements] at h
        cases h
      · intro cs ms r h
        rw [parseMembers] at h
        cases h
  | succ fuel ih =>
      obtain ⟨ihv, ihe, ihm⟩ := ih
      exact ⟨fun _ _ _ => parseValue_literals ihe ihm, fun _ _ _ => parseElements_literals ihv ihe,
        fun _ _ _ => parseMembers_literals ihv ihm⟩

/-- **`parseText_literals`** — a text that a dialect accepts can be read for its literals, and the
value is what the dialect makes of them. -/
theorem parseText_literals {v : Json (List C) F} (h : parseText d cs = some v) :
    ∃ x, parseText (literals d) cs = some x ∧ store d x = some v := by
  unfold parseText at h ⊢
  split at h
  · cases h
  · rename_i v' r' hv
    obtain ⟨x, hx, hstore⟩ := (parse_literals _).1 _ _ _ hv
    rw [hx]
    split at h
    · rename_i hr
      rw [← Option.some.inj h]
      exact ⟨x, if_pos hr, hstore⟩
    · cases h

end Parser

/-! ## Integers are stored exactly -/

theorem magnitude_nonneg (x : Decimal) : 0 ≤ x.magnitude := by
  unfold Decimal.magnitude
  positivity

/-- A literal that denotes an integer, as sign and absolute value. -/
theorem magnitude_of_value {x : Decimal} {z : Int} (h : (Number.fractional x).value = z) :
    x.magnitude = z.natAbs ∧ z = if x.negative then -(z.natAbs : Int) else z.natAbs := by
  have hnonneg := magnitude_nonneg x
  rw [Number.value] at h
  cases hneg : x.negative with
  | true =>
      rw [hneg, if_pos rfl, neg_eq_iff_eq_neg] at h
      have hz : z ≤ 0 := by
        rw [h] at hnonneg
        exact_mod_cast neg_nonneg.mp hnonneg
      have habs : (z.natAbs : Int) = -z := by omega
      refine ⟨?_, by rw [habs, if_pos rfl, neg_neg]⟩
      rw [h, ← Int.cast_natCast, habs, Int.cast_neg]
  | false =>
      rw [hneg, if_neg Bool.false_ne_true] at h
      have hz : 0 ≤ z := by
        rw [h] at hnonneg
        exact_mod_cast hnonneg
      have habs : (z.natAbs : Int) = z := by omega
      refine ⟨?_, by rw [habs, if_neg Bool.false_ne_true]⟩
      rw [h, ← Int.cast_natCast, habs]

/-- A literal with a fraction or an exponent that denotes, up to its sign, an integer of at most 53
bits. -/
theorem ofDecimal_of_magnitude {x : Decimal} {k : Nat} (hk : k < 2 ^ 53) (h : x.magnitude = k) :
    Binary64.ofDecimal x = some ⟨if x.negative then -((k * 2 ^ 1074 : Nat) : Int)
      else (k * 2 ^ 1074 : Nat)⟩ := by
  unfold Decimal.magnitude at h
  unfold Binary64.ofDecimal
  cases hexp : x.exponent with
  | ofNat e =>
      rw [hexp, Int.ofNat_eq_natCast, zpow_natCast] at h
      have hdigits : x.digits * 10 ^ e = k * 1 := by
        rw [Nat.mul_one]
        exact_mod_cast h
      simp only
      rw [hdigits, Binary64.round_mul hk Nat.one_pos]
      rfl
  | negSucc e =>
      rw [hexp, zpow_negSucc, ← div_eq_mul_inv, div_eq_iff (by positivity)] at h
      have hdigits : x.digits = k * 10 ^ (e + 1) := by exact_mod_cast h
      simp only
      rw [hdigits, Binary64.round_mul hk (by positivity)]
      rfl

/-- **`ofDecimal_eq_ofInt`** — a literal with a fraction or an exponent that denotes an integer of at
most 53 bits is read as that integer. -/
theorem ofDecimal_eq_ofInt {x : Decimal} {z : Int} (hz : z.natAbs < 2 ^ 53)
    (h : (Number.fractional x).value = z) : Binary64.ofDecimal x = some (.ofInt z) := by
  obtain ⟨hmagnitude, hsign⟩ := magnitude_of_value h
  have hscaled : (if x.negative then -((z.natAbs * 2 ^ 1074 : Nat) : Int)
      else (z.natAbs * 2 ^ 1074 : Nat)) = z * 2 ^ 1074 := by
    have hcast : ((z.natAbs * 2 ^ 1074 : Nat) : Int) = (z.natAbs : Int) * 2 ^ 1074 := by
      rw [Int.natCast_mul, Int.natCast_pow]
      rfl
    rw [hcast]
    conv_rhs => rw [hsign]
    split
    · exact (Int.neg_mul _ _).symm
    · rfl
  rw [ofDecimal_of_magnitude hz hmagnitude, hscaled, Binary64.ofInt]

/-- **`storeNumber_exact`** — the C++ library stores a literal that denotes an integer of at most 53
bits as that integer, in one of its three kinds. -/
theorem storeNumber_exact {S : Type} {n : Number} {z : Int} {v : Json S Binary64}
    (hz : z.natAbs < 2 ^ 53) (hn : n.value = z) (h : storeNumber Binary64.ofDecimal n = some v) :
    (0 ≤ z ∧ v = .number_unsigned (UInt64.ofNat z.toNat)) ∨ v = .number_integer (Int64.ofInt z) ∨
      v = .number_float (.ofInt z) := by
  cases n with
  | fractional x =>
      rw [storeNumber, ofDecimal_eq_ofInt hz hn] at h
      exact Or.inr (Or.inr (Option.some.inj h).symm)
  | integer negative n =>
      rw [Number.value] at hn
      cases negative with
      | false =>
          have hnat : (n : Int) = z := by
            rw [if_neg Bool.false_ne_true] at hn
            exact_mod_cast hn
          rw [storeNumber, if_pos (by omega)] at h
          refine Or.inl ⟨by omega, ?_⟩
          rw [← hnat, Int.toNat_natCast]
          exact (Option.some.inj h).symm
      | true =>
          have hnat : -(n : Int) = z := by
            rw [if_pos rfl] at hn
            exact_mod_cast hn
          rw [storeNumber, if_pos (by omega), hnat] at h
          exact Or.inr (Or.inl (Option.some.inj h).symm)

end TinyIM.Lib.Json
