/-
# JsonStringify — the serializer of ECMAScript

A script's strings are sequences of code points in which a surrogate may stand without a partner, and
`JSON.stringify` escapes such a surrogate, so that its output is text. `parseText_stringify` says what
a parser makes of the text of an object: in each string a code point becomes a character of the
parser's dialect and a lone surrogate whatever the dialect makes of its escape, which can be an error.
-/
import TinyIM.Lib.JsonRoundTrip
import Mathlib.Data.List.Chain

namespace TinyIM.Lib.Json

open TinyIM.Lib.Text

/-! ## Strings of code points -/

/-- A surrogate that begins a pair. -/
def IsHigh (u : Nat) : Prop := 0xD800 ≤ u ∧ u < 0xDC00

/-- A surrogate that ends a pair. -/
def IsLow (u : Nat) : Prop := 0xDC00 ≤ u ∧ u ≤ 0xDFFF

/-- A surrogate. -/
def IsSurrogate (u : Nat) : Prop := 0xD800 ≤ u ∧ u ≤ 0xDFFF

instance (u : Nat) : Decidable (IsHigh u) := inferInstanceAs (Decidable (_ ∧ _))

instance (u : Nat) : Decidable (IsLow u) := inferInstanceAs (Decidable (_ ∧ _))

instance (u : Nat) : Decidable (IsSurrogate u) := inferInstanceAs (Decidable (_ ∧ _))

/-- A string as its code points. Two surrogates that form a pair are one code point, so a high one is
never followed by a low one. -/
structure CodePoints where
  units : List Nat
  bounded : ∀ u ∈ units, u ≤ 0x10FFFF
  unpaired : units.IsChain fun h l => ¬(IsHigh h ∧ IsLow l)
  deriving DecidableEq

/-- No code point of the string is a surrogate. -/
def CodePoints.WellFormed (s : CodePoints) : Prop := ∀ u ∈ s.units, ¬IsSurrogate u

instance (s : CodePoints) : Decidable s.WellFormed := List.decidableBAll (fun u => ¬IsSurrogate u) s.units

/-- The characters of a string, a surrogate having none. -/
def CodePoints.chars (s : CodePoints) : List Char := s.units.map Char.ofNat

theorem isValidChar_of_not_surrogate {u : Nat} (hu : u ≤ 0x10FFFF) (hs : ¬IsSurrogate u) :
    u.isValidChar := by
  unfold IsSurrogate at hs
  unfold Nat.isValidChar
  omega

theorem toNat_ofNat {u : Nat} (hu : u ≤ 0x10FFFF) (hs : ¬IsSurrogate u) : (Char.ofNat u).toNat = u := by
  have hvalid := isValidChar_of_not_surrogate hu hs
  rw [Char.ofNat, dif_pos hvalid]
  rfl

theorem not_isSurrogate_toNat (c : Char) : ¬IsSurrogate c.toNat := by
  have hvalid : c.toNat.isValidChar := c.valid
  unfold IsSurrogate
  unfold Nat.isValidChar at hvalid
  omega

/-- Without surrogates there are no pairs. -/
theorem unpaired_of_not_surrogate {us : List Nat} (h : ∀ u ∈ us, ¬IsSurrogate u) :
    us.IsChain fun h l => ¬(IsHigh h ∧ IsLow l) := by
  induction us with
  | nil => exact .nil
  | cons u us ih =>
      rw [List.forall_mem_cons] at h
      refine (ih h.2).cons ?_
      rintro v - ⟨⟨hlo, hhi⟩, -⟩
      exact h.1 ⟨hlo, by omega⟩

/-- The code points of a text. -/
def CodePoints.ofChars (cs : List Char) : CodePoints where
  units := cs.map Char.toNat
  bounded := by
    intro u hu
    obtain ⟨c, -, rfl⟩ := List.mem_map.mp hu
    have hvalid : c.toNat.isValidChar := c.valid
    unfold Nat.isValidChar at hvalid
    omega
  unpaired := unpaired_of_not_surrogate fun u hu => by
    obtain ⟨c, -, rfl⟩ := List.mem_map.mp hu
    exact not_isSurrogate_toNat c

theorem CodePoints.wellFormed_ofChars (cs : List Char) : (ofChars cs).WellFormed := by
  intro u hu
  obtain ⟨c, -, rfl⟩ := List.mem_map.mp hu
  exact not_isSurrogate_toNat c

@[simp] theorem CodePoints.chars_ofChars (cs : List Char) : (ofChars cs).chars = cs := by
  show (cs.map Char.toNat).map Char.ofNat = cs
  rw [List.map_map]
  exact List.map_id'' Char.ofNat_toNat cs

/-! ## The serializer -/

/-- One code point inside a string literal: a surrogate is escaped by its code unit. -/
def escapeUnit (u : Nat) : List Char :=
  if IsSurrogate u then
    ['\\', 'u', hexDigit (u / 4096), hexDigit (u / 256 % 16), hexDigit (u / 16 % 16),
      hexDigit (u % 16)]
  else escapeChar (Char.ofNat u)

/-- A string literal. -/
def quoteUnits (s : CodePoints) : List Char := '"' :: (s.units.flatMap escapeUnit ++ ['"'])

/-- A value without parts. -/
inductive Scalar where
  | null
  | integer (n : Int)
  /-- The integer `± digits · 10 ^ zeros` in exponent form. -/
  | exponential (negative : Bool) (digits zeros : Nat)
  | string (s : CodePoints)
  deriving DecidableEq

/-- The digits with a point after the first one, if there are more. -/
def pointed : List Char → List Char
  | c :: c' :: cs => c :: '.' :: c' :: cs
  | cs => cs

/-- An integer in exponent form: the exponent counts all digits but the first one. -/
def exponentText (negative : Bool) (digits zeros : Nat) : List Char :=
  let ds := Nat.toDigits 10 digits
  (if negative then ['-'] else []) ++
    (pointed ds ++ 'e' :: '+' :: Nat.toDigits 10 (zeros + (ds.length - 1)))

example : exponentText true 12 20 = "-1.2e+21".toList := by decide

/-- The text of a value without parts. -/
def literal : Scalar → List Char
  | .null => "null".toList
  | .integer n => intText n
  | .exponential negative digits zeros => exponentText negative digits zeros
  | .string s => quoteUnits s

/-- The members of an object, with commas between them. -/
def literalMembers : List (List Char × Scalar) → List Char
  | [] => []
  | (k, v) :: ms =>
    '"' :: (k.flatMap escapeChar ++ '"' :: ':' ::
      (literal v ++ if ms.isEmpty then [] else ',' :: literalMembers ms))

/-- `JSON.stringify` of an object. -/
def stringify (ms : List (List Char × Scalar)) : List Char := '{' :: (literalMembers ms ++ ['}'])

/-! ## Strings read back -/

section Strings

variable {C F : Type} (d : Dialect C F)

/-- What the scanner takes a code point for. -/
def scanned (u : Nat) : Char ⊕ Nat := if IsSurrogate u then .inr u else .inl (Char.ofNat u)

/-- What a dialect makes of a code point. -/
def readUnit (u : Nat) : Option C :=
  if IsSurrogate u then d.surrogate u else some (d.char (Char.ofNat u))

/-- What a dialect makes of a string. -/
def readUnits (us : List Nat) : Option (List C) := us.mapM (readUnit d)

theorem hex4_digits {u : Nat} (hu : u < 0x10000) : hex4 (hexDigit (u / 4096))
    (hexDigit (u / 256 % 16)) (hexDigit (u / 16 % 16)) (hexDigit (u % 16)) = some u := by
  simp only [hex4, hexValue_hexDigit_all _ (show u / 4096 < 16 by omega),
    hexValue_hexDigit_all _ (Nat.mod_lt _ (show 0 < 16 by decide))]
  show some (((u / 4096 * 16 + u / 256 % 16) * 16 + u / 16 % 16) * 16 + u % 16) = _
  congr 1
  omega

/-- The escape of a code point is scanned as that code point. -/
theorem scanUnits_escapeUnit (u : Nat) (r : List Char) : scanUnits (escapeUnit u ++ r) =
    (scanUnits r).map fun p => (scanned u :: p.1, p.2) := by
  unfold escapeUnit scanned
  split
  · rename_i hs
    unfold IsSurrogate at hs
    simp only [List.cons_append, List.nil_append]
    rw [scanUnits, if_neg (by decide), if_pos rfl]
    simp only [hex4_digits (show u < 0x10000 by omega)]
    rw [if_neg (show ¬(u < 0xD800 ∨ 0xDFFF < u) by omega)]
  · exact scanUnits_escapeChar _ r

theorem scanUnits_flatMap (us : List Nat) (r : List Char) :
    scanUnits (us.flatMap escapeUnit ++ '"' :: r) = some (us.map scanned, r) := by
  induction us with
  | nil => exact scanUnits_escape [] r
  | cons u us ih =>
      rw [List.flatMap_cons, List.append_assoc, scanUnits_escapeUnit, ih]
      rfl

/-- A surrogate in front of something that is not its partner stands alone. -/
theorem joinSurrogates_lone {u : Nat} {x : Char ⊕ Nat} {us : List (Char ⊕ Nat)}
    (h : ∀ l, x = .inr l → ¬(u < 0xDC00 ∧ 0xDC00 ≤ l)) : joinSurrogates d (.inr u :: x :: us) =
      (d.surrogate u).bind fun c => (joinSurrogates d (x :: us)).map (c :: ·) := by
  rw [joinSurrogates.eq_def]
  cases x with
  | inl c =>
      dsimp only
      cases d.surrogate u <;> rfl
  | inr l =>
      dsimp only
      rw [if_neg (h l rfl)]
      cases d.surrogate u <;> rfl

theorem readUnits_cons (u : Nat) (us : List Nat) : readUnits d (u :: us) =
    (readUnit d u).bind fun c => (readUnits d us).map (c :: ·) := by
  unfold readUnits
  rw [List.mapM_cons]
  cases readUnit d u with
  | none => rfl
  | some c => cases List.mapM (readUnit d) us <;> rfl

/-- No two code points of a string are taken for a pair. -/
theorem joinSurrogates_scanned {us : List Nat}
    (h : us.IsChain fun h l => ¬(IsHigh h ∧ IsLow l)) :
    joinSurrogates d (us.map scanned) = readUnits d us := by
  induction us with
  | nil => rfl
  | cons u us ih =>
      have htail := ih h.tail
      rw [readUnits_cons, ← htail, List.map_cons]
      by_cases hs : IsSurrogate u
      · rw [scanned, if_pos hs, readUnit, if_pos hs]
        cases us with
        | nil =>
            rw [List.map_nil, joinSurrogates.eq_def]
            dsimp only
            cases d.surrogate u <;> rfl
        | cons v us =>
            rw [List.map_cons]
            refine joinSurrogates_lone d fun l hl hpair => ?_
            -- only a surrogate is scanned as one
            unfold scanned at hl
            split at hl
            · rename_i hv
              have hlv : v = l := Sum.inr.inj hl
              subst hlv
              exact (List.isChain_cons_cons.mp h).1 ⟨⟨hs.1, hpair.1⟩, hpair.2, hv.2⟩
            · cases hl
      · rw [scanned, if_neg hs, readUnit, if_neg hs]
        rfl

/-- **`scanString_units`** — a string literal is read back code point by code point. -/
theorem scanString_units (s : CodePoints) (r : List Char) :
    scanString d (s.units.flatMap escapeUnit ++ '"' :: r) =
      (readUnits d s.units).map fun cs => (cs, r) := by
  unfold scanString
  rw [scanUnits_flatMap]
  show (joinSurrogates d (s.units.map scanned)).map _ = _
  rw [joinSurrogates_scanned d s.unpaired]

end Strings

/-! ## Numbers read back -/

theorem scanFraction_of_ne {c : Char} (hc : c ≠ '.') (r : List Char) :
    scanFraction (c :: r) = some ([], c :: r) := by
  unfold scanFraction
  split
  · rename_i heq
    exact absurd (List.cons.inj heq).1 hc
  · rfl

theorem scanFraction_point {c : Char} {cs r : List Char} (hcs : ∀ x ∈ c :: cs, x.isDigit = true)
    (hr : ∀ x ∈ r.head?, x.isDigit = false) :
    scanFraction ('.' :: (c :: cs ++ r)) = some (c :: cs, r) := by
  obtain ⟨htake, hdrop⟩ := takeWhile_digits hcs hr
  unfold scanFraction
  simp only
  rw [htake, hdrop, if_neg (List.cons_ne_nil c cs)]

/-- An exponent with a sign is read back. -/
theorem scanExponent_digits (n : Nat) {r : List Char} (hr : Delimited r) :
    scanExponent ('e' :: '+' :: (Nat.toDigits 10 n ++ r)) = some (some (n : Int), r) := by
  obtain ⟨htake, hdrop⟩ := takeWhile_digits (isDigit_toDigits n) fun c hc => (hr c hc).1
  have hsign : scanSign ('+' :: (Nat.toDigits 10 n ++ r)) = (false, Nat.toDigits 10 n ++ r) := rfl
  unfold scanExponent
  dsimp only
  rw [if_pos (Or.inl rfl), hsign]
  simp only [htake, hdrop, if_neg Nat.toDigits_ne_nil, Nat.ofDigitChars_ten_toDigits,
    Bool.false_eq_true, if_false]

/-- One digit, a fraction and an exponent. -/
theorem scanNumber_point {cs : List Char} {c : Char} {ds r : List Char} {n : Nat}
    (hds : ∀ x ∈ c :: ds, x.isDigit = true) (hr : Delimited r)
    (hcs : (scanMinus cs).2 = pointed (c :: ds) ++ 'e' :: '+' :: (Nat.toDigits 10 n ++ r)) :
    scanNumber cs = some (.fractional ⟨(scanMinus cs).1, Nat.ofDigitChars 10 (c :: ds) 0,
      n - ds.length⟩, r) := by
  have hexponent := scanExponent_digits n hr
  have he : ∀ x ∈ ('e' :: '+' :: (Nat.toDigits 10 n ++ r)).head?, x.isDigit = false := by
    intro x hx
    rw [← Option.some.inj hx]
    rfl
  -- the digits after the first one are the fraction
  obtain ⟨rest, hrest, hhead, hfraction⟩ : ∃ rest,
      pointed (c :: ds) ++ 'e' :: '+' :: (Nat.toDigits 10 n ++ r) = [c] ++ rest ∧
      (∀ x ∈ rest.head?, x.isDigit = false) ∧
      scanFraction rest = some (ds, 'e' :: '+' :: (Nat.toDigits 10 n ++ r)) := by
    rw [List.forall_mem_cons] at hds
    cases ds with
    | nil => exact ⟨_, rfl, he, scanFraction_of_ne (by decide) _⟩
    | cons d ds =>
        refine ⟨_, rfl, fun x hx => ?_, scanFraction_point hds.2 he⟩
        rw [← Option.some.inj hx]
        rfl
  have hc : ∀ x ∈ [c], x.isDigit = true := by
    intro x hx
    rw [List.mem_singleton.mp hx]
    exact hds c List.mem_cons_self
  obtain ⟨htake, hdrop⟩ := takeWhile_digits hc hhead
  have hlead : ¬([c] = [] ∨ [c].head? = some '0' ∧ 1 < [c].length) := by simp
  unfold scanNumber
  rw [hcs, hrest]
  dsimp only
  rw [htake, hdrop, if_neg hlead, hfraction]
  dsimp only
  rw [hexponent, Option.map_some, numberOf, if_neg fun h => Option.some_ne_none _ h.2]
  rfl

/-- **`scanNumber_exponentText`** — an integer in exponent form is read back. -/
theorem scanNumber_exponentText (negative : Bool) (digits zeros : Nat) {r : List Char}
    (hr : Delimited r) : scanNumber (exponentText negative digits zeros ++ r) =
      some (.fractional ⟨negative, digits, zeros⟩, r) := by
  obtain ⟨c, ds, hdigits, hc⟩ := exists_cons_of_toDigits digits
  have hall : ∀ x ∈ c :: ds, x.isDigit = true := by
    rw [← hdigits]
    exact isDigit_toDigits digits
  have hvalue : Nat.ofDigitChars 10 (c :: ds) 0 = digits := by
    rw [← hdigits]
    exact Nat.ofDigitChars_ten_toDigits
  have hexponent : ((zeros + ds.length : Nat) : Int) - ds.length = zeros := by omega
  have htext : exponentText negative digits zeros ++ r = (if negative then ['-'] else []) ++
      (pointed (c :: ds) ++ 'e' :: '+' :: (Nat.toDigits 10 (zeros + ds.length) ++ r)) := by
    unfold exponentText
    simp only [hdigits, List.length_cons, Nat.add_sub_cancel, List.append_assoc, List.cons_append]
  have hminus : scanMinus (exponentText negative digits zeros ++ r) =
      (negative, pointed (c :: ds) ++ 'e' :: '+' :: (Nat.toDigits 10 (zeros + ds.length) ++ r)) := by
    rw [htext]
    cases negative with
    | true => rfl
    | false =>
        cases ds with
        | nil => exact scanMinus_digit hc _
        | cons d ds => exact scanMinus_digit hc _
  have hscan : scanNumber (exponentText negative digits zeros ++ r) = _ :=
    scanNumber_point hall hr (congrArg Prod.snd hminus)
  rw [hscan, hminus, hvalue, hexponent]

theorem exists_cons_of_exponentText (negative : Bool) (digits zeros : Nat) :
    ∃ c cs, exponentText negative digits zeros = c :: cs ∧ BeginsInt c := by
  obtain ⟨c, ds, hdigits, hc⟩ := exists_cons_of_toDigits digits
  unfold exponentText
  rw [hdigits]
  cases negative with
  | true => exact ⟨_, _, rfl, Or.inl rfl⟩
  | false =>
      cases ds with
      | nil => exact ⟨_, _, rfl, Or.inr hc⟩
      | cons d ds => exact ⟨_, _, rfl, Or.inr hc⟩

/-! ## Objects read back -/

section Objects

variable {C F : Type} [BEq C] (d : Dialect C F)

/-- What a value is read as. -/
def readScalar : Scalar → Option (Json (List C) F)
  | .null => some .null
  | .integer n => d.number (.integer (decide (n < 0)) n.natAbs)
  | .exponential negative digits zeros => d.number (.fractional ⟨negative, digits, zeros⟩)
  | .string s => (readUnits d s.units).map .string

/-- `readScalar` of each member. -/
def readMembers : List (List Char × Scalar) → Option (List (List C × Json (List C) F))
  | [] => some []
  | (k, v) :: ms => do
    let v ← readScalar d v
    let ms ← readMembers ms
    return addMember (k.map d.char) v ms

theorem length_literal_pos (v : Scalar) : 0 < (literal v).length := by
  cases v with
  | null => decide
  | integer n =>
      obtain ⟨c, cs, hn, -⟩ := exists_cons_of_intText n
      rw [literal, hn]
      exact Nat.succ_pos _
  | exponential negative digits zeros =>
      obtain ⟨c, cs, hn, -⟩ := exists_cons_of_exponentText negative digits zeros
      rw [literal, hn]
      exact Nat.succ_pos _
  | string s => exact Nat.succ_pos _

/-- A value without parts is read back, whatever follows it. -/
theorem parseValue_literal (v : Scalar) (fuel : Nat) {r : List Char} (hr : Delimited r) :
    parseValue d (fuel + 1) (literal v ++ r) = (readScalar d v).map fun v => (v, r) := by
  cases v with
  | null => exact parseValue_null d fuel r
  | integer n => exact parseValue_intText d fuel n hr
  | exponential negative digits zeros =>
      obtain ⟨c, cs, hn, hc⟩ := exists_cons_of_exponentText negative digits zeros
      refine parseValue_number d fuel hn hc ?_
      exact scanNumber_exponentText negative digits zeros hr
  | string s =>
      rw [literal, quoteUnits, List.cons_append, List.append_assoc, List.singleton_append,
        parseValue, skipWs_cons (by decide)]
      simp only [scanString_units, readScalar]
      cases readUnits d s.units <;> rfl

/-- The members of an object are read back one by one. -/
theorem parseMembers_literal (ms : List (List Char × Scalar)) (fuel : Nat) (r : List Char)
    (hne : ms ≠ []) (hfuel : (literalMembers ms).length < fuel) :
    parseMembers d fuel (literalMembers ms ++ '}' :: r) =
      (readMembers d ms).map fun ms => (ms, r) := by
  induction ms generalizing fuel with
  | nil => exact absurd rfl hne
  | cons m ms ih =>
      obtain ⟨k, v⟩ := m
      -- one round of the fuel for this member, at least one more for its value
      have hpos := length_literal_pos v
      rw [literalMembers] at hfuel ⊢
      simp only [List.length_cons, List.length_append] at hfuel
      obtain ⟨fuel, rfl⟩ : ∃ n, fuel = n + 1 + 1 := ⟨fuel - 2, by omega⟩
      rw [List.cons_append, List.append_assoc, List.cons_append, List.cons_append,
        List.append_assoc, parseMembers, skipWs_cons (by decide)]
      simp only [scanString_escape, skipWs_cons (c := ':') (by decide)]
      rw [readMembers]
      cases ms with
      | nil =>
          rw [List.isEmpty_nil, if_pos rfl, List.nil_append,
            parseValue_literal d v fuel (delimited_brace r)]
          cases readScalar d v with
          | none => rfl
          | some v =>
              simp only [Option.map_some, skipWs_cons (c := '}') (by decide)]
              rfl
      | cons m ms =>
          rw [List.isEmpty_cons, if_neg Bool.false_ne_true] at hfuel ⊢
          rw [List.length_cons] at hfuel
          rw [List.cons_append, parseValue_literal d v fuel (delimited_comma _)]
          cases readScalar d v with
          | none => rfl
          | some v =>
              simp only [Option.map_some, skipWs_cons (c := ',') (by decide), if_true]
              rw [ih (fuel + 1) (List.cons_ne_nil _ _) (by omega)]
              cases readMembers d (m :: ms) <;> rfl

/-- **`parseText_stringify`** — what a parser makes of a serialized object. -/
theorem parseText_stringify (ms : List (List Char × Scalar)) :
    parseText d (stringify ms) = (readMembers d ms).map .object := by
  have hvalue : parseValue d (2 * (stringify ms).length + 2) (stringify ms) =
      (readMembers d ms).map fun ms => (.object ms, []) := by
    cases ms with
    | nil => exact parseValue_emptyObject d _ []
    | cons m ms =>
        have hmembers := parseMembers_literal d (m :: ms) (2 * (stringify (m :: ms)).length + 1) []
          (List.cons_ne_nil _ _) (by
            simp only [stringify, List.length_cons, List.length_append]
            omega)
        obtain ⟨k, v⟩ := m
        rw [stringify, literalMembers, List.cons_append] at hmembers ⊢
        rw [parseValue_object, hmembers]
        cases readMembers d ((k, v) :: ms) <;> rfl
  unfold parseText
  rw [hvalue]
  cases readMembers d ms with
  | none => rfl
  | some ms => rfl

/-- Members whose names differ are read back one by one. -/
theorem readMembers_eq [LawfulBEq C] {ms : List (List Char × Scalar)}
    {out : List (List C × Json (List C) F)}
    (h : List.Forall₂ (fun m o => o.1 = m.1.map d.char ∧ readScalar d m.2 = some o.2) ms out)
    (hnodup : (out.map Prod.fst).Nodup) : readMembers d ms = some out := by
  induction h with
  | nil => rfl
  | @cons m o ms out hm _ ih =>
      obtain ⟨k, v⟩ := m
      obtain ⟨k', v'⟩ := o
      obtain ⟨rfl, hv⟩ := hm
      obtain ⟨hfresh, hnodup⟩ := List.nodup_cons.mp hnodup
      have hnone : (out.any fun m => m.1 == k.map d.char) = false := by
        rw [List.any_eq_false]
        intro p hp heq
        exact hfresh (List.mem_map.mpr ⟨p, hp, eq_of_beq heq⟩)
      rw [readMembers, hv, ih hnodup]
      show some (addMember (k.map d.char) v' out) = _
      rw [addMember, hnone, if_neg Bool.false_ne_true]

/-- One value that cannot be read makes the object unreadable. -/
theorem readMembers_eq_none {ms : List (List Char × Scalar)} {m : List Char × Scalar}
    (hm : m ∈ ms) (h : readScalar d m.2 = none) : readMembers d ms = none := by
  induction ms with
  | nil => cases hm
  | cons m' ms ih =>
      obtain ⟨k, v⟩ := m'
      rw [readMembers]
      cases hm with
      | head => rw [h]; rfl
      | tail _ hm =>
          rw [ih hm]
          cases readScalar d v <;> rfl

end Objects

end TinyIM.Lib.Json
