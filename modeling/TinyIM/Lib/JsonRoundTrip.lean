/-
# JsonRoundTrip — the parser reads back what the serializer wrote

`reread` says what becomes of a value that is written and read in a given dialect: strings keep their
characters, an integer becomes whatever the dialect makes of its literal, and of two members with one
name the last one counts. `parseText_text` proves it of the serializer and the parser, for every value
that has a text, by one mutual induction over values, elements and members. Two things make the
induction go through: the text of a value says where it ends only together with what follows it, so
the rest of the input is arbitrary up to its first character (`Delimited`), and the fuel a text needs is
bounded by its length.
-/
import TinyIM.Lib.JsonText
import Mathlib.Data.List.Forall2

namespace TinyIM.Lib.Json

open TinyIM.Lib.Text

/-! ## Numbers -/

theorem digitChar_eq_zero_all : ∀ n, n < 10 → Nat.digitChar n = '0' → n = 0 := by decide

theorem isDigit_toDigits (n : Nat) : ∀ c ∈ Nat.toDigits 10 n, c.isDigit = true := fun _ hc =>
  Nat.isDigit_of_mem_toDigits (by decide) (by decide) hc

/-- A decimal numeral has no leading zero, unless it is zero. -/
theorem eq_zero_of_head?_toDigits (n : Nat) : (Nat.toDigits 10 n).head? = some '0' → n = 0 := by
  induction n using Nat.strongRecOn with
  | ind n ih =>
      intro h
      by_cases hn : n < 10
      · rw [Nat.toDigits_of_lt_base hn] at h
        exact digitChar_eq_zero_all n hn (Option.some.inj h)
      · rw [Nat.toDigits_of_base_le (by decide) (by omega), List.head?_append_of_ne_nil _
          Nat.toDigits_ne_nil] at h
        have hquot := ih (n / 10) (by omega) h
        omega

/-- The input goes on with something that is not part of a number. -/
def Delimited (r : List Char) : Prop :=
  ∀ c ∈ r.head?, c.isDigit = false ∧ c ≠ '.' ∧ c ≠ 'e' ∧ c ≠ 'E'

theorem delimited_nil : Delimited [] := fun c hc => by cases hc

theorem delimited_cons {c : Char} (hc : c.isDigit = false ∧ c ≠ '.' ∧ c ≠ 'e' ∧ c ≠ 'E')
    (r : List Char) : Delimited (c :: r) := by
  intro c' hc'
  rw [← Option.some.inj hc']
  exact hc

theorem takeWhile_digits {ds r : List Char} (hds : ∀ c ∈ ds, c.isDigit = true)
    (hr : ∀ c ∈ r.head?, c.isDigit = false) : (ds ++ r).takeWhile Char.isDigit = ds ∧
      (ds ++ r).dropWhile Char.isDigit = r := by
  rw [List.takeWhile_append_of_pos hds, List.dropWhile_append_of_pos hds]
  cases r with
  | nil => exact ⟨List.append_nil _, rfl⟩
  | cons c r =>
      have hneg : ¬c.isDigit = true := by
        rw [hr c rfl]
        exact Bool.false_ne_true
      rw [List.takeWhile_cons_of_neg hneg, List.dropWhile_cons_of_neg hneg]
      exact ⟨List.append_nil _, rfl⟩

/-- Digits with nothing but a delimiter after them are an integer literal. -/
theorem scanNumber_digits {cs r : List Char} {n : Nat} (hr : Delimited r)
    (hcs : (scanMinus cs).2 = Nat.toDigits 10 n ++ r) :
    scanNumber cs = some (.integer (scanMinus cs).1 n, r) := by
  obtain ⟨htake, hdrop⟩ := takeWhile_digits (isDigit_toDigits n) fun c hc => (hr c hc).1
  have hfraction : scanFraction r = some ([], r) := by
    unfold scanFraction
    split
    · exact absurd rfl (hr _ rfl).2.1
    · rfl
  have hexponent : scanExponent r = some (none, r) := by
    unfold scanExponent
    split
    · rfl
    · rename_i c r
      have hc := hr c rfl
      dsimp only
      rw [if_neg (not_or.mpr ⟨hc.2.2.1, hc.2.2.2⟩)]
  have hlead : ¬(Nat.toDigits 10 n = [] ∨
      ((Nat.toDigits 10 n).head? = some '0' ∧ 1 < (Nat.toDigits 10 n).length)) := by
    rintro (hnil | ⟨hzero, hlength⟩)
    · exact Nat.toDigits_ne_nil hnil
    · rw [eq_zero_of_head?_toDigits n hzero, Nat.toDigits_zero] at hlength
      exact absurd hlength (by decide)
  unfold scanNumber
  rw [hcs]
  dsimp only
  rw [htake, hdrop, if_neg hlead, hfraction]
  dsimp only
  rw [hexponent]
  simp only [Option.map_some, numberOf, and_self, if_true, Nat.ofDigitChars_ten_toDigits]

theorem exists_cons_of_toDigits (n : Nat) :
    ∃ c ds, Nat.toDigits 10 n = c :: ds ∧ c.isDigit = true := by
  cases hds : Nat.toDigits 10 n with
  | nil => exact absurd hds Nat.toDigits_ne_nil
  | cons c ds =>
      refine ⟨c, ds, rfl, isDigit_toDigits n c ?_⟩
      rw [hds]
      exact List.mem_cons_self

theorem scanMinus_digit {c : Char} (hc : c.isDigit = true) (r : List Char) :
    scanMinus (c :: r) = (false, c :: r) := by
  unfold scanMinus
  split
  · rename_i heq
    rw [(List.cons.inj heq).1] at hc
    exact absurd hc (by decide)
  · rfl

/-- **`scanNumber_intText`** — the decimal form of an integer is read back. -/
theorem scanNumber_intText (n : Int) {r : List Char} (hr : Delimited r) :
    scanNumber (intText n ++ r) = some (.integer (decide (n < 0)) n.natAbs, r) := by
  cases n with
  | ofNat n =>
      have hminus : scanMinus (Nat.toDigits 10 n ++ r) = (false, Nat.toDigits 10 n ++ r) := by
        obtain ⟨c, ds, hds, hc⟩ := exists_cons_of_toDigits n
        rw [hds]
        exact scanMinus_digit hc _
      show scanNumber (Nat.toDigits 10 n ++ r) = _
      rw [scanNumber_digits (n := n) hr (by rw [hminus]), hminus]
      simp
  | negSucc n =>
      have hminus : scanMinus ('-' :: (Nat.toDigits 10 (n + 1) ++ r)) =
          (true, Nat.toDigits 10 (n + 1) ++ r) := rfl
      show scanNumber ('-' :: (Nat.toDigits 10 (n + 1) ++ r)) = _
      rw [scanNumber_digits (n := n + 1) hr (by rw [hminus]), hminus]
      simp

/-! ## The texts of a value and of its parts -/

theorem quote_eq_some {s : Bytes} {t : List Char} : quote s = some t ↔
    ∃ cs, decodeUtf8 s = some cs ∧ t = '"' :: (cs.flatMap escapeChar ++ ['"']) := by
  unfold quote
  rw [Option.map_eq_some_iff]
  constructor
  · rintro ⟨cs, hcs, rfl⟩
    exact ⟨cs, hcs, rfl⟩
  · rintro ⟨cs, hcs, rfl⟩
    exact ⟨cs, hcs, rfl⟩

theorem textElements_cons_eq_some {x : Json Bytes Empty} {xs : List (Json Bytes Empty)}
    {t : List Char} : textElements (x :: xs) = some t ↔ ∃ t₁ t₂, text x = some t₁ ∧
      textElements xs = some t₂ ∧ t = if xs.isEmpty then t₁ else t₁ ++ ',' :: t₂ := by
  simp only [textElements, bind, Option.bind_eq_some_iff, pure, Option.some.injEq]
  constructor
  · rintro ⟨t₁, h₁, t₂, h₂, rfl⟩
    exact ⟨t₁, t₂, h₁, h₂, rfl⟩
  · rintro ⟨t₁, t₂, h₁, h₂, rfl⟩
    exact ⟨t₁, h₁, t₂, h₂, rfl⟩

theorem textMembers_cons_eq_some {k : Bytes} {v : Json Bytes Empty}
    {ms : List (Bytes × Json Bytes Empty)} {t : List Char} :
    textMembers ((k, v) :: ms) = some t ↔ ∃ cs t₁ t₂, decodeUtf8 k = some cs ∧ text v = some t₁ ∧
      textMembers ms = some t₂ ∧ t = '"' :: (cs.flatMap escapeChar ++ '"' :: ':' ::
        (t₁ ++ if ms.isEmpty then [] else ',' :: t₂)) := by
  simp only [textMembers, bind, Option.bind_eq_some_iff, pure, Option.some.injEq, quote_eq_some]
  constructor
  · rintro ⟨_, ⟨cs, hcs, rfl⟩, t₁, h₁, t₂, h₂, rfl⟩
    refine ⟨cs, t₁, t₂, hcs, h₁, h₂, ?_⟩
    split <;> simp
  · rintro ⟨cs, t₁, t₂, hcs, h₁, h₂, rfl⟩
    refine ⟨_, ⟨cs, hcs, rfl⟩, t₁, h₁, t₂, h₂, ?_⟩
    split <;> simp

/-- The character begins an integer literal. -/
def BeginsInt (c : Char) : Prop := c = '-' ∨ c.isDigit = true

theorem BeginsInt.ne {c x : Char} (hc : BeginsInt c) (hminus : x ≠ '-')
    (hdigit : x.isDigit = false) : c ≠ x := by
  rintro rfl
  rcases hc with rfl | hc
  · exact hminus rfl
  · rw [hdigit] at hc
    cases hc

theorem BeginsInt.isWs {c : Char} (hc : BeginsInt c) : isWs c = false := by
  simp only [Json.isWs, Bool.or_eq_false_iff, decide_eq_false_iff_not]
  exact ⟨⟨⟨hc.ne (by decide) (by decide), hc.ne (by decide) (by decide)⟩,
    hc.ne (by decide) (by decide)⟩, hc.ne (by decide) (by decide)⟩

theorem exists_cons_of_intText (n : Int) : ∃ c cs, intText n = c :: cs ∧ BeginsInt c := by
  cases n with
  | ofNat n =>
      obtain ⟨c, ds, hds, hc⟩ := exists_cons_of_toDigits n
      exact ⟨c, ds, hds, Or.inr hc⟩
  | negSucc n => exact ⟨_, _, rfl, Or.inl rfl⟩

/-- The first character of a text is neither whitespace nor a closing bracket. -/
theorem exists_cons_of_text {j : Json Bytes Empty} {t : List Char} (h : text j = some t) :
    ∃ c cs, t = c :: cs ∧ isWs c = false ∧ c ≠ ']' := by
  have hint : ∀ n : Int, ∃ c cs, intText n = c :: cs ∧ isWs c = false ∧ c ≠ ']' := by
    intro n
    obtain ⟨c, cs, hn, hc⟩ := exists_cons_of_intText n
    exact ⟨c, cs, hn, hc.isWs, hc.ne (by decide) (by decide)⟩
  cases j with
  | null => exact ⟨_, _, (Option.some.inj h).symm, by decide, by decide⟩
  | boolean b =>
      cases b with
      | true => exact ⟨_, _, (Option.some.inj h).symm, by decide, by decide⟩
      | false => exact ⟨_, _, (Option.some.inj h).symm, by decide, by decide⟩
  | number_integer n =>
      rw [← Option.some.inj h]
      exact hint n.toInt
  | number_unsigned n =>
      rw [← Option.some.inj h]
      exact hint n.toNat
  | number_float x => cases x
  | string s =>
      obtain ⟨cs, -, rfl⟩ := quote_eq_some.mp h
      exact ⟨_, _, rfl, by decide, by decide⟩
  | array xs =>
      rw [text, Option.map_eq_some_iff] at h
      obtain ⟨t', -, rfl⟩ := h
      exact ⟨_, _, rfl, by decide, by decide⟩
  | object ms =>
      rw [text, Option.map_eq_some_iff] at h
      obtain ⟨t', -, rfl⟩ := h
      exact ⟨_, _, rfl, by decide, by decide⟩

/-! ## Reading back -/

section RoundTrip

variable {C F : Type} [BEq C] (d : Dialect C F)

mutual

/-- What a value that was written is read as. -/
def reread : Json Bytes Empty → Option (Json (List C) F)
  | .null => some .null
  | .boolean b => some (.boolean b)
  | .number_integer n => d.number (.integer (decide (n.toInt < 0)) n.toInt.natAbs)
  | .number_unsigned n => d.number (.integer false n.toNat)
  | .number_float x => nomatch x
  | .string s => (decodeUtf8 s).map fun cs => .string (cs.map d.char)
  | .array xs => (rereadElements xs).map .array
  | .object ms => (rereadMembers ms).map .object

/-- `reread` of each element. -/
def rereadElements : List (Json Bytes Empty) → Option (List (Json (List C) F))
  | [] => some []
  | x :: xs => do
    let v ← reread x
    let vs ← rereadElements xs
    return v :: vs

/-- `reread` of each member. -/
def rereadMembers : List (Bytes × Json Bytes Empty) → Option (List (List C × Json (List C) F))
  | [] => some []
  | (k, v) :: ms => do
    let cs ← decodeUtf8 k
    let v ← reread v
    let ms ← rereadMembers ms
    return addMember (cs.map d.char) v ms

end

/-- A number literal is read as a value. -/
theorem parseValue_number (fuel : Nat) {t : List Char} {c : Char} {cs r : List Char} {n : Number}
    (ht : t = c :: cs) (hc : BeginsInt c) (hscan : scanNumber (t ++ r) = some (n, r)) :
    parseValue d (fuel + 1) (t ++ r) = (d.number n).map fun v => (v, r) := by
  rw [ht, List.cons_append] at hscan ⊢
  rw [parseValue, skipWs_cons hc.isWs]
  dsimp only
  rw [if_neg (hc.ne (by decide) (by decide)), if_neg (hc.ne (by decide) (by decide)),
    if_neg (hc.ne (by decide) (by decide)), if_neg (hc.ne (by decide) (by decide)),
    if_neg (hc.ne (by decide) (by decide)), if_neg (hc.ne (by decide) (by decide)), hscan]

/-- An integer literal is read back as a value. -/
theorem parseValue_intText (fuel : Nat) (n : Int) {r : List Char} (hr : Delimited r) :
    parseValue d (fuel + 1) (intText n ++ r) =
      (d.number (.integer (decide (n < 0)) n.natAbs)).map fun v => (v, r) := by
  obtain ⟨c, cs, hn, hc⟩ := exists_cons_of_intText n
  exact parseValue_number d fuel hn hc (scanNumber_intText n hr)

/-- The literal names are read back. -/
theorem parseValue_null (fuel : Nat) (r : List Char) :
    parseValue d (fuel + 1) ("null".toList ++ r) = some (.null, r) := by
  show parseValue d (fuel + 1) ('n' :: 'u' :: 'l' :: 'l' :: r) = _
  rw [parseValue, skipWs_cons (by decide)]
  rfl

theorem parseValue_true (fuel : Nat) (r : List Char) :
    parseValue d (fuel + 1) ("true".toList ++ r) = some (.boolean true, r) := by
  show parseValue d (fuel + 1) ('t' :: 'r' :: 'u' :: 'e' :: r) = _
  rw [parseValue, skipWs_cons (by decide)]
  rfl

theorem parseValue_false (fuel : Nat) (r : List Char) :
    parseValue d (fuel + 1) ("false".toList ++ r) = some (.boolean false, r) := by
  show parseValue d (fuel + 1) ('f' :: 'a' :: 'l' :: 's' :: 'e' :: r) = _
  rw [parseValue, skipWs_cons (by decide)]
  rfl

theorem parseValue_emptyArray (fuel : Nat) (r : List Char) :
    parseValue d (fuel + 1) ('[' :: ']' :: r) = some (.array [], r) := by
  rw [parseValue, skipWs_cons (by decide)]
  rfl

theorem parseValue_array (fuel : Nat) {c : Char} (hws : isWs c = false) (hc : c ≠ ']')
    (cs : List Char) : parseValue d (fuel + 1) ('[' :: c :: cs) =
      (parseElements d fuel (c :: cs)).map fun p => (.array p.1, p.2) := by
  rw [parseValue, skipWs_cons (by decide)]
  dsimp only
  rw [if_neg (by decide), if_pos rfl, skipWs_cons hws]
  split
  · rename_i heq
    exact absurd (List.cons.inj heq).1 hc
  · rfl

theorem parseValue_emptyObject (fuel : Nat) (r : List Char) :
    parseValue d (fuel + 1) ('{' :: '}' :: r) = some (.object [], r) := by
  rw [parseValue, skipWs_cons (by decide)]
  rfl

theorem delimited_comma (r : List Char) : Delimited (',' :: r) := delimited_cons (by decide) r

theorem delimited_bracket (r : List Char) : Delimited (']' :: r) := delimited_cons (by decide) r

theorem delimited_brace (r : List Char) : Delimited ('}' :: r) := delimited_cons (by decide) r

/-- A text takes fuel. -/
theorem exists_succ_of_text {j : Json Bytes Empty} {t : List Char} {fuel : Nat}
    (ht : text j = some t) (hfuel : t.length ≤ fuel) : ∃ n, fuel = n + 1 := by
  obtain ⟨c, cs, rfl, -⟩ := exists_cons_of_text ht
  rw [List.length_cons] at hfuel
  exact ⟨fuel - 1, by omega⟩

mutual

/-- A value is read back from its text, whatever follows it. -/
theorem parseValue_text : ∀ (j : Json Bytes Empty) {t : List Char} (fuel : Nat) (r : List Char),
    text j = some t → t.length ≤ fuel → Delimited r →
    parseValue d fuel (t ++ r) = (reread d j).map fun v => (v, r)
  | .null, t, fuel, r, ht, hfuel, _ => by
      obtain ⟨fuel, rfl⟩ := exists_succ_of_text ht hfuel
      rw [← Option.some.inj ht, parseValue_null]
      rfl
  | .boolean true, t, fuel, r, ht, hfuel, _ => by
      obtain ⟨fuel, rfl⟩ := exists_succ_of_text ht hfuel
      rw [← Option.some.inj ht, parseValue_true]
      rfl
  | .boolean false, t, fuel, r, ht, hfuel, _ => by
      obtain ⟨fuel, rfl⟩ := exists_succ_of_text ht hfuel
      rw [← Option.some.inj ht, parseValue_false]
      rfl
  | .number_integer n, t, fuel, r, ht, hfuel, hr => by
      obtain ⟨fuel, rfl⟩ := exists_succ_of_text ht hfuel
      rw [← Option.some.inj ht, parseValue_intText d fuel n.toInt hr]
      rfl
  | .number_unsigned n, t, fuel, r, ht, hfuel, hr => by
      obtain ⟨fuel, rfl⟩ := exists_succ_of_text ht hfuel
      rw [← Option.some.inj ht, parseValue_intText d fuel n.toNat hr]
      rfl
  | .string s, t, fuel, r, ht, hfuel, _ => by
      obtain ⟨fuel, rfl⟩ := exists_succ_of_text ht hfuel
      obtain ⟨cs, hcs, rfl⟩ := quote_eq_some.mp ht
      rw [reread, hcs, List.cons_append, List.append_assoc, List.singleton_append, parseValue_string]
      rfl
  | .array xs, t, fuel, r, ht, hfuel, _ => by
      obtain ⟨fuel, rfl⟩ := exists_succ_of_text ht hfuel
      rw [text, Option.map_eq_some_iff] at ht
      obtain ⟨t', ht', rfl⟩ := ht
      -- the brackets use up one round of the fuel, the elements the rest
      have htext : '[' :: t' ++ [']'] ++ r = '[' :: (t' ++ ']' :: r) := by simp
      have hlength : t'.length < fuel := by
        simp only [List.length_cons, List.length_append, List.length_nil] at hfuel
        omega
      have helements := fun hne => parseElements_text xs fuel r hne ht' hlength
      rw [htext, reread]
      cases xs with
      | nil =>
          rw [← Option.some.inj ht']
          exact parseValue_emptyArray d fuel r
      | cons x xs =>
          have hrest := helements (List.cons_ne_nil _ _)
          obtain ⟨t₁, t₂, h₁, -, heq⟩ := textElements_cons_eq_some.mp ht'
          obtain ⟨c, cs, rfl, hws, hc⟩ := exists_cons_of_text h₁
          obtain ⟨cs', rfl⟩ : ∃ cs', t' = c :: cs' := by
            rw [heq]
            split
            · exact ⟨_, rfl⟩
            · exact ⟨_, rfl⟩
          rw [List.cons_append] at hrest ⊢
          rw [parseValue_array d fuel hws hc, hrest]
          cases rereadElements d (x :: xs) <;> rfl
  | .object ms, t, fuel, r, ht, hfuel, _ => by
      obtain ⟨fuel, rfl⟩ := exists_succ_of_text ht hfuel
      rw [text, Option.map_eq_some_iff] at ht
      obtain ⟨t', ht', rfl⟩ := ht
      have htext : '{' :: t' ++ ['}'] ++ r = '{' :: (t' ++ '}' :: r) := by simp
      have hlength : t'.length < fuel := by
        simp only [List.length_cons, List.length_append, List.length_nil] at hfuel
        omega
      have hmembers := fun hne => parseMembers_text ms fuel r hne ht' hlength
      rw [htext, reread]
      cases ms with
      | nil =>
          rw [← Option.some.inj ht']
          exact parseValue_emptyObject d fuel r
      | cons m ms =>
          have hrest := hmembers (List.cons_ne_nil _ _)
          obtain ⟨cs, t₁, t₂, -, -, -, rfl⟩ := textMembers_cons_eq_some.mp ht'
          rw [List.cons_append] at hrest ⊢
          rw [parseValue_object, hrest]
          cases rereadMembers d (m :: ms) <;> rfl

/-- The elements of an array are read back up to its closing bracket. -/
theorem parseElements_text : ∀ (xs : List (Json Bytes Empty)) {t : List Char} (fuel : Nat)
    (r : List Char), xs ≠ [] → textElements xs = some t → t.length < fuel →
    parseElements d fuel (t ++ ']' :: r) = (rereadElements d xs).map fun vs => (vs, r)
  | [], t, fuel, r, hne, _, _ => absurd rfl hne
  | x :: xs, t, 0, r, _, _, hfuel => absurd hfuel (Nat.not_lt_zero _)
  | x :: xs, t, fuel + 1, r, _, ht, hfuel => by
      obtain ⟨t₁, t₂, h₁, h₂, rfl⟩ := textElements_cons_eq_some.mp ht
      have hvalue := fun r hlength => parseValue_text x fuel r h₁ hlength
      have hrest := fun hne => parseElements_text xs fuel r hne h₂
      cases xs with
      | nil =>
          rw [List.isEmpty_nil, if_pos rfl] at hfuel ⊢
          rw [parseElements, hvalue _ (Nat.le_of_lt_succ hfuel) (delimited_bracket r), rereadElements]
          cases reread d x with
          | none => rfl
          | some v =>
              simp only [Option.map_some, skipWs_cons (c := ']') (by decide)]
              rfl
      | cons x' xs =>
          rw [List.isEmpty_cons, if_neg Bool.false_ne_true] at hfuel ⊢
          rw [List.length_append, List.length_cons] at hfuel
          -- a comma ends the first element, even if that is a number
          rw [List.append_assoc, List.cons_append, parseElements,
            hvalue _ (by omega) (delimited_comma _), rereadElements]
          cases reread d x with
          | none => rfl
          | some v =>
              simp only [Option.map_some, skipWs_cons (c := ',') (by decide), if_true]
              rw [hrest (List.cons_ne_nil _ _) (by omega)]
              cases rereadElements d (x' :: xs) <;> rfl

/-- The members of an object are read back up to its closing brace. -/
theorem parseMembers_text : ∀ (ms : List (Bytes × Json Bytes Empty)) {t : List Char} (fuel : Nat)
    (r : List Char), ms ≠ [] → textMembers ms = some t → t.length < fuel →
    parseMembers d fuel (t ++ '}' :: r) = (rereadMembers d ms).map fun ms => (ms, r)
  | [], t, fuel, r, hne, _, _ => absurd rfl hne
  | (k, v) :: ms, t, 0, r, _, _, hfuel => absurd hfuel (Nat.not_lt_zero _)
  | (k, v) :: ms, t, fuel + 1, r, _, ht, hfuel => by
      obtain ⟨cs, t₁, t₂, hcs, h₁, h₂, rfl⟩ := textMembers_cons_eq_some.mp ht
      have hvalue := fun r hlength => parseValue_text v fuel r h₁ hlength
      have hrest := fun hne => parseMembers_text ms fuel r hne h₂
      simp only [List.length_cons, List.length_append] at hfuel
      rw [List.cons_append, List.append_assoc, List.cons_append, List.cons_append,
        List.append_assoc, parseMembers, skipWs_cons (by decide)]
      simp only [scanString_escape, skipWs_cons (c := ':') (by decide)]
      rw [rereadMembers, hcs]
      cases ms with
      | nil =>
          rw [List.isEmpty_nil, if_pos rfl, List.nil_append,
            hvalue _ (by omega) (delimited_brace r)]
          cases reread d v with
          | none => rfl
          | some v =>
              simp only [Option.map_some, skipWs_cons (c := '}') (by decide)]
              rfl
      | cons m ms =>
          rw [List.isEmpty_cons, if_neg Bool.false_ne_true] at hfuel ⊢
          rw [List.length_cons] at hfuel
          rw [List.cons_append, hvalue _ (by omega) (delimited_comma _)]
          cases reread d v with
          | none => rfl
          | some v =>
              simp only [Option.map_some, skipWs_cons (c := ',') (by decide), if_true]
              rw [hrest (List.cons_ne_nil _ _) (by omega)]
              cases rereadMembers d (m :: ms) <;> rfl

end

/-- **`parseText_text`** — the text of a value is read back as `reread` says. -/
theorem parseText_text {j : Json Bytes Empty} {t : List Char} (ht : text j = some t) :
    parseText d t = reread d j := by
  have hvalue := parseValue_text d j (2 * t.length + 2) [] ht (by omega) delimited_nil
  rw [List.append_nil] at hvalue
  unfold parseText
  rw [hvalue]
  cases reread d j with
  | none => rfl
  | some v => rfl

/-- Members whose names differ are read back one by one. -/
theorem rereadMembers_eq [LawfulBEq C] {ms : List (Bytes × Json Bytes Empty)}
    {out : List (List C × Json (List C) F)}
    (h : List.Forall₂ (fun m o => ∃ cs, m.1 = utf8 cs ∧ o.1 = cs.map d.char ∧
      reread d m.2 = some o.2) ms out) (hnodup : (out.map Prod.fst).Nodup) :
    rereadMembers d ms = some out := by
  induction h with
  | nil => rfl
  | @cons m o ms out hm _ ih =>
      obtain ⟨k, v⟩ := m
      obtain ⟨k', v'⟩ := o
      obtain ⟨cs, rfl, rfl, hv⟩ := hm
      obtain ⟨hfresh, hnodup⟩ := List.nodup_cons.mp hnodup
      have hnone : (out.any fun m => m.1 == cs.map d.char) = false := by
        rw [List.any_eq_false]
        intro p hp heq
        exact hfresh (List.mem_map.mpr ⟨p, hp, eq_of_beq heq⟩)
      rw [rereadMembers, decodeUtf8_utf8, hv, ih hnodup]
      show some (addMember (cs.map d.char) v' out) = _
      rw [addMember, hnone, if_neg Bool.false_ne_true]

end RoundTrip

end TinyIM.Lib.Json
