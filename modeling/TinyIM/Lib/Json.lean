/-
# Json — JSON values, a serializer, and a parser for the dialects of two libraries

One value type carries both directions. It is generic over the type `S` of its strings and the type
`F` of its non-integer numbers, because the two directions use different ones:

* the serializer takes a `Json Bytes Empty`: strings are whatever bytes a `std::string` holds, and it
  refuses the value (`none`: the exception) as soon as one of them is not well-formed UTF-8;
* the parser returns a `Json (List C) F`, where a `Dialect C F` says what its strings and numbers are
  made of. The grammar of RFC 8259 is the same for all; the dialects differ in what they do with a
  surrogate escape that has no partner and with the value of a number.

The C++ library has two habits on top (`parse`): the input ends at its first NUL, and a byte-order
mark in front is skipped. In it, integers without fraction and exponent keep their exact value as long
as 64 bits hold them; of two members with one name the last one counts; the members of an object are
written in the byte order of their names.
-/
import TinyIM.Lib.Text
import Mathlib.Algebra.Group.Int.Defs
import Mathlib.Algebra.Group.Nat.Defs

namespace TinyIM.Lib

open TinyIM.Lib.Text

/-! ## Values -/

/-- A JSON value; the integer kinds are the ones the library stores. -/
inductive Json (S F : Type) where
  | null
  | boolean (b : Bool)
  | number_integer (n : Int64)
  | number_unsigned (n : UInt64)
  | number_float (x : F)
  | string (s : S)
  | array (xs : List (Json S F))
  | object (ms : List (S × Json S F))

namespace Json

/-- Write a member of an object: `j[k] = v`, the members being kept in the order of their names. -/
def setMember {F : Type} (k : Bytes) (v : Json Bytes F) :
    List (Bytes × Json Bytes F) → List (Bytes × Json Bytes F)
  | [] => [(k, v)]
  | (k', v') :: ms =>
    if k = k' then (k, v) :: ms
    else if k < k' then (k, v) :: (k', v') :: ms
    else (k', v') :: setMember k v ms

/-- The object a sequence of assignments `j[k] = v` builds. -/
def mkObject {F : Type} (ms : List (Bytes × Json Bytes F)) : Json Bytes F :=
  .object (ms.foldl (fun o m => setMember m.1 m.2 o) [])

/-! ## The serializer -/

/-- One character inside a string literal. -/
def escapeChar (c : Char) : List Char :=
  if c = '"' then ['\\', '"']
  else if c = '\\' then ['\\', '\\']
  else if c = '\x08' then ['\\', 'b']
  else if c = '\t' then ['\\', 't']
  else if c = '\n' then ['\\', 'n']
  else if c = '\x0c' then ['\\', 'f']
  else if c = '\r' then ['\\', 'r']
  else if c.toNat < 32 then
    ['\\', 'u', '0', '0', hexDigit (c.toNat / 16), hexDigit (c.toNat % 16)]
  else [c]

/-- A string literal, or `none` when the bytes are not well-formed UTF-8. -/
def quote (s : Bytes) : Option (List Char) :=
  (decodeUtf8 s).map fun cs => '"' :: cs.flatMap escapeChar ++ ['"']

mutual

/-- The text of a value, without any whitespace. -/
def text : Json Bytes Empty → Option (List Char)
  | .null => some "null".toList
  | .boolean true => some "true".toList
  | .boolean false => some "false".toList
  | .number_integer n => some (intText n.toInt)
  | .number_unsigned n => some (intText n.toNat)
  | .number_float x => nomatch x
  | .string s => quote s
  | .array xs => (textElements xs).map fun t => '[' :: t ++ [']']
  | .object ms => (textMembers ms).map fun t => '{' :: t ++ ['}']

/-- The elements of an array, with commas between them. -/
def textElements : List (Json Bytes Empty) → Option (List Char)
  | [] => some []
  | x :: xs => do
    let t ← text x
    let ts ← textElements xs
    return if xs.isEmpty then t else t ++ ',' :: ts

/-- The members of an object, with commas between them. -/
def textMembers : List (Bytes × Json Bytes Empty) → Option (List Char)
  | [] => some []
  | (k, v) :: ms => do
    let n ← quote k
    let t ← text v
    let ts ← textMembers ms
    return if ms.isEmpty then n ++ ':' :: t else n ++ ':' :: t ++ ',' :: ts

end

theorem exists_quote {s : Bytes} (h : ValidUtf8 s) : ∃ t, quote s = some t := by
  obtain ⟨cs, rfl⟩ := h
  exact ⟨_, by rw [quote, decodeUtf8_utf8, Option.map_some]⟩

/-- `dump()`: the bytes of the text, or `none` where the library throws. -/
def dump (j : Json Bytes Empty) : Option Bytes := (text j).map utf8

mutual

/-- Every string of the value, member names included, is well-formed UTF-8. -/
def WellFormed : Json Bytes Empty → Prop
  | .string s => ValidUtf8 s
  | .array xs => WellFormedElements xs
  | .object ms => WellFormedMembers ms
  | _ => True

/-- `WellFormed` of each element. -/
def WellFormedElements : List (Json Bytes Empty) → Prop
  | [] => True
  | x :: xs => WellFormed x ∧ WellFormedElements xs

/-- `WellFormed` of each member. -/
def WellFormedMembers : List (Bytes × Json Bytes Empty) → Prop
  | [] => True
  | (k, v) :: ms => (ValidUtf8 k ∧ WellFormed v) ∧ WellFormedMembers ms

end

mutual

/-- A well-formed value has a text. -/
theorem exists_text : ∀ {j : Json Bytes Empty}, WellFormed j → ∃ t, text j = some t
  | .null, _ => ⟨_, rfl⟩
  | .boolean true, _ => ⟨_, rfl⟩
  | .boolean false, _ => ⟨_, rfl⟩
  | .number_integer _, _ => ⟨_, rfl⟩
  | .number_unsigned _, _ => ⟨_, rfl⟩
  | .string s, h => exists_quote h
  | .array xs, h => by
      obtain ⟨t, ht⟩ := exists_textElements h
      exact ⟨_, by rw [text, ht, Option.map_some]⟩
  | .object ms, h => by
      obtain ⟨t, ht⟩ := exists_textMembers h
      exact ⟨_, by rw [text, ht, Option.map_some]⟩

theorem exists_textElements :
    ∀ {xs : List (Json Bytes Empty)}, WellFormedElements xs → ∃ t, textElements xs = some t
  | [], _ => ⟨_, rfl⟩
  | x :: xs, h => by
      obtain ⟨t, ht⟩ := exists_text h.1
      obtain ⟨ts, hts⟩ := exists_textElements h.2
      exact ⟨_, by rw [textElements, ht, hts]; rfl⟩

theorem exists_textMembers :
    ∀ {ms : List (Bytes × Json Bytes Empty)}, WellFormedMembers ms → ∃ t, textMembers ms = some t
  | [], _ => ⟨_, rfl⟩
  | (k, v) :: ms, h => by
      obtain ⟨n, hn⟩ := exists_quote h.1.1
      obtain ⟨t, ht⟩ := exists_text h.1.2
      obtain ⟨ts, hts⟩ := exists_textMembers h.2
      exact ⟨_, by rw [textMembers, hn, ht, hts]; rfl⟩

end

/-- **`exists_dump`** — `dump()` of a well-formed value does not throw. -/
theorem exists_dump {j : Json Bytes Empty} (h : WellFormed j) : ∃ s, dump j = some s := by
  obtain ⟨t, ht⟩ := exists_text h
  exact ⟨utf8 t, by rw [dump, ht, Option.map_some]⟩

/-- Two values with one dump have one text. -/
theorem text_eq_of_dump_eq {j j' : Json Bytes Empty} {s : Bytes} (h : dump j = some s)
    (h' : dump j' = some s) : text j = text j' := by
  obtain ⟨t, ht, hs⟩ := Option.map_eq_some_iff.mp h
  obtain ⟨t', ht', hs'⟩ := Option.map_eq_some_iff.mp h'
  rw [ht, ht', utf8_injective (hs.trans hs'.symm)]

/-- The text of an object begins with the name of its first member. -/
theorem exists_of_text_object {k : Bytes} {v : Json Bytes Empty}
    {ms : List (Bytes × Json Bytes Empty)} {t : List Char}
    (h : text (.object ((k, v) :: ms)) = some t) :
    ∃ n rest, quote k = some n ∧ t = '{' :: (n ++ rest) := by
  rw [text, textMembers] at h
  cases hk : quote k with
  | none =>
      rw [hk] at h
      cases h
  | some n =>
      cases hv : text v with
      | none =>
          rw [hk, hv] at h
          cases h
      | some tv =>
          cases hms : textMembers ms with
          | none =>
              rw [hk, hv, hms] at h
              cases h
          | some ts =>
              rw [hk, hv, hms] at h
              refine ⟨n, (if ms.isEmpty then ':' :: tv else ':' :: tv ++ ',' :: ts) ++ ['}'], rfl, ?_⟩
              rw [← Option.some.inj h]
              show '{' :: (if ms.isEmpty then n ++ ':' :: tv else n ++ ':' :: tv ++ ',' :: ts) ++ ['}'] = _
              split
              · simp
              · simp

theorem wellFormedMembers_setMember {k : Bytes} {v : Json Bytes Empty} (hk : ValidUtf8 k)
    (hv : WellFormed v) {ms : List (Bytes × Json Bytes Empty)} (hms : WellFormedMembers ms) :
    WellFormedMembers (setMember k v ms) := by
  induction ms with
  | nil => exact ⟨⟨hk, hv⟩, hms⟩
  | cons m ms ih =>
      obtain ⟨k', v'⟩ := m
      rw [setMember]
      split
      · exact ⟨⟨hk, hv⟩, hms.2⟩
      · split
        · exact ⟨⟨hk, hv⟩, hms⟩
        · exact ⟨hms.1, ih hms.2⟩

/-- An object built from well-formed members is well-formed. -/
theorem wellFormed_mkObject {ms : List (Bytes × Json Bytes Empty)}
    (h : ∀ m ∈ ms, ValidUtf8 m.1 ∧ WellFormed m.2) : WellFormed (mkObject ms) := by
  have hfold : ∀ (ms o : List (Bytes × Json Bytes Empty)),
      (∀ m ∈ ms, ValidUtf8 m.1 ∧ WellFormed m.2) → WellFormedMembers o →
      WellFormedMembers (ms.foldl (fun o m => setMember m.1 m.2 o) o) := by
    intro ms
    induction ms with
    | nil => exact fun o _ ho => ho
    | cons m ms ih =>
        intro o hms ho
        rw [List.forall_mem_cons] at hms
        exact ih _ hms.2 (wellFormedMembers_setMember hms.1.1 hms.1.2 ho)
  exact hfold ms [] h trivial

/-! ## The parser -/

/-- A number literal with a fraction or an exponent: `± digits · 10 ^ exponent`. -/
structure Decimal where
  negative : Bool
  digits : Nat
  exponent : Int
  deriving DecidableEq, Repr

/-- A number literal, before the library chooses how to store it. -/
inductive Number where
  | integer (negative : Bool) (n : Nat)
  | fractional (d : Decimal)
  deriving DecidableEq, Repr

/-- The whitespace of the grammar. -/
def isWs (c : Char) : Bool := c = ' ' || c = '\t' || c = '\n' || c = '\r'

/-- Skip whitespace. -/
def skipWs (cs : List Char) : List Char := cs.dropWhile isWs

/-- The value of a hexadecimal digit. -/
def hexValue (c : Char) : Option Nat :=
  if '0' ≤ c && c ≤ '9' then some (c.toNat - '0'.toNat)
  else if 'a' ≤ c && c ≤ 'f' then some (c.toNat - 'a'.toNat + 10)
  else if 'A' ≤ c && c ≤ 'F' then some (c.toNat - 'A'.toNat + 10)
  else none

/-- The code unit of a `\u` escape. -/
def hex4 (a b c d : Char) : Option Nat := do
  let a ← hexValue a
  let b ← hexValue b
  let c ← hexValue c
  let d ← hexValue d
  return ((a * 16 + b) * 16 + c) * 16 + d

/-- The character of a one-letter escape. -/
def unescape (c : Char) : Option Char :=
  if c = '"' then some '"'
  else if c = '\\' then some '\\'
  else if c = '/' then some '/'
  else if c = 'b' then some '\x08'
  else if c = 'f' then some '\x0c'
  else if c = 'n' then some '\n'
  else if c = 'r' then some '\r'
  else if c = 't' then some '\t'
  else none

/-- What a parser makes its strings and numbers of. -/
structure Dialect (C F : Type) where
  /-- A character of a string. -/
  char : Char → C
  /-- A surrogate escape that has no partner, or `none` where that is an error. -/
  surrogate : Nat → Option C
  /-- The value of a number literal, or `none` where it is an error. -/
  number : Number → Option (Json (List C) F)

/-- A string literal after its opening quote, and what follows the closing one. A surrogate escape
is left as it is for the moment. -/
def scanUnits : List Char → Option (List (Char ⊕ Nat) × List Char)
  | [] => none
  | c :: r =>
    if c = '"' then some ([], r)
    else if c = '\\' then
      match r with
      | 'u' :: a₀ :: a₁ :: a₂ :: a₃ :: r =>
        match hex4 a₀ a₁ a₂ a₃ with
        | none => none
        | some u =>
          (scanUnits r).map fun p =>
            ((if u < 0xD800 ∨ 0xDFFF < u then .inl (Char.ofNat u) else .inr u) :: p.1, p.2)
      | e :: r =>
        match unescape e with
        | none => none
        | some c => (scanUnits r).map fun p => (.inl c :: p.1, p.2)
      | [] => none
    -- a control character has to be escaped
    else if c.toNat < 32 then none
    else (scanUnits r).map fun p => (.inl c :: p.1, p.2)

/-- Join each high surrogate with the low one right after it. -/
def joinSurrogates {C F : Type} (d : Dialect C F) : List (Char ⊕ Nat) → Option (List C)
  | [] => some []
  | .inl c :: us => (joinSurrogates d us).map (d.char c :: ·)
  | .inr u :: .inr l :: us =>
    if u < 0xDC00 ∧ 0xDC00 ≤ l then
      (joinSurrogates d us).map
        (d.char (Char.ofNat (0x10000 + (u - 0xD800) * 0x400 + (l - 0xDC00))) :: ·)
    else
      match d.surrogate u with
      | none => none
      | some c => (joinSurrogates d (.inr l :: us)).map (c :: ·)
  | .inr u :: us =>
    match d.surrogate u with
    | none => none
    | some c => (joinSurrogates d us).map (c :: ·)

/-- A string literal after its opening quote: its characters and what follows the closing one. -/
def scanString {C F : Type} (d : Dialect C F) (cs : List Char) : Option (List C × List Char) :=
  match scanUnits cs with
  | none => none
  | some (us, r) => (joinSurrogates d us).map fun s => (s, r)

/-- A minus sign, if there is one. -/
def scanMinus : List Char → Bool × List Char
  | '-' :: r => (true, r)
  | cs => (false, cs)

/-- The sign of an exponent, if there is one. -/
def scanSign : List Char → Bool × List Char
  | '-' :: r => (true, r)
  | '+' :: r => (false, r)
  | cs => (false, cs)

/-- The digits of a fraction, none if there is no fraction. -/
def scanFraction : List Char → Option (List Char × List Char)
  | '.' :: r =>
    if r.takeWhile Char.isDigit = [] then none
    else some (r.takeWhile Char.isDigit, r.dropWhile Char.isDigit)
  | cs => some ([], cs)

/-- The value of an exponent, if there is one. -/
def scanExponent : List Char → Option (Option Int × List Char)
  | [] => some (none, [])
  | e :: r =>
    if e = 'e' ∨ e = 'E' then
      let digits := (scanSign r).2.takeWhile Char.isDigit
      let n := Nat.ofDigitChars 10 digits 0
      if digits = [] then none
      else some (some (if (scanSign r).1 then -(n : Int) else n), (scanSign r).2.dropWhile Char.isDigit)
    else some (none, e :: r)

/-- The literal with these parts. -/
def numberOf (negative : Bool) (whole fraction : List Char) (exponent : Option Int) : Number :=
  if fraction = [] ∧ exponent = none then .integer negative (Nat.ofDigitChars 10 whole 0)
  else .fractional ⟨negative, Nat.ofDigitChars 10 (whole ++ fraction) 0,
    exponent.getD 0 - fraction.length⟩

/-- A number literal at the front of the input. -/
def scanNumber (cs : List Char) : Option (Number × List Char) :=
  let whole := (scanMinus cs).2.takeWhile Char.isDigit
  if whole = [] ∨ (whole.head? = some '0' ∧ 1 < whole.length) then none
  else
    match scanFraction ((scanMinus cs).2.dropWhile Char.isDigit) with
    | none => none
    | some (fraction, r) =>
      (scanExponent r).map fun p => (numberOf (scanMinus cs).1 whole fraction p.1, p.2)

section Parser

variable {C F : Type} [BEq C] (d : Dialect C F)

/-- A literal name at the front of the input. -/
def keyword (w : List Char) (v : Json (List C) F) (cs : List Char) :
    Option (Json (List C) F × List Char) :=
  if w.isPrefixOf cs then some (v, cs.drop w.length) else none

/-- Put a member in front of the members that follow it in the text; a later one of its name wins. -/
def addMember (k : List C) (v : Json (List C) F)
    (ms : List (List C × Json (List C) F)) : List (List C × Json (List C) F) :=
  -- `ms` comes later in the text
  if ms.any fun m => m.1 == k then ms else (k, v) :: ms

mutual

/-- A value, and the input after it. The fuel bounds the number of nested calls. -/
def parseValue : Nat → List Char → Option (Json (List C) F × List Char)
  | 0, _ => none
  | fuel + 1, cs =>
    match skipWs cs with
    | [] => none
    | c :: r =>
      if c = '{' then
        match skipWs r with
        | '}' :: r => some (.object [], r)
        | r => (parseMembers fuel r).map fun p => (.object p.1, p.2)
      else if c = '[' then
        match skipWs r with
        | ']' :: r => some (.array [], r)
        | r => (parseElements fuel r).map fun p => (.array p.1, p.2)
      else if c = '"' then (scanString d r).map fun p => (.string p.1, p.2)
      else if c = 'n' then keyword "null".toList .null (c :: r)
      else if c = 't' then keyword "true".toList (.boolean true) (c :: r)
      else if c = 'f' then keyword "false".toList (.boolean false) (c :: r)
      else
        match scanNumber (c :: r) with
        | none => none
        | some (n, r) => (d.number n).map fun v => (v, r)

/-- The elements of a non-empty array, up to its closing bracket. -/
def parseElements : Nat → List Char → Option (List (Json (List C) F) × List Char)
  | 0, _ => none
  | fuel + 1, cs =>
    match parseValue fuel cs with
    | none => none
    | some (v, r) =>
      match skipWs r with
      | c :: r =>
        if c = ',' then (parseElements fuel r).map fun p => (v :: p.1, p.2)
        else if c = ']' then some ([v], r)
        else none
      | [] => none

/-- The members of a non-empty object, up to its closing brace. -/
def parseMembers : Nat → List Char →
    Option (List (List C × Json (List C) F) × List Char)
  | 0, _ => none
  | fuel + 1, cs =>
    match skipWs cs with
    | '"' :: r =>
      match scanString d r with
      | none => none
      | some (k, r) =>
        match skipWs r with
        | ':' :: r =>
          match parseValue fuel r with
          | none => none
          | some (v, r) =>
            match skipWs r with
            | c :: r =>
              if c = ',' then (parseMembers fuel r).map fun p => (addMember k v p.1, p.2)
              else if c = '}' then some ([(k, v)], r)
              else none
            | [] => none
        | _ => none
    | _ => none

end

/-- A whole text: one value with nothing but whitespace around it. -/
def parseText (cs : List Char) : Option (Json (List C) F) :=
  match parseValue d (2 * cs.length + 2) cs with
  | none => none
  | some (v, r) => if skipWs r = [] then some v else none

end Parser

/-! ## The C++ library -/

section Library

variable {F : Type} (float : Decimal → Option F)

/-- How a number is stored: unsigned if it has no sign and fits, signed if it has one and fits, as a
floating-point number otherwise. -/
def storeNumber {S : Type} : Number → Option (Json S F)
  | .integer false n =>
    if n < 2 ^ 64 then some (.number_unsigned (UInt64.ofNat n))
    else (float ⟨false, n, 0⟩).map .number_float
  | .integer true n =>
    if n ≤ 2 ^ 63 then some (.number_integer (Int64.ofInt (-(n : Int))))
    else (float ⟨true, n, 0⟩).map .number_float
  | .fractional d => (float d).map .number_float

/-- A string is a sequence of Unicode scalar values; what becomes of a number that is not a 64-bit
integer is left to `float`. -/
def library : Dialect Char F := ⟨id, fun _ => none, storeNumber float⟩

/-- Skip a byte-order mark in front of the input. -/
def skipBom : List Char → List Char
  | '\uFEFF' :: cs => cs
  | cs => cs

/-- `json::parse` of a byte string. A NUL outside a string literal ends the input and one inside is
an error, as the end of the input is there, so the input is what a C reader sees of it. -/
def parse (bs : Bytes) : Option (Json (List Char) F) :=
  match decodeUtf8 (cstr bs) with
  | none => none
  | some cs => parseText (library float) (skipBom cs)

end Library

end Json

end TinyIM.Lib
