/-
# Text — byte strings, C strings, UTF-8 and decimal numbers

A C++ `std::string` is a sequence of bytes; the library calls that take a `const char *` see it only
up to its first NUL; a text is well-formed UTF-8 when it is the encoding of some sequence of Unicode
scalar values; a number crosses every text interface in base ten. This module is the arithmetic of
those notions, with nothing about any program in it:

* `utf8` / `decodeUtf8` — the encoding of a character list and its partial inverse
  (`decodeUtf8_eq_some`), so `ValidUtf8` is decidable and `utf8` is injective;
* `cstr` — the cut at the first NUL, which maps UTF-8 to UTF-8 (`cstr_utf8`);
* `intText` / `readInt` — the decimal form of an integer and the C reader `strtol`, which reads it
  back (`readInt_intText`);
* `hex` — bytes written two hexadecimal digits each, injectively (`hex_injective`).
-/
import Mathlib.Data.List.Basic
import Mathlib.Data.List.TakeWhile
import Mathlib.Tactic.Set

namespace TinyIM.Lib.Text

/-! ## Bytes and UTF-8 -/

/-- The contents of a `std::string`. -/
abbrev Bytes := List UInt8

/-- UTF-8 encoding of a sequence of Unicode scalar values. -/
def utf8 (cs : List Char) : Bytes := cs.flatMap String.utf8EncodeChar

/-- The bytes of a string literal. -/
def str (s : String) : Bytes := utf8 s.toList

@[simp] theorem utf8_nil : utf8 [] = [] := rfl

@[simp] theorem utf8_cons (c : Char) (cs : List Char) :
    utf8 (c :: cs) = String.utf8EncodeChar c ++ utf8 cs := rfl

/-- Decode at most `fuel` characters; `none` on an ill-formed sequence. -/
def decodeUtf8Aux : Nat → Bytes → Option (List Char)
  | _, [] => some []
  | 0, _ :: _ => none
  | fuel + 1, b :: bs =>
    match (ByteArray.mk (b :: bs).toArray).utf8DecodeChar? 0 with
    | none => none
    | some c => (decodeUtf8Aux fuel ((b :: bs).drop c.utf8Size)).map (c :: ·)

/-- The characters a byte string encodes, or `none` when it is not well-formed UTF-8. -/
def decodeUtf8 (bs : Bytes) : Option (List Char) := decodeUtf8Aux bs.length bs

/-- A byte string is well-formed UTF-8 when it is the encoding of some characters. -/
def ValidUtf8 (bs : Bytes) : Prop := ∃ cs, bs = utf8 cs

/-- The decoder reads exactly the first character off an encoding. -/
theorem utf8DecodeChar_encode_append (c : Char) (bs : Bytes) :
    (ByteArray.mk (String.utf8EncodeChar c ++ bs).toArray).utf8DecodeChar? 0 = some c := by
  have h := ByteArray.utf8DecodeChar?_utf8EncodeChar_append (b := ⟨bs.toArray⟩) (c := c)
  have e : ByteArray.mk (String.utf8EncodeChar c ++ bs).toArray
      = (String.utf8EncodeChar c).toByteArray ++ ⟨bs.toArray⟩ := by
    ext1
    simp [List.data_toByteArray]
  rw [e]
  exact h

/-- Conversely, what the decoder reads is the encoding at the front. -/
theorem eq_encode_append_of_decodeChar {bs : Bytes} {c : Char}
    (h : (ByteArray.mk bs.toArray).utf8DecodeChar? 0 = some c) :
    bs = String.utf8EncodeChar c ++ bs.drop c.utf8Size := by
  obtain ⟨l, hl⟩ := ByteArray.exists_of_utf8DecodeChar?_eq_some h
  have hd : bs = String.utf8EncodeChar c ++ l.data.toList := by
    have := congrArg (fun b : ByteArray => b.data.toList) hl
    simpa [List.data_toByteArray] using this
  have hlen : (String.utf8EncodeChar c).length = c.utf8Size := String.length_utf8EncodeChar c
  conv_lhs => rw [hd]
  rw [hd, ← hlen, List.drop_left]

theorem decodeUtf8Aux_utf8 (cs : List Char) :
    ∀ fuel, (utf8 cs).length ≤ fuel → decodeUtf8Aux fuel (utf8 cs) = some cs := by
  induction cs with
  | nil => intro fuel _; cases fuel <;> rfl
  | cons c cs ih =>
      intro fuel hfuel
      have hpos := Char.utf8Size_pos c
      have hlen : (String.utf8EncodeChar c).length = c.utf8Size := String.length_utf8EncodeChar c
      rw [utf8_cons, List.length_append, hlen] at hfuel
      obtain ⟨fuel, rfl⟩ : ∃ k, fuel = k + 1 := ⟨fuel - 1, by omega⟩
      have hread := utf8DecodeChar_encode_append c (utf8 cs)
      have hdrop : (String.utf8EncodeChar c ++ utf8 cs).drop c.utf8Size = utf8 cs := by
        rw [← hlen, List.drop_left]
      rw [utf8_cons]
      cases hb : String.utf8EncodeChar c ++ utf8 cs with
      | nil =>
          have := congrArg List.length hb
          simp only [List.length_append, List.length_nil, hlen] at this
          omega
      | cons b bs =>
          rw [hb] at hread hdrop
          simp only [decodeUtf8Aux, hread, hdrop, ih fuel (by omega), Option.map_some]

theorem utf8_of_decodeUtf8Aux : ∀ (fuel : Nat) (bs : Bytes) (cs : List Char),
    decodeUtf8Aux fuel bs = some cs → bs = utf8 cs
  | fuel, [], cs, h => by
      have hcs : cs = [] := by
        cases fuel <;> exact (Option.some.inj h).symm
      rw [hcs, utf8_nil]
  | 0, _ :: _, _, h => by cases h
  | fuel + 1, b :: bs, cs, h => by
      simp only [decodeUtf8Aux] at h
      split at h
      · cases h
      · rename_i c hread
        obtain ⟨ds, hds, rfl⟩ := Option.map_eq_some_iff.mp h
        have hrest := utf8_of_decodeUtf8Aux fuel _ ds hds
        rw [eq_encode_append_of_decodeChar hread, hrest, utf8_cons]

/-- **`decodeUtf8_eq_some`** — the decoder accepts exactly the encodings, each with its own
characters. -/
theorem decodeUtf8_eq_some {bs : Bytes} {cs : List Char} :
    decodeUtf8 bs = some cs ↔ bs = utf8 cs := by
  constructor
  · exact utf8_of_decodeUtf8Aux bs.length bs cs
  · rintro rfl
    exact decodeUtf8Aux_utf8 cs _ (Nat.le_refl _)

@[simp] theorem decodeUtf8_utf8 (cs : List Char) : decodeUtf8 (utf8 cs) = some cs :=
  decodeUtf8_eq_some.mpr rfl

theorem utf8_injective : Function.Injective utf8 := by
  intro cs ds h
  have hc := decodeUtf8_utf8 cs
  rw [h, decodeUtf8_utf8] at hc
  exact (Option.some.inj hc).symm

theorem validUtf8_iff {bs : Bytes} : ValidUtf8 bs ↔ (decodeUtf8 bs).isSome = true := by
  simp only [ValidUtf8, Option.isSome_iff_exists, decodeUtf8_eq_some]

instance (bs : Bytes) : Decidable (ValidUtf8 bs) := decidable_of_iff _ validUtf8_iff.symm

theorem validUtf8_utf8 (cs : List Char) : ValidUtf8 (utf8 cs) := ⟨cs, rfl⟩

/-! ## The C view: text up to the first NUL -/

/-- What a callee that takes a `const char *` sees of a string. -/
def cstr (bs : Bytes) : Bytes := bs.takeWhile (· != 0)

/-- A string with no NUL in it, which is the same text for C and for C++. -/
def NoNul (bs : Bytes) : Prop := (0 : UInt8) ∉ bs

instance (bs : Bytes) : Decidable (NoNul bs) := inferInstanceAs (Decidable (_ ∉ _))

theorem cstr_of_noNul {bs : Bytes} (h : NoNul bs) : cstr bs = bs := by
  apply List.takeWhile_eq_self_iff.mpr
  intro b hb
  have : b ≠ 0 := fun h0 => h (h0 ▸ hb)
  simpa using this

theorem noNul_cstr (bs : Bytes) : NoNul (cstr bs) := by
  intro h
  have := List.mem_takeWhile_imp h
  simp at this

@[simp] theorem cstr_cstr (bs : Bytes) : cstr (cstr bs) = cstr bs := cstr_of_noNul (noNul_cstr bs)

/-- An ASCII character is encoded by its own code. -/
theorem utf8EncodeChar_ascii {c : Char} (h : c.val ≤ 127) :
    String.utf8EncodeChar c = [c.val.toUInt8] :=
  String.utf8EncodeChar_eq_singleton (Char.utf8Size_eq_one_iff.mpr h)

/-- A byte with a bit of `m` set by `|||` is not zero. -/
theorem or_ne_zero (b : UInt8) {m : UInt8} (hm : m ≠ 0) : (0 : UInt8) ≠ b ||| m := by
  intro h
  exact hm (UInt8.or_eq_zero_iff.mp h.symm).2

/-- The only character whose encoding has a zero byte is NUL itself. -/
theorem zero_notMem_utf8EncodeChar {c : Char} (h : c ≠ '\x00') :
    (0 : UInt8) ∉ String.utf8EncodeChar c := by
  rcases Char.utf8Size_eq c with hs | hs | hs | hs
  · rw [String.utf8EncodeChar_eq_singleton hs, List.mem_singleton]
    rw [Char.utf8Size_eq_one_iff, UInt32.le_iff_toNat_le] at hs
    intro h0
    have hz := congrArg UInt8.toNat h0
    apply h
    apply Char.ext
    apply UInt32.toNat_inj.mp
    have h127 : (127 : UInt32).toNat = 127 := rfl
    simp only [UInt8.toNat_zero, UInt32.toNat_toUInt8] at hz
    show c.val.toNat = 0
    omega
  · rw [String.utf8EncodeChar_eq_cons_cons hs]
    simp only [List.mem_cons, List.not_mem_nil, or_false, not_or]
    exact ⟨or_ne_zero _ (by decide), or_ne_zero _ (by decide)⟩
  · rw [String.utf8EncodeChar_eq_cons_cons_cons hs]
    simp only [List.mem_cons, List.not_mem_nil, or_false, not_or]
    exact ⟨or_ne_zero _ (by decide), or_ne_zero _ (by decide), or_ne_zero _ (by decide)⟩
  · rw [String.utf8EncodeChar_eq_cons_cons_cons_cons hs]
    simp only [List.mem_cons, List.not_mem_nil, or_false, not_or]
    exact ⟨or_ne_zero _ (by decide), or_ne_zero _ (by decide), or_ne_zero _ (by decide),
      or_ne_zero _ (by decide)⟩

/-- **`cstr_utf8`** — cutting an encoding at its first NUL byte cuts the characters at the first NUL
character, so the C view of UTF-8 text is UTF-8 text. -/
theorem cstr_utf8 (cs : List Char) : cstr (utf8 cs) = utf8 (cs.takeWhile (· ≠ '\x00')) := by
  induction cs with
  | nil => rfl
  | cons c cs ih =>
      by_cases h : c = '\x00'
      · subst h
        rfl
      · have hpos : ∀ b ∈ String.utf8EncodeChar c, (b != 0) = true := by
          intro b hb
          have : b ≠ 0 := fun h0 => zero_notMem_utf8EncodeChar h (h0 ▸ hb)
          simpa using this
        have hc : decide (c ≠ '\x00') = true := by simpa using h
        rw [utf8_cons, List.takeWhile_cons, if_pos hc, utf8_cons, ← ih]
        exact List.takeWhile_append_of_pos hpos

theorem validUtf8_cstr {bs : Bytes} (h : ValidUtf8 bs) : ValidUtf8 (cstr bs) := by
  obtain ⟨cs, rfl⟩ := h
  rw [cstr_utf8]
  exact validUtf8_utf8 _

/-! ## Decimal integers -/

/-- The decimal form of an integer: no leading zero, `-` in front of a negative one. -/
def intText : Int → List Char
  | .ofNat n => Nat.toDigits 10 n
  | .negSucc n => '-' :: Nat.toDigits 10 (n + 1)

/-- The whitespace the C locale skips in front of a number. -/
def isSpace (c : Char) : Bool := c = ' ' || ('\t' ≤ c && c ≤ '\r')

/-- The longest digit prefix, as a number; `none` when there is no digit. -/
def readDigits (cs : List Char) : Option Nat :=
  match cs.takeWhile Char.isDigit with
  | [] => none
  | d :: ds => some (Nat.ofDigitChars 10 (d :: ds) 0)

/-- `strtol` in base ten: optional whitespace, an optional sign, digits; what follows is ignored. -/
def readInt (cs : List Char) : Option Int :=
  match cs.dropWhile isSpace with
  | '-' :: r => (readDigits r).map fun n => -(n : Int)
  | '+' :: r => (readDigits r).map fun n => (n : Int)
  | r => (readDigits r).map fun n => (n : Int)

theorem readDigits_toDigits (n : Nat) : readDigits (Nat.toDigits 10 n) = some n := by
  have hall : (Nat.toDigits 10 n).takeWhile Char.isDigit = Nat.toDigits 10 n :=
    List.takeWhile_eq_self_iff.mpr fun c hc =>
      Nat.isDigit_of_mem_toDigits (by decide) (by decide) hc
  have hval : Nat.ofDigitChars 10 (Nat.toDigits 10 n) 0 = n := Nat.ofDigitChars_ten_toDigits
  unfold readDigits
  rw [hall]
  cases hd : Nat.toDigits 10 n with
  | nil => exact absurd hd Nat.toDigits_ne_nil
  | cons d ds =>
      rw [hd] at hval
      simp only [hval]

/-- A decimal numeral starts with a digit, so the reader finds neither a space nor a sign there. -/
theorem readInt_toDigits (n : Nat) : readInt (Nat.toDigits 10 n) = some (n : Int) := by
  have hdig := readDigits_toDigits n
  cases hd : Nat.toDigits 10 n with
  | nil => exact absurd hd Nat.toDigits_ne_nil
  | cons d ds =>
      have hmem : d ∈ Nat.toDigits 10 n := by rw [hd]; exact List.mem_cons_self
      have hdigit : d.isDigit = true := Nat.isDigit_of_mem_toDigits (by decide) (by decide) hmem
      have hspace : isSpace d = false := by
        simp only [Char.isDigit, Bool.and_eq_true, decide_eq_true_eq] at hdigit
        simp only [isSpace, Bool.or_eq_false_iff, Bool.and_eq_false_iff, decide_eq_false_iff_not]
        refine ⟨?_, Or.inr ?_⟩
        · rintro rfl
          exact absurd hdigit.1 (by decide)
        · intro hle
          exact absurd (UInt32.le_trans hdigit.1 hle) (by decide)
      have hminus : d ≠ '-' := by
        rintro rfl
        exact absurd hdigit (by decide)
      have hplus : d ≠ '+' := by
        rintro rfl
        exact absurd hdigit (by decide)
      rw [hd] at hdig
      have hdrop : (d :: ds).dropWhile isSpace = d :: ds := by
        rw [List.dropWhile_cons_of_neg (by rw [hspace]; exact Bool.false_ne_true)]
      unfold readInt
      rw [hdrop]
      split
      · rename_i h
        exact absurd (List.cons.inj h).1 hminus
      · rename_i h
        exact absurd (List.cons.inj h).1 hplus
      · rw [hdig]
        rfl

/-- **`readInt_intText`** — every integer survives the trip through its decimal form. -/
theorem readInt_intText (n : Int) : readInt (intText n) = some n := by
  cases n with
  | ofNat n => exact readInt_toDigits n
  | negSucc n =>
      have hdrop : ('-' :: Nat.toDigits 10 (n + 1)).dropWhile isSpace
          = '-' :: Nat.toDigits 10 (n + 1) := rfl
      simp only [intText, readInt, hdrop, readDigits_toDigits]
      rfl

theorem intText_injective : Function.Injective intText := by
  intro m n h
  have hm := readInt_intText m
  rw [h, readInt_intText] at hm
  exact (Option.some.inj hm).symm

/-- Every character of a decimal form is a digit or the sign. -/
theorem mem_intText {n : Int} {c : Char} (h : c ∈ intText n) : c = '-' ∨ c.isDigit = true := by
  cases n with
  | ofNat n => exact Or.inr (Nat.isDigit_of_mem_toDigits (by decide) (by decide) h)
  | negSucc n =>
      rcases List.mem_cons.mp h with rfl | h
      · exact Or.inl rfl
      · exact Or.inr (Nat.isDigit_of_mem_toDigits (by decide) (by decide) h)

/-- The bytes of the decimal form of an integer: `std::to_string`. -/
def decimal (n : Int) : Bytes := utf8 (intText n)

/-- `strtol` on bytes, each read as the character of its code. -/
def strtol (bs : Bytes) : Option Int := readInt (bs.map fun b => Char.ofNat b.toNat)

/-- ASCII text is its own byte-wise reading. -/
theorem map_ofNat_utf8 {cs : List Char} (h : ∀ c ∈ cs, c.val ≤ 127) :
    (utf8 cs).map (fun b => Char.ofNat b.toNat) = cs := by
  induction cs with
  | nil => rfl
  | cons c cs ih =>
      have hc := h c List.mem_cons_self
      have hle := UInt32.le_iff_toNat_le.mp hc
      have h127 : (127 : UInt32).toNat = 127 := rfl
      rw [utf8_cons, utf8EncodeChar_ascii hc, List.map_append,
        ih fun d hd => h d (List.mem_cons_of_mem c hd)]
      have hnat : c.val.toUInt8.toNat = c.toNat := by
        rw [UInt32.toNat_toUInt8]
        exact Nat.mod_eq_of_lt (by omega)
      simp only [List.map_cons, List.map_nil, hnat, Char.ofNat_toNat, List.singleton_append]

theorem intText_ascii {n : Int} : ∀ c ∈ intText n, c.val ≤ 127 := by
  intro c hc
  rcases mem_intText hc with rfl | hd
  · decide
  · simp only [Char.isDigit, Bool.and_eq_true, decide_eq_true_eq] at hd
    exact UInt32.le_trans hd.2 (by decide)

/-- **`strtol_decimal`** — reading back what `std::to_string` wrote. -/
@[simp] theorem strtol_decimal (n : Int) : strtol (decimal n) = some n := by
  unfold strtol decimal
  rw [map_ofNat_utf8 intText_ascii, readInt_intText]

theorem decimal_injective : Function.Injective decimal := fun _ _ h =>
  intText_injective (utf8_injective h)

theorem noNul_decimal (n : Int) : NoNul (decimal n) := by
  intro h
  obtain ⟨c, hc, h0⟩ := List.mem_flatMap.mp h
  refine zero_notMem_utf8EncodeChar ?_ h0
  rintro rfl
  rcases mem_intText hc with h | h
  · exact absurd h (by decide)
  · exact absurd h (by decide)

@[simp] theorem cstr_decimal (n : Int) : cstr (decimal n) = decimal n :=
  cstr_of_noNul (noNul_decimal n)

/-! ## Hexadecimal bytes -/

/-- A hexadecimal digit, in lower case. -/
def hexDigit (n : Nat) : Char := "0123456789abcdef".toList.getD n '0'

/-- The characters of a byte string written in hexadecimal, two digits a byte. -/
def hexChars (bs : Bytes) : List Char :=
  bs.flatMap fun b => [hexDigit (b.toNat / 16), hexDigit (b.toNat % 16)]

/-- A byte string written in hexadecimal. -/
def hex (bs : Bytes) : Bytes := utf8 (hexChars bs)

theorem hexDigit_inj_all : ∀ m, m < 16 → ∀ n, n < 16 → hexDigit m = hexDigit n → m = n := by decide

theorem hexDigit_inj {m n : Nat} (hm : m < 16) (hn : n < 16) (h : hexDigit m = hexDigit n) :
    m = n := hexDigit_inj_all m hm n hn h

theorem hexDigit_ne_nul_all : ∀ m, m < 16 → hexDigit m ≠ '\x00' := by decide

theorem hexChars_injective : Function.Injective hexChars := by
  intro as
  induction as with
  | nil =>
      intro bs h
      cases bs with
      | nil => rfl
      | cons b bs => simp [hexChars] at h
  | cons a as ih =>
      intro bs h
      cases bs with
      | nil => simp [hexChars] at h
      | cons b bs =>
          have ha := a.toNat_lt
          have hb := b.toNat_lt
          simp only [hexChars, List.flatMap_cons, List.cons_append, List.nil_append,
            List.cons.injEq] at h
          obtain ⟨hhi, hlo, hrest⟩ := h
          have hi := hexDigit_inj (by omega) (by omega) hhi
          have lo := hexDigit_inj (by omega) (by omega) hlo
          have hab : a = b := by
            apply UInt8.toNat_inj.mp
            omega
          rw [hab, ih hrest]

/-- Two-digit hexadecimal determines the bytes. -/
theorem hex_injective : Function.Injective hex := fun _ _ h =>
  hexChars_injective (utf8_injective h)

theorem noNul_hex (bs : Bytes) : NoNul (hex bs) := by
  intro h
  obtain ⟨c, hc, h0⟩ := List.mem_flatMap.mp h
  refine zero_notMem_utf8EncodeChar ?_ h0
  obtain ⟨b, -, hb⟩ := List.mem_flatMap.mp hc
  have hlt := b.toNat_lt
  rcases List.mem_cons.mp hb with rfl | hb
  · exact hexDigit_ne_nul_all _ (by omega)
  · rw [List.mem_singleton.mp hb]
    exact hexDigit_ne_nul_all _ (by omega)

@[simp] theorem cstr_hex (bs : Bytes) : cstr (hex bs) = hex bs := cstr_of_noNul (noNul_hex bs)

end TinyIM.Lib.Text
