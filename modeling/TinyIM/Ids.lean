/-
# Ids — when a decoded frame carries the ids its text names

The conversion of a JSON number to an `int` narrows what does not fit, and cuts off a fraction. The
module reads a text once more for the number literals in it, and says exactly when the ids of the
decoded frame are the numbers the text writes.
-/
import TinyIM.Codec
import TinyIM.Lib.JsonNumber

namespace TinyIM

open TinyIM.Lib TinyIM.Lib.Text

/-! ## The ids a text writes -/

/-- The value of a text, with the literals in place of its numbers. -/
def literalsOf (s : Bytes) : Option (Json (List Char) Json.Number) :=
  (decodeUtf8 (cstr s)).bind fun cs => Json.parseText (Json.literals nlohmann) (Json.skipBom cs)

/-- The number literal a text has for a member of its object. -/
def literal (s : Bytes) (key : String) : Option Json.Number :=
  match literalsOf s with
  | some (.object ms) =>
    match ms.lookup key.toList with
    | some (.number_float n) => some n
    | _ => none
  | _ => none

/-- The text writes this integer for a member of its object. -/
def Written (s : Bytes) (key : String) (z : Int) : Prop := ∃ n, literal s key = some n ∧ n.value = z

/-- The members that become an `int`, with the fields they are read into. -/
def idFields : List (String × (Message → Int32)) :=
  [ ("fromUserId", Message.fromUserId),
    ("toUserId", Message.toUserId),
    ("messageId", Message.messageId) ]

/-- The ids of the message are the numbers the text writes. -/
def IdsKept (s : Bytes) (m : Message) : Prop := ∀ f ∈ idFields, Written s f.1 (f.2 m).toInt

/-- The text writes every id as an integer in the range of `int`. -/
def IdsInRange (s : Bytes) : Prop :=
  ∀ f ∈ idFields, ∃ z : Int, Written s f.1 z ∧ -2 ^ 31 ≤ z ∧ z < 2 ^ 31

section Ids

variable {env : Env} {s : Bytes} {j : Parsed} {m : Message} {key : String} {z : Int}

/-- A text writes at most one number for a member. -/
theorem Written.unique {w : Int} (h : Written s key z) (h' : Written s key w) : z = w := by
  obtain ⟨n, hn, hz⟩ := h
  obtain ⟨n', hn', hw⟩ := h'
  obtain rfl := Option.some.inj (hn.symm.trans hn')
  exact_mod_cast hz.symm.trans hw

/-- A plain integer. -/
theorem written_of_integer {n : Nat} (h : literal s key = some (.integer false n)) :
    Written s key n := ⟨_, h, (Int.cast_natCast n).symm⟩

/-- A text that is parsed has literals, and its value is what is stored for them. -/
theorem exists_literalsOf (h : parseJson s = .ok j) :
    ∃ x, literalsOf s = some x ∧ Json.store nlohmann x = some j := by
  unfold parseJson at h
  split at h
  · cases h
  · rename_i j' hj
    rw [← Except.ok.inj h]
    unfold Json.parse at hj
    unfold literalsOf
    split at hj
    · cases hj
    · rename_i cs hcs
      rw [hcs]
      exact Json.parseText_literals hj

/-- A member written as a number is what is stored for its literal. -/
theorem member_of_literal {n : Json.Number} (h : parseJson s = .ok j) (hn : literal s key = some n) :
    ∃ v, member j key = .ok v ∧ Json.storeNumber Binary64.ofDecimal n = some v := by
  obtain ⟨x, hx, hstore⟩ := exists_literalsOf h
  unfold literal at hn
  rw [hx] at hn
  split at hn
  · rename_i ms hms
    rw [Option.some.inj hms, Json.store] at hstore
    obtain ⟨ys, hys, rfl⟩ := Option.map_eq_some_iff.mp hstore
    split at hn
    · rename_i n' hlookup
      obtain ⟨v, hv, hnumber⟩ := Json.lookup_storeMembers hys hlookup
      rw [← Option.some.inj hn]
      exact ⟨v, by rw [member, hv]; rfl, hnumber⟩
    · cases hn
  · cases hn

/-- A number that is stored as an integer in the range of `int` is converted to it. -/
theorem asInt_of_exact {v : Parsed} (hlo : -2 ^ 31 ≤ z) (hhi : z < 2 ^ 31)
    (hv : (0 ≤ z ∧ v = .number_unsigned (UInt64.ofNat z.toNat)) ∨
      v = .number_integer (Int64.ofInt z) ∨ v = .number_float (.ofInt z)) :
    asInt env v = .ok (Int32.ofInt z) := by
  rcases hv with ⟨hz, rfl⟩ | rfl | rfl
  · rw [asInt, UInt64.toUInt32_ofNat', UInt32.toInt32_ofNat', ← Int32.ofInt_eq_ofNat,
      Int.toNat_of_nonneg hz]
  · rw [asInt, Int64.toInt32_ofInt]
  · rw [asInt, Binary64.trunc_ofInt, if_pos ⟨hlo, hhi⟩]

/-- An id written as an integer in the range of `int` is read as it is written. -/
theorem asInt_of_written (h : parseJson s = .ok j) (hw : Written s key z) (hlo : -2 ^ 31 ≤ z)
    (hhi : z < 2 ^ 31) : (member j key >>= asInt env) = .ok (Int32.ofInt z) := by
  obtain ⟨n, hn, hvalue⟩ := hw
  obtain ⟨v, hv, hnumber⟩ := member_of_literal h hn
  have hexact := Json.storeNumber_exact (by omega) hvalue hnumber
  rw [except_bind_eq_ok]
  exact ⟨v, hv, asInt_of_exact hlo hhi hexact⟩

/-- The three ids are read alike. -/
theorem asInt_of_fromJson (h : Message.fromJson env s = .ok m) : ∃ j, parseJson s = .ok j ∧
    ∀ f ∈ idFields, (member j f.1 >>= asInt env) = .ok (f.2 m) := by
  obtain ⟨j, hj, hfrom, hto, -, hid, -⟩ := Message.fromJson_eq_ok.mp h
  refine ⟨j, hj, ?_⟩
  simp only [idFields, List.forall_mem_cons]
  exact ⟨hfrom, hto, hid, fun f hf => absurd hf List.not_mem_nil⟩

/-- **`written_iff`** — one id of an accepted text is the number written exactly if that is an integer
in the range of `int`. -/
theorem written_iff (h : Message.fromJson env s = .ok m) {f : String × (Message → Int32)}
    (hf : f ∈ idFields) : Written s f.1 (f.2 m).toInt ↔
      ∃ z : Int, Written s f.1 z ∧ -2 ^ 31 ≤ z ∧ z < 2 ^ 31 := by
  constructor
  · intro hw
    exact ⟨_, hw, (f.2 m).le_toInt, (f.2 m).toInt_lt⟩
  · rintro ⟨z, hw, hlo, hhi⟩
    obtain ⟨j, hj, hread⟩ := asInt_of_fromJson h
    have hid := hread f hf
    rw [asInt_of_written hj hw hlo hhi] at hid
    rw [← Except.ok.inj hid, Int32.toInt_ofInt_of_le hlo hhi]
    exact hw

end Ids

/-- **`ids_kept_iff`** — the three ids of an accepted text are the numbers it writes exactly if it
writes all of them as integers in the range of `int`; a fraction or an exponent in such an integer
does no harm. Then an id of another such text is the same exactly if the same number is written for
both. -/
theorem ids_kept_iff {env : Env} {s : Bytes} {m : Message} (h : Message.fromJson env s = .ok m) :
    (IdsKept s m ↔ IdsInRange s) ∧
    (IdsInRange s → ∀ (env' : Env) (s' : Bytes) (m' : Message), Message.fromJson env' s' = .ok m' →
      IdsInRange s' → ∀ f ∈ idFields, ∀ g ∈ idFields,
        (f.2 m = g.2 m' ↔ ∃ z, Written s f.1 z ∧ Written s' g.1 z)) := by
  refine ⟨forall₂_congr fun f hf => written_iff h hf, ?_⟩
  intro hrange env' s' m' h' hrange' f hf g hg
  have hw := (written_iff h hf).mpr (hrange f hf)
  have hw' := (written_iff h' hg).mpr (hrange' g hg)
  constructor
  · intro hsame
    exact ⟨_, hw, hsame ▸ hw'⟩
  · rintro ⟨z, hz, hz'⟩
    exact Int32.toInt_inj.mp ((hw.unique hz).trans (hz'.unique hw'))

/-- The text of a chat message, its sender written as given. -/
def textFrom (id : String) : Bytes :=
  str ("\x7b\"fromUserId\":" ++ id ++ ",\"toUserId\":2,\"messageType\":\"TEXT\",\"messageId\":7," ++
    "\"content\":\"hi\",\"timestamp\":0\x7d")

/-- An integer written with an exponent is read as it is written. -/
theorem ids_kept_iff_exponent :
    IdsKept (textFrom "1.5e2") ⟨150, 2, .TEXT, 7, str "hi", 0⟩ := by
  have hdecode : Message.fromJson .plain (textFrom "1.5e2") =
      .ok ⟨150, 2, .TEXT, 7, str "hi", 0⟩ := by decide +kernel
  refine (ids_kept_iff hdecode).1.mpr ?_
  obtain ⟨hfrom, hto, hid⟩ :
      literal (textFrom "1.5e2") "fromUserId" = some (.fractional ⟨false, 15, 1⟩) ∧
      literal (textFrom "1.5e2") "toUserId" = some (.integer false 2) ∧
      literal (textFrom "1.5e2") "messageId" = some (.integer false 7) := by decide +kernel
  have hvalue : (Json.Number.fractional ⟨false, 15, 1⟩).value = 150 := by
    rw [Json.Number.value, Json.Decimal.magnitude]
    norm_num
  simp only [IdsInRange, idFields, List.forall_mem_cons]
  exact ⟨⟨150, ⟨_, hfrom, hvalue⟩, by omega, by omega⟩,
    ⟨2, written_of_integer hto, by omega, by omega⟩,
    ⟨7, written_of_integer hid, by omega, by omega⟩, fun f hf => absurd hf List.not_mem_nil⟩

/-- User `2 ^ 32 + 1` is taken for user 1. -/
theorem ids_not_kept :
    Message.fromJson .plain (textFrom "4294967297") = Message.fromJson .plain (textFrom "1") ∧
    ¬∀ (env : Env) (s : Bytes) (m : Message), Message.fromJson env s = .ok m → IdsKept s m := by
  have hdecode : Message.fromJson .plain (textFrom "4294967297") =
      .ok ⟨1, 2, .TEXT, 7, str "hi", 0⟩ := by decide +kernel
  have hone : Message.fromJson .plain (textFrom "1") = .ok ⟨1, 2, .TEXT, 7, str "hi", 0⟩ := by
    decide +kernel
  refine ⟨hdecode.trans hone.symm, fun hall => ?_⟩
  have hkept := hall .plain _ _ hdecode _ List.mem_cons_self
  have hwritten : Written (textFrom "4294967297") "fromUserId" 4294967297 :=
    written_of_integer (n := 4294967297) (by decide +kernel)
  exact absurd (hkept.unique hwritten) (by decide)

end TinyIM
