/-
# Codec — a frame survives the trip through its text

`toJson` writes the six fields of a frame into an object and `fromJson` reads them back by name, so the
names, the order of the members, the escaping of the content, the two tables of type names and the
kinds the parser stores integers in all have to fit together. `codec_round_trips` says that they do, for
every frame whose content is well-formed UTF-8; a decoded frame is one of these, so encoding and
decoding it again changes nothing.
-/
import TinyIM.Sendable
import TinyIM.Lib.JsonRoundTrip

namespace TinyIM

open TinyIM.Lib TinyIM.Lib.Text

/-! ## Integers -/

/-- The library reads a number, and rounds what is not a 64-bit integer. -/
abbrev nlohmann : Json.Dialect Char Binary64 := Json.library Binary64.ofDecimal

/-- How an integer that was written is stored when it is read: the sign decides the kind. -/
def stored (n : Int64) : Parsed :=
  if n.toInt < 0 then .number_integer n else .number_unsigned (UInt64.ofNat n.toInt.natAbs)

theorem reread_number_integer (n : Int64) :
    Json.reread nlohmann (.number_integer n) = some (stored n) := by
  have hlo : -2 ^ 63 ≤ n.toInt := n.le_toInt
  have hhi : n.toInt < 2 ^ 63 := n.toInt_lt
  rw [Json.reread]
  show Json.storeNumber Binary64.ofDecimal _ = _
  unfold stored
  by_cases hneg : n.toInt < 0
  -- a number with a sign is stored as signed, whatever it was written from
  · have habs : -(n.toInt.natAbs : Int) = n.toInt := by omega
    rw [if_pos hneg, decide_eq_true hneg, Json.storeNumber, if_pos (by omega), habs,
      Int64.ofInt_toInt]
  · rw [if_neg hneg, decide_eq_false hneg, Json.storeNumber, if_pos (by omega)]

/-- An `int` is read back. -/
theorem asInt_stored (env : Env) (n : Int32) : asInt env (stored n.toInt64) = .ok n := by
  have hsame : n.toInt64.toInt = n.toInt := Int32.toInt_toInt64 n
  unfold stored
  split
  · rw [asInt, Int32.toInt32_toInt64]
  · rename_i hneg
    have habs : (n.toInt.natAbs : Int) = n.toInt := by omega
    rw [hsame, asInt, UInt64.toUInt32_ofNat', UInt32.toInt32_ofNat', ← Int32.ofInt_eq_ofNat, habs,
      Int32.ofInt_toInt]

/-- A time is read back. -/
theorem asTime_stored (env : Env) (n : Int64) : asTime env (stored n) = .ok n := by
  unfold stored
  split
  · rfl
  · rename_i hneg
    have habs : (n.toInt.natAbs : Int) = n.toInt := by omega
    rw [asTime, UInt64.toInt64_ofNat', ← Int64.ofInt_eq_ofNat, habs, Int64.ofInt_toInt]

/-! ## The object of a frame -/

/-- The members of a frame, in the order in which they are written. -/
theorem toJson_eq (m : Message) : m.toJson = dumpJson (.object
    [ (str "content", .string m.content),
      (str "fromUserId", ofInt m.fromUserId),
      (str "messageId", ofInt m.messageId),
      (str "messageType", .string (messageTypeToString m.messageType)),
      (str "timestamp", .number_integer m.timestamp),
      (str "toUserId", ofInt m.toUserId) ]) := rfl

/-- The characters of a type name. -/
def messageTypeName (t : MessageType) : List Char := (decodeUtf8 (messageTypeToString t)).getD []

theorem messageTypeToString_eq (t : MessageType) :
    messageTypeToString t = utf8 (messageTypeName t) := by
  obtain ⟨cs, hcs⟩ := validUtf8_messageTypeToString t
  rw [messageTypeName, hcs, decodeUtf8_utf8, Option.getD_some]

/-- What the text of a frame is parsed to; `cs` are the characters of the content. -/
def frameObject (m : Message) (cs : List Char) : Parsed := .object
  [ ("content".toList, .string cs),
    ("fromUserId".toList, stored m.fromUserId.toInt64),
    ("messageId".toList, stored m.messageId.toInt64),
    ("messageType".toList, .string (messageTypeName m.messageType)),
    ("timestamp".toList, stored m.timestamp),
    ("toUserId".toList, stored m.toUserId.toInt64) ]

theorem reread_string (cs : List Char) :
    Json.reread nlohmann (.string (utf8 cs)) = some (.string cs) := by
  rw [Json.reread, decodeUtf8_utf8, Option.map_some]
  show some (Json.string (cs.map id)) = _
  rw [List.map_id]

/-- A frame is parsed to the object it was written as. -/
theorem reread_frame {m : Message} {cs : List Char} (hcs : m.content = utf8 cs) :
    Json.reread nlohmann (.object
      [ (str "content", .string m.content),
        (str "fromUserId", ofInt m.fromUserId),
        (str "messageId", ofInt m.messageId),
        (str "messageType", .string (messageTypeToString m.messageType)),
        (str "timestamp", .number_integer m.timestamp),
        (str "toUserId", ofInt m.toUserId) ]) = some (frameObject m cs) := by
  have hmember : ∀ (k : String) (v : Json Bytes Empty) (v' : Parsed), Json.reread nlohmann v = some v' →
      ∃ ds, str k = utf8 ds ∧ k.toList = ds.map nlohmann.char ∧ Json.reread nlohmann v = some v' :=
    fun k v v' hv => ⟨k.toList, rfl, (List.map_id _).symm, hv⟩
  have htype : Json.reread nlohmann (.string (messageTypeToString m.messageType)) =
      some (.string (messageTypeName m.messageType)) := by
    rw [messageTypeToString_eq]
    exact reread_string _
  rw [hcs, Json.reread, Json.rereadMembers_eq nlohmann]
  · rfl
  · exact .cons (hmember _ _ _ (reread_string cs))
      (.cons (hmember _ _ _ (reread_number_integer _))
      (.cons (hmember _ _ _ (reread_number_integer _))
      (.cons (hmember _ _ _ htype)
      (.cons (hmember _ _ _ (reread_number_integer _))
      (.cons (hmember _ _ _ (reread_number_integer _)) .nil)))))
  · show ["content".toList, "fromUserId".toList, "messageId".toList, "messageType".toList,
      "timestamp".toList, "toUserId".toList].Nodup
    decide

/-- The text of a frame is parsed to its object. -/
theorem exists_parseJson {m : Message} {cs : List Char} (hcs : m.content = utf8 cs) :
    ∃ text, m.toJson = .ok text ∧ parseJson text = .ok (frameObject m cs) := by
  obtain ⟨text, htext⟩ := Message.exists_toJson (m := m) ⟨cs, hcs⟩
  refine ⟨text, htext, ?_⟩
  rw [toJson_eq, dumpJson_eq_ok] at htext
  obtain ⟨t, ht, rfl⟩ := Option.map_eq_some_iff.mp htext
  have hparse : Json.parseText nlohmann t = some (frameObject m cs) :=
    (Json.parseText_text nlohmann ht).trans (reread_frame hcs)
  -- the text has no NUL in it, and it begins with a brace
  have hnul : cstr (utf8 t) = utf8 t := by
    have hnone : ∀ c ∈ t, (decide (c ≠ '\x00')) = true := by
      intro c hc
      refine decide_eq_true ?_
      rintro rfl
      exact Json.nul_notMem_of_parseText hparse hc
    rw [cstr_utf8, List.takeWhile_eq_self_iff.mpr hnone]
  have hbom : Json.skipBom t = t := by
    rw [Json.text, Option.map_eq_some_iff] at ht
    obtain ⟨t', -, rfl⟩ := ht
    rfl
  have hlibrary : Json.parse Binary64.ofDecimal (utf8 t) = some (frameObject m cs) := by
    unfold Json.parse
    rw [hnul, decodeUtf8_utf8]
    dsimp only
    rw [hbom]
    exact hparse
  rw [parseJson, hlibrary]

/-- **`codec_round_trips`** — every frame whose content is well-formed UTF-8 is encoded to a text that
decodes to the same frame, whatever the surroundings; and decoding an accepted text, encoding the
frame and decoding it again gives what decoding it once gave. -/
theorem codec_round_trips :
    (∀ (env : Env) (m : Message), ValidUtf8 m.content →
      (m.toJson >>= Message.fromJson env) = .ok m) ∧
    ∀ (env env' : Env) (s : Bytes) (m : Message), Message.fromJson env s = .ok m →
      (Message.fromJson env s >>= Message.toJson >>= Message.fromJson env') =
        Message.fromJson env s := by
  have hround : ∀ (env : Env) (m : Message), ValidUtf8 m.content →
      (m.toJson >>= Message.fromJson env) = .ok m := by
    rintro env m ⟨cs, hcs⟩
    obtain ⟨text, htext, hparse⟩ := exists_parseJson hcs
    rw [except_bind_eq_ok]
    refine ⟨text, htext, Message.fromJson_eq_ok.mpr ⟨_, hparse, ?_, ?_, ?_, ?_, ?_, ?_⟩⟩
    · exact asInt_stored env _
    · exact asInt_stored env _
    · show stringToMessageType (utf8 (messageTypeName m.messageType)) = _
      rw [← messageTypeToString_eq, stringToMessageType_messageTypeToString]
    · exact asInt_stored env _
    · rw [hcs]
      rfl
    · exact asTime_stored env _
  refine ⟨hround, ?_⟩
  intro env env' s m hm
  rw [hm]
  exact hround env' m (Message.validUtf8_of_fromJson hm)

end TinyIM
