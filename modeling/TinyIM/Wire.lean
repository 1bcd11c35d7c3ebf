/-
# Wire — the texts between the page and the server

The page writes its frames with `JSON.stringify` and the server reads them with the C++ library; the
server writes with the C++ library and the page reads with `JSON.parse`. The two libraries agree on the
grammar but not on strings and numbers: a script's string may hold a surrogate without a partner, which
is written as an escape that the server refuses, `NaN` is written as `null`, and every number a script
reads is a double. `fromJson_text` and `parse_toJson` say exactly what arrives on each side.
-/
import TinyIM.Codec
import TinyIM.Page
import TinyIM.Lib.JsonNumber
import TinyIM.Lib.JsonStringify

namespace TinyIM

open TinyIM.Lib TinyIM.Lib.Text

/-! ## Frames of the page -/

/-- A number of a script that is an integer and exact. -/
structure SafeInteger where
  val : Int
  safe : val.natAbs < 2 ^ 53
  deriving DecidableEq

/-- An integral number of a script, and the digits it is written with: the number nearest to
`± digits · 10 ^ zeros`. Beyond `2 ^ 53` the digits do not give the number exactly. -/
structure JsInteger where
  negative : Bool
  digits : Nat
  zeros : Nat
  value : Binary64
  rounds : Binary64.ofDecimal ⟨negative, digits, zeros⟩ = some value

namespace JsInteger

/-- The number the digits denote. -/
def written (n : JsInteger) : Int :=
  if n.negative then -((n.digits * 10 ^ n.zeros : Nat) : Int) else (n.digits * 10 ^ n.zeros : Nat)

/-- The number as a member: from `10 ^ 21` on it is written with an exponent. -/
def scalar (n : JsInteger) : Json.Scalar :=
  if n.written.natAbs < 10 ^ 21 then .integer n.written
  else .exponential n.negative n.digits n.zeros

/-- What the server gets: the number is cut to 32 bits. One that 64 bits do not hold is read as a
double, and what its conversion gives is not defined. -/
def toInt32 (env : Env) (n : JsInteger) : Int32 :=
  if -2 ^ 63 ≤ n.written ∧ n.written < 2 ^ 64 then .ofInt n.written else env.badInt n.value

end JsInteger

/-- The literal of an integer denotes it. -/
theorem value_literal (n : Int) :
    (Json.Number.fractional ⟨decide (n < 0), n.natAbs, 0⟩).value = n := by
  have hsign : (if decide (n < 0) = true then -((n.natAbs : Int)) else (n.natAbs : Int)) = n := by
    by_cases hneg : n < 0
    · rw [decide_eq_true hneg, if_pos rfl]
      omega
    · rw [decide_eq_false hneg, if_neg Bool.false_ne_true]
      omega
  simp only [Json.Number.value, Json.Decimal.magnitude, zpow_zero, mul_one]
  rw [← Int.cast_natCast]
  conv_rhs => rw [← hsign]
  split
  · rw [Int.cast_neg]
  · rfl

/-- An exact integer is written with its own digits. -/
def SafeInteger.toJs (n : SafeInteger) : JsInteger where
  negative := n.val < 0
  digits := n.val.natAbs
  zeros := 0
  value := .ofInt n.val
  rounds := Json.ofDecimal_eq_ofInt n.safe (value_literal n.val)

theorem SafeInteger.toInt32_toJs (n : SafeInteger) (env : Env) :
    n.toJs.toInt32 env = .ofInt n.val := by
  have hsafe := n.safe
  have hwritten : n.toJs.written = n.val := by
    unfold JsInteger.written toJs
    simp only [Nat.pow_zero, Nat.mul_one, decide_eq_true_eq]
    split
    · omega
    · omega
  rw [JsInteger.toInt32, hwritten, if_pos (by omega)]

/-- The object the page hands to `JSON.stringify`. An id is what `parseInt` made of the text of a form,
`none` for `NaN` and for the infinity that a numeral of more than 308 digits can be. -/
structure PageFrame where
  fromUserId : Option JsInteger
  toUserId : Option JsInteger
  messageType : MessageType
  messageId : SafeInteger
  content : Json.CodePoints
  timestamp : SafeInteger

namespace PageFrame

/-- A number member; `NaN` and infinity are written as `null`. -/
def number : Option JsInteger → Json.Scalar
  | some n => n.scalar
  | none => .null

/-- The members of the object, in the order in which the script lists them. -/
def members (m : PageFrame) : List (List Char × Json.Scalar) :=
  [ ("fromUserId".toList, number m.fromUserId),
    ("toUserId".toList, number m.toUserId),
    ("messageType".toList, .string (.ofChars (messageTypeName m.messageType))),
    ("messageId".toList, .integer m.messageId.val),
    ("content".toList, .string m.content),
    ("timestamp".toList, .integer m.timestamp.val) ]

/-- `JSON.stringify(message)`. -/
def text (m : PageFrame) : List Char := Json.stringify m.members

/-- What the server gets out of the frame: `null` is no number, and a string with a lone surrogate is
no text. -/
def received (env : Env) (m : PageFrame) : Except Exn Message :=
  if m.content.WellFormed then
    match m.fromUserId, m.toUserId with
    | some fromUserId, some toUserId => .ok ⟨fromUserId.toInt32 env, toUserId.toInt32 env,
        m.messageType, .ofInt m.messageId.val, utf8 m.content.chars, .ofInt m.timestamp.val⟩
    | _, _ => .error .type_error
  else .error .parse_error

end PageFrame

/-! ## Strings and numbers in the two dialects -/

/-- The C++ library reads a string unless a surrogate stands alone in it. -/
theorem readUnits_nlohmann (s : Json.CodePoints) : Json.readUnits nlohmann s.units =
    if s.WellFormed then some s.chars else none := by
  have hunits : ∀ us : List Nat, Json.readUnits nlohmann us =
      if ∀ u ∈ us, ¬Json.IsSurrogate u then some (us.map Char.ofNat) else none := by
    intro us
    induction us with
    | nil => rfl
    | cons u us ih =>
        rw [Json.readUnits_cons, ih, Json.readUnit]
        by_cases hu : Json.IsSurrogate u
        · have hnone : ¬∀ v ∈ u :: us, ¬Json.IsSurrogate v := fun h => h u List.mem_cons_self hu
          rw [if_pos hu, if_neg hnone]
          rfl
        · by_cases hus : ∀ u ∈ us, ¬Json.IsSurrogate u
          · have hall : ∀ v ∈ u :: us, ¬Json.IsSurrogate v := List.forall_mem_cons.mpr ⟨hu, hus⟩
            rw [if_neg hu, if_pos hus, if_pos hall]
            rfl
          · have hnone : ¬∀ v ∈ u :: us, ¬Json.IsSurrogate v :=
              fun h => hus (List.forall_mem_cons.mp h).2
            rw [if_neg hu, if_neg hus, if_neg hnone]
            rfl
  exact hunits s.units

/-- A script reads back every string it wrote. -/
theorem readUnits_ecmaScript (s : Json.CodePoints) :
    Json.readUnits ecmaScript s.units = some s.units := by
  obtain ⟨us, hbounded, hunpaired⟩ := s
  dsimp only
  clear hunpaired
  induction us with
  | nil => rfl
  | cons u us ih =>
      rw [List.forall_mem_cons] at hbounded
      rw [Json.readUnits_cons, ih hbounded.2, Json.readUnit]
      split
      · rfl
      · rename_i hu
        show some ((Char.ofNat u).toNat :: us) = _
        rw [Json.toNat_ofNat hbounded.1 hu]

/-- An exact integer is stored as a 64-bit one. -/
theorem readScalar_integer (n : SafeInteger) :
    Json.readScalar nlohmann (.integer n.val) = some (stored (Int64.ofInt n.val)) := by
  have hsafe := n.safe
  have hval : (Int64.ofInt n.val).toInt = n.val := Int64.toInt_ofInt_of_le (by omega) (by omega)
  have hread := reread_number_integer (Int64.ofInt n.val)
  rw [Json.reread, hval] at hread
  exact hread

/-- The conversion of a stored integer to an `int` cuts it. -/
theorem asInt_stored_cut (env : Env) (n : Int64) : asInt env (stored n) = .ok n.toInt32 := by
  unfold stored
  split
  · rfl
  · rename_i hneg
    have habs : (n.toInt.natAbs : Int) = n.toInt := by omega
    rw [asInt, UInt64.toUInt32_ofNat', UInt32.toInt32_ofNat', ← Int32.ofInt_eq_ofNat, habs,
      ← Int64.toInt32_ofInt, Int64.ofInt_toInt]

/-! ## From the page to the server -/

/-- A serialized object holds no NUL and is not mistaken for a byte-order mark. -/
theorem parse_stringify (ms : List (List Char × Json.Scalar)) :
    Json.parse Binary64.ofDecimal (utf8 (Json.stringify ms)) =
      (Json.readMembers nlohmann ms).map .object := by
  have hreadable : ∃ out, Json.readMembers ecmaScript ms = some out := by
    induction ms with
    | nil => exact ⟨[], rfl⟩
    | cons m ms ih =>
        obtain ⟨k, v⟩ := m
        obtain ⟨out, hout⟩ := ih
        have hv : ∃ w, Json.readScalar ecmaScript v = some w := by
          cases v with
          | null => exact ⟨_, rfl⟩
          | integer n => exact ⟨_, rfl⟩
          | exponential negative digits zeros => exact ⟨_, rfl⟩
          | string s => exact ⟨_, by rw [Json.readScalar, readUnits_ecmaScript, Option.map_some]⟩
        obtain ⟨w, hw⟩ := hv
        exact ⟨_, by rw [Json.readMembers, hw, hout]; rfl⟩
  obtain ⟨out, hout⟩ := hreadable
  have hscript : Json.parseText ecmaScript (Json.stringify ms) = some (.object out) := by
    rw [Json.parseText_stringify, hout, Option.map_some]
  have hnone : ∀ c ∈ Json.stringify ms, (decide (c ≠ '\x00')) = true := by
    intro c hc
    refine decide_eq_true ?_
    rintro rfl
    exact Json.nul_notMem_of_parseText hscript hc
  unfold Json.parse
  rw [cstr_utf8, List.takeWhile_eq_self_iff.mpr hnone, decodeUtf8_utf8]
  exact Json.parseText_stringify nlohmann ms

namespace JsInteger

/-- How the server stores the number. -/
def parsed (n : JsInteger) : Parsed :=
  if -2 ^ 63 ≤ n.written ∧ n.written < 2 ^ 64 then
    if n.written < 0 then .number_integer (.ofInt n.written)
    else .number_unsigned (.ofNat n.written.natAbs)
  else .number_float n.value

theorem natAbs_written (n : JsInteger) : n.written.natAbs = n.digits * 10 ^ n.zeros := by
  unfold written
  split
  · rw [Int.natAbs_neg, Int.natAbs_natCast]
  · exact Int.natAbs_natCast _

/-- The sign is the one of the number, unless that is zero. -/
theorem written_lt_zero (n : JsInteger) (hne : n.written ≠ 0) :
    decide (n.written < 0) = n.negative := by
  unfold written at hne ⊢
  generalize n.digits * 10 ^ n.zeros = m at hne ⊢
  cases hsign : n.negative with
  | true =>
      rw [hsign, if_pos rfl] at hne
      rw [if_pos rfl]
      exact decide_eq_true (by omega)
  | false =>
      rw [if_neg Bool.false_ne_true]
      exact decide_eq_false (by omega)

/-- Written without an exponent, the digits stand for the same number. -/
theorem ofDecimal_written (n : JsInteger) (hne : n.written ≠ 0) :
    Binary64.ofDecimal ⟨decide (n.written < 0), n.written.natAbs, 0⟩ = some n.value := by
  rw [written_lt_zero n hne, natAbs_written, Binary64.ofDecimal_mul_pow]
  exact n.rounds

/-- The server stores the number in one of its three kinds. -/
theorem readScalar_scalar (n : JsInteger) : Json.readScalar nlohmann n.scalar = some n.parsed := by
  unfold scalar parsed
  by_cases hlong : n.written.natAbs < 10 ^ 21
  · rw [if_pos hlong]
    show Json.storeNumber Binary64.ofDecimal (.integer (decide (n.written < 0)) n.written.natAbs) = _
    by_cases hneg : n.written < 0
    · have hvalue := n.ofDecimal_written (Int.ne_of_lt hneg)
      rw [decide_eq_true hneg] at hvalue ⊢
      by_cases hfits : n.written.natAbs ≤ 2 ^ 63
      · have habs : -(n.written.natAbs : Int) = n.written := by omega
        rw [Json.storeNumber, if_pos hfits, if_pos (by omega), if_pos hneg, habs]
      · rw [Json.storeNumber, if_neg hfits, if_neg (by omega), hvalue, Option.map_some]
    · rw [decide_eq_false hneg]
      by_cases hfits : n.written.natAbs < 2 ^ 64
      · rw [Json.storeNumber, if_pos hfits, if_pos (by omega), if_neg hneg]
      · have hvalue := n.ofDecimal_written (by omega)
        rw [decide_eq_false hneg] at hvalue
        rw [Json.storeNumber, if_neg hfits, if_neg (by omega), hvalue, Option.map_some]
  · rw [if_neg hlong, if_neg (by omega)]
    rw [Json.readScalar]
    dsimp only [nlohmann, Json.library]
    rw [Json.storeNumber, n.rounds, Option.map_some]

/-- The conversion of the stored number to an `int`. -/
theorem asInt_parsed (env : Env) (n : JsInteger) : asInt env n.parsed = .ok (n.toInt32 env) := by
  unfold parsed toInt32
  by_cases hfits : -2 ^ 63 ≤ n.written ∧ n.written < 2 ^ 64
  · rw [if_pos hfits, if_pos hfits]
    by_cases hneg : n.written < 0
    · rw [if_pos hneg, asInt, Int64.toInt32_ofInt]
    · have habs : (n.written.natAbs : Int) = n.written := by omega
      rw [if_neg hneg, asInt, UInt64.toUInt32_ofNat', UInt32.toInt32_ofNat', ← Int32.ofInt_eq_ofNat,
        habs]
  · rw [if_neg hfits, if_neg hfits, asInt]
    -- the double is as far out of range as the digits are
    have hlarge : 2 ^ 63 ≤ n.digits * 10 ^ n.zeros := by
      rw [← n.natAbs_written]
      omega
    have htrunc : 2 ^ 63 ≤ n.value.trunc.natAbs := Binary64.pow_le_trunc rfl n.rounds hlarge
    rw [if_neg (by omega)]

end JsInteger

/-- An id as the server reads it; `NaN` comes as `null`. -/
def PageFrame.idValue : Option JsInteger → Parsed
  | some n => n.parsed
  | none => .null

/-- The members the server reads from a frame of the page whose content is text. -/
def PageFrame.parsed (m : PageFrame) : List (List Char × Parsed) :=
  [ ("fromUserId".toList, idValue m.fromUserId),
    ("toUserId".toList, idValue m.toUserId),
    ("messageType".toList, .string (messageTypeName m.messageType)),
    ("messageId".toList, stored (.ofInt m.messageId.val)),
    ("content".toList, .string m.content.chars),
    ("timestamp".toList, stored (.ofInt m.timestamp.val)) ]

theorem readScalar_number (n : Option JsInteger) :
    Json.readScalar nlohmann (PageFrame.number n) = some (PageFrame.idValue n) := by
  cases n with
  | none => rfl
  | some n => exact n.readScalar_scalar

theorem readScalar_string {s : Json.CodePoints} (h : s.WellFormed) :
    Json.readScalar nlohmann (.string s) = some (.string s.chars) := by
  rw [Json.readScalar, readUnits_nlohmann, if_pos h, Option.map_some]

theorem readMembers_frame {m : PageFrame} (h : m.content.WellFormed) :
    Json.readMembers nlohmann m.members = some m.parsed := by
  have hmember : ∀ (k : String) (v : Json.Scalar) (v' : Parsed),
      Json.readScalar nlohmann v = some v' →
      k.toList = k.toList.map nlohmann.char ∧ Json.readScalar nlohmann v = some v' :=
    fun k v v' hv => ⟨(List.map_id _).symm, hv⟩
  have htype := readScalar_string (Json.CodePoints.wellFormed_ofChars (messageTypeName m.messageType))
  rw [Json.CodePoints.chars_ofChars] at htype
  refine Json.readMembers_eq nlohmann ?_ ?_
  · exact .cons (hmember _ _ _ (readScalar_number _))
      (.cons (hmember _ _ _ (readScalar_number _))
      (.cons (hmember _ _ _ htype)
      (.cons (hmember _ _ _ (readScalar_integer _))
      (.cons (hmember _ _ _ (readScalar_string h))
      (.cons (hmember _ _ _ (readScalar_integer _)) .nil)))))
  · show ["fromUserId".toList, "toUserId".toList, "messageType".toList, "messageId".toList,
      "content".toList, "timestamp".toList].Nodup
    decide

/-- A frame whose content is text is parsed, and its ids are converted. -/
theorem fromJson_frame (env : Env) {m : PageFrame} (hwell : m.content.WellFormed) :
    Message.fromJson env (utf8 m.text) = m.received env := by
  rw [PageFrame.received, if_pos hwell]
  have hparse : parseJson (utf8 m.text) = .ok (.object m.parsed) := by
    unfold parseJson PageFrame.text
    rw [parse_stringify, readMembers_frame hwell, Option.map_some]
  have hid : ∀ n : JsInteger, asInt env (PageFrame.idValue (some n)) = .ok (n.toInt32 env) :=
    fun n => n.asInt_parsed env
  cases hfrom : m.fromUserId with
  | none =>
      have hmember : member (.object m.parsed) "fromUserId" = .ok (PageFrame.idValue none) := by
        rw [← hfrom]
        rfl
      unfold Message.fromJson
      rw [hparse]
      show (member (.object m.parsed) "fromUserId" >>= fun v => _) = _
      rw [hmember]
      rfl
  | some fromUserId =>
      have hmember : member (.object m.parsed) "fromUserId" =
          .ok (PageFrame.idValue (some fromUserId)) := by
        rw [← hfrom]
        rfl
      cases hto : m.toUserId with
      | none =>
          have hmember' : member (.object m.parsed) "toUserId" = .ok (PageFrame.idValue none) := by
            rw [← hto]
            rfl
          unfold Message.fromJson
          rw [hparse]
          show (member (.object m.parsed) "fromUserId" >>= fun v => _) = _
          rw [hmember]
          show (asInt env (PageFrame.idValue (some fromUserId)) >>= fun v => _) = _
          rw [hid]
          show (member (.object m.parsed) "toUserId" >>= fun v => _) = _
          rw [hmember']
          rfl
      | some toUserId =>
          have hmember' : member (.object m.parsed) "toUserId" =
              .ok (PageFrame.idValue (some toUserId)) := by
            rw [← hto]
            rfl
          refine Message.fromJson_eq_ok.mpr ⟨_, hparse, ?_, ?_, ?_, ?_, rfl, ?_⟩
          · rw [hmember]
            exact hid fromUserId
          · rw [hmember']
            exact hid toUserId
          · show stringToMessageType (utf8 (messageTypeName m.messageType)) = _
            rw [← messageTypeToString_eq, stringToMessageType_messageTypeToString]
          · show asInt env (stored (.ofInt m.messageId.val)) = _
            rw [asInt_stored_cut, Int64.toInt32_ofInt]
          · exact asTime_stored env _

/-- A frame with a lone surrogate in it is not parsed. -/
theorem fromJson_frame_of_not (env : Env) {m : PageFrame} (hwell : ¬m.content.WellFormed) :
    Message.fromJson env (utf8 m.text) = .error .parse_error := by
  have hnone : Json.readMembers nlohmann m.members = none :=
    Json.readMembers_eq_none nlohmann (m := ("content".toList, .string m.content))
      (by simp [PageFrame.members])
      (by rw [Json.readScalar, readUnits_nlohmann, if_neg hwell, Option.map_none])
  have hparse : parseJson (utf8 m.text) = .error .parse_error := by
    unfold parseJson PageFrame.text
    rw [parse_stringify, hnone, Option.map_none]
  unfold Message.fromJson
  rw [hparse]
  rfl

/-- **`fromJson_text`** — what the server decodes from a frame of the page, for every frame the page
can send. -/
theorem fromJson_text (env : Env) (m : PageFrame) :
    Message.fromJson env (utf8 m.text) = m.received env := by
  by_cases hwell : m.content.WellFormed
  · exact fromJson_frame env hwell
  · rw [fromJson_frame_of_not env hwell, PageFrame.received, if_neg hwell]

/-! ## From the server to the page -/

/-- A number of the server as a script sees it. -/
def JsValue.ofInt (n : Int) : JsValue :=
  .number_float (.ofLiteral (.integer (decide (n < 0)) n.natAbs))

/-- An integer without rounding. -/
def JsValue.exact (n : Int) : JsValue := .number_float (.finite (.ofInt n))

/-- The object a script sees has the six fields of the frame; a time of more than 53 bits is rounded to
the nearest double. -/
structure JsValue.Shows (v : JsValue) (m : Message) : Prop where
  fromUserId : v.property "fromUserId" = some (.exact m.fromUserId.toInt)
  toUserId : v.property "toUserId" = some (.exact m.toUserId.toInt)
  messageType : v.property "messageType" =
    some (.string ((messageTypeName m.messageType).map Char.toNat))
  messageId : v.property "messageId" = some (.exact m.messageId.toInt)
  content : ∃ cs, m.content = utf8 cs ∧ v.property "content" = some (.string (cs.map Char.toNat))
  timestamp : v.property "timestamp" = some (.ofInt m.timestamp.toInt)

/-- An integer of at most 53 bits is exact in a script. -/
theorem JsValue.ofInt_eq {n : Int} (hn : n.natAbs < 2 ^ 53) :
    JsValue.ofInt n = .exact n := by
  rw [JsValue.ofInt, JsNumber.ofLiteral, JsNumber.ofDecimal,
    Json.ofDecimal_eq_ofInt hn (value_literal n), JsValue.exact]

/-- The ids are exact. -/
theorem JsValue.ofInt_int32 (n : Int32) : JsValue.ofInt n.toInt = .exact n.toInt := by
  have hlo := n.le_toInt
  have hhi := n.toInt_lt
  exact JsValue.ofInt_eq (by omega)

/-- The page reads the text of the server as its code points. -/
theorem reread_text (cs : List Char) :
    Json.reread ecmaScript (.string (utf8 cs)) = some (.string (cs.map Char.toNat)) := by
  rw [Json.reread, decodeUtf8_utf8, Option.map_some]
  rfl

/-- The page reads the ids of the server exactly. -/
theorem reread_ofInt (n : Int32) :
    Json.reread ecmaScript (ofInt n) = some (JsValue.exact n.toInt) := by
  rw [ofInt, Json.reread, Int32.toInt_toInt64, ← JsValue.ofInt_int32]
  rfl

/-- A member whose key is a literal of the source. -/
theorem reread_member {k : String} {v : Json Bytes Empty} {v' : JsValue}
    (hv : Json.reread ecmaScript v = some v') :
    ∃ cs, str k = utf8 cs ∧ js k = cs.map ecmaScript.char ∧ Json.reread ecmaScript v = some v' :=
  ⟨k.toList, rfl, rfl, hv⟩

/-- What the page's `JSON.parse` makes of the frame; `cs` are the characters of the content. -/
def pageObject (m : Message) (cs : List Char) : List (JsString × JsValue) :=
  [ (js "content", .string (cs.map Char.toNat)),
    (js "fromUserId", .exact m.fromUserId.toInt),
    (js "messageId", .exact m.messageId.toInt),
    (js "messageType", .string ((messageTypeName m.messageType).map Char.toNat)),
    (js "timestamp", .ofInt m.timestamp.toInt),
    (js "toUserId", .exact m.toUserId.toInt) ]

/-- The text of a frame is read as that object. -/
theorem parse_of_toJson {m : Message} {cs : List Char} (hcs : m.content = utf8 cs) {text : Bytes}
    (htext : m.toJson = .ok text) : JSON.parse text = some (.object (pageObject m cs)) := by
  rw [toJson_eq, dumpJson_eq_ok] at htext
  obtain ⟨t, ht, rfl⟩ := Option.map_eq_some_iff.mp htext
  have hmembers : Json.rereadMembers ecmaScript
      [ (str "content", .string m.content),
        (str "fromUserId", ofInt m.fromUserId),
        (str "messageId", ofInt m.messageId),
        (str "messageType", .string (messageTypeToString m.messageType)),
        (str "timestamp", .number_integer m.timestamp),
        (str "toUserId", ofInt m.toUserId) ] = some (pageObject m cs) := by
    refine Json.rereadMembers_eq ecmaScript ?_ ?_
    · rw [hcs, messageTypeToString_eq]
      exact .cons (reread_member (reread_text cs))
        (.cons (reread_member (reread_ofInt _))
        (.cons (reread_member (reread_ofInt _))
        (.cons (reread_member (reread_text _))
        (.cons (reread_member rfl)
        (.cons (reread_member (reread_ofInt _)) .nil)))))
    · show [js "content", js "fromUserId", js "messageId", js "messageType", js "timestamp",
        js "toUserId"].Nodup
      decide
  rw [JSON.parse, decodeUtf8_utf8, Option.bind_some, Json.parseText_text ecmaScript ht, Json.reread,
    hmembers, Option.map_some]

/-- The object has the fields of the frame. -/
theorem shows_pageObject {m : Message} {cs : List Char} (hcs : m.content = utf8 cs) :
    JsValue.Shows (.object (pageObject m cs)) m := ⟨rfl, rfl, rfl, rfl, ⟨cs, hcs, rfl⟩, rfl⟩

/-- **`parse_toJson`** — the page reads from every frame the server can send the six fields of it. -/
theorem parse_toJson {m : Message} (h : ValidUtf8 m.content) :
    ∃ text v, m.toJson = .ok text ∧ JSON.parse text = some v ∧ v.Shows m := by
  obtain ⟨cs, hcs⟩ := h
  obtain ⟨text, htext⟩ := Message.exists_toJson (m := m) ⟨cs, hcs⟩
  exact ⟨text, _, htext, parse_of_toJson hcs htext, shows_pageObject hcs⟩

/-- A chat frame whose text needs escapes and whose time is too large for a double. -/
def quotedChat : Message :=
  ⟨-7, 9, .TEXT, 2147483647, str "\"你\n\"", 9007199254740993⟩

theorem parse_toJson_quotedChat :
    ∃ text v, quotedChat.toJson = .ok text ∧ JSON.parse text = some v ∧ v.Shows quotedChat :=
  parse_toJson ⟨"\"你\n\"".toList, rfl⟩

end TinyIM
