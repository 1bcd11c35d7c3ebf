/-
# Message — the frame record and its JSON codec

`Message` is the record every frame decodes to and every reply is built from; `fromJson` and `toJson`
are its two codecs. The decoder reads the six fields in the order of the source and throws at the
first one that is missing or of the wrong kind; the conversion of a JSON number to an `int` is the
library's `static_cast`, so it narrows instead of failing. The type names live in two tables, one for
each direction.
-/
import TinyIM.Runtime

namespace TinyIM

open TinyIM.Lib TinyIM.Lib.Text

/-- The message types of the protocol. -/
inductive MessageType where
  | SIGN_UP
  | SIGN_UP_RESPONSE
  | LOGIN
  | LOGIN_RESPONSE
  | LOGOUT
  | TEXT
  | ADD_FRIEND
  | FRIEND_REQUEST
  | FRIEND_REQUEST_RESPONSE
  | FRIEND_LIST
  | PRIVATE_CHAT
  | GROUP_CHAT
  | PULL_MESSAGE
  deriving DecidableEq, Repr

/-- A frame. -/
structure Message where
  fromUserId : Int32
  toUserId : Int32
  messageType : MessageType
  messageId : Int32
  content : Bytes
  timestamp : Int64
  deriving DecidableEq

/-- The five-argument constructor: the timestamp is the current time. -/
def Message.new (env : Env) (fromUserId toUserId : Int32) (messageType : MessageType)
    (messageId : Int32) (content : Bytes) : Message :=
  ⟨fromUserId, toUserId, messageType, messageId, content, env.now⟩

/-! ## Type names -/

/-- The type a name stands for. -/
def stringToMessageType (typeStr : Bytes) : Except Exn MessageType :=
  if typeStr = str "PULL_MESSAGE" then .ok .PULL_MESSAGE
  else if typeStr = str "SIGN_UP" then .ok .SIGN_UP
  else if typeStr = str "SIGN_UP_RESPONSE" then .ok .SIGN_UP_RESPONSE
  else if typeStr = str "LOGIN" then .ok .LOGIN
  else if typeStr = str "LOGIN_RESPONSE" then .ok .LOGIN_RESPONSE
  else if typeStr = str "LOGOUT" then .ok .LOGOUT
  else if typeStr = str "TEXT" then .ok .TEXT
  else if typeStr = str "ADD_FRIEND" then .ok .ADD_FRIEND
  else if typeStr = str "FRIEND_LIST" then .ok .FRIEND_LIST
  else if typeStr = str "PRIVATE_CHAT" then .ok .PRIVATE_CHAT
  else if typeStr = str "GROUP_CHAT" then .ok .GROUP_CHAT
  else if typeStr = str "FRIEND_REQUEST" then .ok .FRIEND_REQUEST
  else if typeStr = str "FRIEND_REQUEST_RESPONSE" then .ok .FRIEND_REQUEST_RESPONSE
  else .error .invalid_argument

/-- The name of a type. Every enumerator has one, so the `default` branch that throws is not
reachable. -/
def messageTypeToString : MessageType → Bytes
  | .SIGN_UP => str "SIGN_UP"
  | .SIGN_UP_RESPONSE => str "SIGN_UP_RESPONSE"
  | .LOGIN => str "LOGIN"
  | .LOGIN_RESPONSE => str "LOGIN_RESPONSE"
  | .LOGOUT => str "LOGOUT"
  | .TEXT => str "TEXT"
  | .ADD_FRIEND => str "ADD_FRIEND"
  | .FRIEND_LIST => str "FRIEND_LIST"
  | .PRIVATE_CHAT => str "PRIVATE_CHAT"
  | .GROUP_CHAT => str "GROUP_CHAT"
  | .FRIEND_REQUEST => str "FRIEND_REQUEST"
  | .FRIEND_REQUEST_RESPONSE => str "FRIEND_REQUEST_RESPONSE"
  | .PULL_MESSAGE => str "PULL_MESSAGE"

/-- The two tables of type names are inverse to each other. -/
theorem stringToMessageType_messageTypeToString (t : MessageType) :
    stringToMessageType (messageTypeToString t) = .ok t := by
  cases t <;> decide

@[simp] theorem cstr_messageTypeToString (t : MessageType) :
    cstr (messageTypeToString t) = messageTypeToString t := by
  cases t <;> decide

/-! ## JSON access -/

/-- A value `json::parse` returns. -/
abbrev Parsed := Json (List Char) Binary64

/-- `json::parse`. -/
def parseJson (s : Bytes) : Except Exn Parsed :=
  match Json.parse Binary64.ofDecimal s with
  | none => .error .parse_error
  | some j => .ok j

/-- `j[key]` of a non-const value: a missing member is created as `null`, and `null` becomes an
object; any other kind of value throws. -/
def member (j : Parsed) (key : String) : Except Exn Parsed :=
  match j with
  | .object ms => .ok ((ms.lookup key.toList).getD .null)
  | .null => .ok .null
  | _ => .error .type_error

/-- The implicit conversion to `std::string`. -/
def asString : Parsed → Except Exn Bytes
  | .string s => .ok (utf8 s)
  | _ => .error .type_error

/-- The implicit conversion to `int`: a `static_cast` from whatever number or truth value is stored. -/
def asInt (env : Env) : Parsed → Except Exn Int32
  | .number_unsigned n => .ok n.toUInt32.toInt32
  | .number_integer n => .ok n.toInt32
  | .number_float x =>
    .ok (if -2 ^ 31 ≤ x.trunc ∧ x.trunc < 2 ^ 31 then Int32.ofInt x.trunc else env.badInt x)
  | .boolean b => .ok (if b then 1 else 0)
  | _ => .error .type_error

/-- The implicit conversion to `std::time_t`, which is the library's own integer type: it takes the
same numbers but no truth value. -/
def asTime (env : Env) : Parsed → Except Exn Int64
  | .number_unsigned n => .ok n.toInt64
  | .number_integer n => .ok n
  | .number_float x =>
    .ok (if -2 ^ 63 ≤ x.trunc ∧ x.trunc < 2 ^ 63 then Int64.ofInt x.trunc else env.badTime x)
  | _ => .error .type_error

/-- A string taken out of a parsed value is well-formed UTF-8. -/
theorem validUtf8_of_asString {j : Parsed} {s : Bytes} (h : asString j = .ok s) : ValidUtf8 s := by
  cases j with
  | string cs =>
      rw [← Except.ok.inj h]
      exact validUtf8_utf8 cs
  | _ => cases h

/-! ## The codec -/

/-- Decode a frame. -/
def Message.fromJson (env : Env) (jsonString : Bytes) : Except Exn Message := do
  let j ← parseJson jsonString
  let fromUserId ← asInt env (← member j "fromUserId")
  let toUserId ← asInt env (← member j "toUserId")
  let messageType ← stringToMessageType (← asString (← member j "messageType"))
  let messageId ← asInt env (← member j "messageId")
  let content ← asString (← member j "content")
  let timestamp ← asTime env (← member j "timestamp")
  return ⟨fromUserId, toUserId, messageType, messageId, content, timestamp⟩

theorem except_bind_eq_ok {ε α β : Type} {x : Except ε α} {f : α → Except ε β} {b : β} :
    (x >>= f) = .ok b ↔ ∃ a, x = .ok a ∧ f a = .ok b := by
  cases x with
  | error e =>
      constructor
      · intro h
        cases h
      · rintro ⟨a, ha, -⟩
        cases ha
  | ok a =>
      constructor
      · intro h
        exact ⟨a, rfl, h⟩
      · rintro ⟨a', ha', h⟩
        rw [Except.ok.inj ha']
        exact h

/-- **`Message.fromJson_eq_ok`** — what a text has to contain to be decoded to a frame. -/
theorem Message.fromJson_eq_ok {env : Env} {s : Bytes} {m : Message} :
    Message.fromJson env s = .ok m ↔ ∃ j, parseJson s = .ok j ∧
      (member j "fromUserId" >>= asInt env) = .ok m.fromUserId ∧
      (member j "toUserId" >>= asInt env) = .ok m.toUserId ∧
      (member j "messageType" >>= asString >>= stringToMessageType) = .ok m.messageType ∧
      (member j "messageId" >>= asInt env) = .ok m.messageId ∧
      (member j "content" >>= asString) = .ok m.content ∧
      (member j "timestamp" >>= asTime env) = .ok m.timestamp := by
  obtain ⟨fromUserId, toUserId, messageType, messageId, content, timestamp⟩ := m
  unfold Message.fromJson
  simp only [except_bind_eq_ok, pure, Except.pure, Except.ok.injEq, Message.mk.injEq]
  constructor
  · rintro ⟨j, hj, v₁, h₁, _, hfrom, v₂, h₂, _, hto, v₃, h₃, name, hname, _, htype, v₄, h₄, _, hid,
      v₅, h₅, _, hcontent, v₆, h₆, _, htime, rfl, rfl, rfl, rfl, rfl, rfl⟩
    exact ⟨j, hj, ⟨v₁, h₁, hfrom⟩, ⟨v₂, h₂, hto⟩, ⟨name, ⟨v₃, h₃, hname⟩, htype⟩, ⟨v₄, h₄, hid⟩,
      ⟨v₅, h₅, hcontent⟩, v₆, h₆, htime⟩
  · rintro ⟨j, hj, ⟨v₁, h₁, hfrom⟩, ⟨v₂, h₂, hto⟩, ⟨name, ⟨v₃, h₃, hname⟩, htype⟩, ⟨v₄, h₄, hid⟩,
      ⟨v₅, h₅, hcontent⟩, v₆, h₆, htime⟩
    exact ⟨j, hj, v₁, h₁, _, hfrom, v₂, h₂, _, hto, v₃, h₃, name, hname, _, htype, v₄, h₄, _, hid,
      v₅, h₅, _, hcontent, v₆, h₆, _, htime, rfl, rfl, rfl, rfl, rfl, rfl⟩

/-- The content of a decoded frame is well-formed UTF-8. -/
theorem Message.validUtf8_of_fromJson {env : Env} {s : Bytes} {m : Message}
    (h : Message.fromJson env s = .ok m) : ValidUtf8 m.content := by
  obtain ⟨j, -, -, -, -, -, hcontent, -⟩ := Message.fromJson_eq_ok.mp h
  obtain ⟨v, -, hv⟩ := except_bind_eq_ok.mp hcontent
  exact validUtf8_of_asString hv

/-- `dump()` of a value the server built. -/
def dumpJson (j : Json Bytes Empty) : Except Exn Bytes :=
  match j.dump with
  | none => .error .type_error
  | some s => .ok s

theorem dumpJson_eq_ok {j : Json Bytes Empty} {s : Bytes} : dumpJson j = .ok s ↔ j.dump = some s := by
  unfold dumpJson
  cases j.dump with
  | none => simp
  | some t => simp

theorem exists_dumpJson {j : Json Bytes Empty} (h : j.WellFormed) : ∃ s, dumpJson j = .ok s := by
  obtain ⟨s, hs⟩ := Json.exists_dump h
  exact ⟨s, dumpJson_eq_ok.mpr hs⟩

/-- An `int` stored in a JSON value. -/
def ofInt (n : Int32) : Json Bytes Empty := .number_integer n.toInt64

/-- Encode a frame. -/
def Message.toJson (m : Message) : Except Exn Bytes :=
  dumpJson (Json.mkObject
    [ (str "fromUserId", ofInt m.fromUserId),
      (str "toUserId", ofInt m.toUserId),
      (str "messageType", .string (messageTypeToString m.messageType)),
      (str "messageId", ofInt m.messageId),
      (str "content", .string m.content),
      (str "timestamp", .number_integer m.timestamp) ])

end TinyIM
