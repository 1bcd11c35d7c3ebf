/-
# Page — the client's page

What the script of the page does with the messages it receives. The state is the part of the script's
globals that decides what is cached and what is sent; what only changes the document (alerts, the
rendered conversation, the friend list) is left out, but for the throws it ends in. A handler runs in a
state monad whose exceptions keep the state, as a throw in JavaScript leaves the assignments made before
it.

The variable `content` in `handleMessage` is assigned without a declaration, so it is a global that
keeps its value from one message to the next; before the first assignment, reading it throws.
-/
import TinyIM.Message
import TinyIM.Lib.JsonText
import TinyIM.Lib.Runs
import TinyIM.Lib.Stops

namespace TinyIM

open TinyIM.Lib TinyIM.Lib.Text TinyIM.Lib.Runs TinyIM.Lib.Stops

/-! ## JavaScript values -/

/-- A string, as its code points; a surrogate without a partner is one of them. -/
abbrev JsString := List Nat

/-- A numeric value. The two zeros are not told apart. -/
inductive JsNumber where
  | finite (x : Binary64)
  | infinite (negative : Bool)
  deriving DecidableEq

/-- A value `JSON.parse` returns. -/
abbrev JsValue := Json JsString JsNumber

/-- What a script can throw here. -/
inductive JsError where
  | SyntaxError
  | TypeError
  | ReferenceError
  deriving DecidableEq

/-- A string literal of the script. -/
def js (s : String) : JsString := s.toList.map Char.toNat

/-- The number nearest to a decimal literal. -/
def JsNumber.ofDecimal (x : Json.Decimal) : JsNumber :=
  match Binary64.ofDecimal x with
  | some x => .finite x
  | none => .infinite x.negative

/-- The number a literal stands for. -/
def JsNumber.ofLiteral : Json.Number → JsNumber
  | .integer negative n => .ofDecimal ⟨negative, n, 0⟩
  | .fractional x => .ofDecimal x

/-- How JavaScript reads JSON: a surrogate escape may stand alone, and every literal is a number. -/
def ecmaScript : Json.Dialect Nat JsNumber :=
  ⟨Char.toNat, some, fun n => some (.number_float (.ofLiteral n))⟩

/-- `JSON.parse`. -/
def JSON.parse (text : Bytes) : Option JsValue := (decodeUtf8 text).bind (Json.parseText ecmaScript)

/-- The value is `null`. -/
def JsValue.isNull : JsValue → Bool
  | .null => true
  | _ => false

/-- `v.key`, with `none` for `undefined`. -/
def JsValue.property (v : JsValue) (key : String) : Option JsValue :=
  match v with
  | .object ms => ms.lookup (js key)
  | _ => none

mutual

/-- `${v}` does not throw: an object whose `toString` is a value of the JSON text has no text form, nor
has an array with such an element. -/
def JsValue.hasText : JsValue → Bool
  | .object ms => (ms.lookup (js "toString")).isNone
  | .array xs => JsValue.haveText xs
  | _ => true

/-- `hasText` of each element. -/
def JsValue.haveText : List JsValue → Bool
  | [] => true
  | x :: xs => JsValue.hasText x && JsValue.haveText xs

end

/-- `!!v`. -/
def JsValue.truthy : JsValue → Bool
  | .null => false
  | .boolean b => b
  | .number_integer n => n ≠ 0
  | .number_unsigned n => n ≠ 0
  | .number_float (.finite x) => x.scaled ≠ 0
  | .number_float (.infinite _) => true
  | .string s => s ≠ []
  | .array _ => true
  | .object _ => true

/-- `username || '未知'`. -/
def orUnknown (username : Option JsValue) : Option JsValue :=
  if username.any JsValue.truthy then username else some (.string (js "未知"))

/-- Text with a NUL is not JSON. -/
theorem noNul_of_parse {text : Bytes} {v : JsValue} (h : JSON.parse text = some v) : NoNul text := by
  obtain ⟨cs, hcs, hv⟩ := Option.bind_eq_some_iff.mp h
  have hnul := Json.nul_notMem_of_parseText hv
  rw [decodeUtf8_eq_some.mp hcs]
  intro hmem
  obtain ⟨c, hc, hzero⟩ := List.mem_flatMap.mp hmem
  refine zero_notMem_utf8EncodeChar ?_ hzero
  rintro rfl
  exact hnul hc

/-! ## The page -/

/-- An entry of a message cache. -/
structure Entry where
  fromUserId : Int32
  toUserId : Int32
  messageId : Int32
  username : Option JsValue
  text : Option JsValue
  timestamp : Int64

/-- The globals of the script. -/
structure Page where
  userId : Int32
  username : Option JsValue
  /-- The friend whose conversation is open, `0` for the public chat. -/
  currentChat : Int32
  /-- The undeclared variable `content`; `none` before its first assignment. -/
  content : Option JsValue
  message_id : Nat
  /-- The entries filed under each user id. -/
  messageCache : Int32 → List Entry
  publicCache : List Entry
  /-- The frames passed to `socket.send`, in order. -/
  sent : List Message

/-- A piece of the script. -/
abbrev PageM := EStateM JsError Page

namespace Page

/-- The page has been loaded. -/
def loaded : Page := ⟨0, some .null, 0, none, 0, fun _ => [], [], []⟩

/-- `try { … } catch (e) { console.error(…) }`. -/
def attempt (x : PageM Unit) : PageM Unit := fun p =>
  match x p with
  | .ok _ p => .ok () p
  | .error _ p => .ok () p

/-- Leave a value or throw. -/
def orThrow {α : Type} (x : Except JsError α) : PageM α := fun p =>
  match x with
  | .ok a => .ok a p
  | .error e => .error e p

/-- `JSON.parse(text)`. -/
def parse (text : Bytes) : PageM JsValue :=
  orThrow (match JSON.parse text with
    | some v => .ok v
    | none => .error .SyntaxError)

/-- `v.key`. -/
def getProperty (v : JsValue) (key : String) : PageM (Option JsValue) :=
  orThrow (if v.isNull then .error .TypeError else .ok (v.property key))

/-- The value of the global `content`. -/
def getContent : PageM JsValue := do
  match (← get).content with
  | some v => return v
  | none => orThrow (.error .ReferenceError)

/-- Send a frame; `now` is `Date.now() / 1000`. -/
def sendMessage (now : Int64) (type : MessageType) (fromUserId toUserId : Int32) (content : Bytes) :
    PageM Unit :=
  modify fun p => { p with
    message_id := p.message_id + 1
    sent := p.sent ++ [⟨fromUserId, toUserId, type, Int32.ofNat p.message_id, content, now⟩] }

/-- Ask for the history. -/
def pullMessage (now : Int64) (userId : Int32) : PageM Unit :=
  sendMessage now .PULL_MESSAGE userId (-1) (str " ")

/-- Log in. -/
def login (now : Int64) (userId : Int32) (password : Bytes) : PageM Unit :=
  sendMessage now .LOGIN userId (-1) password

/-- The login form has been submitted. -/
def submitLogin (now : Int64) (userId : Int32) (password : Bytes) : PageM Unit := do
  modify fun p => { p with userId := userId }
  login now userId password

/-- The entry made of a message and its parsed content. -/
def entry (msg : Message) (content : JsValue) : Entry where
  fromUserId := msg.fromUserId
  toUserId := msg.toUserId
  messageId := msg.messageId
  username := content.property "username"
  text := content.property "text"
  timestamp := msg.timestamp

/-- Append an entry to the ones filed under a user id. -/
def file (messageCache : Int32 → List Entry) (key : Int32) (e : Entry) : Int32 → List Entry := fun k =>
  if k = key then messageCache k ++ [e] else messageCache k

/-- File a message under its sender and under its recipient. The content is parsed once more; if that
fails, the value passed in is used. -/
def addMessageToCache (msg : Message) (content : JsValue) : PageM Unit := do
  let content := (JSON.parse msg.content).getD content
  let _ ← getProperty content "username"
  let _ ← getProperty content "text"
  modify fun p => { p with messageCache := file p.messageCache msg.fromUserId (entry msg content) }
  modify fun p => { p with messageCache := file p.messageCache msg.toUserId (entry msg content) }

/-- Append a message to the cache of the public chat. -/
def addMessageToPublicCache (msg : Message) (content : JsValue) : PageM Unit := do
  let content := (JSON.parse msg.content).getD content
  let _ ← getProperty content "username"
  let _ ← getProperty content "text"
  modify fun p => { p with publicCache := p.publicCache ++ [entry msg content] }

/-- Assign the global `content`. -/
def setContent (content : JsValue) : PageM Unit := modify fun p => { p with content := some content }

/-- `try { content = JSON.parse(msg.content); } catch (e) { console.error(…) }`. -/
def parseContent (msg : Message) : PageM Unit :=
  attempt do
    let content ← parse msg.content
    setContent content

/-- Render a message. The text of the name and of the message are needed, and the time as a number. -/
def addMessageToChat (username text timestamp : Option JsValue) : PageM Unit :=
  orThrow (if username.all JsValue.hasText && text.all JsValue.hasText && timestamp.all JsValue.hasText
    then .ok () else .error .TypeError)

/-- `if (chat === currentChat) { addMessageToChat(content.username || '未知', content.text, …); }`. -/
def showIfOpen (chat : Int32) : PageM Unit := do
  if chat = (← get).currentChat then
    let content ← getContent
    let username ← getProperty content "username"
    let text ← getProperty content "text"
    addMessageToChat (orUnknown username) text (content.property "timestmap")

/-- The `LOGIN_RESPONSE` branch: after a success, the history is requested at once. -/
def handleLoginResponse (now : Int64) (msg : Message) : PageM Unit :=
  attempt do
    let content ← parse msg.content
    setContent content
    match ← getProperty content "status" with
    | some (.string s) =>
      if s = js "success" then
        let username ← getProperty content "username"
        modify fun p => { p with username := username }
        pullMessage now (← get).userId
      else return ()
    | _ => return ()

/-- Dispatch on the type. A chat message is cached before it is rendered, and a group message after it.
The branches of the other types change the document only. -/
def handleMessage (now : Int64) (msg : Message) : PageM Unit :=
  match msg.messageType with
  | .LOGIN_RESPONSE => handleLoginResponse now msg
  | .TEXT => do
    parseContent msg
    addMessageToCache msg (← getContent)
    showIfOpen msg.fromUserId
  | .GROUP_CHAT => do
    parseContent msg
    showIfOpen msg.toUserId
    addMessageToPublicCache msg (← getContent)
  | _ => return ()

/-- One message received at a moment. -/
def step (p : Page) (e : Int64 × Message) : Page := stateOf (handleMessage e.1 e.2 p)

/-! ## What a message does -/

section Rules

variable {p : Page} {E : JsError → Page → Prop}

@[simp] theorem ends_attempt {x : PageM Unit} {Q : Unit → Page → Prop} :
    Ends (attempt x) p Q E ↔ Ends x p (fun _ p' => Q () p') fun _ p' => Q () p' := by
  unfold Ends attempt
  cases x p with
  | ok a p' => rfl
  | error e p' => rfl

@[simp] theorem ends_orThrow {α : Type} {x : Except JsError α} {Q : α → Page → Prop} :
    Ends (orThrow x) p Q E ↔ (∀ a, x = .ok a → Q a p) ∧ ∀ e, x = .error e → E e p := by
  cases x with
  | ok a => simp [Ends, orThrow]
  | error e => simp [Ends, orThrow]

theorem ends_parse_some {text : Bytes} {v : JsValue} (h : JSON.parse text = some v)
    {Q : JsValue → Page → Prop} : Ends (parse text) p Q E ↔ Q v p := by
  unfold parse
  rw [h]
  exact Iff.rfl

theorem ends_parse_none {text : Bytes} (h : JSON.parse text = none) {Q : JsValue → Page → Prop} :
    Ends (parse text) p Q E ↔ E .SyntaxError p := by
  unfold parse
  rw [h]
  exact Iff.rfl

theorem ends_getProperty {v : JsValue} {key : String} {Q : Option JsValue → Page → Prop} :
    Ends (getProperty v key) p Q E ↔
      if v.isNull then E .TypeError p else Q (v.property key) p := by
  unfold getProperty
  split
  · exact Iff.rfl
  · exact Iff.rfl

end Rules

/-- The global `content` once the content of a chat message has been parsed, or could not be. -/
def contentAfter (p : Page) (msg : Message) : Option JsValue := (JSON.parse msg.content).or p.content

/-- The cache once a message has been filed with a content, or could not be. -/
def cacheAfter (messageCache : Int32 → List Entry) (msg : Message) :
    Option JsValue → Int32 → List Entry
  | none => messageCache
  | some v =>
    if v.isNull then messageCache
    else file (file messageCache msg.fromUserId (entry msg v)) msg.toUserId (entry msg v)

/-- The frame `pullMessage` sends. -/
def pullFrame (now : Int64) (p : Page) : Message :=
  ⟨p.userId, -1, .PULL_MESSAGE, Int32.ofNat p.message_id, str " ", now⟩

section Steps

variable {p : Page} {now : Int64} {msg : Message}

theorem ends_addMessageToCache {v w : JsValue} (hv : (JSON.parse msg.content).getD v = w) :
    Ends (addMessageToCache msg v) p
      (fun _ p' => p' = { p with messageCache := cacheAfter p.messageCache msg (some w) })
      fun _ p' => p' = { p with messageCache := cacheAfter p.messageCache msg (some w) } := by
  unfold addMessageToCache
  simp only [hv, ends_bind, ends_getProperty, ends_modify, cacheAfter]
  cases w.isNull with
  | true => rfl
  | false => rfl

/-- A value in the global after the content has been handled is the one the cache helpers work with. -/
theorem getD_of_contentAfter {v : JsValue} (hv : contentAfter p msg = some v) :
    (JSON.parse msg.content).getD v = v := by
  unfold contentAfter at hv
  cases hparse : JSON.parse msg.content with
  | none => rfl
  | some w =>
      rw [hparse] at hv
      exact Option.some.inj hv

/-- How the branches for messages that are cached begin: the content is parsed into the global, or an
error is caught. -/
theorem ends_parseContent {Q : Unit → Page → Prop} {E : JsError → Page → Prop} :
    Ends (parseContent msg) p Q E ↔ Q () { p with content := contentAfter p msg } := by
  unfold parseContent contentAfter
  rw [ends_attempt, ends_bind]
  cases hv : JSON.parse msg.content with
  | some v =>
      rw [ends_parse_some hv]
      exact Iff.rfl
  | none =>
      rw [ends_parse_none hv]
      exact Iff.rfl

/-- The value of the global is used, and throws if there is none. -/
theorem ends_getContent {Q : JsValue → Page → Prop} {E : JsError → Page → Prop} :
    Ends getContent p Q E ↔ match p.content with
      | some v => Q v p
      | none => E .ReferenceError p := by
  unfold getContent
  rw [ends_bind, ends_get]
  cases p.content with
  | some v => exact Iff.rfl
  | none => exact Iff.rfl

theorem ends_addMessageToChat {username text timestamp : Option JsValue} {Q : Unit → Page → Prop}
    {E : JsError → Page → Prop} : Ends (addMessageToChat username text timestamp) p Q E ↔
      if (username.all JsValue.hasText && text.all JsValue.hasText && timestamp.all JsValue.hasText) = true
      then Q () p else E .TypeError p := by
  unfold addMessageToChat
  split
  · exact Iff.rfl
  · exact Iff.rfl

/-- Rendering the content does not throw. -/
def canShow (content : JsValue) : Bool :=
  !content.isNull && (orUnknown (content.property "username")).all JsValue.hasText &&
    (content.property "text").all JsValue.hasText && (content.property "timestmap").all JsValue.hasText

/-- Rendering leaves the page as it is, also when it throws. -/
theorem ends_showIfOpen {chat : Int32} {Q : Unit → Page → Prop} {E : JsError → Page → Prop} :
    Ends (showIfOpen chat) p Q E ↔
      if chat = p.currentChat then
        match p.content with
        | some v => if canShow v then Q () p else E .TypeError p
        | none => E .ReferenceError p
      else Q () p := by
  unfold showIfOpen
  rw [ends_bind, ends_get]
  by_cases hopen : chat = p.currentChat
  · rw [if_pos hopen, if_pos hopen, ends_bind, ends_getContent]
    cases p.content with
    | none => exact Iff.rfl
    | some v =>
        simp only [ends_bind, ends_getProperty, ends_addMessageToChat, canShow]
        by_cases hnull : v.isNull = true
        · simp only [hnull, if_true, Bool.not_true, Bool.false_and, Bool.false_eq_true, if_false]
        · rw [Bool.not_eq_true] at hnull
          simp only [hnull, Bool.false_eq_true, if_false, Bool.not_false, Bool.true_and]
  · rw [if_neg hopen, if_neg hopen]
    exact Iff.rfl

/-- **`step_text`** — everything a chat message does to the page. -/
theorem step_text (hty : msg.messageType = .TEXT) : step p (now, msg) = { p with
    content := contentAfter p msg
    messageCache := cacheAfter p.messageCache msg (contentAfter p msg) } := by
  have hends : Ends (handleMessage now msg) p
      (fun _ p' => p' = { p with
        content := contentAfter p msg
        messageCache := cacheAfter p.messageCache msg (contentAfter p msg) })
      fun _ p' => p' = { p with
        content := contentAfter p msg
        messageCache := cacheAfter p.messageCache msg (contentAfter p msg) } := by
    unfold handleMessage
    rw [hty]
    dsimp only
    rw [ends_bind, ends_parseContent, ends_bind, ends_getContent]
    dsimp only
    cases hc : contentAfter p msg with
    | none => rfl
    | some v =>
        dsimp only
        rw [ends_bind]
        refine (ends_addMessageToCache (getD_of_contentAfter hc)).mono ?_ fun _ _ h => h
        rintro _ p' rfl
        -- the message is filed already, so what rendering it does is of no consequence
        rw [ends_showIfOpen]
        dsimp only
        split
        · split <;> rfl
        · rfl
  exact ends_stateOf.mp hends

/-- A successful login response sends the request for the history, and caches nothing. -/
theorem step_success {v : JsValue} (hty : msg.messageType = .LOGIN_RESPONSE)
    (hv : JSON.parse msg.content = some v)
    (hstatus : v.property "status" = some (.string (js "success"))) : step p (now, msg) = { p with
      content := some v
      username := v.property "username"
      message_id := p.message_id + 1
      sent := p.sent ++ [pullFrame now p] } := by
  have hnull : v.isNull = false := by
    cases v with
    | null => cases hstatus
    | _ => rfl
  have hends : Ends (handleLoginResponse now msg) p
      (fun _ p' => p' = { p with
        content := some v
        username := v.property "username"
        message_id := p.message_id + 1
        sent := p.sent ++ [pullFrame now p] }) fun _ _ => False := by
    unfold handleLoginResponse
    simp only [ends_attempt, ends_bind, ends_parse_some hv, ends_getProperty, hnull, hstatus,
      Bool.false_eq_true, if_false, if_true, setContent, ends_modify, ends_get]
    exact rfl
  show stateOf (handleMessage now msg p) = _
  unfold handleMessage
  rw [hty]
  exact ends_stateOf.mp (hends.mono (fun _ _ hp => hp) fun _ _ hfalse => hfalse.elim)

end Steps

/-! ## What a sequence of chat messages leaves in the cache -/

/-- The content of the message is JSON, and not `null`. -/
def Readable (msg : Message) : Prop := ∃ v, JSON.parse msg.content = some v ∧ v.isNull = false

/-- `Readable`, computed. -/
theorem readable_iff {msg : Message} :
    Readable msg ↔ (JSON.parse msg.content).any (fun v => !v.isNull) = true := by
  unfold Readable
  rw [Option.any_eq_true]
  refine exists_congr fun v => and_congr_right fun _ => ?_
  rw [Bool.not_eq_true']

/-- The entry made of a message whose content can be read. -/
def copy (msg : Message) : Entry := entry msg ((JSON.parse msg.content).getD .null)

/-- The entries filed under a user that are of messages the user sent. -/
def fromUser (p : Page) (b : Int32) : List Entry :=
  (p.messageCache b).filter fun e => e.fromUserId = b

section Sequences

variable {p : Page} {now : Int64} {msg : Message} {b : Int32}

/-- Filing a message adds one entry of it to the messages of its sender, if any. -/
theorem filter_file {messageCache : Int32 → List Entry} {v : JsValue}
    (hto : msg.fromUserId = b → msg.toUserId ≠ b) :
    (file (file messageCache msg.fromUserId (entry msg v)) msg.toUserId (entry msg v) b).filter
        (fun e => e.fromUserId = b) =
      (messageCache b).filter (fun e => e.fromUserId = b) ++
        if msg.fromUserId = b then [entry msg v] else [] := by
  unfold file
  by_cases hfrom : msg.fromUserId = b
  · -- filed twice, but only once under the sender
    rw [if_pos hfrom, if_neg (Ne.symm (hto hfrom)), if_pos hfrom.symm, List.filter_append]
    exact congrArg _ (List.filter_cons_of_pos (decide_eq_true hfrom))
  · have hnone : [entry msg v].filter (fun e => e.fromUserId = b) = [] :=
      List.filter_cons_of_neg (mt of_decide_eq_true hfrom)
    rw [if_neg hfrom, if_neg (Ne.symm hfrom), List.append_nil]
    split
    · rw [List.filter_append, hnone, List.append_nil]
    · rfl

/-- A chat message adds to the messages of its sender at most one entry, and a copy of it if its
content can be read. -/
theorem fromUser_step (now : Int64) (hty : msg.messageType = .TEXT)
    (hto : msg.fromUserId = b → msg.toUserId ≠ b) :
    ∃ added, (step p (now, msg)).fromUser b = p.fromUser b ++ added ∧
      (msg.fromUserId ≠ b → added = []) ∧ (∀ e ∈ added, e.messageId = msg.messageId) ∧
      (Readable msg → msg.fromUserId = b → added = [copy msg]) := by
  rw [step_text hty]
  unfold fromUser
  simp only
  cases hc : contentAfter p msg with
  | none =>
      refine ⟨[], (List.append_nil _).symm, fun _ => rfl, fun e he => (nomatch he), ?_⟩
      rintro ⟨v, hv, -⟩
      rw [contentAfter, hv] at hc
      cases hc
  | some v =>
      unfold cacheAfter
      simp only
      cases hnull : v.isNull with
      | true =>
          refine ⟨[], (List.append_nil _).symm, fun _ => rfl, fun e he => (nomatch he), ?_⟩
          rintro ⟨w, hw, hw'⟩
          rw [contentAfter, hw] at hc
          rw [Option.some.inj hc, hnull] at hw'
          cases hw'
      | false =>
          refine ⟨_, filter_file hto, fun hne => if_neg hne, ?_, ?_⟩
          · intro e he
            split at he
            · rw [List.mem_singleton.mp he]
              rfl
            · cases he
          · rintro ⟨w, hw, -⟩ hfrom
            rw [contentAfter, hw] at hc
            rw [if_pos hfrom, copy, hw]
            exact congrArg (fun v => [entry msg v]) (Option.some.inj hc).symm

/-- Chat messages send nothing. -/
theorem sent_exec {ds : List (Int64 × Message)} (hty : ∀ d ∈ ds, d.2.messageType = .TEXT) :
    (exec step p ds).sent = p.sent := by
  induction ds generalizing p with
  | nil => rfl
  | cons d ds ih =>
      rw [List.forall_mem_cons] at hty
      rw [exec_cons, ih hty.2]
      show (step p (d.1, d.2)).sent = _
      rw [step_text hty.1]

/-- **`fromUser_exec`** — after a sequence of chat messages, some of them marked as readable, the
messages of user `b` are those from before, one copy of each marked one of `b`, and entries that carry
the ids of unmarked ones. -/
theorem fromUser_exec {ms : List (Message × Bool)} {ds : List (Int64 × Message)}
    (hds : ds.map Prod.snd = ms.map Prod.fst) (hty : ∀ m ∈ ms, m.1.messageType = .TEXT)
    (hto : ∀ m ∈ ms, m.1.fromUserId = b → m.1.toUserId ≠ b)
    (hreadable : ∀ m ∈ ms, m.2 = true → Readable m.1) :
    ∃ others, ((exec step p ds).fromUser b).Perm (p.fromUser b ++
        ((ms.filter fun m => m.2 ∧ m.1.fromUserId = b).map (fun m => copy m.1) ++ others)) ∧
      ∀ e ∈ others, ∃ m ∈ ms, m.2 = false ∧ e.messageId = m.1.messageId := by
  induction ms generalizing p ds with
  | nil =>
      rw [List.map_eq_nil_iff.mp hds]
      exact ⟨[], by simp, fun e he => (nomatch he)⟩
  | cons m ms ih =>
      obtain ⟨⟨now, msg⟩, ds, rfl, hmsg, hds⟩ := List.map_eq_cons_iff.mp hds
      change msg = m.1 at hmsg
      rw [List.forall_mem_cons] at hty hto hreadable
      obtain ⟨added, hadded, hother, hids, hcopy⟩ := fromUser_step (p := p) now hty.1 hto.1
      obtain ⟨others, hperm, hothers⟩ := ih (p := step p (now, msg)) hds hty.2 hto.2 hreadable.2
      -- what the first message adds is a copy if it is marked, and joins the others if not
      have hrest : ∀ e ∈ others, ∃ m' ∈ m :: ms, m'.2 = false ∧ e.messageId = m'.1.messageId := by
        intro e he
        obtain ⟨m', hm', hmark⟩ := hothers e he
        exact ⟨m', List.mem_cons_of_mem _ hm', hmark⟩
      rw [hmsg, hadded] at hperm
      rw [exec_cons, List.filter_cons, hmsg]
      cases hmark : m.2 with
      | true =>
          by_cases hfrom : m.1.fromUserId = b
          · refine ⟨others, ?_, hrest⟩
            rw [if_pos (by simp [hfrom])]
            rw [hcopy (hreadable.1 hmark) hfrom, List.append_assoc] at hperm
            exact hperm
          · refine ⟨others, ?_, hrest⟩
            rw [if_neg (by simp [hfrom])]
            rw [hother hfrom, List.append_nil] at hperm
            exact hperm
      | false =>
          refine ⟨added ++ others, ?_, ?_⟩
          · rw [if_neg (by simp)]
            refine hperm.trans ?_
            rw [List.append_assoc]
            refine List.Perm.append_left _ ?_
            rw [← List.append_assoc, ← List.append_assoc]
            exact List.perm_append_comm.append_right _
          · intro e he
            rcases List.mem_append.mp he with he | he
            · exact ⟨m, List.mem_cons_self, hmark, hids e he⟩
            · exact hrest e he

end Sequences

end Page

end TinyIM
