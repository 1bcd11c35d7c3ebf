/-
# ChatWindow — the open conversation

The window of the page shows the public chat or the conversation with one friend. When a chat is opened
its messages are rendered from the caches; while it stays open each message is rendered as it comes,
beside being cached. Here are the handlers, and what each of them does to the caches and to the window.

The page is modelled from a successful login on, whose answer comes once. Text is taken as text: the
script inserts it as markup, and what markup does to the document is left out.
-/
import TinyIM.ChatList
import TinyIM.Conversation
import TinyIM.Forms
import TinyIM.Typed

namespace TinyIM

open TinyIM.Lib TinyIM.Lib.Text TinyIM.Lib.Runs TinyIM.Lib.Stops TinyIM.Lib.StableSort

/-! ## The page -/

/-- A message on the screen; the avatar and the line with the time are left out. -/
structure Bubble where
  username : Option JsValue
  text : Option JsValue
  isMe : Bool

/-- The globals of the script and the parts of the document that a chat changes. -/
structure ChatWindow where
  userId : Int
  username : Json.CodePoints
  /-- The undeclared variable `content`; the login has assigned it. -/
  content : JsValue
  chats : ChatList
  /-- The listeners that friend requests have added to the notification, each as the `fromUserId` and
  the `toUserId` it captured. -/
  requests : List (Int × Int)
  /-- The friend whose conversation is open, `0` for the public chat. -/
  currentChat : Int
  /-- The heading over the conversation. -/
  chatTitle : JsString
  message_id : Nat
  messageCache : MessageCache Unit
  publicCache : List (CachedMessage Unit)
  chatMessages : List Bubble
  /-- The objects passed to `socket.send`, in order. -/
  sent : List (MessageType × MessageObject Unit)

/-- A piece of the script. -/
abbrev ChatWindowM := EStateM JsError ChatWindow

namespace ChatWindow

/-- The text of the item of the public chat, and the heading at first. -/
def publicTitle : JsString := js "Public Chat Room"

/-- The page after a successful login. -/
def opened (userId : Int) (username : Json.CodePoints) (content : JsValue) (message_id : Nat) :
    ChatWindow :=
  ⟨userId, username, content, .loaded, [], 0, publicTitle, message_id, .empty, [], [], []⟩

/-- Append a message to the window. The text is built before the document is changed; the time is
converted to a number after it. -/
def addMessageToChat (username text timestamp : Option JsValue) (isMe : Bool) : ChatWindowM Unit := do
  if !(username.all JsValue.hasText && text.all JsValue.hasText) then throw .TypeError
  modify fun w => { w with chatMessages := w.chatMessages ++ [⟨username, text, isMe⟩] }
  if !timestamp.all JsValue.hasText then throw .TypeError

/-- Render a message of a cache. -/
def showMessage (message : ShownMessage Unit) : ChatWindowM Unit :=
  addMessageToChat message.username message.text (some (.ofInt message.timestamp))
    message.isOwnMessage

/-- `v.key`. -/
def getProperty (v : JsValue) (key : String) : ChatWindowM (Option JsValue) :=
  if v.isNull then throw .TypeError else return v.property key

/-- `try { content = JSON.parse(msg.content); } catch (e) { console.error(…) }`. -/
def parseContent (msg : MessageObject Unit) : ChatWindowM Unit :=
  modify fun w => { w with content := (JSON.parse msg.content).getD w.content }

/-- `addMessageToCache(messageCache, msg, content)`. -/
def addMessageToCache (msg : MessageObject Unit) (content : JsValue) : ChatWindowM Unit := fun w =>
  match MessageCache.addMessageToCache msg content w.messageCache with
  | .ok _ messageCache => .ok () { w with messageCache := messageCache }
  | .error e messageCache => .error e { w with messageCache := messageCache }

/-- Append a message to the cache of the public chat. -/
def addMessageToPublicCache (msg : MessageObject Unit) (content : JsValue) : ChatWindowM Unit := do
  let content := (JSON.parse msg.content).getD content
  let _ ← getProperty content "username"
  let _ ← getProperty content "text"
  modify fun w => { w with publicCache := w.publicCache ++ [MessageCache.entry msg content] }

/-! ## Opening a chat -/

/-- Render the public chat; its cache is sorted in place. -/
def displayPublicMessages : ChatWindowM Unit := do
  modify fun w => { w with publicCache := sortBy (·.timestamp) w.publicCache }
  let w ← get
  (w.publicCache.map (MessageCache.shownTo w.userId)).forM showMessage

/-- Render the conversation of `userId` with `friendId`. -/
def displayCachedMessages (userId friendId : Int) : ChatWindowM Unit := do
  (MessageCache.combinedMessages (← get).messageCache userId friendId).forM showMessage

/-- The class `selected` moves to the item; without a selected item the listener throws. -/
def select (item : ChatItem) : ChatWindowM Unit := fun w =>
  match w.chats.select item with
  | .ok chats => .ok () { w with chats := chats }
  | .error e => .error e w

/-- `sendMessage(type, fromUserId, toUserId, content)`; `now` is the time. -/
def sendMessage (now : Int) (type : MessageType) (fromUserId toUserId : Int) (content : Bytes) :
    ChatWindowM Unit :=
  modify fun w => { w with
    message_id := w.message_id + 1
    sent := w.sent ++ [(type, ⟨fromUserId, toUserId, w.message_id, content, now, ()⟩)] }

/-- The listener of an item of the chat list. -/
def onClick (now : Int) (item : ChatItem) : ChatWindowM Unit := do
  select item
  match item with
  | .publicChat =>
    modify fun w => { w with chatMessages := [], chatTitle := publicTitle, currentChat := 0 }
    displayPublicMessages
  | .friendsList => sendMessage now .FRIEND_LIST (← get).userId 0 (str " ")
  | .friend k =>
    match (← get).chats.friends[k]? with
    | some (friend, _) =>
      modify fun w => { w with
        chatTitle := friend.name, chatMessages := [], currentChat := friend.id }
      displayCachedMessages (← get).userId friend.id
    | none => return ()
  | .friendRequestNotification => return ()

/-- A listener that `showFriendRequestNotification` has added; `prompt` is when the user answers
`confirm`, and whether by accepting. -/
def onRequestClick (request : Int × Int) (prompt : Int × Bool) : ChatWindowM Unit :=
  sendMessage prompt.1 .FRIEND_REQUEST_RESPONSE request.2 request.1
    (if prompt.2 then str "accept" else str "reject")

/-- The button that asks for a friend. -/
def onAddFriend (now : Int) (friendIdInput : Json.CodePoints) : ChatWindowM Unit := do
  match addFriendForm friendIdInput with
  | some (some friendId) => sendMessage now .ADD_FRIEND (← get).userId friendId (str " ")
  | _ => return ()

/-- The page is left, or not after all: the user is logged out. -/
def onBeforeunload (now : Int) : ChatWindowM Unit := do
  let w ← get
  if w.userId ≠ 0 then sendMessage now .LOGOUT w.userId (-1) (str "logout")

/-! ## What the open chat adds -/

/-- Render the message whose content is in the global `content`. -/
def showContent (text : Option JsValue) : ChatWindowM Unit := do
  let content := (← get).content
  let username ← getProperty content "username"
  addMessageToChat (orUnknown username) text (content.property "timestmap") false

/-- `if (chat === currentChat) { addMessageToChat(content.username || '未知', content.text, …); }`. -/
def showIfOpen (chat : Int) : ChatWindowM Unit := do
  let w ← get
  if chat = w.currentChat then showContent (w.content.property "text")

/-- The chat form: a blank message is not sent, any other one is sent, cached and shown. -/
def onSubmit (message : Json.CodePoints) (timestamp : SafeInteger) : ChatWindowM Unit := do
  let w ← get
  let content : ChatContent := ⟨some w.username, message, timestamp⟩
  if trim message.chars ≠ [] then
    let msgObj : MessageObject Unit :=
      ⟨w.userId, w.currentChat, w.message_id, utf8 content.json, timestamp.val, ()⟩
    if w.currentChat ≠ 0 then
      sendMessage timestamp.val .TEXT w.userId w.currentChat msgObj.content
      addMessageToCache msgObj (.object content.parsed)
    else
      sendMessage timestamp.val .GROUP_CHAT w.userId w.currentChat msgObj.content
      addMessageToPublicCache msgObj (.object content.parsed)
    addMessageToChat (some (.string w.username.units)) (some (.string message.units))
      (some (.ofInt timestamp.val)) true

/-- The text shown for a file. -/
def fileText (fileName : JsString) : JsValue := .string (js "发送了文件: " ++ fileName)

/-- A file has been chosen: nothing is sent. -/
def onFileInput (fileName : JsString) (timestamp : SafeInteger) : ChatWindowM Unit :=
  addMessageToChat (some (.string (js "你"))) (some (fileText fileName)) (some (.ofInt timestamp.val))
    true

/-- The `TEXT` branch of `handleMessage`: the message is cached before it is shown. -/
def onText (msg : MessageObject Unit) : ChatWindowM Unit := do
  parseContent msg
  addMessageToCache msg (← get).content
  showIfOpen msg.fromUserId

/-- The `FILE` branch: the message is shown wherever the user is. -/
def onFile (msg : MessageObject Unit) (filename : JsString) : ChatWindowM Unit := do
  parseContent msg
  showContent (some (fileText filename))

/-- The `GROUP_CHAT` branch: the message is cached after it is shown. -/
def onGroupChat (msg : MessageObject Unit) : ChatWindowM Unit := do
  parseContent msg
  showIfOpen msg.toUserId
  addMessageToPublicCache msg (← get).content

/-- The `FRIEND_REQUEST` branch: a listener for the notification. -/
def onFriendRequest (msg : MessageObject Unit) : ChatWindowM Unit := do
  if (← get).userId = msg.toUserId then
    modify fun w => { w with requests := w.requests ++ [(msg.fromUserId, msg.toUserId)] }

/-- What happens to the page. -/
inductive Event where
  /-- A click, with what the user does in each prompt it leads to. -/
  | click (now : Int) (item : ChatItem) (prompts : Nat → Int × Bool)
  | submit (message : Json.CodePoints) (timestamp : SafeInteger)
  | fileInput (fileName : JsString) (timestamp : SafeInteger)
  | addFriend (now : Int) (friendIdInput : Json.CodePoints)
  | beforeunload (now : Int)
  | TEXT (msg : MessageObject Unit)
  | FILE (msg : MessageObject Unit) (filename : JsString)
  | GROUP_CHAT (msg : MessageObject Unit)
  | FRIEND_LIST (friends : List Friend)
  | FRIEND_REQUEST (msg : MessageObject Unit)

/-- The listener or the branch of `handleMessage` that runs. -/
def handle (w : ChatWindow) : Event → ChatWindowM Unit
  | .click now item _ => if w.chats.Has item then onClick now item else return ()
  | .submit message timestamp => onSubmit message timestamp
  | .fileInput fileName timestamp => onFileInput fileName timestamp
  | .addFriend now friendIdInput => onAddFriend now friendIdInput
  | .beforeunload now => onBeforeunload now
  | .TEXT msg => onText msg
  | .FILE msg filename => onFile msg filename
  | .GROUP_CHAT msg => onGroupChat msg
  | .FRIEND_LIST friends =>
    modify fun w => { w with chats := w.chats.updateFriendsList friends }
  | .FRIEND_REQUEST msg => onFriendRequest msg

/-- The listeners that friend requests have added to what is clicked. -/
def requestListeners (w : ChatWindow) : Event → List (ChatWindowM Unit)
  | .click _ item prompts =>
    if item = .friendRequestNotification then
      w.requests.zipIdx.map fun r => onRequestClick r.1 (prompts r.2)
    else []
  | _ => []

/-- One event. A listener that throws does not keep the later ones from running. -/
def step (w : ChatWindow) (e : Event) : ChatWindow :=
  (w.handle e :: w.requestListeners e).foldl (fun w listener => stateOf (listener w)) w

/-! ## The content of a message -/

/-- The value that the handler of a message works with: its content, or the one of an earlier message
if that cannot be parsed. -/
def contentOf (w : ChatWindow) (msg : MessageObject Unit) : JsValue :=
  (JSON.parse msg.content).getD w.content

section Content

variable (v : JsValue)

/-- The name of the sender is one that the live view shows as it is. -/
def Named : Prop := (v.property "username").any JsValue.truthy = true

/-- The live view can show the message. -/
def Showable : Prop := (orUnknown (v.property "username")).all JsValue.hasText = true ∧
  (v.property "text").all JsValue.hasText = true

/-- The misspelled time of the content can be converted to a number. -/
def Timed : Prop := (v.property "timestmap").all JsValue.hasText = true

instance decidableNamed : Decidable (Named v) := inferInstanceAs (Decidable (_ = _))

instance decidableShowable : Decidable (Showable v) := inferInstanceAs (Decidable (_ ∧ _))

instance decidableTimed : Decidable (Timed v) := inferInstanceAs (Decidable (_ = _))

/-- The bubble of a received message. -/
def live : Bubble := ⟨orUnknown (v.property "username"), v.property "text", false⟩

end Content

/-! ## What an event does -/

/-- How a message is shown. -/
def bubble (message : ShownMessage Unit) : Bubble :=
  ⟨message.username, message.text, message.isOwnMessage⟩

/-- More bubbles in the window. -/
def push (w : ChatWindow) (bs : List Bubble) : ChatWindow :=
  { w with chatMessages := w.chatMessages ++ bs }

section Rules

variable {w : ChatWindow} {Q : Unit → ChatWindow → Prop} {E : JsError → ChatWindow → Prop}

@[simp] theorem ends_throw {α : Type} {e : JsError} {Q : α → ChatWindow → Prop} :
    Ends (throw e : ChatWindowM α) w Q E ↔ E e w := Iff.rfl

@[simp] theorem ends_getProperty {v : JsValue} {key : String} {Q : Option JsValue → ChatWindow → Prop} :
    Ends (getProperty v key) w Q E ↔ if v.isNull then E .TypeError w else Q (v.property key) w := by
  unfold getProperty
  split
  · exact Iff.rfl
  · exact Iff.rfl

/-- A message that is appended, or has no text form, or has no time. -/
theorem ends_addMessageToChat {username text timestamp : Option JsValue} {isMe : Bool} :
    Ends (addMessageToChat username text timestamp isMe) w Q E ↔
      if username.all JsValue.hasText = true ∧ text.all JsValue.hasText = true then
        if timestamp.all JsValue.hasText = true then Q () (w.push [⟨username, text, isMe⟩])
        else E .TypeError (w.push [⟨username, text, isMe⟩])
      else E .TypeError w := by
  unfold addMessageToChat
  cases username.all JsValue.hasText with
  | false => exact Iff.rfl
  | true =>
      cases text.all JsValue.hasText with
      | false => exact Iff.rfl
      | true =>
          cases timestamp.all JsValue.hasText with
          | false => exact Iff.rfl
          | true => exact Iff.rfl

/-- Filing a message throws or not; what it leaves is one step of the cache. -/
theorem ends_addMessageToCache {msg : MessageObject Unit} {content : JsValue} :
    Ends (addMessageToCache msg content) w Q E ↔
      if ((JSON.parse msg.content).getD content).isNull then E .TypeError w
      else Q () { w with messageCache := MessageCache.step w.messageCache (msg, content) } := by
  unfold addMessageToCache MessageCache.step MessageCache.addMessageToCache
  dsimp only
  cases hnull : ((JSON.parse msg.content).getD content).isNull with
  | true =>
      have hthrow : ∀ key, MessageCache.getProperty (μ := Unit) ((JSON.parse msg.content).getD content)
          key = throw .TypeError := by
        intro key
        rw [MessageCache.getProperty, hnull]
        rfl
      rw [hthrow]
      exact Iff.rfl
  | false =>
      have hreturn : ∀ key, MessageCache.getProperty (μ := Unit) ((JSON.parse msg.content).getD content)
          key = pure (((JSON.parse msg.content).getD content).property key) := by
        intro key
        rw [MessageCache.getProperty, hnull]
        rfl
      rw [hreturn, hreturn]
      exact Iff.rfl

theorem ends_addMessageToPublicCache {msg : MessageObject Unit} {content : JsValue} :
    Ends (addMessageToPublicCache msg content) w Q E ↔
      if ((JSON.parse msg.content).getD content).isNull then E .TypeError w
      else Q () { w with publicCache := w.publicCache ++
        [MessageCache.entry msg ((JSON.parse msg.content).getD content)] } := by
  unfold addMessageToPublicCache
  simp only [ends_bind, ends_getProperty, ends_modify]
  cases ((JSON.parse msg.content).getD content).isNull with
  | true => exact Iff.rfl
  | false => exact Iff.rfl

/-- The content that has been parsed is the one the cache helpers work with. -/
theorem getD_contentOf (w : ChatWindow) (msg : MessageObject Unit) :
    (JSON.parse msg.content).getD (w.contentOf msg) = w.contentOf msg := by
  unfold contentOf
  cases JSON.parse msg.content with
  | none => rfl
  | some v => rfl

end Rules

section Steps

variable {w : ChatWindow} {msg : MessageObject Unit}

/-- The state an event leaves, whether or not its only listener throws. -/
theorem step_eq_of_ends {e : Event} {w' : ChatWindow} (hone : w.requestListeners e = [])
    (h : Ends (w.handle e) w (fun _ after => after = w') fun _ after => after = w') :
    step w e = w' := by
  rw [step, hone]
  exact ends_stateOf.mp h

/-- What a received message adds to the window. -/
def shown (w : ChatWindow) (chat : Int) (v : JsValue) : List Bubble :=
  if v.isNull = false ∧ chat = w.currentChat ∧ Showable v then [live v] else []

theorem push_nil (w : ChatWindow) : w.push [] = w := by
  rw [push, List.append_nil]

/-- A message that is shown, is not meant for the open chat, or throws. -/
theorem ends_showIfOpen {chat : Int} {Q : Unit → ChatWindow → Prop} {E : JsError → ChatWindow → Prop} :
    Ends (showIfOpen chat) w Q E ↔
      if chat = w.currentChat ∧ ¬(w.content.isNull = false ∧ Showable w.content ∧ Timed w.content) then
        E .TypeError (w.push (shown w chat w.content))
      else Q () (w.push (shown w chat w.content)) := by
  unfold showIfOpen shown
  rw [ends_bind, ends_get]
  by_cases hchat : chat = w.currentChat
  · rw [if_pos hchat]
    unfold showContent
    simp only [ends_bind, ends_get, ends_getProperty, ends_addMessageToChat]
    cases hnull : w.content.isNull with
    | true =>
        have hshown : ¬(true = false ∧ chat = w.currentChat ∧ Showable w.content) :=
          fun h => Bool.noConfusion h.1
        have hthrows : chat = w.currentChat ∧
            ¬(true = false ∧ Showable w.content ∧ Timed w.content) :=
          ⟨hchat, fun h => Bool.noConfusion h.1⟩
        rw [if_pos rfl, if_pos hthrows, if_neg hshown, push_nil]
    | false =>
        rw [if_neg Bool.false_ne_true]
        show (if Showable w.content then if Timed w.content then Q () _ else E .TypeError _
          else E .TypeError w) ↔ _
        by_cases hshow : Showable w.content
        · have hshown : false = false ∧ chat = w.currentChat ∧ Showable w.content :=
            ⟨rfl, hchat, hshow⟩
          rw [if_pos hshow, if_pos hshown]
          by_cases htime : Timed w.content
          · rw [if_pos htime, if_neg fun h => h.2 ⟨rfl, hshow, htime⟩]
            exact Iff.rfl
          · rw [if_neg htime, if_pos ⟨hchat, fun h => htime h.2.2⟩]
            exact Iff.rfl
        · have hthrows : chat = w.currentChat ∧
              ¬(false = false ∧ Showable w.content ∧ Timed w.content) :=
            ⟨hchat, fun h => hshow h.2.1⟩
          rw [if_neg hshow, if_pos hthrows, if_neg fun h => hshow h.2.2, push_nil]
  · rw [if_neg hchat, if_neg fun h => hchat h.1, if_neg fun h => hchat h.2.1, push_nil]
    exact Iff.rfl

/-- The message has been parsed. -/
def read (w : ChatWindow) (msg : MessageObject Unit) : ChatWindow := { w with content := w.contentOf msg }

/-- The private message has been parsed and filed. -/
def filed (w : ChatWindow) (msg : MessageObject Unit) : ChatWindow :=
  { w.read msg with messageCache := MessageCache.step w.messageCache (msg, w.contentOf msg) }

theorem ends_parseContent {Q : Unit → ChatWindow → Prop} {E : JsError → ChatWindow → Prop} :
    Ends (parseContent msg) w Q E ↔ Q () (w.read msg) := Iff.rfl

/-- A content that is `null` is not filed. -/
theorem filed_of_isNull (h : (w.contentOf msg).isNull = true) : w.filed msg = w.read msg := by
  have hnone : MessageCache.cached (msg, w.contentOf msg) = none := by
    rw [MessageCache.cached]
    dsimp only
    rw [getD_contentOf, if_pos h]
  rw [filed, MessageCache.step_eq, hnone]
  rfl

/-- **`step_text`** — everything a private message does. -/
theorem step_text : step w (.TEXT msg) =
    (w.filed msg).push (shown w msg.fromUserId (w.contentOf msg)) := by
  refine step_eq_of_ends rfl ?_
  unfold handle onText
  rw [ends_bind, ends_parseContent, ends_bind, ends_get, ends_bind, ends_addMessageToCache]
  show if ((JSON.parse msg.content).getD (w.contentOf msg)).isNull = true then _ else _
  rw [getD_contentOf]
  cases hnull : (w.contentOf msg).isNull with
  | true =>
      have hshown : shown w msg.fromUserId (w.contentOf msg) = [] := by
        rw [shown, hnull]
        exact if_neg fun h => Bool.noConfusion h.1
      rw [if_pos rfl, hshown, push_nil, filed_of_isNull hnull]
  | false =>
      rw [if_neg Bool.false_ne_true, ends_showIfOpen]
      -- shown completely or in part, the message is shown last
      split
      · rfl
      · rfl

/-- The message of the public chat has been parsed, and cached unless showing it throws. -/
def filedPublic (w : ChatWindow) (msg : MessageObject Unit) : ChatWindow :=
  { w.read msg with publicCache := w.publicCache ++
      if (w.contentOf msg).isNull = false ∧
        (msg.toUserId = w.currentChat → Showable (w.contentOf msg) ∧ Timed (w.contentOf msg)) then
        [MessageCache.entry msg (w.contentOf msg)]
      else [] }

/-- **`step_groupChat`** — everything a message of the public chat does. -/
theorem step_groupChat : step w (.GROUP_CHAT msg) =
    (w.filedPublic msg).push (shown w msg.toUserId (w.contentOf msg)) := by
  refine step_eq_of_ends rfl ?_
  unfold handle onGroupChat
  rw [ends_bind, ends_parseContent, ends_bind, ends_showIfOpen]
  show if msg.toUserId = w.currentChat ∧ ¬((w.contentOf msg).isNull = false ∧
    Showable (w.contentOf msg) ∧ Timed (w.contentOf msg)) then _ else _
  rw [ends_bind, ends_get, ends_addMessageToPublicCache]
  split
  · rename_i hthrows
    have hnot : ¬((w.contentOf msg).isNull = false ∧
        (msg.toUserId = w.currentChat → Showable (w.contentOf msg) ∧ Timed (w.contentOf msg))) :=
      fun h => hthrows.2 ⟨h.1, h.2 hthrows.1⟩
    rw [filedPublic, if_neg hnot, List.append_nil]
    rfl
  · rename_i hreturns
    have hread : (JSON.parse msg.content).getD
        ((w.read msg).push (shown (w.read msg) msg.toUserId (w.read msg).content)).content =
        w.contentOf msg := getD_contentOf w msg
    rw [hread, filedPublic]
    split
    · rename_i hnull
      rw [if_neg fun h => Bool.noConfusion (h.1.symm.trans hnull), List.append_nil]
      rfl
    · rename_i hnull
      have hcached : (w.contentOf msg).isNull = false ∧
          (msg.toUserId = w.currentChat → Showable (w.contentOf msg) ∧ Timed (w.contentOf msg)) := by
        refine ⟨Bool.eq_false_of_not_eq_true hnull, fun hto => ?_⟩
        exact (not_not.mp fun h => hreturns ⟨hto, h⟩).2
      rw [if_pos hcached]
      rfl

/-- A file that another user has sent is shown if the name of the sender can be. -/
theorem step_file {filename : JsString} : step w (.FILE msg filename) = (w.read msg).push
    (if (w.contentOf msg).isNull = false ∧
      (orUnknown ((w.contentOf msg).property "username")).all JsValue.hasText = true then
      [⟨orUnknown ((w.contentOf msg).property "username"), some (fileText filename), false⟩]
    else []) := by
  refine step_eq_of_ends rfl ?_
  unfold handle onFile showContent
  rw [ends_bind, ends_parseContent, ends_bind, ends_get, ends_bind, ends_getProperty]
  simp only [ends_addMessageToChat]
  show if (w.contentOf msg).isNull = true then _ else _
  cases hnull : (w.contentOf msg).isNull with
  | true => rw [if_pos rfl, if_neg fun h => Bool.noConfusion h.1, push_nil]
  | false =>
      rw [if_neg Bool.false_ne_true]
      show if (orUnknown ((w.contentOf msg).property "username")).all JsValue.hasText = true ∧
        (some (fileText filename)).all JsValue.hasText = true then _ else _
      cases hname : (orUnknown ((w.contentOf msg).property "username")).all JsValue.hasText with
      | true =>
          have hshown : false = false ∧ true = true := ⟨rfl, rfl⟩
          rw [if_pos ⟨rfl, rfl⟩, if_pos hshown]
          split
          · rfl
          · rfl
      | false =>
          rw [if_neg fun h => Bool.noConfusion h.1, if_neg fun h => Bool.noConfusion h.2, push_nil]

theorem step_fileInput {fileName : JsString} {timestamp : SafeInteger} :
    step w (.fileInput fileName timestamp) =
      w.push [⟨some (.string (js "你")), some (fileText fileName), true⟩] := by
  refine step_eq_of_ends rfl ?_
  unfold handle onFileInput
  exact ends_addMessageToChat.mpr rfl

/-! ### The form -/

/-- The message object of the form. -/
def ownMessage (w : ChatWindow) (message : Json.CodePoints) (timestamp : SafeInteger) :
    MessageObject Unit :=
  ⟨w.userId, w.currentChat, w.message_id,
    utf8 (ChatContent.json ⟨some w.username, message, timestamp⟩), timestamp.val, ()⟩

/-- The content of the form. -/
def ownContent (w : ChatWindow) (message : Json.CodePoints) (timestamp : SafeInteger) : JsValue :=
  .object (ChatContent.parsed ⟨some w.username, message, timestamp⟩)

/-- The bubble of the form. -/
def ownBubble (w : ChatWindow) (message : Json.CodePoints) : Bubble :=
  ⟨some (.string w.username.units), some (.string message.units), true⟩

variable {message : Json.CodePoints} {timestamp : SafeInteger}

/-- The form caches what it sends. -/
theorem getD_ownContent : (JSON.parse (w.ownMessage message timestamp).content).getD
    (w.ownContent message timestamp) = w.ownContent message timestamp := by
  rw [ownMessage, ChatContent.parse_json]
  rfl

theorem isNull_ownContent : ¬(w.ownContent message timestamp).isNull = true := Bool.false_ne_true

theorem step_submit_blank (h : trim message.chars = []) : step w (.submit message timestamp) = w := by
  refine step_eq_of_ends rfl ?_
  unfold handle onSubmit
  rw [ends_bind, ends_get]
  dsimp only
  rw [if_neg (not_not.mpr h)]
  rfl

/-- A message to a friend. -/
theorem step_submit_friend (h : trim message.chars ≠ []) (hchat : w.currentChat ≠ 0) :
    step w (.submit message timestamp) = ({ w with
      message_id := w.message_id + 1
      sent := w.sent ++ [(MessageType.TEXT, w.ownMessage message timestamp)]
      messageCache := MessageCache.step w.messageCache
        (w.ownMessage message timestamp, w.ownContent message timestamp) }).push
      [w.ownBubble message] := by
  refine step_eq_of_ends rfl ?_
  unfold handle onSubmit sendMessage
  rw [ends_bind, ends_get]
  dsimp only
  rw [if_pos h, if_pos hchat]
  rw [ends_bind, ends_modify, ends_bind]
  show Ends (addMessageToCache (w.ownMessage message timestamp) (w.ownContent message timestamp))
    _ _ _
  rw [ends_addMessageToCache, getD_ownContent, if_neg isNull_ownContent]
  exact ends_addMessageToChat.mpr rfl

/-- A message to everybody. -/
theorem step_submit_public (h : trim message.chars ≠ []) (hchat : w.currentChat = 0) :
    step w (.submit message timestamp) = ({ w with
      message_id := w.message_id + 1
      sent := w.sent ++ [(MessageType.GROUP_CHAT, w.ownMessage message timestamp)]
      publicCache := w.publicCache ++
        [MessageCache.entry (w.ownMessage message timestamp) (w.ownContent message timestamp)] }).push
      [w.ownBubble message] := by
  refine step_eq_of_ends rfl ?_
  unfold handle onSubmit sendMessage
  rw [ends_bind, ends_get]
  dsimp only
  rw [if_pos h, if_neg (not_not.mpr hchat)]
  rw [ends_bind, ends_modify, ends_bind]
  show Ends (addMessageToPublicCache (w.ownMessage message timestamp)
    (w.ownContent message timestamp)) _ _ _
  rw [ends_addMessageToPublicCache, getD_ownContent, if_neg isNull_ownContent]
  exact ends_addMessageToChat.mpr rfl

/-! ### What is only sent -/

/-- More messages have been sent. -/
def send (w : ChatWindow) (ms : List (MessageType × MessageObject Unit)) : ChatWindow :=
  { w with message_id := w.message_id + ms.length, sent := w.sent ++ ms }

theorem send_nil (w : ChatWindow) : w.send [] = w := by
  rw [send, List.append_nil]
  rfl

theorem send_send (w : ChatWindow) (ms ms' : List (MessageType × MessageObject Unit)) :
    (w.send ms).send ms' = w.send (ms ++ ms') := by
  rw [send, send, send, List.append_assoc, List.length_append, ← Nat.add_assoc]

/-- The form sends a request if the id has the form of one. -/
theorem step_addFriend {now : Int} {friendIdInput : Json.CodePoints} :
    step w (.addFriend now friendIdInput) = w.send (match addFriendForm friendIdInput with
      | some (some friendId) =>
        [(.ADD_FRIEND, ⟨w.userId, friendId, w.message_id, str " ", now, ()⟩)]
      | _ => []) := by
  refine step_eq_of_ends rfl ?_
  unfold handle onAddFriend
  dsimp only
  rcases addFriendForm friendIdInput with _ | _ | friendId
  · exact (send_nil w).symm
  · exact (send_nil w).symm
  · exact rfl

/-- Who is logged in is logged out. -/
theorem step_beforeunload {now : Int} : step w (.beforeunload now) = w.send
    (if w.userId ≠ 0 then [(.LOGOUT, ⟨w.userId, -1, w.message_id, str "logout", now, ()⟩)]
    else []) := by
  refine step_eq_of_ends rfl ?_
  unfold handle onBeforeunload
  dsimp only
  rw [ends_bind, ends_get]
  split
  · exact rfl
  · exact (send_nil w).symm

/-- A request to the user gets a listener of its own. -/
theorem step_friendRequest : step w (.FRIEND_REQUEST msg) = { w with requests := w.requests ++
    if w.userId = msg.toUserId then [(msg.fromUserId, msg.toUserId)] else [] } := by
  refine step_eq_of_ends rfl ?_
  unfold handle onFriendRequest
  dsimp only
  rw [ends_bind, ends_get]
  split
  · exact rfl
  · rw [List.append_nil]
    exact rfl

/-! ### The chat list -/

/-- The loop renders up to the first message that has no text form. -/
theorem forM_showMessage (ms : List (ShownMessage Unit)) (w : ChatWindow) :
    stateOf (ms.forM showMessage w) =
      w.push ((ms.takeWhile MessageCache.Renders).map bubble) := by
  induction ms generalizing w with
  | nil => exact (push_nil w).symm
  | cons m ms ih =>
      refine ends_stateOf (P := fun after => after = _).mp ?_
      show Ends (showMessage m >>= fun _ => ms.forM showMessage) w _ _
      rw [ends_bind, showMessage, ends_addMessageToChat, List.takeWhile_cons]
      cases hm : MessageCache.Renders m with
      | true =>
          have htext := Bool.and_eq_true_iff.mp hm
          rw [if_pos htext, if_pos (show (some _).all JsValue.hasText = true from rfl)]
          refine ends_stateOf.mpr ?_
          rw [ih, push, push, push, List.append_assoc]
          rfl
      | false =>
          have htext : ¬(m.username.all JsValue.hasText = true ∧ m.text.all JsValue.hasText = true) :=
            fun h => Bool.noConfusion (hm.symm.trans (Bool.and_eq_true_iff.mpr h))
          rw [if_neg htext]
          exact (push_nil w).symm

section Clicks

variable {now : Int} {prompts : Nat → Int × Bool} {item : ChatItem} {chats : ChatList}

/-- Only the notification has more than one listener. -/
theorem requestListeners_click (hitem : item ≠ .friendRequestNotification) :
    w.requestListeners (.click now item prompts) = [] := if_neg hitem

/-- Without a selected item the listener of an item throws at once. -/
theorem select_eq_error (h : w.chats.count = 0) (item : ChatItem) :
    ∃ x, w.chats.select item = .error x := by
  obtain ⟨x, hx⟩ := ChatList.deselect_eq_error.mpr h
  refine ⟨x, ?_⟩
  rw [ChatList.select, hx]
  rfl

/-- Without a selected item a click does nothing, but for the answers to friend requests. -/
theorem step_click_of_count_eq_zero (hitem : item ≠ .friendRequestNotification)
    (h : w.chats.count = 0) : step w (.click now item prompts) = w := by
  obtain ⟨x, hselect⟩ := select_eq_error h item
  refine step_eq_of_ends (requestListeners_click hitem) ?_
  unfold handle
  rw [ends_ite]
  refine ⟨fun _ => ?_, fun _ => rfl⟩
  unfold onClick
  rw [ends_bind, Ends, select, hselect]

/-- A chat item that is not in the list cannot be clicked. -/
theorem step_click_of_not_has (h : ¬w.chats.Has item) : step w (.click now item prompts) = w := by
  have hitem : item ≠ .friendRequestNotification := by
    rintro rfl
    exact h fun k hk => ChatItem.noConfusion hk
  refine step_eq_of_ends (requestListeners_click hitem) ?_
  unfold handle
  dsimp only
  rw [if_neg h]
  rfl

/-- Otherwise the item is selected first. -/
theorem ends_select (h : w.chats.select item = .ok chats)
    {Q : Unit → ChatWindow → Prop} {E : JsError → ChatWindow → Prop} :
    Ends (select item) w Q E ↔ Q () { w with chats := chats } := by
  rw [Ends, select, h]

/-- The public chat is opened. -/
theorem step_click_public (h : w.chats.select .publicChat = .ok chats) :
    step w (.click now .publicChat prompts) = { w with
      chats := chats
      currentChat := 0
      chatTitle := publicTitle
      publicCache := sortBy (·.timestamp) w.publicCache
      chatMessages := ((((sortBy (·.timestamp) w.publicCache).map
        (MessageCache.shownTo w.userId)).takeWhile MessageCache.Renders).map bubble) } := by
  have hitem : w.chats.Has .publicChat := fun k hk => ChatItem.noConfusion hk
  refine step_eq_of_ends rfl ?_
  unfold handle onClick
  dsimp only
  rw [if_pos hitem, ends_bind, ends_select h, ends_bind, ends_modify]
  unfold displayPublicMessages
  rw [ends_bind, ends_modify, ends_bind, ends_get, ends_stateOf, forM_showMessage]
  rfl

/-- The conversation with a friend is opened. -/
theorem step_click_friend {k : Nat} {friend : Friend} {selected : Bool}
    (h : w.chats.select (.friend k) = .ok chats) (hitem : w.chats.Has (.friend k))
    (hfriend : chats.friends[k]? = some (friend, selected)) :
    step w (.click now (.friend k) prompts) = { w with
      chats := chats
      currentChat := friend.id
      chatTitle := friend.name
      chatMessages := (((MessageCache.combinedMessages w.messageCache w.userId friend.id).takeWhile
        MessageCache.Renders).map bubble) } := by
  refine step_eq_of_ends rfl ?_
  unfold handle onClick
  dsimp only
  rw [if_pos hitem, ends_bind, ends_select h, ends_bind, ends_get]
  dsimp only
  rw [hfriend]
  dsimp only
  rw [ends_bind, ends_modify, ends_bind, ends_get]
  unfold displayCachedMessages
  rw [ends_bind, ends_get, ends_stateOf, forM_showMessage]
  rfl

/-- The friend list is asked for. -/
theorem step_click_friendsList (h : w.chats.select .friendsList = .ok chats) :
    step w (.click now .friendsList prompts) = { w with
      chats := chats
      message_id := w.message_id + 1
      sent := w.sent ++
        [(MessageType.FRIEND_LIST, ⟨w.userId, 0, w.message_id, str " ", now, ()⟩)] } := by
  have hitem : w.chats.Has .friendsList := fun k hk => ChatItem.noConfusion hk
  refine step_eq_of_ends rfl ?_
  unfold handle onClick
  dsimp only
  rw [if_pos hitem, ends_bind, ends_select h]
  exact rfl

/-- The message answers the request. -/
def Answers (request : Int × Int) (m : MessageType × MessageObject Unit) : Prop :=
  m.1 = .FRIEND_REQUEST_RESPONSE ∧ m.2.fromUserId = request.2 ∧ m.2.toUserId = request.1

/-- The listeners of the requests run one after another, and each sends its answer. -/
theorem exists_answers (prompts : Nat → Int × Bool) (rs : List ((Int × Int) × Nat))
    (w : ChatWindow) : ∃ ms, List.Forall₂ (fun r m => Answers r.1 m) rs ms ∧
      (rs.map fun r => onRequestClick r.1 (prompts r.2)).foldl
        (fun w listener => stateOf (listener w)) w = w.send ms := by
  induction rs generalizing w with
  | nil => exact ⟨[], .nil, (send_nil w).symm⟩
  | cons r rs ih =>
      let m : MessageType × MessageObject Unit := (.FRIEND_REQUEST_RESPONSE, ⟨r.1.2, r.1.1,
        w.message_id, if (prompts r.2).2 then str "accept" else str "reject", (prompts r.2).1, ()⟩)
      obtain ⟨ms, hms, hfold⟩ := ih (w.send [m])
      refine ⟨m :: ms, .cons ⟨rfl, rfl, rfl⟩ hms, ?_⟩
      rw [List.map_cons, List.foldl_cons]
      exact hfold.trans (send_send w [m] ms)

/-- A click on the notification answers every request so far, whether or not its own listener
throws. -/
theorem step_click_notification (w : ChatWindow) (now : Int) (prompts : Nat → Int × Bool) :
    ∃ ms, List.Forall₂ Answers w.requests ms ∧
      step w (.click now .friendRequestNotification prompts) = ChatWindow.send { w with
        chats := ChatList.step w.chats (.click .friendRequestNotification) } ms := by
  have hitem : w.chats.Has .friendRequestNotification := fun k hk => ChatItem.noConfusion hk
  have hfirst : stateOf (w.handle (.click now .friendRequestNotification prompts) w) =
      { w with chats := ChatList.step w.chats (.click .friendRequestNotification) } := by
    unfold handle onClick ChatList.step
    dsimp only
    rw [if_pos hitem, if_pos hitem]
    refine ends_stateOf (P := fun after => after = _).mp ?_
    rw [ends_bind]
    cases hselect : w.chats.select .friendRequestNotification with
    | error x =>
        rw [Ends, select, hselect]
    | ok chats =>
        rw [ends_select hselect]
        exact rfl
  obtain ⟨ms, hms, hrest⟩ := exists_answers prompts w.requests.zipIdx
    { w with chats := ChatList.step w.chats (.click .friendRequestNotification) }
  refine ⟨ms, ?_, ?_⟩
  · rw [← List.zipIdx_map_fst 0 w.requests, List.forall₂_map_left_iff]
    exact hms
  · rw [step, List.foldl_cons, hfirst]
    exact hrest

end Clicks

end Steps

/-! ## The chat list of the window -/

/-- What an event does to the chat list. -/
def listEvents (_ : ChatWindow) : Event → List ChatList.Event
  | .click _ item _ => [.click item]
  | .FRIEND_LIST friends => [.updateFriendsList friends]
  | _ => []

section Lists

variable {w : ChatWindow}

theorem chats_click (now : Int) (item : ChatItem) (prompts : Nat → Int × Bool) :
    (step w (.click now item prompts)).chats = ChatList.step w.chats (.click item) := by
  by_cases hnotification : item = .friendRequestNotification
  · obtain ⟨ms, -, hstep⟩ := step_click_notification w now prompts
    rw [hnotification, hstep]
    rfl
  unfold ChatList.step
  dsimp only
  by_cases hitem : w.chats.Has item
  · rw [if_pos hitem]
    cases hselect : w.chats.select item with
    | error x =>
        have hcount : w.chats.count = 0 := by
          by_contra hne
          obtain ⟨chats, hchats⟩ := ChatList.select_of_count_ne_zero hne item
          rw [hselect] at hchats
          cases hchats
        rw [step_click_of_count_eq_zero hnotification hcount]
    | ok chats =>
        cases item with
        | publicChat => rw [step_click_public hselect]
        | friendsList => rw [step_click_friendsList hselect]
        | friendRequestNotification => exact absurd rfl hnotification
        | friend k =>
            have hk := ChatList.lt_length_select hselect hitem
            rw [step_click_friend hselect hitem (List.getElem?_eq_getElem hk)]
  · rw [if_neg hitem, step_click_of_not_has hitem]

/-- The chat list of the window runs by itself. -/
theorem chats_step (w : ChatWindow) (e : Event) :
    (step w e).chats = exec ChatList.step w.chats (listEvents w e) := by
  cases e with
  | click now item prompts => exact chats_click now item prompts
  | submit message timestamp =>
      by_cases hblank : trim message.chars = []
      · rw [step_submit_blank hblank]
        rfl
      · by_cases hchat : w.currentChat = 0
        · rw [step_submit_public hblank hchat]
          rfl
        · rw [step_submit_friend hblank hchat]
          rfl
  | fileInput fileName timestamp => rw [step_fileInput]; rfl
  | addFriend now friendIdInput => rw [step_addFriend]; rfl
  | beforeunload now => rw [step_beforeunload]; rfl
  | FRIEND_REQUEST msg => rw [step_friendRequest]; rfl
  | TEXT msg => rw [step_text]; rfl
  | FILE msg filename => rw [step_file]; rfl
  | GROUP_CHAT msg => rw [step_groupChat]; rfl
  | FRIEND_LIST friends => rfl

/-- Over a run, the chat list of the window is the one that the clicks and the friend lists give. -/
theorem chats_exec (w : ChatWindow) (es : List Event) :
    (exec step w es).chats = exec ChatList.step w.chats (emitted step listEvents w es) :=
  exec_simulates (V := fun _ => True) (fun w e _ => chats_step w e) w es fun _ _ => trivial

end Lists

/-! ## The page behind the window -/

/-- The page and its window have the same content and the same open chat. Their caches agree up to the
marks, and up to the messages written on the page itself. -/
structure Displays (w : ChatWindow) (p : Page) : Prop where
  content : p.content = some w.content
  currentChat : w.currentChat = p.currentChat.toInt
  messageCache : MessageCache.Holds p.messageCache w.messageCache
  publicCache : ∃ ms, ms.Sublist w.publicCache ∧ MessageCache.Same p.publicCache ms

/-- The event that a chat message of the server is. -/
def eventOf (msg : Message) : Event :=
  if msg.messageType = .TEXT then .TEXT (MessageCache.ofMessage msg ())
  else .GROUP_CHAT (MessageCache.ofMessage msg ())

section Pages

variable {w : ChatWindow} {p : Page} {msg : Message}

theorem canShow_iff (v : JsValue) :
    Page.canShow v = true ↔ v.isNull = false ∧ Showable v ∧ Timed v := by
  unfold Page.canShow Showable Timed
  rw [Bool.and_eq_true, Bool.and_eq_true, Bool.and_eq_true, Bool.not_eq_true', and_assoc, and_assoc,
    and_assoc]

theorem Displays.contentAfter (h : Displays w p) :
    Page.contentAfter p msg = some (w.contentOf (MessageCache.ofMessage msg ())) := by
  rw [Page.contentAfter, h.content, contentOf]
  show (JSON.parse msg.content).or _ = some ((JSON.parse msg.content).getD _)
  cases JSON.parse msg.content with
  | none => rfl
  | some v => rfl

/-- Both models cache a message of the public chat, or neither does. -/
theorem Displays.addedPublic (h : Displays w p) {v : JsValue}
    (hv : w.contentOf (MessageCache.ofMessage msg ()) = v) :
    MessageCache.Same (Page.addedPublic p msg)
      (if v.isNull = false ∧ (msg.toUserId.toInt = w.currentChat → Showable v ∧ Timed v) then
        [MessageCache.entry (MessageCache.ofMessage msg ()) v]
      else []) := by
  have hopen : msg.toUserId.toInt = w.currentChat ↔ msg.toUserId = p.currentChat := by
    rw [h.currentChat, Int32.toInt_inj]
  have hshow := canShow_iff v
  unfold Page.addedPublic
  rw [h.contentAfter, hv, Option.all_some, Page.added]
  by_cases hnull : v.isNull = true
  · rw [if_pos hnull, ite_self, if_neg fun hcached => Bool.noConfusion (hnull.symm.trans hcached.1)]
    exact .nil
  rw [if_neg hnull]
  rw [Bool.not_eq_true] at hnull
  by_cases hthrows : msg.toUserId = p.currentChat ∧ Page.canShow v = false
  · rw [if_pos hthrows, if_neg]
    · exact .nil
    · rintro ⟨-, hcached⟩
      rw [hshow.mpr ⟨hnull, hcached (hopen.mpr hthrows.1)⟩] at hthrows
      exact Bool.noConfusion hthrows.2
  · rw [if_neg hthrows, if_pos]
    · exact .cons rfl .nil
    · refine ⟨hnull, fun hto => ?_⟩
      have hcan := Bool.eq_true_of_not_eq_false fun hnot => hthrows ⟨hopen.mp hto, hnot⟩
      exact (hshow.mp hcan).2

theorem displays_step (h : Displays w p) (now : Int64) (hmsg : Page.IsCached msg) :
    Displays (step w (eventOf msg)) (Page.step p (now, msg)) := by
  unfold eventOf
  by_cases htext : msg.messageType = .TEXT
  · rw [if_pos htext, step_text, Page.step_text htext, h.contentAfter]
    refine ⟨rfl, h.currentChat, ?_, h.publicCache⟩
    have hfiled := MessageCache.holds_arrived h.messageCache msg ()
      (w.contentOf (MessageCache.ofMessage msg ()))
    rw [show (JSON.parse msg.content).getD _ = _ from
      getD_contentOf w (MessageCache.ofMessage msg ())] at hfiled
    exact hfiled
  · rw [if_neg htext, step_groupChat, Page.step_group (hmsg.resolve_left htext), h.contentAfter]
    refine ⟨rfl, h.currentChat, h.messageCache, ?_⟩
    obtain ⟨ms, hsub, hsame⟩ := h.publicCache
    exact ⟨_, hsub.append_right _, List.rel_append hsame (h.addedPublic rfl)⟩

/-- A page that has just logged in, and its window. -/
theorem displays_opened (userId : Int) (username : Json.CodePoints) {content : JsValue}
    (message_id : Nat) (hcontent : p.content = some content) (hchat : p.currentChat = 0)
    (hprivate : ∀ k, p.messageCache k = []) (hpublic : p.publicCache = []) :
    Displays (opened userId username content message_id) p where
  content := hcontent
  currentChat := by
    rw [hchat]
    rfl
  messageCache := by
    intro k
    rw [hprivate]
    exact ⟨[], List.Sublist.refl _, .nil⟩
  publicCache := by
    rw [hpublic]
    exact ⟨[], List.Sublist.refl _, .nil⟩

/-- **`displays_exec`** — through every sequence of chat messages the window caches what the page
caches. -/
theorem displays_exec (h : Displays w p) (ds : List (Int64 × Message))
    (hds : ∀ d ∈ ds, Page.IsCached d.2) :
    Displays (exec step w (ds.map fun d => eventOf d.2)) (exec Page.step p ds) := by
  induction ds generalizing w p with
  | nil => exact h
  | cons d ds ih =>
      obtain ⟨hd, hrest⟩ := List.forall_mem_cons.mp hds
      exact ih (displays_step h d.1 hd) hrest

end Pages

end ChatWindow

end TinyIM
