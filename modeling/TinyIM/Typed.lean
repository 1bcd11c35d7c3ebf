/-
# Typed — what a page shows was typed by somebody

The chat form serializes the name, the text and the time twice: once into the content of the frame and
once more as part of the frame. The inner text is therefore text of escapes only where the typed string
is no text, and it survives the server's parser, the NUL-terminated strings of the database and the
second parser unchanged, whatever was typed. `entries_are_typed` carries this through every run of two
pages and the server: each message a page has filed, of its own or of others, shows the name and the text
that its chat frame was typed with.
-/
import TinyIM.Exchange
import TinyIM.Wire

namespace TinyIM

open TinyIM.Lib TinyIM.Lib.Text TinyIM.Lib.Runs TinyIM.Lib.Stops

/-! ## The content of the chat form -/

/-- The object the chat form serializes; the name is `null` before a login. -/
structure ChatContent where
  username : Option Json.CodePoints
  text : Json.CodePoints
  timestamp : SafeInteger

namespace ChatContent

/-- A name as a member. -/
def nameScalar : Option Json.CodePoints → Json.Scalar
  | some s => .string s
  | none => .null

/-- A name as a script sees it. -/
def nameValue : Option Json.CodePoints → JsValue
  | some s => .string s.units
  | none => .null

/-- The members of the object, in the order in which the script lists them. -/
def members (c : ChatContent) : List (List Char × Json.Scalar) :=
  [ ("username".toList, nameScalar c.username),
    ("text".toList, .string c.text),
    ("timestamp".toList, .integer c.timestamp.val) ]

/-- `JSON.stringify(content)`. -/
def json (c : ChatContent) : List Char := Json.stringify c.members

/-- The object a script reads back. -/
def parsed (c : ChatContent) : List (JsString × JsValue) :=
  [ (js "username", nameValue c.username),
    (js "text", .string c.text.units),
    (js "timestamp", .ofInt c.timestamp.val) ]

/-- Every content of the form is read back as it was typed. -/
theorem parse_json (c : ChatContent) : JSON.parse (utf8 c.json) = some (.object c.parsed) := by
  have hstring : ∀ s : Json.CodePoints,
      Json.readScalar ecmaScript (.string s) = some (.string s.units) := by
    intro s
    rw [Json.readScalar, readUnits_ecmaScript, Option.map_some]
  have hname : Json.readScalar ecmaScript (nameScalar c.username) = some (nameValue c.username) := by
    cases c.username with
    | none => rfl
    | some s => exact hstring s
  have hmembers : Json.readMembers ecmaScript c.members = some c.parsed := by
    refine Json.readMembers_eq ecmaScript ?_ ?_
    · exact .cons ⟨rfl, hname⟩ (.cons ⟨rfl, hstring c.text⟩ (.cons ⟨rfl, rfl⟩ .nil))
    · show [js "username", js "text", js "timestamp"].Nodup
      decide
  rw [JSON.parse, decodeUtf8_utf8, Option.bind_some, json, Json.parseText_stringify, hmembers,
    Option.map_some]

/-- The content of the form is text without a NUL, also where the typed strings are not. -/
theorem cstr_json (c : ChatContent) : cstr (utf8 c.json) = utf8 c.json :=
  cstr_of_noNul (noNul_of_parse c.parse_json)

end ChatContent

/-- The frame the chat form sends to a friend. -/
def PageFrame.chat (fromUserId toUserId : JsInteger) (messageId : SafeInteger) (c : ChatContent) :
    PageFrame :=
  ⟨some fromUserId, some toUserId, .TEXT, messageId, .ofChars c.json, c.timestamp⟩

/-- The content is text, whatever was typed, so the server reads the frame. -/
theorem fromJson_chat (env : Env) (fromUserId toUserId : JsInteger) (messageId : SafeInteger)
    (c : ChatContent) :
    Message.fromJson env (utf8 (PageFrame.chat fromUserId toUserId messageId c).text) =
      .ok ⟨fromUserId.toInt32 env, toUserId.toInt32 env, .TEXT, .ofInt messageId.val, utf8 c.json,
        .ofInt c.timestamp.val⟩ := by
  have hwell : (Json.CodePoints.ofChars c.json).WellFormed := Json.CodePoints.wellFormed_ofChars _
  rw [fromJson_frame env hwell, PageFrame.received, PageFrame.chat, if_pos hwell,
    Json.CodePoints.chars_ofChars]

/-! ## What is filed -/

namespace Exchange

/-- The frame is what the server's parser makes of a frame of the chat form with this content. -/
def IsTyped (msg : Message) (c : ChatContent) : Prop :=
  ∃ env fromUserId toUserId messageId, Message.fromJson env
    (utf8 (PageFrame.chat fromUserId toUserId messageId c).text) = .ok msg

/-- The parser leaves the content as it was written. -/
theorem IsTyped.content_eq {msg : Message} {c : ChatContent} (h : IsTyped msg c) :
    msg.content = utf8 c.json := by
  obtain ⟨env, fromUserId, toUserId, messageId, hmsg⟩ := h
  rw [fromJson_chat] at hmsg
  rw [← Except.ok.inj hmsg]

/-- Whatever ids the form has, its frames are typed. -/
theorem isTyped_chat (fromUserId toUserId messageId : SafeInteger) (c : ChatContent) :
    IsTyped ⟨.ofInt fromUserId.val, .ofInt toUserId.val, .TEXT, .ofInt messageId.val, utf8 c.json,
      .ofInt c.timestamp.val⟩ c := by
  refine ⟨.plain, fromUserId.toJs, toUserId.toJs, messageId, ?_⟩
  rw [fromJson_chat, SafeInteger.toInt32_toJs, SafeInteger.toInt32_toJs]

/-- The entry shows the name and the text of the chat frame it is marked with. -/
def ShowsTyped (frames : List Message) (e : CachedMessage Nat) : Prop :=
  ∃ msg, frames[e.mark]? = some msg ∧ BusinessHandler.IsChat msg ∧
    e.fromUserId = msg.fromUserId.toInt ∧ e.toUserId = msg.toUserId.toInt ∧
    ∃ c, IsTyped msg c ∧ e.username = some (ChatContent.nameValue c.username) ∧
      e.text = some (.string c.text.units)

/-- All chat frames of the run come from chat forms. -/
def FramesTyped (w : World) : Prop :=
  ∀ msg ∈ w.frames, BusinessHandler.IsChat msg → ∃ c, IsTyped msg c

/-- All that the pages have filed shows what was typed. -/
def CacheTyped (w : World) : Prop :=
  ∀ c u, ∀ e ∈ (w.client c).messageCache u, ShowsTyped w.frames e

/-- What a page has filed was typed, in both caches of it, and so is what is on its way to a page: the
text the server makes of it is read by the page with all its fields. -/
structure AllTyped (w : World) : Prop where
  cached : CacheTyped w
  filed : ∀ c u, ∀ e ∈ (w.client c).page.messageCache u,
    ∃ mark, ShowsTyped w.frames (MessageCache.ofEntry e mark)
  readable : ∀ s, ∀ p ∈ w.inbox s, p.1.messageType = .TEXT →
    ∃ text v, p.1.toJson = .ok text ∧ JSON.parse text = some v ∧ v.Shows p.1

section Typed

variable {w : World} {c : Party} {frames : List Message} {msg copy : Message} {mark : Nat}
  {rest : List (Message × Nat)}

theorem ShowsTyped.append {e : CachedMessage Nat} (h : ShowsTyped frames e) (msgs : List Message) :
    ShowsTyped (frames ++ msgs) e := by
  obtain ⟨msg, hmsg, hshows⟩ := h
  exact ⟨msg, getElem?_append_of_eq_some hmsg msgs, hshows⟩

/-- A copy of a typed frame has its content: the database has not cut it. -/
theorem content_of_copy (hcopy : CopyOf frames mark copy)
    (htyped : ∀ msg ∈ frames, BusinessHandler.IsChat msg → ∃ c, IsTyped msg c) :
    ∃ msg c, frames[mark]? = some msg ∧ BusinessHandler.IsChat msg ∧ IsTyped msg c ∧
      copy.fromUserId = msg.fromUserId ∧ copy.toUserId = msg.toUserId ∧
      copy.content = utf8 c.json := by
  obtain ⟨msg, hframe, hchat, hfrom, hto, hcontent⟩ := hcopy
  obtain ⟨c, hc⟩ := htyped msg (List.mem_of_getElem? hframe) hchat
  refine ⟨msg, c, hframe, hchat, hc, hfrom, hto, ?_⟩
  rcases hcontent with hcontent | hcontent
  · rw [hcontent, hc.content_eq]
  · rw [hcontent, hc.content_eq, ChatContent.cstr_json]

/-- What is filed of a message with a typed content. -/
theorem showsTyped_of_cached {call : MessageObject Nat × JsValue} {e : CachedMessage Nat}
    {c : ChatContent} (hcached : MessageCache.cached call = some e)
    (hframe : frames[call.1.mark]? = some msg) (hchat : BusinessHandler.IsChat msg)
    (htyped : IsTyped msg c) (hfrom : call.1.fromUserId = msg.fromUserId.toInt)
    (hto : call.1.toUserId = msg.toUserId.toInt) (hcontent : call.1.content = utf8 c.json) :
    ShowsTyped frames e := by
  unfold MessageCache.cached at hcached
  -- the content is parsed, so the value of an earlier message is not used
  rw [hcontent, c.parse_json] at hcached
  rw [← Option.some.inj hcached]
  exact ⟨msg, hframe, hchat, hfrom, hto, c, htyped, rfl, rfl⟩

/-- A page that has filed nothing new. -/
theorem CacheTyped.act (h : CacheTyped w) {page : Page} {messageCache : MessageCache Nat}
    (hcache : ∀ u, ∀ e ∈ messageCache u,
      ShowsTyped (Exchange.act w c page messageCache).frames e) :
    CacheTyped (Exchange.act w c page messageCache) := by
  intro d u e he
  rw [act_eq] at he hcache ⊢
  dsimp only at he hcache ⊢
  by_cases hd : d = c
  · rw [hd, Function.update_self] at he
    exact hcache u e he
  · rw [Function.update_of_ne hd] at he
    exact (h d u e he).append _

theorem CacheTyped.act_same (h : CacheTyped w) {page : Page} :
    CacheTyped (Exchange.act w c page (w.client c).messageCache) := by
  refine h.act fun u e he => ?_
  rw [act_eq]
  exact (h c u e he).append _

/-- The next message arrives at a page. -/
theorem CacheTyped.deliver (h : CacheTyped w) (hmarked : Marked w) (htyped : FramesTyped w)
    (hinbox : w.inbox (w.client c).session = (msg, mark) :: rest) (now : Int64) :
    CacheTyped (Exchange.act { w with inbox := Function.update w.inbox (w.client c).session rest } c
      ((w.client c).page.step (now, msg)) (cacheArrived (w.client c) msg mark)) := by
  have hrest : CacheTyped { w with inbox := Function.update w.inbox (w.client c).session rest } := h
  refine hrest.act fun u e he => ?_
  rw [act_eq]
  refine ShowsTyped.append ?_ _
  unfold cacheArrived at he
  cases hcall : arrival (w.client c).page msg mark with
  | none =>
      rw [hcall] at he
      exact h c u e he
  | some call =>
      rw [hcall] at he
      rcases MessageCache.mem_step he with he | he
      · exact h c u e he
      · unfold arrival at hcall
        split at hcall
        · rename_i htext
          obtain ⟨content, -, rfl⟩ := Option.map_eq_some_iff.mp hcall
          have hmem : (msg, mark) ∈ w.inbox (w.client c).session := by
            rw [hinbox]
            exact List.mem_cons_self
          obtain ⟨m, c', hframe, hchat, hc', hfrom, hto, hcontent⟩ :=
            content_of_copy (hmarked.inbox _ _ hmem htext).2 htyped
          exact showsTyped_of_cached he hframe hchat hc' (congrArg Int32.toInt hfrom)
            (congrArg Int32.toInt hto) hcontent
        · cases hcall

/-- What is on its way to a page can be written by the server and read by the page. -/
theorem readable_of_typed (hmarked : Marked w) (htyped : FramesTyped w) {s : SessionId}
    {p : Message × Nat} (hp : p ∈ w.inbox s) (htext : p.1.messageType = .TEXT) :
    ∃ text v, p.1.toJson = .ok text ∧ JSON.parse text = some v ∧ v.Shows p.1 := by
  obtain ⟨m, c, -, -, -, -, -, hcontent⟩ := content_of_copy (hmarked.inbox s p hp htext).2 htyped
  obtain ⟨text, hjson⟩ := Message.exists_toJson (m := p.1) ⟨c.json, hcontent⟩
  exact ⟨text, _, hjson, parse_of_toJson hcontent hjson, shows_pageObject hcontent⟩

variable [OpenSSL] {g : Parties}

/-- A page writes a message. -/
theorem CacheTyped.chat (h : CacheTyped w) {now : Int64} {toUserId : Int32} {content : JsValue}
    {content_json : Bytes}
    (htyped : FramesTyped (step g w (.chat c now toUserId content content_json))) :
    CacheTyped (step g w (.chat c now toUserId content content_json)) := by
  unfold step at htyped ⊢
  dsimp only at htyped ⊢
  split at htyped
  · rename_i hpublic
    rw [if_pos hpublic]
    exact h
  · rename_i hpublic
    rw [if_neg hpublic]
    let own : Message := ⟨(w.client c).page.userId, toUserId, .TEXT,
      Int32.ofNat (w.client c).page.message_id, content_json, now⟩
    have hframes : (Exchange.act w c (stateOf (Page.sendMessage now .TEXT (w.client c).page.userId toUserId
        content_json (w.client c).page)) (MessageCache.step (w.client c).messageCache
        (⟨(w.client c).page.userId.toInt, toUserId.toInt, (w.client c).page.message_id, content_json,
          now.toInt, w.frames.length⟩, content))).frames = w.frames ++ [own] := by
      rw [act_eq]
      exact congrArg (w.frames ++ ·) List.drop_left
    refine h.act fun u e he => ?_
    unfold FramesTyped at htyped
    rw [hframes] at htyped ⊢
    rcases MessageCache.mem_step he with he | he
    · exact (h c u e he).append _
    · have hchat : BusinessHandler.IsChat own := Or.inl rfl
      obtain ⟨c', hc'⟩ := htyped own (List.mem_append_right _ (List.mem_singleton_self own)) hchat
      have hown : (w.frames ++ [own])[w.frames.length]? = some own := List.getElem?_concat_length
      exact showsTyped_of_cached he hown hchat hc' rfl rfl hc'.content_eq

/-- Frames that have been sent are not forgotten. -/
theorem frames_step (w : World) (e : Event) : ∃ msgs, (step g w e).frames = w.frames ++ msgs := by
  have hact : ∀ (w : World) (c : Party) (page : Page) (messageCache : MessageCache Nat),
      ∃ msgs, (Exchange.act w c page messageCache).frames = w.frames ++ msgs :=
    fun w c page messageCache => ⟨_, by rw [act_eq]⟩
  have hnone : ∃ msgs, w.frames = w.frames ++ msgs := ⟨[], (List.append_nil _).symm⟩
  cases e with
  | login c now password => exact hact w c _ _
  | chat c now toUserId content content_json =>
      unfold step
      dsimp only
      split
      · exact hnone
      · exact hact w c _ _
  | send c now type toUserId content => exact hact w c _ _
  | others session msg => exact ⟨[msg], rfl⟩
  | serve session env =>
      cases hwire : w.wire session with
      | nil =>
          rw [step_serve_nil hwire]
          exact hnone
      | cons p rest =>
          rw [step_serve_cons hwire]
          exact hnone
  | deliver c now =>
      cases hinbox : w.inbox (w.client c).session with
      | nil =>
          rw [step_deliver_nil hinbox]
          exact hnone
      | cons p rest =>
          rw [step_deliver_cons hinbox]
          exact hact _ c _ _
  | reload c => exact hnone
  | reconnect c => exact hnone
  | closed session => exact hnone

/-- **`step_typed`** — an event keeps what is filed typed, if the chat frames sent so far are typed. -/
theorem step_typed {e : Event} (hmarked : Marked w) (h : CacheTyped w)
    (htyped : FramesTyped (step g w e)) : CacheTyped (step g w e) := by
  have hbefore : FramesTyped w := by
    obtain ⟨msgs, hframes⟩ := frames_step (g := g) w e
    intro msg hmsg
    refine htyped msg ?_
    rw [hframes]
    exact List.mem_append_left _ hmsg
  cases e with
  | login c now password => exact h.act_same
  | chat c now toUserId content content_json => exact h.chat htyped
  | send c now type toUserId content => exact h.act_same
  | others session msg => exact fun d u e he => (h d u e he).append [msg]
  | serve session env =>
      cases hwire : w.wire session with
      | nil =>
          rw [step_serve_nil hwire]
          exact h
      | cons p rest =>
          rw [step_serve_cons hwire]
          exact h
  | deliver c now =>
      cases hinbox : w.inbox (w.client c).session with
      | nil =>
          rw [step_deliver_nil hinbox]
          exact h
      | cons p rest =>
          rw [step_deliver_cons hinbox]
          exact h.deliver hmarked hbefore hinbox now
  | reload c =>
      intro d u e he
      by_cases hd : d = c
      · rw [hd, reload_messageCache] at he
        exact absurd he List.not_mem_nil
      · rw [reload_messageCache_of_ne hd] at he
        exact h d u e he
  | reconnect c =>
      intro d u e he
      rw [reconnect_messageCache] at he
      exact h d u e he
  | closed session => exact h

/-- **`entries_are_typed`** — in every run in which the chat frames come from chat forms, every message a
page has filed, its own ones, live ones and those of the history, shows exactly the name and the text
that its chat frame was typed with. -/
theorem entries_are_typed (g : Parties) (pool_size : Nat) (es : List Event)
    (htyped : FramesTyped (exec (step g) (start pool_size) es)) :
    AllTyped (exec (step g) (start pool_size) es) := by
  have hstart : CacheTyped (start pool_size) := by
    intro c u e he
    cases c with
    | first => exact absurd he List.not_mem_nil
    | second => exact absurd he List.not_mem_nil
  have hmarked := exec_marked g pool_size es
  have hcached : CacheTyped (exec (step g) (start pool_size) es) := by
    refine (exec_preserves (I := fun w : World => Marked w ∧ (FramesTyped w → CacheTyped w)) ?_
      ⟨start_marked pool_size, fun _ => hstart⟩ es).2 htyped
    refine fun w e hw => ⟨step_marked g w e hw.1, fun hafter => step_typed hw.1 (hw.2 ?_) hafter⟩
    -- the frames sent before the step are among those sent after it
    obtain ⟨msgs, hframes⟩ := frames_step (g := g) w e
    intro msg hmsg
    refine hafter msg ?_
    rw [hframes]
    exact List.mem_append_left _ hmsg
  refine ⟨hcached, ?_, fun s p hp htext => readable_of_typed hmarked htyped hp htext⟩
  intro c u e he
  obtain ⟨ms, hsub, hsame⟩ := exec_agree g pool_size es c u
  obtain ⟨m, hm, hme⟩ := MessageCache.exists_of_same hsame he
  refine ⟨m.mark, ?_⟩
  rw [← hme]
  exact hcached c u.toInt m (hsub.subset hm)

end Typed

/-- Bob's page and Amy's. -/
def bobAndAmy : Parties where
  id := fun c => if c = .first then 111111111 else 222222222
  differ := by decide

/-- Amy types a lone surrogate, a NUL and a quote. -/
def oddText : ChatContent where
  username := some (.ofChars "amy".toList)
  text := ⟨[0xD800, 0, 0x22], by decide, by decide⟩
  timestamp := ⟨0, by decide⟩

/-- Bob's answer. -/
def answer : ChatContent := ⟨some (.ofChars "bob".toList), .ofChars "?".toList, ⟨0, by decide⟩⟩

/-- Bob signs up and logs in, a message of Amy reaches his page, and he answers. -/
def oddTextArrives : List Event :=
  [.others 9 BusinessHandler.signUpFrame, .serve 9 .plain, .login .first 0 (str "pw"), .serve 0 .plain,
    .deliver .first 0, .others 7 ⟨222222222, 111111111, .TEXT, 0, utf8 oddText.json, 0⟩,
    .serve 7 .plain, .deliver .first 0,
    .chat .first 0 222222222 (.object answer.parsed) (utf8 answer.json)]

/-- Both messages are filed, and show what was typed. -/
theorem entries_are_typed_odd :
    letI := OpenSSL.zero
    let w := exec (step bobAndAmy) (start 1) oddTextArrives
    AllTyped w ∧ ((w.client .first).messageCache 222222222).length = 2 := by
  let _ := OpenSSL.zero
  have hframes : (exec (step bobAndAmy) (start 1) oddTextArrives).frames =
      [BusinessHandler.signUpFrame, ⟨111111111, -1, .LOGIN, 0, str "pw", 0⟩,
        ⟨111111111, -1, .PULL_MESSAGE, 1, str " ", 0⟩,
        ⟨222222222, 111111111, .TEXT, 0, utf8 oddText.json, 0⟩,
        ⟨111111111, 222222222, .TEXT, 2, utf8 answer.json, 0⟩] := by decide +kernel
  refine ⟨entries_are_typed bobAndAmy 1 oddTextArrives ?_, by decide +kernel⟩
  intro msg hmsg hchat
  rw [hframes] at hmsg
  simp only [List.mem_cons, List.not_mem_nil, or_false] at hmsg
  rcases hmsg with rfl | rfl | rfl | rfl | rfl
  · exact absurd hchat (by decide)
  · exact absurd hchat (by decide)
  · exact absurd hchat (by decide)
  · exact ⟨oddText, isTyped_chat ⟨222222222, by decide⟩ ⟨111111111, by decide⟩ ⟨0, by decide⟩ oddText⟩
  · exact ⟨answer, isTyped_chat ⟨111111111, by decide⟩ ⟨222222222, by decide⟩ ⟨2, by decide⟩ answer⟩

end Exchange

end TinyIM
