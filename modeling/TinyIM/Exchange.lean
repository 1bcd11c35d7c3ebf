/-
# Exchange — two pages and the server between them

Two users write to each other. Each message is filed by the page it is written on, under an id of the
counter of that page; the server relays it under the next id, and a history that is asked for later
brings it once more, under the id of its row.

The state is the server, the two pages and what is on the way between them. Pages log in, are reloaded
and lose their connections, other clients send what they like, and everything on the way is handled at
any time, in the order it was sent on its connection. A frame gets a number when it is sent, and every
copy of the message in it is marked with this number. `exec_marked` says of every run that the marks are
right: each frame is handled once at most, and what is stored, is on the way or is cached with a mark
goes back to the chat frame with this mark.
-/
import TinyIM.Conversation
import TinyIM.Replay

namespace TinyIM

open TinyIM.Lib TinyIM.Lib.Text TinyIM.Lib.Runs TinyIM.Lib.Stops

/-! ## What a frame stores and posts -/

namespace BusinessHandler

section Frames

variable [OpenSSL] {env : Env} {session : SessionId} {msg : Message} {h h' : BusinessHandler}

/-- A stored message was there before the frame, or is the one of the frame. -/
theorem row_of_step (hok : h.db.tables.Ok) {r : MessageRow}
    (hr : r ∈ (step h (.frame env session msg)).db.tables.messages.rows) :
    r ∈ h.db.tables.messages.rows ∨
      IsChat msg ∧ r = .new env msg (h.db.tables.messages.last + 1) := by
  by_cases hchat : IsChat msg
  · obtain ⟨-, htables, -⟩ | ⟨-, htables⟩ :
        Stores env h ∧ (step h (.frame env session msg)).db.tables = _ ∧ _ ∨
          ¬Stores env h ∧ _ := step_chat_tables hchat
    · rw [htables] at hr
      rcases List.mem_append.mp hr with hr | hr
      · exact Or.inl hr
      · exact Or.inr ⟨hchat, List.mem_singleton.mp hr⟩
    · rw [htables] at hr
      exact Or.inl hr
  · have hdid : Did env session msg h _ := step_did hok.users
    rw [hdid.messages_of_not_chat hchat] at hr
    exact Or.inl hr

/-- A chat message that a frame posts is a copy of it, or one the history has. -/
theorem Did.text (hdid : Did env session msg h h') {p : SessionId × Message}
    (hp : p ∈ h'.posted.drop h.posted.length) (htext : p.2.messageType = .TEXT) :
    (IsChat msg ∧ p.2.fromUserId = msg.fromUserId ∧ p.2.toUserId = msg.toUserId ∧
      p.2.content = msg.content) ∨
    (msg.messageType = .PULL_MESSAGE ∧
      ∃ r ∈ h.db.tables.messages.rows, Database.messageOfRow env r = .ok p.2) := by
  have hnone : p ∉ h.posted.drop h.posted.length := by
    rw [List.drop_length]
    exact List.not_mem_nil
  have hposted : ∀ {ps}, p ∈ (h.posted ++ ps).drop h.posted.length → p ∈ ps := by
    intro ps hps
    rw [List.drop_left] at hps
    exact hps
  -- a single message of another type
  have hother : ∀ {s : SessionId} {m : Message}, m.messageType ≠ .TEXT →
      p ∉ (h.posted ++ [(s, m)]).drop h.posted.length := by
    intro s m hm hps
    rw [List.mem_singleton.mp (hposted hps)] at htext
    exact hm htext
  cases hdid with
  | idle pool hty => exact absurd hp hnone
  | signedUp pool hty hfields hnew => exact absurd hp (hother MessageType.noConfusion)
  | refused pool hty hreason hcontent => exact absurd hp (hother MessageType.noConfusion)
  | loggedIn pool hty hfree hr hauth hcontent => exact absurd hp (hother MessageType.noConfusion)
  | loggedOut hty => exact absurd hp hnone
  | requested pool hty hne h₁ h₂ hps =>
      rcases hps with rfl | ⟨other, -, r, -, -, rfl⟩
      · exact absurd (hposted hp) List.not_mem_nil
      · exact absurd hp (hother MessageType.noConfusion)
  | rejected pool hty hcontent => exact absurd hp hnone
  | accepted pool hty hcontent => exact absurd hp hnone
  | chatted pool hty ht =>
      obtain ⟨other, -, rfl⟩ := List.mem_map.mp (hposted hp)
      exact Or.inl ⟨hty, rfl, rfl, rfl⟩
  | broadcast hty =>
      obtain ⟨it, -, rfl⟩ := List.mem_map.mp (hposted hp)
      exact MessageType.noConfusion htext
  | listed pool hty hcontent => exact absurd hp (hother MessageType.noConfusion)
  | pulled pool hty hms =>
      obtain ⟨m, hm, rfl⟩ := List.mem_map.mp (hposted hp)
      obtain ⟨r, hr, hrow⟩ := hms m hm
      exact Or.inr ⟨hty, r, List.mem_of_mem_filter hr, hrow⟩

end Frames

end BusinessHandler

/-! ## The two pages and the server -/

/-- One of the two users. -/
inductive Party where
  | first
  | second
  deriving DecidableEq

def Party.other : Party → Party
  | .first => .second
  | .second => .first

/-- The ids of the two users. -/
structure Parties where
  id : Party → Int32
  differ : id .first ≠ id .second

theorem Parties.ne (g : Parties) (c : Party) : (g.id c).toInt ≠ (g.id c.other).toInt := by
  intro h
  have hid := Int32.toInt_inj.mp h
  cases c with
  | first => exact g.differ hid
  | second => exact g.differ hid.symm

/-- A page, the messages it has cached, and the session it is connected to. -/
structure Client where
  page : Page
  messageCache : MessageCache Nat
  session : SessionId

namespace Exchange

structure World where
  handler : BusinessHandler
  client : Party → Client
  /-- The frames sent so far; the mark of a frame is its position. -/
  frames : List Message
  /-- The frames sent on a session and not handled yet. -/
  wire : SessionId → List (Message × Nat)
  /-- The messages enqueued to a session that have not arrived, with the marks of the frames they
  come from. -/
  inbox : SessionId → List (Message × Nat)
  /-- The marks of the frames the server has handled, in order. -/
  handled : List Nat
  /-- The mark of the frame that a row of the messages table comes from, by the id of the row. -/
  stored : Nat → Nat
  /-- The number of the next session. -/
  sessions : SessionId

/-- What happens next. -/
inductive Event where
  /-- A user submits the login form. -/
  | login (c : Party) (now : Int64) (password : Bytes)
  /-- A user submits the chat form; the selected chat, the object that is cached and the text that is
  sent. -/
  | chat (c : Party) (now : Int64) (toUserId : Int32) (content : JsValue) (content_json : Bytes)
  /-- A page sends another frame. -/
  | send (c : Party) (now : Int64) (type : MessageType) (toUserId : Int32) (content : Bytes)
  /-- Another client sends a frame. -/
  | others (session : SessionId) (msg : Message)
  /-- The server handles the next frame of a session. -/
  | serve (session : SessionId) (env : Env)
  /-- The next message enqueued to the session of a page arrives. -/
  | deliver (c : Party) (now : Int64)
  /-- A page is loaded again. -/
  | reload (c : Party)
  /-- A page is connected again. -/
  | reconnect (c : Party)
  /-- The server has closed a session. -/
  | closed (session : SessionId)

/-- Put a frame on the wire of a session. -/
def put (w : World) (session : SessionId) (msg : Message) : World :=
  { w with
    frames := w.frames ++ [msg]
    wire := Function.update w.wire session (w.wire session ++ [(msg, w.frames.length)]) }

/-- A page has done something: what it has sent is on the wire. -/
def act (w : World) (c : Party) (page : Page) (messageCache : MessageCache Nat) : World :=
  let before := w.client c
  (page.sent.drop before.page.sent.length).foldl (fun w msg => put w before.session msg)
    { w with client := Function.update w.client c ⟨page, messageCache, before.session⟩ }

/-- The mark of a message that the server enqueues when it handles a frame with a mark. A message of
the history carries the id of its row. -/
def markOf (w : World) (msg : Message) (mark : Nat) (enqueued : Message) : Nat :=
  if msg.messageType = .PULL_MESSAGE then w.stored enqueued.messageId.toInt.toNat else mark

/-- The server handles a frame. -/
def handle [OpenSSL] (w : World) (env : Env) (session : SessionId) (msg : Message) (mark : Nat) :
    World :=
  let handler := w.handler.step (.frame env session msg)
  let enqueued := handler.posted.drop w.handler.posted.length
  { w with
    handler := handler
    inbox := fun s => w.inbox s ++
      (enqueued.filter fun p => p.1 = s).map fun p => (p.2, markOf w msg mark p.2)
    handled := w.handled ++ [mark]
    -- a row that is inserted now takes the next id
    stored := Function.update w.stored (w.handler.db.tables.messages.last + 1) mark }

/-- The call of `addMessageToCache` that a page makes when a message arrives, if it does. -/
def arrival (page : Page) (msg : Message) (mark : Nat) : Option (MessageObject Nat × JsValue) :=
  if msg.messageType = .TEXT then
    (Page.contentAfter page msg).map fun content => (MessageCache.ofMessage msg mark, content)
  else none

/-- What a page has cached when a message has arrived. -/
def cacheArrived (client : Client) (msg : Message) (mark : Nat) : MessageCache Nat :=
  match arrival client.page msg mark with
  | some call => MessageCache.step client.messageCache call
  | none => client.messageCache

/-- Two pages that have just been loaded, and a server that starts with an empty database. -/
def start (pool_size : Nat) : World where
  handler := .start .empty pool_size
  client
    | .first => ⟨.loaded, MessageCache.empty, 0⟩
    | .second => ⟨.loaded, MessageCache.empty, 1⟩
  frames := []
  wire := fun _ => []
  inbox := fun _ => []
  handled := []
  stored := fun _ => 0
  sessions := 2

/-- One event. -/
def step [OpenSSL] (g : Parties) (w : World) : Event → World
  | .login c now password =>
    let client := w.client c
    act w c (stateOf (Page.submitLogin now (g.id c) password client.page)) client.messageCache
  | .chat c now toUserId content content_json =>
    let client := w.client c
    let page := client.page
    -- the chat with id 0 is the public one, whose messages are not filed here
    if toUserId = 0 then w else
    act w c (stateOf (Page.sendMessage now .TEXT page.userId toUserId content_json page))
      (MessageCache.step client.messageCache
        (⟨page.userId.toInt, toUserId.toInt, page.message_id, content_json, now.toInt,
          w.frames.length⟩, content))
  | .send c now type toUserId content =>
    let client := w.client c
    let page := client.page
    act w c (stateOf (Page.sendMessage now type page.userId toUserId content page))
      client.messageCache
  | .others session msg => put w session msg
  | .serve session env =>
    match w.wire session with
    | [] => w
    | (msg, mark) :: rest =>
      handle { w with wire := Function.update w.wire session rest } env session msg mark
  | .deliver c now =>
    let client := w.client c
    match w.inbox client.session with
    | [] => w
    | (msg, mark) :: rest =>
      act { w with inbox := Function.update w.inbox client.session rest } c
        (client.page.step (now, msg)) (cacheArrived client msg mark)
  | .reload c =>
    { w with
      client := Function.update w.client c ⟨.loaded, MessageCache.empty, w.sessions⟩
      sessions := w.sessions + 1 }
  | .reconnect c =>
    { w with
      client := Function.update w.client c { w.client c with session := w.sessions }
      sessions := w.sessions + 1 }
  | .closed session => { w with handler := w.handler.step (.closed session) }

/-! ## Frames on the wire -/

/-- Every frame is handled at most once, and those of one session in the order they were sent. -/
structure Queued (frames : List Message) (wire : SessionId → List (Message × Nat))
    (handled : List Nat) : Prop where
  /-- What is on the wire is the frame with the mark. -/
  sent : ∀ s, ∀ p ∈ wire s, frames[p.2]? = some p.1
  ascending : ∀ s, (wire s).Pairwise fun p q => p.2 < q.2
  /-- No frame is on two wires. -/
  apart : ∀ s s', ∀ p ∈ wire s, ∀ q ∈ wire s', p.2 = q.2 → s = s'
  waiting : ∀ s, ∀ p ∈ wire s, p.2 ∉ handled
  known : ∀ t ∈ handled, t < frames.length
  once : handled.Nodup

section Wires

variable {frames : List Message} {wire : SessionId → List (Message × Nat)} {handled : List Nat}
  {session s : SessionId}

theorem getElem?_append_of_eq_some {mark : Nat} {msg : Message} (h : frames[mark]? = some msg)
    (msgs : List Message) : (frames ++ msgs)[mark]? = some msg := by
  rw [List.getElem?_append_left (List.getElem?_eq_some_iff.mp h).1]
  exact h

theorem Queued.lt (h : Queued frames wire handled) {p : Message × Nat} (hp : p ∈ wire s) :
    p.2 < frames.length := (List.getElem?_eq_some_iff.mp (h.sent s p hp)).1

/-- What is on the wires when frames have been sent on one of them. -/
theorem mem_wire_append {ps : List (Message × Nat)} {p : Message × Nat}
    (hp : p ∈ Function.update wire session (wire session ++ ps) s) :
    p ∈ wire s ∨ s = session ∧ p ∈ ps := by
  by_cases hs : s = session
  · rw [hs, Function.update_self, List.mem_append] at hp
    rw [hs]
    exact hp.imp_right fun hp => ⟨rfl, hp⟩
  · rw [Function.update_of_ne hs] at hp
    exact Or.inl hp

/-- Frames that are sent take the next marks. -/
theorem Queued.send (h : Queued frames wire handled) (session : SessionId) (msgs : List Message) :
    Queued (frames ++ msgs)
      (Function.update wire session (wire session ++ msgs.zipIdx frames.length)) handled where
  sent := by
    intro s p hp
    rcases mem_wire_append hp with hp | ⟨-, hp⟩
    · exact getElem?_append_of_eq_some (h.sent s p hp) msgs
    · obtain ⟨hle, hmsg⟩ := List.mem_zipIdx_iff_le_and_getElem?_sub.mp hp
      rw [List.getElem?_append_right hle]
      exact hmsg
  ascending := by
    intro s
    by_cases hs : s = session
    · rw [hs, Function.update_self, List.pairwise_append]
      refine ⟨h.ascending session, ?_, ?_⟩
      · rw [← List.pairwise_map (R := (· < ·)), List.zipIdx_map_snd]
        exact List.pairwise_lt_range'
      · intro p hp q hq
        exact Nat.lt_of_lt_of_le (h.lt hp) (List.le_snd_of_mem_zipIdx hq)
    · rw [Function.update_of_ne hs]
      exact h.ascending s
  apart := by
    intro s s' p hp q hq hpq
    rcases mem_wire_append hp with hold | ⟨hs, hnew⟩
    · rcases mem_wire_append hq with hold' | ⟨-, hnew'⟩
      · exact h.apart s s' p hold q hold' hpq
      · have hlt := h.lt hold
        have hle := List.le_snd_of_mem_zipIdx hnew'
        omega
    · rcases mem_wire_append hq with hold' | ⟨hs', -⟩
      · have hlt := h.lt hold'
        have hle := List.le_snd_of_mem_zipIdx hnew
        omega
      · exact hs.trans hs'.symm
  waiting := by
    intro s p hp hhandled
    rcases mem_wire_append hp with hp | ⟨-, hp⟩
    · exact h.waiting s p hp hhandled
    · have hlt := h.known p.2 hhandled
      have hle := List.le_snd_of_mem_zipIdx hp
      omega
  known := by
    intro t ht
    rw [List.length_append]
    exact Nat.lt_add_right _ (h.known t ht)
  once := h.once

/-- The first frame of a wire is handled. -/
theorem Queued.serve (h : Queued frames wire handled) {p : Message × Nat} {rest : List (Message × Nat)}
    (hwire : wire session = p :: rest) :
    Queued frames (Function.update wire session rest) (handled ++ [p.2]) := by
  have hp : p ∈ wire session := by
    rw [hwire]
    exact List.mem_cons_self
  have hrest : rest.Sublist (wire session) := by
    rw [hwire]
    exact List.sublist_cons_self p rest
  have hsub : ∀ s, (Function.update wire session rest s).Sublist (wire s) := by
    intro s
    by_cases hs : s = session
    · rw [hs, Function.update_self]
      exact hrest
    · rw [Function.update_of_ne hs]
  refine ⟨fun s q hq => h.sent s q ((hsub s).subset hq), fun s => (h.ascending s).sublist (hsub s),
    ?_, ?_, ?_, ?_⟩
  · intro s s' q hq q' hq' heq
    exact h.apart s s' q ((hsub s).subset hq) q' ((hsub s').subset hq') heq
  · intro s q hq hmem
    rcases List.mem_append.mp hmem with hmem | hmem
    · exact h.waiting s q ((hsub s).subset hq) hmem
    · -- the frame that is handled was on this wire only, and before the others
      have heq : q.2 = p.2 := List.mem_singleton.mp hmem
      have hs := h.apart s session q ((hsub s).subset hq) p hp heq
      rw [hs, Function.update_self] at hq
      have hascending := h.ascending session
      rw [hwire, List.pairwise_cons] at hascending
      have hlt := hascending.1 q hq
      omega
  · intro t ht
    rcases List.mem_append.mp ht with ht | ht
    · exact h.known t ht
    · rw [List.mem_singleton.mp ht]
      exact h.lt hp
  · rw [List.nodup_append]
    refine ⟨h.once, List.nodup_singleton _, ?_⟩
    intro t ht t' ht' heq
    rw [List.mem_singleton.mp ht'] at heq
    exact h.waiting session p hp (heq ▸ ht)

end Wires

/-! ## The marks -/

/-- The mark is the one of a chat frame between the two users. -/
def Stands (frames : List Message) (mark : Nat) (fromUserId toUserId : Int) : Prop :=
  ∃ msg, frames[mark]? = some msg ∧ BusinessHandler.IsChat msg ∧
    msg.fromUserId.toInt = fromUserId ∧ msg.toUserId.toInt = toUserId

/-- The message is a copy of the chat frame with the mark. The database keeps the content up to the
first NUL. -/
def CopyOf (frames : List Message) (mark : Nat) (copy : Message) : Prop :=
  ∃ msg, frames[mark]? = some msg ∧ BusinessHandler.IsChat msg ∧
    copy.fromUserId = msg.fromUserId ∧ copy.toUserId = msg.toUserId ∧
      (copy.content = msg.content ∨ copy.content = cstr msg.content)

/-- Where the marks lead. -/
structure Marked (w : World) : Prop where
  queued : Queued w.frames w.wire w.handled
  tables : w.handler.db.tables.Ok
  /-- A row is the one of the frame it is marked with. -/
  rows : ∀ r ∈ w.handler.db.tables.messages.rows, w.stored r.message_id ∈ w.handled ∧
    ∃ env msg, w.frames[w.stored r.message_id]? = some msg ∧ BusinessHandler.IsChat msg ∧
      r = .new env msg r.message_id
  /-- A chat message on its way to a page is a copy of a frame that has been handled. -/
  inbox : ∀ s, ∀ p ∈ w.inbox s, p.1.messageType = .TEXT →
    p.2 ∈ w.handled ∧ CopyOf w.frames p.2 p.1
  /-- What is cached stands for a frame between the same users. -/
  cache : ∀ c u, ∀ e ∈ (w.client c).messageCache u, Stands w.frames e.mark e.fromUserId e.toUserId

section Marks

variable {w : World} {c : Party} {frames : List Message} {msg : Message} {mark : Nat}
  {rest : List (Message × Nat)}

theorem Stands.append {fromUserId toUserId : Int} (h : Stands frames mark fromUserId toUserId)
    (msgs : List Message) : Stands (frames ++ msgs) mark fromUserId toUserId := by
  obtain ⟨msg, hmsg, hchat⟩ := h
  exact ⟨msg, getElem?_append_of_eq_some hmsg msgs, hchat⟩

theorem CopyOf.append {copy : Message} (h : CopyOf frames mark copy) (msgs : List Message) :
    CopyOf (frames ++ msgs) mark copy := by
  obtain ⟨msg, hmsg, hchat⟩ := h
  exact ⟨msg, getElem?_append_of_eq_some hmsg msgs, hchat⟩

theorem CopyOf.stands {copy : Message} (h : CopyOf frames mark copy) :
    Stands frames mark copy.fromUserId.toInt copy.toUserId.toInt := by
  obtain ⟨msg, hmsg, hchat, hfrom, hto, -⟩ := h
  exact ⟨msg, hmsg, hchat, by rw [hfrom], by rw [hto]⟩

/-- A page has put its new frames on the wire, with the next marks. -/
theorem foldl_put (w : World) (session : SessionId) (msgs : List Message) :
    msgs.foldl (fun w msg => put w session msg) w =
      { w with
        frames := w.frames ++ msgs
        wire := Function.update w.wire session
          (w.wire session ++ msgs.zipIdx w.frames.length) } := by
  induction msgs generalizing w with
  | nil =>
      rw [List.foldl_nil, List.append_nil, List.zipIdx_nil, List.append_nil,
        Function.update_eq_self]
  | cons msg msgs ih =>
      rw [List.foldl_cons, ih]
      unfold put
      simp only [Function.update_idem, Function.update_self, List.length_append, List.length_singleton,
        List.append_assoc, List.zipIdx_cons, List.singleton_append]

theorem act_eq (w : World) (c : Party) (page : Page) (messageCache : MessageCache Nat) :
    act w c page messageCache =
      let session := (w.client c).session
      let msgs := page.sent.drop (w.client c).page.sent.length
      { w with
        client := Function.update w.client c ⟨page, messageCache, session⟩
        frames := w.frames ++ msgs
        wire := Function.update w.wire session
          (w.wire session ++ msgs.zipIdx w.frames.length) } := foldl_put _ _ _

/-- Frames have been sent, and the caches of the pages may have changed. -/
theorem Marked.send (h : Marked w) (session : SessionId) (msgs : List Message)
    {client : Party → Client} (hcache : ∀ c u, ∀ e ∈ (client c).messageCache u,
      Stands (w.frames ++ msgs) e.mark e.fromUserId e.toUserId) :
    Marked { w with
      client := client
      frames := w.frames ++ msgs
      wire := Function.update w.wire session
        (w.wire session ++ msgs.zipIdx w.frames.length) } where
  queued := h.queued.send session msgs
  tables := h.tables
  rows := by
    intro r hr
    obtain ⟨hhandled, env, msg, hmsg, hrow⟩ := h.rows r hr
    exact ⟨hhandled, env, msg, getElem?_append_of_eq_some hmsg msgs, hrow⟩
  inbox := by
    intro s p hp htext
    obtain ⟨hhandled, hcopy⟩ := h.inbox s p hp htext
    exact ⟨hhandled, hcopy.append msgs⟩
  cache := hcache

theorem Marked.act (h : Marked w) {page : Page} {messageCache : MessageCache Nat}
    (hcache : ∀ u, ∀ e ∈ messageCache u,
      Stands (w.frames ++ page.sent.drop (w.client c).page.sent.length) e.mark e.fromUserId
        e.toUserId) :
    Marked (act w c page messageCache) := by
  rw [act_eq]
  refine h.send _ _ ?_
  intro d u e he
  by_cases hd : d = c
  · rw [hd, Function.update_self] at he
    exact hcache u e he
  · rw [Function.update_of_ne hd] at he
    exact (h.cache d u e he).append _

/-- A page that files nothing. -/
theorem Marked.act_same (h : Marked w) {page : Page} :
    Marked (Exchange.act w c page (w.client c).messageCache) :=
  h.act fun u e he => (h.cache c u e he).append _

/-- What a pull makes of a stored row is a copy of the frame of the row. -/
theorem Marked.copyOf_row (h : Marked w) {r : MessageRow} {env : Env} {copy : Message}
    (hr : r ∈ w.handler.db.tables.messages.rows) (hrow : Database.messageOfRow env r = .ok copy) :
    w.stored r.message_id ∈ w.handled ∧ CopyOf w.frames (w.stored r.message_id) copy := by
  obtain ⟨hhandled, env', msg, hmsg, hchat, heq⟩ := h.rows r hr
  obtain ⟨hfrom, hto, -, -, hcontent, -⟩ := Database.messageOfRow_eq_ok.mp hrow
  have hfrom_row : r.from_user_id = to_string msg.fromUserId := congrArg MessageRow.from_user_id heq
  have hto_row : r.to_user_id = to_string msg.toUserId := congrArg MessageRow.to_user_id heq
  have hcontent_row : r.content = cstr msg.content := congrArg MessageRow.content heq
  rw [hfrom_row, cstr_to_string, stoi_to_string] at hfrom
  rw [hto_row, cstr_to_string, stoi_to_string] at hto
  rw [hcontent_row, cstr_cstr] at hcontent
  exact ⟨hhandled, msg, hmsg, hchat, (Except.ok.inj hfrom).symm, (Except.ok.inj hto).symm,
    Or.inr hcontent⟩

/-- The next message arrives at a page. -/
theorem Marked.deliver (h : Marked w) (hinbox : w.inbox (w.client c).session = (msg, mark) :: rest)
    (now : Int64) :
    Marked (Exchange.act { w with inbox := Function.update w.inbox (w.client c).session rest } c
      ((w.client c).page.step (now, msg)) (cacheArrived (w.client c) msg mark)) := by
  have hmem : (msg, mark) ∈ w.inbox (w.client c).session := by
    rw [hinbox]
    exact List.mem_cons_self
  have hrest : Marked { w with inbox := Function.update w.inbox (w.client c).session rest } := by
    refine ⟨h.queued, h.tables, h.rows, ?_, h.cache⟩
    intro s p hp
    refine h.inbox s p ?_
    dsimp only at hp
    by_cases hs : s = (w.client c).session
    · rw [hs, Function.update_self] at hp
      rw [hs, hinbox]
      exact List.mem_cons_of_mem _ hp
    · rw [Function.update_of_ne hs] at hp
      exact hp
  refine hrest.act ?_
  intro u e he
  refine Stands.append ?_ _
  unfold cacheArrived at he
  cases hcall : arrival (w.client c).page msg mark with
  | none =>
      rw [hcall] at he
      exact h.cache c u e he
  | some call =>
      rw [hcall] at he
      rcases MessageCache.mem_step he with he | he
      · exact h.cache c u e he
      · -- the message that has arrived is filed
        unfold arrival at hcall
        split at hcall
        · rename_i htext
          obtain ⟨content, -, rfl⟩ := Option.map_eq_some_iff.mp hcall
          obtain ⟨hfrom, hto⟩ := MessageCache.cached_ids he
          rw [MessageCache.cached_mark he, hfrom, hto]
          exact (h.inbox _ _ hmem htext).2.stands
        · cases hcall

variable [OpenSSL] {g : Parties} {session : SessionId} {env : Env} {now : Int64}

theorem step_serve_nil (hwire : w.wire session = []) : step g w (.serve session env) = w := by
  simp only [step, hwire]

theorem step_serve_cons (hwire : w.wire session = (msg, mark) :: rest) :
    step g w (.serve session env) =
      handle { w with wire := Function.update w.wire session rest } env session msg mark := by
  simp only [step, hwire]

theorem step_deliver_nil (hinbox : w.inbox (w.client c).session = []) :
    step g w (.deliver c now) = w := by
  simp only [step, hinbox]

theorem step_deliver_cons (hinbox : w.inbox (w.client c).session = (msg, mark) :: rest) :
    step g w (.deliver c now) =
      act { w with inbox := Function.update w.inbox (w.client c).session rest } c
        ((w.client c).page.step (now, msg)) (cacheArrived (w.client c) msg mark) := by
  simp only [step, hinbox]

/-- The cache of a page that is loaded again is empty. -/
theorem reload_messageCache :
    ((step g w (.reload c)).client c).messageCache = MessageCache.empty :=
  congrArg Client.messageCache (Function.update_self c _ w.client)

theorem reload_messageCache_of_ne {d : Party} (hd : d ≠ c) :
    ((step g w (.reload c)).client d).messageCache = (w.client d).messageCache :=
  congrArg Client.messageCache (Function.update_of_ne hd _ w.client)

/-- A page that is connected again keeps its cache. -/
theorem reconnect_messageCache (d : Party) :
    ((step g w (.reconnect c)).client d).messageCache = (w.client d).messageCache := by
  by_cases hd : d = c
  · have hsame : (step g w (.reconnect c)).client c =
        { w.client c with session := w.sessions } := Function.update_self ..
    rw [hd, hsame]
  · exact congrArg Client.messageCache (Function.update_of_ne hd _ w.client)

/-- The server handles the next frame of a session. -/
theorem Marked.serve (h : Marked w) (hwire : w.wire session = (msg, mark) :: rest) (env : Env) :
    Marked (handle { w with wire := Function.update w.wire session rest } env session msg mark) := by
  have hframe : w.frames[mark]? = some msg := by
    refine h.queued.sent session (msg, mark) ?_
    rw [hwire]
    exact List.mem_cons_self
  have hmark : mark ∈ w.handled ++ [mark] := List.mem_append_right _ (List.mem_singleton_self mark)
  refine ⟨h.queued.serve hwire, BusinessHandler.step_ok _ _ h.tables, ?_, ?_, h.cache⟩
  · intro r hr
    show Function.update w.stored (w.handler.db.tables.messages.last + 1) mark r.message_id ∈
      w.handled ++ [mark] ∧ ∃ env msg, w.frames[Function.update w.stored
        (w.handler.db.tables.messages.last + 1) mark r.message_id]? = some msg ∧ _
    rcases BusinessHandler.row_of_step h.tables hr with hr | ⟨hchat, rfl⟩
    · -- the id of a row that was there is not the next one
      have hold : r.message_id ≠ w.handler.db.tables.messages.last + 1 := by
        have hle := (w.handler.db.tables.messages.bounded r hr).2
        omega
      obtain ⟨hhandled, hrow⟩ := h.rows r hr
      rw [Function.update_of_ne hold]
      exact ⟨List.mem_append_left _ hhandled, hrow⟩
    · show Function.update w.stored _ mark (w.handler.db.tables.messages.last + 1) ∈ _ ∧
        ∃ env msg, w.frames[Function.update w.stored _ mark
          (w.handler.db.tables.messages.last + 1)]? = some msg ∧ _
      rw [Function.update_self]
      exact ⟨hmark, env, msg, hframe, hchat, rfl⟩
  · intro s p hp htext
    rcases List.mem_append.mp hp with hp | hp
    · obtain ⟨hhandled, hcopy⟩ := h.inbox s p hp htext
      exact ⟨List.mem_append_left _ hhandled, hcopy⟩
    · obtain ⟨q, hq, rfl⟩ := List.mem_map.mp hp
      have hdid : BusinessHandler.Did env session msg w.handler _ :=
        BusinessHandler.step_did h.tables.users
      obtain ⟨hchat, hfrom, hto, hcontent⟩ | ⟨hty, r, hr, hrow⟩ :=
        hdid.text (List.mem_of_mem_filter hq) htext
      · have hpull : msg.messageType ≠ .PULL_MESSAGE := by
          intro hty
          rcases hchat with hchat | hchat
          · exact MessageType.noConfusion (hty.symm.trans hchat)
          · exact MessageType.noConfusion (hty.symm.trans hchat)
        dsimp only
        rw [markOf, if_neg hpull]
        exact ⟨hmark, msg, hframe, hchat, hfrom, hto, Or.inl hcontent⟩
      · obtain ⟨hhandled, hcopy⟩ := h.copyOf_row hr hrow
        dsimp only
        rw [markOf, if_pos hty, Database.toInt_of_messageOfRow hrow, Int.toNat_natCast]
        exact ⟨List.mem_append_left _ hhandled, hcopy⟩

/-- A page writes a message. -/
theorem Marked.chat (h : Marked w) (now : Int64) (toUserId : Int32) (content : JsValue)
    (content_json : Bytes) : Marked (step g w (.chat c now toUserId content content_json)) := by
  unfold step
  dsimp only
  split
  · exact h
  · refine h.act ?_
    have hsent : ∀ (page : Page) (m : Message), (page.sent ++ [m]).drop page.sent.length = [m] :=
      fun page m => List.drop_left
    intro u e he
    rcases MessageCache.mem_step he with he | he
    · exact (h.cache c u e he).append _
    · obtain ⟨hfrom, hto⟩ := MessageCache.cached_ids he
      rw [MessageCache.cached_mark he, hfrom, hto]
      refine ⟨⟨(w.client c).page.userId, toUserId, .TEXT,
        Int32.ofNat (w.client c).page.message_id, content_json, now⟩, ?_, Or.inl rfl, rfl, rfl⟩
      have hnew := hsent (w.client c).page ⟨(w.client c).page.userId, toUserId, .TEXT,
        Int32.ofNat (w.client c).page.message_id, content_json, now⟩
      exact (congrArg (fun msgs => (w.frames ++ msgs)[w.frames.length]?) hnew).trans
        List.getElem?_concat_length

theorem step_marked (g : Parties) (w : World) (e : Event) (h : Marked w) : Marked (step g w e) := by
  cases e with
  | login c now password => exact h.act_same
  | chat c now toUserId content content_json => exact h.chat now toUserId content content_json
  | send c now type toUserId content => exact h.act_same
  | others session msg => exact h.send session [msg] fun c u e he => (h.cache c u e he).append _
  | serve session env =>
      cases hwire : w.wire session with
      | nil =>
          rw [step_serve_nil hwire]
          exact h
      | cons p rest =>
          rw [step_serve_cons hwire]
          exact h.serve hwire env
  | deliver c now =>
      cases hinbox : w.inbox (w.client c).session with
      | nil =>
          rw [step_deliver_nil hinbox]
          exact h
      | cons p rest =>
          rw [step_deliver_cons hinbox]
          exact h.deliver hinbox now
  | reload c =>
      refine ⟨h.queued, h.tables, h.rows, h.inbox, ?_⟩
      intro d u e he
      by_cases hd : d = c
      · rw [hd, reload_messageCache] at he
        exact absurd he List.not_mem_nil
      · rw [reload_messageCache_of_ne hd] at he
        exact h.cache d u e he
  | reconnect c =>
      refine ⟨h.queued, h.tables, h.rows, h.inbox, ?_⟩
      intro d u e he
      rw [reconnect_messageCache] at he
      exact h.cache d u e he
  | closed session => exact ⟨h.queued, BusinessHandler.step_ok _ _ h.tables, h.rows, h.inbox, h.cache⟩

end Marks

theorem start_marked (pool_size : Nat) : Marked (start pool_size) where
  queued := ⟨fun _ _ hp => absurd hp List.not_mem_nil, fun _ => List.Pairwise.nil,
    fun _ _ _ hp => absurd hp List.not_mem_nil, fun _ _ hp => absurd hp List.not_mem_nil,
    fun _ ht => absurd ht List.not_mem_nil, List.nodup_nil⟩
  tables := Tables.Ok.empty
  rows := fun _ hr => absurd hr List.not_mem_nil
  inbox := fun _ _ hp => absurd hp List.not_mem_nil
  cache := by
    intro c u e he
    cases c with
    | first => exact absurd he List.not_mem_nil
    | second => exact absurd he List.not_mem_nil

/-- **`exec_marked`** — in every state of every run, the marks are right. -/
theorem exec_marked [OpenSSL] (g : Parties) (pool_size : Nat) (es : List Event) :
    Marked (exec (step g) (start pool_size) es) :=
  exec_preserves (step_marked g) (start_marked pool_size) es

/-! ## The two caches of a page -/

/-- What arrives is filed in the cache of the page and in the one with the marks. -/
def Agree (client : Client) : Prop := MessageCache.Holds client.page.messageCache client.messageCache

theorem agree_loaded (session : SessionId) : Agree ⟨.loaded, MessageCache.empty, session⟩ := fun _ =>
  ⟨[], List.Sublist.refl _, List.Forall₂.nil⟩

/-- A message that arrives changes both in the same way. -/
theorem Agree.arrives {client : Client} (h : Agree client) (now : Int64) (msg : Message) (mark : Nat) :
    MessageCache.Holds (client.page.step (now, msg)).messageCache (cacheArrived client msg mark) := by
  unfold cacheArrived arrival
  by_cases htext : msg.messageType = .TEXT
  · rw [Page.step_text htext, if_pos htext]
    dsimp only
    cases hcontent : Page.contentAfter client.page msg with
    | none => exact h
    | some v =>
        have hfiled := MessageCache.holds_arrived h msg mark v
        rw [Page.getD_of_contentAfter hcontent] at hfiled
        exact hfiled
  · rw [Page.messageCache_step_of_ne htext, if_neg htext]
    exact h

section Agreement

variable {w : World} {c : Party}

theorem agree_act (h : ∀ d, Agree (w.client d)) {page : Page} {messageCache : MessageCache Nat}
    (hc : MessageCache.Holds page.messageCache messageCache) (d : Party) :
    Agree ((act w c page messageCache).client d) := by
  rw [act_eq]
  dsimp only
  by_cases hd : d = c
  · rw [hd, Function.update_self]
    exact hc
  · rw [Function.update_of_ne hd]
    exact h d

theorem step_agree [OpenSSL] (g : Parties) (w : World) (e : Event) (h : ∀ d, Agree (w.client d))
    (d : Party) : Agree ((step g w e).client d) := by
  cases e with
  | login c now password =>
      refine agree_act h ?_ d
      exact h c
  | chat c now toUserId content content_json =>
      unfold step
      dsimp only
      split
      · exact h d
      · refine agree_act h ?_ d
        exact MessageCache.holds_own (h c) _
  | send c now type toUserId content =>
      refine agree_act h ?_ d
      exact h c
  | others session msg => exact h d
  | serve session env =>
      cases hwire : w.wire session with
      | nil =>
          rw [step_serve_nil hwire]
          exact h d
      | cons p rest =>
          rw [step_serve_cons hwire]
          exact h d
  | deliver c now =>
      cases hinbox : w.inbox (w.client c).session with
      | nil =>
          rw [step_deliver_nil hinbox]
          exact h d
      | cons p rest =>
          rw [step_deliver_cons hinbox]
          exact agree_act (w := { w with
            inbox := Function.update w.inbox (w.client c).session rest }) h ((h c).arrives now p.1 p.2) d
  | reload c =>
      show Agree (Function.update w.client c _ d)
      by_cases hd : d = c
      · rw [hd, Function.update_self]
        exact agree_loaded w.sessions
      · rw [Function.update_of_ne hd]
        exact h d
  | reconnect c =>
      show Agree (Function.update w.client c _ d)
      by_cases hd : d = c
      · rw [hd, Function.update_self]
        exact h c
      · rw [Function.update_of_ne hd]
        exact h d
  | closed session => exact h d

/-- **`exec_agree`** — in every state of every run, what the page model has filed is in the cache with
the marks, in the same order. -/
theorem exec_agree [OpenSSL] (g : Parties) (pool_size : Nat) (es : List Event) (d : Party) :
    Agree ((exec (step g) (start pool_size) es).client d) := by
  refine exec_preserves (I := fun w : World => ∀ d, Agree (w.client d)) (step_agree g) ?_ es d
  intro d
  cases d with
  | first => exact agree_loaded 0
  | second => exact agree_loaded 1

end Agreement

end Exchange

end TinyIM
