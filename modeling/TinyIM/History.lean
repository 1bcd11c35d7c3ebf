/-
# History — no chat message is lost, and history is exact

While SQLite statements succeed, the messages table is the list of the chat frames handled so far,
each with its position as its id (`messages_are_chats`). A pull of the history then returns, for every
one of them that is from or to the user and inside the time window, one message with the same sender,
recipient and content, in some order, and nothing else. Ids stay inside the range of `int` as long as
fewer than `2 ^ 31` messages are stored; that is what keeps the conversion of a row from throwing, and
with it the pool from draining.
-/
import TinyIM.Pool

namespace TinyIM

open TinyIM.Lib TinyIM.Lib.Text TinyIM.Lib.Table TinyIM.Lib.Runs TinyIM.Lib.Stops

/-! ## Rows and the frames they are turned into -/

namespace Database

/-- The frame a row of the history is turned into. -/
def replay (env : Env) (from_user_id to_user_id : Int32) (id : Nat) (content : Bytes) : Message :=
  Message.new env from_user_id to_user_id .TEXT (Int32.ofInt id) content

theorem stoi_decimal {n : Nat} (hn : n < 2 ^ 31) : stoi (decimal n) = .ok (Int32.ofInt n) := by
  simp only [stoi, strtol_decimal]
  exact if_pos (by omega)

/-- The row of a chat frame converts back to its sender, recipient and content. -/
theorem messageOfRow_new (env env' : Env) (msg : Message) {id : Nat} (hid : id < 2 ^ 31) :
    messageOfRow env (.new env' msg id) =
      .ok (replay env msg.fromUserId msg.toUserId id (cstr msg.content)) := by
  simp only [messageOfRow, MessageRow.new, cstr_to_string, stoi_to_string, cstr_messageTypeToString,
    stringToMessageType_messageTypeToString, stoi_decimal hid, cstr_cstr]
  rfl

end Database

namespace BusinessHandler

/-! ## The chat frames of a run -/

/-- The frame stores a chat message. -/
def IsChat (msg : Message) : Prop := msg.messageType = .TEXT ∨ msg.messageType = .PRIVATE_CHAT

instance (msg : Message) : Decidable (IsChat msg) := inferInstanceAs (Decidable (_ ∨ _))

/-- The chat frame of an event, with the surroundings it was handled in. -/
def Event.chat : Event → Option (Env × Message)
  | .frame env _ msg => if IsChat msg then some (env, msg) else none
  | .closed _ => none

/-- The chat frames of a run, in the order they were handled. -/
def chats (es : List Event) : List (Env × Message) := es.filterMap Event.chat

/-- The rows the chat frames of a run leave, numbered from one. -/
def chatRows (es : List Event) : List MessageRow :=
  ((chats es).zipIdx 1).map fun c => MessageRow.new c.1.1 c.1.2 c.2

/-- The SQLite statements of the event succeed. -/
def Event.Succeeds : Event → Prop
  | .frame env _ _ => env.SqlSucceeds
  | .closed _ => True

/-- The SQLite statements of the event succeed, and a chat message in it has no NUL. -/
def Event.Fine : Event → Prop
  | .frame env _ msg => env.SqlSucceeds ∧ (IsChat msg → NoNul msg.content)
  | .closed _ => True

theorem Event.Fine.succeeds {e : Event} (h : e.Fine) : e.Succeeds := by
  cases e with
  | frame env session msg => exact h.1
  | closed session => exact trivial

theorem chats_concat (es : List Event) (e : Event) :
    chats (es ++ [e]) = chats es ++ e.chat.toList := by
  unfold chats
  rw [List.filterMap_append]
  cases he : e.chat with
  | none => rw [List.filterMap_cons_none he]; rfl
  | some c => rw [List.filterMap_cons_some he]; rfl

theorem chatRows_of_chats_eq {es es' : List Event} (h : chats es' = chats es) :
    chatRows es' = chatRows es := by
  unfold chatRows
  rw [h]

theorem chatRows_concat_chat {es : List Event} {env : Env} {session : SessionId} {msg : Message}
    (hchat : IsChat msg) : chatRows (es ++ [.frame env session msg]) =
      chatRows es ++ [MessageRow.new env msg ((chats es).length + 1)] := by
  unfold chatRows
  rw [chats_concat, Event.chat, if_pos hchat, Option.toList_some, List.zipIdx_append, List.map_append,
    Nat.add_comm]
  rfl

/-! ## Frames that succeed -/

section Frames

variable {env : Env} {session : SessionId} {msg : Message} {h h' : BusinessHandler}

theorem sendMessageToUser_ok (henv : env.SqlSucceeds) (hready : h.db.Ready) :
    Ends (sendMessageToUser env msg) h
      (fun _ h' => ∃ pool, h' = (h.withDb (h.db.tables.stored env msg) pool).post
        ((h.userSessions.lookup msg.toUserId).toList.map fun other =>
          (other, .new env msg.fromUserId msg.toUserId .TEXT (msg.messageId + 1) msg.content)))
      fun _ _ => False := by
  unfold sendMessageToUser
  simp only [ends_bind, ends_findSession, ends_callDb]
  refine Database.ends_storeMessage_ok (henv 0) hready ?_
  intro pool _
  cases h.userSessions.lookup msg.toUserId with
  | none => exact ⟨pool, (post_nil _).symm⟩
  | some other => exact ⟨pool, rfl⟩

/-- What a chat frame does. -/
theorem step_chat [OpenSSL] (hchat : IsChat msg) (henv : env.SqlSucceeds) (hready : h.db.Ready) :
    ∃ pool, step h (.frame env session msg) = (h.withDb (h.db.tables.stored env msg) pool).post
      ((h.userSessions.lookup msg.toUserId).toList.map fun other =>
        (other, .new env msg.fromUserId msg.toUserId .TEXT (msg.messageId + 1) msg.content)) := by
  show ∃ pool, stateOf (handleIncomingMessage env session msg h) = _
  rw [handle_chat hchat]
  exact ends_stateOf.mp ((sendMessageToUser_ok henv hready).mono (fun _ _ hs => hs)
    fun _ _ hfalse => hfalse.elim)

/-- What a pull of the history does, when every selected row converts by `f`. -/
theorem step_pull [OpenSSL] (hty : msg.messageType = .PULL_MESSAGE) (henv : env.SqlSucceeds)
    (hready : h.db.Ready) {f : MessageRow → Message}
    (hf : ∀ r ∈ Database.recentRows env (to_string msg.fromUserId) 1 h.db.tables,
      Database.messageOfRow env r = .ok (f r)) :
    ∃ (pool : List Conn) (rows : List MessageRow),
      rows.Perm (Database.recentRows env (to_string msg.fromUserId) 1 h.db.tables) ∧
      step h (.frame env session msg) = (h.withDb h.db.tables pool).post
        (rows.map fun r => (session, f r)) := by
  have hends : Ends (pushMessage env msg session) h
      (fun _ h' => ∃ (pool : List Conn) (rows : List MessageRow),
        rows.Perm (Database.recentRows env (to_string msg.fromUserId) 1 h.db.tables) ∧
          h' = (h.withDb h.db.tables pool).post (rows.map fun r => (session, f r)))
      fun _ _ => False := by
    unfold pushMessage
    simp only [ends_bind, ends_callDb]
    refine Database.ends_reading_ok (henv 0) hready ?_
    intro rows hperm
    refine ⟨rows.map f, Database.mapM_eq_ok fun r hr => hf r (hperm.mem_iff.mp hr), ?_⟩
    intro pool _
    refine ends_forM_send (fun m => some (session, m)) _ (fun _ _ _ _ => Iff.rfl) _ ?_
    refine ⟨pool, rows, hperm, ?_⟩
    rw [List.filterMap_eq_map', List.map_map]
    rfl
  show ∃ (pool : List Conn) (rows : List MessageRow), _ ∧
    stateOf (handleIncomingMessage env session msg h) = _
  rw [handle_pull hty]
  exact ends_stateOf.mp (hends.mono (fun _ _ hs => hs) fun _ _ hfalse => hfalse.elim)

/-- A frame of another type leaves the messages table as it is. -/
theorem Did.messages_of_not_chat [OpenSSL] (hdid : Did env session msg h h') (hty : ¬IsChat msg) :
    h'.db.tables.messages = h.db.tables.messages := by
  cases hdid with
  | chatted pool hchat => exact absurd hchat hty
  | signedUp pool hty' hfields hnew =>
      obtain ⟨users, -, rfl⟩ := Option.map_eq_some_iff.mp hnew
      rfl
  | @requested pool hty' hne t₁ t₂ h₁ h₂ ps hps =>
      rcases h₂ with rfl | rfl <;> rcases h₁ with rfl | rfl <;> rfl
  | idle pool hty' => rfl
  | refused pool hty' hreason hcontent => rfl
  | loggedIn pool hty' hfree hr hauth hcontent => rfl
  | loggedOut hty' => rfl
  | rejected pool hty' hcontent => rfl
  | accepted pool hty' hcontent => rfl
  | broadcast hty' => rfl
  | listed pool hty' hcontent => rfl
  | pulled pool hty' hms => rfl

end Frames

/-! ## Runs that succeed -/

section Runs

variable {env : Env} {session : SessionId} {msg : Message} {h : BusinessHandler} {es : List Event}
  {pool_size : Nat}

/-- The state of the run: the pool is whole, and the messages table is the list of its chats. -/
structure RecordsChats (pool_size : Nat) (es : List Event) (h : BusinessHandler) : Prop where
  idle : h.idle.Perm (List.range pool_size)
  rows : h.db.tables.messages.rows = chatRows es
  last : h.db.tables.messages.last = (chats es).length

theorem mem_chatRows {r : MessageRow} (hr : r ∈ chatRows es) :
    ∃ env msg id, id ≤ (chats es).length ∧ r = MessageRow.new env msg id := by
  obtain ⟨⟨⟨env, msg⟩, id⟩, hc, rfl⟩ := List.mem_map.mp hr
  have hid := (List.mem_zipIdx hc).2.1
  exact ⟨env, msg, id, by omega, rfl⟩

theorem RecordsChats.converts (hrec : RecordsChats pool_size es h)
    (hcount : (chats es).length < 2 ^ 31) (env : Env) :
    ∀ r ∈ h.db.tables.messages.rows, ∃ m, Database.messageOfRow env r = .ok m := by
  intro r hr
  rw [hrec.rows] at hr
  obtain ⟨env', msg, id, hid, rfl⟩ := mem_chatRows hr
  exact ⟨_, Database.messageOfRow_new env env' msg (by omega)⟩

/-- A frame whose statements succeed completes when the stored rows convert. -/
theorem completes_of_sqlSucceeds (henv : env.SqlSucceeds)
    (hconverts : ∀ r ∈ h.db.tables.messages.rows, ∃ m, Database.messageOfRow env r = .ok m) :
    Completes h env msg := by
  have hprepare : ∀ i, (env.sql i).prepare = true := fun i => (henv i).1
  unfold Completes
  cases msg.messageType with
  | SIGN_UP => exact fun _ => hprepare 0
  | LOGIN => exact hprepare 0
  | TEXT => exact hprepare 0
  | PRIVATE_CHAT => exact hprepare 0
  | ADD_FRIEND => exact fun _ => ⟨⟨hprepare 0, hprepare 1⟩, fun _ => hprepare 2⟩
  | FRIEND_LIST => exact ⟨hprepare 0, hprepare 1⟩
  | FRIEND_REQUEST_RESPONSE => exact fun _ => hprepare 0
  | PULL_MESSAGE =>
      refine ⟨hprepare 0, ?_⟩
      intro r hr
      exact hconverts r (List.mem_of_mem_filter (mem_reorder.mp (mem_of_mem_fetch hr)))
  | LOGOUT => trivial
  | GROUP_CHAT => trivial
  | SIGN_UP_RESPONSE => trivial
  | LOGIN_RESPONSE => trivial
  | FRIEND_REQUEST => trivial

/-- One event keeps the record. -/
theorem RecordsChats.step [OpenSSL] (hrec : RecordsChats pool_size es h) (hsize : 1 ≤ pool_size)
    (hok : h.db.tables.Ok) (hcount : (chats es).length < 2 ^ 31) {e : Event}
    (hsucceeds : e.Succeeds) : RecordsChats pool_size (es ++ [e]) (step h e) := by
  have hready := ready_of_idle hsize hrec.idle
  cases e with
  | closed session =>
      have hchats : chats (es ++ [.closed session]) = chats es := by
        rw [chats_concat]
        exact List.append_nil _
      refine ⟨hrec.idle, ?_, ?_⟩
      · rw [chatRows_of_chats_eq hchats]
        exact hrec.rows
      · rw [hchats]
        exact hrec.last
  | frame env session msg =>
      have hcompletes : Event.Completes h (.frame env session msg) :=
        completes_of_sqlSucceeds hsucceeds (hrec.converts hcount env)
      have hidle := ((idle_step hready _).mpr hcompletes).trans hrec.idle
      -- a chat frame appends its row, and any other frame leaves the table alone
      by_cases hchat : IsChat msg
      · obtain ⟨pool, hstep⟩ : ∃ pool, BusinessHandler.step h (.frame env session msg) = _ :=
          step_chat hchat hsucceeds hready
        refine ⟨hidle, ?_, ?_⟩
        · rw [chatRows_concat_chat hchat, ← hrec.rows, ← hrec.last, hstep]
          rfl
        · rw [chats_concat, Event.chat, if_pos hchat, List.length_append, ← hrec.last, hstep]
          rfl
      · have hchats : chats (es ++ [.frame env session msg]) = chats es := by
          rw [chats_concat, Event.chat, if_neg hchat]
          exact List.append_nil _
        have hdid : Did env session msg h _ := step_did hok.users
        have hmessages := hdid.messages_of_not_chat hchat
        refine ⟨hidle, ?_, ?_⟩
        · rw [chatRows_of_chats_eq hchats, hmessages]
          exact hrec.rows
        · rw [hchats, hmessages]
          exact hrec.last

/-- **`messages_are_chats`** — in a run whose statements succeed, the messages table is the list of
the chat frames handled, and the pool stays whole. -/
theorem messages_are_chats [OpenSSL] (hsize : 1 ≤ pool_size) (hsucceeds : ∀ e ∈ es, e.Succeeds)
    (hcount : (chats es).length < 2 ^ 31) :
    RecordsChats pool_size es (exec BusinessHandler.step (start .empty pool_size) es) := by
  induction es using List.reverseRecOn with
  | nil => exact ⟨List.Perm.refl _, rfl, rfl⟩
  | append_singleton es e ih =>
      have hless : (chats es).length < 2 ^ 31 := by
        rw [chats_concat, List.length_append] at hcount
        omega
      have hrec := ih (fun f hf => hsucceeds f (List.mem_append_left _ hf)) hless
      rw [exec_concat]
      exact hrec.step hsize (exec_ok pool_size es) hless (hsucceeds e (by simp))

/-- The chat frames of the run from or to a user that are at most a day old, with their ids. -/
def recentChats (es : List Event) (env : Env) (u : Int32) : List ((Env × Message) × Nat) :=
  ((chats es).zipIdx 1).filter fun c => (c.1.2.fromUserId = u ∨ c.1.2.toUserId = u) ∧
    env.now.toInt - 86400 ≤ c.1.1.now.toInt

/-- The selection of a pull is the rows of these frames. -/
theorem recentRows_eq (hrows : h.db.tables.messages.rows = chatRows es) (env : Env) (u : Int32) :
    Database.recentRows env (to_string u) 1 h.db.tables =
      (recentChats es env u).map fun c => MessageRow.new c.1.1 c.1.2 c.2 := by
  unfold Database.recentRows recentChats chatRows at *
  rw [hrows, List.filter_map]
  congr 1
  refine List.filter_congr fun c _ => ?_
  simp [MessageRow.new]

/-- A pull posts the recent chats, in some order, each as the history replays it. -/
theorem RecordsChats.pull [OpenSSL] (hrec : RecordsChats pool_size es h) (hsize : 1 ≤ pool_size)
    (hcount : (chats es).length < 2 ^ 31) (hty : msg.messageType = .PULL_MESSAGE)
    (henv : env.SqlSucceeds) :
    ∃ (pool : List Conn) (cs : List ((Env × Message) × Nat)),
      cs.Perm (recentChats es env msg.fromUserId) ∧
      BusinessHandler.step h (.frame env session msg) = (h.withDb h.db.tables pool).post
        (cs.map fun c => (session,
          Database.replay env c.1.2.fromUserId c.1.2.toUserId c.2 (cstr c.1.2.content))) := by
  have hselected := recentRows_eq hrec.rows env msg.fromUserId
  have hconverts : ∀ c ∈ recentChats es env msg.fromUserId,
      Database.messageOfRow env (.new c.1.1 c.1.2 c.2) =
        .ok (Database.replay env c.1.2.fromUserId c.1.2.toUserId c.2 (cstr c.1.2.content)) := by
    intro c hc
    have hid := (List.mem_zipIdx (List.mem_filter.mp hc).1).2.1
    exact Database.messageOfRow_new env _ _ (by omega)
  have hread : ∀ r ∈ Database.recentRows env (to_string msg.fromUserId) 1 h.db.tables,
      Database.messageOfRow env r = .ok
        ((Database.messageOfRow env r).toOption.getD (.new env 0 0 .TEXT 0 [])) := by
    intro r hr
    rw [hselected] at hr
    obtain ⟨c, hc, rfl⟩ := List.mem_map.mp hr
    rw [hconverts c hc]
    rfl
  obtain ⟨pool, rows, hperm, hstep⟩ := step_pull hty henv (ready_of_idle hsize hrec.idle) hread
  -- the order of the rows is an order of the frames they are of
  rw [hselected] at hperm
  obtain ⟨cs, rfl, hcs⟩ : Relation.Comp (· = List.map _ ·) List.Perm rows _ := by
    rw [List.eq_map_comp_perm]
    exact hperm
  refine ⟨pool, cs, hcs, ?_⟩
  rw [hstep, List.map_map]
  refine congrArg _ (List.map_congr_left fun c hc => ?_)
  show (session, (Database.messageOfRow env (.new c.1.1 c.1.2 c.2)).toOption.getD _) = _
  rw [hconverts c (hcs.mem_iff.mp hc)]
  rfl

theorem mem_chats {c : Env × Message} (hc : c ∈ chats es) :
    ∃ session, Event.frame c.1 session c.2 ∈ es ∧ IsChat c.2 := by
  obtain ⟨e, he, hec⟩ := List.mem_filterMap.mp hc
  cases e with
  | closed session => cases hec
  | frame env session msg =>
      by_cases hchat : IsChat msg
      · rw [Event.chat, if_pos hchat] at hec
        rw [← Option.some.inj hec]
        exact ⟨session, he, hchat⟩
      · rw [Event.chat, if_neg hchat] at hec
        cases hec

/-- **`history_is_exact`** — in a run whose SQLite statements succeed, with chat messages free of
NULs and fewer than `2 ^ 31` of them: the next chat frame adds exactly one row and, if the recipient
is logged in, posts exactly one message, to the recipient's session; the next pull posts to the
requesting session exactly one message for each chat frame so far that is from or to the user and at
most a day old, with the same sender, recipient and content, and nothing else. -/
theorem history_is_exact [OpenSSL] (pool_size : Nat) (hsize : 1 ≤ pool_size) (es : List Event)
    (hfine : ∀ e ∈ es, e.Fine) (hcount : (chats es).length < 2 ^ 31) :
    let h := exec BusinessHandler.step (start .empty pool_size) es
    (∀ env session msg, env.SqlSucceeds → NoNul msg.content → IsChat msg →
      let h' := BusinessHandler.step h (.frame env session msg)
      h'.db.tables.messages.rows = h.db.tables.messages.rows ++
        [⟨(chats es).length + 1, to_string msg.fromUserId, to_string msg.toUserId, str "TEXT",
          msg.content, env.now.toInt⟩] ∧
      h'.posted = h.posted ++ (h.userSessions.lookup msg.toUserId).toList.map fun other =>
        (other, .new env msg.fromUserId msg.toUserId .TEXT (msg.messageId + 1) msg.content)) ∧
    ∀ env session msg, env.SqlSucceeds → msg.messageType = .PULL_MESSAGE →
      ∃ ps, (BusinessHandler.step h (.frame env session msg)).posted = h.posted ++ ps ∧
        ps.Perm ((recentChats es env msg.fromUserId).map fun c =>
          (session, Database.replay env c.1.2.fromUserId c.1.2.toUserId c.2 c.1.2.content)) := by
  intro h
  have hrec : RecordsChats pool_size es h :=
    messages_are_chats hsize (fun e he => (hfine e he).succeeds) hcount
  have hready := ready_of_idle hsize hrec.idle
  refine ⟨?_, ?_⟩
  · intro env session msg henv hcontent hchat h'
    obtain ⟨pool, hstep⟩ : ∃ pool, h' = _ := step_chat hchat henv hready
    rw [hstep]
    refine ⟨?_, rfl⟩
    show h.db.tables.messages.rows ++ [MessageRow.new env msg (h.db.tables.messages.last + 1)] = _
    rw [hrec.last, MessageRow.new, cstr_of_noNul hcontent]
    rfl
  · intro env session msg henv hty
    obtain ⟨pool, cs, hcs, hstep⟩ : ∃ (pool : List Conn) (cs : List ((Env × Message) × Nat)),
        cs.Perm _ ∧ BusinessHandler.step h (.frame env session msg) = _ :=
      hrec.pull hsize hcount hty henv
    refine ⟨_, by rw [hstep]; rfl, ?_⟩
    refine (hcs.map _).trans (List.Perm.of_eq (List.map_congr_left fun c hc => ?_))
    -- without a NUL the content comes back whole
    obtain ⟨session', he, hchat⟩ := mem_chats
      (List.fst_mem_of_mem_zipIdx (List.mem_filter.mp hc).1)
    rw [cstr_of_noNul ((hfine _ he).2 hchat)]

end Runs

/-- User 1 writes to user 2, who is not logged in, and reads the message back. -/
theorem history_is_exact_pull :
    letI := OpenSSL.zero
    let h := exec BusinessHandler.step (start .empty 1) [.frame .plain 0 (chatFrame (str "hi"))]
    ∃ ps, (BusinessHandler.step h (.frame .plain 0 pullFrame)).posted = h.posted ++ ps ∧
      ps.Perm [(0, ⟨1, 2, .TEXT, 1, str "hi", 0⟩)] := by
  let _ := OpenSSL.zero
  have hfine : ∀ e ∈ [Event.frame .plain 0 (chatFrame (str "hi"))], e.Fine := by
    intro e he
    rw [List.mem_singleton.mp he]
    exact ⟨Env.plain_sqlSucceeds, fun _ => by decide⟩
  obtain ⟨-, hpull⟩ := history_is_exact 1 (Nat.le_refl 1) _ hfine (by decide)
  exact hpull .plain 0 pullFrame Env.plain_sqlSucceeds rfl

end BusinessHandler

end TinyIM
