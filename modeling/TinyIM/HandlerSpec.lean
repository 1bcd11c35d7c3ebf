/-
# HandlerSpec — everything a frame can do

`Did env session msg h h'` lists what handling one frame can have done to the state, with one
constructor for each kind of effect, its guard and its exact result. It covers every outcome of the
SQLite calls and every way a handler can end; the pool of connections is left open, its losses are
another module's subject. `handleIncomingMessage_did` is the one place where the handlers are taken
apart for arbitrary outcomes: the invariants and the properties of single frames are derived from the
cases of `Did`.

An exception leaves no effect behind. That needs one fact about the stored data: the names of users
are well-formed UTF-8, so the reply of a successful login, which is written after the registry is
changed, can always be serialised.
-/
import TinyIM.DatabaseSpec

namespace TinyIM

open TinyIM.Lib TinyIM.Lib.Text TinyIM.Lib.Table TinyIM.Lib.Stops

namespace BusinessHandler

/-! ## The updates of the state -/

/-- Other tables and another pool. -/
def withDb (h : BusinessHandler) (tables : Tables) (pool : List Conn) : BusinessHandler :=
  { h with db := ⟨tables, pool⟩ }

/-- More messages posted. -/
def post (h : BusinessHandler) (ps : List (SessionId × Message)) : BusinessHandler :=
  { h with posted := h.posted ++ ps }

/-- Another registry. -/
def register (h : BusinessHandler) (userSessions : Registry) : BusinessHandler :=
  { h with userSessions := userSessions }

section Fields

variable (h : BusinessHandler) (tables : Tables) (pool : List Conn)
  (ps : List (SessionId × Message)) (registry : Registry)

@[simp] theorem withDb_db : (h.withDb tables pool).db = ⟨tables, pool⟩ := rfl
@[simp] theorem withDb_userSessions : (h.withDb tables pool).userSessions = h.userSessions := rfl
@[simp] theorem withDb_posted : (h.withDb tables pool).posted = h.posted := rfl
@[simp] theorem withDb_closing : (h.withDb tables pool).closing = h.closing := rfl
@[simp] theorem post_db : (h.post ps).db = h.db := rfl
@[simp] theorem post_userSessions : (h.post ps).userSessions = h.userSessions := rfl
@[simp] theorem post_posted : (h.post ps).posted = h.posted ++ ps := rfl
@[simp] theorem post_closing : (h.post ps).closing = h.closing := rfl
@[simp] theorem register_db : (h.register registry).db = h.db := rfl
@[simp] theorem register_userSessions : (h.register registry).userSessions = registry := rfl
@[simp] theorem register_posted : (h.register registry).posted = h.posted := rfl
@[simp] theorem register_closing : (h.register registry).closing = h.closing := rfl

theorem post_nil : h.post [] = h := by
  obtain ⟨db, userSessions, posted, closing⟩ := h
  simp only [post, List.append_nil]

theorem post_post (ps' : List (SessionId × Message)) :
    (h.post ps).post ps' = h.post (ps ++ ps') := by
  simp only [post, List.append_assoc]

end Fields

/-! ## Rules for the steps of a handler -/

section Rules

variable {α : Type} {h : BusinessHandler} {E : Stop → BusinessHandler → Prop}

@[simp] theorem ends_callDb {x : DbM α} {Q : α → BusinessHandler → Prop} :
    Ends (callDb x) h Q E ↔
      Ends x h.db (fun a db => Q a { h with db := db }) fun e db => E e { h with db := db } := by
  unfold Ends callDb
  cases x h.db with
  | ok a db => rfl
  | error e db => rfl

@[simp] theorem ends_orThrow {x : Except Exn α} {Q : α → BusinessHandler → Prop} :
    Ends (orThrow x) h Q E ↔ (∀ a, x = .ok a → Q a h) ∧ ∀ e, x = .error e → E (.exn e) h := by
  cases x with
  | ok a => simp [Ends, orThrow]
  | error e => simp [Ends, orThrow]

theorem ends_orThrow_ok {x : Except Exn α} {a : α} {Q : α → BusinessHandler → Prop}
    (hx : x = .ok a) : Ends (orThrow x) h Q E ↔ Q a h := by
  rw [hx]
  exact Iff.rfl

@[simp] theorem ends_findSession {userId : Int32} {Q : Option SessionId → BusinessHandler → Prop} :
    Ends (findSession userId) h Q E ↔ Q (h.userSessions.lookup userId) h := Iff.rfl

@[simp] theorem ends_send {session : SessionId} {msg : Message} {Q : Unit → BusinessHandler → Prop} :
    Ends (Session.send session msg) h Q E ↔ Q () (h.post [(session, msg)]) := Iff.rfl

@[simp] theorem ends_close {session : SessionId} {Q : Unit → BusinessHandler → Prop} :
    Ends (Session.close session) h Q E ↔ Q () { h with closing := h.closing ++ [session] } := Iff.rfl

/-- A loop that sends one message for each element posts them in order. -/
theorem ends_forM_send {β : Type} (f : β → Option (SessionId × Message)) (body : β → HandlerM Unit)
    (hbody : ∀ b h (Q : Unit → BusinessHandler → Prop) E,
      Ends (body b) h Q E ↔ Q () (h.post (f b).toList)) (l : List β)
    {Q : Unit → BusinessHandler → Prop} (hQ : Q () (h.post (l.filterMap f))) :
    Ends (l.forM body) h Q E := by
  have hloop := ends_forM (f := body) (E := E)
    (I := fun rest h' => h'.post (rest.filterMap f) = h.post (l.filterMap f)) (by
      intro b rest h' hI
      rw [hbody, post_post, ← hI]
      congr 1
      cases hb : f b with
      | none => rw [List.filterMap_cons_none hb]; rfl
      | some p => rw [List.filterMap_cons_some hb]; rfl) l h rfl
  refine hloop.mono ?_ fun _ _ he => he
  intro _ h' hI
  rw [List.filterMap_nil, post_nil] at hI
  rw [hI]
  exact hQ

end Rules

/-! ## The effects of a frame -/

/-- The fields a sign-up frame asks for. -/
def SignsUp (content password username : Bytes) : Prop :=
  ∃ j, parseJson content = .ok j ∧ (member j "password" >>= asString) = .ok password ∧
    (member j "username" >>= asString) = .ok username

/-- **`Did`** — what handling a frame can have done. -/
inductive Did [OpenSSL] (env : Env) (session : SessionId) (msg : Message) (h : BusinessHandler) :
    BusinessHandler → Prop
  /-- Nothing. -/
  | idle (pool : List Conn) (hty : msg.messageType ≠ .LOGOUT ∧ msg.messageType ≠ .GROUP_CHAT) :
      Did env session msg h (h.withDb h.db.tables pool)
  /-- A user was inserted and the id sent back. -/
  | signedUp (pool : List Conn) (hty : msg.messageType = .SIGN_UP) {password username : Bytes}
      (hfields : SignsUp msg.content password username) {t : Tables}
      (hnew : h.db.tables.registered (.new env password username) = some t) :
      Did env session msg h ((h.withDb t pool).post
        [(session, .new env (-1) (-1) .SIGN_UP_RESPONSE (env.junk + 1) (Database.generateUUID env))])
  /-- A login was refused. -/
  | refused (pool : List Conn) (hty : msg.messageType = .LOGIN) {reason : String} {content : Bytes}
      (hreason : reason = "repeated login" ∧ (h.userSessions.lookup msg.fromUserId).isSome ∨
        reason = "authenticate fail")
      (hcontent : dumpJson (loginFail reason) = .ok content) :
      Did env session msg h ((h.withDb h.db.tables pool).post
        [(session, .new env msg.fromUserId 0 .LOGIN_RESPONSE (env.junk + 1) content)])
  /-- A login succeeded. -/
  | loggedIn (pool : List Conn) (hty : msg.messageType = .LOGIN)
      (hfree : h.userSessions.lookup msg.fromUserId = none) {r : UserRow}
      (hr : r ∈ h.db.tables.users.rows) (hauth : Database.Authenticates msg.fromUserId msg.content r)
      {content : Bytes} (hcontent : dumpJson (loginSuccess (cstr r.username)) = .ok content) :
      Did env session msg h (((h.withDb h.db.tables pool).register
        (h.userSessions.insert msg.fromUserId session)).post
          [(session, .new env msg.fromUserId 0 .LOGIN_RESPONSE (env.junk + 1) content)])
  /-- A user was logged out, and the session is being closed. -/
  | loggedOut (hty : msg.messageType = .LOGOUT) :
      Did env session msg h { h with
        userSessions := h.userSessions.erase msg.fromUserId
        closing := h.closing ++ [session] }
  /-- A friend request was stored, up to the inserts that failed, and the friend notified. -/
  | requested (pool : List Conn) (hty : msg.messageType = .ADD_FRIEND)
      (hne : msg.fromUserId ≠ msg.toUserId) {t₁ t₂ : Tables}
      (h₁ : t₁ = h.db.tables ∨ t₁ = h.db.tables.requested msg.fromUserId msg.toUserId)
      (h₂ : t₂ = t₁ ∨ t₂ = t₁.requested msg.toUserId msg.fromUserId)
      {ps : List (SessionId × Message)}
      (hps : ps = [] ∨ ∃ other, h.userSessions.lookup msg.toUserId = some other ∧
        ∃ r ∈ h.db.tables.users.rows, r.user_id = to_string msg.fromUserId ∧
          ps = [(other, .new env msg.fromUserId msg.toUserId .FRIEND_REQUEST (env.junk + 1)
            (cstr r.username))]) :
      Did env session msg h ((h.withDb t₂ pool).post ps)
  /-- A friend request was rejected. -/
  | rejected (pool : List Conn) (hty : msg.messageType = .FRIEND_REQUEST_RESPONSE)
      (hcontent : msg.content = str "reject") :
      Did env session msg h (h.withDb (h.db.tables.rejected msg.toUserId msg.fromUserId) pool)
  /-- A friend request was accepted. -/
  | accepted (pool : List Conn) (hty : msg.messageType = .FRIEND_REQUEST_RESPONSE)
      (hcontent : msg.content = str "accept") :
      Did env session msg h (h.withDb (h.db.tables.accepted msg.toUserId msg.fromUserId) pool)
  /-- A chat message was stored, unless the insert failed, and relayed to the recipient. -/
  | chatted (pool : List Conn) (hty : msg.messageType = .TEXT ∨ msg.messageType = .PRIVATE_CHAT)
      {t : Tables} (ht : t = h.db.tables ∨ t = h.db.tables.stored env msg) :
      Did env session msg h ((h.withDb t pool).post
        ((h.userSessions.lookup msg.toUserId).toList.map fun other =>
          (other, .new env msg.fromUserId msg.toUserId .TEXT (msg.messageId + 1) msg.content)))
  /-- A group message was relayed to the other sessions of registered users. -/
  | broadcast (hty : msg.messageType = .GROUP_CHAT) :
      Did env session msg h (h.post
        (((reorder env.visit h.userSessions.entries).filter fun it => it.2 ≠ session).map fun it =>
          (it.2, .new env msg.fromUserId msg.toUserId .GROUP_CHAT msg.toUserId msg.content)))
  /-- A friend list was sent. -/
  | listed (pool : List Conn) (hty : msg.messageType = .FRIEND_LIST)
      {friendsList : List (Json Bytes Empty)} {content : Bytes}
      (hcontent : dumpJson (.array friendsList) = .ok content) :
      Did env session msg h ((h.withDb h.db.tables pool).post
        [(session, .new env msg.fromUserId msg.toUserId .FRIEND_LIST (msg.messageId + 1) content)])
  /-- Stored messages were sent. -/
  | pulled (pool : List Conn) (hty : msg.messageType = .PULL_MESSAGE) {ms : List Message}
      (hms : ∀ m ∈ ms, ∃ r ∈ Database.recentRows env (to_string msg.fromUserId) 1 h.db.tables,
        Database.messageOfRow env r = .ok m) :
      Did env session msg h ((h.withDb h.db.tables pool).post (ms.map fun m => (session, m)))

/-- How a frame can be stopped: an exception leaves nothing behind, and a wait leaves an effect that
was complete before it. -/
def Stopped [OpenSSL] (env : Env) (session : SessionId) (msg : Message) (h : BusinessHandler)
    (e : Stop) (h' : BusinessHandler) : Prop :=
  Did env session msg h h' ∧ ∀ x, e = .exn x → ∃ pool, h' = h.withDb h.db.tables pool

/-- The frame does one of the things it can do, however it ends. -/
def Does [OpenSSL] (env : Env) (session : SessionId) (msg : Message) (h : BusinessHandler)
    (x : HandlerM Unit) : Prop :=
  Ends x h (fun _ h' => Did env session msg h h') (Stopped env session msg h)

/-! ## The replies of a login -/

theorem loginSuccess_eq (username : Bytes) : loginSuccess username = .object
    [(str "status", .string (str "success")), (str "username", .string username)] := by
  have hne : str "username" ≠ str "status" := by decide
  have hlt : ¬str "username" < str "status" := by decide
  simp only [loginSuccess, Json.mkObject, List.foldl_cons, List.foldl_nil, Json.setMember,
    if_neg hne, if_neg hlt]

theorem loginFail_eq (reason : String) : loginFail reason = .object
    [(str "reason", .string (str reason)), (str "status", .string (str "fail")),
      (str "username", .string (str " "))] := by
  have hne : str "username" ≠ str "status" := by decide
  have hlt : ¬str "username" < str "status" := by decide
  have hne' : str "reason" ≠ str "status" := by decide
  have hlt' : str "reason" < str "status" := by decide
  simp only [loginFail, Json.mkObject, List.foldl_cons, List.foldl_nil, Json.setMember,
    if_neg hne, if_neg hlt, if_neg hne', if_pos hlt']

/-- **`loginFail_ne_loginSuccess`** — no content reports both a failure and a success. -/
theorem loginFail_ne_loginSuccess {reason : String} {username content : Bytes}
    (hfail : dumpJson (loginFail reason) = .ok content) :
    dumpJson (loginSuccess username) ≠ .ok content := by
  intro hsuccess
  rw [dumpJson_eq_ok] at hfail hsuccess
  obtain ⟨t, ht, -⟩ := Option.map_eq_some_iff.mp hfail
  have ht' := (Json.text_eq_of_dump_eq hfail hsuccess).symm.trans ht
  rw [loginFail_eq] at ht
  rw [loginSuccess_eq] at ht'
  obtain ⟨n, rest, hn, rfl⟩ := Json.exists_of_text_object ht
  obtain ⟨n', rest', hn', heq⟩ := Json.exists_of_text_object ht'
  -- the first member is "reason" in the one and "status" in the other
  have hreason : Json.quote (str "reason") = some "\"reason\"".toList := by decide
  have hstatus : Json.quote (str "status") = some "\"status\"".toList := by decide
  rw [hreason] at hn
  rw [hstatus] at hn'
  rw [← Option.some.inj hn, ← Option.some.inj hn'] at heq
  have hthird := congrArg (fun t : List Char => t[2]?) heq
  exact absurd hthird (by simp)

/-- The reply to a refused login can be written. -/
theorem exists_loginFail (reason : String) : ∃ content, dumpJson (loginFail reason) = .ok content := by
  refine exists_dumpJson (Json.wellFormed_mkObject ?_)
  intro m hm
  simp only [List.mem_cons, List.not_mem_nil, or_false] at hm
  rcases hm with rfl | rfl | rfl <;> exact ⟨validUtf8_utf8 _, validUtf8_utf8 _⟩

/-- The reply to a successful login can be written if the name is well-formed. -/
theorem exists_loginSuccess {username : Bytes} (h : ValidUtf8 username) :
    ∃ content, dumpJson (loginSuccess username) = .ok content := by
  refine exists_dumpJson (Json.wellFormed_mkObject ?_)
  intro m hm
  simp only [List.mem_cons, List.not_mem_nil, or_false] at hm
  rcases hm with rfl | rfl
  · exact ⟨validUtf8_utf8 _, validUtf8_utf8 _⟩
  · exact ⟨validUtf8_utf8 _, h⟩

theorem erase_of_lookup_none {registry : Registry} {userId : Int32}
    (h : registry.lookup userId = none) : registry.erase userId = registry := by
  refine AList.ext ?_
  exact List.kerase_of_notMem_keys (AList.lookup_eq_none.mp h)

section Handlers

variable [OpenSSL] {env : Env} {session : SessionId} {msg : Message} {h : BusinessHandler}

theorem handle_sign_up (hty : msg.messageType = .SIGN_UP) :
    handleIncomingMessage env session msg = signUp env msg session := by
  unfold handleIncomingMessage
  rw [hty]

theorem handle_login (hty : msg.messageType = .LOGIN) :
    handleIncomingMessage env session msg = loginUser env msg session := by
  unfold handleIncomingMessage
  rw [hty]

theorem handle_chat (hty : msg.messageType = .TEXT ∨ msg.messageType = .PRIVATE_CHAT) :
    handleIncomingMessage env session msg = sendMessageToUser env msg := by
  unfold handleIncomingMessage
  rcases hty with hty | hty
  · rw [hty]
  · rw [hty]

theorem handle_friend_list (hty : msg.messageType = .FRIEND_LIST) :
    handleIncomingMessage env session msg = sendFriendList env msg session := by
  unfold handleIncomingMessage
  rw [hty]

theorem handle_pull (hty : msg.messageType = .PULL_MESSAGE) :
    handleIncomingMessage env session msg = pushMessage env msg session := by
  unfold handleIncomingMessage
  rw [hty]

theorem did_self (hidle : msg.messageType ≠ .LOGOUT ∧ msg.messageType ≠ .GROUP_CHAT) :
    Did env session msg h h := .idle h.db.connection_pool hidle

theorem stopped_idle (hidle : msg.messageType ≠ .LOGOUT ∧ msg.messageType ≠ .GROUP_CHAT) (e : Stop)
    (pool : List Conn) : Stopped env session msg h e (h.withDb h.db.tables pool) :=
  ⟨.idle pool hidle, fun _ _ => ⟨pool, rfl⟩⟩

theorem stopped_self (hidle : msg.messageType ≠ .LOGOUT ∧ msg.messageType ≠ .GROUP_CHAT) (e : Stop) :
    Stopped env session msg h e h := stopped_idle hidle e h.db.connection_pool

theorem stopped_wait {h' : BusinessHandler} (hdid : Did env session msg h h') :
    Stopped env session msg h .wait h' := ⟨hdid, fun _ he => by cases he⟩

theorem signUp_does (hty : msg.messageType = .SIGN_UP) :
    Does env session msg h (signUp env msg session) := by
  have hidle : msg.messageType ≠ .LOGOUT ∧ msg.messageType ≠ .GROUP_CHAT := by simp [hty]
  unfold Does signUp
  simp only [ends_bind, ends_orThrow, ends_callDb]
  refine ⟨?_, fun e _ => stopped_self hidle _⟩
  intro j hj
  refine ⟨?_, fun e _ => stopped_self hidle _⟩
  intro password hpassword
  refine ⟨?_, fun e _ => stopped_self hidle _⟩
  intro username husername
  refine Database.ends_registerUser_any (stopped_self hidle _) (fun pool => .idle pool hidle) ?_
  intro t pool hnew
  exact .signedUp pool hty ⟨j, hj, hpassword, husername⟩ hnew

theorem loginUser_does (hnames : ∀ r ∈ h.db.tables.users.rows, ValidUtf8 r.username)
    (hty : msg.messageType = .LOGIN) : Does env session msg h (loginUser env msg session) := by
  have hidle : msg.messageType ≠ .LOGOUT ∧ msg.messageType ≠ .GROUP_CHAT := by simp [hty]
  unfold Does loginUser
  simp only [ends_bind, ends_callDb]
  have hrefused : ∀ (reason : String) (pool : List Conn),
      (reason = "repeated login" ∧ (h.userSessions.lookup msg.fromUserId).isSome ∨
        reason = "authenticate fail") →
      Ends (do
        let content ← orThrow (dumpJson (loginFail reason))
        Session.send session
          (.new env msg.fromUserId 0 .LOGIN_RESPONSE (env.junk + 1) content) : HandlerM Unit)
        (h.withDb h.db.tables pool) (fun _ h' => Did env session msg h h')
        (Stopped env session msg h) := by
    intro reason pool hreason
    simp only [ends_bind, ends_orThrow]
    refine ⟨?_, fun e _ => stopped_idle hidle _ pool⟩
    intro content hcontent
    exact .refused pool hty hreason hcontent
  refine Database.ends_authenticateUser_any (stopped_self hidle _) ?_ ?_
  · intro pool
    exact hrefused "authenticate fail" pool (Or.inr rfl)
  · intro r pool hr hauth
    simp only [ends_bind, ends_findSession, ends_ite]
    refine ⟨?_, ?_⟩
    · intro hsome
      exact hrefused "repeated login" pool (Or.inl ⟨rfl, hsome⟩)
    · intro hnone
      have hfree := Option.not_isSome_iff_eq_none.mp hnone
      -- the reply is written after the registry has changed
      obtain ⟨content, hcontent⟩ := exists_loginSuccess (validUtf8_cstr (hnames r hr))
      simp only [ends_modify, ends_orThrow, hcontent]
      refine ⟨?_, fun e he => by cases he⟩
      intro c hc
      rw [← Except.ok.inj hc]
      exact .loggedIn pool hty hfree hr hauth hcontent

theorem logoutUser_does (hty : msg.messageType = .LOGOUT) :
    Does env session msg h (logoutUser msg.fromUserId session) := by
  unfold Does logoutUser
  simp only [ends_bind, ends_findSession, ends_ite, ends_modify, ends_close]
  refine ⟨fun _ => .loggedOut hty, ?_⟩
  intro hnone
  have hdid : Did env session msg h _ := .loggedOut hty
  rw [erase_of_lookup_none (Option.not_isSome_iff_eq_none.mp hnone)] at hdid
  exact hdid

theorem sendMessageToUser_does (hty : msg.messageType = .TEXT ∨ msg.messageType = .PRIVATE_CHAT) :
    Does env session msg h (sendMessageToUser env msg) := by
  have hidle : msg.messageType ≠ .LOGOUT ∧ msg.messageType ≠ .GROUP_CHAT := by
    rcases hty with hty | hty <;> simp [hty]
  unfold Does sendMessageToUser
  simp only [ends_bind, ends_findSession, ends_callDb]
  have hdid : ∀ (t : Tables) (pool : List Conn),
      t = h.db.tables ∨ t = h.db.tables.stored env msg → Did env session msg h _ :=
    fun t pool ht => .chatted pool hty ht
  cases hto : h.userSessions.lookup msg.toUserId with
  | none =>
      simp only [hto, Option.toList_none, List.map_nil, post_nil] at hdid
      exact Database.ends_storeMessage_any (stopped_self hidle _)
        (fun pool => hdid _ pool (Or.inl rfl)) fun pool => hdid _ pool (Or.inr rfl)
  | some other =>
      simp only [hto] at hdid
      exact Database.ends_storeMessage_any (stopped_self hidle _)
        (fun pool => hdid _ pool (Or.inl rfl)) fun pool => hdid _ pool (Or.inr rfl)

theorem addFriend_does (hty : msg.messageType = .ADD_FRIEND) :
    Does env session msg h (addFriend env msg) := by
  have hidle : msg.messageType ≠ .LOGOUT ∧ msg.messageType ≠ .GROUP_CHAT := by simp [hty]
  unfold Does addFriend
  simp only [ends_ite]
  refine ⟨fun _ => did_self hidle, ?_⟩
  intro hne
  simp only [ends_bind, ends_callDb]
  refine Database.ends_addFriend_any (stopped_self hidle _) ?_
  intro success t₁ t₂ pool h₁ h₂
  have hquiet : ∀ pool, Did env session msg h (h.withDb t₂ pool) := by
    intro pool
    have hdid : Did env session msg h _ := .requested pool hty hne h₁ h₂ (Or.inl rfl)
    rw [post_nil] at hdid
    exact hdid
  rw [ends_ite]
  refine ⟨fun _ => ?_, fun _ => hquiet pool⟩
  simp only [ends_bind, ends_callDb]
  refine Database.ends_getUserNameById_any (stopped_wait (hquiet pool)) (fun pool => hquiet pool) ?_
  intro r pool hr hid
  simp only [ends_bind, ends_findSession]
  cases hto : h.userSessions.lookup msg.toUserId with
  | none => exact hquiet pool
  | some other =>
      have hrow : r ∈ h.db.tables.users.rows := by
        rcases h₁ with rfl | rfl <;> rcases h₂ with rfl | rfl <;> exact hr
      exact .requested pool hty hne h₁ h₂ (Or.inr ⟨other, hto, r, hrow, hid, rfl⟩)

theorem ackAddFriend_does (hty : msg.messageType = .FRIEND_REQUEST_RESPONSE) :
    Does env session msg h (ackAddFriend env msg) := by
  have hidle : msg.messageType ≠ .LOGOUT ∧ msg.messageType ≠ .GROUP_CHAT := by simp [hty]
  unfold Does ackAddFriend
  simp only [ends_ite, ends_bind, ends_callDb, ends_pure]
  refine ⟨?_, fun _ => ⟨?_, fun _ => did_self hidle⟩⟩
  · intro hcontent
    exact Database.ends_removeFriend_any (stopped_self hidle _) (fun pool => .idle pool hidle)
      fun pool => .rejected pool hty hcontent
  · intro hcontent
    exact Database.ends_ackAddFriend_any (stopped_self hidle _) (fun pool => .idle pool hidle)
      fun pool => .accepted pool hty hcontent

theorem sendGroupMessage_does (hty : msg.messageType = .GROUP_CHAT) :
    Does env session msg h
      (sendGroupMessage env msg.fromUserId msg.toUserId msg.content session) := by
  unfold Does sendGroupMessage
  simp only [ends_bind, ends_get]
  refine ends_forM_send (fun it => if it.2 ≠ session then some (it.2,
    .new env msg.fromUserId msg.toUserId .GROUP_CHAT msg.toUserId msg.content) else none) _ ?_ _ ?_
  · intro it h' Q E
    by_cases hit : it.2 ≠ session
    · rw [if_pos hit, if_pos hit]
      exact Iff.rfl
    · rw [if_neg hit, if_neg hit, Option.toList_none, post_nil]
      exact Iff.rfl
  · have hdid : Did env session msg h _ := .broadcast hty
    rw [← List.filterMap_eq_map, List.filterMap_filter] at hdid
    simpa only [decide_eq_true_eq, Function.comp_apply] using hdid

theorem sendFriendList_does (hty : msg.messageType = .FRIEND_LIST) :
    Does env session msg h (sendFriendList env msg session) := by
  have hidle : msg.messageType ≠ .LOGOUT ∧ msg.messageType ≠ .GROUP_CHAT := by simp [hty]
  unfold Does sendFriendList
  simp only [ends_bind, ends_callDb, ends_orThrow]
  refine Database.ends_getFriendPair_any (fun pool => stopped_idle hidle _ pool) ?_
  intro pairs pool
  refine ⟨?_, fun e _ => stopped_idle hidle _ pool⟩
  intro friendsList _
  refine ⟨?_, fun e _ => stopped_idle hidle _ pool⟩
  intro content hcontent
  exact .listed pool hty hcontent

theorem pushMessage_does (hty : msg.messageType = .PULL_MESSAGE) :
    Does env session msg h (pushMessage env msg session) := by
  have hidle : msg.messageType ≠ .LOGOUT ∧ msg.messageType ≠ .GROUP_CHAT := by simp [hty]
  unfold Does pushMessage
  simp only [ends_bind, ends_callDb]
  refine Database.ends_getRecentMessages_any (stopped_self hidle _) ?_
    fun e pool => stopped_idle hidle _ pool
  intro ms pool hms
  refine ends_forM_send (fun m => some (session, m)) _ (fun m h' Q E => Iff.rfl) _ ?_
  rw [List.filterMap_eq_map']
  exact .pulled pool hty hms

/-- **`handleIncomingMessage_does`** — whatever the SQLite calls return, a frame does one of the
things `Did` lists, and none of them if an exception leaves the handler. The names matter to a login
only. -/
theorem handleIncomingMessage_does
    (hnames : msg.messageType = .LOGIN → ∀ r ∈ h.db.tables.users.rows, ValidUtf8 r.username) :
    Does env session msg h (handleIncomingMessage env session msg) := by
  unfold handleIncomingMessage
  cases hty : msg.messageType with
  | SIGN_UP => exact signUp_does hty
  | LOGIN => exact loginUser_does (hnames hty) hty
  | LOGOUT => exact logoutUser_does hty
  | TEXT => exact sendMessageToUser_does (Or.inl hty)
  | PRIVATE_CHAT => exact sendMessageToUser_does (Or.inr hty)
  | ADD_FRIEND => exact addFriend_does hty
  | FRIEND_LIST => exact sendFriendList_does hty
  | FRIEND_REQUEST_RESPONSE => exact ackAddFriend_does hty
  | GROUP_CHAT => exact sendGroupMessage_does hty
  | PULL_MESSAGE => exact pushMessage_does hty
  | SIGN_UP_RESPONSE => exact did_self (by simp [hty])
  | LOGIN_RESPONSE => exact did_self (by simp [hty])
  | FRIEND_REQUEST => exact did_self (by simp [hty])

/-- The state a frame leaves. -/
theorem step_did_of
    (hnames : msg.messageType = .LOGIN → ∀ r ∈ h.db.tables.users.rows, ValidUtf8 r.username) :
    Did env session msg h (step h (.frame env session msg)) := by
  have hdoes : Does env session msg h _ := handleIncomingMessage_does hnames
  exact ends_stateOf.mp (hdoes.mono (fun _ _ hdid => hdid) fun _ _ hstop => hstop.1)

theorem step_did (hnames : ∀ r ∈ h.db.tables.users.rows, ValidUtf8 r.username) :
    Did env session msg h (step h (.frame env session msg)) := step_did_of fun _ => hnames

/-- What was posted stays posted. -/
theorem Did.posted {h' : BusinessHandler} (hdid : Did env session msg h h') :
    ∃ ps, h'.posted = h.posted ++ ps := by
  have hnone : ∃ ps, h.posted = h.posted ++ ps := ⟨[], (List.append_nil _).symm⟩
  cases hdid with
  | idle pool hty => exact hnone
  | signedUp pool hty hfields hnew => exact ⟨_, rfl⟩
  | refused pool hty hreason hcontent => exact ⟨_, rfl⟩
  | loggedIn pool hty hfree hr hauth hcontent => exact ⟨_, rfl⟩
  | loggedOut hty => exact hnone
  | requested pool hty hne h₁ h₂ hps => exact ⟨_, rfl⟩
  | rejected pool hty hcontent => exact hnone
  | accepted pool hty hcontent => exact hnone
  | chatted pool hty ht => exact ⟨_, rfl⟩
  | broadcast hty => exact ⟨_, rfl⟩
  | listed pool hty hcontent => exact ⟨_, rfl⟩
  | pulled pool hty hms => exact ⟨_, rfl⟩

end Handlers

end BusinessHandler

end TinyIM
