/-
# Correlation — whether a reply carries the id after that of its frame

Every handler that answers a frame gives the answer the id `msg.getMessageId() + 1`. In `signUp`,
`loginUser` and `addFriend` the answer is itself called `msg`, and the name is in scope in its own
initialiser: the id is read from the answer before it has one. `sendMessageToUser` and
`sendFriendList` give the answer another name, and there the id is that of the frame, as long as it is
not the largest `int`. `correlated_iff` says of every state and every frame when all the answers to it,
whatever the memory held, carry the next id.
-/
import TinyIM.FriendList

namespace TinyIM

open TinyIM.Lib TinyIM.Lib.Text TinyIM.Lib.Table TinyIM.Lib.Runs TinyIM.Lib.Stops

/-! ## The next id -/

theorem toInt_add_one_iff {x : Int32} : (x + 1).toInt = x.toInt + 1 ↔ x ≠ 2147483647 := by
  have hlo := x.le_toInt
  have hhi := x.toInt_lt
  have hsum : (x + 1).toInt = (x.toInt + 1).bmod (2 ^ 32) := Int32.toInt_add x 1
  have hmax : x = 2147483647 ↔ x.toInt = 2147483647 := by
    rw [← Int32.toInt_inj]
    rfl
  -- the sum leaves the range for the largest id only
  rw [hsum, ne_eq, hmax, Int.bmod_def]
  omega

/-- The id after the next one is another one. -/
theorem toInt_add_two_ne (x : Int32) : (x + 1 + 1).toInt ≠ x.toInt + 1 := by
  intro h
  have hlo := x.le_toInt
  have hhi := x.toInt_lt
  have hone : (x + 1).toInt = (x.toInt + 1).bmod (2 ^ 32) := Int32.toInt_add x 1
  have htwo : (x + 1 + 1).toInt = ((x + 1).toInt + 1).bmod (2 ^ 32) := Int32.toInt_add (x + 1) 1
  rw [htwo, hone, Int.bmod_def, Int.bmod_def] at h
  omega

/-- The frame types whose handlers answer with the next id. -/
def MessageType.Answered : MessageType → Prop
  | .SIGN_UP | .LOGIN | .ADD_FRIEND | .TEXT | .PRIVATE_CHAT | .FRIEND_LIST => True
  | _ => False

/-- The handler gives the answer a name of its own. -/
def MessageType.NamesAnswer : MessageType → Prop
  | .TEXT | .PRIVATE_CHAT | .FRIEND_LIST => True
  | _ => False

/-! ## Outcomes that answers are made from -/

theorem Outcome.good_succeeds : Outcome.good.Succeeds := Outcome.ordered_succeeds 0

/-- A cursor that fails at once. -/
def Outcome.failing : Outcome := ⟨true, fun _ => false, 0⟩

theorem handedOut_failing {Row : Type} (rs : List Row) : Database.handedOut .failing rs = [] := by
  show fetch (fun _ => false) 0 (reorder 0 rs) = []
  cases reorder 0 rs with
  | nil => rfl
  | cons r rs => rfl

namespace BusinessHandler

/-! ## What a frame can be answered with -/

section Answers

variable {env : Env} {msg : Message} {h h' : BusinessHandler}

/-- The frame asks for something that the state can answer: an acceptable sign-up while an id is free,
a request from a registered user to another one who is online, a chat with somebody online. -/
def Addressed (h : BusinessHandler) (msg : Message) : Prop :=
  match msg.messageType with
  | .SIGN_UP => (∃ password username, SignsUp msg.content password username) ∧
      ∃ env, ∀ r ∈ h.db.tables.users.rows, r.user_id ≠ Database.generateUUID env
  | .ADD_FRIEND => msg.fromUserId ≠ msg.toUserId ∧
      (∃ r ∈ h.db.tables.users.rows, r.user_id = to_string msg.fromUserId) ∧
      ∃ other, h.userSessions.lookup msg.toUserId = some other
  | .TEXT | .PRIVATE_CHAT => ∃ other, h.userSessions.lookup msg.toUserId = some other
  | _ => True

/-- The frame can be answered: there is a connection, and something to answer. -/
def Answerable (h : BusinessHandler) (msg : Message) : Prop := h.db.Ready ∧ Addressed h msg

/-- The id the answers to a frame carry. -/
def answerId (env : Env) (msg : Message) : Int32 :=
  match msg.messageType with
  | .TEXT | .PRIVATE_CHAT | .FRIEND_LIST => msg.messageId + 1
  | _ => env.junk + 1

/-- What the frame enqueued carries the id of its answers, and it is something only if there was
something to answer. -/
def Answers (env : Env) (msg : Message) (h h' : BusinessHandler) : Prop :=
  ∃ ps, h'.posted = h.posted ++ ps ∧
    ∀ p ∈ ps, p.2.messageId = answerId env msg ∧ Addressed h msg

theorem answers_nil (hposted : h'.posted = h.posted) : Answers env msg h h' :=
  ⟨[], by rw [hposted, List.append_nil], fun p hp => absurd hp List.not_mem_nil⟩

theorem answers_one {p : SessionId × Message} (hposted : h'.posted = h.posted ++ [p])
    (hid : p.2.messageId = answerId env msg) (haddressed : Addressed h msg) :
    Answers env msg h h' := by
  refine ⟨[p], hposted, ?_⟩
  intro q hq
  rw [List.mem_singleton.mp hq]
  exact ⟨hid, haddressed⟩

theorem answerId_eq_junk (hty : msg.messageType = .SIGN_UP ∨ msg.messageType = .LOGIN ∨
    msg.messageType = .ADD_FRIEND) : answerId env msg = env.junk + 1 := by
  unfold answerId
  rcases hty with hty | hty | hty <;> rw [hty]

theorem answerId_eq_next (hty : msg.messageType.NamesAnswer) :
    answerId env msg = msg.messageId + 1 := by
  unfold answerId
  revert hty
  cases msg.messageType <;> simp [MessageType.NamesAnswer]

theorem addressed_always (hty : msg.messageType = .LOGIN ∨ msg.messageType = .FRIEND_LIST) :
    Addressed h msg := by
  unfold Addressed
  rcases hty with hty | hty <;> rw [hty] <;> trivial

theorem addressed_chat (hty : msg.messageType = .TEXT ∨ msg.messageType = .PRIVATE_CHAT) :
    Addressed h msg ↔ ∃ other, h.userSessions.lookup msg.toUserId = some other := by
  unfold Addressed
  rcases hty with hty | hty <;> rw [hty]

end Answers

/-! ## Everything a frame enqueues -/

section Replies

variable [OpenSSL] {env : Env} {session : SessionId} {msg : Message} {h h' : BusinessHandler}

/-- Anything but a login: read off the list of effects. -/
theorem Did.answers (hdid : Did env session msg h h') (hty : msg.messageType.Answered) :
    Answers env msg h h' := by
  have hnot : ∀ {t : MessageType}, msg.messageType = t → ¬t.Answered → Answers env msg h h' := by
    intro t ht hnot
    rw [ht] at hty
    exact absurd hty hnot
  cases hdid with
  | idle pool _ => exact answers_nil rfl
  | @signedUp pool hty password username hfields t hnew =>
      refine answers_one rfl (answerId_eq_junk (Or.inl hty)).symm ?_
      rw [Addressed, hty]
      obtain ⟨users, hins, rfl⟩ := Option.map_eq_some_iff.mp hnew
      refine ⟨⟨password, username, hfields⟩, env, ?_⟩
      intro r hr hid
      refine (Keyed.insert_eq_some hins).1 (List.mem_map.mpr ⟨r, hr, ?_⟩)
      rw [hid]
      exact (Database.cstr_generateUUID env).symm
  | refused pool hty =>
      exact answers_one rfl (answerId_eq_junk (Or.inr (Or.inl hty))).symm
        (addressed_always (Or.inl hty))
  | loggedIn pool hty =>
      exact answers_one rfl (answerId_eq_junk (Or.inr (Or.inl hty))).symm
        (addressed_always (Or.inl hty))
  | loggedOut hty => exact hnot hty id
  | @requested pool hty hne t₁ t₂ h₁ h₂ ps hps =>
      rcases hps with rfl | ⟨other, hother, r, hr, hid, rfl⟩
      · exact answers_nil (List.append_nil _)
      · refine answers_one rfl (answerId_eq_junk (Or.inr (Or.inr hty))).symm ?_
        rw [Addressed, hty]
        exact ⟨hne, ⟨r, hr, hid⟩, other, hother⟩
  | rejected pool hty => exact hnot hty id
  | accepted pool hty => exact hnot hty id
  | @chatted pool hty t ht =>
      cases hlookup : h.userSessions.lookup msg.toUserId with
      | none => exact answers_nil (List.append_nil _)
      | some other =>
          have hnames : msg.messageType.NamesAnswer := by
            rcases hty with hty | hty <;> rw [hty] <;> trivial
          exact answers_one rfl (answerId_eq_next hnames).symm
            ((addressed_chat hty).mpr ⟨other, hlookup⟩)
  | broadcast hty => exact hnot hty id
  | listed pool hty =>
      have hnames : msg.messageType.NamesAnswer := by
        rw [hty]
        trivial
      exact answers_one rfl (answerId_eq_next hnames).symm (addressed_always (Or.inr hty))
  | pulled pool hty => exact hnot hty id

/-- A login, in a state with any names: each of its replies reads the id of the reply. -/
theorem loginUser_answers (hty : msg.messageType = .LOGIN) :
    Ends (loginUser env msg session) h (fun _ h' => Answers env msg h h')
      fun _ h' => Answers env msg h h' := by
  have hid : answerId env msg = env.junk + 1 := answerId_eq_junk (Or.inr (Or.inl hty))
  have hreply : ∀ (j : Json Bytes Empty) (h₁ : BusinessHandler), h₁.posted = h.posted →
      Ends (do
        let content ← orThrow (dumpJson j)
        Session.send session
          (.new env msg.fromUserId 0 .LOGIN_RESPONSE (env.junk + 1) content) : HandlerM Unit) h₁
        (fun _ h' => Answers env msg h h') fun _ h' => Answers env msg h h' := by
    intro j h₁ hposted
    rw [ends_bind, ends_orThrow]
    refine ⟨fun content _ => ?_, fun _ _ => answers_nil hposted⟩
    refine answers_one (p := (session, .new env msg.fromUserId 0 .LOGIN_RESPONSE (env.junk + 1)
      content)) ?_ hid.symm (addressed_always (Or.inl hty))
    exact congrArg (· ++ _) hposted
  unfold loginUser
  rw [ends_bind, ends_callDb]
  refine Database.ends_authenticateUser_any (answers_nil rfl) ?_ ?_
  · intro pool
    exact hreply _ _ rfl
  · intro r pool _ _
    dsimp only
    rw [ends_bind, ends_findSession, ends_ite]
    refine ⟨fun _ => hreply _ _ rfl, fun _ => ?_⟩
    rw [ends_bind, ends_modify]
    exact hreply _ _ rfl

theorem step_answers (hty : msg.messageType.Answered) :
    Answers env msg h (step h (.frame env session msg)) := by
  by_cases hlogin : msg.messageType = .LOGIN
  · refine (ends_stateOf (P := Answers env msg h)).mp ?_
    rw [handle_login hlogin]
    exact loginUser_answers hlogin
  · have hdid : Did env session msg h (step h (.frame env session msg)) :=
      step_did_of fun hty => absurd hty hlogin
    exact hdid.answers hty

/-- Without an idle connection every one of these handlers waits before it answers. -/
theorem step_posted_of_not_ready (hready : ¬h.db.Ready) (hty : msg.messageType.Answered) :
    (step h (.frame env session msg)).posted = h.posted := by
  have hpool : h.db.connection_pool = [] := not_not.mp hready
  have hconn : ∀ {Q : Conn → Database → Prop} {E : Stop → Database → Prop}, E .wait h.db →
      Ends Database.getConnection h.db Q E := by
    intro Q E hstop
    unfold Ends Database.getConnection
    rw [hpool]
    exact hstop
  have hchat : Ends (sendMessageToUser env msg) h (fun _ h' => h'.posted = h.posted)
      fun _ h' => h'.posted = h.posted := by
    unfold sendMessageToUser
    rw [ends_bind, ends_findSession, ends_bind, ends_callDb]
    exact Database.ends_withStatement_of_not_ready hready rfl
  refine (ends_stateOf (P := fun h' : BusinessHandler => h'.posted = h.posted)).mp ?_
  unfold handleIncomingMessage
  -- each handler asks for a connection before it enqueues anything
  cases hmsg : msg.messageType <;> rw [hmsg] at hty
  case SIGN_UP =>
    show Ends (signUp env msg session) h _ _
    unfold signUp
    rw [ends_bind, ends_orThrow]
    refine ⟨fun j _ => ?_, fun _ _ => rfl⟩
    rw [ends_bind, ends_orThrow]
    refine ⟨fun password _ => ?_, fun _ _ => rfl⟩
    rw [ends_bind, ends_orThrow]
    refine ⟨fun username _ => ?_, fun _ _ => rfl⟩
    rw [ends_bind, ends_callDb]
    exact Database.ends_withStatement_of_not_ready hready rfl
  case LOGIN =>
    show Ends (loginUser env msg session) h _ _
    unfold loginUser Database.authenticateUser
    rw [ends_bind, ends_callDb, ends_bind]
    exact Database.ends_withStatement_of_not_ready hready rfl
  case ADD_FRIEND =>
    show Ends (addFriend env msg) h _ _
    unfold addFriend Database.addFriend
    rw [ends_ite]
    refine ⟨fun _ => rfl, fun _ => ?_⟩
    rw [ends_bind, ends_callDb, ends_bind]
    exact hconn rfl
  case FRIEND_LIST =>
    show Ends (sendFriendList env msg session) h _ _
    unfold sendFriendList Database.getFriendPair
    rw [ends_bind, ends_callDb, ends_bind]
    exact Database.ends_withStatement_of_not_ready hready rfl
  case TEXT => exact hchat
  case PRIVATE_CHAT => exact hchat
  all_goals exact hty.elim

/-! ## Frames that are answered -/

/-- The surroundings with other outcomes and other memory. -/
def surroundings (env : Env) (o : Outcome) (junk : Int32) : Env :=
  { env with sql := fun _ => o, junk := junk }

/-- The handling of the frame enqueues one message, and the message has this id. -/
def Enqueues (env : Env) (session : SessionId) (msg : Message) (h : BusinessHandler) (id : Int32) :
    Prop :=
  Ends (handleIncomingMessage env session msg) h
    (fun _ h' => ∃ p, h'.posted = h.posted ++ [p] ∧ p.2.messageId = id) fun _ _ => False

theorem signUp_enqueues (hty : msg.messageType = .SIGN_UP) (hready : h.db.Ready)
    {password username : Bytes} (hfields : SignsUp msg.content password username)
    (hfree : ∀ r ∈ h.db.tables.users.rows, r.user_id ≠ Database.generateUUID env) (junk : Int32) :
    Enqueues (surroundings env .good junk) session msg h (junk + 1) := by
  unfold Enqueues handleIncomingMessage
  rw [hty]
  obtain ⟨j, hj, hpassword, husername⟩ := hfields
  obtain ⟨t, hnew⟩ := Tables.exists_registered (t := h.db.tables)
    (r := .new (surroundings env .good junk) password username) fun r hr hid =>
      hfree r hr (hid.trans (Database.cstr_generateUUID env))
  show Ends (signUp (surroundings env .good junk) msg session) h _ _
  unfold signUp
  rw [ends_bind, ends_orThrow_ok hj, ends_bind, ends_orThrow_ok hpassword, ends_bind,
    ends_orThrow_ok husername, ends_bind, ends_callDb]
  exact Database.ends_registerUser_ok Outcome.good_succeeds hready hnew fun pool _ => ⟨_, rfl, rfl⟩

/-- A login whose statement cannot be prepared is refused. -/
theorem loginUser_enqueues (hty : msg.messageType = .LOGIN) (hready : h.db.Ready) (junk : Int32) :
    Enqueues (surroundings env .unprepared junk) session msg h (junk + 1) := by
  unfold Enqueues
  rw [handle_login hty]
  unfold loginUser Database.authenticateUser Database.reading
  rw [ends_bind, ends_callDb, ends_bind, Database.ends_withStatement]
  refine ⟨fun hempty => hready hempty, fun conn rest _ => ⟨fun _ => ?_, fun hprepare => ?_⟩⟩
  · obtain ⟨content, hcontent⟩ := exists_loginFail "authenticate fail"
    show Ends (pure none : DbM (Option Bytes)) _ _ _
    rw [ends_pure]
    show Ends (orThrow (dumpJson (loginFail "authenticate fail")) >>= _) _ _ _
    rw [ends_bind, ends_orThrow_ok hcontent]
    exact ⟨_, rfl, rfl⟩
  · cases hprepare

theorem addFriend_enqueues (hty : msg.messageType = .ADD_FRIEND) (hready : h.db.Ready)
    (hne : msg.fromUserId ≠ msg.toUserId)
    {r : UserRow} (hr : r ∈ h.db.tables.users.rows) (hid : r.user_id = to_string msg.fromUserId)
    {other : SessionId} (hother : h.userSessions.lookup msg.toUserId = some other) (junk : Int32) :
    Enqueues (surroundings env .good junk) session msg h (junk + 1) := by
  unfold Enqueues handleIncomingMessage
  rw [hty]
  show Ends (addFriend (surroundings env .good junk) msg) h _ _
  unfold addFriend
  rw [ends_ite]
  refine ⟨fun hself => absurd hself hne, fun _ => ?_⟩
  rw [ends_bind, ends_callDb]
  refine Database.ends_addFriend_ok Outcome.good_succeeds Outcome.good_succeeds hready ?_
  intro pool hpool
  rw [if_pos rfl, ends_bind, ends_callDb]
  refine Database.ends_reading_ok Outcome.good_succeeds hpool ?_
  intro rows hrows
  refine ⟨_, rfl, ?_⟩
  intro pool' _
  -- the requester has a row, so there is a name
  have hmem : r ∈ rows := by
    rw [hrows.mem_iff, List.mem_filter, decide_eq_true_eq, cstr_to_string]
    exact ⟨hr, hid⟩
  cases rows with
  | nil => cases hmem
  | cons r' rows =>
      show Ends (findSession msg.toUserId >>= _) _ _ _
      rw [ends_bind, ends_findSession]
      dsimp only
      rw [hother]
      exact ⟨_, rfl, rfl⟩

theorem sendMessageToUser_enqueues (hty : msg.messageType = .TEXT ∨ msg.messageType = .PRIVATE_CHAT)
    (hready : h.db.Ready) {other : SessionId}
    (hother : h.userSessions.lookup msg.toUserId = some other) (junk : Int32) :
    Enqueues (surroundings env .good junk) session msg h (msg.messageId + 1) := by
  unfold Enqueues
  rw [handle_chat hty]
  unfold sendMessageToUser
  rw [ends_bind, ends_findSession, ends_bind, ends_callDb]
  refine Database.ends_storeMessage_ok Outcome.good_succeeds hready ?_
  intro pool _
  rw [hother]
  exact ⟨_, rfl, rfl⟩

/-- Two cursors that fail at once leave an empty list, and it is sent. -/
theorem sendFriendList_enqueues (hty : msg.messageType = .FRIEND_LIST) (hready : h.db.Ready)
    (junk : Int32) : Enqueues (surroundings env .failing junk) session msg h
      (msg.messageId + 1) := by
  have hempty : ∀ t, pairUp (Database.friendIds Outcome.failing t msg.fromUserId)
      (Database.friendNames Outcome.failing t msg.fromUserId) = [] := by
    intro t
    rw [Database.friendIds, Database.friendNames, handedOut_failing, handedOut_failing]
    rfl
  unfold Enqueues
  rw [handle_friend_list hty]
  unfold sendFriendList
  rw [ends_bind, ends_callDb]
  refine Database.ends_getFriendPair ?_ ?_
  · rintro pool (hwait | hwait)
    · exact hwait hready
    · cases hwait
  · intro pool
    show Ends (orThrow ((pairUp (Database.friendIds Outcome.failing h.db.tables msg.fromUserId)
      (Database.friendNames Outcome.failing h.db.tables msg.fromUserId)).mapM friendInfo) >>=
        _) _ _ _
    have hcontent : dumpJson (.array []) = .ok (str "[]") := rfl
    rw [hempty, ends_bind, ends_orThrow_ok (List.mapM_nil), ends_bind]
    refine (ends_orThrow_ok hcontent).mpr ?_
    exact ⟨_, rfl, rfl⟩

/-! ## Correlation -/

/-- Every message enqueued while the frame is handled carries the next id. -/
def Correlated (env : Env) (session : SessionId) (msg : Message) (h : BusinessHandler) : Prop :=
  ∀ p ∈ (step h (.frame env session msg)).posted.drop h.posted.length,
    p.2.messageId.toInt = msg.messageId.toInt + 1

/-- A message enqueued with another id is not correlated. -/
theorem Enqueues.not_correlated {id : Int32} (henqueues : Enqueues env session msg h id)
    (hid : id.toInt ≠ msg.messageId.toInt + 1) : ¬Correlated env session msg h := by
  have hends : Ends (handleIncomingMessage env session msg) h
      (fun _ h' => ∃ p, h'.posted = h.posted ++ [p] ∧ p.2.messageId = id)
      fun _ h' => ∃ p, h'.posted = h.posted ++ [p] ∧ p.2.messageId = id :=
    Ends.mono henqueues (fun _ _ h => h) fun _ _ h => h.elim
  obtain ⟨p, hposted, hp⟩ : ∃ p, (step h (.frame env session msg)).posted = h.posted ++ [p] ∧
      p.2.messageId = id :=
    (ends_stateOf (P := fun h' : BusinessHandler => ∃ p, h'.posted = h.posted ++ [p] ∧
      p.2.messageId = id)).mp hends
  intro hcorrelated
  have hone := hcorrelated p (by rw [hposted, List.drop_left]; exact List.mem_singleton_self p)
  rw [hp] at hone
  exact hid hone

/-- A frame that can be answered is answered with another id, unless its handler reads the id of the
frame and there is a next one. -/
theorem exists_not_correlated (hty : msg.messageType.Answered) (hanswerable : Answerable h msg)
    (hid : ¬(msg.messageType.NamesAnswer ∧ msg.messageId ≠ 2147483647)) :
    ∃ env, ∃ session : SessionId, ¬Correlated env session msg h := by
  obtain ⟨hready, haddressed⟩ := hanswerable
  -- the memory holds what makes the reply carry the id after the next one
  have hjunk := toInt_add_two_ne msg.messageId
  have hlast : msg.messageType.NamesAnswer → (msg.messageId + 1).toInt ≠ msg.messageId.toInt + 1 := by
    intro hnames heq
    exact hid ⟨hnames, toInt_add_one_iff.mp heq⟩
  unfold Addressed at haddressed
  cases hmsg : msg.messageType <;> rw [hmsg] at hty haddressed hlast
  case SIGN_UP =>
    obtain ⟨⟨password, username, hfields⟩, env, hfree⟩ := haddressed
    exact ⟨_, 0, (signUp_enqueues hmsg hready hfields hfree _).not_correlated hjunk⟩
  case LOGIN =>
    exact ⟨surroundings .plain _ _, 0, (loginUser_enqueues hmsg hready _).not_correlated hjunk⟩
  case ADD_FRIEND =>
    obtain ⟨hne, ⟨r, hr, hrow⟩, other, hother⟩ := haddressed
    exact ⟨surroundings .plain _ _, 0,
      (addFriend_enqueues hmsg hready hne hr hrow hother _).not_correlated hjunk⟩
  case TEXT =>
    obtain ⟨other, hother⟩ := haddressed
    exact ⟨surroundings .plain _ 0, 0, (sendMessageToUser_enqueues (Or.inl hmsg) hready hother
      0).not_correlated (hlast trivial)⟩
  case PRIVATE_CHAT =>
    obtain ⟨other, hother⟩ := haddressed
    exact ⟨surroundings .plain _ 0, 0, (sendMessageToUser_enqueues (Or.inr hmsg) hready hother
      0).not_correlated (hlast trivial)⟩
  case FRIEND_LIST =>
    exact ⟨surroundings .plain _ 0, 0,
      (sendFriendList_enqueues hmsg hready 0).not_correlated (hlast trivial)⟩
  all_goals exact hty.elim

/-- **`correlated_iff`** — in every state, all that a frame of these types can enqueue, whatever the
memory held and whatever the calls return, carries the next id exactly if the frame cannot be answered,
or its handler gives the answer a name of its own and the id of the frame is not the largest `int`. -/
theorem correlated_iff (h : BusinessHandler) (msg : Message) (hty : msg.messageType.Answered) :
    (∀ env session, Correlated env session msg h) ↔
      ¬Answerable h msg ∨ msg.messageType.NamesAnswer ∧ msg.messageId ≠ 2147483647 := by
  constructor
  · intro hall
    by_contra hnot
    obtain ⟨hanswerable, hid⟩ := not_or.mp hnot
    obtain ⟨env, session, hne⟩ := exists_not_correlated hty (not_not.mp hanswerable) hid
    exact hne (hall env session)
  · intro hcase env session p hp
    have hanswers : Answers env msg h (step h (.frame env session msg)) := step_answers hty
    obtain ⟨ps, hposted, hps⟩ := hanswers
    rw [hposted, List.drop_left] at hp
    obtain ⟨hid, haddressed⟩ := hps p hp
    rcases hcase with hanswerable | ⟨hnames, hmax⟩
    · have hready : ¬h.db.Ready := fun hready => hanswerable ⟨hready, haddressed⟩
      have hquiet : (step h (.frame env session msg)).posted = h.posted :=
        step_posted_of_not_ready hready hty
      rw [hposted, List.append_right_eq_self] at hquiet
      rw [hquiet] at hp
      cases hp
    · rw [hid, answerId_eq_next hnames]
      exact toInt_add_one_iff.mpr hmax

end Replies

/-- A login of nobody, in a fresh server. -/
theorem correlated_iff_login :
    letI := OpenSSL.zero
    ¬∀ env session, Correlated env session loginFrame (start .empty 1) := by
  let _ := OpenSSL.zero
  intro hall
  rcases (correlated_iff (start .empty 1) loginFrame trivial).mp hall with hnot | hnames
  · exact hnot ⟨ready_start (Nat.le_refl 1), trivial⟩
  · exact hnames.1

/-- With 41 in memory the refused login of id 1 is answered with id 42, and a friend list asked for
with the largest id is answered with the smallest one. -/
theorem answered_with_other_ids :
    letI := OpenSSL.zero
    (¬Correlated { Env.plain with junk := 41 } 0 loginFrame (start .empty 1) ∧
      (step (start .empty 1) (.frame { Env.plain with junk := 41 } 0 loginFrame)).posted.map
        (fun p => p.2.messageId) = [42]) ∧
    ¬Correlated .plain 0 ⟨1, 0, .FRIEND_LIST, 2147483647, [], 0⟩ (start .empty 1) := by
  let _ := OpenSSL.zero
  unfold Correlated
  decide +kernel

end BusinessHandler

end TinyIM
