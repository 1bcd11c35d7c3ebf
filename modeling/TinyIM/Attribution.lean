/-
# Attribution — in whose name a frame acts, and whose data it reads

The handlers take the sender of a frame from its `fromUserId` field; which users are logged in on the
session that delivered it is not looked at. So what a frame stores, removes or relays is in the name
of the user it claims to come from, and what it reads is that user's data. The first half proves this
of single frames and, by induction over runs, of everything stored and delivered. The second half is
the two-run statement for the two frame types that read: states that agree on the data of the claimed
user answer alike.
-/
import TinyIM.Invariants

namespace TinyIM

open TinyIM.Lib TinyIM.Lib.Text TinyIM.Lib.Table TinyIM.Lib.Runs TinyIM.Lib.Stops

namespace BusinessHandler

/-! ## Effects in the name of the sender -/

/-- The row is about the two users the frame names. -/
def Between (msg : Message) (r : FriendRow) : Prop :=
  r.key = (to_string msg.fromUserId, to_string msg.toUserId) ∨
    r.key = (to_string msg.toUserId, to_string msg.fromUserId)

/-- A message that the frame posts: to other sessions it carries the sender's id, and what a pull posts
goes to its own session and was read from the messages from and to the sender. -/
def PostsFor (env : Env) (session : SessionId) (msg : Message) (h : BusinessHandler)
    (p : SessionId × Message) : Prop :=
  (p.1 = session ∨ p.2.fromUserId = msg.fromUserId) ∧
    (msg.messageType = .PULL_MESSAGE → p.1 = session ∧
      ∃ r ∈ Database.recentRows env (to_string msg.fromUserId) 1 h.db.tables,
        Database.messageOfRow env r = .ok p.2)

/-- What the frame changed, it changed in the name of its `fromUserId`. -/
structure ActsForSender (env : Env) (session : SessionId) (msg : Message)
    (h h' : BusinessHandler) : Prop where
  /-- At most one chat message was stored, from the sender. -/
  messages : h'.db.tables.messages.rows = h.db.tables.messages.rows ∨
    (msg.messageType = .TEXT ∨ msg.messageType = .PRIVATE_CHAT) ∧
      ∃ id, h'.db.tables.messages.rows = h.db.tables.messages.rows ++ [MessageRow.new env msg id]
  /-- New friend rows are requests or acceptances of the sender. -/
  friends : ∀ r ∈ h'.db.tables.friends.rows, r ∈ h.db.tables.friends.rows ∨ Between msg r ∧
    (msg.messageType = .ADD_FRIEND ∧ r.status = 0 ∨
      (msg.messageType = .FRIEND_REQUEST_RESPONSE ∧ msg.content = str "accept") ∧
        ∃ r' ∈ h.db.tables.friends.rows, r'.key = r.key)
  /-- Only friend rows of the sender are removed or overwritten. -/
  unfriends : ∀ r ∈ h.db.tables.friends.rows, r ∈ h'.db.tables.friends.rows ∨
    msg.messageType = .FRIEND_REQUEST_RESPONSE ∧ Between msg r
  /-- Only the sender is logged in or out. -/
  registry : ∀ u, h'.userSessions.lookup u = h.userSessions.lookup u ∨ u = msg.fromUserId ∧
    (msg.messageType = .LOGOUT ∧ h'.userSessions.lookup u = none ∨
      msg.messageType = .LOGIN ∧ h'.userSessions.lookup u = some session)
  /-- What is sent is the sender's. -/
  posts : ∃ ps, h'.posted = h.posted ++ ps ∧ ∀ p ∈ ps, PostsFor env session msg h p

section Frames

variable {env : Env} {session : SessionId} {msg : Message} {h h' : BusinessHandler}

/-- A frame that only posts, apart from logging its sender in or out. -/
theorem actsForSender_post (hmessages : h'.db.tables.messages = h.db.tables.messages)
    (hfriends : h'.db.tables.friends = h.db.tables.friends)
    (hregistry : ∀ u, h'.userSessions.lookup u = h.userSessions.lookup u ∨ u = msg.fromUserId ∧
      (msg.messageType = .LOGOUT ∧ h'.userSessions.lookup u = none ∨
        msg.messageType = .LOGIN ∧ h'.userSessions.lookup u = some session))
    {ps : List (SessionId × Message)} (hposted : h'.posted = h.posted ++ ps)
    (hps : ∀ p ∈ ps, PostsFor env session msg h p) : ActsForSender env session msg h h' where
  messages := Or.inl (by rw [hmessages])
  friends := fun r hr => Or.inl (hfriends ▸ hr)
  unfriends := fun r hr => Or.inl (hfriends ▸ hr)
  registry := hregistry
  posts := ⟨ps, hposted, hps⟩

theorem between_of_pair {r : FriendRow}
    (hpair : r.user_id = to_string msg.toUserId ∧ r.friend_id = to_string msg.fromUserId ∨
      r.friend_id = to_string msg.toUserId ∧ r.user_id = to_string msg.fromUserId) :
    Between msg r := by
  rcases hpair with ⟨hu, hf⟩ | ⟨hf, hu⟩
  · exact Or.inr (Prod.ext hu hf)
  · exact Or.inl (Prod.ext hu hf)

/-- A reply to the session itself. -/
theorem postsFor_reply {reply : Message} (hty : msg.messageType ≠ .PULL_MESSAGE) :
    ∀ p ∈ [(session, reply)], PostsFor env session msg h p := by
  intro p hp
  rw [List.mem_singleton.mp hp]
  exact ⟨Or.inl rfl, fun hpull => absurd hpull hty⟩

/-- A message to any session with the sender's id. -/
theorem postsFor_relay {p : SessionId × Message} (hty : msg.messageType ≠ .PULL_MESSAGE)
    (hfrom : p.2.fromUserId = msg.fromUserId) : PostsFor env session msg h p :=
  ⟨Or.inr hfrom, fun hpull => absurd hpull hty⟩

/-- Every effect is in the name of the sender. -/
theorem Did.actsForSender [OpenSSL] (hdid : Did env session msg h h') :
    ActsForSender env session msg h h' := by
  have hnone : ∀ p ∈ ([] : List (SessionId × Message)), PostsFor env session msg h p :=
    fun p hp => absurd hp List.not_mem_nil
  cases hdid with
  | idle pool hty =>
      exact actsForSender_post rfl rfl (fun _ => Or.inl rfl) (List.append_nil _).symm hnone
  | signedUp pool hty hfields hnew =>
      obtain ⟨users, -, rfl⟩ := Option.map_eq_some_iff.mp hnew
      exact actsForSender_post rfl rfl (fun _ => Or.inl rfl) rfl (postsFor_reply (by simp [hty]))
  | refused pool hty hreason hcontent =>
      exact actsForSender_post rfl rfl (fun _ => Or.inl rfl) rfl (postsFor_reply (by simp [hty]))
  | loggedIn pool hty hfree hr hauth hcontent =>
      refine actsForSender_post rfl rfl ?_ rfl (postsFor_reply (by simp [hty]))
      intro u
      by_cases hu : u = msg.fromUserId
      · exact Or.inr ⟨hu, Or.inr ⟨hty, hu ▸ AList.lookup_insert _⟩⟩
      · exact Or.inl (AList.lookup_insert_ne hu)
  | loggedOut hty =>
      refine actsForSender_post rfl rfl ?_ (List.append_nil _).symm hnone
      intro u
      by_cases hu : u = msg.fromUserId
      · exact Or.inr ⟨hu, Or.inl ⟨hty, hu ▸ AList.lookup_erase _ _⟩⟩
      · exact Or.inl (AList.lookup_erase_ne hu)
  | @requested pool hty hne t₁ t₂ h₁ h₂ ps hps =>
      -- each of the two inserts was done or not, so follow the rows through both
      have hmessages : t₂.messages = h.db.tables.messages := by
        rcases h₂ with rfl | rfl <;> rcases h₁ with rfl | rfl <;> rfl
      have hkept₁ : ∀ r ∈ h.db.tables.friends.rows, r ∈ t₁.friends.rows := by
        intro r hr
        rcases h₁ with rfl | rfl
        · exact hr
        · exact Tables.mem_requested.mpr (Or.inl hr)
      have hnew₁ : ∀ r ∈ t₁.friends.rows, r ∈ h.db.tables.friends.rows ∨
          r = ⟨to_string msg.fromUserId, to_string msg.toUserId, 0⟩ := by
        intro r hr
        rcases h₁ with rfl | rfl
        · exact Or.inl hr
        · exact (Tables.mem_requested.mp hr).imp_right fun hnew => hnew.1
      have hkept₂ : ∀ r ∈ t₁.friends.rows, r ∈ t₂.friends.rows := by
        intro r hr
        rcases h₂ with rfl | rfl
        · exact hr
        · exact Tables.mem_requested.mpr (Or.inl hr)
      have hnew₂ : ∀ r ∈ t₂.friends.rows, r ∈ t₁.friends.rows ∨
          r = ⟨to_string msg.toUserId, to_string msg.fromUserId, 0⟩ := by
        intro r hr
        rcases h₂ with rfl | rfl
        · exact Or.inl hr
        · exact (Tables.mem_requested.mp hr).imp_right fun hnew => hnew.1
      refine ⟨Or.inl (by simp only [post_db, withDb_db, hmessages]), ?_, ?_, fun u => Or.inl rfl,
        ps, rfl, ?_⟩
      · intro r hr
        rcases hnew₂ r hr with hr | rfl
        · rcases hnew₁ r hr with hr | rfl
          · exact Or.inl hr
          · exact Or.inr ⟨Or.inl rfl, Or.inl ⟨hty, rfl⟩⟩
        · exact Or.inr ⟨Or.inr rfl, Or.inl ⟨hty, rfl⟩⟩
      · intro r hr
        exact Or.inl (hkept₂ r (hkept₁ r hr))
      · intro p hp
        rcases hps with rfl | ⟨other, -, r, -, -, rfl⟩
        · cases hp
        · rw [List.mem_singleton.mp hp]
          exact postsFor_relay (by simp [hty]) rfl
  | rejected pool hty hcontent =>
      refine ⟨Or.inl rfl, ?_, ?_, fun u => Or.inl rfl, [], (List.append_nil _).symm, hnone⟩
      · intro r hr
        exact Or.inl (Tables.mem_rejected.mp hr).1
      · intro r hr
        by_cases hpair : r.user_id = to_string msg.toUserId ∧ r.friend_id = to_string msg.fromUserId
        · exact Or.inr ⟨hty, between_of_pair (Or.inl hpair)⟩
        · exact Or.inl (Tables.mem_rejected.mpr ⟨hr, hpair⟩)
  | accepted pool hty hcontent =>
      refine ⟨Or.inl rfl, ?_, ?_, fun u => Or.inl rfl, [], (List.append_nil _).symm, hnone⟩
      · intro r hr
        obtain ⟨r', hr', rfl⟩ := Tables.mem_accepted.mp hr
        split
        · rename_i hpair
          exact Or.inr ⟨between_of_pair (r := r') hpair, Or.inr ⟨⟨hty, hcontent⟩, r', hr', rfl⟩⟩
        · exact Or.inl hr'
      · intro r hr
        by_cases hpair : r.user_id = to_string msg.toUserId ∧ r.friend_id = to_string msg.fromUserId ∨
            r.friend_id = to_string msg.toUserId ∧ r.user_id = to_string msg.fromUserId
        · exact Or.inr ⟨hty, between_of_pair hpair⟩
        · exact Or.inl (Tables.mem_accepted.mpr ⟨r, hr, (if_neg hpair).symm⟩)
  | @chatted pool hty t ht =>
      have hps : ∀ p ∈ (h.userSessions.lookup msg.toUserId).toList.map fun other =>
          (other, Message.new env msg.fromUserId msg.toUserId .TEXT (msg.messageId + 1) msg.content),
          PostsFor env session msg h p := by
        intro p hp
        obtain ⟨other, -, rfl⟩ := List.mem_map.mp hp
        refine postsFor_relay ?_ rfl
        rcases hty with hty | hty <;> simp [hty]
      rcases ht with rfl | rfl
      · exact actsForSender_post rfl rfl (fun _ => Or.inl rfl) rfl hps
      · exact ⟨Or.inr ⟨hty, _, rfl⟩, fun r hr => Or.inl hr, fun r hr => Or.inl hr,
          fun u => Or.inl rfl, _, rfl, hps⟩
  | broadcast hty =>
      refine actsForSender_post rfl rfl (fun _ => Or.inl rfl) rfl ?_
      intro p hp
      obtain ⟨it, -, rfl⟩ := List.mem_map.mp hp
      exact postsFor_relay (by simp [hty]) rfl
  | listed pool hty hcontent =>
      exact actsForSender_post rfl rfl (fun _ => Or.inl rfl) rfl (postsFor_reply (by simp [hty]))
  | pulled pool hty hms =>
      refine actsForSender_post rfl rfl (fun _ => Or.inl rfl) rfl ?_
      intro p hp
      obtain ⟨m, hm, rfl⟩ := List.mem_map.mp hp
      exact ⟨Or.inl rfl, fun _ => ⟨rfl, hms m hm⟩⟩

end Frames

/-! ## Where the stored and the delivered comes from -/

/-- The frame was handled in the run. -/
def Handled (es : List Event) (env : Env) (session : SessionId) (msg : Message) : Prop :=
  ∃ pre, pre ++ [.frame env session msg] <+: es

/-- After `pre`, the frame posted the message: to the session it came on, or with its sender; and a
pull posted it to the session it came on, as what a chat frame from or to the claimed user had said. -/
structure PostedBy (pre : List Event) (session : SessionId) (msg : Message)
    (p : SessionId × Message) : Prop where
  sender : p.1 = session ∨ p.2.fromUserId = msg.fromUserId
  pulled : msg.messageType = .PULL_MESSAGE → p.1 = session ∧ ∃ env₀ session₀ msg₀,
    Handled pre env₀ session₀ msg₀ ∧
      (msg₀.messageType = .TEXT ∨ msg₀.messageType = .PRIVATE_CHAT) ∧
      (msg₀.fromUserId = msg.fromUserId ∨ msg₀.toUserId = msg.fromUserId) ∧
      Database.Repeats msg₀ p.2

/-- Everything stored and delivered goes back to a frame that names its sender. -/
structure Attributed [OpenSSL] (pool_size : Nat) (es : List Event) (h : BusinessHandler) : Prop where
  /-- A stored message was sent by a chat frame of the user it is from. -/
  messages : ∀ r ∈ h.db.tables.messages.rows, ∃ env session msg, Handled es env session msg ∧
    (msg.messageType = .TEXT ∨ msg.messageType = .PRIVATE_CHAT) ∧
      r = MessageRow.new env msg r.message_id
  /-- A friend row was requested by one of its two users. -/
  requests : ∀ r ∈ h.db.tables.friends.rows, ∃ env session msg, Handled es env session msg ∧
    msg.messageType = .ADD_FRIEND ∧ Between msg r
  /-- An accepted friend row was accepted by one of its two users. -/
  acceptances : ∀ r ∈ h.db.tables.friends.rows, r.status = 1 →
    ∃ env session msg, Handled es env session msg ∧ msg.messageType = .FRIEND_REQUEST_RESPONSE ∧
      msg.content = str "accept" ∧ Between msg r
  /-- Each message to a session was posted by a frame. -/
  posts : ∀ k p, h.posted[k]? = some p → ∃ pre env session msg,
    pre ++ [.frame env session msg] <+: es ∧
      (exec step (start .empty pool_size) pre).posted.length ≤ k ∧
      k < (exec step (start .empty pool_size) (pre ++ [.frame env session msg])).posted.length ∧
      PostedBy pre session msg p

section Runs

variable [OpenSSL] {pool_size : Nat} {env : Env} {session : SessionId} {msg : Message}
  {h h' : BusinessHandler} {es : List Event}

omit [OpenSSL] in
theorem Handled.concat (hhandled : Handled es env session msg) (e : Event) :
    Handled (es ++ [e]) env session msg := by
  obtain ⟨pre, hpre⟩ := hhandled
  exact ⟨pre, hpre.trans (List.prefix_append es [e])⟩

omit [OpenSSL] in
theorem handled_last : Handled (es ++ [.frame env session msg]) env session msg :=
  ⟨es, List.prefix_refl _⟩

/-- What was attributed stays so when the run goes on. -/
theorem Attributed.concat (hattr : Attributed pool_size es h) (e : Event) :
    Attributed pool_size (es ++ [e]) h where
  messages := fun r hr => by
    obtain ⟨env, session, msg, hhandled, hrow⟩ := hattr.messages r hr
    exact ⟨env, session, msg, hhandled.concat e, hrow⟩
  requests := fun r hr => by
    obtain ⟨env, session, msg, hhandled, hrow⟩ := hattr.requests r hr
    exact ⟨env, session, msg, hhandled.concat e, hrow⟩
  acceptances := fun r hr hstatus => by
    obtain ⟨env, session, msg, hhandled, hrow⟩ := hattr.acceptances r hr hstatus
    exact ⟨env, session, msg, hhandled.concat e, hrow⟩
  posts := fun k p hp => by
    obtain ⟨pre, env, session, msg, hpre, hposted⟩ := hattr.posts k p hp
    exact ⟨pre, env, session, msg, hpre.trans (List.prefix_append es [e]), hposted⟩

omit [OpenSSL] in
theorem Between.of_key {r r' : FriendRow} (hbetween : Between msg r) (hkey : r'.key = r.key) :
    Between msg r' := by
  unfold Between
  rw [hkey]
  exact hbetween

/-- A message that a frame posts was posted by it. -/
theorem PostsFor.postedBy (hattr : Attributed pool_size es h) {p : SessionId × Message}
    (hp : PostsFor env session msg h p) : PostedBy es session msg p where
  sender := hp.1
  pulled := by
    intro hpull
    obtain ⟨hself, r, hr, hrow⟩ := hp.2 hpull
    obtain ⟨hr, hmine⟩ := List.mem_filter.mp hr
    obtain ⟨env₀, session₀, msg₀, hhandled, hty, hnew⟩ := hattr.messages r hr
    have hpair := (of_decide_eq_true hmine).1
    rw [hnew] at hrow hpair
    refine ⟨hself, env₀, session₀, msg₀, hhandled, hty, ?_, Database.repeats_of_messageOfRow hrow⟩
    rw [cstr_to_string] at hpair
    exact hpair.imp (fun hfrom => to_string_injective hfrom) fun hto => to_string_injective hto

/-- A frame that acts for its sender extends the attribution. -/
theorem Attributed.frame (hattr : Attributed pool_size es (exec step (start .empty pool_size) es))
    (hacts : ActsForSender env session msg (exec step (start .empty pool_size) es)
      (step (exec step (start .empty pool_size) es) (.frame env session msg))) :
    Attributed pool_size (es ++ [.frame env session msg])
      (step (exec step (start .empty pool_size) es) (.frame env session msg)) := by
  have hold := hattr.concat (.frame env session msg)
  have hlast : Handled (es ++ [.frame env session msg]) env session msg := handled_last
  refine ⟨?_, ?_, ?_, ?_⟩
  · intro r hr
    rcases hacts.messages with heq | ⟨hty, id, heq⟩
    · exact hold.messages r (heq ▸ hr)
    · rw [heq, List.mem_append, List.mem_singleton] at hr
      rcases hr with hr | rfl
      · exact hold.messages r hr
      · exact ⟨env, session, msg, hlast, hty, rfl⟩
  · intro r hr
    rcases hacts.friends r hr with hr | ⟨hbetween, ⟨hty, -⟩ | ⟨-, r', hr', hkey⟩⟩
    · exact hold.requests r hr
    · exact ⟨env, session, msg, hlast, hty, hbetween⟩
    · obtain ⟨env', session', msg', hhandled, hty, hbetween'⟩ := hold.requests r' hr'
      exact ⟨env', session', msg', hhandled, hty, hbetween'.of_key hkey.symm⟩
  · intro r hr hstatus
    rcases hacts.friends r hr with hr | ⟨hbetween, ⟨-, hpending⟩ | ⟨⟨hty, hcontent⟩, -⟩⟩
    · exact hold.acceptances r hr hstatus
    · rw [hpending] at hstatus
      cases hstatus
    · exact ⟨env, session, msg, hlast, hty, hcontent, hbetween⟩
  · intro k p hp
    obtain ⟨ps, heq, hps⟩ := hacts.posts
    by_cases hk : k < (exec step (start .empty pool_size) es).posted.length
    · rw [heq, List.getElem?_append_left hk] at hp
      exact hold.posts k p hp
    · have hlength := (List.getElem?_eq_some_iff.mp hp).1
      rw [heq, List.getElem?_append_right (Nat.le_of_not_lt hk)] at hp
      refine ⟨es, env, session, msg, List.prefix_refl _, Nat.le_of_not_lt hk, ?_, ?_⟩
      · rw [exec_concat]
        exact hlength
      · exact (hps p (List.mem_of_getElem? hp)).postedBy hattr

end Runs

/-- **`frames_act_for_their_sender`** — in every run from an empty database, whatever the SQLite
calls return, every frame acts in the name of the user it claims as its sender, and everything stored
and delivered goes back to such a frame. -/
theorem frames_act_for_their_sender [OpenSSL] (pool_size : Nat) (es : List Event) :
    Attributed pool_size es (exec step (start .empty pool_size) es) ∧
    ∀ env session msg, ActsForSender env session msg (exec step (start .empty pool_size) es)
      (step (exec step (start .empty pool_size) es) (.frame env session msg)) := by
  refine ⟨?_, fun env session msg => (exec_step_did pool_size es).actsForSender⟩
  refine exec_history (R := Attributed pool_size) ?_ ?_ es
  · exact ⟨fun r hr => absurd hr List.not_mem_nil, fun r hr => absurd hr List.not_mem_nil,
      fun r hr => absurd hr List.not_mem_nil, fun k p hp => absurd hp (Option.some_ne_none p).symm⟩
  · intro es e hattr
    cases e with
    | frame env session msg => exact hattr.frame (exec_step_did pool_size es).actsForSender
    | closed session => exact ⟨fun r hr => (hattr.concat _).messages r hr,
        fun r hr => (hattr.concat _).requests r hr, fun r hr => (hattr.concat _).acceptances r hr,
        fun k p hp => (hattr.concat _).posts k p hp⟩

/-- A session on which nobody has logged in stores a chat message of user 1. -/
theorem impersonation :
    letI := OpenSSL.zero
    (start .empty 1).userSessions.lookup 1 ≠ some 0 ∧
    (step (start .empty 1) (.frame .plain 0 (chatFrame (str "hello")))).db.tables.messages.rows =
      [⟨1, str "1", str "2", str "TEXT", str "hello", 0⟩] :=
  ⟨by decide, by decide⟩

/-! ## Two states with the same data of one user -/

section TwoRuns

/-- The tables hold the same data of a user: the messages from and to the user, the user's rows of
the friends table, and the users these rows name, each in the order they are stored. -/
structure AgreeOn (user_id : Bytes) (t t' : Tables) : Prop where
  messages : (t.messages.rows.filter fun r => r.from_user_id = user_id ∨ r.to_user_id = user_id) =
    t'.messages.rows.filter fun r => r.from_user_id = user_id ∨ r.to_user_id = user_id
  friends : (t.friends.rows.filter fun f => f.user_id = user_id) =
    t'.friends.rows.filter fun f => f.user_id = user_id
  users : ∀ f ∈ t.friends.rows, f.user_id = user_id →
    (t.users.rows.filter fun u => f.friend_id = u.user_id) =
      t'.users.rows.filter fun u => f.friend_id = u.user_id

variable {user_id : Bytes} {t t' : Tables} {α β Row : Type}

/-- The selection of `getRecentMessages`. -/
theorem AgreeOn.recentRows (hagree : AgreeOn (cstr user_id) t t') (env : Env) (days : Nat) :
    Database.recentRows env user_id days t = Database.recentRows env user_id days t' := by
  have hsplit : ∀ t : Tables, Database.recentRows env user_id days t =
      (t.messages.rows.filter fun r => r.from_user_id = cstr user_id ∨ r.to_user_id = cstr user_id).filter
        fun r => env.now.toInt - 86400 * days ≤ r.timestamp := by
    intro t
    unfold Database.recentRows
    rw [List.filter_filter]
    refine List.filter_congr fun r _ => ?_
    rw [Bool.and_comm, ← Bool.decide_and]
  rw [hsplit, hsplit, hagree.messages]

/-- The selection of `getFriendList`. -/
theorem AgreeOn.friendRows (hagree : AgreeOn (cstr user_id) t t') :
    (t.friends.rows.filter fun f => f.user_id = cstr user_id ∧ f.status = 1) =
      t'.friends.rows.filter fun f => f.user_id = cstr user_id ∧ f.status = 1 := by
  have hsplit : ∀ t : Tables, (t.friends.rows.filter fun f => f.user_id = cstr user_id ∧ f.status = 1) =
      (t.friends.rows.filter fun f => f.user_id = cstr user_id).filter fun f => f.status = 1 := by
    intro t
    rw [List.filter_filter]
    refine List.filter_congr fun f _ => ?_
    rw [Bool.and_comm, ← Bool.decide_and]
  rw [hsplit, hsplit, hagree.friends]

/-- The selection of `getFriendListUsername`. -/
theorem AgreeOn.friendUsers (hagree : AgreeOn (cstr user_id) t t') :
    Database.friendUsers user_id t = Database.friendUsers user_id t' := by
  unfold Database.friendUsers
  rw [← hagree.friendRows]
  refine List.flatMap_congr fun f hf => ?_
  rw [List.mem_filter, decide_eq_true_eq] at hf
  exact hagree.users f hf.1 hf.2.1

/-- `x` gives the same answer on tables `t` and `t'`, with the same effect on the pool, and leaves
the tables as they are. -/
def SameAnswer (x : DbM α) (t t' : Tables) (pool : List Conn) : Prop :=
  ∃ pool', (∃ a, x ⟨t, pool⟩ = .ok a ⟨t, pool'⟩ ∧ x ⟨t', pool⟩ = .ok a ⟨t', pool'⟩) ∨
    ∃ e, x ⟨t, pool⟩ = .error e ⟨t, pool'⟩ ∧ x ⟨t', pool⟩ = .error e ⟨t', pool'⟩

theorem sameAnswer_pure (a : α) (pool : List Conn) : SameAnswer (pure a) t t' pool :=
  ⟨pool, Or.inl ⟨a, rfl, rfl⟩⟩

theorem SameAnswer.bind {x : DbM α} {f : α → DbM β} {pool : List Conn}
    (hx : SameAnswer x t t' pool) (hf : ∀ a pool, SameAnswer (f a) t t' pool) :
    SameAnswer (x >>= f) t t' pool := by
  obtain ⟨pool', ⟨a, h, h'⟩ | ⟨e, h, h'⟩⟩ := hx
  · have hbind : ∀ t₀, x ⟨t₀, pool⟩ = .ok a ⟨t₀, pool'⟩ → (x >>= f) ⟨t₀, pool⟩ = f a ⟨t₀, pool'⟩ := by
      intro t₀ h₀
      show EStateM.bind x f _ = _
      rw [EStateM.bind, h₀]
    unfold SameAnswer
    rw [hbind t h, hbind t' h']
    exact hf a pool'
  · have hbind : ∀ t₀, x ⟨t₀, pool⟩ = .error e ⟨t₀, pool'⟩ →
        (x >>= f) ⟨t₀, pool⟩ = .error e ⟨t₀, pool'⟩ := by
      intro t₀ h₀
      show EStateM.bind x f _ = _
      rw [EStateM.bind, h₀]
    exact ⟨pool', Or.inr ⟨e, hbind t h, hbind t' h'⟩⟩

theorem SameAnswer.ite {c : Prop} [Decidable c] {x y : DbM α} {pool : List Conn}
    (hx : SameAnswer x t t' pool) (hy : SameAnswer y t t' pool) :
    SameAnswer (if c then x else y) t t' pool := by
  split
  · exact hx
  · exact hy

theorem sameAnswer_getConnection (pool : List Conn) :
    SameAnswer Database.getConnection t t' pool := by
  cases pool with
  | nil => exact ⟨[], Or.inr ⟨.wait, rfl, rfl⟩⟩
  | cons conn rest => exact ⟨rest, Or.inl ⟨conn, rfl, rfl⟩⟩

theorem sameAnswer_onTables {run : Tables → Except Exn (α × Tables)} {pool : List Conn}
    (hrun : (∃ a, run t = .ok (a, t) ∧ run t' = .ok (a, t')) ∨
      ∃ e, run t = .error e ∧ run t' = .error e) :
    SameAnswer (Database.onTables run) t t' pool := by
  unfold SameAnswer Database.onTables
  rcases hrun with ⟨a, h, h'⟩ | ⟨e, h, h'⟩
  · simp only [h, h']
    exact ⟨pool, Or.inl ⟨a, rfl, rfl⟩⟩
  · simp only [h, h']
    exact ⟨pool, Or.inr ⟨.exn e, rfl, rfl⟩⟩

/-- A reading that selects the same rows gives the same answer. -/
theorem sameAnswer_reading {o : Outcome} {failed : α} {rows : Tables → List Row}
    {convert : List Row → Except Exn α} (hrows : rows t = rows t') (pool : List Conn) :
    SameAnswer (Database.reading o failed rows convert) t t' pool := by
  refine (sameAnswer_getConnection pool).bind fun conn rest => SameAnswer.ite ?_ (sameAnswer_pure _ _)
  refine (sameAnswer_onTables ?_).bind fun a pool' => ?_
  · simp only [hrows]
    cases convert (fetch o.step 0 (reorder o.order (rows t'))) with
    | ok a => exact Or.inl ⟨a, rfl, rfl⟩
    | error e => exact Or.inr ⟨e, rfl, rfl⟩
  · exact ⟨pool' ++ [conn], Or.inl ⟨a, rfl, rfl⟩⟩

theorem sameAnswer_getFriendPair {o₁ o₂ : Outcome} (hagree : AgreeOn (cstr user_id) t t')
    (pool : List Conn) : SameAnswer (Database.getFriendPair o₁ o₂ user_id) t t' pool := by
  refine (sameAnswer_reading hagree.friendRows pool).bind fun ids pool' => ?_
  refine (sameAnswer_reading hagree.friendUsers pool').bind fun names pool'' => ?_
  exact SameAnswer.ite (sameAnswer_pure _ _) (sameAnswer_pure _ _)

/-- Run from two handler states with the same pool, `x` posts the same messages to the session and
nothing else, and changes nothing but the pool. -/
def SamePosts (x : HandlerM α) (session : SessionId) (h h' : BusinessHandler) : Prop :=
  ∃ ps : List Message,
    (stateOf (x h)).posted = h.posted ++ ps.map (fun m => (session, m)) ∧
    (stateOf (x h')).posted = h'.posted ++ ps.map fun m => (session, m)

variable {h h' : BusinessHandler} {session : SessionId}

/-- A call of the database, and what follows it. -/
theorem callDb_bind (x : DbM α) (f : α → HandlerM β) (h : BusinessHandler) : (callDb x >>= f) h =
    match x h.db with
    | .ok a db => f a { h with db := db }
    | .error e db => .error e { h with db := db } := by
  show EStateM.bind (callDb x) f h = _
  unfold EStateM.bind callDb
  cases x h.db with
  | ok a db => rfl
  | error e db => rfl

/-- What follows a call of the database that gives the same answer: here, computations that post to
the session what the answer tells. -/
theorem SameAnswer.samePosts {x : DbM α} (hx : SameAnswer x h.db.tables h'.db.tables h.db.connection_pool)
    (hpool : h'.db.connection_pool = h.db.connection_pool) {f : α → HandlerM β}
    (hf : ∀ a, ∃ ps : List Message, ∀ h₀ : BusinessHandler,
      (stateOf (f a h₀)).posted = h₀.posted ++ ps.map fun m => (session, m)) :
    SamePosts (callDb x >>= f) session h h' := by
  have hdb : h'.db = ⟨h'.db.tables, h.db.connection_pool⟩ := by rw [← hpool]
  unfold SamePosts
  rw [callDb_bind, callDb_bind, hdb]
  obtain ⟨pool', ⟨a, hx, hx'⟩ | ⟨e, hx, hx'⟩⟩ := hx
  · obtain ⟨ps, hps⟩ := hf a
    rw [hx, hx']
    exact ⟨ps, hps _, hps _⟩
  · rw [hx, hx']
    exact ⟨[], (List.append_nil _).symm, (List.append_nil _).symm⟩

theorem posted_send_all (session : SessionId) (ms : List Message) (h₀ : BusinessHandler) :
    (stateOf ((ms.forM fun m => Session.send session m : HandlerM Unit) h₀)).posted =
      h₀.posted ++ ms.map fun m => (session, m) := by
  have hends : Ends (ms.forM (Session.send session)) h₀
      (fun _ h' => h'.posted = h₀.posted ++ ms.map fun m => (session, m))
      fun _ h' => h'.posted = h₀.posted ++ ms.map fun m => (session, m) := by
    refine ends_forM_send (fun m => some (session, m)) (Session.send session)
      (fun _ _ _ _ => Iff.rfl) ms ?_
    rw [List.filterMap_eq_map']
    rfl
  exact ends_stateOf.mp hends

/-- A friend list is answered from the data of the user the frame names. -/
theorem sendFriendList_samePosts {env : Env} {msg : Message}
    (hpool : h'.db.connection_pool = h.db.connection_pool)
    (hagree : AgreeOn (to_string msg.fromUserId) h.db.tables h'.db.tables) :
    SamePosts (sendFriendList env msg session) session h h' := by
  rw [← cstr_to_string] at hagree
  refine (sameAnswer_getFriendPair hagree _).samePosts hpool fun pairs => ?_
  cases hlist : pairs.mapM friendInfo with
  | error e => exact ⟨[], fun h₀ => (List.append_nil _).symm⟩
  | ok friendsList =>
      cases hcontent : dumpJson (.array friendsList) with
      | error e =>
          refine ⟨[], fun h₀ => ?_⟩
          show (stateOf ((orThrow (dumpJson (.array friendsList)) >>= _) h₀)).posted = _
          rw [hcontent]
          exact (List.append_nil _).symm
      | ok content =>
          refine ⟨[.new env msg.fromUserId msg.toUserId .FRIEND_LIST (msg.messageId + 1) content],
            fun h₀ => ?_⟩
          show (stateOf ((orThrow (dumpJson (.array friendsList)) >>= _) h₀)).posted = _
          rw [hcontent]
          rfl

/-- History is answered from the data of the user the frame names. -/
theorem pushMessage_samePosts {env : Env} {msg : Message}
    (hpool : h'.db.connection_pool = h.db.connection_pool)
    (hagree : AgreeOn (to_string msg.fromUserId) h.db.tables h'.db.tables) :
    SamePosts (pushMessage env msg session) session h h' := by
  rw [← cstr_to_string] at hagree
  exact (sameAnswer_reading (hagree.recentRows env 1) _).samePosts hpool fun ms =>
    ⟨ms, posted_send_all session ms⟩

/-- **`answers_from_claimed_user`** — two states with the same idle connections that agree on the
data of the user a `PULL_MESSAGE` or `FRIEND_LIST` frame names answer the frame with the same
messages, and send them to the requesting session alone. -/
theorem answers_from_claimed_user [OpenSSL] (h h' : BusinessHandler) (env : Env)
    (session : SessionId) (msg : Message)
    (hty : msg.messageType = .PULL_MESSAGE ∨ msg.messageType = .FRIEND_LIST)
    (hpool : h'.db.connection_pool = h.db.connection_pool)
    (hagree : AgreeOn (to_string msg.fromUserId) h.db.tables h'.db.tables) :
    ∃ ps : List Message,
      (step h (.frame env session msg)).posted = h.posted ++ ps.map (fun m => (session, m)) ∧
      (step h' (.frame env session msg)).posted = h'.posted ++ ps.map fun m => (session, m) := by
  rcases hty with hty | hty
  · show SamePosts (handleIncomingMessage env session msg) session h h'
    rw [handle_pull hty]
    exact pushMessage_samePosts hpool hagree
  · show SamePosts (handleIncomingMessage env session msg) session h h'
    rw [handle_friend_list hty]
    exact sendFriendList_samePosts hpool hagree

end TwoRuns

/-- A message between two other users makes no difference to the history of user 1. -/
theorem answers_from_claimed_user_pull :
    letI := OpenSSL.zero
    ∃ ps : List Message,
      (step (step (start .empty 1) (.frame .plain 5 (chatFrame (str "hi"))))
        (.frame .plain 0 pullFrame)).posted = ps.map (fun m => (0, m)) ∧
      (step (exec step (start .empty 1) [.frame .plain 5 (chatFrame (str "hi")),
        .frame .plain 6 ⟨3, 4, .TEXT, 7, str "ho", 0⟩]) (.frame .plain 0 pullFrame)).posted =
        ps.map fun m => (0, m) := by
  let _ := OpenSSL.zero
  exact answers_from_claimed_user (step (start .empty 1) (.frame .plain 5 (chatFrame (str "hi"))))
    (exec step (start .empty 1) [.frame .plain 5 (chatFrame (str "hi")),
      .frame .plain 6 ⟨3, 4, .TEXT, 7, str "ho", 0⟩]) .plain 0 pullFrame (Or.inl rfl) rfl
    ⟨by decide, by decide, by decide⟩

/-- Nobody is logged in on session 0, and yet it reads what user 1 wrote. -/
theorem eavesdropping :
    letI := OpenSSL.zero
    let h := step (start .empty 1) (.frame .plain 5 (chatFrame (str "hi")))
    let h' := step (start .empty 1) (.frame .plain 5 (chatFrame (str "ho")))
    h.userSessions.entries = [] ∧ h'.userSessions.entries = [] ∧
    (step h (.frame .plain 0 pullFrame)).posted = [(0, ⟨1, 2, .TEXT, 1, str "hi", 0⟩)] ∧
    (step h' (.frame .plain 0 pullFrame)).posted = [(0, ⟨1, 2, .TEXT, 1, str "ho", 0⟩)] :=
  ⟨by decide, by decide, by decide, by decide⟩

end BusinessHandler

end TinyIM
