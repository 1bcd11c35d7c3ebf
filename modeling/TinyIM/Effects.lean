/-
# Effects — what a frame does when its statements succeed

`Did` leaves open which of its effects a frame has, as it covers every outcome of the SQLite calls. When
the statements of a frame succeed and a connection is idle, its effect is a function of the state, up to
the order in which rows are handed out. The lemmas of this module say which: the new row or the taken
id of a sign-up, which of the three replies a login gets, the two rows of a friend request and its
notification, the row an answer changes, and the columns of a friend list.
-/
import TinyIM.FriendRows
import TinyIM.FriendTable
import TinyIM.Registry
import TinyIM.History

namespace TinyIM.BusinessHandler

open TinyIM.Lib TinyIM.Lib.Text TinyIM.Lib.Table TinyIM.Lib.Stops

/-! ## Rows that are looked up -/

/-- After a row was inserted it is found, and every other one as before. -/
theorem lookup_registered {t t' : Tables} {r : UserRow} (hnew : t.registered r = some t')
    (id : Bytes) : t.users.lookup r.user_id = none ∧
      t'.users.lookup id = if r.user_id = id then some r else t.users.lookup id := by
  obtain ⟨users, hins, rfl⟩ := Option.map_eq_some_iff.mp hnew
  have hfree : t.users.lookup r.user_id = none := by
    rw [Keyed.lookup_eq_none]
    intro x hx hkey
    exact (Keyed.insert_eq_some hins).1 (List.mem_map.mpr ⟨x, hx, hkey⟩)
  have hsame : t.users.insertOrIgnore r = users := by
    rw [Keyed.insertOrIgnore, hins, Option.getD_some]
  refine ⟨hfree, ?_⟩
  show users.lookup id = _
  rw [← hsame, Keyed.lookup_insertOrIgnore]
  split
  · rename_i hid
    rw [← hid, hfree, Option.none_or]
  · rfl

/-- The two keys of a pair, as pairs of users. -/
theorem onPair_to_string {u v x y : Int32} :
    OnPair u v (to_string x, to_string y) ↔ (x = u ∧ y = v) ∨ (x = v ∧ y = u) := by
  simp only [OnPair, Prod.mk.injEq, to_string_inj]

/-- The second query finds, for each accepted row, the row of the friend. -/
theorem friendUsers_eq (t : Tables) (u : Int32) : Database.friendUsers (to_string u) t =
    (Database.acceptedRows t u).filterMap fun f => t.users.lookup f.friend_id := by
  have hjoin : ∀ f : FriendRow, (t.users.rows.filter fun w => f.friend_id = w.user_id) =
      (t.users.lookup f.friend_id).toList := by
    intro f
    rw [← t.users.filter_key]
    exact List.filter_congr fun w _ => decide_eq_decide.mpr eq_comm
  unfold Database.friendUsers Database.acceptedRows
  rw [cstr_to_string, List.filterMap_eq_flatMap_toList]
  simp only [hjoin]

/-! ## Sign-ups -/

/-- The password and the name in the content of a sign-up. -/
def signUpFields (content : Bytes) : Except Exn (Bytes × Bytes) := do
  let j ← parseJson content
  let password ← member j "password" >>= asString
  let username ← member j "username" >>= asString
  return (password, username)

section Frames

variable {env : Env} {session : SessionId} {msg : Message} {h : BusinessHandler}

/-- A sign-up whose content has no such fields throws and does nothing. -/
theorem signUp_throws [OpenSSL] {x : Exn} (hfields : signUpFields msg.content = .error x) :
    Ends (signUp env msg session) h (fun _ _ => False) fun _ h' => h' = h := by
  unfold signUpFields at hfields
  unfold signUp
  rw [ends_bind, ends_orThrow]
  refine ⟨?_, fun _ _ => rfl⟩
  intro j hj
  rw [hj] at hfields
  rw [ends_bind, ends_orThrow]
  refine ⟨?_, fun _ _ => rfl⟩
  intro password hpassword
  change ((member j "password" >>= asString) >>= _) = _ at hfields
  rw [hpassword] at hfields
  rw [ends_bind, ends_orThrow]
  refine ⟨?_, fun _ _ => rfl⟩
  intro username husername
  change ((member j "username" >>= asString) >>= _) = _ at hfields
  rw [husername] at hfields
  cases hfields

/-- What a sign-up with these fields does when its statement succeeds. -/
theorem signUp_exact [OpenSSL] {password username : Bytes} (hfields : SignsUp msg.content password username)
    (henv : env.SqlSucceeds) (hready : h.db.Ready) :
    Ends (signUp env msg session) h (fun _ h' => ∃ pool,
      (∃ t, h.db.tables.registered (.new env password username) = some t ∧
        h' = (h.withDb t pool).post [(session,
          .new env (-1) (-1) .SIGN_UP_RESPONSE (env.junk + 1) (Database.generateUUID env))]) ∨
      h.db.tables.registered (.new env password username) = none ∧ h' = h.withDb h.db.tables pool)
      fun _ _ => False := by
  obtain ⟨j, hj, hpassword, husername⟩ := hfields
  unfold signUp
  rw [ends_bind, ends_orThrow_ok hj, ends_bind, ends_orThrow_ok hpassword, ends_bind,
    ends_orThrow_ok husername, ends_bind, ends_callDb, Database.ends_registerUser]
  refine ⟨fun hempty => absurd hempty hready, fun conn rest _ => ⟨?_, ?_⟩⟩
  · intro hprepare
    rw [(henv 0).1] at hprepare
    cases hprepare
  · intro _ done
    have hdone : done = Database.stepDone (env.sql 0)
      (fun t => t.registered (.new env password username)) h.db.tables := rfl
    unfold Database.stepDone at hdone
    rw [if_pos ((henv 0).2 0)] at hdone
    cases hnew : h.db.tables.registered (.new env password username) with
    | none =>
        simp only [hnew] at hdone
        rw [hdone]
        exact ⟨rest ++ [conn], Or.inr ⟨rfl, rfl⟩⟩
    | some t =>
        simp only [hnew] at hdone
        rw [hdone]
        exact ⟨rest ++ [conn], Or.inl ⟨t, rfl, rfl⟩⟩

/-! ## Logins -/

/-- The reply to a login. -/
def loginReply (env : Env) (msg : Message) (content : Bytes) : Message :=
  .new env msg.fromUserId 0 .LOGIN_RESPONSE (env.junk + 1) content

/-- What a login does when its statement succeeds. -/
theorem loginUser_exact [OpenSSL] (session : SessionId) (msg : Message) (henv : env.SqlSucceeds)
    (hready : h.db.Ready) (hnames : ∀ r ∈ h.db.tables.users.rows, ValidUtf8 r.username) :
    Ends (loginUser env msg session) h (fun _ h' => ∃ pool content,
      ((∀ r ∈ h.db.tables.users.rows, ¬Database.Authenticates msg.fromUserId msg.content r) ∧
        dumpJson (loginFail "authenticate fail") = .ok content ∧
        h' = (h.withDb h.db.tables pool).post [(session, loginReply env msg content)]) ∨
      ∃ r ∈ h.db.tables.users.rows, Database.Authenticates msg.fromUserId msg.content r ∧
        ((h.userSessions.lookup msg.fromUserId).isSome ∧
          dumpJson (loginFail "repeated login") = .ok content ∧
          h' = (h.withDb h.db.tables pool).post [(session, loginReply env msg content)] ∨
        h.userSessions.lookup msg.fromUserId = none ∧
          dumpJson (loginSuccess (cstr r.username)) = .ok content ∧
          h' = ((h.withDb h.db.tables pool).register
            (h.userSessions.insert msg.fromUserId session)).post
              [(session, loginReply env msg content)])) fun _ _ => False := by
  unfold loginUser
  simp only [ends_bind, ends_callDb]
  refine Database.ends_authenticateUser_ok (henv 0) hready ?_ ?_
  · intro pool _ hnone
    obtain ⟨content, hcontent⟩ := exists_loginFail "authenticate fail"
    show Ends (orThrow _ >>= _) _ _ _
    rw [ends_bind, ends_orThrow_ok hcontent]
    exact ⟨pool, content, Or.inl ⟨hnone, hcontent, rfl⟩⟩
  · intro r pool _ hr hauth
    simp only [ends_bind, ends_findSession, ends_ite]
    refine ⟨fun hsome => ?_, fun hnone => ?_⟩
    · obtain ⟨content, hcontent⟩ := exists_loginFail "repeated login"
      rw [ends_orThrow_ok hcontent]
      exact ⟨pool, content, Or.inr ⟨r, hr, hauth, Or.inl ⟨hsome, hcontent, rfl⟩⟩⟩
    · obtain ⟨content, hcontent⟩ := exists_loginSuccess (validUtf8_cstr (hnames r hr))
      rw [ends_modify, ends_orThrow_ok hcontent]
      exact ⟨pool, content, Or.inr ⟨r, hr, hauth, Or.inr
        ⟨Option.not_isSome_iff_eq_none.mp hnone, hcontent, rfl⟩⟩⟩

/-! ## Friends -/

/-- What a friend request does when its statements succeed. -/
theorem addFriend_exact (henv : env.SqlSucceeds) (hready : h.db.Ready)
    (hne : msg.fromUserId ≠ msg.toUserId) :
    Ends (addFriend env msg) h (fun _ h' => ∃ pool, h' = (h.withDb
      ((h.db.tables.requested msg.fromUserId msg.toUserId).requested msg.toUserId msg.fromUserId)
      pool).post ((h.db.tables.users.lookup (to_string msg.fromUserId)).toList.flatMap fun r =>
        (h.userSessions.lookup msg.toUserId).toList.map fun other =>
          (other, .new env msg.fromUserId msg.toUserId .FRIEND_REQUEST (env.junk + 1)
            (cstr r.username)))) fun _ _ => False := by
  unfold addFriend
  rw [if_neg hne]
  simp only [ends_bind, ends_callDb, ends_ite]
  refine Database.ends_addFriend_ok (henv 0) (henv 1) hready ?_
  intro pool hpool
  refine ⟨fun _ => ?_, fun hfalse => absurd rfl hfalse⟩
  refine Database.ends_reading_ok (henv 2) hpool ?_
  intro rows hrows
  refine ⟨_, rfl, ?_⟩
  intro pool' _
  -- the primary key leaves at most one row
  have hone : rows = (h.db.tables.users.lookup (to_string msg.fromUserId)).toList := by
    have hselected := h.db.tables.users.filter_key (to_string msg.fromUserId)
    rw [cstr_to_string] at hrows
    change rows.Perm (h.db.tables.users.rows.filter fun r => r.user_id = to_string msg.fromUserId) at hrows
    rw [hselected] at hrows
    cases hlookup : h.db.tables.users.lookup (to_string msg.fromUserId) with
    | none =>
        rw [hlookup] at hrows
        exact List.perm_nil.mp hrows
    | some r =>
        rw [hlookup] at hrows
        exact List.perm_singleton.mp hrows
  rw [hone]
  cases h.db.tables.users.lookup (to_string msg.fromUserId) with
  | none => exact ⟨pool', (post_nil _).symm⟩
  | some r =>
      show Ends (findSession msg.toUserId >>= _) _ _ _
      rw [ends_bind, ends_findSession]
      cases h.userSessions.lookup msg.toUserId with
      | none => exact ⟨pool', (post_nil _).symm⟩
      | some other => exact ⟨pool', rfl⟩

/-- What an answer to a friend request does when its statement succeeds. -/
theorem ackAddFriend_exact (msg : Message) (henv : env.SqlSucceeds) (hready : h.db.Ready) :
    Ends (ackAddFriend env msg) h (fun _ h' => ∃ pool, h' = h.withDb
      (if msg.content = str "reject" then h.db.tables.rejected msg.toUserId msg.fromUserId
        else if msg.content = str "accept" then h.db.tables.accepted msg.toUserId msg.fromUserId
        else h.db.tables) pool) fun _ _ => False := by
  unfold ackAddFriend
  simp only [ends_ite, ends_bind, ends_callDb, ends_pure]
  refine ⟨?_, fun hnot => ⟨?_, ?_⟩⟩
  · intro hreject
    rw [if_pos hreject]
    exact Database.ends_removeFriend_ok (henv 0) hready fun pool _ => ⟨pool, rfl⟩
  · intro haccept
    rw [if_neg hnot, if_pos haccept]
    exact Database.ends_ackAddFriend_ok (henv 0) hready fun pool _ => ⟨pool, rfl⟩
  · intro hneither
    rw [if_neg hnot, if_neg hneither]
    exact ⟨h.db.connection_pool, rfl⟩

/-- What a request for the friend list does when its statements succeed. -/
theorem sendFriendList_exact (session : SessionId) (msg : Message) (henv : env.SqlSucceeds)
    (hready : h.db.Ready) (hok : h.db.tables.Ok) (hplain : h.db.tables.Plain) :
    Ends (sendFriendList env msg session) h (fun _ h' => Listed env session msg h h')
      fun _ _ => False := by
  refine (sendFriendList_listed env session msg hok hplain).mono (fun _ _ h => h) ?_
  rintro _ h' ⟨-, hwait | hwait, -⟩
  · exact hwait hready
  · rw [(henv 0).1] at hwait
    cases hwait

end Frames

end TinyIM.BusinessHandler
