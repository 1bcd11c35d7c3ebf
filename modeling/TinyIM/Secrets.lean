/-
# Secrets — what the server reveals about passwords

Two runs of the server on the same events, except for the passwords in the sign-ups and the logins and
the random bytes of the salts. `passwords_stay_secret` says that the clients are sent the same messages
in both of them exactly as long as every login is decided the same way: beyond the outcomes of the
logins, nothing the server sends depends on a password, a salt or a hash.
-/
import TinyIM.Effects
import TinyIM.Lib.TwoRuns

namespace TinyIM

open TinyIM.Lib TinyIM.Lib.Text TinyIM.Lib.Table TinyIM.Lib.Runs TinyIM.Lib.Stops TinyIM.Lib.TwoRuns

/-! ## Databases that differ in secrets -/

/-- What of a row of `users` is no secret. -/
def UserRow.shown (r : UserRow) : Bytes × Bytes := (r.user_id, r.username)

/-- The tables differ at most in the hashes and the salts. -/
structure Tables.SameButSecrets (t t' : Tables) : Prop where
  users : t.users.rows.map UserRow.shown = t'.users.rows.map UserRow.shown
  friends : t.friends = t'.friends
  messages : t.messages = t'.messages
  offline_messages : t.offline_messages = t'.offline_messages

namespace Database

/-- The databases differ at most in the hashes and the salts. -/
structure SameButSecrets (db db' : Database) : Prop where
  tables : db.tables.SameButSecrets db'.tables
  connection_pool : db.connection_pool = db'.connection_pool

section Rules

variable {α β Row κ : Type} {V : α → β → Prop} {o : Outcome} {db db' : Database} {t t' : Tables}

/-- A statement has corresponding results. -/
def RunAlike (V : α → β → Prop) (r : Except Exn (α × Tables)) (r' : Except Exn (β × Tables)) : Prop :=
  (∃ a b u u', r = .ok (a, u) ∧ r' = .ok (b, u') ∧ V a b ∧ u.SameButSecrets u') ∨
    ∃ e, r = .error e ∧ r' = .error e

theorem alike_getConnection (h : db.SameButSecrets db') :
    Alike getConnection getConnection db db' Eq SameButSecrets := by
  unfold Alike getConnection
  rw [← h.connection_pool]
  cases hpool : db.connection_pool with
  | nil => exact .error Stop.wait h
  | cons conn rest => exact .ok rfl ⟨h.tables, rfl⟩

theorem alike_pushConnection (conn : Conn) (h : db.SameButSecrets db') :
    Alike (pushConnection conn) (pushConnection conn) db db' Eq SameButSecrets :=
  .ok rfl ⟨h.tables, congrArg (· ++ [conn]) h.connection_pool⟩

theorem alike_onTables {run : Tables → Except Exn (α × Tables)}
    {run' : Tables → Except Exn (β × Tables)} (h : db.SameButSecrets db')
    (hrun : RunAlike V (run db.tables) (run' db'.tables)) :
    Alike (onTables run) (onTables run') db db' V SameButSecrets := by
  unfold Alike onTables
  rcases hrun with ⟨a, b, u, u', hrun, hrun', hV, hu⟩ | ⟨e, hrun, hrun'⟩
  · rw [hrun, hrun']
    exact .ok hV ⟨hu, h.connection_pool⟩
  · rw [hrun, hrun']
    exact .error (Stop.exn e) h

/-- Operations whose statements have corresponding results. -/
theorem alike_withStatement {failed : α} {failed' : β} {run : Tables → Except Exn (α × Tables)}
    {run' : Tables → Except Exn (β × Tables)} (hfailed : V failed failed')
    (hrun : ∀ t t', t.SameButSecrets t' → RunAlike V (run t) (run' t')) (h : db.SameButSecrets db') :
    Alike (withStatement o failed run) (withStatement o failed' run') db db' V SameButSecrets := by
  unfold withStatement
  refine (alike_getConnection h).bind ?_
  rintro conn _ db₁ db₁' rfl h₁
  refine alike_ite (fun _ => ?_) fun _ => alike_pure hfailed h₁
  refine (alike_onTables h₁ (hrun _ _ h₁.tables)).bind ?_
  intro a b db₂ db₂' hV h₂
  exact (alike_pushConnection conn h₂).bind fun _ _ _ _ _ h₃ => alike_pure hV h₃

/-- A statement that writes is done in both databases or in none. -/
theorem stepDone_alike (write write' : Tables → Option Tables) (ht : t.SameButSecrets t')
    (hwrite : (∃ u u', write t = some u ∧ write' t' = some u' ∧ u.SameButSecrets u') ∨
      write t = none ∧ write' t' = none) :
    (stepDone o write t).1 = (stepDone o write' t').1 ∧
      (stepDone o write t).2.SameButSecrets (stepDone o write' t').2 := by
  unfold stepDone
  cases o.step 0 with
  | false => exact ⟨rfl, ht⟩
  | true =>
      rcases hwrite with ⟨u, u', hu, hu', hsame⟩ | ⟨hu, hu'⟩
      · rw [hu, hu']
        exact ⟨rfl, hsame⟩
      · rw [hu, hu']
        exact ⟨rfl, ht⟩

theorem runAlike_stepDone {write : Tables → Tables} (ht : t.SameButSecrets t')
    (hwrite : (write t).SameButSecrets (write t')) :
    RunAlike Eq (.ok (stepDone o (fun t => some (write t)) t))
      (.ok (stepDone o (fun t => some (write t)) t')) := by
  obtain ⟨hdone, hsame⟩ := stepDone_alike (o := o) (fun t => some (write t))
    (fun t => some (write t)) ht (Or.inl ⟨_, _, rfl, rfl, hwrite⟩)
  exact Or.inl ⟨_, _, _, _, rfl, rfl, hdone, hsame⟩

theorem alike_writing {write : Tables → Tables}
    (hwrite : ∀ t t', t.SameButSecrets t' → (write t).SameButSecrets (write t'))
    (h : db.SameButSecrets db') : Alike (writing o fun t => some (write t))
      (writing o fun t => some (write t)) db db' Eq SameButSecrets :=
  alike_withStatement rfl (fun t t' ht => runAlike_stepDone ht (hwrite t t' ht)) h

/-- An operation that reads hands out rows that agree in `shown` and come in the same order. -/
theorem alike_reading (shown : Row → κ) {rows : Tables → List Row} {failed : α} {failed' : β}
    {convert : List Row → Except Exn α} {convert' : List Row → Except Exn β} (hfailed : V failed failed')
    (hrows : ∀ t t', t.SameButSecrets t' → (rows t).map shown = (rows t').map shown)
    (hconvert : ∀ rs rs', rs.map shown = rs'.map shown →
      (∃ a b, convert rs = .ok a ∧ convert' rs' = .ok b ∧ V a b) ∨
        ∃ e, convert rs = .error e ∧ convert' rs' = .error e) (h : db.SameButSecrets db') :
    Alike (reading o failed rows convert) (reading o failed' rows convert') db db' V
      SameButSecrets := by
  refine alike_withStatement hfailed (fun t t' ht => ?_) h
  have hfetched : (fetch o.step 0 (reorder o.order (rows t))).map shown =
      (fetch o.step 0 (reorder o.order (rows t'))).map shown := by
    rw [map_fetch, map_fetch, map_reorder, map_reorder, hrows t t' ht]
  rcases hconvert _ _ hfetched with ⟨a, b, ha, hb, hV⟩ | ⟨e, he, he'⟩
  · rw [ha, hb]
    exact Or.inl ⟨a, b, t, t', rfl, rfl, hV, ht⟩
  · rw [he, he']
    exact Or.inr ⟨e, rfl, rfl⟩

end Rules

/-! ## The operations -/

section Operations

variable {o o₁ o₂ : Outcome} {db db' : Database} {t t' : Tables} {user_id friend_id : Bytes}

/-- A new user is inserted in both tables or in none. -/
theorem registered_alike {r r' : UserRow} (ht : t.SameButSecrets t') (hr : r.shown = r'.shown) :
    (∃ u u', t.registered r = some u ∧ t'.registered r' = some u' ∧ u.SameButSecrets u') ∨
      t.registered r = none ∧ t'.registered r' = none := by
  have hids : t.users.rows.map UserRow.user_id = t'.users.rows.map UserRow.user_id := by
    have hfst := congrArg (List.map Prod.fst) ht.users
    rwa [List.map_map, List.map_map] at hfst
  have hid : r.user_id = r'.user_id := congrArg Prod.fst hr
  unfold Tables.registered
  cases hinsert : t.users.insert r with
  | none =>
      obtain ⟨x, hx, hkey⟩ := Keyed.insert_eq_none.mp hinsert
      have hmem : r'.user_id ∈ t'.users.rows.map UserRow.user_id := by
        rw [← hids, ← hid, ← hkey]
        exact List.mem_map_of_mem hx
      rw [Keyed.insert_eq_none.mpr (List.mem_map.mp hmem)]
      exact Or.inr ⟨rfl, rfl⟩
  | some users =>
      obtain ⟨hfree, hrows⟩ := Keyed.insert_eq_some hinsert
      cases hinsert' : t'.users.insert r' with
      | none =>
          obtain ⟨x, hx, hkey⟩ := Keyed.insert_eq_none.mp hinsert'
          refine absurd ?_ hfree
          rw [hids, hid, ← hkey]
          exact List.mem_map_of_mem hx
      | some users' =>
          obtain ⟨-, hrows'⟩ := Keyed.insert_eq_some hinsert'
          refine Or.inl ⟨_, _, rfl, rfl, ⟨?_, ht.friends, ht.messages, ht.offline_messages⟩⟩
          rw [hrows, hrows', List.map_append, List.map_append, ht.users, List.map_singleton,
            List.map_singleton, hr]

theorem alike_registerUser [OpenSSL] {env : Env} {rand : Vector UInt8 16}
    {password password' username : Bytes} (h : db.SameButSecrets db') :
    Alike (registerUser env o password username)
      (registerUser { env with rand := rand } o password' username) db db' Eq SameButSecrets := by
  refine alike_withStatement rfl (fun t t' ht => ?_) h
  obtain ⟨hdone, hsame⟩ := stepDone_alike (o := o)
    (fun t => t.registered (.new env password username))
    (fun t => t.registered (.new { env with rand := rand } password' username)) ht
    (registered_alike ht rfl)
  refine Or.inl ⟨_, _, _, _, rfl, rfl, ?_, hsame⟩
  exact congrArg (fun done : Bool => if done then some (generateUUID env) else none) hdone

/-- The same rows of `users` are selected by what is shown of them. -/
theorem shown_filter {p : UserRow → Bool} {q : Bytes × Bytes → Bool} (hp : ∀ r, p r = q r.shown)
    (ht : t.SameButSecrets t') :
    (t.users.rows.filter p).map UserRow.shown = (t'.users.rows.filter p).map UserRow.shown := by
  have hq : p = q ∘ UserRow.shown := funext hp
  rw [hq, ← List.filter_map, ← List.filter_map, ht.users]

/-- The rows at the heads of two results. -/
theorem shown_head? {rs rs' : List UserRow} (h : rs.map UserRow.shown = rs'.map UserRow.shown) :
    rs.head?.map UserRow.shown = rs'.head?.map UserRow.shown := by
  rw [← List.head?_map, ← List.head?_map, h]

/-- Where the password is right in both databases, the names are the same. -/
theorem alike_authenticateUser [OpenSSL] (user_id password password' : Bytes)
    (h : db.SameButSecrets db') :
    Alike (authenticateUser o user_id password) (authenticateUser o user_id password') db db'
      (fun name name' => ∀ n ∈ name, ∀ n' ∈ name', n = n') SameButSecrets := by
  unfold authenticateUser
  refine (alike_reading (V := fun row row' => row.map UserRow.shown = row'.map UserRow.shown)
    UserRow.shown rfl ?_ ?_ h).bind ?_
  · intro t t' ht
    exact shown_filter (q := fun s => s.1 = cstr user_id) (fun _ => rfl) ht
  · intro rs rs' hrs
    exact Or.inl ⟨_, _, rfl, rfl, shown_head? hrs⟩
  · intro row row' db₁ db₁' hrow h₁
    cases row with
    | none =>
        cases row' with
        | none => exact alike_pure (by simp) h₁
        | some r' => cases hrow
    | some r =>
        cases row' with
        | none => cases hrow
        | some r' =>
            have hname : cstr r.username = cstr r'.username :=
              congrArg (fun s => cstr s.2) (Option.some.inj hrow)
            dsimp only
            split
            · split
              · exact alike_pure (by simp [hname]) h₁
              · exact alike_pure (by simp) h₁
            · split
              · exact alike_pure (by simp) h₁
              · exact alike_pure (by simp) h₁

theorem alike_getUserNameById (h : db.SameButSecrets db') :
    Alike (getUserNameById o user_id) (getUserNameById o user_id) db db' Eq SameButSecrets := by
  refine alike_reading UserRow.shown rfl ?_ ?_ h
  · intro t t' ht
    exact shown_filter (q := fun s => s.1 = cstr user_id) (fun _ => rfl) ht
  · intro rs rs' hrs
    refine Or.inl ⟨_, _, rfl, rfl, ?_⟩
    have hname := congrArg (Option.map fun s : Bytes × Bytes => cstr s.2) (shown_head? hrs)
    rwa [Option.map_map, Option.map_map] at hname

theorem alike_addFriend (h : db.SameButSecrets db') :
    Alike (addFriend o₁ o₂ user_id friend_id) (addFriend o₁ o₂ user_id friend_id) db db' Eq
      SameButSecrets := by
  have hinsert : ∀ (a b : Bytes) (t t' : Tables), t.SameButSecrets t' →
      Tables.SameButSecrets { t with friends := t.friends.insertOrIgnore ⟨cstr a, cstr b, 0⟩ }
        { t' with friends := t'.friends.insertOrIgnore ⟨cstr a, cstr b, 0⟩ } :=
    fun a b t t' ht => ⟨ht.users, by dsimp only; rw [ht.friends], ht.messages, ht.offline_messages⟩
  unfold addFriend
  refine (alike_getConnection h).bind ?_
  rintro conn _ db₁ db₁' rfl h₁
  refine alike_ite (fun _ => ?_) fun _ => alike_pure rfl h₁
  refine (alike_onTables h₁ (runAlike_stepDone h₁.tables (hinsert _ _ _ _ h₁.tables))).bind ?_
  rintro result1 _ db₂ db₂' rfl h₂
  refine alike_ite (fun _ => ?_) fun _ => alike_pure rfl h₂
  refine (alike_onTables h₂ (runAlike_stepDone h₂.tables (hinsert _ _ _ _ h₂.tables))).bind ?_
  rintro result2 _ db₃ db₃' rfl h₃
  exact (alike_pushConnection conn h₃).bind fun _ _ _ _ _ h₄ => alike_pure rfl h₄

theorem alike_ackAddFriend (h : db.SameButSecrets db') :
    Alike (ackAddFriend o user_id friend_id) (ackAddFriend o user_id friend_id) db db' Eq
      SameButSecrets :=
  alike_writing (fun _ _ ht => ⟨ht.users, by dsimp only; rw [ht.friends], ht.messages,
    ht.offline_messages⟩) h

theorem alike_removeFriend (h : db.SameButSecrets db') :
    Alike (removeFriend o user_id friend_id) (removeFriend o user_id friend_id) db db' Eq
      SameButSecrets :=
  alike_writing (fun _ _ ht => ⟨ht.users, by dsimp only; rw [ht.friends], ht.messages,
    ht.offline_messages⟩) h

theorem alike_storeMessage {env : Env} {from_user_id to_user_id message_type content : Bytes}
    (h : db.SameButSecrets db') :
    Alike (storeMessage env o from_user_id to_user_id message_type content)
      (storeMessage env o from_user_id to_user_id message_type content) db db' Eq SameButSecrets :=
  alike_writing (fun _ _ ht => ⟨ht.users, ht.friends, by dsimp only; rw [ht.messages],
    ht.offline_messages⟩) h

/-- A query that reads other tables hands out the same rows. -/
theorem alike_reading_same {Row α : Type} {rows : Tables → List Row} {failed : α}
    {convert : List Row → Except Exn α}
    (hrows : ∀ t t', t.SameButSecrets t' → rows t = rows t') (h : db.SameButSecrets db') :
    Alike (reading o failed rows convert) (reading o failed rows convert) db db' Eq SameButSecrets := by
  refine alike_reading id rfl (fun t t' ht => congrArg _ (hrows t t' ht)) ?_ h
  intro rs rs' hrs
  rw [List.map_id, List.map_id] at hrs
  rw [hrs]
  cases convert rs' with
  | ok a => exact Or.inl ⟨a, a, rfl, rfl, rfl⟩
  | error e => exact Or.inr ⟨e, rfl, rfl⟩

theorem alike_getRecentMessages {env : Env} {days : Nat} (h : db.SameButSecrets db') :
    Alike (getRecentMessages env o user_id days) (getRecentMessages env o user_id days) db db' Eq
      SameButSecrets :=
  alike_reading_same (fun t t' ht => by rw [recentRows, recentRows, ht.messages]) h

/-- The names are joined to the friends by what is shown of the users. -/
theorem alike_getFriendListUsername (h : db.SameButSecrets db') :
    Alike (getFriendListUsername o user_id) (getFriendListUsername o user_id) db db' Eq
      SameButSecrets := by
  refine alike_reading UserRow.shown rfl ?_ ?_ h
  · intro t t' ht
    unfold friendUsers
    rw [List.map_flatMap, List.map_flatMap, ht.friends]
    refine List.flatMap_congr fun f _ => ?_
    exact shown_filter (q := fun s => f.friend_id = s.1) (fun _ => rfl) ht
  · intro rs rs' hrs
    refine Or.inl ⟨_, _, rfl, rfl, ?_⟩
    have hnames := congrArg (List.map fun s : Bytes × Bytes => cstr s.2) hrs
    rwa [List.map_map, List.map_map] at hnames

theorem alike_getFriendPair (h : db.SameButSecrets db') :
    Alike (getFriendPair o₁ o₂ user_id) (getFriendPair o₁ o₂ user_id) db db' Eq SameButSecrets := by
  unfold getFriendPair
  refine (alike_reading_same (fun t t' ht => by rw [ht.friends]) h).bind ?_
  rintro friendId _ db₁ db₁' rfl h₁
  refine (alike_getFriendListUsername h₁).bind ?_
  rintro friendUsername _ db₂ db₂' rfl h₂
  exact alike_ite (fun _ => alike_pure rfl h₂) fun _ => alike_pure rfl h₂

end Operations

end Database

/-! ## The handlers -/

namespace BusinessHandler

/-- The states of the handler differ at most in the hashes and the salts. -/
structure SameButSecrets (h h' : BusinessHandler) : Prop where
  db : h.db.SameButSecrets h'.db
  userSessions : h.userSessions = h'.userSessions
  posted : h.posted = h'.posted
  closing : h.closing = h'.closing

section Handlers

variable {α β : Type} {V : α → β → Prop} {h h' : BusinessHandler} {env : Env} {session : SessionId}
  {msg : Message}

theorem alike_callDb {x : DbM α} {y : DbM β}
    (hx : Alike x y h.db h'.db V Database.SameButSecrets) (hsame : h.SameButSecrets h') :
    Alike (callDb x) (callDb y) h h' V SameButSecrets := by
  unfold Alike callDb at *
  generalize x h.db = r, y h'.db = r' at hx
  cases hx with
  | ok hV hR => exact .ok hV ⟨hR, hsame.userSessions, hsame.posted, hsame.closing⟩
  | error e hR => exact .error e ⟨hR, hsame.userSessions, hsame.posted, hsame.closing⟩

theorem alike_orThrow (x : Except Exn α) (hsame : h.SameButSecrets h') :
    Alike (orThrow x) (orThrow x) h h' Eq SameButSecrets := by
  cases x with
  | ok a => exact .ok rfl hsame
  | error e => exact .error (Stop.exn e) hsame

theorem alike_orThrow_ok {a : α} {b : β} (hV : V a b) (hsame : h.SameButSecrets h') :
    Alike (orThrow (.ok a)) (orThrow (.ok b)) h h' V SameButSecrets := .ok hV hsame

theorem alike_findSession (userId : Int32) (hsame : h.SameButSecrets h') :
    Alike (findSession userId) (findSession userId) h h' Eq SameButSecrets :=
  .ok (congrArg (AList.lookup userId) hsame.userSessions) hsame

theorem alike_send (session : SessionId) (msg : Message) (hsame : h.SameButSecrets h') :
    Alike (Session.send session msg) (Session.send session msg) h h' Eq SameButSecrets :=
  .ok rfl ⟨hsame.db, hsame.userSessions, congrArg (· ++ [(session, msg)]) hsame.posted, hsame.closing⟩

theorem alike_close (session : SessionId) (hsame : h.SameButSecrets h') :
    Alike (Session.close session) (Session.close session) h h' Eq SameButSecrets :=
  .ok rfl ⟨hsame.db, hsame.userSessions, hsame.posted, congrArg (· ++ [session]) hsame.closing⟩

theorem alike_modify_userSessions (f : Registry → Registry) (hsame : h.SameButSecrets h') :
    Alike (modify fun h => { h with userSessions := f h.userSessions } : HandlerM PUnit)
      (modify fun h => { h with userSessions := f h.userSessions }) h h' Eq SameButSecrets :=
  alike_modify ⟨hsame.db, congrArg f hsame.userSessions, hsame.posted, hsame.closing⟩

/-- A reply whose content is written first. -/
theorem alike_reply (j : Json Bytes Empty) (reply : Bytes → Message) (hsame : h.SameButSecrets h') :
    Alike (do let content ← orThrow (dumpJson j); Session.send session (reply content))
      (do let content ← orThrow (dumpJson j); Session.send session (reply content)) h h' Eq
      SameButSecrets := by
  refine (alike_orThrow _ hsame).bind ?_
  rintro content _ h₁ h₁' rfl hsame₁
  exact alike_send _ _ hsame₁

theorem alike_addFriend (hsame : h.SameButSecrets h') :
    Alike (addFriend env msg) (addFriend env msg) h h' Eq SameButSecrets := by
  unfold addFriend
  refine alike_ite (fun _ => alike_pure rfl hsame) fun _ => ?_
  refine (alike_callDb (Database.alike_addFriend hsame.db) hsame).bind ?_
  rintro added _ h₁ h₁' rfl hsame₁
  refine alike_ite (fun _ => ?_) fun _ => alike_pure rfl hsame₁
  refine (alike_callDb (Database.alike_getUserNameById hsame₁.db) hsame₁).bind ?_
  rintro name _ h₂ h₂' rfl hsame₂
  cases name with
  | none => exact alike_pure rfl hsame₂
  | some username =>
      refine (alike_findSession _ hsame₂).bind ?_
      rintro it _ h₃ h₃' rfl hsame₃
      cases it with
      | none => exact alike_pure rfl hsame₃
      | some session => exact alike_send _ _ hsame₃

theorem alike_ackAddFriend (hsame : h.SameButSecrets h') :
    Alike (ackAddFriend env msg) (ackAddFriend env msg) h h' Eq SameButSecrets := by
  unfold ackAddFriend
  refine alike_ite (fun _ => ?_) fun _ => alike_ite (fun _ => ?_) fun _ => alike_pure rfl hsame
  · exact (alike_callDb (Database.alike_removeFriend hsame.db) hsame).bind
      fun _ _ _ _ _ hsame₁ => alike_pure rfl hsame₁
  · exact (alike_callDb (Database.alike_ackAddFriend hsame.db) hsame).bind
      fun _ _ _ _ _ hsame₁ => alike_pure rfl hsame₁

theorem alike_sendMessageToUser (hsame : h.SameButSecrets h') :
    Alike (sendMessageToUser env msg) (sendMessageToUser env msg) h h' Eq SameButSecrets := by
  unfold sendMessageToUser
  refine (alike_findSession _ hsame).bind ?_
  rintro it _ h₁ h₁' rfl hsame₁
  refine (alike_callDb (Database.alike_storeMessage hsame₁.db) hsame₁).bind ?_
  rintro stored _ h₂ h₂' rfl hsame₂
  cases it with
  | none => exact alike_pure rfl hsame₂
  | some session => exact alike_send _ _ hsame₂

theorem alike_sendGroupMessage {fromUserId groupId : Int32} {content : Bytes}
    (hsame : h.SameButSecrets h') :
    Alike (sendGroupMessage env fromUserId groupId content session)
      (sendGroupMessage env fromUserId groupId content session) h h' Eq SameButSecrets := by
  unfold sendGroupMessage
  refine (alike_get hsame).bind ?_
  intro h₁ h₁' h₂ h₂' hsame₁ hsame₂
  rw [hsame₁.userSessions]
  refine alike_forM (fun it _ _ hsame => ?_) _ hsame₂
  exact alike_ite (fun _ => alike_send _ _ hsame) fun _ => alike_pure rfl hsame

theorem alike_sendFriendList (hsame : h.SameButSecrets h') :
    Alike (sendFriendList env msg session) (sendFriendList env msg session) h h' Eq
      SameButSecrets := by
  unfold sendFriendList
  refine (alike_callDb (Database.alike_getFriendPair hsame.db) hsame).bind ?_
  rintro friendPair _ h₁ h₁' rfl hsame₁
  refine (alike_orThrow _ hsame₁).bind ?_
  rintro friendsList _ h₂ h₂' rfl hsame₂
  exact alike_reply _ _ hsame₂

theorem alike_pushMessage (hsame : h.SameButSecrets h') :
    Alike (pushMessage env msg session) (pushMessage env msg session) h h' Eq SameButSecrets := by
  unfold pushMessage
  refine (alike_callDb (Database.alike_getRecentMessages hsame.db) hsame).bind ?_
  rintro messages _ h₁ h₁' rfl hsame₁
  exact alike_forM (fun m _ _ hsame => alike_send _ _ hsame) _ hsame₁

theorem alike_logoutUser (userId : Int32) (hsame : h.SameButSecrets h') :
    Alike (logoutUser userId session) (logoutUser userId session) h h' Eq SameButSecrets := by
  unfold logoutUser
  refine (alike_findSession _ hsame).bind ?_
  rintro it _ h₁ h₁' rfl hsame₁
  refine alike_ite (fun _ => ?_) fun _ => alike_close _ hsame₁
  exact (alike_modify_userSessions (·.erase userId) hsame₁).bind
    fun _ _ _ _ _ hsame₂ => alike_close _ hsame₂

/-- The user name a sign-up asks for, if it can be read. -/
def signUpName (content : Bytes) : Except Exn Bytes := do
  let j ← parseJson content
  let _ ← member j "password" >>= asString
  member j "username" >>= asString

theorem signsUp_of_signUpName {content username : Bytes} (h : signUpName content = .ok username) :
    ∃ password, SignsUp content password username := by
  unfold signUpName at h
  cases hj : parseJson content with
  | error e =>
      rw [hj] at h
      cases h
  | ok j =>
      rw [hj] at h
      cases hpassword : (member j "password" >>= asString) with
      | error e =>
          have hbind : (member j "password" >>= asString >>= fun _ => member j "username" >>= asString) =
            .ok username := h
          rw [hpassword] at hbind
          cases hbind
      | ok password =>
          have hbind : (member j "password" >>= asString >>= fun _ => member j "username" >>= asString) =
            .ok username := h
          rw [hpassword] at hbind
          exact ⟨password, j, hj, hpassword, hbind⟩

/-- A sign-up that cannot be read does nothing. -/
theorem signUp_of_signUpName [OpenSSL] (msg : Message) {e : Exn} (hname : signUpName msg.content = .error e) :
    signUp env msg session h = .error (.exn e) h := by
  unfold signUpName at hname
  unfold signUp
  cases hj : parseJson msg.content with
  | error e' =>
      rw [hj] at hname
      obtain rfl := Except.error.inj hname
      rfl
  | ok j =>
      rw [hj] at hname
      show (orThrow (member j "password" >>= asString) >>= fun password => _) h = _
      have hbind : (member j "password" >>= asString >>= fun _ => member j "username" >>= asString) =
        .error e := hname
      cases hpassword : (member j "password" >>= asString) with
      | error e' =>
          rw [hpassword] at hbind
          obtain rfl := Except.error.inj hbind
          rfl
      | ok password =>
          rw [hpassword] at hbind
          show (orThrow (member j "username" >>= asString) >>= fun username => _) h = _
          have husername : (member j "username" >>= asString) = .error e := hbind
          rw [husername]
          rfl

/-- Sign-ups under the same name. -/
theorem alike_signUp [OpenSSL] {rand : Vector UInt8 16} {content : Bytes}
    (hname : signUpName msg.content = signUpName content) (hsame : h.SameButSecrets h') :
    Alike (signUp env msg session)
      (signUp { env with rand := rand } { msg with content := content } session) h h' Eq
      SameButSecrets := by
  cases hcontent : signUpName content with
  | error e =>
      unfold Alike
      rw [signUp_of_signUpName msg (hname.trans hcontent),
        signUp_of_signUpName { msg with content := content } hcontent]
      exact .error _ hsame
  | ok username =>
      obtain ⟨password, j, hj, hpassword, husername⟩ := signsUp_of_signUpName (hname.trans hcontent)
      obtain ⟨password', j', hj', hpassword', husername'⟩ := signsUp_of_signUpName hcontent
      unfold signUp
      dsimp only
      rw [hj, hj']
      refine (alike_orThrow_ok (V := fun a b => a = j ∧ b = j') ⟨rfl, rfl⟩ hsame).bind ?_
      rintro _ _ h₁ h₁' ⟨rfl, rfl⟩ hsame₁
      rw [hpassword, hpassword']
      refine (alike_orThrow_ok (V := fun a b => a = password ∧ b = password') ⟨rfl, rfl⟩ hsame₁).bind ?_
      rintro _ _ h₂ h₂' ⟨rfl, rfl⟩ hsame₂
      rw [husername, husername']
      refine (alike_orThrow_ok rfl hsame₂).bind ?_
      rintro _ _ h₃ h₃' rfl hsame₃
      refine (alike_callDb (Database.alike_registerUser hsame₃.db) hsame₃).bind ?_
      rintro uuid _ h₄ h₄' rfl hsame₄
      cases uuid with
      | none => exact alike_pure rfl hsame₄
      | some uuid => exact alike_send _ _ hsame₄

/-- The password of a login is right, and the database can tell. -/
def Opens [OpenSSL] (env : Env) (msg : Message) (h : BusinessHandler) : Bool :=
  match Database.authenticateUser (env.sql 0) (to_string msg.fromUserId) msg.content h.db with
  | .ok name _ => name.isSome
  | .error _ _ => false

theorem alike_authenticate [OpenSSL] {rand : Vector UInt8 16} {content : Bytes}
    (hopens : Opens env msg h = Opens { env with rand := rand } { msg with content := content } h')
    (hsame : h.SameButSecrets h') :
    Alike (Database.authenticateUser (env.sql 0) (to_string msg.fromUserId) msg.content)
      (Database.authenticateUser (env.sql 0) (to_string msg.fromUserId) content) h.db h'.db Eq
      Database.SameButSecrets := by
  refine (Database.alike_authenticateUser _ _ _ hsame.db).returned.mono ?_
  rintro name name' ⟨hnames, ⟨db, hok⟩, db', hok'⟩
  unfold Opens at hopens
  dsimp only at hopens
  rw [hok, hok'] at hopens
  cases name with
  | none =>
      cases name' with
      | none => rfl
      | some n' => cases hopens
  | some n =>
      cases name' with
      | none => cases hopens
      | some n' => exact congrArg some (hnames n rfl n' rfl)

/-- Logins that are decided the same way. -/
theorem alike_loginUser [OpenSSL] {rand : Vector UInt8 16} {content : Bytes}
    (hopens : Opens env msg h = Opens { env with rand := rand } { msg with content := content } h')
    (hsame : h.SameButSecrets h') :
    Alike (loginUser env msg session)
      (loginUser { env with rand := rand } { msg with content := content } session) h h' Eq
      SameButSecrets := by
  unfold loginUser
  refine (alike_callDb (alike_authenticate hopens hsame) hsame).bind ?_
  rintro name _ h₁ h₁' rfl hsame₁
  cases name with
  | none => exact alike_reply _ _ hsame₁
  | some username =>
      refine (alike_findSession _ hsame₁).bind ?_
      rintro it _ h₂ h₂' rfl hsame₂
      refine alike_ite (fun _ => alike_reply _ _ hsame₂) fun _ => ?_
      exact (alike_modify_userSessions (·.insert msg.fromUserId session) hsame₂).bind
        fun _ _ _ _ _ hsame₃ => alike_reply _ _ hsame₃

/-- A wrong password is answered. -/
theorem posted_refused [OpenSSL] (env : Env) (session : SessionId) (msg : Message) {db : Database}
    (hnone : Database.authenticateUser (env.sql 0) (to_string msg.fromUserId) msg.content h.db =
      .ok none db) {content : Bytes}
    (hcontent : dumpJson (loginFail "authenticate fail") = .ok content) :
    (stateOf (loginUser env msg session h)).posted =
      h.posted ++ [(session, loginReply env msg content)] := by
  refine (ends_stateOf (P := fun h₁ : BusinessHandler =>
    h₁.posted = h.posted ++ [(session, loginReply env msg content)])).mp ?_
  unfold loginUser
  rw [ends_bind, ends_callDb, ends_of_ok hnone, ends_bind, ends_orThrow_ok hcontent]
  exact rfl

/-- A right password is not answered so. -/
theorem posted_opened [OpenSSL] (env : Env) (session : SessionId) (msg : Message) {db : Database}
    {name : Bytes}
    (hsome : Database.authenticateUser (env.sql 0) (to_string msg.fromUserId) msg.content h.db =
      .ok (some name) db) {content : Bytes}
    (hcontent : dumpJson (loginFail "authenticate fail") = .ok content) :
    (stateOf (loginUser env msg session h)).posted ≠
      h.posted ++ [(session, loginReply env msg content)] := by
  have hother : ∀ content', content' ≠ content →
      h.posted ++ [(session, loginReply env msg content')] ≠
        h.posted ++ [(session, loginReply env msg content)] := by
    intro content' hne heq
    have hlast := List.append_cancel_left heq
    simp only [List.cons.injEq, and_true, Prod.mk.injEq, true_and] at hlast
    exact hne (congrArg Message.content hlast)
  refine (ends_stateOf (P := fun h₁ : BusinessHandler =>
    h₁.posted ≠ h.posted ++ [(session, loginReply env msg content)])).mp ?_
  unfold loginUser
  rw [ends_bind, ends_callDb, ends_of_ok hsome]
  dsimp only
  rw [ends_bind, ends_findSession, ends_ite]
  constructor
  · intro _
    rw [ends_bind, ends_orThrow]
    refine ⟨fun content' hcontent' => ?_, fun e _ => ?_⟩
    · refine hother content' ?_
      rintro rfl
      rw [← hcontent'] at hcontent
      exact absurd hcontent (by decide +kernel)
    · exact fun heq => absurd (congrArg List.length heq) (by simp)
  · intro _
    rw [ends_bind, ends_modify, ends_bind, ends_orThrow]
    refine ⟨fun content' hcontent' => ?_, fun e _ => ?_⟩
    · refine hother content' ?_
      rintro rfl
      exact loginFail_ne_loginSuccess hcontent hcontent'
    · exact fun heq => absurd (congrArg List.length heq) (by simp)

/-- The replies to two logins are the same only if they are decided the same way. -/
theorem opens_of_posted [OpenSSL] (session : SessionId) {rand : Vector UInt8 16} {content : Bytes}
    (hsame : h.SameButSecrets h')
    (hposted : (stateOf (loginUser env msg session h)).posted =
      (stateOf (loginUser { env with rand := rand } { msg with content := content } session
        h')).posted) :
    Opens env msg h = Opens { env with rand := rand } { msg with content := content } h' := by
  obtain ⟨fail, hfail⟩ := exists_loginFail "authenticate fail"
  have halike := Database.alike_authenticateUser (o := env.sql 0) (to_string msg.fromUserId)
    msg.content content hsame.db
  unfold Opens
  unfold Alike at halike
  dsimp only
  cases hx : Database.authenticateUser (env.sql 0) (to_string msg.fromUserId) msg.content h.db with
  | error e db =>
      cases hy : Database.authenticateUser (env.sql 0) (to_string msg.fromUserId) content h'.db with
      | error e' db' => rfl
      | ok name' db' =>
          rw [hx, hy] at halike
          cases halike
  | ok name db =>
      cases hy : Database.authenticateUser (env.sql 0) (to_string msg.fromUserId) content h'.db with
      | error e' db' =>
          rw [hx, hy] at halike
          cases halike
      | ok name' db' =>
          cases name with
          | none =>
              cases name' with
              | none => rfl
              | some n' =>
                  have hrefused := posted_refused env session msg hx hfail
                  rw [hposted, hsame.posted] at hrefused
                  exact absurd hrefused (posted_opened { env with rand := rand } session
                    { msg with content := content } hy hfail)
          | some n =>
              cases name' with
              | some n' => rfl
              | none =>
                  have hrefused := posted_refused { env with rand := rand } session
                    { msg with content := content } hy hfail
                  rw [← hposted, ← hsame.posted] at hrefused
                  exact absurd hrefused (posted_opened env session msg hx hfail)

/-- The completion of a close erases the same entries. -/
theorem handleDisconnection_same (session : SessionId) (hsame : h.SameButSecrets h') :
    (handleDisconnection session h).SameButSecrets (handleDisconnection session h') :=
  ⟨hsame.db, by rw [handleDisconnection, handleDisconnection, hsame.userSessions], hsame.posted,
    hsame.closing⟩

end Handlers

/-! ## Runs -/

section Runs

variable [OpenSSL] {h h' : BusinessHandler} {e e' : Event}

/-- Two events that differ at most in the random bytes of a salt and in the password of a login or a
sign-up. -/
inductive DifferInSecrets : Event → Event → Prop
  | frame (env : Env) (rand : Vector UInt8 16) (session : SessionId) (msg : Message) (content : Bytes)
      (hcontent : content = msg.content ∨ msg.messageType = .LOGIN ∨
        msg.messageType = .SIGN_UP ∧ signUpName msg.content = signUpName content) :
      DifferInSecrets (.frame env session msg)
        (.frame { env with rand := rand } session { msg with content := content })
  | closed (session : SessionId) : DifferInSecrets (.closed session) (.closed session)

/-- The event is a login with the right password. -/
def Admits (h : BusinessHandler) : Event → Bool
  | .frame env _ msg => msg.messageType = .LOGIN ∧ Opens env msg h = true
  | .closed _ => false

/-- The two events are decided the same way. -/
def DecidedAlike (p : BusinessHandler × BusinessHandler) (e : Event × Event) : Prop :=
  Admits p.1 e.1 = Admits p.2 e.2

instance decidableDecidedAlike (p : BusinessHandler × BusinessHandler) (e : Event × Event) :
    Decidable (DecidedAlike p e) := inferInstanceAs (Decidable (_ = _))

/-- Only a sign-up looks at the random bytes. -/
theorem handle_rand {env : Env} {session : SessionId} {msg : Message} (rand : Vector UInt8 16)
    (hty : msg.messageType ≠ .SIGN_UP) : handleIncomingMessage { env with rand := rand } session msg =
      handleIncomingMessage env session msg := by
  unfold handleIncomingMessage
  cases hmsg : msg.messageType with
  | SIGN_UP => exact absurd hmsg hty
  | _ => rfl

/-- The handling of a frame without a password. -/
theorem alike_handle_same {env : Env} {session : SessionId} {msg : Message}
    (hlogin : msg.messageType ≠ .LOGIN) (hsignUp : msg.messageType ≠ .SIGN_UP)
    (hsame : h.SameButSecrets h') :
    Alike (handleIncomingMessage env session msg) (handleIncomingMessage env session msg) h h' Eq
      SameButSecrets := by
  unfold handleIncomingMessage
  cases hmsg : msg.messageType with
  | SIGN_UP => exact absurd hmsg hsignUp
  | LOGIN => exact absurd hmsg hlogin
  | LOGOUT => exact alike_logoutUser _ hsame
  | TEXT => exact alike_sendMessageToUser hsame
  | ADD_FRIEND => exact alike_addFriend hsame
  | FRIEND_LIST => exact alike_sendFriendList hsame
  | FRIEND_REQUEST_RESPONSE => exact alike_ackAddFriend hsame
  | PRIVATE_CHAT => exact alike_sendMessageToUser hsame
  | GROUP_CHAT => exact alike_sendGroupMessage hsame
  | PULL_MESSAGE => exact alike_pushMessage hsame
  | SIGN_UP_RESPONSE => exact alike_pure rfl hsame
  | LOGIN_RESPONSE => exact alike_pure rfl hsame
  | FRIEND_REQUEST => exact alike_pure rfl hsame

/-- The handling of two frames that differ in secrets, if a login is decided alike. -/
theorem alike_handle {env : Env} {rand : Vector UInt8 16} {session : SessionId} {msg : Message}
    {content : Bytes} (hcontent : content = msg.content ∨ msg.messageType = .LOGIN ∨
      msg.messageType = .SIGN_UP ∧ signUpName msg.content = signUpName content)
    (hopens : msg.messageType = .LOGIN →
      Opens env msg h = Opens { env with rand := rand } { msg with content := content } h')
    (hsame : h.SameButSecrets h') :
    Alike (handleIncomingMessage env session msg)
      (handleIncomingMessage { env with rand := rand } session { msg with content := content }) h h' Eq
      SameButSecrets := by
  by_cases hlogin : msg.messageType = .LOGIN
  · have hlogin' : ({ msg with content := content } : Message).messageType = .LOGIN := hlogin
    rw [handle_login hlogin, handle_login hlogin']
    exact alike_loginUser (hopens hlogin) hsame
  · by_cases hsignUp : msg.messageType = .SIGN_UP
    · have hname : signUpName msg.content = signUpName content := by
        rcases hcontent with rfl | hlogin' | ⟨-, hname⟩
        · rfl
        · exact absurd hlogin' hlogin
        · exact hname
      have hsignUp' : ({ msg with content := content } : Message).messageType = .SIGN_UP := hsignUp
      rw [handle_sign_up hsignUp, handle_sign_up hsignUp']
      exact alike_signUp hname hsame
    · obtain rfl : content = msg.content := by
        rcases hcontent with hcontent | hlogin' | ⟨hsignUp', -⟩
        · exact hcontent
        · exact absurd hlogin' hlogin
        · exact absurd hsignUp' hsignUp
      rw [handle_rand rand hsignUp]
      exact alike_handle_same hlogin hsignUp hsame

/-- If the two events are decided alike, the states differ in secrets alone. -/
theorem step_same (hdiffer : DifferInSecrets e e') (hsame : h.SameButSecrets h')
    (halike : DecidedAlike (h, h') (e, e')) : (step h e).SameButSecrets (step h' e') := by
  cases hdiffer with
  | closed session => exact handleDisconnection_same session hsame
  | frame env rand session msg content hcontent =>
      refine (alike_handle hcontent (fun hty => ?_) hsame).stateOf
      unfold DecidedAlike Admits at halike
      simpa [hty] using halike

/-- If the same messages are posted, the two events are decided alike. -/
theorem decidedAlike_of_posted (hdiffer : DifferInSecrets e e') (hsame : h.SameButSecrets h')
    (hposted : (step h e).posted = (step h' e').posted) : DecidedAlike (h, h') (e, e') := by
  cases hdiffer with
  | closed session => rfl
  | frame env rand session msg content hcontent =>
      unfold DecidedAlike Admits
      by_cases hty : msg.messageType = .LOGIN
      · have hopens : Opens env msg h = Opens { env with rand := rand }
            { msg with content := content } h' := by
          refine opens_of_posted session hsame ?_
          have hty' : ({ msg with content := content } : Message).messageType = .LOGIN := hty
          rw [step, step, handle_login hty, handle_login hty'] at hposted
          exact hposted
        simp [hty, hopens]
      · simp [hty]

/-- **`passwords_stay_secret`** — for any two states that differ at most in the hashes and salts of the
users, and any two runs from them that differ at most in the passwords of sign-ups and logins and in the
random bytes of salts: the same messages are sent to the same sessions at every point of the runs exactly
if every login is decided the same way; and then the two states that are reached differ at most in
hashes and salts, with the same users logged in and the same sessions closed. -/
theorem passwords_stay_secret (hsame : h.SameButSecrets h') (es : List (Event × Event))
    (hes : ∀ e ∈ es, DifferInSecrets e.1 e.2) :
    (Throughout (beside step step) (fun p => p.1.posted = p.2.posted) (h, h') es ↔
      StepsMeet (beside step step) DecidedAlike (h, h') es) ∧
    (StepsMeet (beside step step) DecidedAlike (h, h') es →
      (exec step h (es.map Prod.fst)).SameButSecrets (exec step h' (es.map Prod.snd))) := by
  have hkept : ∀ (p : BusinessHandler × BusinessHandler) (e : Event × Event),
      DifferInSecrets e.1 e.2 → p.1.SameButSecrets p.2 → DecidedAlike p e →
      (beside step step p e).1.SameButSecrets (beside step step p e).2 :=
    fun p e he hp halike => step_same he hp halike
  have hexact : ∀ (p : BusinessHandler × BusinessHandler) (e : Event × Event),
      DifferInSecrets e.1 e.2 → p.1.SameButSecrets p.2 →
      (beside step step p e).1.posted = (beside step step p e).2.posted → DecidedAlike p e :=
    fun p e he hp hposted => decidedAlike_of_posted he hp hposted
  constructor
  · exact throughout_iff_stepsMeet_kept
      (I := fun p : BusinessHandler × BusinessHandler => p.1.SameButSecrets p.2)
      (V := fun e : Event × Event => DifferInSecrets e.1 e.2)
      (fun p hp => hp.posted) hkept hexact hsame hes
  · intro hmeet
    have hlast := exec_preserves_of_stepsMeet
      (I := fun p : BusinessHandler × BusinessHandler => p.1.SameButSecrets p.2)
      (C := fun p (e : Event × Event) => DifferInSecrets e.1 e.2 ∧ DecidedAlike p e)
      (fun p e hp hC => hkept p e hC.1 hp hC.2) hsame
      (fun pre e hpre => ⟨hes e (hpre.subset (by simp)), hmeet pre e hpre⟩)
    rw [exec_beside] at hlast
    exact hlast

end Runs

/-- A stand-in for runs that hash different passwords: the first bytes. -/
abbrev OpenSSL.first : OpenSSL := ⟨fun data => Vector.ofFn fun i => data.getD i 0⟩

/-- "bob" signs up and logs in, with the password "pw" or with the password "qw". -/
def twoPasswords : List (Event × Event) :=
  [(.frame .plain 0 signUpFrame, .frame { Env.plain with rand := Vector.replicate 16 7 } 0
      { signUpFrame with content := str "\x7b\"password\":\"qw\",\"username\":\"bob\"\x7d" }),
    (.frame .plain 0 loginFrame, .frame { Env.plain with rand := Vector.replicate 16 7 } 0
      { loginFrame with content := str "qw" })]

theorem twoPasswords_differ : ∀ e ∈ twoPasswords, DifferInSecrets e.1 e.2 := by
  intro e he
  simp only [twoPasswords, List.mem_cons, List.not_mem_nil, or_false] at he
  rcases he with rfl | rfl
  · exact .frame _ _ _ _ _ (Or.inr (Or.inr ⟨rfl, by decide +kernel⟩))
  · exact .frame _ _ _ _ _ (Or.inr (Or.inl rfl))

/-- The two servers store different hashes and send the same messages. -/
theorem passwords_stay_secret_bob :
    letI := OpenSSL.first
    Throughout (beside step step) (fun p => p.1.posted = p.2.posted) (start .empty 1, start .empty 1)
      twoPasswords ∧
    (exec step (start .empty 1) (twoPasswords.map Prod.fst)).db.tables.users.rows ≠
      (exec step (start .empty 1) (twoPasswords.map Prod.snd)).db.tables.users.rows ∧
    (exec step (start .empty 1) (twoPasswords.map Prod.fst)).posted.length = 2 := by
  have hsame : (start .empty 1).SameButSecrets (start .empty 1) :=
    ⟨⟨⟨rfl, rfl, rfl, rfl⟩, rfl⟩, rfl, rfl, rfl⟩
  have hsecret := @passwords_stay_secret OpenSSL.first _ _ hsame twoPasswords twoPasswords_differ
  exact ⟨hsecret.1.mpr (by decide +kernel), by decide +kernel, by decide +kernel⟩

end BusinessHandler

end TinyIM
