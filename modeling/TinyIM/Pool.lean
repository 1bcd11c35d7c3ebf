/-
# Pool — which outcomes keep the connection pool whole

An operation takes one connection per statement block and gives it back on its last line. Two exits
come before that line: the early return of a failed `prepare`, and an exception thrown while a row of
the history is converted. So each operation, started on a non-empty pool, settles it under the
condition that neither exit is taken, and the condition is read off its statements.

From the conditions of the operations come those of the frames, and from those the exact condition
for a run: the pool is whole in every state if and only if every frame meets its condition.
-/
import TinyIM.Invariants
import TinyIM.Lib.Pooled

namespace TinyIM

open TinyIM.Lib TinyIM.Lib.Text TinyIM.Lib.Table TinyIM.Lib.Runs TinyIM.Lib.Stops
  TinyIM.Lib.Pooled

/-! ## The operations -/

namespace Database

section Statements

variable {α Row : Type} {o : Outcome} {failed : α} {db : Database}

theorem shrinks_withStatement {run : Tables → Except Exn (α × Tables)} :
    Shrinks connection_pool (withStatement o failed run) := by
  intro db
  rw [ends_withStatement]
  refine ⟨fun _ => Nat.le_refl _, ?_⟩
  intro conn rest hpool
  rw [hpool]
  refine ⟨fun _ => Nat.le_succ _, fun _ => ⟨?_, ?_⟩⟩
  · intro a t _
    show (rest ++ [conn]).length ≤ rest.length + 1
    rw [List.length_append, List.length_singleton]
  · exact fun _ _ => Nat.le_succ _

/-- An operation of one statement gives its connection back exactly if the statement was prepared
and its rows could be read. -/
theorem settles_withStatement {run : Tables → Except Exn (α × Tables)} {R : α → Prop}
    (hready : db.Ready) (hR : ∀ a t, run db.tables = .ok (a, t) → R a) :
    Settles .wait connection_pool (withStatement o failed run) db
      (o.prepare = true ∧ ∃ r, run db.tables = .ok r) R False := by
  constructor
  · rintro ⟨hprepare, r, hr⟩
    rw [ends_withStatement]
    refine ⟨fun hempty => absurd hempty hready, ?_⟩
    intro conn rest hpool
    rw [hpool]
    refine ⟨fun hnot => ?_, fun _ => ⟨?_, ?_⟩⟩
    · rw [hprepare] at hnot
      cases hnot
    · intro a t hat
      exact ⟨List.perm_append_singleton conn rest, hR a t hat⟩
    · intro e he
      rw [hr] at he
      cases he
  · intro hnot
    rw [ends_withStatement]
    refine ⟨fun hempty => absurd hempty hready, ?_⟩
    intro conn rest hpool
    rw [hpool]
    refine ⟨fun _ => Nat.lt_succ_self _, fun hprepare => ⟨?_, fun _ _ => Nat.lt_succ_self _⟩⟩
    intro a t hat
    exact absurd ⟨hprepare, _, hat⟩ hnot

theorem settles_writing {write : Tables → Option Tables} (hready : db.Ready) :
    Settles .wait connection_pool (writing o write) db (o.prepare = true) (fun _ => True) False :=
  (settles_withStatement hready fun _ _ _ => trivial).congr
    ⟨fun h => h.1, fun h => ⟨h, _, rfl⟩⟩

theorem settles_reading {rows : Tables → List Row} {convert : List Row → Except Exn α}
    (hready : db.Ready) :
    Settles .wait connection_pool (reading o failed rows convert) db
      (o.prepare = true ∧
        ∃ a, convert (fetch o.step 0 (reorder o.order (rows db.tables))) = .ok a)
      (fun _ => True) False := by
  refine (settles_withStatement hready fun _ _ _ => trivial).congr (and_congr_right fun _ => ?_)
  cases hconv : convert (fetch o.step 0 (reorder o.order (rows db.tables))) with
  | ok a => exact ⟨fun _ => ⟨a, rfl⟩, fun _ => ⟨(a, db.tables), rfl⟩⟩
  | error e =>
      constructor
      · rintro ⟨r, hr⟩
        cases hr
      · rintro ⟨a, ha⟩
        cases ha

/-- A reading whose conversion cannot throw. -/
theorem settles_reading_ok {rows : Tables → List Row} {f : List Row → α} (hready : db.Ready) :
    Settles .wait connection_pool (reading o failed rows fun rs => .ok (f rs)) db (o.prepare = true)
      (fun _ => True) False :=
  (settles_reading hready).congr ⟨fun h => h.1, fun h => ⟨h, _, rfl⟩⟩

theorem ready_of_perm {db' : Database} (hready : db.Ready)
    (hperm : db'.connection_pool.Perm db.connection_pool) : db'.Ready := by
  intro hempty
  rw [hempty] at hperm
  exact hready hperm.symm.eq_nil

end Statements

section Operations

variable {env : Env} {o o₁ o₂ : Outcome} {db : Database} {uuid user_id friend_id : Bytes}

theorem settles_registerUser [OpenSSL] {password username : Bytes} (hready : db.Ready) :
    Settles .wait connection_pool (registerUser env o password username) db (o.prepare = true)
      (fun _ => True) False :=
  (settles_withStatement hready fun _ _ _ => trivial).congr ⟨fun h => h.1, fun h => ⟨h, _, rfl⟩⟩

theorem settles_authenticateUser [OpenSSL] {password : Bytes} (hready : db.Ready) :
    Settles .wait connection_pool (authenticateUser o uuid password) db (o.prepare = true)
      (fun _ => True) False := by
  refine (settles_reading_ok hready).bind_holds ?_
  intro row
  cases row with
  | none => exact holds_pure none
  | some r => exact (holds_pure _).ite (holds_pure _)

/-- Both statements of `addFriend` have an early return. -/
theorem settles_addFriend (hready : db.Ready) :
    Settles .wait connection_pool (addFriend o₁ o₂ user_id friend_id) db
      (o₁.prepare = true ∧ o₂.prepare = true) (fun success => success = (o₁.step 0 && o₂.step 0))
      False := by
  obtain ⟨tables, pool⟩ := db
  cases pool with
  | nil => exact absurd rfl hready
  | cons conn rest =>
      have hstep : ∀ (o : Outcome) (t : Tables) (a b : Bytes),
          (stepDone o (insertFriend a b) t).1 = o.step 0 := by
        intro o t a b
        unfold stepDone
        cases o.step 0 with
        | false => rfl
        | true => rfl
      constructor
      · rintro ⟨h₁, h₂⟩
        unfold addFriend
        rw [ends_bind]
        show Ends (if o₁.prepare = true then _ else _) _ _ _
        rw [h₁, if_pos rfl, ends_bind, ends_onTables]
        refine ⟨?_, fun _ h => by cases h⟩
        intro result1 t₁ hdone₁
        rw [h₂, if_pos rfl, ends_bind, ends_onTables]
        refine ⟨?_, fun _ h => by cases h⟩
        intro result2 t₂ hdone₂
        have hr₁ := hstep o₁ tables user_id friend_id
        have hr₂ := hstep o₂ t₁ friend_id user_id
        rw [Except.ok.inj hdone₁] at hr₁
        rw [Except.ok.inj hdone₂] at hr₂
        exact ⟨List.perm_append_singleton conn rest, congrArg₂ (· && ·) hr₁ hr₂⟩
      · intro hnot
        unfold addFriend
        rw [ends_bind]
        show Ends (if o₁.prepare = true then _ else _) _ _ _
        rw [ends_ite]
        refine ⟨fun h₁ => ?_, fun _ => Nat.lt_succ_self _⟩
        rw [ends_bind, ends_onTables]
        refine ⟨?_, fun _ h => by cases h⟩
        intro result1 t₁ _
        rw [ends_ite]
        exact ⟨fun h₂ => absurd ⟨h₁, h₂⟩ hnot, fun _ => Nat.lt_succ_self _⟩

theorem settles_getFriendPair (hready : db.Ready) :
    Settles .wait connection_pool (getFriendPair o₁ o₂ user_id) db
      (o₁.prepare = true ∧ o₂.prepare = true) (fun _ => True) False := by
  have hzip : ∀ ids names : List Bytes, Holds .wait connection_pool False
      (if ids.length = names.length then return ids.zip names else return [] :
        DbM (List (Bytes × Bytes))) := fun ids names => (holds_pure _).ite (holds_pure _)
  refine (settles_reading_ok hready).bind ?_ ?_
  · intro ids db' _ hperm
    exact (settles_reading_ok (ready_of_perm hready hperm)).bind_holds (hzip ids)
  · intro ids
    exact shrinks_withStatement.bind fun names => (hzip ids names).shrinks

/-- The rows of the history that are read, each converted to a frame. -/
def HistoryConverts (env : Env) (o : Outcome) (user_id : Bytes) (days : Nat) (t : Tables) : Prop :=
  ∀ r ∈ fetch o.step 0 (reorder o.order (recentRows env user_id days t)),
    ∃ m, messageOfRow env r = .ok m

theorem exists_mapM_iff {β γ : Type} {f : β → Except Exn γ} {l : List β} :
    (∃ cs, l.mapM f = .ok cs) ↔ ∀ b ∈ l, ∃ c, f b = .ok c := by
  induction l with
  | nil => exact ⟨fun _ _ hb => absurd hb List.not_mem_nil, fun _ => ⟨[], rfl⟩⟩
  | cons b l ih =>
      rw [List.forall_mem_cons, ← ih, List.mapM_cons]
      cases hb : f b with
      | error e =>
          constructor
          · rintro ⟨cs, hcs⟩
            cases hcs
          · rintro ⟨⟨c, hc⟩, -⟩
            cases hc
      | ok c =>
          cases hl : l.mapM f with
          | error e =>
              constructor
              · rintro ⟨cs, hcs⟩
                cases hcs
              · rintro ⟨-, ⟨cs, hcs⟩⟩
                cases hcs
          | ok cs => exact ⟨fun _ => ⟨⟨c, rfl⟩, ⟨cs, rfl⟩⟩, fun _ => ⟨c :: cs, rfl⟩⟩

theorem settles_getRecentMessages {days : Nat} (hready : db.Ready) :
    Settles .wait connection_pool (getRecentMessages env o user_id days) db
      (o.prepare = true ∧ HistoryConverts env o user_id days db.tables) (fun _ => True) False :=
  (settles_reading hready).congr (and_congr_right fun _ => exists_mapM_iff)

end Operations

/-- The operations, with their arguments and the outcomes of their statements. -/
inductive Operation where
  | registerUser (env : Env) (o : Outcome) (password username : Bytes)
  | setUsername (o : Outcome) (user_id username : Bytes)
  | authenticateUser (o : Outcome) (uuid password : Bytes)
  | getUserNameById (o : Outcome) (user_id : Bytes)
  | addFriend (o₁ o₂ : Outcome) (user_id friend_id : Bytes)
  | ackAddFriend (o : Outcome) (user_id friend_id : Bytes)
  | removeFriend (o : Outcome) (user_id friend_id : Bytes)
  | getFriendListUsername (o : Outcome) (user_id : Bytes)
  | getFriendList (o : Outcome) (user_id : Bytes)
  | getFriendPair (o₁ o₂ : Outcome) (user_id : Bytes)
  | storeMessage (env : Env) (o : Outcome) (from_user_id to_user_id message_type content : Bytes)
  | getRecentMessages (env : Env) (o : Outcome) (user_id : Bytes) (days : Nat)
  | storeOfflineMessage (o : Outcome) (user_id content : Bytes)
  | getOfflineMessages (o : Outcome) (user_id : Bytes)
  | markMessagesAsRead (o : Outcome) (user_id : Bytes)

namespace Operation

/-- Call the operation and drop what it returns. -/
def run [OpenSSL] : Operation → DbM Unit
  | registerUser env o password username => do
    let _ ← Database.registerUser env o password username
  | setUsername o user_id username => do let _ ← Database.setUsername o user_id username
  | authenticateUser o uuid password => do let _ ← Database.authenticateUser o uuid password
  | getUserNameById o user_id => do let _ ← Database.getUserNameById o user_id
  | addFriend o₁ o₂ user_id friend_id => do let _ ← Database.addFriend o₁ o₂ user_id friend_id
  | ackAddFriend o user_id friend_id => do let _ ← Database.ackAddFriend o user_id friend_id
  | removeFriend o user_id friend_id => do let _ ← Database.removeFriend o user_id friend_id
  | getFriendListUsername o user_id => do let _ ← Database.getFriendListUsername o user_id
  | getFriendList o user_id => do let _ ← Database.getFriendList o user_id
  | getFriendPair o₁ o₂ user_id => do let _ ← Database.getFriendPair o₁ o₂ user_id
  | storeMessage env o from_user_id to_user_id message_type content => do
    let _ ← Database.storeMessage env o from_user_id to_user_id message_type content
  | getRecentMessages env o user_id days => do
    let _ ← Database.getRecentMessages env o user_id days
  | storeOfflineMessage o user_id content => do
    let _ ← Database.storeOfflineMessage o user_id content
  | getOfflineMessages o user_id => do let _ ← Database.getOfflineMessages o user_id
  | markMessagesAsRead o user_id => do let _ ← Database.markMessagesAsRead o user_id

/-- Every `prepare` of the operation succeeds, and so does the conversion of every row it reads. -/
def Completes (db : Database) : Operation → Prop
  | addFriend o₁ o₂ _ _ | getFriendPair o₁ o₂ _ => o₁.prepare = true ∧ o₂.prepare = true
  | getRecentMessages env o user_id days =>
    o.prepare = true ∧ HistoryConverts env o user_id days db.tables
  | registerUser _ o _ _ | setUsername o _ _ | authenticateUser o _ _ | getUserNameById o _
  | ackAddFriend o _ _ | removeFriend o _ _ | getFriendListUsername o _ | getFriendList o _
  | storeMessage _ o _ _ _ _ | storeOfflineMessage o _ _ | getOfflineMessages o _
  | markMessagesAsRead o _ => o.prepare = true

/-- Every operation gives its connections back exactly if it completes. -/
theorem settles_run [OpenSSL] {db : Database} (hready : db.Ready) (op : Operation) :
    Settles .wait connection_pool op.run db (op.Completes db) (fun _ => True) False := by
  cases op with
  | registerUser => exact (settles_registerUser hready).bind_holds fun _ => holds_pure ()
  | setUsername => exact (settles_writing hready).bind_holds fun _ => holds_pure ()
  | authenticateUser => exact (settles_authenticateUser hready).bind_holds fun _ => holds_pure ()
  | getUserNameById => exact (settles_reading_ok hready).bind_holds fun _ => holds_pure ()
  | addFriend => exact (settles_addFriend hready).bind_holds fun _ => holds_pure ()
  | ackAddFriend => exact (settles_writing hready).bind_holds fun _ => holds_pure ()
  | removeFriend => exact (settles_writing hready).bind_holds fun _ => holds_pure ()
  | getFriendListUsername => exact (settles_reading_ok hready).bind_holds fun _ => holds_pure ()
  | getFriendList => exact (settles_reading_ok hready).bind_holds fun _ => holds_pure ()
  | getFriendPair => exact (settles_getFriendPair hready).bind_holds fun _ => holds_pure ()
  | storeMessage => exact (settles_writing hready).bind_holds fun _ => holds_pure ()
  | getRecentMessages => exact (settles_getRecentMessages hready).bind_holds fun _ => holds_pure ()
  | storeOfflineMessage => exact (settles_writing hready).bind_holds fun _ => holds_pure ()
  | getOfflineMessages => exact (settles_reading_ok hready).bind_holds fun _ => holds_pure ()
  | markMessagesAsRead => exact (settles_writing hready).bind_holds fun _ => holds_pure ()

end Operation

end Database

/-! ## The frames -/

namespace BusinessHandler

/-- The idle connections of the handler's database. -/
def idle (h : BusinessHandler) : List Conn := h.db.connection_pool

section Frames

variable {α : Type} {h : BusinessHandler} {C T : Prop} {R : α → Prop} {env : Env}
  {session : SessionId} {msg : Message}

theorem settles_callDb {x : DbM α} (hx : Settles .wait Database.connection_pool x h.db C R False) :
    Settles .wait idle (callDb x) h C R False :=
  ⟨fun hC => ends_callDb.mpr (hx.kept hC), fun hC => ends_callDb.mpr (hx.lost hC)⟩

theorem shrinks_callDb {x : DbM α} (hx : Shrinks Database.connection_pool x) :
    Shrinks idle (callDb x) := fun h => ends_callDb.mpr (hx h.db)

theorem holds_orThrow (x : Except Exn α) : Holds .wait idle True (orThrow x) := by
  intro h
  rw [ends_orThrow]
  exact ⟨fun _ _ => rfl, fun _ _ => ⟨⟨trivial, Stop.noConfusion⟩, rfl⟩⟩

theorem holds_send (session : SessionId) (msg : Message) : Holds .wait idle T (Session.send session msg) :=
  fun _ => rfl

theorem holds_close (session : SessionId) : Holds .wait idle T (Session.close session) := fun _ => rfl

theorem holds_register (registry : BusinessHandler → Registry) : Holds .wait idle T
    (modify fun h => { h with userSessions := registry h } : HandlerM Unit) := fun _ => rfl

theorem holds_get : Holds .wait idle T (get : HandlerM BusinessHandler) := fun _ => rfl

theorem holds_findSession (userId : Int32) : Holds .wait idle T (findSession userId) := fun _ => rfl

/-- The `prepare` calls a frame makes all succeed, and so does the conversion of every row it reads
of the history. -/
def Completes (h : BusinessHandler) (env : Env) (msg : Message) : Prop :=
  match msg.messageType with
  | .SIGN_UP =>
    (∃ password username, SignsUp msg.content password username) → (env.sql 0).prepare = true
  | .LOGIN | .TEXT | .PRIVATE_CHAT => (env.sql 0).prepare = true
  | .ADD_FRIEND => msg.fromUserId ≠ msg.toUserId →
    ((env.sql 0).prepare = true ∧ (env.sql 1).prepare = true) ∧
      ((env.sql 0).step 0 = true ∧ (env.sql 1).step 0 = true → (env.sql 2).prepare = true)
  | .FRIEND_LIST => (env.sql 0).prepare = true ∧ (env.sql 1).prepare = true
  | .FRIEND_REQUEST_RESPONSE =>
    msg.content = str "reject" ∨ msg.content = str "accept" → (env.sql 0).prepare = true
  | .PULL_MESSAGE => (env.sql 0).prepare = true ∧
    Database.HistoryConverts env (env.sql 0) (to_string msg.fromUserId) 1 h.db.tables
  | .LOGOUT | .GROUP_CHAT | .SIGN_UP_RESPONSE | .LOGIN_RESPONSE | .FRIEND_REQUEST => True

@[simp] theorem orThrow_ok (a : α) : orThrow (.ok a) = (pure a : HandlerM α) := rfl

theorem settles_signUp [OpenSSL] (hready : h.db.Ready) :
    Settles .wait idle (signUp env msg session) h
      ((∃ password username, SignsUp msg.content password username) → (env.sql 0).prepare = true)
      (fun _ => True) True := by
  have hthrows : ∀ e, (¬∃ password username, SignsUp msg.content password username) →
      Settles .wait idle (orThrow (.error e) : HandlerM Unit) h
        ((∃ password username, SignsUp msg.content password username) →
          (env.sql 0).prepare = true) (fun _ => True) True := fun e hnot =>
    ((holds_orThrow _).settles h).congr ⟨fun _ hfields => absurd hfields hnot, fun _ => trivial⟩
  unfold signUp
  cases hj : parseJson msg.content with
  | error e =>
      refine hthrows e ?_
      rintro ⟨password, username, j, hj', -, -⟩
      rw [hj] at hj'
      cases hj'
  | ok j =>
      rw [orThrow_ok, pure_bind]
      cases hpassword : (member j "password" >>= asString) with
      | error e =>
          refine hthrows e ?_
          rintro ⟨password, username, j', hj', hpassword', -⟩
          rw [hj] at hj'
          rw [← Except.ok.inj hj', hpassword] at hpassword'
          cases hpassword'
      | ok password =>
          rw [orThrow_ok, pure_bind]
          cases husername : (member j "username" >>= asString) with
          | error e =>
              refine hthrows e ?_
              rintro ⟨password, username, j', hj', -, husername'⟩
              rw [hj] at hj'
              rw [← Except.ok.inj hj', husername] at husername'
              cases husername'
          | ok username =>
              rw [orThrow_ok, pure_bind]
              refine ((settles_callDb (Database.settles_registerUser hready)).bind_holds ?_).congr ?_
              · intro uuid
                cases uuid with
                | none => exact holds_pure ()
                | some uuid => exact holds_send _ _
              · exact ⟨fun hC _ => hC, fun hC => hC ⟨password, username, j, hj, hpassword, husername⟩⟩

theorem settles_loginUser [OpenSSL] (hready : h.db.Ready) :
    Settles .wait idle (loginUser env msg session) h ((env.sql 0).prepare = true) (fun _ => True) True := by
  have hreply : ∀ reply : Json Bytes Empty, Holds .wait idle True (do
      let content ← orThrow (dumpJson reply)
      Session.send session
        (.new env msg.fromUserId 0 .LOGIN_RESPONSE (env.junk + 1) content) : HandlerM Unit) :=
    fun reply => (holds_orThrow _).bind fun _ => holds_send _ _
  refine (settles_callDb (Database.settles_authenticateUser hready)).bind_holds ?_
  intro username
  cases username with
  | none => exact hreply _
  | some username =>
      refine (holds_findSession _).bind fun it => (hreply _).ite ?_
      exact (holds_register _).bind fun _ => hreply _

theorem settles_sendMessageToUser (hready : h.db.Ready) :
    Settles .wait idle (sendMessageToUser env msg) h ((env.sql 0).prepare = true) (fun _ => True) True := by
  unfold sendMessageToUser
  refine settles_bind_ok (x := findSession msg.toUserId) rfl ?_
  refine (settles_callDb (Database.settles_writing hready)).bind_holds ?_
  intro _
  cases h.userSessions.lookup msg.toUserId with
  | none => exact holds_pure ()
  | some session => exact holds_send _ _

/-- What `addFriend` does with the name of the requester. -/
theorem holds_notify : ∀ username : Option Bytes, Holds .wait idle True (match username with
    | some username => do
      match ← findSession msg.toUserId with
      | some session =>
        Session.send session
          (.new env msg.fromUserId msg.toUserId .FRIEND_REQUEST (env.junk + 1) username)
      | none => return ()
    | none => return () : HandlerM Unit)
  | none => holds_pure ()
  | some username => by
      refine (holds_findSession _).bind fun it => ?_
      cases it with
      | none => exact holds_pure ()
      | some session => exact holds_send _ _

/-- The lookup of the requester's name is reached when both inserts were done. -/
theorem settles_addFriend (hready : h.db.Ready) :
    Settles .wait idle (addFriend env msg) h (msg.fromUserId ≠ msg.toUserId →
      ((env.sql 0).prepare = true ∧ (env.sql 1).prepare = true) ∧
        ((env.sql 0).step 0 = true ∧ (env.sql 1).step 0 = true → (env.sql 2).prepare = true))
      (fun _ => True) True := by
  unfold addFriend
  by_cases hself : msg.fromUserId = msg.toUserId
  · rw [if_pos hself]
    exact ((holds_pure ()).settles h).congr ⟨fun _ hne => absurd hself hne, fun _ => trivial⟩
  · rw [if_neg hself]
    refine Settles.congr ((settles_callDb (Database.settles_addFriend hready)).bind
      (D := (env.sql 0).step 0 = true ∧ (env.sql 1).step 0 = true → (env.sql 2).prepare = true) ?_ ?_)
      ⟨fun hC _ => hC, fun hC => hC hself⟩
    · intro success h' hsuccess hperm
      cases success with
      | true =>
          have hsteps := Bool.and_eq_true_iff.mp hsuccess.symm
          have hready' := Database.ready_of_perm hready hperm
          exact ((settles_callDb (Database.settles_reading_ok hready')).bind_holds holds_notify).congr
            ⟨fun hC _ => hC, fun hC => hC hsteps⟩
      | false =>
          refine ((holds_pure ()).settles h').congr ⟨fun _ hsteps => ?_, fun _ => trivial⟩
          rw [hsteps.1, hsteps.2] at hsuccess
          cases hsuccess
    · intro success
      refine Shrinks.ite ?_ (shrinks_pure ())
      exact (shrinks_callDb Database.shrinks_withStatement).bind fun username =>
        (holds_notify username).shrinks

theorem settles_ackAddFriend (hready : h.db.Ready) :
    Settles .wait idle (ackAddFriend env msg) h
      (msg.content = str "reject" ∨ msg.content = str "accept" → (env.sql 0).prepare = true)
      (fun _ => True) True := by
  unfold ackAddFriend
  have hcall : ∀ x : DbM Bool, Settles .wait Database.connection_pool x h.db ((env.sql 0).prepare = true)
      (fun _ => True) False → Settles .wait idle (do
        let _ ← callDb x
        return () : HandlerM Unit) h ((env.sql 0).prepare = true) (fun _ => True) True := by
    intro x hx
    exact (settles_callDb hx).bind_holds fun _ => holds_pure ()
  by_cases hreject : msg.content = str "reject"
  · rw [if_pos hreject]
    exact (hcall _ (Database.settles_writing hready)).congr
      ⟨fun hC _ => hC, fun hC => hC (Or.inl hreject)⟩
  · rw [if_neg hreject]
    by_cases haccept : msg.content = str "accept"
    · rw [if_pos haccept]
      exact (hcall _ (Database.settles_writing hready)).congr
        ⟨fun hC _ => hC, fun hC => hC (Or.inr haccept)⟩
    · rw [if_neg haccept]
      exact ((holds_pure ()).settles h).congr
        ⟨fun _ hcontent => absurd hcontent (not_or.mpr ⟨hreject, haccept⟩), fun _ => trivial⟩

theorem settles_sendFriendList (hready : h.db.Ready) :
    Settles .wait idle (sendFriendList env msg session) h
      ((env.sql 0).prepare = true ∧ (env.sql 1).prepare = true) (fun _ => True) True :=
  (settles_callDb (Database.settles_getFriendPair hready)).bind_holds fun _ =>
    (holds_orThrow _).bind fun _ => (holds_orThrow _).bind fun _ => holds_send _ _

theorem settles_pushMessage (hready : h.db.Ready) :
    Settles .wait idle (pushMessage env msg session) h ((env.sql 0).prepare = true ∧
      Database.HistoryConverts env (env.sql 0) (to_string msg.fromUserId) 1 h.db.tables)
      (fun _ => True) True :=
  (settles_callDb (Database.settles_getRecentMessages hready)).bind_holds fun _ =>
    holds_forM (fun _ => holds_send _ _) _

theorem holds_logoutUser (userId : Int32) : Holds .wait idle True (logoutUser userId session) :=
  (holds_findSession _).bind fun _ =>
    ((holds_register _).bind fun _ => holds_close _).ite (holds_close _)

theorem holds_sendGroupMessage (fromUserId groupId : Int32) (content : Bytes) :
    Holds .wait idle True (sendGroupMessage env fromUserId groupId content session) :=
  holds_get.bind fun _ => holds_forM (fun _ => (holds_send _ _).ite (holds_pure ())) _

/-- **`settles_handleIncomingMessage`** — the pool survives a frame exactly if the frame completes. -/
theorem settles_handleIncomingMessage [OpenSSL] (hready : h.db.Ready) :
    Settles .wait idle (handleIncomingMessage env session msg) h (Completes h env msg) (fun _ => True)
      True := by
  unfold handleIncomingMessage Completes
  cases msg.messageType with
  | SIGN_UP => exact settles_signUp hready
  | LOGIN => exact settles_loginUser hready
  | LOGOUT => exact (holds_logoutUser _).settles h
  | TEXT => exact settles_sendMessageToUser hready
  | PRIVATE_CHAT => exact settles_sendMessageToUser hready
  | ADD_FRIEND => exact settles_addFriend hready
  | FRIEND_LIST => exact settles_sendFriendList hready
  | FRIEND_REQUEST_RESPONSE => exact settles_ackAddFriend hready
  | GROUP_CHAT => exact (holds_sendGroupMessage _ _ _).settles h
  | PULL_MESSAGE => exact settles_pushMessage hready
  | SIGN_UP_RESPONSE => exact (holds_pure ()).settles h
  | LOGIN_RESPONSE => exact (holds_pure ()).settles h
  | FRIEND_REQUEST => exact (holds_pure ()).settles h

/-! ## Runs -/

/-- The event completes in the state it reaches. -/
def Event.Completes (h : BusinessHandler) : Event → Prop
  | .frame env _ msg => BusinessHandler.Completes h env msg
  | .closed _ => True

/-- One event keeps the pool whole exactly if it completes. -/
theorem idle_step [OpenSSL] (hready : h.db.Ready) (e : Event) :
    (step h e).idle.Perm h.idle ↔ e.Completes h := by
  cases e with
  | frame env session msg => exact (settles_handleIncomingMessage hready).perm_iff
  | closed session => exact ⟨fun _ => trivial, fun _ => List.Perm.refl _⟩

end Frames

theorem ready_of_idle {h : BusinessHandler} {pool_size : Nat} (hsize : 1 ≤ pool_size)
    (hperm : h.idle.Perm (List.range pool_size)) : h.db.Ready := by
  intro hempty
  have hlength := hperm.length_eq
  rw [idle, hempty, List.length_range] at hlength
  exact absurd hlength.symm (Nat.ne_of_gt hsize)

/-- In a run that starts with some connections, the pool is whole in every state exactly if every
event completes. -/
theorem throughout_idle_iff [OpenSSL] (tables : Tables) {pool_size : Nat} (hsize : 1 ≤ pool_size)
    (es : List Event) :
    Throughout step (fun h => h.idle.Perm (List.range pool_size)) (start tables pool_size) es ↔
      StepsMeet step (fun h e => e.Completes h) (start tables pool_size) es := by
  refine throughout_iff_stepsMeet (I := fun _ => True) (fun _ _ _ => trivial) ?_ trivial ?_ es
  · intro h e _ hperm
    rw [← idle_step (ready_of_idle hsize hperm) e]
    exact ⟨fun hperm' => hperm'.trans hperm.symm, fun hstep => hstep.trans hperm⟩
  · exact List.Perm.refl _

/-- **`pool_whole_iff`** — an operation on a non-empty pool ends with the connections it began with
exactly if its `prepare` calls and row conversions succeed; a run of requests from a freshly filled
pool keeps it whole exactly if every request is of that kind, and then no request waits. -/
theorem pool_whole_iff [OpenSSL] :
    (∀ (op : Database.Operation) (db : Database), db.Ready →
      ((stateOf (op.run db)).connection_pool.Perm db.connection_pool ↔ op.Completes db)) ∧
    ∀ (tables : Tables) (pool_size : Nat), 1 ≤ pool_size → ∀ es : List Event,
      (Throughout step (fun h => h.idle.Perm (List.range pool_size)) (start tables pool_size) es ↔
        StepsMeet step (fun h e => e.Completes h) (start tables pool_size) es) ∧
      (StepsMeet step (fun h e => e.Completes h) (start tables pool_size) es →
        ∀ pre env session msg, pre ++ [.frame env session msg] <+: es → ∀ h',
          handleIncomingMessage env session msg (exec step (start tables pool_size) pre) ≠
            .error .wait h') := by
  refine ⟨fun op db hready => (op.settles_run hready).perm_iff, ?_⟩
  intro tables pool_size hsize es
  refine ⟨throughout_idle_iff tables hsize es, ?_⟩
  intro hmeet pre env session msg hpre h'
  have hperm := (throughout_idle_iff tables hsize es).mpr hmeet pre
    ((List.prefix_append pre _).trans hpre)
  have hready := ready_of_idle hsize hperm
  exact (settles_handleIncomingMessage hready).not_wait (hmeet pre _ hpre) h'

/-- One chat frame on a pool of one connection. -/
theorem pool_whole_chat :
    letI := OpenSSL.zero
    (stateOf ((Database.Operation.removeFriend .good (str "1") (str "2")).run
      ⟨.empty, [0]⟩)).connection_pool.Perm [0] ∧
    Throughout step (fun h => h.idle.Perm (List.range 1)) (start .empty 1)
      [.frame .plain 0 (chatFrame (str "hello"))] ∧
    ∀ h', handleIncomingMessage .plain 0 (chatFrame (str "hello")) (start .empty 1) ≠ .error .wait h' := by
  let _ := OpenSSL.zero
  have hready : Database.Ready ⟨.empty, [0]⟩ := by simp [Database.Ready]
  have hops := pool_whole_iff.1 (.removeFriend .good (str "1") (str "2")) _ hready
  have hruns := pool_whole_iff.2 .empty 1 (Nat.le_refl 1) [.frame .plain 0 (chatFrame (str "hello"))]
  have hmeet : StepsMeet step (fun h e => e.Completes h) (start .empty 1)
      [.frame .plain 0 (chatFrame (str "hello"))] := stepsMeet_cons.mpr ⟨rfl, stepsMeet_nil⟩
  exact ⟨hops.mpr rfl, hruns.1.mpr hmeet,
    hruns.2 hmeet [] .plain 0 (chatFrame (str "hello")) (List.prefix_refl _)⟩

/-- A chat frame whose statement cannot be prepared takes the only connection with it, and the next
one waits for ever. -/
theorem pool_drained :
    letI := OpenSSL.zero
    let unprepared : Env := { Env.plain with sql := fun _ => .unprepared }
    (stateOf ((Database.Operation.removeFriend .unprepared (str "1") (str "2")).run
      ⟨.empty, [0]⟩)).connection_pool = [] ∧
    (exec step (start .empty 1) [.frame unprepared 0 (chatFrame (str "hello"))]).idle = [] ∧
    ∃ h', handleIncomingMessage .plain 0 (chatFrame (str "hello"))
      (exec step (start .empty 1) [.frame unprepared 0 (chatFrame (str "hello"))]) = .error .wait h' :=
  ⟨rfl, rfl, _, rfl⟩

end BusinessHandler

end TinyIM
