/-
# Database — the tables, the connection pool, and the operations on them

The state is the SQLite file (four tables with the keys of their schema) and the queue of idle
connections. An operation takes a connection, prepares one statement, runs it, gives the connection
back and returns; that shape is `withStatement`, and the operations are written as the source has
them on top of it, `addFriend` (two statements on one connection) apart. What `withStatement` does
not hide is where the source loses a connection: the early return after a failed `prepare`, and an
exception thrown by the conversion of a row.

A text is bound up to its first NUL and read back the same way (`cstr`). No statement binds a null
pointer, so no text column is ever NULL. A comparison of two `datetime` texts is a comparison of the
seconds they stand for, and the tables hold the seconds.
-/
import TinyIM.Message

namespace TinyIM

open TinyIM.Lib TinyIM.Lib.Text TinyIM.Lib.Table

/-! ## Tables -/

/-- A row of `users`. -/
structure UserRow where
  user_id : Bytes
  username : Bytes
  password_hash : Bytes
  salt : Bytes
  deriving DecidableEq

/-- A row of `friends`; status 0 is pending, 1 is accepted. -/
structure FriendRow where
  user_id : Bytes
  friend_id : Bytes
  status : Nat
  deriving DecidableEq

/-- The primary key of `friends`. -/
def FriendRow.key (r : FriendRow) : Bytes × Bytes := (r.user_id, r.friend_id)

theorem FriendRow.key_accepted (r : FriendRow) : { r with status := 1 }.key = r.key := rfl

/-- A row of `messages`. -/
structure MessageRow where
  message_id : Nat
  from_user_id : Bytes
  to_user_id : Bytes
  message_type : Bytes
  content : Bytes
  timestamp : Int
  deriving DecidableEq

/-- A row of `offline_messages`. -/
structure OfflineRow where
  message_id : Nat
  user_id : Bytes
  content : Bytes
  deriving DecidableEq

/-- The contents of the database file. -/
@[ext]
structure Tables where
  users : Keyed UserRow UserRow.user_id
  friends : Keyed FriendRow FriendRow.key
  messages : Serial MessageRow MessageRow.message_id
  offline_messages : Serial OfflineRow OfflineRow.message_id

/-- A freshly created database file. -/
def Tables.empty : Tables := ⟨.empty, .empty, .empty, .empty⟩

/-! ## The connection pool -/

/-- A connection to the database file. -/
abbrev Conn := Nat

/-- The database singleton. -/
@[ext]
structure Database where
  tables : Tables
  /-- The idle connections, the front of the queue first. -/
  connection_pool : List Conn

/-- A computation on the database that may stop, by an exception or by waiting forever; what it did
before it stopped stays done. -/
abbrev DbM := EStateM Stop Database

namespace Database

/-- `init`: push `pool_size` connections. -/
def init (db : Database) (pool_size : Nat) : Database :=
  { db with connection_pool := db.connection_pool ++ List.range pool_size }

/-- Take the front of the queue; on an empty one, wait for a connection to be pushed. -/
def getConnection : DbM Conn := fun db =>
  match db.connection_pool with
  | [] => .error .wait db
  | conn :: rest => .ok conn { db with connection_pool := rest }

/-- `connection_pool_.push(conn)`. -/
def pushConnection (conn : Conn) : DbM Unit := fun db =>
  .ok () { db with connection_pool := db.connection_pool ++ [conn] }

/-- Run a prepared statement against the tables. -/
def onTables {α : Type} (run : Tables → Except Exn (α × Tables)) : DbM α := fun db =>
  match run db.tables with
  | .ok (a, tables) => .ok a { db with tables := tables }
  | .error e => .error (.exn e) db

/-- The shape of the operations: connection, `prepare`, statement, connection back. A failed
`prepare` returns `failed` at once and does not give the connection back, and neither does an
exception thrown while the rows are read. -/
def withStatement {α : Type} (o : Outcome) (failed : α)
    (run : Tables → Except Exn (α × Tables)) : DbM α := do
  let conn ← getConnection
  if o.prepare then
    let a ← onTables run
    pushConnection conn
    return a
  else return failed

/-- `sqlite3_step(stmt) == SQLITE_DONE` for a statement that writes: `write` is what it does to the
tables, `none` for a violated constraint. -/
def stepDone (o : Outcome) (write : Tables → Option Tables) (tables : Tables) : Bool × Tables :=
  if o.step 0 then
    match write tables with
    | some tables => (true, tables)
    | none => (false, tables)
  else (false, tables)

/-- An operation that is one writing statement and returns whether it was done. -/
def writing (o : Outcome) (write : Tables → Option Tables) : DbM Bool :=
  withStatement o false fun tables => .ok (stepDone o write tables)

/-- An operation that reads the rows of one `SELECT`. -/
def reading {Row α : Type} (o : Outcome) (failed : α) (rows : Tables → List Row)
    (convert : List Row → Except Exn α) : DbM α :=
  withStatement o failed fun tables => do
    let a ← convert (fetch o.step 0 (reorder o.order (rows tables)))
    return (a, tables)

/-! ## User operations -/

/-- Nine draws from the digits 1 to 9. -/
def generateUUID (env : Env) : Bytes :=
  env.draw.toList.map fun i : Fin 9 => (str "123456789").getD i.val 0

/-- Sixteen random bytes in hexadecimal. -/
def generateSalt (env : Env) : Bytes := hex env.rand.toList

/-- The digest of the salted password, in hexadecimal. -/
def hashPassword [OpenSSL] (password salt : Bytes) : Bytes :=
  hex (OpenSSL.sha256 (password ++ salt)).toList

/-- Insert a user under a fresh id and return the id. -/
def registerUser [OpenSSL] (env : Env) (o : Outcome) (password username : Bytes) :
    DbM (Option Bytes) :=
  let user_id := generateUUID env
  let salt := generateSalt env
  let password_hash := hashPassword password salt
  withStatement o none fun tables =>
    let (success, tables) := stepDone o (fun t =>
      (t.users.insert ⟨cstr user_id, cstr username, cstr password_hash, cstr salt⟩).map
        fun users => { t with users := users }) tables
    .ok (if success then some user_id else none, tables)

/-- Overwrite the name of a user. -/
def setUsername (o : Outcome) (user_id username : Bytes) : DbM Bool :=
  writing o fun t => some { t with
    users := t.users.updateWhere (fun r => r.user_id = cstr user_id)
      (fun r => { r with username := cstr username }) fun _ => rfl }

/-- The name of the user if the password is right. -/
def authenticateUser [OpenSSL] (o : Outcome) (uuid password : Bytes) : DbM (Option Bytes) := do
  let row ← reading o none (fun t => t.users.rows.filter fun r => r.user_id = cstr uuid)
    fun rows => .ok rows.head?
  match row with
  | some r =>
    if hashPassword password (cstr r.salt) = cstr r.password_hash then
      return some (cstr r.username)
    else return none
  | none => return none

/-- The name of a user. -/
def getUserNameById (o : Outcome) (user_id : Bytes) : DbM (Option Bytes) :=
  reading o none (fun t => t.users.rows.filter fun r => r.user_id = cstr user_id)
    fun rows => .ok (rows.head?.map fun r => cstr r.username)

/-! ## Friend operations -/

/-- `INSERT OR IGNORE INTO friends … VALUES (?, ?, 0)`. -/
def insertFriend (user_id friend_id : Bytes) (t : Tables) : Option Tables :=
  some { t with friends := t.friends.insertOrIgnore ⟨cstr user_id, cstr friend_id, 0⟩ }

/-- Insert both directions of a pending request, with two statements on one connection. The second
one is tried whatever the first step returned. -/
def addFriend (o₁ o₂ : Outcome) (user_id friend_id : Bytes) : DbM Bool := do
  let conn ← getConnection
  if o₁.prepare then
    let result1 ← onTables fun t => .ok (stepDone o₁ (insertFriend user_id friend_id) t)
    if o₂.prepare then
      let result2 ← onTables fun t => .ok (stepDone o₂ (insertFriend friend_id user_id) t)
      pushConnection conn
      return result1 && result2
    -- both early returns keep the connection
    else return false
  else return false

/-- Accept a request: both directions become accepted. -/
def ackAddFriend (o : Outcome) (user_id friend_id : Bytes) : DbM Bool :=
  writing o fun t => some { t with
    friends := t.friends.updateWhere
      (fun r => (r.user_id = cstr user_id ∧ r.friend_id = cstr friend_id) ∨
        (r.friend_id = cstr user_id ∧ r.user_id = cstr friend_id))
      (fun r => { r with status := 1 }) FriendRow.key_accepted }

/-- Delete one direction of a pair. -/
def removeFriend (o : Outcome) (user_id friend_id : Bytes) : DbM Bool :=
  writing o fun t => some { t with
    friends := t.friends.deleteWhere fun r =>
      r.user_id = cstr user_id ∧ r.friend_id = cstr friend_id }

/-- The rows `friends f JOIN users u ON f.friend_id = u.user_id` selects for one user. -/
def friendUsers (user_id : Bytes) (t : Tables) : List UserRow :=
  (t.friends.rows.filter fun f => f.user_id = cstr user_id ∧ f.status = 1).flatMap fun f =>
    t.users.rows.filter fun u => f.friend_id = u.user_id

/-- The names of the friends that are registered users. -/
def getFriendListUsername (o : Outcome) (user_id : Bytes) : DbM (List Bytes) :=
  reading o [] (friendUsers user_id) fun rows => .ok (rows.map fun u => cstr u.username)

/-- The ids of the friends. -/
def getFriendList (o : Outcome) (user_id : Bytes) : DbM (List Bytes) :=
  reading o [] (fun t => t.friends.rows.filter fun f => f.user_id = cstr user_id ∧ f.status = 1)
    fun rows => .ok (rows.map fun f => cstr f.friend_id)

/-- Ids and names zipped, or nothing at all when the two lists differ in length. -/
def getFriendPair (o₁ o₂ : Outcome) (user_id : Bytes) : DbM (List (Bytes × Bytes)) := do
  let friendId ← getFriendList o₁ user_id
  let friendUsername ← getFriendListUsername o₂ user_id
  -- a friend who is not in `users` has an id and no name
  if friendId.length = friendUsername.length then return friendId.zip friendUsername
  else return []

/-! ## Message operations -/

/-- Append a chat message with the current time. -/
def storeMessage (env : Env) (o : Outcome)
    (from_user_id to_user_id message_type content : Bytes) : DbM Bool :=
  writing o fun t => some { t with
    messages := t.messages.append (fun id => ⟨id, cstr from_user_id, cstr to_user_id,
      cstr message_type, cstr content, env.now.toInt⟩) fun _ => rfl }

/-- The frame a stored row is turned into: the row's id becomes the message id, and the timestamp is
the one the constructor sets. -/
def messageOfRow (env : Env) (r : MessageRow) : Except Exn Message := do
  let from_user_id ← stoi (cstr r.from_user_id)
  let to_user_id ← stoi (cstr r.to_user_id)
  let msgtype ← stringToMessageType (cstr r.message_type)
  let message_id ← stoi (decimal r.message_id)
  return Message.new env from_user_id to_user_id msgtype message_id (cstr r.content)

/-- The rows from or to a user that are at most `days` old. The alias in the select list does not
hide the column in the condition. -/
def recentRows (env : Env) (user_id : Bytes) (days : Nat) (t : Tables) : List MessageRow :=
  t.messages.rows.filter fun r =>
    (r.from_user_id = cstr user_id ∨ r.to_user_id = cstr user_id) ∧
      env.now.toInt - 86400 * days ≤ r.timestamp

/-- The recent messages of a user. -/
def getRecentMessages (env : Env) (o : Outcome) (user_id : Bytes) (days : Nat) :
    DbM (List Message) :=
  reading o [] (recentRows env user_id days) fun rows => rows.mapM (messageOfRow env)

/-- Append an offline message. -/
def storeOfflineMessage (o : Outcome) (user_id content : Bytes) : DbM Bool :=
  writing o fun t => some { t with
    offline_messages := t.offline_messages.append
      (fun id => ⟨id, cstr user_id, cstr content⟩) fun _ => rfl }

/-- The offline messages of a user. -/
def getOfflineMessages (o : Outcome) (user_id : Bytes) : DbM (List Bytes) :=
  reading o [] (fun t => t.offline_messages.rows.filter fun r => r.user_id = cstr user_id)
    fun rows => .ok (rows.map fun r => cstr r.content)

/-- Delete the offline messages of a user. -/
def markMessagesAsRead (o : Outcome) (user_id : Bytes) : DbM Bool :=
  writing o fun t => some { t with
    offline_messages := t.offline_messages.deleteWhere fun r => r.user_id = cstr user_id }

end Database

end TinyIM
