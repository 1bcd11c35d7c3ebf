/-
# BusinessHandler — the handlers of the frame types

The state of the handler is the database, the registry `userSessions` of logged-in users, and what it
has asked of its sessions so far: the messages passed to `Session::send`, in order, and the sessions
`Session::close` was called on. A handler runs in a state monad whose exceptions keep the state they
are thrown in, because that is what an exception does to a C++ object: the caller catches it and goes
on with whatever was done before the throw.

A machine over this state (`step`) takes the two kinds of events that reach the handler, a
decoded frame on a session and the completion of a server-side close, in any order. What stops a
frame short, an exception or the wait for a connection, leaves the state it reached.
-/
import TinyIM.Database
import TinyIM.Lib.Runs
import TinyIM.Lib.Stops
import Mathlib.Data.List.AList

namespace TinyIM

open TinyIM.Lib TinyIM.Lib.Text TinyIM.Lib.Table TinyIM.Lib.Runs
  TinyIM.Lib.Stops

/-- A session object; equality is identity of the shared pointer. -/
abbrev SessionId := Nat

/-- The map from logged-in users to their sessions. -/
abbrev Registry := AList fun _ : Int32 => SessionId

/-- The state the handlers work on. -/
structure BusinessHandler where
  db : Database
  userSessions : Registry
  /-- The calls of `Session::send`, in order. -/
  posted : List (SessionId × Message)
  /-- The calls of `Session::close`, in order. -/
  closing : List SessionId

/-- A computation of a handler. -/
abbrev HandlerM := EStateM Stop BusinessHandler

/-- `session->send(msg)`. -/
def Session.send (session : SessionId) (msg : Message) : HandlerM Unit := fun h =>
  .ok () { h with posted := h.posted ++ [(session, msg)] }

/-- `session->close()`. -/
def Session.close (session : SessionId) : HandlerM Unit := fun h =>
  .ok () { h with closing := h.closing ++ [session] }

namespace BusinessHandler

/-- Call the database. -/
def callDb {α : Type} (x : DbM α) : HandlerM α := fun h =>
  match x h.db with
  | .ok a db => .ok a { h with db := db }
  | .error e db => .error e { h with db := db }

/-- A computation that may throw and touches no state. -/
def orThrow {α : Type} (x : Except Exn α) : HandlerM α := fun h =>
  match x with
  | .ok a => .ok a h
  | .error e => .error (.exn e) h

/-- `userSessions_.find(userId)`. -/
def findSession (userId : Int32) : HandlerM (Option SessionId) := fun h =>
  .ok (h.userSessions.lookup userId) h

/-! ## The handlers -/

/-- Register a user and send back the id; a failed registration is not answered. The id of the reply
is read from the reply's own uninitialised field, as its name hides the parameter's. -/
def signUp [OpenSSL] (env : Env) (msg : Message) (session : SessionId) : HandlerM Unit := do
  let j ← orThrow (parseJson msg.content)
  let password ← orThrow (member j "password" >>= asString)
  let username ← orThrow (member j "username" >>= asString)
  let uuid ← callDb (Database.registerUser env (env.sql 0) password username)
  match uuid with
  | some uuid => Session.send session (.new env (-1) (-1) .SIGN_UP_RESPONSE (env.junk + 1) uuid)
  | none => return ()

/-- The content of a successful LOGIN_RESPONSE. -/
def loginSuccess (username : Bytes) : Json Bytes Empty :=
  Json.mkObject [(str "status", .string (str "success")), (str "username", .string username)]

/-- The content of a failed LOGIN_RESPONSE. -/
def loginFail (reason : String) : Json Bytes Empty :=
  Json.mkObject [(str "status", .string (str "fail")), (str "username", .string (str " ")),
    (str "reason", .string (str reason))]

/-- Check the password and enter the user into the registry, unless the user is in it already. -/
def loginUser [OpenSSL] (env : Env) (msg : Message) (session : SessionId) : HandlerM Unit := do
  let userId := msg.fromUserId
  let username ← callDb (Database.authenticateUser (env.sql 0) (to_string userId) msg.content)
  match username with
  | some username =>
    if (← findSession userId).isSome then
      let content ← orThrow (dumpJson (loginFail "repeated login"))
      Session.send session (.new env userId 0 .LOGIN_RESPONSE (env.junk + 1) content)
    else
      -- the entry is made before the reply is written
      modify fun h => { h with userSessions := h.userSessions.insert userId session }
      let content ← orThrow (dumpJson (loginSuccess username))
      Session.send session (.new env userId 0 .LOGIN_RESPONSE (env.junk + 1) content)
  | none =>
    let content ← orThrow (dumpJson (loginFail "authenticate fail"))
    Session.send session (.new env userId 0 .LOGIN_RESPONSE (env.junk + 1) content)

/-- Remove the user from the registry, if it is there, and close the session in any case. -/
def logoutUser (userId : Int32) (session : SessionId) : HandlerM Unit := do
  if (← findSession userId).isSome then
    modify fun h => { h with userSessions := h.userSessions.erase userId }
    Session.close session
  else Session.close session

/-- Store a friend request and notify the friend, if online, with the requester's name. -/
def addFriend (env : Env) (msg : Message) : HandlerM Unit := do
  let userId := msg.fromUserId
  let friendId := msg.toUserId
  if userId = friendId then return ()
  else if ← callDb (Database.addFriend (env.sql 0) (env.sql 1) (to_string userId) (to_string friendId)) then
    match ← callDb (Database.getUserNameById (env.sql 2) (to_string userId)) with
    | some username =>
      match ← findSession friendId with
      | some session =>
        Session.send session (.new env userId friendId .FRIEND_REQUEST (env.junk + 1) username)
      | none => return ()
    | none => return ()
  else return ()

/-- Handle the answer to a friend request; in it the sender is the invited user. -/
def ackAddFriend (env : Env) (msg : Message) : HandlerM Unit := do
  let userId := msg.fromUserId
  let friendId := msg.toUserId
  if msg.content = str "reject" then
    -- the arguments are exchanged: the row of the user who asked
    let _ ← callDb (Database.removeFriend (env.sql 0) (to_string friendId) (to_string userId))
    return ()
  else if msg.content = str "accept" then
    let _ ← callDb (Database.ackAddFriend (env.sql 0) (to_string friendId) (to_string userId))
    return ()
  else return ()

/-- Store a chat message and relay it to the recipient, if online. -/
def sendMessageToUser (env : Env) (msg : Message) : HandlerM Unit := do
  let fromUserId := msg.fromUserId
  let toUserId := msg.toUserId
  let it ← findSession toUserId
  -- whether the message was stored is only logged
  let _ ← callDb (Database.storeMessage env (env.sql 0) (to_string fromUserId) (to_string toUserId)
    (messageTypeToString .TEXT) msg.content)
  match it with
  | some session =>
    Session.send session (.new env fromUserId toUserId .TEXT (msg.messageId + 1) msg.content)
  | none => return ()

/-- Relay a group message to the session of every registered user, except the sending session. That
the sender is registered is looked up and only logged. -/
def sendGroupMessage (env : Env) (fromUserId groupId : Int32) (content : Bytes)
    (session : SessionId) : HandlerM Unit := do
  let h ← get
  (reorder env.visit h.userSessions.entries).forM fun it =>
    if it.2 ≠ session then
      -- the id of the group stands where the other handlers put a message id
      Session.send it.2 (.new env fromUserId groupId .GROUP_CHAT groupId content)
    else return ()

/-- Erase the entries of a session while iterating over the map. -/
def handleDisconnection (session : SessionId) (h : BusinessHandler) : BusinessHandler :=
  { h with
    userSessions := h.userSessions.entries.foldl
      (fun m it => if it.2 = session then m.erase it.1 else m) h.userSessions }

/-- The entry of a friend in the friend list. -/
def friendInfo (f : Bytes × Bytes) : Except Exn (Json Bytes Empty) := do
  let id ← stoi f.1
  return Json.mkObject [(str "id", ofInt id), (str "name", .string f.2),
    (str "avatar", .string (str "./default.png"))]

/-- Send the friend list of the user named in the frame to the requesting session. -/
def sendFriendList (env : Env) (msg : Message) (session : SessionId) : HandlerM Unit := do
  let from_userId := msg.fromUserId
  let to_userId := msg.toUserId
  let friendPair ← callDb (Database.getFriendPair (env.sql 0) (env.sql 1) (to_string from_userId))
  -- `std::stoi` throws for an id that is no number, and the frame is not answered
  let friendsList ← orThrow (friendPair.mapM friendInfo)
  let content ← orThrow (dumpJson (.array friendsList))
  Session.send session (.new env from_userId to_userId .FRIEND_LIST (msg.messageId + 1) content)

/-- Send the last day's messages of the user named in the frame to the requesting session. -/
def pushMessage (env : Env) (msg : Message) (session : SessionId) : HandlerM Unit := do
  let fromUserId := msg.fromUserId
  let messages ← callDb (Database.getRecentMessages env (env.sql 0) (to_string fromUserId) 1)
  messages.forM fun m => Session.send session m

/-- Dispatch on the frame's type; the types only the server sends are logged and dropped. -/
def handleIncomingMessage [OpenSSL] (env : Env) (session : SessionId) (msg : Message) :
    HandlerM Unit :=
  match msg.messageType with
  | .SIGN_UP => signUp env msg session
  | .LOGIN => loginUser env msg session
  | .LOGOUT => logoutUser msg.fromUserId session
  | .TEXT => sendMessageToUser env msg
  | .ADD_FRIEND => addFriend env msg
  | .FRIEND_LIST => sendFriendList env msg session
  | .FRIEND_REQUEST_RESPONSE => ackAddFriend env msg
  | .PRIVATE_CHAT => sendMessageToUser env msg
  | .GROUP_CHAT => sendGroupMessage env msg.fromUserId msg.toUserId msg.content session
  | .PULL_MESSAGE => pushMessage env msg session
  | .SIGN_UP_RESPONSE | .LOGIN_RESPONSE | .FRIEND_REQUEST => return ()

/-! ## The handler as a machine -/

/-- What reaches the handler. -/
inductive Event where
  /-- A decoded frame received on a session. -/
  | frame (env : Env) (session : SessionId) (msg : Message)
  /-- The completion of `Session::close`. -/
  | closed (session : SessionId)

/-- One event. -/
def step [OpenSSL] (h : BusinessHandler) : Event → BusinessHandler
  | .frame env session msg => stateOf (handleIncomingMessage env session msg h)
  | .closed session => handleDisconnection session h

/-- The state after the server has started on a database. -/
def start (tables : Tables) (pool_size : Nat) : BusinessHandler where
  db := Database.init ⟨tables, []⟩ pool_size
  userSessions := ∅
  posted := []
  closing := []

/-! ## Frames for examples -/

/-- A sign-up of "bob" with password "pw". -/
def signUpFrame : Message :=
  ⟨0, 0, .SIGN_UP, 0, str "\x7b\"password\":\"pw\",\"username\":\"bob\"\x7d", 0⟩

/-- The login of that user under the first id there is. -/
def loginFrame : Message := ⟨111111111, 0, .LOGIN, 1, str "pw", 0⟩

/-- A chat frame from user 1 to user 2. -/
def chatFrame (content : Bytes) : Message := ⟨1, 2, .TEXT, 7, content, 0⟩

/-- A request for the history of user 1. -/
def pullFrame : Message := ⟨1, 0, .PULL_MESSAGE, 8, [], 0⟩

end BusinessHandler

end TinyIM
