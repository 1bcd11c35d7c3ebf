/-
# Server — sessions, their streams, and the event loop

One thread runs the completion handlers one after another. The state is the handler object, the set
`sessions` the server keeps, the state of each session's stream and write queue, and how far the tasks
posted by `Session::send` have run. An event is the completion of an asynchronous operation, one task,
a stream that the other side or the network has closed, or the restart of the server in `main`; an
event whose operation is not outstanding does nothing.

An exception that leaves a completion handler leaves `io_context::run`: the status becomes `escaped`,
and `main` destroys the server with its sessions and builds a new one on the same database. A handler
that waits for a connection never comes back, as the one thread that could push a connection is the
one that waits: the status becomes `waiting`.
-/
import TinyIM.Invariants
import Mathlib.Data.Finset.Erase
import Mathlib.Data.Finset.Insert
import Mathlib.Logic.Function.Basic

namespace TinyIM

open TinyIM.Lib TinyIM.Lib.Text TinyIM.Lib.Table TinyIM.Lib.Runs TinyIM.Lib.Stops

/-! ## Sessions -/

/-- A session, as the event loop sees it. -/
structure Session where
  /-- What `ws_.is_open()` returns. -/
  is_open : Bool
  /-- An `async_read` is outstanding. -/
  reading : Bool
  write_msgs : List Message
  /-- The calls of `async_write` that have not completed. -/
  writing : Nat
  /-- The calls of `async_close` that have not completed. -/
  closing : Nat
  /-- The messages handed to `async_write` so far. -/
  wire : List Message
  /-- `stop` has run, or an `async_close` has completed. -/
  ended : Bool
  deriving DecidableEq

namespace Session

/-- No session. -/
def absent : Session := ⟨false, false, [], 0, 0, [], false⟩

/-- A session that has started: its first read is armed. -/
def started : Session := { absent with is_open := true, reading := true }

/-- `ws_.async_close(…)`: the stream counts as closed at once, unless a write is in progress, which
the close has to wait for. -/
def initiateClose (x : Session) : Session :=
  { x with closing := x.closing + 1, is_open := x.is_open && decide (0 < x.writing) }

/-- A read has completed. -/
def readDone (x : Session) : Session := { x with reading := false }

/-- `if (ws_.is_open()) readMessage();` -/
def rearm (x : Session) : Session := { x with reading := x.is_open }

/-- `write_msgs_.push_back(msg)`. -/
def pushBack (x : Session) (msg : Message) : Session := { x with write_msgs := x.write_msgs ++ [msg] }

/-- A write has completed, and its message leaves the queue. -/
def popFront (x : Session) : Session :=
  { x with write_msgs := x.write_msgs.tail, writing := x.writing - 1 }

/-- A write has failed; its message stays in the queue. -/
def writeFailed (x : Session) : Session := { x with writing := x.writing - 1 }

/-- `ws_.async_write(…)`: the message is handed over. What the peer then receives is not part of the
state; it depends on how long the buffer lives (`Transfer`). -/
def asyncWrite (x : Session) (msg : Message) : Session :=
  { x with writing := x.writing + 1, wire := x.wire ++ [msg] }

/-- The stream is closed, and the connection has ended. -/
def finish (x : Session) : Session := { x with is_open := false, ended := true }

/-- The `try` block of `readMessage`. -/
def receive [OpenSSL] (env : Env) (session : SessionId) (json_data : Bytes) : HandlerM Unit := do
  let msg ← BusinessHandler.orThrow (Message.fromJson env json_data)
  BusinessHandler.handleIncomingMessage env session msg

end Session

/-! ## The server -/

/-- Whether the event loop is running. -/
inductive Status where
  | running
  /-- A handler waits for a connection. -/
  | waiting
  /-- An exception has left `io_context::run`. -/
  | escaped
  deriving DecidableEq

/-- The state of the process. -/
structure Server where
  handler : BusinessHandler
  sessions : Finset SessionId
  session : SessionId → Session
  /-- The identity of the next session object. -/
  next : SessionId
  /-- How many of the tasks posted by `Session::send` have run. -/
  ran : Nat
  /-- An `async_accept` of the acceptor is outstanding. -/
  accepting : Bool
  /-- The WebSocket handshakes that are outstanding. -/
  handshaking : Nat
  status : Status

namespace Server

/-- What the event loop runs next. -/
inductive Event where
  /-- `async_accept` of the acceptor completes, without an error or with one. -/
  | accepted (ok : Bool)
  /-- A handshake completes; after one that failed, `ws->close` may throw. -/
  | handshaken (ok closeThrows : Bool)
  /-- A read completes with a frame. -/
  | read (env : Env) (session : SessionId) (json_data : Bytes)
  /-- A read completes with an error. -/
  | readError (session : SessionId)
  /-- The next task posted by `Session::send` runs. -/
  | task
  /-- A write completes. -/
  | wrote (session : SessionId)
  /-- A write completes with an error. -/
  | writeError (session : SessionId)
  /-- An `async_close` completes, with or without an error. -/
  | closed (session : SessionId)
  /-- The stream is no longer open: the client or the network has closed it. -/
  | lost (session : SessionId)
  /-- `main` builds a new server. -/
  | restart

/-- A server object that has just been built around a handler object. -/
def built (handler : BusinessHandler) (next : SessionId) : Server where
  handler := handler
  sessions := ∅
  session := fun _ => .absent
  next := next
  ran := 0
  accepting := true
  handshaking := 0
  status := .running

/-- The process has started on an empty database. -/
def start (pool_size : Nat) : Server := built (.start .empty pool_size) 0

section Operations

variable (v : Server) (s : SessionId)

/-- Another state of one session. -/
def set (x : Session) : Server := { v with session := Function.update v.session s x }

/-- `Session::write`: hand the front of the queue to `async_write`. Nothing catches what `toJson`
throws. -/
def write : Server :=
  match (v.session s).write_msgs with
  | [] => v
  | msg :: _ =>
    match msg.toJson with
    | .ok _ => v.set s ((v.session s).asyncWrite msg)
    | .error _ => { v with status := .escaped }

/-- `Session::stop`: close the stream and remove the session from the set. -/
def stop : Server :=
  { v.set s (v.session s).finish with sessions := v.sessions.erase s }

/-- The task `Session::send` posts. -/
def send (msg : Message) : Server :=
  if (v.session s).write_msgs = [] then (v.set s ((v.session s).pushBack msg)).write s
  else v.set s ((v.session s).pushBack msg)

/-- The handler of a write that completed. -/
def onWritten : Server :=
  if (v.session s).popFront.write_msgs ≠ [] ∧ (v.session s).is_open = true then
    (v.set s (v.session s).popFront).write s
  else v.set s (v.session s).popFront

/-- The closes a handler has asked for, initiated in order. -/
def initiateCloses (closes : List SessionId) (sessions : SessionId → Session) :
    SessionId → Session :=
  closes.foldl (fun f s => Function.update f s (f s).initiateClose) sessions

/-- A read has completed, and the handler has gone from its state to `h`. -/
def received (h : BusinessHandler) : Server :=
  { v with
    handler := h
    session := initiateCloses (h.closing.drop v.handler.closing.length)
      (Function.update v.session s (v.session s).readDone) }

/-- The handler of a read that completed with a frame: an exception is caught, and the next read is
armed if the stream is open. -/
def onRead [OpenSSL] (env : Env) (json_data : Bytes) : Server :=
  match Session.receive env s json_data v.handler with
  | .ok _ h => (v.received s h).set s ((v.received s h).session s).rearm
  | .error (.exn _) h => (v.received s h).set s ((v.received s h).session s).rearm
  -- the only thread waits for a connection
  | .error .wait h => { v.received s h with status := .waiting }

/-- The next of the tasks posted by `Session::send` runs. -/
def runTask : Server :=
  match v.handler.posted[v.ran]? with
  | some (s, msg) => { v with ran := v.ran + 1 }.send s msg
  | none => v

end Operations

/-- The operation whose completion the event is, is outstanding. -/
def outstanding (v : Server) : Event → Bool
  | .accepted _ => v.accepting
  | .handshaken _ _ => 0 < v.handshaking
  | .read _ s _ | .readError s => (v.session s).reading
  | .task => v.ran < v.handler.posted.length
  | .wrote s | .writeError s => 0 < (v.session s).writing
  | .closed s => 0 < (v.session s).closing
  | .lost _ | .restart => true

/-- The status in which an event can occur. -/
def Event.status : Event → Status
  | .restart => .escaped
  | _ => .running

/-- The event can occur. -/
def Enabled (v : Server) (e : Event) : Prop := v.status = e.status ∧ v.outstanding e = true

instance (v : Server) (e : Event) : Decidable (v.Enabled e) := inferInstanceAs (Decidable (_ ∧ _))

/-- What an enabled event does. -/
def act [OpenSSL] (pool_size : Nat) (v : Server) : Event → Server
  | .accepted ok =>
    { v with handshaking := if ok then v.handshaking + 1 else v.handshaking, accepting := true }
  | .handshaken true _ =>
    { v.set v.next .started with
      handshaking := v.handshaking - 1, sessions := insert v.next v.sessions, next := v.next + 1 }
  | .handshaken false closeThrows =>
    { v with
      handshaking := v.handshaking - 1, status := if closeThrows then .escaped else v.status }
  | .read env s json_data => v.onRead s env json_data
  | .readError s => (v.set s (v.session s).readDone).stop s
  | .task => v.runTask
  | .wrote s => v.onWritten s
  | .writeError s => (v.set s (v.session s).writeFailed).stop s
  | .closed s =>
    -- `on_close_` is not called on this way out, so the session stays in the set
    { v.set s { (v.session s).finish with closing := (v.session s).closing - 1 } with
      handler := v.handler.handleDisconnection s }
  | .lost s => v.set s { v.session s with is_open := false }
  -- the database is a singleton: its file and its pool outlive the server object
  | .restart => built ⟨v.handler.db.init pool_size, ∅, [], []⟩ v.next

/-- One event. -/
def step [OpenSSL] (pool_size : Nat) (v : Server) (e : Event) : Server :=
  if v.Enabled e then v.act pool_size e else v

/-! ## What the operations leave alone -/

/-- The states agree on the handler, on the set of sessions, and on which sessions have ended. -/
structure Agree (v v' : Server) : Prop where
  handler : v'.handler = v.handler
  sessions : v'.sessions = v.sessions
  ended : ∀ t, (v'.session t).ended = (v.session t).ended

theorem Agree.trans {v v' v'' : Server} (h : Agree v v') (h' : Agree v' v'') : Agree v v'' where
  handler := h'.handler.trans h.handler
  sessions := h'.sessions.trans h.sessions
  ended := fun t => (h'.ended t).trans (h.ended t)

section Fields

variable {v : Server} {s t : SessionId} {x : Session}

@[simp] theorem set_handler : (v.set s x).handler = v.handler := rfl
@[simp] theorem set_sessions : (v.set s x).sessions = v.sessions := rfl
@[simp] theorem set_status : (v.set s x).status = v.status := rfl

@[simp] theorem set_session : (v.set s x).session t = if t = s then x else v.session t := by
  simp only [set, Function.update_apply]

theorem agree_set (hx : x.ended = (v.session s).ended) : Agree v (v.set s x) := by
  refine ⟨rfl, rfl, fun t => ?_⟩
  rw [set_session]
  split
  · rename_i ht
    rw [hx, ht]
  · rfl

theorem agree_write (v : Server) (s : SessionId) : Agree v (v.write s) := by
  unfold write
  split
  · exact ⟨rfl, rfl, fun _ => rfl⟩
  · split
    · exact agree_set rfl
    · exact ⟨rfl, rfl, fun _ => rfl⟩

theorem agree_send (v : Server) (s : SessionId) (msg : Message) : Agree v (v.send s msg) := by
  have hpush : Agree v (v.set s ((v.session s).pushBack msg)) := agree_set rfl
  unfold send
  split
  · exact hpush.trans (agree_write _ s)
  · exact hpush

theorem agree_onWritten (v : Server) (s : SessionId) : Agree v (v.onWritten s) := by
  have hpop : Agree v (v.set s (v.session s).popFront) := agree_set rfl
  unfold onWritten
  split
  · exact hpop.trans (agree_write _ s)
  · exact hpop

theorem agree_runTask (v : Server) : Agree v v.runTask := by
  unfold runTask
  split
  · rename_i s msg _
    have hsent := agree_send { v with ran := v.ran + 1 } s msg
    exact ⟨hsent.handler, hsent.sessions, hsent.ended⟩
  · exact ⟨rfl, rfl, fun _ => rfl⟩

/-- What each close does to its session, the closes together do to every session. -/
theorem initiateCloses_rel {R : Session → Session → Prop} (refl : ∀ x, R x x)
    (trans : ∀ x y z, R x y → R y z → R x z) (hclose : ∀ x, R x x.initiateClose)
    (closes : List SessionId) (f : SessionId → Session) (t : SessionId) :
    R (f t) (initiateCloses closes f t) := by
  induction closes generalizing f with
  | nil => exact refl _
  | cons s closes ih =>
      refine trans _ _ _ ?_ (ih (Function.update f s (f s).initiateClose))
      rw [Function.update_apply]
      split
      · rename_i ht
        rw [ht]
        exact hclose _
      · exact refl _

end Fields

/-! ## The handler inside the server -/

section Handler

variable [OpenSSL] {pool_size : Nat} {v : Server} {env : Env} {s : SessionId} {json_data : Bytes}

/-- A received frame takes the handler one step, or none if it cannot be decoded. -/
theorem stateOf_receive (h : BusinessHandler) : stateOf (Session.receive env s json_data h) =
    match Message.fromJson env json_data with
    | .ok msg => h.step (.frame env s msg)
    | .error _ => h := by
  have hends : Ends (Session.receive env s json_data) h
      (fun _ h' => h' = match Message.fromJson env json_data with
        | .ok msg => h.step (.frame env s msg)
        | .error _ => h)
      fun _ h' => h' = match Message.fromJson env json_data with
        | .ok msg => h.step (.frame env s msg)
        | .error _ => h := by
    unfold Session.receive
    rw [ends_bind, BusinessHandler.ends_orThrow]
    refine ⟨?_, ?_⟩
    · intro msg hmsg
      rw [hmsg]
      exact ends_stateOf.mpr rfl
    · intro e he
      rw [he]
  exact ends_stateOf.mp hends

theorem onRead_handler : (v.onRead s env json_data).handler =
    stateOf (Session.receive env s json_data v.handler) := by
  unfold onRead
  split <;> rename_i heq <;> rw [heq] <;> rfl

theorem onRead_sessions : (v.onRead s env json_data).sessions = v.sessions := by
  unfold onRead
  split <;> rfl

/-- A received frame does to a session what the end of a read, an armed read and initiated closes
do. -/
theorem onRead_rel {R : Session → Session → Prop} (refl : ∀ x, R x x)
    (trans : ∀ x y z, R x y → R y z → R x z) (hdone : ∀ x, R x x.readDone)
    (hclose : ∀ x, R x x.initiateClose) (hrearm : ∀ x, R x x.rearm) (t : SessionId) :
    R (v.session t) ((v.onRead s env json_data).session t) := by
  have hreceived : ∀ h : BusinessHandler, R (v.session t) ((v.received s h).session t) := by
    intro h
    refine trans _ _ _ ?_ (initiateCloses_rel refl trans hclose _ _ t)
    rw [Function.update_apply]
    split
    · rename_i ht
      rw [ht]
      exact hdone _
    · exact refl _
  have hrearmed : ∀ h : BusinessHandler, R (v.session t)
      (((v.received s h).set s ((v.received s h).session s).rearm).session t) := by
    intro h
    refine trans _ _ _ (hreceived h) ?_
    rw [set_session]
    split
    · rename_i ht
      rw [ht]
      exact hrearm _
    · exact refl _
  unfold onRead
  split
  · exact hrearmed _
  · exact hrearmed _
  · exact hreceived _

/-- A received frame ends no session. -/
theorem onRead_ended (t : SessionId) :
    ((v.onRead s env json_data).session t).ended = (v.session t).ended :=
  onRead_rel (R := fun x y : Session => y.ended = x.ended) (fun _ => rfl)
    (fun _ _ _ h h' => h'.trans h) (fun _ => rfl) (fun _ => rfl) (fun _ => rfl) t

/-- The events of the handler that an event of the server is. -/
def emit (v : Server) (e : Event) : List BusinessHandler.Event :=
  if v.Enabled e then
    match e with
    | .read env s json_data =>
      match Message.fromJson env json_data with
      | .ok msg => [.frame env s msg]
      | .error _ => []
    | .closed s => [.closed s]
    | _ => []
  else []

/-- **`handler_step`** — until the server is rebuilt, the handler object in it makes the steps of the
handler machine. -/
theorem handler_step (e : Event) (he : e ≠ .restart) : (step pool_size v e).handler =
    exec BusinessHandler.step v.handler (emit v e) := by
  unfold step emit
  by_cases henabled : v.Enabled e
  · rw [if_pos henabled, if_pos henabled]
    cases e with
    | accepted ok => rfl
    | handshaken ok closeThrows => cases ok <;> rfl
    | read env s json_data =>
        refine onRead_handler.trans ((stateOf_receive v.handler).trans ?_)
        show _ = exec BusinessHandler.step v.handler (match Message.fromJson env json_data with
          | .ok msg => [.frame env s msg]
          | .error _ => [])
        cases Message.fromJson env json_data with
        | ok msg => rfl
        | error e => rfl
    | readError s => rfl
    | task => exact (agree_runTask v).handler
    | wrote s => exact (agree_onWritten v s).handler
    | writeError s => rfl
    | closed s => rfl
    | lost s => rfl
    | restart => exact absurd rfl he
  · rw [if_neg henabled, if_neg henabled]
    rfl

/-- **`handler_exec`** — a run of the server without a rebuild is a run of the handler machine. -/
theorem handler_exec (v : Server) (es : List Event) (hes : ∀ e ∈ es, e ≠ .restart) :
    (exec (step pool_size) v es).handler =
      exec BusinessHandler.step v.handler (emitted (step pool_size) emit v es) :=
  exec_simulates (V := (· ≠ .restart)) (fun _ e he => handler_step e he) v es hes

/-- Every event keeps the invariant of the stored data; a rebuilt server works on the same file. -/
theorem step_ok (v : Server) (e : Event) (hok : v.handler.db.tables.Ok) :
    (step pool_size v e).handler.db.tables.Ok := by
  by_cases he : e = .restart
  · rw [he, step]
    split
    · exact hok
    · exact hok
  · rw [handler_step e he]
    exact exec_preserves (I := fun h : BusinessHandler => h.db.tables.Ok) BusinessHandler.step_ok hok _

/-- The stored data in every reachable state of the process. -/
theorem exec_ok (pool_size : Nat) (es : List Event) :
    (exec (step pool_size) (start pool_size) es).handler.db.tables.Ok :=
  exec_preserves (I := fun v : Server => v.handler.db.tables.Ok) step_ok Tables.Ok.empty es

end Handler

end Server

end TinyIM
