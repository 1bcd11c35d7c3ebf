/-
# Teardown — what a failed frame and an ended connection leave behind

A frame whose processing throws leaves nothing behind (`failed_frame_leaves_no_trace`). A connection
that ends leaves something behind on either of its two ways out: `Session::stop` takes the session out
of the server's set and knows nothing of the registry, and the completion of `Session::close` takes
it out of the registry and knows nothing of the set. `ends_cleanly_iff` says for which runs no ended
session is left in either container: those in which a session that is stopped was not registered, a
session whose close completes had been stopped before, and no user logs in on a session that has
ended.
-/
import TinyIM.Server
import TinyIM.Registry

namespace TinyIM

open TinyIM.Lib TinyIM.Lib.Text TinyIM.Lib.Table TinyIM.Lib.Runs TinyIM.Lib.Stops

namespace Server

/-! ## A frame that fails -/

section Failure

variable [OpenSSL] {env : Env} {s : SessionId} {json_data : Bytes} {h h' : BusinessHandler} {x : Exn}

/-- An exception out of the `try` block of `readMessage` leaves the state as it was, up to the pool. -/
theorem receive_throws (hnames : ∀ r ∈ h.db.tables.users.rows, ValidUtf8 r.username)
    (hthrows : Session.receive env s json_data h = .error (.exn x) h') :
    ∃ pool, h' = h.withDb h.db.tables pool := by
  have hends : Ends (Session.receive env s json_data) h (fun _ _ => True)
      fun e h' => ∀ x, e = .exn x → ∃ pool, h' = h.withDb h.db.tables pool := by
    unfold Session.receive
    rw [ends_bind, BusinessHandler.ends_orThrow]
    refine ⟨?_, ?_⟩
    · intro msg _
      have hdoes : BusinessHandler.Does env s msg h _ :=
        BusinessHandler.handleIncomingMessage_does fun _ => hnames
      exact hdoes.mono (fun _ _ _ => trivial) fun _ _ hstop => hstop.2
    · intro e _ x _
      exact ⟨h.db.connection_pool, rfl⟩
  unfold Ends at hends
  rw [hthrows] at hends
  exact hends x rfl

/-- **`failed_frame_leaves_no_trace`** — if an exception leaves `fromJson` or the handler while a frame
is processed, the registry, the tables and everything enqueued to the sessions are what they were, the
event loop goes on, and the next read is armed if the stream is open. -/
theorem failed_frame_leaves_no_trace (pool_size : Nat) (es : List Event)
    (henabled : (exec (step pool_size) (start pool_size) es).Enabled (.read env s json_data))
    (hthrows : Session.receive env s json_data
      (exec (step pool_size) (start pool_size) es).handler = .error (.exn x) h') :
    let v := exec (step pool_size) (start pool_size) es
    let v' := step pool_size v (.read env s json_data)
    v'.handler.userSessions = v.handler.userSessions ∧
    v'.handler.db.tables = v.handler.db.tables ∧
    (v'.handler.posted = v.handler.posted ∧ v'.ran = v.ran ∧
      ∀ t, (v'.session t).write_msgs = (v.session t).write_msgs) ∧
    v'.status = .running ∧
    (v'.session s).is_open = (v.session s).is_open ∧
    (v'.session s).reading = (v.session s).is_open := by
  intro v v'
  obtain ⟨pool, rfl⟩ := receive_throws (exec_ok pool_size es).users hthrows
  have hv' : v' = (v.received s (v.handler.withDb v.handler.db.tables pool)).set s
      ((v.received s (v.handler.withDb v.handler.db.tables pool)).session s).rearm := by
    show step pool_size v (.read env s json_data) = _
    rw [step, if_pos henabled]
    show v.onRead s env json_data = _
    rw [onRead, hthrows]
  -- no close was asked for
  have hsession : (v.received s (v.handler.withDb v.handler.db.tables pool)).session =
      Function.update v.session s (v.session s).readDone := by
    show initiateCloses (v.handler.closing.drop v.handler.closing.length) _ = _
    rw [List.drop_length]
    rfl
  rw [hv']
  refine ⟨rfl, rfl, ⟨rfl, rfl, ?_⟩, henabled.1, ?_, ?_⟩
  · intro t
    rw [set_session, hsession]
    by_cases ht : t = s
    · rw [if_pos ht, ht, Function.update_self]
      rfl
    · rw [if_neg ht, Function.update_of_ne ht]
  · rw [set_session, if_pos rfl, hsession, Function.update_self]
    rfl
  · rw [set_session, if_pos rfl, hsession, Function.update_self]
    rfl

end Failure

/-- A client that has just connected sends something that is not JSON. -/
theorem failed_frame_leaves_no_trace_junk :
    letI := OpenSSL.zero
    let v := exec (step 1) (start 1) [.accepted true, .handshaken true false]
    let v' := step 1 v (.read .plain 0 (str "hello"))
    v'.handler.posted = [] ∧ v'.status = .running ∧ (v'.session 0).reading = true := by
  let _ := OpenSSL.zero
  have hjunk : Message.fromJson .plain (str "hello") = .error .parse_error := by decide +kernel
  have hthrows : Session.receive .plain 0 (str "hello")
      (exec (step 1) (start 1) [.accepted true, .handshaken true false]).handler =
        .error (.exn .parse_error) (.start .empty 1) := by
    unfold Session.receive
    rw [hjunk]
    rfl
  obtain ⟨-, -, ⟨hposted, -⟩, hrunning, -, hreading⟩ := failed_frame_leaves_no_trace 1
    [.accepted true, .handshaken true false] (by decide) hthrows
  exact ⟨hposted, hrunning, hreading⟩

/-! ## Logging in on a session -/

section Login

variable [OpenSSL] {env : Env} {s t : SessionId} {msg : Message} {h : BusinessHandler} {u : Int32}

/-- The password in the frame is accepted. -/
def Authenticated (env : Env) (msg : Message) (h : BusinessHandler) : Prop :=
  ∃ username db, Database.authenticateUser (env.sql 0) (to_string msg.fromUserId) msg.content h.db =
    .ok (some username) db

/-- The frame is a login whose password is accepted, of a user who is not logged in. -/
def Registers (env : Env) (msg : Message) (h : BusinessHandler) : Prop :=
  msg.messageType = .LOGIN ∧ h.userSessions.lookup msg.fromUserId = none ∧ Authenticated env msg h

/-- A login enters its user into the registry if it can, whatever becomes of the reply. -/
theorem loginUser_registry (hty : msg.messageType = .LOGIN) :
    Registers env msg h ∧ (stateOf (BusinessHandler.loginUser env msg s h)).userSessions =
        h.userSessions.insert msg.fromUserId s ∨
    ¬Registers env msg h ∧
      (stateOf (BusinessHandler.loginUser env msg s h)).userSessions = h.userSessions := by
  have hreply : ∀ (reply : Json Bytes Empty) (h' : BusinessHandler),
      Ends (do
        let content ← BusinessHandler.orThrow (dumpJson reply)
        Session.send s (.new env msg.fromUserId 0 .LOGIN_RESPONSE (env.junk + 1) content) :
          HandlerM Unit) h'
        (fun _ h'' => h''.userSessions = h'.userSessions)
        (fun _ h'' => h''.userSessions = h'.userSessions) := by
    intro reply h'
    rw [ends_bind, BusinessHandler.ends_orThrow]
    exact ⟨fun _ _ => rfl, fun _ _ => rfl⟩
  have hends : Ends (BusinessHandler.loginUser env msg s) h
      (fun _ h' => Registers env msg h ∧ h'.userSessions = h.userSessions.insert msg.fromUserId s ∨
        ¬Registers env msg h ∧ h'.userSessions = h.userSessions)
      fun _ h' => Registers env msg h ∧ h'.userSessions = h.userSessions.insert msg.fromUserId s ∨
        ¬Registers env msg h ∧ h'.userSessions = h.userSessions := by
    unfold BusinessHandler.loginUser
    rw [ends_bind, BusinessHandler.ends_callDb]
    refine ends_self.mono ?_ ?_
    · -- writing the reply may throw, but only after the registry has its final contents
      intro result db hauth
      cases result with
      | none =>
          have hnot : ¬Registers env msg h := by
            rintro ⟨-, -, username, db', hauth'⟩
            rw [hauth] at hauth'
            cases hauth'
          exact (hreply _ _).mono (fun _ _ hsame => Or.inr ⟨hnot, hsame⟩)
            fun _ _ hsame => Or.inr ⟨hnot, hsame⟩
      | some username =>
          simp only [ends_bind, BusinessHandler.ends_findSession, ends_ite, ends_modify]
          refine ⟨?_, ?_⟩
          · intro hsome
            have hnot : ¬Registers env msg h := by
              rintro ⟨-, hfree, -⟩
              rw [hfree] at hsome
              cases hsome
            have hrefuse := hreply (BusinessHandler.loginFail "repeated login") { h with db := db }
            rw [ends_bind] at hrefuse
            exact hrefuse.mono (fun _ _ hsame => hsame.mono (fun _ _ hs => Or.inr ⟨hnot, hs⟩)
              fun _ _ hs => Or.inr ⟨hnot, hs⟩) fun _ _ hs => Or.inr ⟨hnot, hs⟩
          · intro hnone
            have hreg : Registers env msg h :=
              ⟨hty, Option.not_isSome_iff_eq_none.mp hnone, username, db, hauth⟩
            have hgrant := hreply (BusinessHandler.loginSuccess username)
              { h with db := db, userSessions := h.userSessions.insert msg.fromUserId s }
            rw [ends_bind] at hgrant
            exact hgrant.mono (fun _ _ hsame => hsame.mono (fun _ _ hs => Or.inl ⟨hreg, hs⟩)
              fun _ _ hs => Or.inl ⟨hreg, hs⟩) fun _ _ hs => Or.inl ⟨hreg, hs⟩
    · -- the query waits for a connection
      intro e db hstop
      refine Or.inr ⟨?_, rfl⟩
      rintro ⟨-, -, username, db', hauth'⟩
      rw [hstop] at hauth'
      cases hauth'
  exact ends_stateOf.mp hends

/-- A frame that registers its user does so on the session it came on. -/
theorem lookup_registers (hreg : Registers env msg h) :
    (h.step (.frame env s msg)).userSessions.lookup msg.fromUserId = some s := by
  show (stateOf (BusinessHandler.handleIncomingMessage env s msg h)).userSessions.lookup _ = _
  rw [BusinessHandler.handle_login hreg.1]
  rcases loginUser_registry (s := s) hreg.1 with ⟨-, hsame⟩ | ⟨hnot, -⟩
  · rw [hsame, AList.lookup_insert]
  · exact absurd hreg hnot

/-- A frame puts no session into the registry but the one it came on, and that one only when it
registers its user. -/
theorem lookup_frame (hok : h.db.tables.Ok)
    (hu : (h.step (.frame env s msg)).userSessions.lookup u = some t) :
    h.userSessions.lookup u = some t ∨ t = s ∧ Registers env msg h := by
  by_cases hty : msg.messageType = .LOGIN
  · change (stateOf (BusinessHandler.handleIncomingMessage env s msg h)).userSessions.lookup _ = _ at hu
    rw [BusinessHandler.handle_login hty] at hu
    have hcases : Registers env msg h ∧ _ ∨ ¬Registers env msg h ∧ _ := loginUser_registry (s := s) hty
    rcases hcases with ⟨hreg, hsame⟩ | ⟨-, hsame⟩
    · rw [hsame] at hu
      by_cases hfrom : u = msg.fromUserId
      · rw [hfrom, AList.lookup_insert] at hu
        exact Or.inr ⟨(Option.some.inj hu).symm, hreg⟩
      · rw [AList.lookup_insert_ne hfrom] at hu
        exact Or.inl hu
    · rw [hsame] at hu
      exact Or.inl hu
  · rcases (BusinessHandler.lookup_step hok _).mp hu with hin | ⟨hold, -⟩
    · exact absurd hin.2.1 hty
    · exact Or.inl hold

end Login

/-! ## A connection that ends -/

/-- No session that has ended is in the registry or in the server's set. -/
def EndsCleanly (v : Server) : Prop :=
  ∀ s, (v.session s).ended = true →
    (∀ u, v.handler.userSessions.lookup u ≠ some s) ∧ s ∉ v.sessions

/-- The event leaves no ended session behind: a session that is stopped is not in the registry, a
session whose close completes is not in the set, and nobody logs in on a session that has ended. -/
def Clean [OpenSSL] (v : Server) (e : Event) : Prop := v.Enabled e →
  match e with
  | .readError s | .writeError s => ∀ u, v.handler.userSessions.lookup u ≠ some s
  | .closed s => s ∉ v.sessions
  | .read env s json_data => (v.session s).ended = true → ∀ msg,
      Message.fromJson env json_data = .ok msg → ¬Registers env msg v.handler
  | _ => True

section Teardown

variable {v v' : Server} {s : SessionId}

theorem endsCleanly_congr (h : Agree v v') : EndsCleanly v' ↔ EndsCleanly v := by
  unfold EndsCleanly
  rw [h.handler, h.sessions]
  simp only [h.ended]

/-- `stop` leaves the registry entries of the session. -/
theorem endsCleanly_stop (hv : EndsCleanly v) :
    EndsCleanly (v.stop s) ↔ ∀ u, v.handler.userSessions.lookup u ≠ some s := by
  constructor
  · intro h
    have hended : ((v.stop s).session s).ended = true := by
      show ((v.set s (v.session s).finish).session s).ended = true
      rw [set_session, if_pos rfl]
      rfl
    exact (h s hended).1
  · intro hs t ht
    by_cases hts : t = s
    · rw [hts]
      exact ⟨hs, Finset.notMem_erase s v.sessions⟩
    · have hold : (v.session t).ended = true := by
        have hsame : (v.stop s).session t = v.session t := by
          show (v.set s (v.session s).finish).session t = _
          rw [set_session, if_neg hts]
        rwa [hsame] at ht
      exact ⟨(hv t hold).1, fun hmem => (hv t hold).2 (Finset.mem_of_mem_erase hmem)⟩

variable [OpenSSL] {pool_size : Nat}

/-- **`endsCleanly_step`** — a step from a clean state ends in one exactly if the event is clean. -/
theorem endsCleanly_step (v : Server) (e : Event) (hok : v.handler.db.tables.Ok)
    (hv : EndsCleanly v) : EndsCleanly (step pool_size v e) ↔ Clean v e := by
  unfold step Clean
  by_cases henabled : v.Enabled e
  · rw [if_pos henabled, imp_iff_right henabled]
    -- a read error and a write error both end in `stop`
    have hstop : ∀ {s x}, x.ended = (v.session s).ended → (EndsCleanly ((v.set s x).stop s) ↔
        ∀ u, v.handler.userSessions.lookup u ≠ some s) := by
      intro s x hx
      exact endsCleanly_stop ((endsCleanly_congr (agree_set hx)).mpr hv)
    cases e with
    | accepted ok => exact iff_of_true hv trivial
    | handshaken ok closeThrows =>
        refine iff_of_true ?_ trivial
        cases ok with
        | false => exact hv
        | true =>
            intro t ht
            by_cases htn : t = v.next
            · change ((v.set v.next .started).session t).ended = true at ht
              rw [set_session, if_pos htn] at ht
              cases ht
            · change ((v.set v.next .started).session t).ended = true at ht
              rw [set_session, if_neg htn] at ht
              refine ⟨(hv t ht).1, ?_⟩
              intro hmem
              exact (Finset.mem_insert.mp hmem).elim htn (hv t ht).2
    | read env s json_data =>
        show EndsCleanly (v.onRead s env json_data) ↔ _
        unfold EndsCleanly
        simp only [onRead_handler, onRead_sessions, onRead_ended, stateOf_receive]
        cases hmsg : Message.fromJson env json_data with
        | error e => exact iff_of_true hv fun _ msg hmsg => by cases hmsg
        | ok msg =>
            -- a frame can only register the session it came on
            constructor
            · intro h hended msg' hmsg' hreg
              rw [← Except.ok.inj hmsg'] at hreg
              exact (h s hended).1 _ (lookup_registers hreg)
            · intro hclean t ht
              refine ⟨?_, (hv t ht).2⟩
              intro u hu
              rcases lookup_frame hok hu with hold | ⟨rfl, hreg⟩
              · exact (hv t ht).1 u hold
              · exact hclean ht msg rfl hreg
    | readError s => exact hstop rfl
    | task => exact iff_of_true ((endsCleanly_congr (agree_runTask v)).mpr hv) trivial
    | wrote s => exact iff_of_true ((endsCleanly_congr (agree_onWritten v s)).mpr hv) trivial
    | writeError s => exact hstop rfl
    | closed s =>
        -- `handleDisconnection` clears the registry, and nothing clears the set
        constructor
        · intro h
          refine (h s ?_).2
          show ((v.set s _).session s).ended = true
          rw [set_session, if_pos rfl]
          rfl
        · intro hs t ht
          by_cases hts : t = s
          · rw [hts]
            refine ⟨?_, hs⟩
            intro u hu
            exact ((BusinessHandler.lookup_handleDisconnection s v.handler u s).mp hu).2 rfl
          · change ((v.set s _).session t).ended = true at ht
            rw [set_session, if_neg hts] at ht
            refine ⟨?_, (hv t ht).2⟩
            intro u hu
            exact (hv t ht).1 u
              ((BusinessHandler.lookup_handleDisconnection s v.handler u t).mp hu).1
    | lost s =>
        have hagree : Agree v (v.set s { v.session s with is_open := false }) := agree_set rfl
        exact iff_of_true ((endsCleanly_congr hagree).mpr hv) trivial
    | restart =>
        refine iff_of_true ?_ trivial
        intro t ht
        cases ht
  · rw [if_neg henabled]
    exact iff_of_true hv fun h => absurd h henabled

/-- **`ends_cleanly_iff`** — no ended session is left in the registry or in the server's set at any
point of a run exactly if every event of the run is clean. In such a run, a user whose sessions have
all ended is logged in by the next login frame with an accepted password. -/
theorem ends_cleanly_iff (pool_size : Nat) (es : List Event) :
    (Throughout (step pool_size) EndsCleanly (start pool_size) es ↔
      StepsMeet (step pool_size) Clean (start pool_size) es) ∧
    (StepsMeet (step pool_size) Clean (start pool_size) es →
      let v := exec (step pool_size) (start pool_size) es
      ∀ env s json_data msg, v.Enabled (.read env s json_data) →
        Message.fromJson env json_data = .ok msg → msg.messageType = .LOGIN →
        Authenticated env msg v.handler →
        (∀ t, v.handler.userSessions.lookup msg.fromUserId = some t → (v.session t).ended = true) →
        (step pool_size v (.read env s json_data)).handler.userSessions.lookup msg.fromUserId =
          some s) := by
  have hiff : Throughout (step pool_size) EndsCleanly (start pool_size) es ↔
      StepsMeet (step pool_size) Clean (start pool_size) es := by
    refine throughout_iff_stepsMeet (I := fun v : Server => v.handler.db.tables.Ok)
      (fun v e => step_ok v e) endsCleanly_step Tables.Ok.empty ?_ es
    intro t ht
    cases ht
  refine ⟨hiff, ?_⟩
  intro hclean v env s json_data msg henabled hmsg hty hauth hended
  have hv : EndsCleanly v := (hiff.mpr hclean).last
  have hfree : v.handler.userSessions.lookup msg.fromUserId = none := by
    cases ht : v.handler.userSessions.lookup msg.fromUserId with
    | none => rfl
    | some t => exact absurd ht ((hv t (hended t ht)).1 _)
  rw [step, if_pos henabled]
  show (v.onRead s env json_data).handler.userSessions.lookup _ = _
  rw [onRead_handler, stateOf_receive, hmsg]
  exact lookup_registers ⟨hty, hfree, hauth⟩

end Teardown

/-- The text of a frame to nobody. -/
def frameText (fromUserId messageType content : String) : Bytes :=
  str ("\x7b\"fromUserId\":" ++ fromUserId ++ ",\"toUserId\":0,\"messageType\":\"" ++ messageType ++
    "\",\"messageId\":0,\"content\":\"" ++ content ++ "\",\"timestamp\":0\x7d")

/-- A client connects, signs "bob" up and logs in. -/
def bobLogsIn : List Event :=
  [.accepted true, .handshaken true false,
    .read .plain 0 (frameText "0" "SIGN_UP"
      "\x7b\\\"password\\\":\\\"pw\\\",\\\"username\\\":\\\"bob\\\"\x7d"),
    .read .plain 0 (frameText "111111111" "LOGIN" "pw")]

/-- The client vanishes after its login. -/
def vanished : Server :=
  letI := OpenSSL.pw
  exec (step 1) (start 1) (bobLogsIn ++ [.readError 0])

/-- The user tries to log in from a new connection. -/
def retried : Server :=
  letI := OpenSSL.pw
  exec (step 1) vanished [.accepted true, .handshaken true false,
    .read .plain 1 (frameText "111111111" "LOGIN" "pw")]

/-- The client logs out instead. -/
def loggedOut : Server :=
  letI := OpenSSL.pw
  exec (step 1) (start 1)
    (bobLogsIn ++ [.read .plain 0 (frameText "111111111" "LOGOUT" "logout"), .closed 0])

/-- A session that has ended and is still known somewhere has not ended cleanly. -/
theorem not_endsCleanly {v : Server} {s : SessionId} (hended : (v.session s).ended = true)
    (h : (∃ u, v.handler.userSessions.lookup u = some s) ∨ v.sessions = {s}) : ¬EndsCleanly v := by
  intro hv
  rcases h with ⟨u, hu⟩ | hs
  · exact (hv s hended).1 u hu
  · refine (hv s hended).2 ?_
    rw [hs]
    exact Finset.mem_singleton_self s

/-- The session of the client that vanished stays in the registry, so the login from a new connection
is not entered; the session of the client that logged out stays in the server's set. -/
theorem ended_sessions_stay : (¬EndsCleanly vanished ∧ (vanished.session 0).ended = true ∧
    retried.handler.userSessions.lookup 111111111 = some 0) ∧ ¬EndsCleanly loggedOut := by
  obtain ⟨hvanished, hstays, hretried⟩ : (vanished.session 0).ended = true ∧
      vanished.handler.userSessions.lookup 111111111 = some 0 ∧
      retried.handler.userSessions.lookup 111111111 = some 0 := by decide +kernel
  obtain ⟨hended, hkept⟩ : (loggedOut.session 0).ended = true ∧ loggedOut.sessions = {0} := by
    decide +kernel
  exact ⟨⟨not_endsCleanly hvanished (Or.inl ⟨_, hstays⟩), hvanished, hretried⟩,
    not_endsCleanly hended (Or.inr hkept)⟩

end Server

end TinyIM
