/-
# ServiceRefinement — the handler keeps the promises of the service

The state of the service is read off the tables and the registry (`Represents`): an account off a row of
`users`, a bond off the two columns and the status of a row of `friends`, what has been said off the
rows of `messages`. A frame is a request (`request`), and a posted message says what it says to its
reader (`Means`). While the SQLite statements succeed, each event does to the state what its request
does to the service and posts what the service allows; `handler_refines` puts the events together, and
`handler_serves` reads the result off for every run from an empty database.

Passwords are stored as digests. The digest function is assumed to be injective on the strings the run
hashes and nowhere else.
-/
import TinyIM.Service
import TinyIM.Effects
import TinyIM.Forms

namespace TinyIM.BusinessHandler

open TinyIM.Lib TinyIM.Lib.Text TinyIM.Lib.Table TinyIM.Lib.Runs TinyIM.Lib.Stops
  TinyIM.Lib.Refinement

/-! ## Frames as requests, messages as replies -/

/-- The user whose id a sign-up draws. -/
def drawnUser (env : Env) : Int32 := Int32.ofInt (safeId env).val

/-- What an event asks of the service. -/
def request : Event → Service.Request Int32 SessionId Bytes
  | .closed session => .close session
  | .frame env session msg =>
    match msg.messageType with
    | .SIGN_UP =>
      match signUpFields msg.content with
      | .ok (password, username) => .signUp session (drawnUser env) username password
      | .error _ => .nothing
    | .LOGIN => .login session msg.fromUserId msg.content
    | .LOGOUT => .logout session msg.fromUserId
    | .TEXT | .PRIVATE_CHAT => .say ⟨msg.fromUserId, msg.toUserId, msg.content, env.now.toInt⟩
    | .ADD_FRIEND => .ask msg.fromUserId msg.toUserId
    | .FRIEND_LIST => .friends session msg.fromUserId
    | .FRIEND_REQUEST_RESPONSE =>
      if msg.content = str "reject" then .answer msg.fromUserId msg.toUserId false
      else if msg.content = str "accept" then .answer msg.fromUserId msg.toUserId true
      else .nothing
    | .GROUP_CHAT => .announce session msg.fromUserId msg.toUserId msg.content
    | .PULL_MESSAGE => .history session msg.fromUserId env.now.toInt
    | .SIGN_UP_RESPONSE | .LOGIN_RESPONSE | .FRIEND_REQUEST => .nothing

/-- The message tells its reader this. -/
def Means (m : Message) : Service.Reply Int32 Bytes → Prop
  | .registered u => m.messageType = .SIGN_UP_RESPONSE ∧ m.content = to_string u
  | .welcome u username => m.messageType = .LOGIN_RESPONSE ∧ m.fromUserId = u ∧
      dumpJson (loginSuccess username) = .ok m.content
  | .wrong u => m.messageType = .LOGIN_RESPONSE ∧ m.fromUserId = u ∧
      dumpJson (loginFail "authenticate fail") = .ok m.content
  | .repeated u => m.messageType = .LOGIN_RESPONSE ∧ m.fromUserId = u ∧
      dumpJson (loginFail "repeated login") = .ok m.content
  | .said speaker listener text => m.messageType = .TEXT ∧ m.fromUserId = speaker ∧
      m.toUserId = listener ∧ m.content = text
  | .asked user friend username => m.messageType = .FRIEND_REQUEST ∧ m.fromUserId = user ∧
      m.toUserId = friend ∧ m.content = username
  | .friends user list => m.messageType = .FRIEND_LIST ∧ m.fromUserId = user ∧
      dumpJson (.array (list.map fun entry => friendEntry entry.1 entry.2)) = .ok m.content
  | .announced user group text => m.messageType = .GROUP_CHAT ∧ m.fromUserId = user ∧
      m.toUserId = group ∧ m.content = text

/-- What was posted between two states is, to its readers, this output. -/
def Tells (h h' : BusinessHandler) (o : Service.Output Int32 SessionId Bytes) : Prop :=
  (∃ ps, h'.posted = h.posted ++ ps ∧
    List.Forall₂ (fun p reply => p.1 = reply.1 ∧ Means p.2 reply.2) ps o.sent) ∧
  h'.closing = h.closing ++ o.closed

/-! ## The state of the service in the state of the handler -/

/-- The row is the account; its salted password is among the strings `H`. -/
def IsAccount [OpenSSL] (H : Set Bytes) (r : UserRow) (account : Service.Account Bytes) : Prop :=
  cstr r.username = account.username ∧ ∃ salt, NoNul salt ∧ r.salt = cstr salt ∧
    r.password_hash = Database.hashPassword account.password salt ∧ account.password ++ salt ∈ H

/-- The row of an utterance. -/
def saidRow (said : Service.Utterance Int32 Bytes × Nat) : MessageRow :=
  ⟨said.2, to_string said.1.speaker, to_string said.1.listener, messageTypeToString .TEXT,
    said.1.text, said.1.time⟩

/-- The tables hold what the service knows. -/
structure Records [OpenSSL] (H : Set Bytes) (a : Service.State Int32 SessionId Bytes) (t : Tables) :
    Prop where
  ok : t.Ok
  plain : t.Plain
  account : ∀ u, Option.Rel (IsAccount H) (t.users.lookup (to_string u)) (a.account u)
  bond : ∀ u v, a.bond u v =
    (t.friends.lookup (to_string u, to_string v)).map fun r => decide (r.status = 1)
  said : t.messages.rows = (a.said.zipIdx 1).map saidRow
  last : t.messages.last = a.said.length
  texts : ∀ said ∈ a.said, NoNul said.text

/-- The handler is in a state of the service, with its connections idle. -/
structure Represents [OpenSSL] (H : Set Bytes) (pool_size : Nat)
    (a : Service.State Int32 SessionId Bytes) (h : BusinessHandler) : Prop where
  idle : h.idle.Perm (List.range pool_size)
  stores : Records H a h.db.tables
  online : ∀ u, h.userSessions.lookup u = a.online u

/-- What a sign-up asks of the service. -/
theorem request_sign_up {env : Env} {session : SessionId} {msg : Message}
    (hty : msg.messageType = .SIGN_UP) :
    request (.frame env session msg) =
      match signUpFields msg.content with
      | .ok (password, username) => .signUp session (drawnUser env) username password
      | .error _ => .nothing := by
  unfold request
  simp only [hty]

/-- The row of an utterance comes back as it was said. -/
theorem messageOfRow_saidRow {said : Service.Utterance Int32 Bytes × Nat} (hid : said.2 < 2 ^ 31)
    (htext : NoNul said.1.text) (env : Env) :
    Database.messageOfRow env (saidRow said) =
      .ok (Database.replay env said.1.speaker said.1.listener said.2 said.1.text) := by
  have hnew : saidRow said = ⟨said.2, to_string said.1.speaker, to_string said.1.listener,
    messageTypeToString .TEXT, said.1.text, said.1.time⟩ := rfl
  simp only [Database.messageOfRow, hnew, cstr_to_string, stoi_to_string, cstr_messageTypeToString,
    stringToMessageType_messageTypeToString, Database.stoi_decimal hid, cstr_of_noNul htext]
  rfl

section Serves

variable [OpenSSL] {H : Set Bytes} {pool_size : Nat} {a : Service.State Int32 SessionId Bytes}
  {h h' : BusinessHandler} {t : Tables} {env : Env} {session : SessionId} {msg : Message} {e : Event}

/-- The event has done to the state what its request does to the service, and posted what the service
allows. -/
structure Serves (H : Set Bytes) (a : Service.State Int32 SessionId Bytes) (h : BusinessHandler)
    (i : Service.Request Int32 SessionId Bytes) (h' : BusinessHandler) : Prop where
  stores : Records H (a.after cstr i) h'.db.tables
  online : ∀ u, h'.userSessions.lookup u = (a.after cstr i).online u
  told : ∃ o, Tells h h' o ∧ Service.Allows a i o

/-- A request that changes nothing and is not answered. -/
theorem Represents.serves_nothing (hrep : Represents H pool_size a h) (pool : List Conn) :
    Serves H a h .nothing (h.withDb h.db.tables pool) where
  stores := hrep.stores
  online := hrep.online
  told := ⟨⟨[], []⟩, ⟨⟨[], (List.append_nil _).symm, .nil⟩, (List.append_nil _).symm⟩, rfl⟩

/-! ## Sign-ups -/

/-- The id a sign-up draws is that of its user. -/
theorem new_user_id (env : Env) (password username : Bytes) :
    (UserRow.new env password username).user_id = to_string (drawnUser env) := by
  rw [drawnUser, to_string_idNumber]
  exact Database.cstr_generateUUID env

/-- A row is looked up exactly where there is an account. -/
theorem Records.isSome_account (hst : Records H a t) (u : Int32) :
    (a.account u).isSome = (t.users.lookup (to_string u)).isSome := by
  have hrel := hst.account u
  generalize t.users.lookup (to_string u) = row at hrel ⊢
  generalize a.account u = account at hrel ⊢
  cases hrel with
  | none => rfl
  | some hacc => rfl

/-- A row that was inserted is an account. -/
theorem Records.registered (hst : Records H a t) {password username : Bytes} {t' : Tables}
    (session : SessionId) (hutf8 : ValidUtf8 username) (hhash : password ++ Database.generateSalt env ∈ H)
    (hnew : t.registered (.new env password username) = some t') :
    a.account (drawnUser env) = none ∧
      Records H (a.after cstr (.signUp session (drawnUser env) username password)) t' := by
  have hlookup := lookup_registered hnew
  rw [new_user_id] at hlookup
  have hfree : a.account (drawnUser env) = none := by
    have hsome := hst.isSome_account (drawnUser env)
    rw [(hlookup (to_string (drawnUser env))).1] at hsome
    exact Option.not_isSome_iff_eq_none.mp (Bool.eq_false_iff.mp hsome)
  have hafter : a.after cstr (.signUp session (drawnUser env) username password) =
      { a with account := Function.update a.account (drawnUser env)
                (some ⟨cstr username, password⟩) } := by
    rw [Service.State.after, hfree]
    rfl
  refine ⟨hfree, ?_⟩
  rw [hafter]
  obtain ⟨users, hins, rfl⟩ := Option.map_eq_some_iff.mp hnew
  refine { hst with
    ok := hst.ok.registered (validUtf8_cstr hutf8) hnew
    plain := ⟨hst.plain.ids, ?_⟩
    account := ?_ }
  · intro w hw
    rw [show users.rows = t.users.rows ++ [.new env password username] from
      (Keyed.insert_eq_some hins).2, List.mem_append, List.mem_singleton] at hw
    rcases hw with hw | rfl
    · exact hst.plain.names w hw
    · exact noNul_cstr _
  · intro u
    rw [(hlookup (to_string u)).2]
    show Option.Rel _ _ (Function.update a.account _ _ u)
    by_cases hu : drawnUser env = u
    · subst hu
      rw [if_pos rfl, Function.update_self]
      refine .some ⟨cstr_cstr _, Database.generateSalt env, noNul_hex _, rfl, ?_, hhash⟩
      exact Database.cstr_hashPassword _ _
    · rw [if_neg fun heq => hu (to_string_inj.mp heq), Function.update_of_ne (Ne.symm hu)]
      exact hst.account u

/-- Sign-ups serve. -/
theorem Represents.signUp (hrep : Represents H pool_size a h) (hready : h.db.Ready)
    (henv : env.SqlSucceeds) (hty : msg.messageType = .SIGN_UP)
    (hhash : ∀ password username, SignsUp msg.content password username →
      password ++ Database.generateSalt env ∈ H) :
    Serves H a h (request (.frame env session msg)) (stateOf (signUp env msg session h)) := by
  rw [request_sign_up hty]
  cases hfields : signUpFields msg.content with
  | error x =>
      have hends : Ends (BusinessHandler.signUp env msg session) h (fun _ h' => h' = h)
          fun _ h' => h' = h :=
        (signUp_throws hfields).mono (fun _ _ hfalse => hfalse.elim) fun _ _ heq => heq
      rw [ends_stateOf.mp hends]
      exact hrep.serves_nothing h.db.connection_pool
  | ok fields =>
      obtain ⟨password, username⟩ := fields
      have hsigns : SignsUp msg.content password username := signsUp_of_fields hfields
      obtain ⟨pool, ⟨t, hnew, heq⟩ | ⟨hnone, heq⟩⟩ :=
        stateOf_of_ends (signUp_exact hsigns henv hready)
      · obtain ⟨hfree, hstores⟩ := hrep.stores.registered session hsigns.validUtf8
          (hhash _ _ hsigns) hnew
        rw [heq]
        refine ⟨hstores, ?_, ⟨[(session, .registered (drawnUser env))], []⟩, ⟨⟨_, rfl, ?_⟩, ?_⟩, ?_⟩
        · intro u
          rw [Service.State.after, hfree]
          exact hrep.online u
        · refine .cons ⟨rfl, rfl, ?_⟩ .nil
          rw [drawnUser, to_string_idNumber]
          rfl
        · exact (List.append_nil _).symm
        · rw [Service.Allows, hfree]
          rfl
      · -- the drawn id is taken
        have htaken : (a.account (drawnUser env)).isSome := by
          rw [hrep.stores.isSome_account, ← new_user_id env password username]
          by_contra hnot
          rw [Option.not_isSome_iff_eq_none, Keyed.lookup_eq_none] at hnot
          obtain ⟨t, ht⟩ := Tables.exists_registered hnot
          rw [hnone] at ht
          cases ht
        have hafter : a.after cstr (.signUp session (drawnUser env) username password) = a := by
          rw [Service.State.after, if_pos htaken]
        rw [heq]
        refine ⟨?_, ?_, ⟨[], []⟩, ⟨⟨[], (List.append_nil _).symm, .nil⟩, ?_⟩, ?_⟩
        · rw [hafter]
          exact hrep.stores
        · rw [hafter]
          exact hrep.online
        · exact (List.append_nil _).symm
        · rw [Service.Allows, if_pos htaken]

/-! ## Logins -/

/-- A row of a user is their account. -/
theorem Records.account_of_row (hst : Records H a t) {r : UserRow} {u : Int32} (hr : r ∈ t.users.rows)
    (hid : r.user_id = to_string u) : ∃ account, a.account u = some account ∧ IsAccount H r account := by
  have hrel := hst.account u
  rw [Keyed.lookup_eq_some.mpr ⟨hr, hid⟩] at hrel
  generalize a.account u = account at hrel ⊢
  cases hrel with
  | some hacc => exact ⟨_, rfl, hacc⟩

/-- An account is in a row of its user. -/
theorem Records.row_of_account (hst : Records H a t) {u : Int32} {account : Service.Account Bytes}
    (hu : a.account u = some account) :
    ∃ r ∈ t.users.rows, r.user_id = to_string u ∧ IsAccount H r account := by
  have hrel := hst.account u
  rw [hu] at hrel
  generalize hrow : t.users.lookup (to_string u) = row at hrel
  cases hrel with
  | some hacc =>
      obtain ⟨hr, hid⟩ := Keyed.lookup_eq_some.mp hrow
      exact ⟨_, hr, hid, hacc⟩

/-- A row lets the owner of its account in, and nobody else. -/
theorem IsAccount.authenticates_iff (hinj : Set.InjOn OpenSSL.sha256 H) {r : UserRow}
    {account : Service.Account Bytes} (hacc : IsAccount H r account) {u : Int32} {content : Bytes}
    (hid : r.user_id = to_string u) (hcontent : content ++ cstr r.salt ∈ H) :
    Database.Authenticates u content r ↔ account.password = content := by
  obtain ⟨-, salt, hsalt, hr, hhash, hpassword⟩ := hacc
  rw [hr, cstr_cstr, cstr_of_noNul hsalt] at hcontent
  rw [BusinessHandler.authenticates_iff hinj hr hhash hsalt hpassword hcontent, and_iff_right hid,
    eq_comm]

/-- Logins serve. -/
theorem Represents.loginUser (hrep : Represents H pool_size a h) (hready : h.db.Ready)
    (henv : env.SqlSucceeds) (hinj : Set.InjOn OpenSSL.sha256 H)
    (hhash : ∀ r ∈ h.db.tables.users.rows, r.user_id = to_string msg.fromUserId →
      msg.content ++ cstr r.salt ∈ H) :
    Serves H a h (.login session msg.fromUserId msg.content)
      (stateOf (loginUser env msg session h)) := by
  have hst := hrep.stores
  have honline := hrep.online msg.fromUserId
  -- what a row says about the password is what the account says
  have hauth : ∀ r ∈ h.db.tables.users.rows, ∀ account, r.user_id = to_string msg.fromUserId →
      IsAccount H r account →
      (Database.Authenticates msg.fromUserId msg.content r ↔ account.password = msg.content) :=
    fun r hr account hid hacc => hacc.authenticates_iff hinj hid (hhash r hr hid)
  -- a refused login changes nothing
  have hrefused : ∀ pool content (reply : Service.Reply Int32 Bytes),
      a.after cstr (.login session msg.fromUserId msg.content) = a →
      Means (loginReply env msg content) reply →
      Service.Allows a (.login session msg.fromUserId msg.content) ⟨[(session, reply)], []⟩ →
      Serves H a h (.login session msg.fromUserId msg.content)
        ((h.withDb h.db.tables pool).post [(session, loginReply env msg content)]) := by
    intro pool content reply hafter hmeans hallows
    refine ⟨?_, ?_, _, ⟨⟨_, rfl, .cons ⟨rfl, hmeans⟩ .nil⟩, (List.append_nil _).symm⟩, hallows⟩
    · rw [hafter]
      exact hst
    · rw [hafter]
      exact hrep.online
  obtain ⟨pool, content, ⟨hnone, hcontent, heq⟩ | ⟨r, hr, hr', hcase⟩⟩ :=
    stateOf_of_ends (loginUser_exact session msg henv hready hst.ok.users)
  · rw [heq]
    cases haccount : a.account msg.fromUserId with
    | none =>
        refine hrefused pool content (.wrong msg.fromUserId) ?_ ⟨rfl, rfl, hcontent⟩ ?_
        · rw [Service.State.after, haccount]
        · exact ⟨_, rfl, Or.inl ⟨haccount, rfl⟩⟩
    | some account =>
        obtain ⟨r, hr, hid, hacc⟩ := hst.row_of_account haccount
        have hwrong : account.password ≠ msg.content := by
          intro heq
          exact hnone r hr ((hauth r hr account hid hacc).mpr heq)
        refine hrefused pool content (.wrong msg.fromUserId) ?_ ⟨rfl, rfl, hcontent⟩ ?_
        · rw [Service.State.after, haccount]
          cases a.online msg.fromUserId with
          | none => exact if_neg hwrong
          | some other => rfl
        · exact ⟨_, rfl, Or.inr ⟨account, haccount, Or.inl ⟨hwrong, rfl⟩⟩⟩
  · obtain ⟨account, haccount, hacc⟩ := hst.account_of_row hr hr'.1
    have hright := (hauth r hr account hr'.1 hacc).mp hr'
    rcases hcase with ⟨hsome, hcontent, heq⟩ | ⟨hfree, hcontent, heq⟩
    · rw [heq]
      rw [honline] at hsome
      refine hrefused pool content (.repeated msg.fromUserId) ?_ ⟨rfl, rfl, hcontent⟩ ?_
      · obtain ⟨other, hother⟩ := Option.isSome_iff_exists.mp hsome
        rw [Service.State.after, haccount, hother]
      · exact ⟨_, rfl, Or.inr ⟨account, haccount, Or.inr (Or.inl ⟨hright, hsome, rfl⟩)⟩⟩
    · rw [heq]
      rw [honline] at hfree
      have hafter : a.after cstr (.login session msg.fromUserId msg.content) =
          { a with online := Function.update a.online msg.fromUserId (some session) } := by
        rw [Service.State.after, haccount, hfree]
        exact if_pos hright
      rw [hacc.1] at hcontent
      refine ⟨?_, ?_, ⟨[(session, .welcome msg.fromUserId account.username)], []⟩,
        ⟨⟨_, rfl, .cons ⟨rfl, rfl, rfl, hcontent⟩ .nil⟩, (List.append_nil _).symm⟩, ?_⟩
      · rw [hafter]
        exact { hst with }
      · intro u
        rw [hafter]
        show (h.userSessions.insert msg.fromUserId session).lookup u =
          Function.update a.online msg.fromUserId (some session) u
        by_cases hu : u = msg.fromUserId
        · subst hu
          rw [AList.lookup_insert, Function.update_self]
        · rw [AList.lookup_insert_ne hu, Function.update_of_ne hu]
          exact hrep.online u
      · exact ⟨_, rfl, Or.inr ⟨account, haccount, Or.inr (Or.inr ⟨hright, hfree, rfl⟩)⟩⟩

/-! ## Logouts and closes -/

/-- Logouts serve. -/
theorem Represents.logoutUser (hrep : Represents H pool_size a h) (u : Int32) :
    Serves H a h (.logout session u) (stateOf (logoutUser u session h)) := by
  have heq : stateOf (BusinessHandler.logoutUser u session h) =
      { h with userSessions := h.userSessions.erase u, closing := h.closing ++ [session] } := by
    refine stateOf_of_ends (P := (· = _)) ?_
    unfold BusinessHandler.logoutUser
    simp only [ends_bind, ends_findSession, ends_ite]
    refine ⟨fun _ => rfl, fun hnone => ?_⟩
    rw [erase_of_lookup_none (Option.not_isSome_iff_eq_none.mp hnone)]
    exact rfl
  rw [heq]
  refine ⟨{ hrep.stores with }, ?_, ⟨[], [session]⟩, ⟨⟨[], (List.append_nil _).symm, .nil⟩, rfl⟩, rfl⟩
  intro v
  show (h.userSessions.erase u).lookup v = Function.update a.online u none v
  by_cases hv : v = u
  · subst hv
    rw [AList.lookup_erase, Function.update_self]
  · rw [AList.lookup_erase_ne hv, Function.update_of_ne hv]
    exact hrep.online v

/-- Completed closes serve. -/
theorem Represents.closed (hrep : Represents H pool_size a h) :
    Serves H a h (.close session) (handleDisconnection session h) := by
  refine ⟨{ hrep.stores with }, ?_, ⟨[], []⟩,
    ⟨⟨[], (List.append_nil _).symm, .nil⟩, (List.append_nil _).symm⟩, rfl⟩
  intro u
  refine Option.ext fun s => ?_
  rw [lookup_handleDisconnection, hrep.online]
  show _ ↔ (if a.online u = some session then none else a.online u) = some s
  split
  · rename_i hu
    rw [hu, Option.some.injEq]
    refine iff_of_false ?_ (Option.some_ne_none s).symm
    rintro ⟨rfl, hne⟩
    exact hne rfl
  · rename_i hu
    refine and_iff_left_of_imp ?_
    rintro hs rfl
    exact hu hs

/-! ## Messages -/

/-- A stored chat frame has been said. -/
theorem Records.stored (hst : Records H a t) (env : Env) (msg : Message) :
    Records H (a.after cstr (.say ⟨msg.fromUserId, msg.toUserId, msg.content, env.now.toInt⟩))
      (t.stored env msg) := by
  refine { hst with
    ok := hst.ok.stored env msg
    plain := ⟨hst.plain.ids, hst.plain.names⟩
    said := ?_
    last := ?_
    texts := ?_ }
  · show t.messages.rows ++ [MessageRow.new env msg (t.messages.last + 1)] =
      ((a.said ++ [_]).zipIdx 1).map saidRow
    rw [hst.said, hst.last, List.zipIdx_append, List.map_append, Nat.add_comm 1]
    rfl
  · show t.messages.last + 1 = (a.said ++ [_]).length
    rw [hst.last, List.length_append, List.length_singleton]
  · intro said hsaid
    rcases List.mem_append.mp hsaid with hsaid | hsaid
    · exact hst.texts said hsaid
    · rw [List.mem_singleton.mp hsaid]
      exact noNul_cstr _

/-- Chat frames serve. -/
theorem Represents.sendMessageToUser (hrep : Represents H pool_size a h) (hready : h.db.Ready)
    (henv : env.SqlSucceeds) :
    Serves H a h (.say ⟨msg.fromUserId, msg.toUserId, msg.content, env.now.toInt⟩)
      (stateOf (sendMessageToUser env msg h)) := by
  have hends : Ends (BusinessHandler.sendMessageToUser env msg) h _ fun _ _ => False :=
    sendMessageToUser_ok henv hready
  obtain ⟨pool, heq⟩ := stateOf_of_ends hends
  rw [heq, hrep.online]
  refine ⟨hrep.stores.stored env msg, hrep.online, _, ⟨⟨_, rfl, ?_⟩, (List.append_nil _).symm⟩, rfl⟩
  rw [List.forall₂_map_left_iff, List.forall₂_map_right_iff, List.forall₂_same]
  exact fun other _ => ⟨rfl, rfl, rfl, rfl, rfl⟩

/-- The selection of a pull is the rows of the recent utterances. -/
theorem Records.recentRows (hst : Records H a t) (env : Env) (u : Int32) :
    Database.recentRows env (to_string u) 1 t = ((a.said.zipIdx 1).filter fun said =>
      (said.1.speaker = u ∨ said.1.listener = u) ∧
        env.now.toInt - Service.day ≤ said.1.time).map saidRow := by
  unfold Database.recentRows
  rw [hst.said, List.filter_map]
  refine congrArg _ (List.filter_congr fun said _ => decide_eq_decide.mpr ?_)
  show ((to_string said.1.speaker = cstr (to_string u) ∨ to_string said.1.listener = cstr (to_string u)) ∧
    env.now.toInt - 86400 * 1 ≤ said.1.time) ↔ _
  rw [cstr_to_string, to_string_inj, to_string_inj]
  rfl

/-- Pulls of the history serve. -/
theorem Represents.pushMessage (hrep : Represents H pool_size a h) (session : SessionId)
    (hready : h.db.Ready) (henv : env.SqlSucceeds) (hcount : h.db.tables.messages.last < 2 ^ 31)
    (hty : msg.messageType = .PULL_MESSAGE) :
    Serves H a h (.history session msg.fromUserId env.now.toInt)
      (step h (.frame env session msg)) := by
  have hselected := hrep.stores.recentRows env msg.fromUserId
  have hconverts : ∀ said ∈ a.said.zipIdx 1, Database.messageOfRow env (saidRow said) =
      .ok (Database.replay env said.1.speaker said.1.listener said.2 said.1.text) := by
    intro said hsaid
    have hid := (List.mem_zipIdx hsaid).2.1
    have hlast := hrep.stores.last
    exact messageOfRow_saidRow (by omega) (hrep.stores.texts _ (List.fst_mem_of_mem_zipIdx hsaid)) env
  have hread : ∀ r ∈ Database.recentRows env (to_string msg.fromUserId) 1 h.db.tables,
      Database.messageOfRow env r = .ok
        ((Database.messageOfRow env r).toOption.getD (.new env 0 0 .TEXT 0 [])) := by
    intro r hr
    rw [hselected] at hr
    obtain ⟨said, hsaid, rfl⟩ := List.mem_map.mp hr
    rw [hconverts said (List.mem_of_mem_filter hsaid)]
    rfl
  obtain ⟨pool, rows, hperm, heq⟩ : ∃ (pool : List Conn) (rows : List MessageRow), rows.Perm _ ∧
      step h (.frame env session msg) = _ := step_pull hty henv hready hread
  rw [hselected] at hperm
  obtain ⟨cs, rfl, hcs⟩ : Relation.Comp (· = List.map saidRow ·) List.Perm rows _ := by
    rw [List.eq_map_comp_perm]
    exact hperm
  rw [heq]
  refine ⟨hrep.stores, hrep.online, ⟨cs.map fun said =>
    (session, .said said.1.speaker said.1.listener said.1.text), []⟩,
    ⟨⟨_, rfl, ?_⟩, (List.append_nil _).symm⟩, rfl, ?_⟩
  · rw [List.map_map, List.forall₂_map_left_iff, List.forall₂_map_right_iff, List.forall₂_same]
    intro said hsaid
    have hmem := List.mem_of_mem_filter (hcs.mem_iff.mp hsaid)
    refine ⟨rfl, ?_⟩
    show Means ((Database.messageOfRow env (saidRow said)).toOption.getD _) _
    rw [hconverts said hmem]
    exact ⟨rfl, rfl, rfl, rfl⟩
  · refine (hcs.map _).trans (List.Perm.of_eq ?_)
    have hrecent : a.recent msg.fromUserId env.now.toInt =
        ((a.said.zipIdx 1).filter fun said =>
          (said.1.speaker = msg.fromUserId ∨ said.1.listener = msg.fromUserId) ∧
            env.now.toInt - Service.day ≤ said.1.time).map Prod.fst := by
      conv_lhs => rw [Service.State.recent, ← List.zipIdx_map_fst 1 a.said, List.filter_map]
      rfl
    rw [hrecent, List.map_map]
    rfl

/-- Group messages serve. -/
theorem Represents.sendGroupMessage (hrep : Represents H pool_size a h)
    (hty : msg.messageType = .GROUP_CHAT) :
    Serves H a h (.announce session msg.fromUserId msg.toUserId msg.content)
      (step h (.frame env session msg)) := by
  rw [step_group hty]
  have hlisteners : ∀ v s, (v, s) ∈ ((reorder env.visit h.userSessions.entries).filter
      fun it => it.2 ≠ session).map (fun it => (it.1, it.2)) ↔ a.online v = some s ∧ s ≠ session := by
    intro v s
    rw [← hrep.online, List.mem_map]
    constructor
    · rintro ⟨⟨w, s'⟩, hit, heq⟩
      obtain ⟨rfl, rfl⟩ := Prod.mk.inj heq
      obtain ⟨hit, hne⟩ := List.mem_filter.mp hit
      exact ⟨AList.mem_lookup_iff.mpr (mem_reorder.mp hit), of_decide_eq_true hne⟩
    · rintro ⟨hv, hne⟩
      exact ⟨⟨v, s⟩, List.mem_filter.mpr
        ⟨mem_reorder.mpr (AList.mem_lookup_iff.mp hv), decide_eq_true hne⟩, rfl⟩
  refine ⟨hrep.stores, hrep.online, ⟨((reorder env.visit h.userSessions.entries).filter
    fun it => it.2 ≠ session).map fun it =>
      (it.2, .announced msg.fromUserId msg.toUserId msg.content), []⟩,
    ⟨⟨_, rfl, ?_⟩, (List.append_nil _).symm⟩, rfl, _, ?_, hlisteners, ?_⟩
  · rw [groupCopies, List.forall₂_map_left_iff, List.forall₂_map_right_iff, List.forall₂_same]
    exact fun it _ => ⟨rfl, rfl, rfl, rfl, rfl⟩
  · -- the registry has one entry for each user
    rw [List.map_map]
    have hkeys : (h.userSessions.entries.map Sigma.fst).Nodup := h.userSessions.nodupKeys
    have hperm := (reorder_perm env.visit h.userSessions.entries).map Sigma.fst
    exact (List.filter_sublist.map Sigma.fst).nodup (hperm.nodup_iff.mpr hkeys)
  · rw [List.map_map]
    rfl

/-! ## Friend requests and their answers -/

/-- A stored friend request has been asked. -/
theorem Records.requested (hst : Records H a t) {u v : Int32} (hne : u ≠ v) :
    Records H (a.after cstr (.ask u v)) ((t.requested u v).requested v u) := by
  have hok := (hst.ok.requested hne).requested hne.symm
  rw [Service.State.after, if_neg hne]
  refine { hst with ok := hok, plain := ⟨?_, hst.plain.names⟩, bond := ?_ }
  · intro f hf
    obtain ⟨x, y, -, -, hid⟩ := hok.friends f hf
    rw [hid]
    exact noNul_decimal _
  · intro x y
    rw [Tables.lookup_requested_requested hne]
    simp only [onPair_to_string]
    split
    · rw [hst.bond, Option.map_or]
      rfl
    · exact hst.bond x y

/-- Friend requests serve. -/
theorem Represents.addFriend (hrep : Represents H pool_size a h) (hready : h.db.Ready)
    (henv : env.SqlSucceeds) :
    Serves H a h (.ask msg.fromUserId msg.toUserId) (stateOf (addFriend env msg h)) := by
  by_cases hself : msg.fromUserId = msg.toUserId
  · have hafter : a.after cstr (.ask msg.fromUserId msg.toUserId) = a := by
      rw [Service.State.after, if_pos hself]
    have heq : stateOf (BusinessHandler.addFriend env msg h) = h := by
      unfold BusinessHandler.addFriend
      rw [if_pos hself]
      rfl
    rw [heq]
    refine ⟨?_, ?_, ⟨[], []⟩, ⟨⟨[], (List.append_nil _).symm, .nil⟩, (List.append_nil _).symm⟩, ?_⟩
    · rw [hafter]
      exact hrep.stores
    · rw [hafter]
      exact hrep.online
    · rw [Service.Allows, if_pos hself]
  · obtain ⟨pool, heq⟩ := stateOf_of_ends (addFriend_exact henv hready hself)
    rw [heq, hrep.online]
    refine ⟨hrep.stores.requested hself, ?_, _, ⟨⟨_, rfl, ?_⟩, (List.append_nil _).symm⟩, rfl⟩
    · rw [Service.State.after, if_neg hself]
      exact hrep.online
    · rw [if_neg hself]
      have hrel := hrep.stores.account msg.fromUserId
      generalize h.db.tables.users.lookup (to_string msg.fromUserId) = row at hrel ⊢
      generalize a.account msg.fromUserId = account at hrel ⊢
      cases hrel with
      | none => exact .nil
      | some hacc =>
          rw [Option.toList_some, Option.toList_some, List.flatMap_singleton, List.flatMap_singleton,
            List.forall₂_map_left_iff, List.forall₂_map_right_iff, List.forall₂_same]
          exact fun other _ => ⟨rfl, rfl, rfl, rfl, hacc.1⟩

/-- An accepted request is a bond of friends. -/
theorem Records.accepted (hst : Records H a t) (u v : Int32) :
    Records H (a.after cstr (.answer u v true)) (t.accepted v u) := by
  have hok := hst.ok.accepted v u
  refine { hst with ok := hok, plain := ⟨?_, hst.plain.names⟩, bond := ?_ }
  · intro f hf
    obtain ⟨x, y, -, -, hid⟩ := hok.friends f hf
    rw [hid]
    exact noNul_decimal _
  · intro x y
    show (if _ then _ else _) = _
    rw [Tables.lookup_accepted]
    simp only [onPair_comm (a := v), onPair_to_string]
    split
    · rw [hst.bond, Option.map_map, Option.map_map]
      rfl
    · exact hst.bond x y

/-- A refused request is taken back. -/
theorem Records.rejected (hst : Records H a t) (u v : Int32) :
    Records H (a.after cstr (.answer u v false)) (t.rejected v u) := by
  have hok := hst.ok.rejected v u
  refine { hst with ok := hok, plain := ⟨?_, hst.plain.names⟩, bond := ?_ }
  · intro f hf
    exact hst.plain.ids f (Tables.mem_rejected.mp hf).1
  · intro x y
    show (if _ then _ else _) = _
    rw [Tables.lookup_rejected]
    simp only [Prod.mk.injEq, to_string_inj]
    split
    · rfl
    · exact hst.bond x y

/-- Answers to friend requests serve. -/
theorem Represents.ackAddFriend (hrep : Represents H pool_size a h) (hready : h.db.Ready)
    (henv : env.SqlSucceeds) (hty : msg.messageType = .FRIEND_REQUEST_RESPONSE) :
    Serves H a h (request (.frame env session msg)) (stateOf (ackAddFriend env msg h)) := by
  have hrequest : request (.frame env session msg) =
      if msg.content = str "reject" then .answer msg.fromUserId msg.toUserId false
      else if msg.content = str "accept" then .answer msg.fromUserId msg.toUserId true
      else .nothing := by
    unfold request
    simp only [hty]
  obtain ⟨pool, heq⟩ := stateOf_of_ends (ackAddFriend_exact msg henv hready)
  rw [hrequest, heq]
  have hquiet : ∀ t, ∃ o, Tells h (h.withDb t pool) o ∧ o = (⟨[], []⟩ : Service.Output _ _ _) :=
    fun t => ⟨_, ⟨⟨[], (List.append_nil _).symm, .nil⟩, (List.append_nil _).symm⟩, rfl⟩
  by_cases hreject : msg.content = str "reject"
  · rw [if_pos hreject, if_pos hreject]
    exact ⟨hrep.stores.rejected _ _, hrep.online, hquiet _⟩
  · rw [if_neg hreject, if_neg hreject]
    by_cases haccept : msg.content = str "accept"
    · rw [if_pos haccept, if_pos haccept]
      exact ⟨hrep.stores.accepted _ _, hrep.online, hquiet _⟩
    · rw [if_neg haccept, if_neg haccept]
      exact hrep.serves_nothing pool

/-! ## Friend lists -/

/-- A friend is an accepted row. -/
theorem Records.accepted_iff (hst : Records H a t) (u v : Int32) :
    t.Accepted u (to_string v) ↔ a.bond u v = some true := by
  rw [hst.bond, Option.map_eq_some_iff]
  constructor
  · intro hrow
    exact ⟨_, Keyed.lookup_eq_some.mpr ⟨hrow, rfl⟩, rfl⟩
  · rintro ⟨⟨user_id, friend_id, status⟩, hlookup, hstatus⟩
    obtain ⟨hrow, hkey⟩ := Keyed.lookup_eq_some.mp hlookup
    obtain ⟨rfl, rfl⟩ := Prod.mk.inj hkey
    obtain rfl : status = 1 := of_decide_eq_true hstatus
    exact hrow

/-- The name of a friend, where the row is looked up and where the account is. -/
theorem Records.username (hst : Records H a t) (u : Int32) :
    (t.users.lookup (to_string u)).map (fun w => cstr w.username) =
      (a.account u).map Service.Account.username := by
  have hrel := hst.account u
  generalize t.users.lookup (to_string u) = row at hrel ⊢
  generalize a.account u = account at hrel ⊢
  cases hrel with
  | none => rfl
  | some hacc => exact congrArg some hacc.1

/-- The columns of the friend list: the ids are the friends, and the names are theirs if all of them have
an account; otherwise the columns differ in length. -/
theorem Records.columns (hst : Records H a t) {o₁ o₂ : Outcome} (ho₁ : o₁.Succeeds) (ho₂ : o₂.Succeeds)
    {u : Int32} {ids : List Int32} (hids : Database.friendIds o₁ t u = ids.map to_string) :
    ids.Nodup ∧ (∀ v, v ∈ ids ↔ a.bond u v = some true) ∧
    ((∀ v ∈ ids, (a.account v).isSome) → (Database.friendNames o₂ t u).length = ids.length ∧
      ((Database.friendNames o₂ t u).map some).Perm
        (ids.map fun v => (a.account v).map Service.Account.username)) ∧
    ((∃ v ∈ ids, a.account v = none) → (Database.friendNames o₂ t u).length ≠ ids.length) := by
  have hplain := hst.plain
  have hnodup := Database.nodup_friendIds (o := o₁) (u := u) hplain
  rw [hids] at hnodup
  have hmem : ∀ v, v ∈ ids ↔ a.bond u v = some true := by
    intro v
    rw [← hst.accepted_iff]
    constructor
    · intro hv
      refine Database.accepted_of_mem_friendIds (o := o₁) hplain ?_
      rw [hids]
      exact List.mem_map_of_mem hv
    · intro hv
      have hid := Database.mem_friendIds hplain ho₁ hv
      rw [hids] at hid
      obtain ⟨w, hw, heq⟩ := List.mem_map.mp hid
      rwa [← to_string_inj.mp heq]
  -- both columns come from the accepted rows
  have hrows : (ids.map to_string).Perm ((Database.acceptedRows t u).map FriendRow.friend_id) := by
    rw [← hids, Database.friendIds, Database.handedOut_of_succeeds ho₁]
    refine ((reorder_perm _ _).map _).trans (List.Perm.of_eq (List.map_congr_left fun f hf => ?_))
    obtain ⟨id, hid, rfl⟩ := Database.mem_acceptedRows.mp hf
    exact cstr_of_noNul (hplain.ids _ hid)
  have hnames : (Database.friendNames o₂ t u).Perm (((Database.acceptedRows t u).filterMap
      fun f => t.users.lookup f.friend_id).map fun w => cstr w.username) := by
    rw [Database.friendNames, Database.handedOut_of_succeeds ho₂, friendUsers_eq]
    exact (reorder_perm _ _).map _
  have hfound : ∀ f ∈ Database.acceptedRows t u, ∃ v ∈ ids, f.friend_id = to_string v := by
    intro f hf
    have hid := hrows.mem_iff.mpr (List.mem_map_of_mem hf)
    obtain ⟨v, hv, heq⟩ := List.mem_map.mp hid
    exact ⟨v, hv, heq.symm⟩
  have hlength : ids.length = (Database.acceptedRows t u).length := by
    rw [← List.length_map (f := to_string), hrows.length_eq, List.length_map]
  refine ⟨hnodup.of_map _, hmem, ?_, ?_⟩
  · intro hall
    have hsome : ∀ f ∈ Database.acceptedRows t u, (t.users.lookup f.friend_id).isSome := by
      intro f hf
      obtain ⟨v, hv, hid⟩ := hfound f hf
      rw [hid, ← hst.isSome_account]
      exact hall v hv
    refine ⟨?_, (hnames.map some).trans ?_⟩
    · rw [hnames.length_eq, List.length_map, List.filterMap_length_eq_length.mpr hsome, hlength]
    · have hlookup : ((Database.acceptedRows t u).filterMap fun f => t.users.lookup f.friend_id).map
          some = (Database.acceptedRows t u).map fun f => t.users.lookup f.friend_id := by
        rw [List.map_filterMap_some_eq_filter_map_isSome, List.filter_eq_self]
        intro row hrow
        obtain ⟨f, hf, rfl⟩ := List.mem_map.mp hrow
        exact hsome f hf
      have hids' := (hrows.map fun id => (t.users.lookup id).map fun w => cstr w.username).symm
      rw [List.map_map, List.map_map] at hids'
      refine (List.Perm.of_eq ?_).trans (hids'.trans (List.Perm.of_eq ?_))
      · have hboth := congrArg (List.map (Option.map fun w : UserRow => cstr w.username)) hlookup
        rw [List.map_map, List.map_map] at hboth
        rw [List.map_map]
        exact hboth
      · exact List.map_congr_left fun v _ => hst.username v
  · rintro ⟨v, hv, hnone⟩ heq
    rw [hnames.length_eq, List.length_map, hlength, List.filterMap_length_eq_length] at heq
    have hmember : to_string v ∈ (Database.acceptedRows t u).map FriendRow.friend_id :=
      hrows.mem_iff.mp (List.mem_map_of_mem hv)
    obtain ⟨f, hf, hid⟩ := List.mem_map.mp hmember
    have hsome := heq f hf
    rw [hid, ← hst.isSome_account, hnone] at hsome
    cases hsome

/-- Requests for friend lists serve. -/
theorem Represents.sendFriendList (hrep : Represents H pool_size a h) (hready : h.db.Ready)
    (henv : env.SqlSucceeds) :
    Serves H a h (.friends session msg.fromUserId)
      (stateOf (sendFriendList env msg session h)) := by
  have hst := hrep.stores
  obtain ⟨pool, ids, content, hids, -, hcontent, heq⟩ := stateOf_of_ends
    (sendFriendList_exact session msg henv hready hst.ok hst.plain)
  obtain ⟨hnodup, hmem, hall, hnone⟩ := hst.columns (henv 0) (henv 1) hids
  rw [heq]
  refine ⟨hst, hrep.online, ⟨[(session, .friends msg.fromUserId (pairUp ids
    (Database.friendNames (env.sql 1) h.db.tables msg.fromUserId)))], []⟩,
    ⟨⟨_, rfl, .cons ⟨rfl, rfl, rfl, hcontent⟩ .nil⟩, (List.append_nil _).symm⟩, _, rfl, ?_⟩
  by_cases hspoilt : ∃ v ∈ ids, a.account v = none
  · obtain ⟨v, hv, hv'⟩ := hspoilt
    refine Or.inl ⟨⟨v, (hmem v).mp hv, hv'⟩, ?_⟩
    rw [pairUp, if_neg (hnone ⟨v, hv, hv'⟩).symm]
  · have hsome : ∀ v ∈ ids, (a.account v).isSome := by
      intro v hv
      rw [Option.isSome_iff_ne_none]
      exact fun hv' => hspoilt ⟨v, hv, hv'⟩
    obtain ⟨hlength, hnames⟩ := hall hsome
    have hfst : (ids.zip (Database.friendNames (env.sql 1) h.db.tables msg.fromUserId)).map Prod.fst =
        ids := List.map_fst_zip hlength.ge
    have hsnd : (ids.zip (Database.friendNames (env.sql 1) h.db.tables msg.fromUserId)).map Prod.snd =
        Database.friendNames (env.sql 1) h.db.tables msg.fromUserId := List.map_snd_zip hlength.le
    rw [pairUp, if_pos hlength.symm]
    refine Or.inr ⟨fun v hv => hsome v ((hmem v).mpr hv), ?_, ?_, ?_⟩
    · rw [hfst]
      exact hnodup
    · rw [hfst]
      exact hmem
    · have hnames' : (ids.zip (Database.friendNames (env.sql 1) h.db.tables msg.fromUserId)).map
          (fun entry => some entry.2) =
          (Database.friendNames (env.sql 1) h.db.tables msg.fromUserId).map some := by
        rw [← hsnd, List.map_map, hsnd]
        rfl
      have hids' : (ids.zip (Database.friendNames (env.sql 1) h.db.tables msg.fromUserId)).map
          (fun entry => (a.account entry.1).map Service.Account.username) =
          ids.map fun v => (a.account v).map Service.Account.username := by
        conv_rhs => rw [← hfst, List.map_map]
        rfl
      rw [hnames', hids']
      exact hnames

/-! ## Events and runs -/

/-- The statements of the event succeed, what it hashes is in `H`, and the ids of the stored messages
are in the range of `int`. -/
def Event.Regular (H : Set Bytes) (h : BusinessHandler) (e : Event) : Prop :=
  e.Succeeds ∧ hashedBy h e ⊆ H ∧ h.db.tables.messages.last < 2 ^ 31

/-- Every event serves. -/
theorem Represents.serves (hrep : Represents H pool_size a h) (hsize : 1 ≤ pool_size)
    (hinj : Set.InjOn OpenSSL.sha256 H) (he : e.Regular H h) :
    Serves H a h (request e) (step h e) := by
  have hready := ready_of_idle hsize hrep.idle
  cases e with
  | closed session => exact hrep.closed
  | frame env session msg =>
      obtain ⟨henv, hhash, hcount⟩ := he
      change env.SqlSucceeds at henv
      have hquiet : request (.frame env session msg) = .nothing →
          stateOf (handleIncomingMessage env session msg h) = h →
          Serves H a h (request (.frame env session msg)) (stateOf (handleIncomingMessage env session msg h)) := by
        intro hrequest hsame
        rw [hrequest, hsame]
        exact hrep.serves_nothing h.db.connection_pool
      show Serves H a h _ (stateOf (handleIncomingMessage env session msg h))
      cases hty : msg.messageType with
      | SIGN_UP =>
          rw [handle_sign_up hty]
          exact hrep.signUp hready henv hty fun password username hsigns =>
            hhash (Or.inl ⟨hty, password, username, hsigns, rfl⟩)
      | LOGIN =>
          have hrequest : request (.frame env session msg) =
              .login session msg.fromUserId msg.content := by
            unfold request
            simp only [hty]
          rw [hrequest, handle_login hty]
          exact hrep.loginUser hready henv hinj fun r hr hid =>
            hhash (Or.inr ⟨hty, r, hr, hid, rfl⟩)
      | LOGOUT =>
          unfold request handleIncomingMessage
          simp only [hty]
          exact hrep.logoutUser msg.fromUserId
      | TEXT =>
          unfold request handleIncomingMessage
          simp only [hty]
          exact hrep.sendMessageToUser hready henv
      | PRIVATE_CHAT =>
          unfold request handleIncomingMessage
          simp only [hty]
          exact hrep.sendMessageToUser hready henv
      | ADD_FRIEND =>
          unfold request handleIncomingMessage
          simp only [hty]
          exact hrep.addFriend hready henv
      | FRIEND_LIST =>
          unfold request handleIncomingMessage
          simp only [hty]
          exact hrep.sendFriendList hready henv
      | FRIEND_REQUEST_RESPONSE =>
          have hack : handleIncomingMessage env session msg = BusinessHandler.ackAddFriend env msg := by
            unfold handleIncomingMessage
            rw [hty]
          rw [hack]
          exact hrep.ackAddFriend hready henv hty
      | GROUP_CHAT =>
          have hserves : Serves H a h _ (stateOf (handleIncomingMessage env session msg h)) :=
            hrep.sendGroupMessage hty
          unfold request
          simp only [hty]
          exact hserves
      | PULL_MESSAGE =>
          have hserves : Serves H a h _ (stateOf (handleIncomingMessage env session msg h)) :=
            hrep.pushMessage session hready henv hcount hty
          unfold request
          simp only [hty]
          exact hserves
      | SIGN_UP_RESPONSE | LOGIN_RESPONSE | FRIEND_REQUEST =>
          refine hquiet ?_ ?_
          · unfold request
            simp only [hty]
          · unfold handleIncomingMessage
            rw [hty]
            rfl

/-- An event that serves keeps the connections. -/
theorem Represents.idle_step (hrep : Represents H pool_size a h) (hsize : 1 ≤ pool_size)
    (he : e.Regular H h) : (step h e).idle.Perm (List.range pool_size) := by
  have hready := ready_of_idle hsize hrep.idle
  refine ((BusinessHandler.idle_step hready e).mpr ?_).trans hrep.idle
  cases e with
  | closed session => exact trivial
  | frame env session msg =>
      refine completes_of_sqlSucceeds he.1 ?_
      intro r hr
      rw [hrep.stores.said] at hr
      obtain ⟨said, hsaid, rfl⟩ := List.mem_map.mp hr
      have hid := (List.mem_zipIdx hsaid).2.1
      have hlast := hrep.stores.last
      have hcount := he.2.2
      exact ⟨_, messageOfRow_saidRow (by omega)
        (hrep.stores.texts _ (List.fst_mem_of_mem_zipIdx hsaid)) env⟩

/-- **`handler_refines`** — the handler refines the service. -/
theorem handler_refines (hsize : 1 ≤ pool_size) (hinj : Set.InjOn OpenSSL.sha256 H) :
    Refines (Service.service cstr) step request (fun h e o => Tells h (step h e) o)
      (fun h e => e.Regular H h)
      (Represents H pool_size) where
  keeps := by
    intro a h e hrep he
    obtain ⟨hstores, honline, -⟩ := hrep.serves hsize hinj he
    exact ⟨hrep.idle_step hsize he, hstores, honline⟩
  allowed := fun a h e hrep he => (hrep.serves hsize hinj he).told

/-- The server starts without users. -/
theorem represents_start (H : Set Bytes) (pool_size : Nat) :
    Represents H pool_size .init (start .empty pool_size) where
  idle := List.Perm.refl _
  stores := {
    ok := Tables.Ok.empty
    plain := ⟨fun _ hf => absurd hf List.not_mem_nil, fun _ hw => absurd hw List.not_mem_nil⟩
    account := fun _ => .none
    bond := fun _ _ => rfl
    said := rfl
    last := rfl
    texts := fun _ hsaid => absurd hsaid List.not_mem_nil }
  online := fun _ => rfl

/-- The events of a run that succeeds are regular where they are handled. -/
theorem stepsMeet_regular {es : List Event} (hsize : 1 ≤ pool_size) (hsucceeds : ∀ e ∈ es, e.Succeeds)
    (hcount : (chats es).length < 2 ^ 31) :
    StepsMeet step (fun h e => e.Regular (hashed (start .empty pool_size) es) h)
      (start .empty pool_size) es := by
  intro pre e hpre
  have hbefore : pre <+: es := (List.prefix_append pre [e]).trans hpre
  have hchats : (chats pre).length < 2 ^ 31 := by
    obtain ⟨rest, rfl⟩ := hbefore
    rw [chats, List.filterMap_append, List.length_append] at hcount
    exact Nat.lt_of_le_of_lt (Nat.le_add_right _ _) hcount
  refine ⟨hsucceeds e (hpre.subset (List.mem_append_right _ (List.mem_singleton_self e))), ?_, ?_⟩
  · exact fun x hx => ⟨pre, e, hpre, hx⟩
  · rw [(messages_are_chats hsize (fun f hf => hsucceeds f (hbefore.subset hf)) hchats).last]
    exact hchats

/-- What the service knows after the events. -/
def promised (es : List Event) : Service.State Int32 SessionId Bytes :=
  exec (Service.State.after cstr) .init (es.map request)

/-- The handler is in the state the service promises. -/
theorem represents_exec {es : List Event} (hsize : 1 ≤ pool_size)
    (hsucceeds : ∀ e ∈ es, e.Succeeds) (hcount : (chats es).length < 2 ^ 31)
    (hinj : Set.InjOn OpenSSL.sha256 (hashed (start .empty pool_size) es)) :
    Represents (hashed (start .empty pool_size) es) pool_size (promised es)
      (exec step (start .empty pool_size) es) :=
  (handler_refines hsize hinj).related (represents_start _ _)
    (stepsMeet_regular hsize hsucceeds hcount)

/-- **`handler_serves`** — in every run from an empty database whose statements succeed, with fewer than
`2 ^ 31` chat messages and a digest function that is injective on what is hashed, each event posts and
closes exactly what the service allows in the state the events before it promise. -/
theorem handler_serves (pool_size : Nat) (hsize : 1 ≤ pool_size) (es : List Event)
    (hsucceeds : ∀ e ∈ es, e.Succeeds) (hcount : (chats es).length < 2 ^ 31)
    (hinj : Set.InjOn OpenSSL.sha256 (hashed (start .empty pool_size) es)) :
    ∀ pre e, pre ++ [e] <+: es →
      let h := exec step (start .empty pool_size) pre
      ∃ o, Tells h (step h e) o ∧ Service.Allows (promised pre) (request e) o := by
  intro pre e hpre
  exact (handler_refines hsize hinj).run (represents_start _ _)
    (stepsMeet_regular hsize hsucceeds hcount) hpre

end Serves

/-! ## Both sides of a conversation -/

/-- Sender, recipient and content of the posted messages that belong to the conversation of two
users. -/
def conversation (u v : Int32) (ps : List (SessionId × Message)) : List (Int32 × Int32 × Bytes) :=
  (ps.map fun p => (p.2.fromUserId, p.2.toUserId, p.2.content)).filter fun m =>
    (m.1 = u ∧ m.2.1 = v) ∨ (m.1 = v ∧ m.2.1 = u)

/-- The reply that shows a message. -/
def shows (m : Int32 × Int32 × Bytes) : Service.Reply Int32 Bytes := .said m.1 m.2.1 m.2.2

theorem shows_injective : Function.Injective shows := by
  rintro ⟨x, y, text⟩ ⟨x', y', text'⟩ heq
  cases heq
  rfl

/-- What the messages of a history show is the conversation in the replies they mean. -/
theorem map_shows_conversation {u v : Int32} {ps : List (SessionId × Message)}
    {sent : List (SessionId × Service.Reply Int32 Bytes)}
    (hmeans : List.Forall₂ (fun p reply => p.1 = reply.1 ∧ Means p.2 reply.2) ps sent)
    (hsaid : ∀ reply ∈ sent, ∃ m, reply.2 = shows m) :
    (conversation u v ps).map shows = (sent.map Prod.snd).filter (Service.Reply.between u v) := by
  induction hmeans with
  | nil => rfl
  | @cons p reply ps sent hone hrest ih =>
      rw [List.forall_mem_cons] at hsaid
      obtain ⟨⟨m, hm⟩, hsaid⟩ := hsaid
      obtain ⟨-, hmeans⟩ := hone
      rw [hm] at hmeans
      obtain ⟨-, hfrom, hto, hcontent⟩ := hmeans
      have hfirst : (p.2.fromUserId, p.2.toUserId, p.2.content) = m := by
        rw [hfrom, hto, hcontent]
      unfold conversation at ih ⊢
      rw [List.map_cons, hfirst, List.map_cons, hm, List.filter_cons, List.filter_cons, ← ih hsaid]
      show List.map shows (if decide ((m.1 = u ∧ m.2.1 = v) ∨ (m.1 = v ∧ m.2.1 = u)) = true then _ else _) =
        if decide ((m.1 = u ∧ m.2.1 = v) ∨ (m.1 = v ∧ m.2.1 = u)) = true then _ else _
      split
      · rfl
      · rfl

/-- **`conversation_is_shared`** — in every state reached by a run that succeeds, the two users of a
conversation who pull their histories in the same second are sent the same messages of it. -/
theorem conversation_is_shared [OpenSSL] (pool_size : Nat) (hsize : 1 ≤ pool_size) (es : List Event)
    (hsucceeds : ∀ e ∈ es, e.Succeeds) (hcount : (chats es).length < 2 ^ 31)
    (hinj : Set.InjOn OpenSSL.sha256 (hashed (start .empty pool_size) es))
    (env env' : Env) (session session' : SessionId) (msg msg' : Message)
    (hty : msg.messageType = .PULL_MESSAGE) (hty' : msg'.messageType = .PULL_MESSAGE)
    (henv : env.SqlSucceeds) (henv' : env'.SqlSucceeds) (hnow : env.now = env'.now) :
    let h := exec step (start .empty pool_size) es
    ∃ ps ps', (step h (.frame env session msg)).posted = h.posted ++ ps ∧
      (step h (.frame env' session' msg')).posted = h.posted ++ ps' ∧
      (conversation msg.fromUserId msg'.fromUserId ps).Perm
        (conversation msg.fromUserId msg'.fromUserId ps') := by
  intro h
  have hrep : Represents _ pool_size (promised es) h := represents_exec hsize hsucceeds hcount hinj
  have hlast : h.db.tables.messages.last < 2 ^ 31 := by
    rw [(messages_are_chats hsize hsucceeds hcount).last]
    exact hcount
  -- each pull is answered as the service allows
  have hanswer : ∀ (env : Env) (session : SessionId) (msg : Message), env.SqlSucceeds →
      msg.messageType = .PULL_MESSAGE → ∃ ps sent,
        (step h (.frame env session msg)).posted = h.posted ++ ps ∧
        List.Forall₂ (fun p reply => p.1 = reply.1 ∧ Means p.2 reply.2) ps sent ∧
        (∀ reply ∈ sent, ∃ m, reply.2 = shows m) ∧ Service.Allows (promised es)
          (.history session msg.fromUserId env.now.toInt) ⟨sent, []⟩ := by
    intro env session msg henv hty
    obtain ⟨-, -, ⟨sent, closed⟩, ⟨⟨ps, hposted, hmeans⟩, -⟩, hallows⟩ :=
      hrep.pushMessage session (ready_of_idle hsize hrep.idle) henv hlast hty
    refine ⟨ps, sent, hposted, hmeans, ?_, rfl, hallows.2⟩
    intro reply hreply
    obtain ⟨said, -, rfl⟩ := List.mem_map.mp (hallows.2.mem_iff.mp hreply)
    exact ⟨(said.speaker, said.listener, said.text), rfl⟩
  obtain ⟨ps, sent, hposted, hmeans, hsaid, hallows⟩ := hanswer env session msg henv hty
  obtain ⟨ps', sent', hposted', hmeans', hsaid', hallows'⟩ := hanswer env' session' msg' henv' hty'
  refine ⟨ps, ps', hposted, hposted', ?_⟩
  rw [← hnow] at hallows'
  have hshared := Service.conversation_shared hallows hallows'
  have hflip : Service.Reply.between msg'.fromUserId msg.fromUserId (T := Bytes) =
      Service.Reply.between msg.fromUserId msg'.fromUserId := by
    funext reply
    cases reply with
    | said x y text => exact decide_eq_decide.mpr or_comm
    | _ => rfl
  rw [hflip, ← map_shows_conversation hmeans hsaid, ← map_shows_conversation hmeans' hsaid'] at hshared
  exact (List.map_perm_map_iff shows_injective).mp hshared

/-- The login that follows a sign-up is answered as the service allows. -/
theorem handler_serves_login :
    letI := OpenSSL.pw
    let h := exec step (start .empty 1) [.frame .plain 3 signUpFrame]
    ∃ o, Tells h (step h (.frame .plain 4 loginFrame)) o ∧
      Service.Allows (promised [.frame .plain 3 signUpFrame])
        (.login 4 111111111 (str "pw")) o := by
  let _ := OpenSSL.pw
  have hsucceeds : ∀ e ∈ [Event.frame .plain 3 signUpFrame, .frame .plain 4 loginFrame],
      e.Succeeds := by
    intro e he
    simp only [List.mem_cons, List.not_mem_nil, or_false] at he
    rcases he with rfl | rfl
    · exact Env.plain_sqlSucceeds
    · exact Env.plain_sqlSucceeds
  exact handler_serves 1 (Nat.le_refl 1) _ hsucceeds (by decide) (hashed_signUp_login.injOn _)
    [.frame .plain 3 signUpFrame] (.frame .plain 4 loginFrame) (List.prefix_refl _)

/-- User 1 has written to user 2, and both see it. -/
theorem conversation_is_shared_hi :
    letI := OpenSSL.zero
    let h := exec step (start .empty 1) [.frame .plain 0 (chatFrame (str "hi"))]
    ∃ ps ps', (step h (.frame .plain 3 pullFrame)).posted = h.posted ++ ps ∧
      (step h (.frame .plain 4 { pullFrame with fromUserId := 2 })).posted = h.posted ++ ps' ∧
      (conversation 1 2 ps).Perm (conversation 1 2 ps') := by
  let _ := OpenSSL.zero
  have hsucceeds : ∀ e ∈ [Event.frame .plain 0 (chatFrame (str "hi"))], e.Succeeds := by
    intro e he
    rw [List.mem_singleton.mp he]
    exact Env.plain_sqlSucceeds
  have hinj : Set.InjOn OpenSSL.sha256
      (hashed (start .empty 1) [.frame .plain 0 (chatFrame (str "hi"))]) := by
    rintro x ⟨pre, e, hpre, hx⟩
    have he := hpre.subset (List.mem_append_right _ (List.mem_singleton_self e))
    rw [List.mem_singleton.mp he] at hx
    rcases hx with ⟨hty, -⟩ | ⟨hty, -⟩
    · cases hty
    · cases hty
  exact conversation_is_shared 1 (Nat.le_refl 1) _ hsucceeds (by decide) hinj .plain .plain 3 4
    pullFrame { pullFrame with fromUserId := 2 } rfl rfl Env.plain_sqlSucceeds Env.plain_sqlSucceeds rfl

end TinyIM.BusinessHandler

