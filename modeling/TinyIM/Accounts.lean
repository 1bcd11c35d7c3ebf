/-
# Accounts — registration and login agree

A row of the users table is the trace of one sign-up: its id is the one sent back, its salt and hash
come from the draw and the password of that frame (`users_are_sign_ups`). With that, the outcome of a
login is read off the history of the run: it succeeds exactly if the id was handed out to a sign-up
with the same password and the user is not logged in. The digest function is only ever compared on
the strings a run hashes, and only there is it assumed to be injective.

The last part is about the sign-ups that insert nothing: they are not answered.
-/
import TinyIM.Invariants
import Mathlib.Data.Set.Subsingleton
import Mathlib.Data.Set.Function

namespace TinyIM

open TinyIM.Lib TinyIM.Lib.Text TinyIM.Lib.Table TinyIM.Lib.Runs TinyIM.Lib.Stops

/-! ## Ids, salts and hashes -/

namespace Database

theorem noNul_generateUUID (env : Env) : NoNul (generateUUID env) := by
  have hdigit : ∀ i : Fin 9, (str "123456789").getD i.val 0 ≠ 0 := by decide
  intro h
  obtain ⟨i, -, hi⟩ := List.mem_map.mp h
  exact hdigit i hi

theorem length_generateUUID (env : Env) : (generateUUID env).length = 9 := by
  rw [generateUUID, List.length_map, Vector.length_toList]

@[simp] theorem cstr_generateUUID (env : Env) : cstr (generateUUID env) = generateUUID env :=
  cstr_of_noNul (noNul_generateUUID env)

@[simp] theorem cstr_generateSalt (env : Env) : cstr (generateSalt env) = generateSalt env := cstr_hex _

@[simp] theorem cstr_hashPassword [OpenSSL] (password salt : Bytes) :
    cstr (hashPassword password salt) = hashPassword password salt := cstr_hex _

/-- Equal hashes under one salt come from equal passwords, where the digest is injective. -/
theorem hashPassword_inj [OpenSSL] {s : Set Bytes} (hinj : Set.InjOn OpenSSL.sha256 s)
    {p q salt : Bytes} (hp : p ++ salt ∈ s) (hq : q ++ salt ∈ s)
    (h : hashPassword p salt = hashPassword q salt) : p = q := by
  have hdigest := Vector.toList_inj.mp (hex_injective h)
  exact List.append_cancel_right (hinj hp hq hdigest)

/-- What the insert of a sign-up does. -/
theorem stepDone_registered {o : Outcome} {t : Tables} {r : UserRow} :
    (o.step 0 = true ∧ ∀ x ∈ t.users.rows, x.user_id ≠ r.user_id) ∧
        (∃ t', stepDone o (fun t => t.registered r) t = (true, t') ∧
          t'.users.rows = t.users.rows ++ [r]) ∨
      ¬(o.step 0 = true ∧ ∀ x ∈ t.users.rows, x.user_id ≠ r.user_id) ∧
        stepDone o (fun t => t.registered r) t = (false, t) := by
  unfold stepDone
  by_cases hstep : o.step 0 = true
  · rw [if_pos hstep]
    cases hins : t.users.insert r with
    | none =>
        obtain ⟨x, hx, hid⟩ := Keyed.insert_eq_none.mp hins
        have hnew : t.registered r = none := by rw [Tables.registered, hins, Option.map_none]
        refine Or.inr ⟨fun h => h.2 x hx hid, ?_⟩
        simp only [hnew]
    | some users =>
        have hnew : t.registered r = some { t with users := users } := by
          rw [Tables.registered, hins, Option.map_some]
        obtain ⟨hfree, hrows⟩ := Keyed.insert_eq_some hins
        refine Or.inl ⟨⟨hstep, fun x hx hid => hfree (List.mem_map.mpr ⟨x, hx, hid⟩)⟩,
          { t with users := users }, ?_, hrows⟩
        simp only [hnew]
  · rw [if_neg hstep]
    exact Or.inr ⟨fun h => hstep h.1, rfl⟩

end Database

namespace BusinessHandler

theorem SignsUp.unique {content p p' u u' : Bytes} (h : SignsUp content p u)
    (h' : SignsUp content p' u') : p = p' ∧ u = u' := by
  obtain ⟨j, hj, hp, hu⟩ := h
  obtain ⟨j', hj', hp', hu'⟩ := h'
  rw [hj] at hj'
  rw [← Except.ok.inj hj'] at hp' hu'
  exact ⟨Except.ok.inj (hp.symm.trans hp'), Except.ok.inj (hu.symm.trans hu')⟩

/-- `SignsUp`, computed. -/
theorem signsUp_of_fields {content p u : Bytes}
    (h : (do
      let j ← parseJson content
      let password ← member j "password" >>= asString
      let username ← member j "username" >>= asString
      return (password, username)) = Except.ok (p, u)) : SignsUp content p u := by
  cases hj : parseJson content with
  | error e =>
      rw [hj] at h
      cases h
  | ok j =>
      rw [hj] at h
      cases hp : (member j "password" >>= asString) with
      | error e =>
          change ((member j "password" >>= asString) >>= _) = _ at h
          rw [hp] at h
          cases h
      | ok password =>
          cases hu : (member j "username" >>= asString) with
          | error e =>
              change ((member j "password" >>= asString) >>= fun _ =>
                (member j "username" >>= asString) >>= _) = _ at h
              rw [hp, hu] at h
              cases h
          | ok username =>
              change ((member j "password" >>= asString) >>= fun _ =>
                (member j "username" >>= asString) >>= _) = _ at h
              rw [hp, hu] at h
              obtain ⟨rfl, rfl⟩ := Prod.mk.inj (Except.ok.inj h)
              exact ⟨j, hj, hp, hu⟩

section Accounts

variable [OpenSSL]

/-! ## The users table is the history of sign-ups -/

/-- The frame is a sign-up that inserted `r` and sent its id back. -/
def GrantsId (env : Env) (session : SessionId) (msg : Message) (h h' : BusinessHandler) (r : UserRow)
    (password username : Bytes) : Prop :=
  msg.messageType = .SIGN_UP ∧ SignsUp msg.content password username ∧
    r = .new env password username ∧ ∃ reply, reply.messageType = .SIGN_UP_RESPONSE ∧
      reply.content = r.user_id ∧ h'.posted = h.posted ++ [(session, reply)]

/-- The event is a sign-up that inserts `r`. -/
def Inserts (h : BusinessHandler) (r : UserRow) (password username : Bytes) : Event → Prop
  | .frame env session msg =>
    GrantsId env session msg h (step h (.frame env session msg)) r password username
  | .closed _ => False

/-- Some sign-up of the run inserted the row. -/
def Inserted (h₀ : BusinessHandler) (es : List Event) (r : UserRow) (password username : Bytes) :
    Prop :=
  ∃ pre e, pre ++ [e] <+: es ∧ Inserts (exec step h₀ pre) r password username e

variable {env : Env} {session : SessionId} {msg : Message} {h h' h₀ : BusinessHandler}
  {es : List Event} {e : Event} {r : UserRow} {password username : Bytes}

theorem inserted_concat : Inserted h₀ (es ++ [e]) r password username ↔
    Inserted h₀ es r password username ∨ Inserts (exec step h₀ es) r password username e := by
  constructor
  · rintro ⟨pre, f, hpre, hins⟩
    rcases List.prefix_concat_iff.mp hpre with heq | hpre
    · obtain ⟨rfl, hf⟩ := List.append_inj' heq rfl
      rw [List.singleton_inj.mp hf] at hins
      exact Or.inr hins
    · exact Or.inl ⟨pre, f, hpre, hins⟩
  · rintro (⟨pre, f, hpre, hins⟩ | hins)
    · exact ⟨pre, f, hpre.trans (List.prefix_append es [e]), hins⟩
    · exact ⟨es, e, List.prefix_refl _, hins⟩

/-- A frame adds to the users table the row it sends the id of, and nothing else. -/
theorem Did.mem_users (hdid : Did env session msg h h') : r ∈ h'.db.tables.users.rows ↔
    r ∈ h.db.tables.users.rows ∨
      ∃ password username, GrantsId env session msg h h' r password username := by
  have hsame : h'.db.tables.users = h.db.tables.users →
      (msg.messageType = .SIGN_UP → h'.posted = h.posted) →
      (r ∈ h'.db.tables.users.rows ↔ r ∈ h.db.tables.users.rows ∨
        ∃ password username, GrantsId env session msg h h' r password username) := by
    intro husers hposted
    rw [husers]
    refine ⟨Or.inl, ?_⟩
    rintro (hr | ⟨password, username, hty, -, -, reply, -, -, hreply⟩)
    · exact hr
    · rw [hposted hty] at hreply
      exact absurd hreply.symm (by simp)
  have hother : ∀ {ty : MessageType}, msg.messageType = ty → ty ≠ .SIGN_UP →
      msg.messageType = .SIGN_UP → h'.posted = h.posted := by
    rintro ty rfl hne hty
    exact absurd hty hne
  cases hdid with
  | @signedUp pool hty password username hfields t hnew =>
      obtain ⟨users, hins, rfl⟩ := Option.map_eq_some_iff.mp hnew
      simp only [post_db, withDb_db, (Keyed.insert_eq_some hins).2, List.mem_append,
        List.mem_singleton]
      refine or_congr_right ⟨?_, ?_⟩
      · rintro rfl
        exact ⟨password, username, hty, hfields, rfl, _, rfl,
          (Database.cstr_generateUUID env).symm, rfl⟩
      · rintro ⟨password', username', -, hfields', hr, -⟩
        obtain ⟨rfl, rfl⟩ := hfields.unique hfields'
        exact hr
  | idle pool hty => exact hsame rfl fun _ => rfl
  | refused pool hty => exact hsame rfl (hother hty (by decide))
  | loggedIn pool hty => exact hsame rfl (hother hty (by decide))
  | loggedOut hty => exact hsame rfl (hother hty (by decide))
  | @requested pool hty hne t₁ t₂ h₁ h₂ ps hps =>
      refine hsame ?_ (hother hty (by decide))
      rcases h₂ with rfl | rfl <;> rcases h₁ with rfl | rfl <;> rfl
  | rejected pool hty => exact hsame rfl (hother hty (by decide))
  | accepted pool hty => exact hsame rfl (hother hty (by decide))
  | @chatted pool hty t ht =>
      refine hsame ?_ fun hsign => ?_
      · rcases ht with rfl | rfl <;> rfl
      · rcases hty with hty | hty
        · exact hother hty (by decide) hsign
        · exact hother hty (by decide) hsign
  | broadcast hty => exact hsame rfl (hother hty (by decide))
  | listed pool hty => exact hsame rfl (hother hty (by decide))
  | pulled pool hty => exact hsame rfl (hother hty (by decide))

theorem mem_users_step (hok : h.db.tables.Ok) (e : Event) : r ∈ (step h e).db.tables.users.rows ↔
    r ∈ h.db.tables.users.rows ∨ ∃ password username, Inserts h r password username e := by
  cases e with
  | frame env session msg => exact (step_did hok.users).mem_users
  | closed session =>
      refine ⟨Or.inl, ?_⟩
      rintro (hr | ⟨password, username, hins⟩)
      · exact hr
      · exact hins.elim

/-- **`users_are_sign_ups`** — the users table holds exactly the rows the sign-ups of the run
inserted. -/
theorem users_are_sign_ups (pool_size : Nat) (es : List Event) (r : UserRow) :
    r ∈ (exec step (start .empty pool_size) es).db.tables.users.rows ↔
      ∃ password username, Inserted (start .empty pool_size) es r password username := by
  refine exec_history (R := fun es (h : BusinessHandler) => ∀ r, r ∈ h.db.tables.users.rows ↔
    ∃ password username, Inserted (start .empty pool_size) es r password username) ?_ ?_ es r
  · intro r
    refine iff_of_false List.not_mem_nil ?_
    rintro ⟨password, username, pre, e, hpre, -⟩
    exact absurd (List.prefix_nil.mp hpre) (by simp)
  · intro es e hes r
    rw [mem_users_step (exec_ok pool_size es) e, hes]
    simp only [inserted_concat, exists_or]

/-! ## Login -/

/-- The strings an event hashes: a sign-up its salted password, a login the given password with the
salt of the user. -/
def hashedBy (h : BusinessHandler) : Event → Set Bytes
  | .frame env _ msg => { x |
    (msg.messageType = .SIGN_UP ∧ ∃ password username, SignsUp msg.content password username ∧
      x = password ++ Database.generateSalt env) ∨
    (msg.messageType = .LOGIN ∧ ∃ r ∈ h.db.tables.users.rows,
      r.user_id = to_string msg.fromUserId ∧ x = msg.content ++ cstr r.salt) }
  | .closed _ => ∅

/-- The strings hashed in a run. -/
def hashed (h₀ : BusinessHandler) (es : List Event) : Set Bytes :=
  { x | ∃ pre e, pre ++ [e] <+: es ∧ x ∈ hashedBy (exec step h₀ pre) e }

/-- Some sign-up of the run was given the id of `u`, with this password and name. -/
def SignedUp (h₀ : BusinessHandler) (es : List Event) (u : Int32) (password username : Bytes) :
    Prop :=
  ∃ r, r.user_id = to_string u ∧ Inserted h₀ es r password username

/-- The reply reports a success. -/
def ReportsSuccess (reply : Message) : Prop :=
  ∃ username, dumpJson (loginSuccess username) = .ok reply.content

/-- The reply reports a failure. -/
def ReportsFailure (reply : Message) : Prop :=
  ∃ reason, dumpJson (loginFail reason) = .ok reply.content

/-- A row authenticates a login exactly if its sign-up had the password. -/
theorem authenticates_iff {s : Set Bytes} (hinj : Set.InjOn OpenSSL.sha256 s) {u : Int32}
    {content salt : Bytes} {r : UserRow} (hr : r.salt = cstr salt)
    (hhash : r.password_hash = Database.hashPassword password salt) (hsalt : NoNul salt)
    (hpassword : password ++ salt ∈ s) (hcontent : content ++ salt ∈ s) :
    Database.Authenticates u content r ↔ r.user_id = to_string u ∧ content = password := by
  unfold Database.Authenticates
  rw [hr, hhash, cstr_cstr, cstr_of_noNul hsalt, Database.cstr_hashPassword]
  refine and_congr_right fun _ => ⟨?_, ?_⟩
  · exact Database.hashPassword_inj hinj hcontent hpassword
  · rintro rfl
    rfl

/-- The login is granted. -/
def Granted (env : Env) (session : SessionId) (msg : Message) (h h' : BusinessHandler) : Prop :=
  h.userSessions.lookup msg.fromUserId = none ∧
    ∃ r ∈ h.db.tables.users.rows, Database.Authenticates msg.fromUserId msg.content r ∧
      ∃ pool content, dumpJson (loginSuccess (cstr r.username)) = .ok content ∧
        h' = ((h.withDb h.db.tables pool).register
          (h.userSessions.insert msg.fromUserId session)).post
            [(session, .new env msg.fromUserId 0 .LOGIN_RESPONSE (env.junk + 1) content)]

/-- The login is refused. -/
def Refused (env : Env) (session : SessionId) (msg : Message) (h h' : BusinessHandler) : Prop :=
  ((h.userSessions.lookup msg.fromUserId).isSome ∨
    ∀ r ∈ h.db.tables.users.rows, ¬Database.Authenticates msg.fromUserId msg.content r) ∧
      ∃ pool reason content, dumpJson (loginFail reason) = .ok content ∧
        h' = (h.withDb h.db.tables pool).post
          [(session, .new env msg.fromUserId 0 .LOGIN_RESPONSE (env.junk + 1) content)]

/-- **`loginUser_ok`** — when its statement succeeds, a login is granted or refused. -/
theorem loginUser_ok (henv : env.SqlSucceeds) (hready : h.db.Ready)
    (hnames : ∀ r ∈ h.db.tables.users.rows, ValidUtf8 r.username) :
    Ends (loginUser env msg session) h
      (fun _ h' => Granted env session msg h h' ∨ Refused env session msg h h') fun _ _ => False := by
  have hrefused : ∀ (reason : String) (pool : List Conn),
      ((h.userSessions.lookup msg.fromUserId).isSome ∨
        ∀ r ∈ h.db.tables.users.rows, ¬Database.Authenticates msg.fromUserId msg.content r) →
      Ends (do
        let content ← orThrow (dumpJson (loginFail reason))
        Session.send session
          (.new env msg.fromUserId 0 .LOGIN_RESPONSE (env.junk + 1) content) : HandlerM Unit)
        (h.withDb h.db.tables pool)
        (fun _ h' => Granted env session msg h h' ∨ Refused env session msg h h')
        fun _ _ => False := by
    intro reason pool hwhy
    obtain ⟨content, hcontent⟩ := exists_loginFail reason
    simp only [ends_bind, ends_orThrow, hcontent]
    refine ⟨?_, fun e he => by cases he⟩
    intro c hc
    rw [← Except.ok.inj hc]
    exact Or.inr ⟨hwhy, pool, reason, content, hcontent, rfl⟩
  unfold loginUser
  simp only [ends_bind, ends_callDb]
  refine Database.ends_authenticateUser_ok (henv 0) hready ?_ ?_
  · intro pool _ hnone
    exact hrefused "authenticate fail" pool (Or.inr hnone)
  · intro r pool _ hr hauth
    simp only [ends_bind, ends_findSession, ends_ite]
    refine ⟨fun hsome => hrefused "repeated login" pool (Or.inl hsome), ?_⟩
    intro hnone
    obtain ⟨content, hcontent⟩ := exists_loginSuccess (validUtf8_cstr (hnames r hr))
    simp only [ends_modify, ends_orThrow, hcontent]
    refine ⟨?_, fun e he => by cases he⟩
    intro c hc
    rw [← Except.ok.inj hc]
    exact Or.inl ⟨Option.not_isSome_iff_eq_none.mp hnone, r, hr, hauth, pool, content, hcontent, rfl⟩

/-- A login frame whose statement succeeds is granted or refused. -/
theorem step_login (hty : msg.messageType = .LOGIN) (henv : env.SqlSucceeds) (hready : h.db.Ready)
    (hnames : ∀ r ∈ h.db.tables.users.rows, ValidUtf8 r.username) :
    Granted env session msg h (step h (.frame env session msg)) ∨
      Refused env session msg h (step h (.frame env session msg)) := by
  show Granted env session msg h (stateOf (handleIncomingMessage env session msg h)) ∨
    Refused env session msg h (stateOf (handleIncomingMessage env session msg h))
  rw [handle_login hty]
  exact ends_stateOf.mp ((loginUser_ok henv hready hnames).mono (fun _ _ ho => ho)
    fun _ _ hfalse => hfalse.elim)

/-- The row of a sign-up authenticates exactly the logins with its id and its password. -/
theorem authenticates_of_inserted {pool_size : Nat} {login : Event} {u : Int32} {content : Bytes}
    (hinj : Set.InjOn OpenSSL.sha256 (hashed (start .empty pool_size) (es ++ [login])))
    (hins : Inserted (start .empty pool_size) es r password username)
    (hcontent : r.user_id = to_string u →
      content ++ cstr r.salt ∈ hashedBy (exec step (start .empty pool_size) es) login) :
    Database.Authenticates u content r ↔ r.user_id = to_string u ∧ content = password := by
  obtain ⟨pre, e, hpre, hins⟩ := hins
  cases e with
  | closed session => exact hins.elim
  | frame env session msg =>
      obtain ⟨hty, hfields, rfl, -⟩ := hins
      by_cases hid : (UserRow.new env password username).user_id = to_string u
      · have hsalt : (UserRow.new env password username).salt = cstr (Database.generateSalt env) := rfl
        refine authenticates_iff hinj hsalt (Database.cstr_hashPassword _ _) (noNul_hex _) ?_ ?_
        · exact ⟨pre, _, hpre.trans (List.prefix_append es _),
            Or.inl ⟨hty, password, username, hfields, rfl⟩⟩
        · have hmem := hcontent hid
          simp only [UserRow.new, Database.cstr_generateSalt] at hmem
          exact ⟨es, login, List.prefix_refl _, hmem⟩
      · exact iff_of_false (fun hauth => hid hauth.1) fun hauth => hid hauth.1

/-- **`login_agrees_with_sign_ups`** — a login frame whose statement succeeds on a non-empty pool is
answered with exactly one reply, on its session. The reply reports a success exactly if an earlier
sign-up of the run was given the id with the same password and the user is not logged in; then it
carries the registered name, cut at its first NUL, and the registry gains exactly that entry. Otherwise
the registry stays as it is, and the tables stay in any case. -/
theorem login_agrees_with_sign_ups (pool_size : Nat) (es : List Event) (env : Env)
    (session : SessionId) (msg : Message) (hty : msg.messageType = .LOGIN)
    (henv : env.SqlSucceeds) (hready : (exec step (start .empty pool_size) es).db.Ready)
    (hinj : Set.InjOn OpenSSL.sha256
      (hashed (start .empty pool_size) (es ++ [.frame env session msg]))) :
    let h := exec step (start .empty pool_size) es
    let h' := step h (.frame env session msg)
    ∃ reply, h'.posted = h.posted ++ [(session, reply)] ∧ reply.messageType = .LOGIN_RESPONSE ∧
      h'.db.tables = h.db.tables ∧
      (ReportsSuccess reply ↔
        (∃ username, SignedUp (start .empty pool_size) es msg.fromUserId msg.content username) ∧
          h.userSessions.lookup msg.fromUserId = none) ∧
      (ReportsSuccess reply → h'.userSessions = h.userSessions.insert msg.fromUserId session ∧
        ∀ username, SignedUp (start .empty pool_size) es msg.fromUserId msg.content username →
          dumpJson (loginSuccess (cstr username)) = .ok reply.content) ∧
      (¬ReportsSuccess reply → h'.userSessions = h.userSessions ∧ ReportsFailure reply) := by
  intro h h'
  have hok : h.db.tables.Ok := exec_ok pool_size es
  have hauth : ∀ r ∈ h.db.tables.users.rows, ∀ password username,
      Inserted (start .empty pool_size) es r password username →
        (Database.Authenticates msg.fromUserId msg.content r ↔
          r.user_id = to_string msg.fromUserId ∧ msg.content = password) := by
    intro r hr password username hins
    exact authenticates_of_inserted hinj hins fun hid => Or.inr ⟨hty, r, hr, hid, rfl⟩
  have hsigned : (∃ username, SignedUp (start .empty pool_size) es msg.fromUserId msg.content username) ↔
      ∃ r ∈ h.db.tables.users.rows, Database.Authenticates msg.fromUserId msg.content r := by
    constructor
    · rintro ⟨username, r, hid, hins⟩
      have hr := (users_are_sign_ups pool_size es r).mpr ⟨_, username, hins⟩
      exact ⟨r, hr, (hauth r hr _ _ hins).mpr ⟨hid, rfl⟩⟩
    · rintro ⟨r, hr, hr'⟩
      obtain ⟨password, username, hins⟩ := (users_are_sign_ups pool_size es r).mp hr
      obtain ⟨hid, rfl⟩ := (hauth r hr password username hins).mp hr'
      exact ⟨username, r, hid, hins⟩
  have houtcome : Granted env session msg h h' ∨ Refused env session msg h h' :=
    step_login hty henv hready hok.users
  -- a reply of one kind is never one of the other, so the reply tells which case it was
  rcases houtcome with ⟨hfree, r, hr, hr', pool, content, hcontent, hh'⟩ |
    ⟨hwhy, pool, reason, content, hcontent, hh'⟩
  · have hsuccess : ReportsSuccess (.new env msg.fromUserId 0 .LOGIN_RESPONSE (env.junk + 1) content) :=
      ⟨_, hcontent⟩
    refine ⟨_, by rw [hh']; rfl, rfl, by rw [hh']; rfl, ?_, ?_, fun hnot => absurd hsuccess hnot⟩
    · exact iff_of_true hsuccess ⟨hsigned.mpr ⟨r, hr, hr'⟩, hfree⟩
    · refine fun _ => ⟨by rw [hh']; rfl, ?_⟩
      rintro username ⟨r₂, hid, hins⟩
      -- the primary key: the sign-up's row is the one that was read
      have hr₂ := (users_are_sign_ups pool_size es r₂).mpr ⟨_, username, hins⟩
      obtain rfl := h.db.tables.users.eq_of_key_eq hr hr₂ (hr'.1.trans hid.symm)
      have hname : cstr r.username = cstr username := by
        obtain ⟨pre, e, -, hins⟩ := hins
        cases e with
        | closed session => exact hins.elim
        | frame env session msg =>
            obtain ⟨-, -, rfl, -⟩ := hins
            exact cstr_cstr username
      rw [← hname]
      exact hcontent
  · have hfailure : ¬ReportsSuccess
        (.new env msg.fromUserId 0 .LOGIN_RESPONSE (env.junk + 1) content) := by
      rintro ⟨username, hsuccess⟩
      exact loginFail_ne_loginSuccess hcontent hsuccess
    refine ⟨_, by rw [hh']; rfl, rfl, by rw [hh']; rfl, ?_, fun hsuccess => absurd hsuccess hfailure, ?_⟩
    · refine iff_of_false hfailure ?_
      rintro ⟨hsign, hnone⟩
      rcases hwhy with hsome | hnobody
      · rw [hnone] at hsome
        cases hsome
      · obtain ⟨r, hr, hr'⟩ := hsigned.mp hsign
        exact hnobody r hr hr'
    · exact fun _ => ⟨by rw [hh']; rfl, reason, hcontent⟩

end Accounts

theorem signUpFrame_signsUp : SignsUp signUpFrame.content (str "pw") (str "bob") :=
  signsUp_of_fields (by decide +kernel)

/-- Only one string is hashed when the new user logs in with the right password. -/
theorem hashed_signUp_login :
    letI := OpenSSL.pw
    Set.Subsingleton
      (hashed (start .empty 1) [.frame .plain 3 signUpFrame, .frame .plain 4 loginFrame]) := by
  let _ := OpenSSL.pw
  have hsalt : ∀ r ∈ (exec step (start .empty 1) [.frame .plain 3 signUpFrame]).db.tables.users.rows,
      loginFrame.content ++ cstr r.salt = str "pw" ++ Database.generateSalt .plain := by decide +kernel
  have hone : ∀ x ∈ hashed (start .empty 1) [.frame .plain 3 signUpFrame, .frame .plain 4 loginFrame],
      x = str "pw" ++ Database.generateSalt .plain := by
    rintro x ⟨pre, e, hpre, hx⟩
    cases pre with
    | nil =>
        obtain ⟨rfl, -⟩ := List.cons_prefix_cons.mp hpre
        rcases hx with ⟨-, password, username, hfields, rfl⟩ | ⟨hty, -⟩
        · rw [(hfields.unique signUpFrame_signsUp).1]
        · cases hty
    | cons e₁ pre =>
        obtain ⟨rfl, hrest⟩ := List.cons_prefix_cons.mp hpre
        cases pre with
        | nil =>
            obtain ⟨rfl, -⟩ := List.cons_prefix_cons.mp hrest
            rcases hx with ⟨hty, -⟩ | ⟨-, r, hr, -, rfl⟩
            · cases hty
            · exact hsalt r hr
        | cons e₂ pre => exact absurd hrest.length_le (by simp)
  intro x hx y hy
  rw [hone x hx, hone y hy]

/-- The new user logs in. -/
theorem login_agrees_with_sign_ups_bob :
    letI := OpenSSL.pw
    let h := exec step (start .empty 1) [.frame .plain 3 signUpFrame]
    let h' := step h (.frame .plain 4 loginFrame)
    ∃ reply, h'.posted = h.posted ++ [(4, reply)] ∧
      dumpJson (loginSuccess (str "bob")) = .ok reply.content ∧
      h'.userSessions = h.userSessions.insert 111111111 4 := by
  let _ := OpenSSL.pw
  have hready : (exec step (start .empty 1) [.frame .plain 3 signUpFrame]).db.Ready := by
    unfold Database.Ready
    decide +kernel
  obtain ⟨reply, hposted, -, -, hiff, hsuccess, -⟩ := login_agrees_with_sign_ups 1
    [.frame .plain 3 signUpFrame] .plain 4 loginFrame rfl Env.plain_sqlSucceeds hready
    (hashed_signUp_login.injOn _)
  have hinserted : SignedUp (start .empty 1) [.frame .plain 3 signUpFrame] 111111111 (str "pw")
      (str "bob") := by
    refine ⟨.new .plain (str "pw") (str "bob"), by decide +kernel, [], _, List.prefix_refl _, rfl,
      signUpFrame_signsUp, rfl, ⟨-1, -1, .SIGN_UP_RESPONSE, 1, str "111111111", 0⟩, rfl,
      by decide +kernel, by decide +kernel⟩
  have hgranted := hiff.mpr ⟨⟨_, hinserted⟩, by decide +kernel⟩
  obtain ⟨hregistry, hname⟩ := hsuccess hgranted
  refine ⟨reply, hposted, ?_, hregistry⟩
  have hreply := hname (str "bob") hinserted
  rwa [show cstr (str "bob") = str "bob" by decide] at hreply

/-! ## Whether a sign-up is answered -/

section SignUps

variable {env : Env} {session : SessionId} {msg : Message} {h h' : BusinessHandler}
  {password username : Bytes}

/-- The answer to a sign-up tells what happened in the table: there is one, it carries the drawn id if
the row of that id is new and nothing if no row is, and the rows there were are still there. -/
structure AnswersSignUp (env : Env) (session : SessionId) (h h' : BusinessHandler) : Prop where
  reply : ∃ m, h'.posted = h.posted ++ [(session, m)] ∧ m.messageType = .SIGN_UP_RESPONSE ∧
    (m.content = Database.generateUUID env ↔ ∃ r : UserRow, r.user_id = Database.generateUUID env ∧
      h'.db.tables.users.rows = h.db.tables.users.rows ++ [r]) ∧
    (h'.db.tables.users.rows = h.db.tables.users.rows → m.content = [])
  kept : ∀ r ∈ h.db.tables.users.rows, r ∈ h'.db.tables.users.rows

/-- The insert goes through: there is a connection, its two calls succeed, and the drawn id is not
taken. -/
def Registers (env : Env) (h : BusinessHandler) : Prop :=
  h.db.Ready ∧ (env.sql 0).prepare ∧ (env.sql 0).step 0 ∧
    ∀ r ∈ h.db.tables.users.rows, r.user_id ≠ Database.generateUUID env

/-- Silence is not an answer. -/
theorem not_answersSignUp (hposted : h'.posted = h.posted) : ¬AnswersSignUp env session h h' := by
  rintro ⟨⟨m, hm, -⟩, -⟩
  rw [hposted] at hm
  exact absurd hm (by simp)

variable [OpenSSL]

/-- A sign-up inserts its row and sends the id back, or is not answered at all. -/
theorem step_sign_up (h : BusinessHandler) (env : Env) (session : SessionId)
    (hty : msg.messageType = .SIGN_UP)
    (hfields : SignsUp msg.content password username) :
    let h' := step h (.frame env session msg)
    Registers env h ∧ h'.posted = h.posted ++ [(session,
        .new env (-1) (-1) .SIGN_UP_RESPONSE (env.junk + 1) (Database.generateUUID env))] ∧
      h'.db.tables.users.rows = h.db.tables.users.rows ++ [UserRow.new env password username] ∨
    ¬Registers env h ∧ h'.posted = h.posted := by
  have hends : Ends (signUp env msg session) h
      (fun _ h' => Registers env h ∧ h'.posted = h.posted ++ [(session,
          .new env (-1) (-1) .SIGN_UP_RESPONSE (env.junk + 1) (Database.generateUUID env))] ∧
        h'.db.tables.users.rows = h.db.tables.users.rows ++ [UserRow.new env password username] ∨
        ¬Registers env h ∧ h'.posted = h.posted)
      fun _ h' => ¬Registers env h ∧ h'.posted = h.posted := by
    obtain ⟨j, hj, hpassword, husername⟩ := hfields
    unfold signUp
    rw [ends_bind, ends_orThrow_ok hj, ends_bind, ends_orThrow_ok hpassword, ends_bind,
      ends_orThrow_ok husername, ends_bind, ends_callDb, Database.ends_registerUser]
    refine ⟨fun hempty => ⟨fun hreg => hreg.1 hempty, rfl⟩, fun conn rest hpool => ⟨?_, ?_⟩⟩
    · intro hprepare
      refine Or.inr ⟨fun hreg => ?_, rfl⟩
      exact Bool.false_ne_true (hprepare.symm.trans hreg.2.1)
    · intro hprepare done
      have hready : h.db.Ready := by
        rw [Database.Ready, hpool]
        exact List.cons_ne_nil _ _
      rcases Database.stepDone_registered (o := env.sql 0) (t := h.db.tables)
        (r := .new env password username) with ⟨⟨hstep, hfree⟩, t, hdone, hrows⟩ | ⟨hnot, hdone⟩
      · rw [show done = (true, t) from hdone]
        refine Or.inl ⟨⟨hready, hprepare, hstep, ?_⟩, rfl, hrows⟩
        intro r hr
        rw [← Database.cstr_generateUUID]
        exact hfree r hr
      · rw [show done = (false, h.db.tables) from hdone]
        refine Or.inr ⟨fun hreg => hnot ⟨hreg.2.2.1, ?_⟩, rfl⟩
        intro r hr
        exact fun hid => hreg.2.2.2 r hr (hid.trans (Database.cstr_generateUUID env))
  have hstate := ends_stateOf.mp (hends.mono (fun _ _ hs => hs) fun _ _ hstop => Or.inr hstop)
  rw [← handle_sign_up hty] at hstate
  exact hstate

/-- **`sign_up_answered_iff`** — a well-formed sign-up is answered as it should be exactly if its insert
goes through: a sign-up that fails, or draws an id that is taken, is not answered. -/
theorem sign_up_answered_iff (h : BusinessHandler) (env : Env) (session : SessionId) (msg : Message)
    (hty : msg.messageType = .SIGN_UP) (hfields : SignsUp msg.content password username) :
    AnswersSignUp env session h (step h (.frame env session msg)) ↔ Registers env h := by
  have hid : Database.generateUUID env ≠ [] := by
    intro hempty
    have hlength := Database.length_generateUUID env
    rw [hempty] at hlength
    cases hlength
  rcases step_sign_up h env session hty hfields with
    ⟨hreg, hposted, hrows⟩ | ⟨hnot, hposted⟩
  · refine iff_of_true ⟨⟨_, hposted, rfl, ?_, ?_⟩, ?_⟩ hreg
    · exact iff_of_true rfl ⟨_, Database.cstr_generateUUID env, hrows⟩
    · intro hsame
      rw [hsame] at hrows
      exact absurd hrows (by simp)
    · intro r hr
      rw [hrows]
      exact List.mem_append_left _ hr
  · exact iff_of_false (not_answersSignUp hposted) hnot

end SignUps

/-- The first draw of an id is free. -/
theorem registers_start : Registers .plain (start .empty 1) :=
  ⟨ready_start (Nat.le_refl 1), rfl, rfl, fun _ hr => absurd hr List.not_mem_nil⟩

/-- The first sign-up is answered. -/
theorem sign_up_answered_first :
    letI := OpenSSL.zero
    AnswersSignUp .plain 3 (start .empty 1) (step (start .empty 1) (.frame .plain 3 signUpFrame)) := by
  let _ := OpenSSL.zero
  exact (sign_up_answered_iff (start .empty 1) .plain 3 signUpFrame rfl signUpFrame_signsUp).mpr
    registers_start

/-- The second sign-up draws the id of the first one and is not answered. -/
theorem sign_up_not_answered :
    letI := OpenSSL.zero
    ¬∀ (h : BusinessHandler) (env : Env) (session : SessionId) (msg : Message)
      (password username : Bytes), msg.messageType = .SIGN_UP →
        SignsUp msg.content password username →
        AnswersSignUp env session h (step h (.frame env session msg)) := by
  let _ := OpenSSL.zero
  intro hall
  let h := step (start .empty 1) (.frame .plain 3 signUpFrame)
  have hrows : UserRow.new .plain (str "pw") (str "bob") ∈ h.db.tables.users.rows := by
    rcases step_sign_up (start .empty 1) .plain 3 rfl signUpFrame_signsUp with ⟨-, -, hrows⟩ | ⟨hnot, -⟩
    · rw [hrows]
      exact List.mem_append_right _ (List.mem_singleton_self _)
    · exact absurd registers_start hnot
  have hanswers := hall h .plain 3 signUpFrame _ _ rfl signUpFrame_signsUp
  rcases step_sign_up h .plain 3 rfl signUpFrame_signsUp with
    ⟨hreg, -⟩ | ⟨-, hposted⟩
  · exact hreg.2.2.2 _ hrows (Database.cstr_generateUUID .plain)
  · exact not_answersSignUp hposted hanswers

end BusinessHandler

end TinyIM
