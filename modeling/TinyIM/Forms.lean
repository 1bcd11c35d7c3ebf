/-
# Forms — from the forms of the page to the accounts of the server

The registration form serializes a name and a password, the server answers with an id of nine digits,
and the login form reads an id back with `parseInt`. Each step has its own idea of a string: the content
of a sign-up is JSON inside JSON, the password of a login is the content of the frame itself, the name is
stored up to its first NUL, and the form refuses what is blank. `account_through_forms` follows one
account through all of them, to the reply of a later login in any state the server has reached since.
-/
import TinyIM.Accounts
import TinyIM.Server
import TinyIM.Wire
import Mathlib.Data.List.DropRight

namespace TinyIM

open TinyIM.Lib TinyIM.Lib.Text TinyIM.Lib.Table TinyIM.Lib.Runs TinyIM.Lib.Stops

/-! ## Numerals -/

/-- A digit is the numeral of its value. -/
theorem eq_digitChar {c : Char} (hc : c.isDigit = true) : ∃ d, d < 10 ∧ c = Nat.digitChar d := by
  simp only [Char.isDigit, Bool.and_eq_true, decide_eq_true_eq] at hc
  have hlo : 48 ≤ c.toNat := hc.1
  have hhi : c.toNat ≤ 57 := hc.2
  refine ⟨c.toNat - 48, by omega, Char.toNat_inj.mp ?_⟩
  rw [Nat.toNat_digitChar_of_lt_ten (by omega)]
  omega

/-- Digits without a leading zero are the decimal form of their value, which is not zero. -/
theorem toDigits_ofDigitChars {ds : List Char} (hds : ∀ c ∈ ds, c.isDigit = true) (hne : ds ≠ [])
    (hzero : ds.head? ≠ some '0') :
    0 < Nat.ofDigitChars 10 ds 0 ∧ Nat.toDigits 10 (Nat.ofDigitChars 10 ds 0) = ds := by
  induction ds using List.reverseRecOn with
  | nil => exact absurd rfl hne
  | append_singleton ds c ih =>
      rw [List.forall_mem_append, List.forall_mem_singleton] at hds
      obtain ⟨d, hd, rfl⟩ := eq_digitChar hds.2
      have hvalue : Nat.ofDigitChars 10 (ds ++ [Nat.digitChar d]) 0 =
          10 * Nat.ofDigitChars 10 ds 0 + d := by
        rw [Nat.ofDigitChars_append, Nat.ofDigitChars_cons_digitChar_of_lt_ten hd,
          Nat.ofDigitChars_nil]
      rw [hvalue]
      by_cases hds' : ds = []
      · -- the only digit is not a zero
        subst hds'
        have hpos : d ≠ 0 := by
          rintro rfl
          exact hzero rfl
        rw [Nat.ofDigitChars_nil, Nat.mul_zero, Nat.zero_add, Nat.toDigits_of_lt_base hd]
        exact ⟨Nat.pos_of_ne_zero hpos, rfl⟩
      · rw [List.head?_append_of_ne_nil _ hds'] at hzero
        obtain ⟨hpos, hdigits⟩ := ih hds.1 hds' hzero
        refine ⟨by omega, ?_⟩
        rw [← Nat.toDigits_append_toDigits (by decide) hpos hd, hdigits, Nat.toDigits_of_lt_base hd]

/-- Nine digits make a number below a thousand million. -/
theorem ofDigitChars_lt {ds : List Char} (hds : ∀ c ∈ ds, c.isDigit = true) :
    Nat.ofDigitChars 10 ds 0 < 10 ^ ds.length := by
  induction ds using List.reverseRecOn with
  | nil => decide
  | append_singleton ds c ih =>
      rw [List.forall_mem_append, List.forall_mem_singleton] at hds
      obtain ⟨d, hd, rfl⟩ := eq_digitChar hds.2
      rw [Nat.ofDigitChars_append, Nat.ofDigitChars_cons_digitChar_of_lt_ten hd, Nat.ofDigitChars_nil,
        List.length_append, List.length_singleton, Nat.pow_succ]
      have hlt := ih hds.1
      omega

/-! ## What the forms do -/

/-- The white space and the line ends of ECMAScript. -/
def isJsSpace (c : Char) : Bool :=
  c ∈ ['\t', '\n', '\x0b', '\x0c', '\r', ' ', '\u00a0', '\u1680', '\u2000', '\u2001', '\u2002',
    '\u2003', '\u2004', '\u2005', '\u2006', '\u2007', '\u2008', '\u2009', '\u200a', '\u2028',
    '\u2029', '\u202f', '\u205f', '\u3000', '\ufeff']

/-- `s.trim()`. -/
def trim (cs : List Char) : List Char := (cs.dropWhile isJsSpace).rdropWhile isJsSpace

/-- `parseInt(s, 10)`, `none` for `NaN`. A numeral beyond `2 ^ 53` is not rounded here. -/
def parseInt (cs : List Char) : Option Int :=
  match cs.dropWhile isJsSpace with
  | '-' :: r => (readDigits r).map fun n => -(n : Int)
  | '+' :: r => (readDigits r).map fun n => (n : Int)
  | r => (readDigits r).map fun n => (n : Int)

/-- The login form: `none` for an alert, otherwise the id and the password that are sent. -/
def loginForm (userIdInput password : Json.CodePoints) : Option (Option Int × Json.CodePoints) :=
  if trim userIdInput.chars = [] ∨ trim password.chars = [] then none
  else some (parseInt userIdInput.chars, password)

/-- The pattern of the form for a friend's id, and the id that is sent; `none` for an alert. -/
def addFriendForm (friendIdInput : Json.CodePoints) : Option (Option Int) :=
  let friendId := trim friendIdInput.chars
  if friendId.length = 9 ∧ friendId.all Char.isDigit then some (parseInt friendId) else none

/-- The id `-1` in the frames that have no recipient. -/
def noUser : SafeInteger := ⟨-1, by decide⟩

/-- The frame of the registration form. -/
def PageFrame.register (username password : Json.CodePoints) (messageId timestamp : SafeInteger) :
    PageFrame :=
  ⟨some noUser.toJs, some noUser.toJs, .SIGN_UP, messageId, .ofChars (Json.stringify
    [("username".toList, .string username), ("password".toList, .string password)]), timestamp⟩

/-- The frame of the login form. -/
def PageFrame.login (userId : Option JsInteger) (password : Json.CodePoints)
    (messageId timestamp : SafeInteger) : PageFrame :=
  ⟨userId, some noUser.toJs, .LOGIN, messageId, password, timestamp⟩

/-! ## Issued ids -/

/-- The characters of an issued id. -/
def idChars (env : Env) : List Char := env.draw.toList.map fun i : Fin 9 => Nat.digitChar (i.val + 1)

theorem generateUUID_eq (env : Env) : Database.generateUUID env = utf8 (idChars env) := by
  have hdigit : ∀ i : Fin 9, utf8 [Nat.digitChar (i.val + 1)] =
      [(str "123456789").getD i.val 0] := by decide
  unfold Database.generateUUID idChars
  induction env.draw.toList with
  | nil => rfl
  | cons i is ih =>
      rw [List.map_cons, List.map_cons, utf8_cons, ← ih, ← List.singleton_append, ← hdigit i]
      simp

theorem idChars_digit (env : Env) : ∀ c ∈ idChars env, c.isDigit = true ∧ c ≠ '0' := by
  have hdigit : ∀ i : Fin 9, (Nat.digitChar (i.val + 1)).isDigit = true ∧
      Nat.digitChar (i.val + 1) ≠ '0' := by decide
  intro c hc
  obtain ⟨i, -, rfl⟩ := List.mem_map.mp hc
  exact hdigit i

theorem length_idChars (env : Env) : (idChars env).length = 9 := by
  rw [idChars, List.length_map, Vector.length_toList]

/-- The number an issued id stands for. -/
def idNumber (env : Env) : Nat := Nat.ofDigitChars 10 (idChars env) 0

theorem idNumber_lt (env : Env) : idNumber env < 10 ^ 9 := by
  have hlt := ofDigitChars_lt fun c hc => (idChars_digit env c hc).1
  rw [length_idChars] at hlt
  exact hlt

/-- The id as a number of the script. -/
def safeId (env : Env) : SafeInteger :=
  ⟨idNumber env, by have hlt := idNumber_lt env; rw [Int.natAbs_natCast]; omega⟩

theorem idChars_ne_nil (env : Env) : idChars env ≠ [] := by
  intro hnil
  have hlength := length_idChars env
  rw [hnil] at hlength
  cases hlength

theorem toDigits_idNumber (env : Env) : Nat.toDigits 10 (idNumber env) = idChars env := by
  refine (toDigits_ofDigitChars (fun c hc => (idChars_digit env c hc).1) (idChars_ne_nil env) ?_).2
  intro hzero
  exact (idChars_digit env '0' (List.mem_of_mem_head? hzero)).2 rfl

/-- The server writes the number as it issued the id. -/
theorem to_string_idNumber (env : Env) :
    to_string (Int32.ofInt (safeId env).val) = Database.generateUUID env := by
  have hlt := idNumber_lt env
  have hval : (Int32.ofInt (safeId env).val).toInt = (idNumber env : Int) := by
    show (Int32.ofInt (idNumber env : Int)).toInt = _
    exact Int32.toInt_ofInt_of_le (by omega) (by omega)
  rw [to_string, hval, decimal, generateUUID_eq, ← toDigits_idNumber]
  rfl

/-- No digit is white space. -/
theorem isJsSpace_of_isDigit {c : Char} (hc : c.isDigit = true) : isJsSpace c = false := by
  obtain ⟨d, hd, rfl⟩ := eq_digitChar hc
  have hall : ∀ d, d < 10 → isJsSpace (Nat.digitChar d) = false := by decide
  exact hall d hd

theorem trim_digits {cs : List Char} (hcs : ∀ c ∈ cs, c.isDigit = true) : trim cs = cs := by
  have hfront : cs.dropWhile isJsSpace = cs := by
    cases cs with
    | nil => rfl
    | cons c cs =>
        have hc := isJsSpace_of_isDigit (hcs c List.mem_cons_self)
        rw [List.dropWhile_cons_of_neg]
        rw [hc]
        exact Bool.false_ne_true
  rw [trim, hfront, List.rdropWhile_eq_self_iff]
  intro hne
  rw [isJsSpace_of_isDigit (hcs _ (List.getLast_mem hne))]
  exact Bool.false_ne_true

/-- The script reads an issued id back as its number. -/
theorem parseInt_idChars (env : Env) : parseInt (idChars env) = some (safeId env).val := by
  have hdigits := readDigits_toDigits (idNumber env)
  rw [toDigits_idNumber] at hdigits
  have hall : ∀ c ∈ idChars env, c.isDigit = true := fun c hc => (idChars_digit env c hc).1
  cases hcs : idChars env with
  | nil => exact absurd hcs (idChars_ne_nil env)
  | cons c cs =>
      rw [hcs] at hdigits hall
      have hc : c.isDigit = true := hall c List.mem_cons_self
      have hspace := isJsSpace_of_isDigit hc
      have hminus : c ≠ '-' := by
        rintro rfl
        cases hc
      have hplus : c ≠ '+' := by
        rintro rfl
        cases hc
      have hfront : (c :: cs).dropWhile isJsSpace = c :: cs := by
        rw [List.dropWhile_cons_of_neg]
        rw [hspace]
        exact Bool.false_ne_true
      unfold parseInt
      rw [hfront]
      split
      · rename_i heq
        exact absurd (List.cons.inj heq).1 hminus
      · rename_i heq
        exact absurd (List.cons.inj heq).1 hplus
      · rw [hdigits]
        rfl

/-! ## Frames that arrive -/

namespace BusinessHandler

section Registration

variable {username password : Json.CodePoints} {messageId timestamp : SafeInteger}

/-- The message of the registration form. -/
def registerMessage (username password : Json.CodePoints) (messageId timestamp : SafeInteger) : Message :=
  ⟨.ofInt (-1), .ofInt (-1), .SIGN_UP, .ofInt messageId.val, utf8 (Json.stringify
    [("username".toList, .string username), ("password".toList, .string password)]),
    .ofInt timestamp.val⟩

theorem received_register (env : Env) :
    (PageFrame.register username password messageId timestamp).received env =
      .ok (registerMessage username password messageId timestamp) := by
  unfold PageFrame.received PageFrame.register registerMessage
  rw [if_pos (Json.CodePoints.wellFormed_ofChars _), Json.CodePoints.chars_ofChars]
  dsimp only
  rw [SafeInteger.toInt32_toJs]
  rfl

/-- The content of the form is a sign-up if both strings are text. -/
theorem signsUp_registerMessage (husername : username.WellFormed) (hpassword : password.WellFormed) :
    SignsUp (registerMessage username password messageId timestamp).content (utf8 password.chars)
      (utf8 username.chars) := by
  have hmembers : Json.readMembers nlohmann
      [("username".toList, .string username), ("password".toList, .string password)] =
      some [("username".toList, .string username.chars), ("password".toList, .string password.chars)] := by
    refine Json.readMembers_eq nlohmann ?_ ?_
    · exact .cons ⟨(List.map_id _).symm, readScalar_string husername⟩
        (.cons ⟨(List.map_id _).symm, readScalar_string hpassword⟩ .nil)
    · show ["username".toList, "password".toList].Nodup
      decide
  have hparse : parseJson (registerMessage username password messageId timestamp).content =
      .ok (.object [("username".toList, .string username.chars),
        ("password".toList, .string password.chars)]) := by
    unfold parseJson registerMessage
    rw [parse_stringify, hmembers, Option.map_some]
  exact ⟨_, hparse, rfl, rfl⟩

/-- Otherwise it is no JSON. -/
theorem parseJson_registerMessage (h : ¬(username.WellFormed ∧ password.WellFormed)) :
    parseJson (registerMessage username password messageId timestamp).content = .error .parse_error := by
  have hnone : Json.readMembers nlohmann
      [("username".toList, .string username), ("password".toList, .string password)] = none := by
    have hunread : ∀ s : Json.CodePoints, ¬s.WellFormed →
        Json.readScalar nlohmann (.string s) = none := by
      intro s hs
      rw [Json.readScalar, readUnits_nlohmann, if_neg hs, Option.map_none]
    by_cases husername : username.WellFormed
    · exact Json.readMembers_eq_none nlohmann (m := ("password".toList, .string password))
        (List.mem_cons_of_mem _ (List.mem_singleton_self _))
        (hunread password fun hpassword => h ⟨husername, hpassword⟩)
    · exact Json.readMembers_eq_none nlohmann (m := ("username".toList, .string username))
        List.mem_cons_self (hunread username husername)
  unfold parseJson registerMessage
  rw [parse_stringify, hnone, Option.map_none]

/-- The page reads the name in the reply of a login. -/
theorem parse_loginSuccess_name {cs : List Char} {content : Bytes}
    (hcontent : dumpJson (loginSuccess (utf8 cs)) = .ok content) :
    JSON.parse content = some (.object
      [(js "status", .string (js "success")), (js "username", .string (cs.map Char.toNat))]) := by
  rw [dumpJson_eq_ok, loginSuccess_eq] at hcontent
  obtain ⟨t, ht, rfl⟩ := Option.map_eq_some_iff.mp hcontent
  have hmembers : Json.rereadMembers ecmaScript
      [(str "status", .string (str "success")), (str "username", .string (utf8 cs))] =
      some [(js "status", .string (js "success")), (js "username", .string (cs.map Char.toNat))] := by
    refine Json.rereadMembers_eq ecmaScript ?_ ?_
    · exact .cons ⟨_, rfl, rfl, reread_text _⟩ (.cons ⟨_, rfl, rfl, reread_text cs⟩ .nil)
    · show [js "status", js "username"].Nodup
      decide
  rw [JSON.parse, decodeUtf8_utf8, Option.bind_some, Json.parseText_text ecmaScript ht, Json.reread,
    hmembers, Option.map_some]

end Registration

/-- The handler after a frame of a page has been received on a session. -/
def arrives [OpenSSL] (env : Env) (session : SessionId) (frame : PageFrame) (h : BusinessHandler) :
    BusinessHandler :=
  stateOf (Session.receive env session (utf8 frame.text) h)

section Arrives

variable [OpenSSL] {env : Env} {session : SessionId} {frame : PageFrame} {h : BusinessHandler}
  {username password : Json.CodePoints} {messageId timestamp : SafeInteger}

theorem arrives_eq {msg : Message} (hmsg : frame.received env = .ok msg) :
    arrives env session frame h = step h (.frame env session msg) := by
  have hwell : frame.content.WellFormed := by
    unfold PageFrame.received at hmsg
    split at hmsg
    · assumption
    · cases hmsg
  rw [arrives, Server.stateOf_receive, fromJson_frame env hwell, hmsg]

/-- A registration that is no text changes nothing. -/
theorem arrives_register_of_not (hnot : ¬(username.WellFormed ∧ password.WellFormed)) :
    arrives env session (PageFrame.register username password messageId timestamp) h = h := by
  rw [arrives_eq (received_register env)]
  show stateOf (handleIncomingMessage env session _ h) = h
  rw [handle_sign_up rfl]
  have hends : Ends (signUp env (registerMessage username password messageId timestamp) session) h
      (fun _ h' => h' = h) fun _ h' => h' = h := by
    unfold signUp
    rw [ends_bind, ends_orThrow, parseJson_registerMessage hnot]
    exact ⟨fun j hj => (nomatch hj), fun _ _ => rfl⟩
  exact ends_stateOf.mp hends

/-- The row of a registration authenticates its id and its password. -/
theorem authenticates_new (env : Env) (password username : Bytes) :
    Database.Authenticates (Int32.ofInt (safeId env).val) password (.new env password username) := by
  refine ⟨?_, ?_⟩
  · rw [to_string_idNumber]
    exact Database.cstr_generateUUID env
  · show Database.hashPassword password (cstr (cstr (Database.generateSalt env))) =
      cstr (cstr (Database.hashPassword password (Database.generateSalt env)))
    rw [cstr_cstr, cstr_cstr, Database.cstr_generateSalt, Database.cstr_hashPassword]

/-- A row of the users table stays. -/
theorem mem_users_exec {r : UserRow} (hr : r ∈ h.db.tables.users.rows) (hok : h.db.tables.Ok)
    (es : List Event) : r ∈ (exec step h es).db.tables.users.rows ∧ (exec step h es).db.tables.Ok :=
  exec_preserves (I := fun h : BusinessHandler => r ∈ h.db.tables.users.rows ∧ h.db.tables.Ok)
    (fun h e hh => ⟨(mem_users_step hh.2 e).mpr (Or.inl hh.1), step_ok h e hh.2⟩) ⟨hr, hok⟩ es

/-- The only effect a sign-up can have on the tables comes with a reply. -/
theorem tables_of_not_posted {msg : Message} {h' : BusinessHandler} (hty : msg.messageType = .SIGN_UP)
    (hdid : Did env session msg h h') (hposted : h'.posted = h.posted) :
    h'.db.tables = h.db.tables := by
  have hother : ∀ ty, msg.messageType = ty → ty ≠ .SIGN_UP → h'.db.tables = h.db.tables :=
    fun ty h₁ h₂ => absurd (h₁.symm.trans hty) h₂
  cases hdid with
  | idle pool hty => rfl
  | signedUp pool hty hfields hnew =>
      rw [post_posted] at hposted
      exact absurd hposted (by simp)
  | refused pool hty => rfl
  | loggedIn pool hty => rfl
  | loggedOut hty => rfl
  | requested pool hty => exact hother _ hty (by decide)
  | rejected pool hty => exact hother _ hty (by decide)
  | accepted pool hty => exact hother _ hty (by decide)
  | chatted pool hty =>
      rcases hty with hty | hty
      · exact hother _ hty (by decide)
      · exact hother _ hty (by decide)
  | broadcast hty => rfl
  | listed pool hty => rfl
  | pulled pool hty => rfl

/-- A registration inserts its row and sends the id back, or does nothing. -/
theorem arrives_register (hok : h.db.tables.Ok) (husername : username.WellFormed)
    (hpassword : password.WellFormed) (env : Env) (session : SessionId)
    (messageId timestamp : SafeInteger) :
    let h' := arrives env session (PageFrame.register username password messageId timestamp) h
    Registers env h ∧ h'.posted = h.posted ++ [(session, .new env (-1) (-1) .SIGN_UP_RESPONSE
        (env.junk + 1) (utf8 (idChars env)))] ∧
      h'.db.tables.users.rows = h.db.tables.users.rows ++
        [.new env (utf8 password.chars) (utf8 username.chars)] ∧ h'.db.tables.Ok ∨
    ¬Registers env h ∧ h'.posted = h.posted ∧ h'.db.tables = h.db.tables := by
  have hfields : SignsUp (registerMessage username password messageId timestamp).content _ _ :=
    signsUp_registerMessage husername hpassword
  intro h'
  have hstep : h' = step h (.frame env session
      (registerMessage username password messageId timestamp)) := arrives_eq (received_register env)
  rcases step_sign_up h env session rfl hfields with ⟨hreg, hposted, hrows⟩ | ⟨hnot, hposted⟩
  · rw [generateUUID_eq] at hposted
    rw [hstep]
    exact Or.inl ⟨hreg, hposted, hrows, step_ok h _ hok⟩
  · rw [hstep]
    exact Or.inr ⟨hnot, hposted, tables_of_not_posted rfl (step_did hok.users) hposted⟩

/-- A login with the id and the password of a row is granted, unless the user is logged in. -/
theorem arrives_login {r : UserRow} {n : SafeInteger} (hok : h.db.tables.Ok)
    (hr : r ∈ h.db.tables.users.rows) (hpassword : password.WellFormed)
    (hauth : Database.Authenticates (Int32.ofInt n.val) (utf8 password.chars) r)
    (henv : env.SqlSucceeds) (hready : h.db.Ready)
    (hfree : h.userSessions.lookup (Int32.ofInt n.val) = none) (session : SessionId)
    (messageId timestamp : SafeInteger) :
    let h' := arrives env session (PageFrame.login (some n.toJs) password messageId timestamp) h
    h'.userSessions.lookup (Int32.ofInt n.val) = some session ∧
      ∃ content, dumpJson (loginSuccess (cstr r.username)) = .ok content ∧ h'.posted = h.posted ++
        [(session, .new env (Int32.ofInt n.val) 0 .LOGIN_RESPONSE (env.junk + 1) content)] := by
  let msg : Message := ⟨.ofInt n.val, .ofInt (-1), .LOGIN, .ofInt messageId.val, utf8 password.chars,
    .ofInt timestamp.val⟩
  have hreceived : (PageFrame.login (some n.toJs) password messageId timestamp).received env =
      .ok msg := by
    unfold PageFrame.received PageFrame.login
    rw [if_pos hpassword]
    dsimp only
    rw [SafeInteger.toInt32_toJs, SafeInteger.toInt32_toJs]
    rfl
  intro h'
  have hstep : h' = step h (.frame env session msg) := arrives_eq hreceived
  have hanswer : Granted env session msg h _ ∨ Refused env session msg h _ :=
    step_login rfl henv hready hok.users
  rcases hanswer with ⟨-, r', hr', hauth', pool, content, hcontent, hgranted⟩ | ⟨hwhy, -⟩
  · -- the primary key leaves no other row of the id
    have hrow : r' = r := h.db.tables.users.eq_of_key_eq hr' hr (hauth'.1.trans hauth.1.symm)
    rw [hstep, hgranted]
    rw [hrow] at hcontent
    exact ⟨AList.lookup_insert _, content, hcontent, rfl⟩
  · rcases hwhy with hsome | hnone
    · rw [hfree] at hsome
      cases hsome
    · exact absurd hauth (hnone r hr)

/-- The login with the issued id and the password is granted in the state `h`, and the page reads the
registered name, up to its first NUL, in the reply. -/
def LogsInAs (env : Env) (session : SessionId) (id : SafeInteger) (username password : Json.CodePoints)
    (messageId timestamp : SafeInteger) (h : BusinessHandler) : Prop :=
  let h' := arrives env session (PageFrame.login (some id.toJs) password messageId timestamp) h
  h'.userSessions.lookup (Int32.ofInt id.val) = some session ∧
    ∃ reply v, h'.posted = h.posted ++ [(session, reply)] ∧ reply.messageType = .LOGIN_RESPONSE ∧
      JSON.parse reply.content = some v ∧ v.property "status" = some (.string (js "success")) ∧
      v.property "username" =
        some (.string ((username.chars.takeWhile (· ≠ '\x00')).map Char.toNat))

/-- The row of a registration lets its user in. -/
theorem logsInAs_of_row {env₀ : Env} (hok : h.db.tables.Ok)
    (hr : .new env₀ (utf8 password.chars) (utf8 username.chars) ∈ h.db.tables.users.rows)
    (hpassword : password.WellFormed) (henv : env.SqlSucceeds) (hready : h.db.Ready)
    (hfree : h.userSessions.lookup (Int32.ofInt (safeId env₀).val) = none) :
    LogsInAs env session (safeId env₀) username password messageId timestamp h := by
  obtain ⟨hlookup, content, hcontent, hposted⟩ := arrives_login hok hr hpassword
    (authenticates_new env₀ _ _) henv hready hfree session messageId timestamp
  -- the name is cut when it is stored, and once more when it is read
  have hname : cstr (UserRow.new env₀ (utf8 password.chars) (utf8 username.chars)).username =
      utf8 (username.chars.takeWhile (· ≠ '\x00')) := by
    show cstr (cstr (utf8 username.chars)) = _
    rw [cstr_cstr, cstr_utf8]
  rw [hname] at hcontent
  exact ⟨hlookup, _, _, hposted, rfl, parse_loginSuccess_name hcontent, rfl, rfl⟩

/-- **`account_through_forms`** — in every reachable state, a registration form that arrives is answered
exactly if both strings are text and the insert goes through, and otherwise nothing is sent and no table
changes. The answer is an id of nine digits which the login form, given a password that is not blank, and
the form for a friend's id both read as one number; and in every state reached later in which a
connection is idle and the user is not logged in, a login with this number and the password whose
statements succeed is granted, under the name up to its first NUL. -/
theorem account_through_forms (pool_size : Nat) (before : List Event) (env : Env)
    (session : SessionId) (username password : Json.CodePoints) (messageId timestamp : SafeInteger) :
    let h := exec step (start .empty pool_size) before
    let h₁ := arrives env session (PageFrame.register username password messageId timestamp) h
    (¬(username.WellFormed ∧ password.WellFormed ∧ Registers env h) →
      h₁.posted = h.posted ∧ h₁.db.tables = h.db.tables) ∧
    (username.WellFormed ∧ password.WellFormed ∧ Registers env h →
      ∃ reply, h₁.posted = h.posted ++ [(session, reply)] ∧ reply.messageType = .SIGN_UP_RESPONSE ∧
      ∃ id : Json.CodePoints, reply.content = utf8 id.chars ∧ id.units.length = 9 ∧
      ∃ n : SafeInteger, addFriendForm id = some (some n.val) ∧
        loginForm id password =
          (if trim password.chars = [] then none else some (some n.val, password)) ∧
        ∀ (es : List Event) (env' : Env) (session' : SessionId) (messageId' timestamp' : SafeInteger),
          env'.SqlSucceeds → (exec step h₁ es).db.Ready →
          (exec step h₁ es).userSessions.lookup (Int32.ofInt n.val) = none →
          LogsInAs env' session' n username password messageId' timestamp' (exec step h₁ es)) := by
  intro h h₁
  have hok : h.db.tables.Ok := exec_ok pool_size before
  refine ⟨?_, ?_⟩
  · intro hnot
    by_cases htext : username.WellFormed ∧ password.WellFormed
    · rcases arrives_register hok htext.1 htext.2 env session messageId timestamp with
        ⟨hreg, -⟩ | ⟨-, hposted, htables⟩
      · exact absurd ⟨htext.1, htext.2, hreg⟩ hnot
      · exact ⟨hposted, htables⟩
    · have hsame : h₁ = h := arrives_register_of_not htext
      rw [hsame]
      exact ⟨rfl, rfl⟩
  · rintro ⟨husername, hpassword, hreg⟩
    rcases arrives_register hok husername hpassword env session messageId timestamp with
      ⟨-, hposted, hrows, hok₁⟩ | ⟨hnot, -⟩
    · have hdigits : ∀ c ∈ idChars env, c.isDigit = true := fun c hc => (idChars_digit env c hc).1
      have htrim : trim (idChars env) = idChars env := trim_digits hdigits
      refine ⟨_, hposted, rfl, .ofChars (idChars env), ?_, ?_, safeId env, ?_, ?_, ?_⟩
      · rw [Json.CodePoints.chars_ofChars]
        rfl
      · show ((idChars env).map Char.toNat).length = 9
        rw [List.length_map, length_idChars]
      · unfold addFriendForm
        rw [Json.CodePoints.chars_ofChars, htrim, if_pos ⟨length_idChars env, List.all_eq_true.mpr hdigits⟩,
          parseInt_idChars]
      · unfold loginForm
        rw [Json.CodePoints.chars_ofChars, htrim, parseInt_idChars]
        simp only [idChars_ne_nil, false_or]
      · intro es env' session' messageId' timestamp' henv hready hfree
        have hr : UserRow.new env (utf8 password.chars) (utf8 username.chars) ∈
            h₁.db.tables.users.rows := by
          rw [hrows]
          exact List.mem_append_right _ (List.mem_singleton_self _)
        obtain ⟨hr₂, hok₂⟩ := mem_users_exec hr hok₁ es
        exact logsInAs_of_row hok₂ hr₂ hpassword henv hready hfree
    · exact absurd hreg hnot

end Arrives

/-- Bob registers and logs in. -/
theorem account_through_forms_bob :
    letI := OpenSSL.zero
    let bob := Json.CodePoints.ofChars "bob".toList
    let pw := Json.CodePoints.ofChars "pw".toList
    let h := arrives .plain 3 (PageFrame.register bob pw noUser noUser) (start .empty 1)
    ∃ (id : Json.CodePoints) (n : SafeInteger), loginForm id pw = some (some n.val, pw) ∧
      LogsInAs .plain 4 n bob pw noUser noUser h := by
  let _ := OpenSSL.zero
  obtain ⟨reply, -, -, id, -, -, n, -, hlogin, hlogs⟩ :=
    (account_through_forms 1 [] .plain 3 (.ofChars "bob".toList) (.ofChars "pw".toList) noUser
      noUser).2 ⟨Json.CodePoints.wellFormed_ofChars _, Json.CodePoints.wellFormed_ofChars _,
        registers_start⟩
  have hblank : trim (Json.CodePoints.ofChars "pw".toList).chars ≠ [] := by decide +kernel
  rw [if_neg hblank] at hlogin
  have hlater := hlogs []
  simp only [exec_nil] at hlater
  let h := arrives .plain 3 (PageFrame.register (.ofChars "bob".toList) (.ofChars "pw".toList) noUser
    noUser) (start .empty 1)
  have hready : h.db.Ready := by
    show h.db.connection_pool ≠ []
    decide +kernel
  have hnobody : h.userSessions.entries = [] := by decide +kernel
  have hfree : h.userSessions.lookup (Int32.ofInt n.val) = none := by
    rw [AList.lookup_eq_none, AList.mem_keys, AList.keys, hnobody]
    exact List.not_mem_nil
  exact ⟨id, n, hlogin, hlater .plain 4 noUser noUser Env.plain_sqlSucceeds hready hfree⟩

end BusinessHandler

end TinyIM
