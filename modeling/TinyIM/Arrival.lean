/-
# Arrival — the messages that reach a page across its login

The server and one page, with everything in between: the frames of the page are handled in the order
it sent them, the messages enqueued to its session reach it in the order they were enqueued, and in
between the server handles chat frames that other clients send to the page's user. The page logs in,
and asks for the history as soon as it handles the successful response.

From the login on, the user is registered and messages are relayed; the history is read only when the
request for it is handled. A message handled between the two is in both. `arrivals` counts the copies
for every interleaving: one if the message was handled before the history was read, and one if it was
handled after the login.
-/
import TinyIM.Accounts
import TinyIM.History
import TinyIM.Page
import TinyIM.Lib.JsonRoundTrip

namespace TinyIM

open TinyIM.Lib TinyIM.Lib.Text TinyIM.Lib.Table TinyIM.Lib.Runs TinyIM.Lib.Stops

namespace Arrival

open BusinessHandler (chats recentChats)

/-! ## The server, the page, and what is in between -/

/-- The messages enqueued to a session, in order. -/
def toSession (own : SessionId) (h : BusinessHandler) : List Message :=
  h.posted.filterMap fun p => if p.1 = own then some p.2 else none

/-- The server and the page. -/
structure World where
  handler : BusinessHandler
  page : Page
  /-- How many of the frames the page has sent the server has handled. -/
  served : Nat
  /-- How many of the messages enqueued to the page's session the page has handled. -/
  delivered : Nat

/-- What happens next. -/
inductive Event where
  /-- The server handles a frame of another client. -/
  | text (env : Env) (session : SessionId) (msg : Message)
  /-- The server handles the next frame of the page. -/
  | serve (env : Env)
  /-- The page handles the next message enqueued to it. -/
  | deliver (now : Int64)

/-- The chat frames of other clients, in the order they were handled. -/
def texts (es : List Event) : List (Env × Message) :=
  es.filterMap fun
    | .text env _ msg => some (env, msg)
    | _ => none

theorem texts_append (es fs : List Event) : texts (es ++ fs) = texts es ++ texts fs :=
  List.filterMap_append

theorem texts_cons_serve (env : Env) (es : List Event) : texts (.serve env :: es) = texts es := rfl

theorem chats_append (es fs : List BusinessHandler.Event) : chats (es ++ fs) = chats es ++ chats fs :=
  List.filterMap_append

/-- Where a run begins: what the server has handled before, and who is going to log in. -/
structure Setting where
  pool_size : Nat
  before : List BusinessHandler.Event
  own : SessionId
  userId : Int32
  password : Bytes
  now : Int64

/-- One event. -/
def step [OpenSSL] (own : SessionId) (w : World) : Event → World
  | .text env session msg => { w with handler := w.handler.step (.frame env session msg) }
  | .serve env =>
    match w.page.sent[w.served]? with
    | some msg => { w with handler := w.handler.step (.frame env own msg), served := w.served + 1 }
    | none => w
  | .deliver now =>
    match (toSession own w.handler)[w.delivered]? with
    | some msg => { w with page := w.page.step (now, msg), delivered := w.delivered + 1 }
    | none => w

namespace Setting

variable [OpenSSL] (g : Setting)

/-- The server when the login form is submitted. -/
def handler : BusinessHandler := exec BusinessHandler.step (.start .empty g.pool_size) g.before

/-- The page when the login form has just been submitted. -/
def page : Page := stateOf (Page.submitLogin g.now g.userId g.password .loaded)

/-- The messages enqueued to the session so far have all been handled. -/
def world : World := ⟨g.handler, g.page, 0, (toSession g.own g.handler).length⟩

/-- The world after a run. -/
def after (es : List Event) : World := exec (step g.own) g.world es

/-- SQLite statements succeed, and the login is going to be granted. -/
structure Ok : Prop where
  size : 1 ≤ g.pool_size
  succeeds : ∀ e ∈ g.before, e.Succeeds
  free : g.handler.userSessions.lookup g.userId = none
  account : ∃ r ∈ g.handler.db.tables.users.rows, Database.Authenticates g.userId g.password r

/-- SQLite statements succeed, and the frames of other clients are readable chat messages to the user
of the page. -/
def Fits : Event → Prop
  | .text env _ msg => env.SqlSucceeds ∧ msg.messageType = .TEXT ∧ msg.toUserId = g.userId ∧
      Page.Readable msg
  | .serve env => env.SqlSucceeds
  | .deliver _ => True

/-- What a request for the history selects: of the frames handled before it, numbered in the order they
were handled, those from or to the user that are at most a day old. -/
def history (pre mid : List Event) (envP : Env) : List ((Env × Message) × Nat) :=
  ((chats g.before ++ texts pre ++ texts mid).zipIdx 1).filter fun c =>
    (c.1.2.fromUserId = g.userId ∨ c.1.2.toUserId = g.userId) ∧
      envP.now.toInt - 86400 ≤ c.1.1.now.toInt

/-- The page's frame number `n` is handled by the event that comes right after `pre`. -/
def HandledAt (n : Nat) (pre : List Event) (env : Env) : Prop :=
  (g.after pre).served = n ∧ (g.after (pre ++ [.serve env])).served = n + 1

end Setting

/-- Every frame of the page and every message to it has been handled. -/
def Quiet (own : SessionId) (w : World) : Prop :=
  w.served = w.page.sent.length ∧ w.delivered = (toSession own w.handler).length

/-- The copy of a chat frame that is relayed. -/
def live (c : Env × Message) : Message :=
  .new c.1 c.2.fromUserId c.2.toUserId .TEXT (c.2.messageId + 1) c.2.content

/-- The copy of the chat frame stored under `id` that the history contains. -/
def pulled (env : Env) (c : (Env × Message) × Nat) : Message :=
  Database.replay env c.1.2.fromUserId c.1.2.toUserId c.2 (cstr c.1.2.content)

/-! ## The response to the login -/

/-- The message reports a successful login. -/
def IsSuccess (msg : Message) : Prop :=
  msg.messageType = .LOGIN_RESPONSE ∧ ∃ v, JSON.parse msg.content = some v ∧
    v.property "status" = some (.string (js "success"))

/-- The page reads the response of a successful login. -/
theorem parse_loginSuccess {username content : Bytes} (hname : ValidUtf8 username)
    (hcontent : dumpJson (BusinessHandler.loginSuccess username) = .ok content) :
    ∃ v, JSON.parse content = some v ∧ v.property "status" = some (.string (js "success")) := by
  obtain ⟨cs, rfl⟩ := hname
  rw [dumpJson_eq_ok, BusinessHandler.loginSuccess_eq] at hcontent
  obtain ⟨t, ht, rfl⟩ := Option.map_eq_some_iff.mp hcontent
  refine ⟨.object [(js "status", .string (js "success")),
    (js "username", .string (cs.map Char.toNat))], ?_, by simp [JsValue.property]⟩
  have hstring : ∀ cs : List Char,
      Json.reread ecmaScript (.string (utf8 cs)) = some (.string (cs.map Char.toNat)) := by
    intro cs
    rw [Json.reread, decodeUtf8_utf8]
    rfl
  rw [JSON.parse, decodeUtf8_utf8]
  show Json.parseText ecmaScript t = _
  have hmembers : Json.rereadMembers ecmaScript
      [(str "status", .string (str "success")), (str "username", .string (utf8 cs))] =
      some [(js "status", .string (js "success")), (js "username", .string (cs.map Char.toNat))] := by
    refine Json.rereadMembers_eq ecmaScript ?_ ?_
    · exact .cons ⟨_, rfl, rfl, hstring _⟩ (.cons ⟨_, rfl, rfl, hstring cs⟩ .nil)
    · show [js "status", js "username"].Nodup
      decide
  rw [Json.parseText_text ecmaScript ht, Json.reread, hmembers]
  rfl

/-! ## What the frames do to the server -/

section Frames

variable (own : SessionId) {s : SessionId} {h : BusinessHandler}

theorem toSession_post (ps : List (SessionId × Message)) : toSession own (h.post ps) =
    toSession own h ++ ps.filterMap fun p => if p.1 = own then some p.2 else none :=
  List.filterMap_append

theorem toSession_withDb (tables : Tables) (pool : List Conn) :
    toSession own (h.withDb tables pool) = toSession own h := rfl

variable [OpenSSL] {env : Env} {msg : Message} {u : Int32}

/-- A chat frame to the user is relayed to the session if the user is registered on it. -/
theorem toSession_text (hty : msg.messageType = .TEXT) (henv : env.SqlSucceeds)
    (hready : h.db.Ready) (huser : h.userSessions.lookup msg.toUserId = none ∨
      h.userSessions.lookup msg.toUserId = some own) :
    let h' := h.step (.frame env s msg)
    h'.userSessions = h.userSessions ∧ h'.db.tables.users = h.db.tables.users ∧
    toSession own h' = toSession own h ++
      if h.userSessions.lookup msg.toUserId = none then [] else [live (env, msg)] := by
  intro h'
  obtain ⟨pool, hstep⟩ : ∃ pool, h' = _ := BusinessHandler.step_chat (Or.inl hty) henv hready
  rw [hstep]
  refine ⟨rfl, rfl, ?_⟩
  rw [toSession_post, toSession_withDb]
  rcases huser with hnone | hown
  · rw [hnone, if_pos rfl]
    rfl
  · rw [hown, if_neg (by simp)]
    simp [live]

/-- A login that is going to be granted is granted, and reported to the session. -/
theorem toSession_login (hty : msg.messageType = .LOGIN) (henv : env.SqlSucceeds)
    (hready : h.db.Ready) (hnames : ∀ r ∈ h.db.tables.users.rows, ValidUtf8 r.username)
    (hfree : h.userSessions.lookup msg.fromUserId = none)
    (haccount : ∃ r ∈ h.db.tables.users.rows, Database.Authenticates msg.fromUserId msg.content r) :
    let h' := h.step (.frame env own msg)
    h'.userSessions.lookup msg.fromUserId = some own ∧
    ∃ reply, IsSuccess reply ∧ toSession own h' = toSession own h ++ [reply] := by
  intro h'
  have houtcome : BusinessHandler.Granted env own msg h h' ∨
      BusinessHandler.Refused env own msg h h' :=
    BusinessHandler.step_login hty henv hready hnames
  rcases houtcome with ⟨-, r, hr, -, pool, content, hcontent, hh'⟩ | ⟨hwhy, -⟩
  · -- the page can read the reply because the registered name is well-formed
    rw [hh']
    refine ⟨AList.lookup_insert .., .new env msg.fromUserId 0 .LOGIN_RESPONSE (env.junk + 1) content,
      ⟨rfl, parse_loginSuccess (validUtf8_cstr (hnames r hr)) hcontent⟩, ?_⟩
    rw [toSession_post]
    simp only [List.filterMap_cons, if_pos, List.filterMap_nil]
    rfl
  · rcases hwhy with hsome | hnobody
    · rw [hfree] at hsome
      cases hsome
    · obtain ⟨r, hr, hauth⟩ := haccount
      exact absurd hauth (hnobody r hr)

/-- A pull sends the user's recent history to the session, in some order. -/
theorem toSession_pull {pool_size : Nat} {es : List BusinessHandler.Event}
    (hrec : BusinessHandler.RecordsChats pool_size es h) (hsize : 1 ≤ pool_size)
    (hcount : (chats es).length < 2 ^ 31) (hty : msg.messageType = .PULL_MESSAGE)
    (henv : env.SqlSucceeds) :
    let h' := h.step (.frame env own msg)
    h'.userSessions = h.userSessions ∧
    ∃ cs : List ((Env × Message) × Nat), cs.Perm (recentChats es env msg.fromUserId) ∧
      toSession own h' = toSession own h ++ cs.map (pulled env) := by
  intro h'
  obtain ⟨pool, cs, hcs, hstep⟩ : ∃ (pool : List Conn) (cs : List ((Env × Message) × Nat)), _ ∧ h' = _ :=
    hrec.pull hsize hcount hty henv
  rw [hstep]
  refine ⟨rfl, cs, hcs, ?_⟩
  rw [toSession_post, toSession_withDb, List.filterMap_map, ← List.filterMap_eq_map]
  exact congrArg _ (List.filterMap_congr fun c _ => if_pos rfl)

end Frames

/-! ## The page along a run -/

namespace Setting

/-- The frame `login` sends. -/
def loginFrame (g : Setting) : Message := ⟨g.userId, -1, .LOGIN, 0, g.password, g.now⟩

/-- The frame the page sends when it handles the response. -/
def pullFrame (g : Setting) (now : Int64) : Message := ⟨g.userId, -1, .PULL_MESSAGE, 1, str " ", now⟩

end Setting

section Delivered

variable {g : Setting} {reply : Message} {ms : List Message} {ds : List (Int64 × Message)}

/-- The page after the response to the login. -/
theorem step_reply (now : Int64) (hreply : IsSuccess reply) :
    (g.page.step (now, reply)).sent = [g.loginFrame, g.pullFrame now] ∧
      (g.page.step (now, reply)).messageCache = fun _ => [] := by
  obtain ⟨hty, v, hv, hstatus⟩ := hreply
  rw [Page.step_success hty hv hstatus]
  exact ⟨rfl, rfl⟩

/-- The page has sent the request for the history exactly if it has handled the response. -/
theorem exec_page_sent (hreply : IsSuccess reply) (hms : ∀ m ∈ ms, m.messageType = .TEXT)
    (hds : ds.map Prod.snd = (reply :: ms).take ds.length) :
    ds = [] ∧ (exec Page.step g.page ds).sent = [g.loginFrame] ∨
    ds ≠ [] ∧ ∃ now, (exec Page.step g.page ds).sent = [g.loginFrame, g.pullFrame now] := by
  cases ds with
  | nil => exact Or.inl ⟨rfl, rfl⟩
  | cons d ds =>
      rw [List.map_cons, List.length_cons, List.take_succ_cons, List.cons.injEq] at hds
      refine Or.inr ⟨List.cons_ne_nil _ _, d.1, ?_⟩
      have htexts : ∀ d ∈ ds, d.2.messageType = .TEXT := by
        intro d hd
        refine hms _ (List.mem_of_mem_take (i := ds.length) ?_)
        rw [← hds.2]
        exact List.mem_map_of_mem hd
      rw [exec_cons, Page.sent_exec htexts, ← (step_reply d.1 hreply).1, ← hds.1]

end Delivered

/-! ## The stages of a run -/

section Stages

variable [OpenSSL]

/-- How far the login has come. -/
inductive Stage (g : Setting) (es : List Event) (h : BusinessHandler) (served : Nat) : Prop
  /-- The login has not been handled. -/
  | asked (hserved : served = 0) (hto : toSession g.own h = toSession g.own g.handler)
      (hfree : h.userSessions.lookup g.userId = none)
      (husers : h.db.tables.users = g.handler.db.tables.users)
  /-- The login has been handled, but not the request for the history. -/
  | loggedIn {pre mid : List Event} {envL : Env} {reply : Message} (hserved : served = 1)
      (hes : es = pre ++ .serve envL :: mid) (hlogin : g.HandledAt 0 pre envL)
      (hreply : IsSuccess reply)
      (hto : toSession g.own h = toSession g.own g.handler ++ reply :: (texts mid).map live)
      (hregistered : h.userSessions.lookup g.userId = some g.own)
  /-- Both have been handled. -/
  | pulled {pre mid post : List Event} {envL envP : Env} {reply : Message}
      {cs : List ((Env × Message) × Nat)} (hserved : served = 2)
      (hes : es = pre ++ .serve envL :: (mid ++ .serve envP :: post))
      (hlogin : g.HandledAt 0 pre envL) (hpull : g.HandledAt 1 (pre ++ .serve envL :: mid) envP)
      (hreply : IsSuccess reply)
      (hcs : cs.Perm (g.history pre mid envP))
      (hto : toSession g.own h = toSession g.own g.handler ++
        reply :: ((texts mid).map live ++ cs.map (pulled envP) ++ (texts post).map live))
      (hregistered : h.userSessions.lookup g.userId = some g.own)

variable {g : Setting} {es : List Event} {h h' : BusinessHandler} {served : Nat} {e : Event}

/-- An event that is not a chat frame and changes nothing at the server keeps the stage. -/
theorem Stage.skip (hstage : Stage g es h served) (he : texts [e] = []) :
    Stage g (es ++ [e]) h served := by
  cases hstage with
  | asked hserved hto hfree husers => exact .asked hserved hto hfree husers
  | @loggedIn pre mid envL reply hserved hes hlogin hreply hto hregistered =>
      have hes' : es ++ [e] = pre ++ .serve envL :: (mid ++ [e]) := by
        rw [hes, List.append_assoc]
        rfl
      refine .loggedIn hserved hes' hlogin hreply ?_ hregistered
      rw [texts_append, he, List.append_nil]
      exact hto
  | @pulled pre mid post envL envP reply cs hserved hes hlogin hpull hreply hcs hto hregistered =>
      have hes' : es ++ [e] = pre ++ .serve envL :: (mid ++ .serve envP :: (post ++ [e])) := by
        rw [hes]
        simp
      refine .pulled hserved hes' hlogin hpull hreply hcs ?_ hregistered
      rw [texts_append, he, List.append_nil]
      exact hto

/-- A chat frame of another client keeps the stage, and is relayed once the user is logged in. -/
theorem Stage.text {env : Env} {s : SessionId} {msg : Message} (hstage : Stage g es h served)
    (hfits : g.Fits (.text env s msg)) (hready : h.db.Ready) :
    Stage g (es ++ [.text env s msg]) (h.step (.frame env s msg)) served := by
  obtain ⟨henv, hty, hto', -⟩ := hfits
  have htexts : texts [.text env s msg] = [(env, msg)] := rfl
  cases hstage with
  | asked hserved hto hfree husers =>
      obtain ⟨hregistry, husers', hposted⟩ := toSession_text g.own (s := s) hty henv hready
        (Or.inl (hto' ▸ hfree))
      rw [hto', hfree, if_pos rfl, List.append_nil] at hposted
      exact .asked hserved (hposted.trans hto) (by rw [hregistry]; exact hfree)
        (husers'.trans husers)
  | @loggedIn pre mid envL reply hserved hes hlogin hreply hto hregistered =>
      obtain ⟨hregistry, -, hposted⟩ := toSession_text g.own (s := s) hty henv hready
        (Or.inr (hto' ▸ hregistered))
      rw [hto', hregistered, if_neg (by simp)] at hposted
      have hes' : es ++ [.text env s msg] = pre ++ .serve envL :: (mid ++ [.text env s msg]) := by
        rw [hes, List.append_assoc]
        rfl
      refine .loggedIn hserved hes' hlogin hreply ?_ (by rw [hregistry]; exact hregistered)
      rw [hposted, hto, texts_append, htexts]
      simp
  | @pulled pre mid post envL envP reply cs hserved hes hlogin hpull hreply hcs hto hregistered =>
      obtain ⟨hregistry, -, hposted⟩ := toSession_text g.own (s := s) hty henv hready
        (Or.inr (hto' ▸ hregistered))
      rw [hto', hregistered, if_neg (by simp)] at hposted
      have hes' : es ++ [.text env s msg] =
          pre ++ .serve envL :: (mid ++ .serve envP :: (post ++ [.text env s msg])) := by
        rw [hes]
        simp
      refine .pulled hserved hes' hlogin hpull hreply hcs ?_ (by rw [hregistry]; exact hregistered)
      rw [hposted, hto, texts_append, htexts]
      simp

/-- What has been enqueued since the login form was submitted. -/
theorem Stage.enqueued (hstage : Stage g es h served) :
    ∃ new, toSession g.own h = toSession g.own g.handler ++ new ∧
      (served = 0 ∧ new = [] ∨ (served = 1 ∨ served = 2) ∧ ∃ reply ms, new = reply :: ms ∧
        IsSuccess reply ∧ ∀ m ∈ ms, m.messageType = .TEXT) := by
  have hlive : ∀ ts : List (Env × Message), ∀ m ∈ ts.map live, m.messageType = .TEXT := by
    intro ts m hm
    obtain ⟨c, -, rfl⟩ := List.mem_map.mp hm
    rfl
  cases hstage with
  | asked hserved hto hfree husers =>
      exact ⟨[], hto.trans (List.append_nil _).symm, Or.inl ⟨hserved, rfl⟩⟩
  | loggedIn hserved hes hlogin hreply hto hregistered =>
      exact ⟨_, hto, Or.inr ⟨Or.inl hserved, _, _, rfl, hreply, hlive _⟩⟩
  | pulled hserved hes hlogin hpull hreply hcs hto hregistered =>
      refine ⟨_, hto, Or.inr ⟨Or.inr hserved, _, _, rfl, hreply, ?_⟩⟩
      intro m hm
      rcases List.mem_append.mp hm with hm | hm
      · rcases List.mem_append.mp hm with hm | hm
        · exact hlive _ m hm
        · obtain ⟨c, -, rfl⟩ := List.mem_map.mp hm
          rfl
      · exact hlive _ m hm

/-- The page has handled the first of the messages enqueued to it since, in their order. -/
def Follows (g : Setting) (h : BusinessHandler) (p : Page) (delivered : Nat) : Prop :=
  ∃ new ds, toSession g.own h = toSession g.own g.handler ++ new ∧ p = exec Page.step g.page ds ∧
    delivered = (toSession g.own g.handler).length + ds.length ∧
    ds.map Prod.snd = new.take ds.length

variable {p : Page} {delivered : Nat}

/-- Messages are only added. -/
theorem Follows.frame {env : Env} {s : SessionId} {msg : Message} (hok : h.db.tables.Ok)
    (hfollows : Follows g h p delivered) : Follows g (h.step (.frame env s msg)) p delivered := by
  obtain ⟨new, ds, hnew, hp, hdelivered, hds⟩ := hfollows
  obtain ⟨ps, hps⟩ := (BusinessHandler.step_did hok.users : BusinessHandler.Did env s msg h _).posted
  have hmore : ∃ more, toSession g.own (h.step (.frame env s msg)) = toSession g.own h ++ more := by
    unfold toSession
    rw [hps, List.filterMap_append]
    exact ⟨_, rfl⟩
  obtain ⟨more, hmore⟩ := hmore
  refine ⟨new ++ more, ds, ?_, hp, hdelivered, ?_⟩
  · rw [hmore, hnew, List.append_assoc]
  · -- what the page has handled is a prefix of the old messages already
    have hlength : ds.length ≤ new.length := by
      have := congrArg List.length hds
      rw [List.length_map, List.length_take] at this
      omega
    rw [List.take_append_of_le_length hlength]
    exact hds

/-- The page handles the next message. -/
theorem Follows.deliver {now : Int64} {msg : Message} (hfollows : Follows g h p delivered)
    (hmsg : (toSession g.own h)[delivered]? = some msg) :
    Follows g h (p.step (now, msg)) (delivered + 1) := by
  obtain ⟨new, ds, hnew, rfl, rfl, hds⟩ := hfollows
  refine ⟨new, ds ++ [(now, msg)], hnew, (exec_concat _ _ _ _).symm, ?_, ?_⟩
  · rw [List.length_append]
    rfl
  · rw [hnew, List.getElem?_append_right (Nat.le_add_right _ _), Nat.add_sub_cancel_left] at hmsg
    rw [List.map_append, hds, List.length_append, List.length_singleton, List.take_add_one, hmsg]
    rfl

/-- What the page has sent at each stage. -/
theorem Stage.sent (hstage : Stage g es h served) (hfollows : Follows g h p delivered) :
    p.sent = [g.loginFrame] ∨
      (served = 1 ∨ served = 2) ∧ ∃ now, p.sent = [g.loginFrame, g.pullFrame now] := by
  obtain ⟨new, ds, hnew, rfl, -, hds⟩ := hfollows
  obtain ⟨new', hnew', hcases⟩ := hstage.enqueued
  obtain rfl : new = new' := List.append_cancel_left (hnew.symm.trans hnew')
  rcases hcases with ⟨-, rfl⟩ | ⟨hserved, reply, ms, rfl, hreply, hms⟩
  · rw [List.take_nil, List.map_eq_nil_iff] at hds
    rw [hds]
    exact Or.inl rfl
  · rcases exec_page_sent (g := g) hreply hms hds with ⟨-, hsent⟩ | ⟨-, hsent⟩
    · exact Or.inl hsent
    · exact Or.inr ⟨hserved, hsent⟩

/-- The next frame of the page is the login before the login, and the request for the history
between the two. -/
theorem Stage.next_frame {msg : Message} (hstage : Stage g es h served)
    (hfollows : Follows g h p delivered) (hmsg : p.sent[served]? = some msg) :
    served = 0 ∧ msg = g.loginFrame ∨ served = 1 ∧ ∃ now, msg = g.pullFrame now := by
  rcases hstage.sent hfollows with hsent | ⟨hserved, now, hsent⟩
  · rw [hsent] at hmsg
    match served, hmsg with
    | 0, hmsg => exact Or.inl ⟨rfl, (Option.some.inj hmsg).symm⟩
  · rw [hsent] at hmsg
    rcases hserved with rfl | rfl
    · exact Or.inr ⟨rfl, now, (Option.some.inj hmsg).symm⟩
    · cases hmsg

/-- The login is handled. -/
theorem Stage.login {env : Env} (hok : g.Ok) (hstage : Stage g es h 0) (hlogin : g.HandledAt 0 es env)
    (henv : env.SqlSucceeds) (hready : h.db.Ready)
    (hnames : ∀ r ∈ h.db.tables.users.rows, ValidUtf8 r.username) :
    Stage g (es ++ [.serve env]) (h.step (.frame env g.own g.loginFrame)) 1 := by
  cases hstage with
  | asked hserved hto hfree husers =>
      have hty : g.loginFrame.messageType = .LOGIN := rfl
      obtain ⟨hregistered, reply, hreply, hposted⟩ := toSession_login g.own hty henv hready hnames hfree
        (by rw [husers]; exact hok.account)
      exact .loggedIn rfl rfl hlogin hreply (by rw [hposted, hto]; rfl) hregistered
  | loggedIn hserved => cases hserved
  | pulled hserved => cases hserved

/-- The request for the history is handled. -/
theorem Stage.pull {env : Env} {now : Int64} {events : List BusinessHandler.Event} (hok : g.Ok)
    (hstage : Stage g es h 1) (hpull : g.HandledAt 1 es env) (henv : env.SqlSucceeds)
    (hrec : BusinessHandler.RecordsChats g.pool_size events h)
    (hchats : chats events = chats g.before ++ texts es) (hcount : (chats events).length < 2 ^ 31) :
    Stage g (es ++ [.serve env]) (h.step (.frame env g.own (g.pullFrame now))) 2 := by
  cases hstage with
  | asked hserved => cases hserved
  | @loggedIn pre mid envL reply hserved hes hlogin hreply hto hregistered =>
      have hty : (g.pullFrame now).messageType = .PULL_MESSAGE := rfl
      obtain ⟨hregistry, cs, hcs, hposted⟩ := toSession_pull g.own hrec hok.size hcount hty henv
      have htexts : texts es = texts pre ++ texts mid := by
        rw [hes, texts_append, texts_cons_serve]
      rw [recentChats, hchats, htexts, ← List.append_assoc] at hcs
      rw [hes] at hpull
      have hes' : es ++ [.serve env] = pre ++ .serve envL :: (mid ++ .serve env :: []) := by
        rw [hes]
        simp
      refine .pulled rfl hes' hlogin hpull hreply hcs ?_ (by rw [hregistry]; exact hregistered)
      rw [hposted, hto]
      simp [texts]
  | pulled hserved => cases hserved

/-! ## Runs -/

/-- What holds after every run. -/
structure Stands (g : Setting) (es : List Event) : Prop where
  history : ∃ hist : List BusinessHandler.Event, (∀ e ∈ hist, e.Succeeds) ∧ chats hist = texts es ∧
    (g.after es).handler = exec BusinessHandler.step (.start .empty g.pool_size) (g.before ++ hist)
  follows : Follows g (g.after es).handler (g.after es).page (g.after es).delivered
  stage : Stage g es (g.after es).handler (g.after es).served

theorem after_concat (g : Setting) (es : List Event) (e : Event) :
    g.after (es ++ [e]) = step g.own (g.after es) e := exec_concat ..

/-- The server's side of it: the pool is whole, and the messages table is the list of the chats. -/
theorem Stands.records (hok : g.Ok) (hstands : Stands g es)
    (hcount : (chats g.before).length + (texts es).length < 2 ^ 31) :
    ∃ hist : List BusinessHandler.Event, (∀ e ∈ hist, e.Succeeds) ∧ chats hist = texts es ∧
      (g.after es).handler =
        exec BusinessHandler.step (.start .empty g.pool_size) (g.before ++ hist) ∧
      BusinessHandler.RecordsChats g.pool_size (g.before ++ hist) (g.after es).handler ∧
      (g.after es).handler.db.tables.Ok := by
  obtain ⟨hist, hsucceeds, hchats, hhandler⟩ := hstands.history
  refine ⟨hist, hsucceeds, hchats, hhandler, ?_, ?_⟩
  · rw [hhandler]
    refine BusinessHandler.messages_are_chats hok.size ?_ ?_
    · intro e he
      exact (List.mem_append.mp he).elim (hok.succeeds e) (hsucceeds e)
    · rw [chats_append, hchats, List.length_append]
      exact hcount
  · rw [hhandler]
    exact BusinessHandler.exec_ok _ _

/-- A frame that the server handles. -/
theorem Stands.frame {env : Env} {s : SessionId} {msg : Message} {served' : Nat} (hok : g.Ok)
    (hstands : Stands g es) (hcount : (chats g.before).length + (texts es).length < 2 ^ 31)
    (henv : env.SqlSucceeds) (hchat : chats [.frame env s msg] = texts [e])
    (hafter : g.after (es ++ [e]) = { g.after es with
      handler := (g.after es).handler.step (.frame env s msg), served := served' })
    (hstage : Stage g (es ++ [e]) ((g.after es).handler.step (.frame env s msg)) served') :
    Stands g (es ++ [e]) := by
  obtain ⟨hist, hsucceeds, hchats, hhandler, -, htables⟩ := hstands.records hok hcount
  refine ⟨⟨hist ++ [.frame env s msg], ?_, ?_, ?_⟩, ?_, ?_⟩
  · intro e he
    rcases List.mem_append.mp he with he | he
    · exact hsucceeds e he
    · rw [List.mem_singleton.mp he]
      exact henv
  · rw [chats_append, hchats, hchat, texts_append]
  · rw [hafter, ← List.append_assoc, exec_concat, ← hhandler]
  · rw [hafter]
    exact hstands.follows.frame htables
  · rw [hafter]
    exact hstage

/-- A frame of the page that the server handles. -/
theorem Stands.serve (hok : g.Ok) (hstands : Stands g es)
    (hcount : (chats g.before).length + (texts es).length < 2 ^ 31) {env : Env} {msg : Message}
    (henv : env.SqlSucceeds) (hmsg : (g.after es).page.sent[(g.after es).served]? = some msg) :
    Stands g (es ++ [.serve env]) := by
  have hafter : g.after (es ++ [.serve env]) = { g.after es with
      handler := (g.after es).handler.step (.frame env g.own msg)
      served := (g.after es).served + 1 } := by
    rw [after_concat, step, hmsg]
  have hserved : (g.after (es ++ [.serve env])).served = (g.after es).served + 1 := by rw [hafter]
  obtain ⟨hist, -, hchats, -, hrec, htables⟩ := hstands.records hok hcount
  have hchats' : chats (g.before ++ hist) = chats g.before ++ texts es := by
    rw [chats_append, hchats]
  have hcount' : (chats (g.before ++ hist)).length < 2 ^ 31 := by
    rw [hchats', List.length_append]
    exact hcount
  have hready := BusinessHandler.ready_of_idle hok.size hrec.idle
  have hstage := hstands.stage
  rcases hstage.next_frame hstands.follows hmsg with ⟨hzero, rfl⟩ | ⟨hone, now, rfl⟩
  · refine hstands.frame hok hcount henv rfl hafter ?_
    rw [hzero] at hstage hserved ⊢
    exact hstage.login hok ⟨hzero, hserved⟩ henv hready htables.users
  · refine hstands.frame hok hcount henv rfl hafter ?_
    rw [hone] at hstage hserved ⊢
    exact hstage.pull hok ⟨hone, hserved⟩ henv hrec hchats' hcount'

/-- Every event that fits keeps what holds. -/
theorem Stands.step (hok : g.Ok) (hstands : Stands g es) (hfits : g.Fits e)
    (hcount : (chats g.before).length + (texts es).length < 2 ^ 31) : Stands g (es ++ [e]) := by
  have hskip : g.after (es ++ [e]) = g.after es → texts [e] = [] → Stands g (es ++ [e]) := by
    intro hsame he
    obtain ⟨hist, hsucceeds, hchats, hhandler⟩ := hstands.history
    refine ⟨⟨hist, hsucceeds, ?_, by rw [hsame]; exact hhandler⟩, by rw [hsame]; exact hstands.follows,
      by rw [hsame]; exact hstands.stage.skip he⟩
    rw [texts_append, he, List.append_nil]
    exact hchats
  cases e with
  | text env s msg =>
      obtain ⟨hist, -, -, -, hrec, -⟩ := hstands.records hok hcount
      have hischat : BusinessHandler.IsChat msg := Or.inl hfits.2.1
      have hchat : chats [.frame env s msg] = texts [.text env s msg] := by
        show [BusinessHandler.Event.frame env s msg].filterMap BusinessHandler.Event.chat = _
        rw [List.filterMap_cons, BusinessHandler.Event.chat, if_pos hischat]
        rfl
      exact hstands.frame hok hcount hfits.1 hchat (after_concat ..)
        (hstands.stage.text hfits (BusinessHandler.ready_of_idle hok.size hrec.idle))
  | serve env =>
      cases hmsg : (g.after es).page.sent[(g.after es).served]? with
      | some msg => exact hstands.serve hok hcount hfits hmsg
      | none =>
          refine hskip ?_ rfl
          rw [after_concat, Arrival.step, hmsg]
  | deliver now =>
      cases hmsg : (toSession g.own (g.after es).handler)[(g.after es).delivered]? with
      | none =>
          refine hskip ?_ rfl
          rw [after_concat, Arrival.step, hmsg]
      | some msg =>
          have hafter : g.after (es ++ [.deliver now]) = { g.after es with
              page := (g.after es).page.step (now, msg)
              delivered := (g.after es).delivered + 1 } := by
            rw [after_concat, Arrival.step, hmsg]
          obtain ⟨hist, hsucceeds, hchats, hhandler⟩ := hstands.history
          refine ⟨⟨hist, hsucceeds, ?_, ?_⟩, ?_, ?_⟩
          · rw [texts_append, hchats]
            exact (List.append_nil _).symm
          · rw [hafter]
            exact hhandler
          · rw [hafter]
            exact hstands.follows.deliver hmsg
          · rw [hafter]
            exact hstands.stage.skip rfl

/-- **`stands`** — the description holds after every run of events that fit. -/
theorem stands (hok : g.Ok) (hfits : ∀ e ∈ es, g.Fits e)
    (hcount : (chats g.before).length + (texts es).length < 2 ^ 31) : Stands g es := by
  induction es using List.reverseRecOn with
  | nil =>
      refine ⟨⟨[], fun e he => (nomatch he), rfl, ?_⟩, ?_, ?_⟩
      · rw [List.append_nil]
        rfl
      · exact ⟨[], [], (List.append_nil _).symm, rfl, rfl, rfl⟩
      · exact .asked rfl rfl hok.free rfl
  | append_singleton es e ih =>
      have hless : (chats g.before).length + (texts es).length < 2 ^ 31 := by
        rw [texts_append, List.length_append] at hcount
        omega
      exact (ih (fun f hf => hfits f (List.mem_append_left _ hf)) hless).step hok
        (hfits e (by simp)) hless

end Stages

/-! ## Counting the copies -/

/-- The entry of the copy of a chat frame that is relayed. -/
def liveEntry (c : Env × Message) : Entry :=
  Page.copy { c.2 with messageId := c.2.messageId + 1, timestamp := c.1.now }

/-- The entry of the copy of a numbered chat frame that the history contains. -/
def pulledEntry (env : Env) (c : (Env × Message) × Nat) : Entry :=
  Page.copy { c.1.2 with messageId := Int32.ofInt c.2, timestamp := env.now }

/-- The history returns what was sent, as readable content has no NUL. -/
theorem pulled_content (env : Env) {c : (Env × Message) × Nat} (h : Page.Readable c.1.2) :
    (pulled env c).content = c.1.2.content := by
  obtain ⟨v, hv, -⟩ := h
  exact cstr_of_noNul (noNul_of_parse hv)

theorem copy_pulled {env : Env} {c : (Env × Message) × Nat} (h : Page.Readable c.1.2) :
    Page.copy (pulled env c) = pulledEntry env c := by
  have hcontent := pulled_content env h
  unfold Page.copy
  rw [hcontent]
  rfl

/-- The numbers of a list appended to another begin after it. -/
theorem filter_zipIdx_append {α : Type} (l l' : List α) (P : α × Nat → Bool) :
    ((l ++ l').zipIdx 1).filter (fun c => decide (l.length < c.2) && P c) =
      (l'.zipIdx (l.length + 1)).filter P := by
  rw [List.zipIdx_append, List.filter_append, Nat.add_comm 1]
  have hfirst : (l.zipIdx 1).filter (fun c => decide (l.length < c.2) && P c) = [] := by
    rw [List.filter_eq_nil_iff]
    intro c hc hmark
    have hid := (List.mem_zipIdx hc).2.1
    rw [Bool.and_eq_true, decide_eq_true_eq] at hmark
    omega
  rw [hfirst, List.nil_append]
  refine List.filter_congr fun c hc => ?_
  have hid := (List.mem_zipIdx hc).1
  rw [decide_eq_true (by omega), Bool.true_and]

theorem mem_texts {es : List Event} {c : Env × Message} (hc : c ∈ texts es) :
    ∃ s, Event.text c.1 s c.2 ∈ es := by
  obtain ⟨e, he, hec⟩ := List.mem_filterMap.mp hc
  cases e with
  | text env s msg =>
      rw [← Option.some.inj hec]
      exact ⟨s, he⟩
  | serve env => cases hec
  | deliver now => cases hec

section Counting

variable {g : Setting} {es : List Event}

/-- The chat frames of a run are readable, and to the user. -/
theorem readable_texts (hfits : ∀ e ∈ es, g.Fits e) {c : Env × Message} (hc : c ∈ texts es) :
    c.2.toUserId = g.userId ∧ Page.Readable c.2 := by
  obtain ⟨s, hs⟩ := mem_texts hc
  exact ⟨(hfits _ hs).2.2.1, (hfits _ hs).2.2.2⟩

/-- What comes after the response to the login, with a mark on what was handled in the run. -/
def arriving (g : Setting) (mid post : List Event) (envP : Env) (cs : List ((Env × Message) × Nat)) :
    List (Message × Bool) :=
  (texts mid).map (fun c => (live c, true)) ++
    cs.map (fun c => (pulled envP c, decide ((chats g.before).length < c.2))) ++
    (texts post).map fun c => (live c, true)

theorem map_fst_arriving (mid post : List Event) (envP : Env) (cs : List ((Env × Message) × Nat)) :
    (arriving g mid post envP cs).map Prod.fst =
      (texts mid).map live ++ cs.map (pulled envP) ++ (texts post).map live := by
  simp only [arriving, List.map_append, List.map_map, Function.comp_def]

/-- The history is made of the frames before the run, and of those in it, which are numbered from
there on. -/
theorem mem_history {pre mid : List Event} {envP : Env} {c : (Env × Message) × Nat}
    (hc : c ∈ g.history pre mid envP) :
    (c.1.2.fromUserId = g.userId ∨ c.1.2.toUserId = g.userId) ∧ 1 ≤ c.2 ∧
      ((chats g.before).length < c.2 → c.1 ∈ texts pre ++ texts mid) := by
  obtain ⟨hmem, hcond⟩ := List.mem_filter.mp hc
  refine ⟨(of_decide_eq_true hcond).1, (List.mem_zipIdx hmem).1, ?_⟩
  intro hlate
  rw [List.append_assoc] at hmem
  have hlater : c ∈ (texts pre ++ texts mid).zipIdx ((chats g.before).length + 1) := by
    have hfilter := filter_zipIdx_append (chats g.before) (texts pre ++ texts mid) fun _ => true
    rw [List.filter_true] at hfilter
    rw [← hfilter]
    exact List.mem_filter.mpr ⟨hmem, by simp [hlate]⟩
  obtain ⟨-, -, hget⟩ := List.mem_zipIdx hlater
  rw [hget]
  exact List.getElem_mem _

/-- The copies of a user's frames among the relayed ones. -/
theorem copies_live (ts : List (Env × Message)) (b : Int32) :
    ((ts.map fun c => (live c, true)).filter fun m => m.2 ∧ m.1.fromUserId = b).map
        (fun m => Page.copy m.1) =
      (ts.filter fun c => c.2.fromUserId = b).map liveEntry := by
  rw [List.filter_map, List.map_map]
  refine congrArg _ (List.filter_congr fun c _ => ?_)
  simp [live, Message.new]

/-- The frames of a run in the history of the user they go to. -/
theorem filter_history {pre mid : List Event} {envP : Env} {b : Int32}
    (hto : ∀ c ∈ texts pre ++ texts mid, c.2.toUserId = g.userId) :
    (g.history pre mid envP).filter
        (fun c => (chats g.before).length < c.2 ∧ c.1.2.fromUserId = b) =
      ((texts pre ++ texts mid).zipIdx ((chats g.before).length + 1)).filter fun c =>
        c.1.2.fromUserId = b ∧ envP.now.toInt - 86400 ≤ c.1.1.now.toInt := by
  rw [Setting.history, List.filter_filter, List.append_assoc]
  have hrun : ∀ c ∈ (chats g.before ++ (texts pre ++ texts mid)).zipIdx 1,
      (decide ((chats g.before).length < c.2 ∧ c.1.2.fromUserId = b) &&
        decide ((c.1.2.fromUserId = g.userId ∨ c.1.2.toUserId = g.userId) ∧
          envP.now.toInt - 86400 ≤ c.1.1.now.toInt)) =
      (decide ((chats g.before).length < c.2) &&
        decide ((c.1.2.fromUserId = g.userId ∨ c.1.2.toUserId = g.userId) ∧
          c.1.2.fromUserId = b ∧ envP.now.toInt - 86400 ≤ c.1.1.now.toInt)) := by
    intro c _
    rw [← Bool.decide_and, ← Bool.decide_and, decide_eq_decide]
    tauto
  rw [List.filter_congr hrun, filter_zipIdx_append]
  -- the frames of the run are all to the user
  refine List.filter_congr fun c hc => ?_
  obtain ⟨-, -, hget⟩ := List.mem_zipIdx hc
  have hto' : c.1.2.toUserId = g.userId := by
    rw [hget]
    exact hto _ (List.getElem_mem _)
  rw [decide_eq_decide]
  exact and_iff_right (Or.inr hto')

section Parts

variable {pre mid post : List Event} {envP : Env} {cs : List ((Env × Message) × Nat)} {b : Int32}

/-- An arriving message is a relayed copy or one of the history. -/
theorem mem_arriving {m : Message × Bool} (hm : m ∈ arriving g mid post envP cs) :
    (∃ c ∈ texts mid ++ texts post, m = (live c, true)) ∨
      ∃ c ∈ cs, m = (pulled envP c, decide ((chats g.before).length < c.2)) := by
  unfold arriving at hm
  rcases List.mem_append.mp hm with hm | hm
  · rcases List.mem_append.mp hm with hm | hm
    · obtain ⟨c, hc, rfl⟩ := List.mem_map.mp hm
      exact Or.inl ⟨c, List.mem_append_left _ hc, rfl⟩
    · obtain ⟨c, hc, rfl⟩ := List.mem_map.mp hm
      exact Or.inr ⟨c, hc, rfl⟩
  · obtain ⟨c, hc, rfl⟩ := List.mem_map.mp hm
    exact Or.inl ⟨c, List.mem_append_right _ hc, rfl⟩

theorem arriving_text : ∀ m ∈ arriving g mid post envP cs, m.1.messageType = .TEXT := by
  intro m hm
  rcases mem_arriving hm with ⟨c, -, rfl⟩ | ⟨c, -, rfl⟩
  · rfl
  · rfl

/-- The messages that are not marked are older than the run. -/
theorem arriving_unmarked {m : Message × Bool} (hm : m ∈ arriving g mid post envP cs)
    (hmark : m.2 = false) :
    ∃ c ∈ cs, c.2 ≤ (chats g.before).length ∧ m.1.messageId = Int32.ofInt c.2 := by
  rcases mem_arriving hm with ⟨c, -, rfl⟩ | ⟨c, hc, rfl⟩
  · cases hmark
  · exact ⟨c, hc, Nat.le_of_not_lt (of_decide_eq_false hmark), rfl⟩

variable (hreadable : ∀ c ∈ texts pre ++ texts mid ++ texts post,
    c.2.toUserId = g.userId ∧ Page.Readable c.2) (hcs : cs.Perm (g.history pre mid envP))

include hreadable hcs

/-- What another user sends arrives as a message to the user of the page. -/
theorem arriving_to (hb : b ≠ g.userId) :
    ∀ m ∈ arriving g mid post envP cs, m.1.fromUserId = b → m.1.toUserId ≠ b := by
  intro m hm hfrom
  rcases mem_arriving hm with ⟨c, hc, rfl⟩ | ⟨c, hc, rfl⟩
  · have hto : c.2.toUserId = g.userId := by
      refine (hreadable c ?_).1
      rw [List.append_assoc]
      exact List.mem_append_right _ hc
    exact fun h => hb (h.symm.trans hto)
  · rcases (mem_history (hcs.mem_iff.mp hc)).1 with hself | hto
    · exact absurd (hfrom.symm.trans hself) hb
    · exact fun h => hb (h.symm.trans hto)

/-- The marked messages are readable. -/
theorem arriving_readable :
    ∀ m ∈ arriving g mid post envP cs, m.2 = true → Page.Readable m.1 := by
  intro m hm hmark
  rcases mem_arriving hm with ⟨c, hc, rfl⟩ | ⟨c, hc, rfl⟩
  · refine (hreadable c ?_).2
    rw [List.append_assoc]
    exact List.mem_append_right _ hc
  · have hrun := (mem_history (hcs.mem_iff.mp hc)).2.2 (of_decide_eq_true hmark)
    have hc' := (hreadable c.1 (List.mem_append_left _ hrun)).2
    obtain ⟨v, hv, hnull⟩ := hc'
    exact ⟨v, by rw [pulled_content envP ⟨v, hv, hnull⟩]; exact hv, hnull⟩

/-- The copies of a user's frames among those of the history that are of the run. -/
theorem copies_pulled :
    (((cs.map fun c => (pulled envP c, decide ((chats g.before).length < c.2))).filter
        fun m => m.2 ∧ m.1.fromUserId = b).map fun m => Page.copy m.1).Perm
      ((((texts pre ++ texts mid).zipIdx ((chats g.before).length + 1)).filter fun c =>
        c.1.2.fromUserId = b ∧ envP.now.toInt - 86400 ≤ c.1.1.now.toInt).map (pulledEntry envP)) := by
  rw [List.filter_map, List.map_map]
  have hsame : cs.filter ((fun m : Message × Bool => decide (m.2 ∧ m.1.fromUserId = b)) ∘
        fun c => (pulled envP c, decide ((chats g.before).length < c.2))) =
      cs.filter fun c => (chats g.before).length < c.2 ∧ c.1.2.fromUserId = b :=
    List.filter_congr fun c _ => by simp [pulled, Database.replay, Message.new]
  have hcopies : (cs.filter fun c => (chats g.before).length < c.2 ∧ c.1.2.fromUserId = b).map
        ((fun m : Message × Bool => Page.copy m.1) ∘
          fun c => (pulled envP c, decide ((chats g.before).length < c.2))) =
      (cs.filter fun c => (chats g.before).length < c.2 ∧ c.1.2.fromUserId = b).map
        (pulledEntry envP) := by
    refine List.map_congr_left fun c hc => ?_
    obtain ⟨hmem, hlate⟩ := List.mem_filter.mp hc
    have hrun := (mem_history (hcs.mem_iff.mp hmem)).2.2 (of_decide_eq_true hlate).1
    exact copy_pulled (hreadable _ (List.mem_append_left _ hrun)).2
  rw [hsame, hcopies, ← filter_history fun c hc => (hreadable c (List.mem_append_left _ hc)).1]
  exact (hcs.filter _).map _

/-- **`copies_arriving`** — the copies of a user's marked messages. -/
theorem copies_arriving :
    (((arriving g mid post envP cs).filter fun m => m.2 ∧ m.1.fromUserId = b).map
        fun m => Page.copy m.1).Perm
      ((((texts pre ++ texts mid).zipIdx ((chats g.before).length + 1)).filter fun c =>
          c.1.2.fromUserId = b ∧ envP.now.toInt - 86400 ≤ c.1.1.now.toInt).map (pulledEntry envP) ++
        ((texts mid ++ texts post).filter fun c => c.2.fromUserId = b).map liveEntry) := by
  unfold arriving
  rw [List.filter_append, List.filter_append, List.map_append, List.map_append, copies_live,
    copies_live, List.filter_append, List.map_append, ← List.append_assoc]
  have hpulled := copies_pulled (b := b) hreadable hcs
  exact (List.perm_append_comm.trans (hpulled.append_right _)).append_right _

end Parts

variable [OpenSSL]

/-- A world at rest has been through both frames of the page, and the page has handled everything. -/
theorem Stands.quiet (hstands : Stands g es) (hquiet : Quiet g.own (g.after es)) :
    (g.after es).served = 2 ∧ ∃ ds, (g.after es).page = exec Page.step g.page ds ∧
      toSession g.own (g.after es).handler = toSession g.own g.handler ++ ds.map Prod.snd ∧
      ∃ now, (g.after es).page.sent = [g.loginFrame, g.pullFrame now] := by
  obtain ⟨hserved, hdelivered⟩ := hquiet
  obtain ⟨new, ds, hnew, hpage, hlength, hds⟩ := hstands.follows
  obtain ⟨new', hnew', hcases⟩ := hstands.stage.enqueued
  obtain rfl : new = new' := List.append_cancel_left (hnew.symm.trans hnew')
  have hall : ds.length = new.length := by
    rw [hdelivered, hnew, List.length_append] at hlength
    omega
  have hsent := hstands.stage.sent hstands.follows
  rcases hcases with ⟨hzero, -⟩ | ⟨hone, reply, ms, rfl, hreply, hms⟩
  · -- the login cannot still be waiting, as the page has sent it
    rcases hsent with hsent | ⟨hone, -⟩
    · rw [hserved, hsent] at hzero
      cases hzero
    · omega
  · rcases exec_page_sent (g := g) hreply hms hds with ⟨hnil, -⟩ | ⟨-, now, hsent⟩
    · rw [hnil] at hall
      cases hall
    · rw [← hpage] at hsent
      refine ⟨by rw [hserved, hsent]; rfl, ds, hpage, ?_, now, hsent⟩
      rw [hds, hall, List.take_length, hnew]

/-- **`arrivals`** — once everything sent either way has been handled, the page's two frames have
been handled, and under every other user it has filed, of the messages of that user to its own: one
copy of each message handled before the request for the history that was at most a day old then, one
copy of each message handled after the login, and copies of messages stored before the run. -/
theorem arrivals (g : Setting) (hok : g.Ok) (es : List Event) (hfits : ∀ e ∈ es, g.Fits e)
    (hcount : (chats g.before).length + (texts es).length < 2 ^ 31)
    (hquiet : Quiet g.own (g.after es)) :
    ∃ pre mid post envL envP, es = pre ++ .serve envL :: (mid ++ .serve envP :: post) ∧
      g.HandledAt 0 pre envL ∧ g.HandledAt 1 (pre ++ .serve envL :: mid) envP ∧
      (∃ now, (g.after es).page.sent = [g.loginFrame, g.pullFrame now]) ∧
      ∀ b, b ≠ g.userId → ∃ earlier, ((g.after es).page.fromUser b).Perm
          ((((texts pre ++ texts mid).zipIdx ((chats g.before).length + 1)).filter fun c =>
              c.1.2.fromUserId = b ∧ envP.now.toInt - 86400 ≤ c.1.1.now.toInt).map
                (pulledEntry envP) ++
            ((texts mid ++ texts post).filter fun c => c.2.fromUserId = b).map liveEntry ++
            earlier) ∧
        ∀ e ∈ earlier, ∃ id : Nat, 1 ≤ id ∧ id ≤ (chats g.before).length ∧
          e.messageId = Int32.ofInt id := by
  have hstands := stands hok hfits hcount
  obtain ⟨hserved, ds, hpage, hto, hsent⟩ := hstands.quiet hquiet
  have hstage := hstands.stage
  rw [hserved] at hstage
  cases hstage with
  | asked h0 => cases h0
  | loggedIn h1 => cases h1
  | @pulled pre mid post envL envP reply cs _ hes hlogin hpull hreply hcs hto' _ =>
      refine ⟨pre, mid, post, envL, envP, hes, hlogin, hpull, hsent, ?_⟩
      intro b hb
      have htexts : texts es = texts pre ++ texts mid ++ texts post := by
        rw [hes, texts_append, texts_cons_serve, texts_append, texts_cons_serve, List.append_assoc]
      have hreadable : ∀ c ∈ texts pre ++ texts mid ++ texts post,
          c.2.toUserId = g.userId ∧ Page.Readable c.2 := by
        rw [← htexts]
        exact fun c hc => readable_texts hfits hc
      -- the first message the page handled is the response, which files nothing
      rw [hto, List.append_cancel_left_eq, ← map_fst_arriving (g := g)] at hto'
      obtain ⟨⟨now, answer⟩, ds, rfl, rfl, hds⟩ := List.map_eq_cons_iff.mp hto'
      obtain ⟨others, hperm, hothers⟩ := Page.fromUser_exec (p := g.page.step (now, answer)) (b := b) hds
        arriving_text (arriving_to hreadable hcs hb) (arriving_readable hreadable hcs)
      refine ⟨others, ?_, ?_⟩
      · rw [hpage, exec_cons]
        refine hperm.trans ?_
        have hempty : (g.page.step (now, answer)).fromUser b = [] := by
          rw [Page.fromUser, (step_reply now hreply).2]
          rfl
        rw [hempty, List.nil_append]
        exact (copies_arriving hreadable hcs).append_right _
      · intro e he
        obtain ⟨m, hm, hmark, hid⟩ := hothers e he
        obtain ⟨c, hc, hearlier, hmid⟩ := arriving_unmarked hm hmark
        exact ⟨c.2, (mem_history (hcs.mem_iff.mp hc)).2.1, hearlier, hid.trans hmid⟩

end Counting

/-! ## Three logins -/

/-- "bob" has signed up, and is about to log in on session 4. -/
def bob : Setting := ⟨1, [.frame .plain 3 BusinessHandler.signUpFrame], 4, 111111111, str "pw", 0⟩

/-- A chat frame of user 1 to bob. -/
def textToBob (content : String) : Event := .text .plain 5 ⟨1, 111111111, .TEXT, 7, str content, 0⟩

/-- The message arrives after the history has been read. -/
def writtenAfter : List Event :=
  [.serve .plain, .deliver 0, .serve .plain, textToBob "\x7b\"text\":\"hi\"\x7d", .deliver 0]

/-- The message arrives between the login and the reading of the history. -/
def writtenBetween (content : String) : List Event :=
  [.serve .plain, .deliver 0, textToBob content, .serve .plain, .deliver 0, .deliver 0]

/-- The page after a run. -/
def bobsPage (es : List Event) : World :=
  letI := OpenSSL.pw
  bob.after es

/-- Bob is filed one copy of a message that is handled when the history has been read. -/
theorem arrivals_after :
    letI := OpenSSL.pw
    ∃ pre mid post envL envP earlier, writtenAfter = pre ++ .serve envL :: (mid ++ .serve envP :: post) ∧
      bob.HandledAt 0 pre envL ∧ bob.HandledAt 1 (pre ++ .serve envL :: mid) envP ∧
      ((bobsPage writtenAfter).page.fromUser 1).Perm
        ((((texts pre ++ texts mid).zipIdx 1).filter fun c =>
            c.1.2.fromUserId = 1 ∧ envP.now.toInt - 86400 ≤ c.1.1.now.toInt).map (pulledEntry envP) ++
          ((texts mid ++ texts post).filter fun c => c.2.fromUserId = 1).map liveEntry ++ earlier) := by
  let _ := OpenSSL.pw
  have hok : bob.Ok := by
    refine ⟨Nat.le_refl 1, ?_, by decide +kernel, ?_⟩
    · intro e he
      rw [List.mem_singleton.mp he]
      exact Env.plain_sqlSucceeds
    · refine ⟨.new .plain (str "pw") (str "bob"), by decide +kernel, ?_⟩
      unfold Database.Authenticates
      decide +kernel
  have hreadable : Page.Readable ⟨1, 111111111, .TEXT, 7, str "\x7b\"text\":\"hi\"\x7d", 0⟩ :=
    Page.readable_iff.mpr (by decide +kernel)
  have hfits : ∀ e ∈ writtenAfter, bob.Fits e := by
    simp only [writtenAfter, List.forall_mem_cons]
    exact ⟨Env.plain_sqlSucceeds, trivial, Env.plain_sqlSucceeds,
      ⟨Env.plain_sqlSucceeds, rfl, rfl, hreadable⟩, trivial, fun e he => (nomatch he)⟩
  have hquiet : Quiet bob.own (bob.after writtenAfter) := by
    unfold Quiet
    decide +kernel
  obtain ⟨pre, mid, post, envL, envP, hes, hlogin, hpull, -, hfiled⟩ :=
    arrivals bob hok writtenAfter hfits (by decide) hquiet
  obtain ⟨earlier, hperm, -⟩ := hfiled 1 (by decide)
  exact ⟨pre, mid, post, envL, envP, earlier, hes, hlogin, hpull, hperm⟩

/-- A message handled between the two is filed twice. One whose content is `null` is not filed. -/
theorem arrivals_between :
    (Quiet 4 (bobsPage (writtenBetween "\x7b\"text\":\"hi\"\x7d")) ∧
      ((bobsPage (writtenBetween "\x7b\"text\":\"hi\"\x7d")).page.fromUser 1).length = 2) ∧
    Quiet 4 (bobsPage (writtenBetween "null")) ∧ (JSON.parse (str "null")).isSome ∧
      (bobsPage (writtenBetween "null")).page.fromUser 1 = [] := by
  have hlength : ((bobsPage (writtenBetween "null")).page.fromUser 1).length = 0 := by decide +kernel
  refine ⟨⟨?_, by decide +kernel⟩, ?_, by decide +kernel, List.length_eq_zero_iff.mp hlength⟩
  · unfold Quiet
    decide +kernel
  · unfold Quiet
    decide +kernel

end Arrival

end TinyIM
