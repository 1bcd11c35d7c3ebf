/-
# Sendable — everything the server sends can be serialised

`Session::write` calls `toJson` outside any `try` block, and `toJson` throws exactly when the content
is not well-formed UTF-8. A content comes from a frame, from a column of the database, or from a dump
of such data; the parser accepts nothing ill-formed, a cut at a NUL keeps UTF-8 well-formed, and a
dump is well-formed by construction. `Sound` is the invariant that ties these together: over the names
and the stored messages, and over everything posted. `sent_is_serialisable` concludes it for every run of
the process, restarts included.

With the throw out of the way, the three operations on the write queue are functions of the session
alone (`write_eq`, `send_eq`, `onWritten_eq`); the modules on the write queue use them in this form.
-/
import TinyIM.Server

namespace TinyIM

open TinyIM.Lib TinyIM.Lib.Text TinyIM.Lib.Table TinyIM.Lib.Runs TinyIM.Lib.Stops

/-! ## Serialising a message -/

theorem validUtf8_messageTypeToString (t : MessageType) : ValidUtf8 (messageTypeToString t) := by
  cases t <;> exact validUtf8_utf8 _

/-- **`Message.exists_toJson`** — a message with a well-formed content can be serialised. -/
theorem Message.exists_toJson {m : Message} (h : ValidUtf8 m.content) :
    ∃ text, m.toJson = .ok text := by
  apply exists_dumpJson
  apply Json.wellFormed_mkObject
  intro p hp
  simp only [List.mem_cons, List.not_mem_nil, or_false] at hp
  rcases hp with rfl | rfl | rfl | rfl | rfl | rfl
  · exact ⟨validUtf8_utf8 _, trivial⟩
  · exact ⟨validUtf8_utf8 _, trivial⟩
  · exact ⟨validUtf8_utf8 _, validUtf8_messageTypeToString _⟩
  · exact ⟨validUtf8_utf8 _, trivial⟩
  · exact ⟨validUtf8_utf8 _, h⟩
  · exact ⟨validUtf8_utf8 _, trivial⟩

theorem validUtf8_of_dumpJson {j : Json Bytes Empty} {s : Bytes} (h : dumpJson j = .ok s) :
    ValidUtf8 s := by
  obtain ⟨t, -, rfl⟩ := Option.map_eq_some_iff.mp (dumpJson_eq_ok.mp h)
  exact validUtf8_utf8 t

theorem validUtf8_generateUUID (env : Env) : ValidUtf8 (Database.generateUUID env) := by
  have hdigit : ∀ i : Fin 9, String.utf8EncodeChar ("123456789".toList.getD i.val '0') =
      [(str "123456789").getD i.val 0] := by decide
  show ValidUtf8 (env.draw.toList.map fun i : Fin 9 => (str "123456789").getD i.val 0)
  induction env.draw.toList with
  | nil => exact validUtf8_utf8 []
  | cons i draws ih =>
      obtain ⟨cs, hcs⟩ := ih
      refine ⟨"123456789".toList.getD i.val '0' :: cs, ?_⟩
      rw [utf8_cons, hdigit i, ← hcs, List.map_cons]
      rfl

/-- The content of a stored message comes back up to its first NUL. -/
theorem content_of_messageOfRow {env : Env} {r : MessageRow} {m : Message}
    (h : Database.messageOfRow env r = .ok m) : m.content = cstr r.content := by
  unfold Database.messageOfRow at h
  simp only [except_bind_eq_ok] at h
  obtain ⟨_, -, _, -, _, -, _, -, hm⟩ := h
  rw [← Except.ok.inj hm]
  rfl

/-! ## Well-formed contents -/

namespace BusinessHandler

/-- Everything the handler keeps or has posted can be serialised. -/
structure Sound (h : BusinessHandler) : Prop where
  ok : h.db.tables.Ok
  stored : ∀ r ∈ h.db.tables.messages.rows, ValidUtf8 r.content
  posted : ∀ p ∈ h.posted, ValidUtf8 p.2.content

variable {env : Env} {session : SessionId} {msg : Message} {h h' : BusinessHandler}

/-- Posting messages with well-formed contents to a state with the same stored messages. -/
theorem Sound.post (hsound : h.Sound) {t : Tables} {pool : List Conn} (ht : t.Ok)
    (hstored : ∀ r ∈ t.messages.rows, ValidUtf8 r.content) {ps : List (SessionId × Message)}
    (hps : ∀ p ∈ ps, ValidUtf8 p.2.content) : ((h.withDb t pool).post ps).Sound where
  ok := ht
  stored := hstored
  posted := by
    intro p hp
    rcases List.mem_append.mp hp with hp | hp
    · exact hsound.posted p hp
    · exact hps p hp

theorem messages_requested {t t₁ t₂ : Tables} {a b : Int32}
    (h₁ : t₁ = t ∨ t₁ = t.requested a b) (h₂ : t₂ = t₁ ∨ t₂ = t₁.requested b a) :
    t₂.messages = t.messages := by
  rcases h₁ with rfl | rfl <;> rcases h₂ with rfl | rfl <;> rfl

/-- **`Did.sound`** — a frame with a well-formed content keeps the contents well-formed. -/
theorem Did.sound [OpenSSL] (hdid : Did env session msg h h') (hsound : h.Sound)
    (hmsg : ValidUtf8 msg.content) : h'.Sound := by
  have hok := hdid.ok hsound.ok
  have hone : ∀ {s : SessionId} {m : Message}, ValidUtf8 m.content →
      ∀ p ∈ [(s, m)], ValidUtf8 p.2.content := by
    intro s m hm p hp
    rw [List.mem_singleton.mp hp]
    exact hm
  cases hdid with
  | idle pool hty => exact ⟨hok, hsound.stored, hsound.posted⟩
  | @signedUp pool hty password username hfields t hnew =>
      obtain ⟨users, -, rfl⟩ := Option.map_eq_some_iff.mp hnew
      exact hsound.post hok hsound.stored (hone (validUtf8_generateUUID env))
  | refused pool hty hreason hcontent =>
      exact hsound.post hok hsound.stored (hone (validUtf8_of_dumpJson hcontent))
  | loggedIn pool hty hfree hr hauth hcontent =>
      exact Sound.post (h := h.register (h.userSessions.insert msg.fromUserId session))
        ⟨hsound.ok, hsound.stored, hsound.posted⟩ hok hsound.stored
        (hone (validUtf8_of_dumpJson hcontent))
  | loggedOut hty => exact ⟨hok, hsound.stored, hsound.posted⟩
  | @requested pool hty hne t₁ t₂ h₁ h₂ ps hps =>
      refine hsound.post hok ?_ ?_
      · show ∀ r ∈ t₂.messages.rows, ValidUtf8 r.content
        rw [messages_requested h₁ h₂]
        exact hsound.stored
      · rcases hps with rfl | ⟨other, -, r, hr, -, rfl⟩
        · exact fun p hp => absurd hp List.not_mem_nil
        · exact hone (validUtf8_cstr (hsound.ok.users r hr))
  | rejected pool hty hcontent => exact ⟨hok, hsound.stored, hsound.posted⟩
  | accepted pool hty hcontent => exact ⟨hok, hsound.stored, hsound.posted⟩
  | chatted pool hty ht =>
      refine hsound.post hok ?_ ?_
      · rcases ht with rfl | rfl
        · exact hsound.stored
        · intro r hr
          rcases List.mem_append.mp hr with hr | hr
          · exact hsound.stored r hr
          · -- the stored content is the frame's, cut at its first NUL
            rw [List.mem_singleton.mp hr]
            exact validUtf8_cstr hmsg
      · intro p hp
        obtain ⟨other, -, rfl⟩ := List.mem_map.mp hp
        exact hmsg
  | broadcast hty =>
      refine ⟨hok, hsound.stored, ?_⟩
      intro p hp
      rcases List.mem_append.mp hp with hp | hp
      · exact hsound.posted p hp
      · obtain ⟨it, -, rfl⟩ := List.mem_map.mp hp
        exact hmsg
  | listed pool hty hcontent =>
      exact hsound.post hok hsound.stored (hone (validUtf8_of_dumpJson hcontent))
  | pulled pool hty hms =>
      refine hsound.post hok hsound.stored ?_
      intro p hp
      obtain ⟨m, hm, rfl⟩ := List.mem_map.mp hp
      obtain ⟨r, hr, hrow⟩ := hms m hm
      rw [content_of_messageOfRow hrow]
      exact validUtf8_cstr (hsound.stored r (List.mem_of_mem_filter hr))

end BusinessHandler

/-! ## The write queue without the throw -/

namespace Session

/-- The stream is closed and no read is outstanding, so no frame can come in. -/
def Silent (x : Session) : Prop := x.is_open = false ∧ x.reading = false

/-- `write`, when the message at the front can be serialised. -/
def startWrite (x : Session) : Session :=
  match x.write_msgs with
  | [] => x
  | msg :: _ => x.asyncWrite msg

/-- The task `send` posts. -/
def sendTask (x : Session) (msg : Message) : Session :=
  if x.write_msgs = [] then (x.pushBack msg).startWrite else x.pushBack msg

/-- The handler of a write that completed. -/
def written (x : Session) : Session :=
  if x.popFront.write_msgs ≠ [] ∧ x.is_open = true then x.popFront.startWrite else x.popFront

theorem startWrite_silent {x : Session} : x.startWrite.Silent ↔ x.Silent := by
  unfold startWrite
  split <;> rfl

theorem sendTask_silent {x : Session} {msg : Message} : (x.sendTask msg).Silent ↔ x.Silent := by
  unfold sendTask
  split
  · exact startWrite_silent
  · rfl

theorem written_silent {x : Session} : x.written.Silent ↔ x.Silent := by
  unfold written
  split
  · exact startWrite_silent
  · rfl

@[simp] theorem startWrite_write_msgs (x : Session) : x.startWrite.write_msgs = x.write_msgs := by
  unfold startWrite
  split <;> rfl

@[simp] theorem sendTask_write_msgs (x : Session) (msg : Message) :
    (x.sendTask msg).write_msgs = x.write_msgs ++ [msg] := by
  unfold sendTask
  split
  · exact startWrite_write_msgs _
  · rfl

@[simp] theorem written_write_msgs (x : Session) : x.written.write_msgs = x.write_msgs.tail := by
  unfold written
  split
  · exact startWrite_write_msgs _
  · rfl

/-- The write queue is untouched, the stream is not opened, and a silent session stays silent. -/
structure Keeps (x y : Session) : Prop where
  write_msgs : y.write_msgs = x.write_msgs
  writing : y.writing = x.writing
  wire : y.wire = x.wire
  is_open : x.is_open = false → y.is_open = false
  silent : x.Silent → y.Silent

theorem Keeps.refl (x : Session) : x.Keeps x := ⟨rfl, rfl, rfl, id, id⟩

theorem Keeps.trans (x y z : Session) (h : x.Keeps y) (h' : y.Keeps z) : x.Keeps z where
  write_msgs := h'.write_msgs.trans h.write_msgs
  writing := h'.writing.trans h.writing
  wire := h'.wire.trans h.wire
  is_open := fun hx => h'.is_open (h.is_open hx)
  silent := fun hx => h'.silent (h.silent hx)

theorem keeps_readDone (x : Session) : x.Keeps x.readDone := ⟨rfl, rfl, rfl, id, fun h => ⟨h.1, rfl⟩⟩

theorem keeps_rearm (x : Session) : x.Keeps x.rearm := ⟨rfl, rfl, rfl, id, fun h => ⟨h.1, h.1⟩⟩

theorem keeps_initiateClose (x : Session) : x.Keeps x.initiateClose := by
  have hopen : x.is_open = false → (x.is_open && decide (0 < x.writing)) = false := by
    intro h
    rw [h, Bool.false_and]
  exact ⟨rfl, rfl, rfl, hopen, fun h => ⟨hopen h.1, h.2⟩⟩

end Session

/-- The messages of a list of posts that go to one session. -/
def sentTo (s : SessionId) (ps : List (SessionId × Message)) : List Message :=
  ps.filterMap fun p => if p.1 = s then some p.2 else none

section SentTo

variable {s : SessionId} (ps qs : List (SessionId × Message))

@[simp] theorem sentTo_nil : sentTo s [] = [] := rfl

@[simp] theorem sentTo_append : sentTo s (ps ++ qs) = sentTo s ps ++ sentTo s qs :=
  List.filterMap_append

theorem sentTo_singleton_self (m : Message) : sentTo s [(s, m)] = [m] := by
  simp only [sentTo, List.filterMap_cons, if_pos, List.filterMap_nil]

theorem sentTo_singleton_of_ne {t : SessionId} (h : t ≠ s) (m : Message) :
    sentTo s [(t, m)] = [] := by
  simp only [sentTo, List.filterMap_cons, if_neg h, List.filterMap_nil]

theorem mem_sentTo {ps : List (SessionId × Message)} {m : Message} :
    m ∈ sentTo s ps ↔ (s, m) ∈ ps := by
  unfold sentTo
  rw [List.mem_filterMap]
  constructor
  · rintro ⟨⟨t, m'⟩, hp, heq⟩
    split at heq
    · rename_i ht
      rw [← Option.some.inj heq, ← ht]
      exact hp
    · cases heq
  · intro hp
    exact ⟨(s, m), hp, if_pos rfl⟩

end SentTo

namespace Server

section WriteQueue

variable {v : Server} {s : SessionId}

theorem set_set (x y : Session) : (v.set s x).set s y = v.set s y := by
  simp only [set, Function.update_idem]

/-- `write` on a state whose session `s` is `x`. -/
theorem write_eq {x : Session} (hx : ∀ m ∈ x.write_msgs, ValidUtf8 m.content) :
    (v.set s x).write s = v.set s x.startWrite := by
  have hsession : (v.set s x).session s = x := by rw [set_session, if_pos rfl]
  unfold write Session.startWrite
  rw [hsession]
  cases hq : x.write_msgs with
  | nil => rfl
  | cons m rest =>
      obtain ⟨text, htext⟩ := Message.exists_toJson (hx m (by simp [hq]))
      simp only [htext]
      exact set_set _ _

theorem send_eq (hx : ∀ m ∈ (v.session s).write_msgs, ValidUtf8 m.content) {msg : Message}
    (hmsg : ValidUtf8 msg.content) : v.send s msg = v.set s ((v.session s).sendTask msg) := by
  unfold send Session.sendTask
  split
  · apply write_eq
    intro m hm
    rcases List.mem_append.mp hm with hm | hm
    · exact hx m hm
    · rw [List.mem_singleton.mp hm]
      exact hmsg
  · rfl

theorem onWritten_eq (hx : ∀ m ∈ (v.session s).write_msgs, ValidUtf8 m.content) :
    v.onWritten s = v.set s (v.session s).written := by
  unfold onWritten Session.written
  split
  · apply write_eq
    intro m hm
    exact hx m (List.mem_of_mem_tail hm)
  · rfl

end WriteQueue

/-! ## What an event does to the handler object -/

section Handler

variable [OpenSSL] {pool_size : Nat} {v : Server}

/-- **`Handled`** — what an event of the server does to the handler object. -/
inductive Handled (pool_size : Nat) (v : Server) : Event → BusinessHandler → Prop
  /-- Nothing. -/
  | kept {e : Event} : Handled pool_size v e v.handler
  /-- A frame is decoded and handled. -/
  | frame {env : Env} {s : SessionId} {json_data : Bytes} {msg : Message} {h : BusinessHandler}
      (henabled : v.Enabled (.read env s json_data)) (hmsg : Message.fromJson env json_data = .ok msg)
      (hstep : h = v.handler.step (.frame env s msg))
      (hdid : BusinessHandler.Did env s msg v.handler h) :
      Handled pool_size v (.read env s json_data) h
  /-- A close completes. -/
  | closed {s : SessionId} (henabled : v.Enabled (.closed s)) :
      Handled pool_size v (.closed s) (v.handler.handleDisconnection s)
  /-- The server is rebuilt on the same database file. -/
  | rebuilt : Handled pool_size v .restart ⟨v.handler.db.init pool_size, ∅, [], []⟩

theorem step_handled (hok : v.handler.db.tables.Ok) (e : Event) :
    Handled pool_size v e (step pool_size v e).handler := by
  by_cases henabled : v.Enabled e
  · by_cases hrestart : e = .restart
    · rw [step, if_pos henabled, hrestart]
      exact .rebuilt
    · rw [handler_step e hrestart]
      unfold emit
      rw [if_pos henabled]
      cases e with
      | read env s json_data =>
          dsimp only
          cases hmsg : Message.fromJson env json_data with
          | error x => exact .kept
          | ok msg => exact .frame henabled hmsg rfl (BusinessHandler.step_did hok.users)
      | closed s => exact .closed henabled
      | _ => exact .kept
  · rw [step, if_neg henabled]
    exact .kept

/-- Until the server is rebuilt, what was posted stays posted. -/
theorem Handled.posted {e : Event} {h : BusinessHandler} (hh : Handled pool_size v e h)
    (he : e ≠ .restart) : ∃ ps, h.posted = v.handler.posted ++ ps := by
  cases hh with
  | kept => exact ⟨[], (List.append_nil _).symm⟩
  | frame henabled hmsg hstep hdid => exact hdid.posted
  | closed henabled => exact ⟨[], (List.append_nil _).symm⟩
  | rebuilt => exact absurd rfl he

theorem Handled.sound {e : Event} {h : BusinessHandler} (hh : Handled pool_size v e h)
    (hsound : v.handler.Sound) : h.Sound := by
  cases hh with
  | kept => exact hsound
  | frame henabled hmsg hstep hdid => exact hdid.sound hsound (Message.validUtf8_of_fromJson hmsg)
  | closed henabled => exact ⟨hsound.ok, hsound.stored, hsound.posted⟩
  | rebuilt => exact ⟨hsound.ok, hsound.stored, fun p hp => absurd hp List.not_mem_nil⟩

end Handler

/-! ## What an event does to a session -/

/-- The messages to a session whose posted tasks have run. -/
def tasked (v : Server) (s : SessionId) : List Message := sentTo s (v.handler.posted.take v.ran)

/-- Everything kept, posted or queued can be serialised, and only posted tasks have run. -/
structure Sound (v : Server) : Prop where
  handler : v.handler.Sound
  queued : ∀ s, ∀ m ∈ (v.session s).write_msgs, ValidUtf8 m.content
  ran : v.ran ≤ v.handler.posted.length

/-- **`Moved`** — what a step of the server does to one session. -/
inductive Moved (v v' : Server) (t : SessionId) : Prop
  /-- The write queue is untouched. -/
  | kept (hkeeps : (v.session t).Keeps (v'.session t)) (htasked : v'.tasked t = v.tasked t)
  /-- The session begins. -/
  | begun (hnew : t = v.next) (hnext : v'.next = v.next + 1) (hbegun : v'.session t = .started)
      (htasked : v'.tasked t = v.tasked t)
  /-- A task posted by `send` runs. -/
  | sent {msg : Message} (hposted : (t, msg) ∈ v.handler.posted)
      (hsent : v'.session t = (v.session t).sendTask msg)
      (htasked : v'.tasked t = v.tasked t ++ [msg])
  /-- A write completes. -/
  | written (hwriting : 0 < (v.session t).writing) (hwritten : v'.session t = (v.session t).written)
      (htasked : v'.tasked t = v.tasked t)
  /-- A write completes with an error. -/
  | failed (hwriting : 0 < (v.session t).writing)
      (hfailed : v'.session t = (v.session t).writeFailed.finish)
      (htasked : v'.tasked t = v.tasked t)
  /-- The server is rebuilt, and the session is gone. -/
  | dropped (hdropped : v'.session t = .absent) (htasked : v'.tasked t = [])
      (hposted : v'.handler.posted = [])

section Moves

variable {v v' : Server} {t : SessionId}

theorem Moved.self : Moved v v t := .kept (.refl _) rfl

/-- A step that changes one session, and runs no task. -/
theorem moved_of_session {s : SessionId} {x : Session}
    (hsession : ∀ u, v'.session u = if u = s then x else v.session u)
    (htasked : v'.tasked t = v.tasked t)
    (hself : t = s → v'.session t = x → Moved v v' t) : Moved v v' t := by
  have ht := hsession t
  by_cases hts : t = s
  · rw [if_pos hts] at ht
    exact hself hts ht
  · rw [if_neg hts] at ht
    refine .kept ?_ htasked
    rw [ht]
    exact .refl _

theorem stop_session (s : SessionId) (x : Session) (u : SessionId) :
    ((v.set s x).stop s).session u = if u = s then x.finish else v.session u := by
  show ((v.set s x).set s ((v.set s x).session s).finish).session u = _
  rw [set_set, set_session, set_session, if_pos rfl]

/-- The next task, if there is one, is a `send` of the message posted next. -/
theorem runTask_eq (hv : v.Sound) : v.runTask = v ∨ ∃ s msg, v.ran < v.handler.posted.length ∧
    (s, msg) ∈ v.handler.posted ∧
    v.handler.posted.take (v.ran + 1) = v.handler.posted.take v.ran ++ [(s, msg)] ∧
    v.runTask = Server.set { v with ran := v.ran + 1 } s ((v.session s).sendTask msg) := by
  unfold runTask
  cases hpost : v.handler.posted[v.ran]? with
  | none => exact Or.inl rfl
  | some p =>
      obtain ⟨s, msg⟩ := p
      obtain ⟨hlt, hget⟩ := List.getElem?_eq_some_iff.mp hpost
      have hmem : (s, msg) ∈ v.handler.posted := hget ▸ List.getElem_mem hlt
      refine Or.inr ⟨s, msg, hlt, hmem, ?_, ?_⟩
      · rw [← hget, List.take_append_getElem]
      · exact send_eq (v := { v with ran := v.ran + 1 }) (hv.queued s) (hv.handler.posted _ hmem)

theorem moved_runTask (hv : v.Sound) : Moved v v.runTask t := by
  rcases runTask_eq hv with hsame | ⟨s, msg, -, hmem, htake, hset⟩
  · rw [hsame]
    exact .self
  · rw [hset]
    by_cases ht : t = s
    · rw [ht]
      refine .sent hmem ?_ ?_
      · rw [set_session, if_pos rfl]
      · show sentTo s (v.handler.posted.take (v.ran + 1)) = _
        rw [htake, sentTo_append, sentTo_singleton_self]
        rfl
    · refine .kept ?_ ?_
      · rw [set_session, if_neg ht]
        exact .refl _
      · show sentTo t (v.handler.posted.take (v.ran + 1)) = _
        rw [htake, sentTo_append, sentTo_singleton_of_ne (Ne.symm ht), List.append_nil]
        rfl

theorem start_sound (pool_size : Nat) : (start pool_size).Sound where
  handler := ⟨Tables.Ok.empty, fun _ hr => absurd hr List.not_mem_nil,
    fun _ hp => absurd hp List.not_mem_nil⟩
  queued := fun _ _ hm => absurd hm List.not_mem_nil
  ran := Nat.le_refl 0

variable [OpenSSL] {pool_size : Nat}

theorem onRead_ran {env : Env} {s : SessionId} {json_data : Bytes} :
    (v.onRead s env json_data).ran = v.ran := by
  unfold onRead
  split <;> rfl

/-- **`step_moved`** — every step does to every session one of the things `Moved` lists. -/
theorem step_moved (hv : v.Sound) (e : Event) : Moved v (step pool_size v e) t := by
  have hhandled : Handled pool_size v e (step pool_size v e).handler :=
    step_handled hv.handler.ok e
  by_cases henabled : v.Enabled e
  · rw [step, if_pos henabled] at hhandled ⊢
    cases e with
    | accepted ok => exact .kept (.refl _) rfl
    | handshaken ok closeThrows =>
        cases ok with
        | false => exact .kept (.refl _) rfl
        | true =>
            exact moved_of_session (s := v.next) (x := .started)
              (fun u => set_session (v := v) (s := v.next)) rfl
              fun ht hbegun => .begun ht rfl hbegun rfl
    | read env s json_data =>
        refine .kept (onRead_rel .refl .trans Session.keeps_readDone
          Session.keeps_initiateClose Session.keeps_rearm t) ?_
        -- the tasks that have run are among those that were posted before
        obtain ⟨ps, hps⟩ := hhandled.posted (by simp)
        change (v.onRead s env json_data).handler.posted = _ at hps
        show sentTo t ((v.onRead s env json_data).handler.posted.take (v.onRead s env json_data).ran) =
          sentTo t (v.handler.posted.take v.ran)
        rw [onRead_ran, hps, List.take_append_of_le_length hv.ran]
    | readError s =>
        refine moved_of_session (stop_session s (v.session s).readDone) rfl fun ht hended => ?_
        refine .kept ?_ rfl
        rw [hended, ht]
        exact ⟨rfl, rfl, rfl, fun _ => rfl, fun _ => ⟨rfl, rfl⟩⟩
    | task => exact moved_runTask hv
    | wrote s =>
        rw [act, onWritten_eq (hv.queued s)]
        refine moved_of_session (fun u => set_session) rfl fun ht hwritten => ?_
        subst ht
        exact .written (of_decide_eq_true henabled.2) hwritten rfl
    | writeError s =>
        refine moved_of_session (stop_session s (v.session s).writeFailed) rfl fun ht hfailed => ?_
        subst ht
        exact .failed (of_decide_eq_true henabled.2) hfailed rfl
    | closed s =>
        refine moved_of_session (fun u => set_session (v := v) (s := s)) rfl fun ht hended => ?_
        refine .kept ?_ rfl
        rw [hended, ht]
        exact ⟨rfl, rfl, rfl, fun _ => rfl, fun h => ⟨rfl, h.2⟩⟩
    | lost s =>
        refine moved_of_session (fun u => set_session (v := v) (s := s)) rfl fun ht hlost => ?_
        refine .kept ?_ rfl
        rw [hlost, ht]
        exact ⟨rfl, rfl, rfl, fun _ => rfl, fun h => ⟨rfl, h.2⟩⟩
    | restart => exact .dropped rfl rfl rfl
  · rw [step, if_neg henabled]
    exact .self

/-- The tasks that have run are among those that were posted. -/
theorem step_ran (hv : v.Sound) (e : Event) :
    (step pool_size v e).ran ≤ (step pool_size v e).handler.posted.length := by
  have hhandled : Handled pool_size v e (step pool_size v e).handler :=
    step_handled hv.handler.ok e
  by_cases henabled : v.Enabled e
  · rw [step, if_pos henabled] at hhandled ⊢
    have hran := hv.ran
    cases e with
    | accepted ok => exact hran
    | handshaken ok closeThrows => cases ok <;> exact hran
    | read env s json_data =>
        obtain ⟨ps, hps⟩ := hhandled.posted (by simp)
        rw [hps, List.length_append]
        show (v.onRead s env json_data).ran ≤ _
        rw [onRead_ran]
        omega
    | readError s => exact hran
    | task =>
        rcases runTask_eq hv with hsame | ⟨s, msg, hlt, -, -, hset⟩
        · rw [act, hsame]
          exact hran
        · rw [act, hset]
          exact hlt
    | wrote s =>
        rw [act, onWritten_eq (hv.queued s)]
        exact hran
    | writeError s => exact hran
    | closed s => exact hran
    | lost s => exact hran
    | restart => exact Nat.le_refl 0
  · rw [step, if_neg henabled]
    exact hv.ran

/-- No identity is given out twice, and an acceptor that is armed stays armed. -/
structure Advances (v v' : Server) : Prop where
  next : v.next ≤ v'.next
  accepting : v.accepting = true → v'.accepting = true

theorem step_advances (hv : v.Sound) (e : Event) : Advances v (step pool_size v e) := by
  have hsame : ∀ {w : Server}, w.next = v.next → w.accepting = v.accepting → Advances v w :=
    fun hnext haccepting => ⟨Nat.le_of_eq hnext.symm, fun h => haccepting.trans h⟩
  by_cases henabled : v.Enabled e
  · rw [step, if_pos henabled]
    cases e with
    | accepted ok => exact ⟨Nat.le_refl _, fun _ => rfl⟩
    | handshaken ok closeThrows =>
        cases ok with
        | true => exact ⟨Nat.le_succ _, id⟩
        | false => exact hsame rfl rfl
    | read env s json_data =>
        show Advances v (v.onRead s env json_data)
        unfold onRead
        split <;> exact hsame rfl rfl
    | readError s => exact hsame rfl rfl
    | task =>
        rcases runTask_eq hv with heq | ⟨s, msg, -, -, -, heq⟩
        · rw [act, heq]
          exact hsame rfl rfl
        · rw [act, heq]
          exact hsame rfl rfl
    | wrote s =>
        rw [act, onWritten_eq (hv.queued s)]
        exact hsame rfl rfl
    | writeError s => exact hsame rfl rfl
    | closed s => exact hsame rfl rfl
    | lost s => exact hsame rfl rfl
    | restart => exact ⟨Nat.le_refl _, fun _ => rfl⟩
  · rw [step, if_neg henabled]
    exact hsame rfl rfl

/-- **`step_escapes`** — only the handler of a failed handshake lets an exception out. -/
theorem step_escapes (hv : v.Sound) {e : Event} (h : (step pool_size v e).status = .escaped) :
    v.status = .escaped ∨ v.Enabled e ∧ e = .handshaken false true := by
  by_cases henabled : v.Enabled e
  · rw [step, if_pos henabled] at h
    have hsame : (act pool_size v e).status = v.status → v.status = .escaped := fun hs => hs ▸ h
    cases e with
    | accepted ok => exact Or.inl (hsame rfl)
    | handshaken ok closeThrows =>
        cases ok with
        | true => exact Or.inl (hsame rfl)
        | false =>
            cases closeThrows with
            | true => exact Or.inr ⟨henabled, rfl⟩
            | false => exact Or.inl (hsame rfl)
    | read env s json_data =>
        -- an exception in the handler is caught
        change (v.onRead s env json_data).status = _ at h
        unfold onRead at h
        split at h
        · exact Or.inl h
        · exact Or.inl h
        · cases h
    | readError s => exact Or.inl (hsame rfl)
    | task =>
        rcases runTask_eq hv with heq | ⟨s, msg, -, -, -, heq⟩
        · exact Or.inl (hsame (by rw [act, heq]))
        · exact Or.inl (hsame (by rw [act, heq, set_status]))
    | wrote s =>
        refine Or.inl (hsame ?_)
        rw [act, onWritten_eq (hv.queued s), set_status]
    | writeError s => exact Or.inl (hsame rfl)
    | closed s => exact Or.inl (hsame rfl)
    | lost s => exact Or.inl (hsame rfl)
    | restart => cases h
  · rw [step, if_neg henabled] at h
    exact Or.inl h

/-- Every event keeps everything serialisable. -/
theorem step_sound (v : Server) (e : Event) (hv : v.Sound) : (step pool_size v e).Sound := by
  have hhandled : Handled pool_size v e (step pool_size v e).handler :=
    step_handled hv.handler.ok e
  refine ⟨hhandled.sound hv.handler, ?_, ?_⟩
  · intro t m hm
    have hold := hv.queued t
    have hmoved : Moved v (step pool_size v e) t := step_moved hv e
    cases hmoved with
    | kept hkeeps htasked =>
        rw [hkeeps.write_msgs] at hm
        exact hold m hm
    | begun hnew hnext hbegun htasked =>
        rw [hbegun] at hm
        cases hm
    -- what a task adds to the queue was posted before, and everything posted is sound
    | sent hposted hsent htasked =>
        rw [hsent, Session.sendTask_write_msgs] at hm
        rcases List.mem_append.mp hm with hm | hm
        · exact hold m hm
        · rw [List.mem_singleton.mp hm]
          exact hv.handler.posted _ hposted
    | written hwriting hwritten htasked =>
        rw [hwritten, Session.written_write_msgs] at hm
        exact hold m (List.mem_of_mem_tail hm)
    | failed hwriting hfailed htasked =>
        rw [hfailed] at hm
        exact hold m hm
    | dropped hdropped htasked =>
        rw [hdropped] at hm
        cases hm
  · exact step_ran hv e

theorem exec_sound (pool_size : Nat) (es : List Event) :
    (exec (step pool_size) (start pool_size) es).Sound :=
  exec_preserves step_sound (start_sound pool_size) es

/-- **`sent_is_serialisable`** — in every run from an empty database, everything passed to
`Session::send` has a type the name tables know and a content in well-formed UTF-8, so it can be
serialised, and so can everything in a write queue; no completion handler but that of a failed
handshake lets an exception out. -/
theorem sent_is_serialisable (pool_size : Nat) (es : List Event) :
    let v := exec (step pool_size) (start pool_size) es
    (∀ p ∈ v.handler.posted,
      stringToMessageType (messageTypeToString p.2.messageType) = .ok p.2.messageType ∧
      ValidUtf8 p.2.content ∧ ∃ text, p.2.toJson = .ok text) ∧
    (∀ s, ∀ m ∈ (v.session s).write_msgs, ∃ text, m.toJson = .ok text) ∧
    ∀ e, v.status ≠ .escaped → e ≠ .handshaken false true →
      (step pool_size v e).status ≠ .escaped := by
  intro v
  have hv : v.Sound := exec_sound pool_size es
  refine ⟨?_, ?_, ?_⟩
  · intro p hp
    have hcontent := hv.handler.posted p hp
    exact ⟨stringToMessageType_messageTypeToString _, hcontent, Message.exists_toJson hcontent⟩
  · intro s m hm
    exact Message.exists_toJson (hv.queued s m hm)
  · intro e hrunning he hescaped
    rcases step_escapes hv hescaped with h | h
    · exact hrunning h
    · exact he h.2

end Moves

end Server

end TinyIM
