/-
# Consent — whether a friendship was agreed to by the user who was asked

A pending request is two rows that do not say which of the two users asked. The answer to a request is
matched against the rows of both directions, so an accepting answer of the user who asked has the same
effect as one of the user who was asked. `consent_iff` says when every friendship of a run was agreed
to by a user the other one had asked: exactly if no accepting answer that changes a row comes from
somebody the other has not asked, unless the two have agreed before.

The history of a run is the list of the events handed to the handler object, over the rebuilds of the
server.
-/
import TinyIM.Teardown
import TinyIM.Attribution
import TinyIM.FriendHistory

namespace TinyIM

open TinyIM.Lib TinyIM.Lib.Text TinyIM.Lib.Table TinyIM.Lib.Runs TinyIM.Lib.Stops

namespace BusinessHandler

/-! ## Asking and agreeing -/

/-- The event is an `ADD_FRIEND` from `y` to `x`. -/
def Invites (y x : Int32) : Event → Prop
  | .frame _ _ msg => msg.messageType = .ADD_FRIEND ∧ msg.fromUserId = y ∧ msg.toUserId = x
  | .closed _ => False

/-- The event is an accepting answer from `x` to `y`. -/
def Agrees (x y : Int32) : Event → Prop
  | .frame _ _ msg => msg.messageType = .FRIEND_REQUEST_RESPONSE ∧ msg.content = str "accept" ∧
      msg.fromUserId = x ∧ msg.toUserId = y
  | .closed _ => False

instance (y x : Int32) : ∀ e, Decidable (Invites y x e)
  | .frame _ _ msg => inferInstanceAs (Decidable (msg.messageType = .ADD_FRIEND ∧ _))
  | .closed _ => inferInstanceAs (Decidable False)

instance (x y : Int32) : ∀ e, Decidable (Agrees x y e)
  | .frame _ _ msg => inferInstanceAs (Decidable (msg.messageType = .FRIEND_REQUEST_RESPONSE ∧ _))
  | .closed _ => inferInstanceAs (Decidable False)

/-- `y` has asked `x`. -/
def Invited (y x : Int32) (es : List Event) : Prop := ∃ e ∈ es, Invites y x e

/-- `x` has accepted after being asked by `y`. -/
def AgreedBy (x y : Int32) (es : List Event) : Prop :=
  Since (fun pre e => Agrees x y e ∧ Invited y x pre) (fun _ => False) es

/-- One of the two has accepted after being asked by the other. -/
def Consented (a b : Int32) (es : List Event) : Prop := AgreedBy a b es ∨ AgreedBy b a es

/-- Every accepted row belongs to two users of whom one has accepted after being asked by the other. -/
def AllConsented (es : List Event) (h : BusinessHandler) : Prop :=
  ∀ r ∈ h.db.tables.friends.rows, r.status = 1 →
    ∃ a b : Int32, r.key = (to_string a, to_string b) ∧ Consented a b es

/-- There is a connection for the first statement of the frame, and the statement is carried out. -/
def Executes (env : Env) (h : BusinessHandler) : Prop :=
  h.db.Ready ∧ (env.sql 0).prepare = true ∧ (env.sql 0).step 0 = true

instance (env : Env) (h : BusinessHandler) : Decidable (Executes env h) :=
  inferInstanceAs (Decidable (¬_ ∧ _))

/-- An accepting answer that is carried out and finds a row of the two users comes from one whom the
other has asked, or the two have agreed before. -/
def MayAccept (es : List Event) (h : BusinessHandler) : Event → Prop
  | .frame env _ msg => msg.messageType = .FRIEND_REQUEST_RESPONSE → msg.content = str "accept" →
      Executes env h → (∃ r ∈ h.db.tables.friends.rows, Between msg r) →
        Consented msg.fromUserId msg.toUserId es ∨ Invited msg.toUserId msg.fromUserId es
  | .closed _ => True

/-- The sender of the frame is logged in on the session it came on, where that is asked for. -/
def Truthful (h : BusinessHandler) : Event → Prop
  | .frame _ session msg => msg.messageType = .SIGN_UP ∨ msg.messageType = .LOGIN ∨
      h.userSessions.lookup msg.fromUserId = some session
  | .closed _ => True

instance (h : BusinessHandler) : ∀ e, Decidable (Truthful h e)
  | .frame _ _ msg => inferInstanceAs (Decidable (msg.messageType = .SIGN_UP ∨ _))
  | .closed _ => inferInstanceAs (Decidable True)

section Histories

variable {es : List Event} {e : Event} {h : BusinessHandler} {a b x y : Int32}

theorem AllConsented.consented (hall : AllConsented es h)
    (hr : pairRow a b 1 ∈ h.db.tables.friends.rows) : Consented a b es := by
  obtain ⟨x, y, hkey, hconsented⟩ := hall _ hr rfl
  obtain ⟨hx, hy⟩ := Prod.mk.inj hkey
  rw [to_string_inj.mp hx, to_string_inj.mp hy]
  exact hconsented

theorem Consented.symm (h : Consented a b es) : Consented b a es := Or.symm h

theorem agreedBy_concat :
    AgreedBy x y (es ++ [e]) ↔ (Agrees x y e ∧ Invited y x es) ∨ AgreedBy x y es := by
  have hconcat : AgreedBy x y (es ++ [e]) ↔
      (Agrees x y e ∧ Invited y x es) ∨ AgreedBy x y es ∧ ¬False := since_concat
  rw [not_false_eq_true, and_true] at hconcat
  exact hconcat

theorem Consented.concat (h : Consented a b es) (e : Event) : Consented a b (es ++ [e]) := by
  rcases h with h | h
  · exact Or.inl (agreedBy_concat.mpr (Or.inr h))
  · exact Or.inr (agreedBy_concat.mpr (Or.inr h))

/-- Only an answer between the two makes them agreed. -/
theorem consented_of_concat (h : Consented a b (es ++ [e])) : Consented a b es ∨
    (Agrees a b e ∧ Invited b a es) ∨ (Agrees b a e ∧ Invited a b es) := by
  rcases h with h | h
  · rcases agreedBy_concat.mp h with h | h
    · exact Or.inr (Or.inl h)
    · exact Or.inl (Or.inl h)
  · rcases agreedBy_concat.mp h with h | h
    · exact Or.inr (Or.inr h)
    · exact Or.inl (Or.inr h)

/-- Two users of whom one has neither asked nor accepted the other have not agreed. -/
theorem not_consented (hagrees : ∀ e ∈ es, ¬Agrees x y e) (hinvites : ∀ e ∈ es, ¬Invites x y e) :
    ¬Consented x y es := by
  rintro (⟨pre, e, rest, rfl, hagree, -⟩ | ⟨pre, e, rest, rfl, ⟨-, e', he', hinvite⟩, -⟩)
  · exact hagrees e (by simp) hagree.1
  · exact hinvites e' (List.mem_append_left _ he') hinvite

end Histories

/-! ## One event -/

section Steps

variable [OpenSSL] {env : Env} {session : SessionId} {msg : Message} {h : BusinessHandler}
  {es : List Event}

/-- **`step_accept`** — an accepting answer updates the rows of both directions, whoever sent it. -/
theorem step_accept (hty : msg.messageType = .FRIEND_REQUEST_RESPONSE)
    (hcontent : msg.content = str "accept") : (step h (.frame env session msg)).db.tables =
      if Executes env h then h.db.tables.accepted msg.toUserId msg.fromUserId else h.db.tables := by
  have hnot : msg.content ≠ str "reject" := by
    rw [hcontent]
    decide
  refine (ends_stateOf (P := fun h' : BusinessHandler => h'.db.tables = _)).mp ?_
  unfold handleIncomingMessage
  rw [hty]
  show Ends (ackAddFriend env msg) h _ _
  unfold ackAddFriend
  rw [if_neg hnot, if_pos hcontent]
  simp only [ends_bind, ends_callDb, ends_pure]
  unfold Database.ackAddFriend Database.writing
  rw [Database.ends_withStatement]
  refine ⟨?_, ?_⟩
  · intro hempty
    rw [if_neg fun hexec => hexec.1 hempty]
  · intro conn rest hpool
    have hready : h.db.Ready := by
      rw [Database.Ready, hpool]
      exact List.cons_ne_nil _ _
    refine ⟨?_, fun hprepare => ⟨?_, fun e he => by cases he⟩⟩
    · intro hprepare
      rw [if_neg fun hexec => by rw [hexec.2.1] at hprepare; cases hprepare]
    · intro a t hrun
      cases hstep : (env.sql 0).step 0 with
      | false =>
          rw [Database.stepDone, hstep, if_neg Bool.false_ne_true] at hrun
          cases hrun
          rw [if_neg fun hexec => by rw [hexec.2.2] at hstep; cases hstep]
      | true =>
          rw [Database.stepDone, hstep, if_pos rfl] at hrun
          simp only [cstr_to_string] at hrun
          cases hrun
          rw [if_pos ⟨hready, hprepare, hstep⟩]
          rfl

/-- A login changes no table. -/
theorem step_login_tables (hty : msg.messageType = .LOGIN) :
    (step h (.frame env session msg)).db.tables = h.db.tables := by
  refine (ends_stateOf (P := fun h' : BusinessHandler => h'.db.tables = h.db.tables)).mp ?_
  rw [handle_login hty]
  unfold loginUser
  simp only [ends_bind, ends_callDb]
  refine Database.ends_authenticateUser_any rfl ?_ ?_
  · intro pool
    rw [ends_bind, ends_orThrow]
    exact ⟨fun _ _ => rfl, fun _ _ => rfl⟩
  · intro r pool _ _
    simp only [ends_bind, ends_findSession, ends_ite, ends_modify]
    rw [ends_orThrow, ends_orThrow]
    exact ⟨fun _ => ⟨fun _ _ => rfl, fun _ _ => rfl⟩, fun _ => ⟨fun _ _ => rfl, fun _ _ => rfl⟩⟩

/-- An accepted row was accepted before, or it is one of those the frame, an accepting answer that is
carried out, is about. -/
theorem accepted_row_step {r : FriendRow}
    (hr : r ∈ (step h (.frame env session msg)).db.tables.friends.rows) (hstatus : r.status = 1) :
    r ∈ h.db.tables.friends.rows ∨ (msg.messageType = .FRIEND_REQUEST_RESPONSE ∧
      msg.content = str "accept" ∧ Executes env h ∧ Between msg r ∧
        ∃ r' ∈ h.db.tables.friends.rows, r'.key = r.key) := by
  by_cases hlogin : msg.messageType = .LOGIN
  · rw [step_login_tables hlogin] at hr
    exact Or.inl hr
  · have hdid : Did env session msg h (step h (.frame env session msg)) :=
      step_did_of fun hty => absurd hty hlogin
    rcases hdid.actsForSender.friends r hr with
      hold | ⟨hbetween, ⟨-, hpending⟩ | ⟨⟨hty, hcontent⟩, hfound⟩⟩
    · exact Or.inl hold
    · rw [hpending] at hstatus
      cases hstatus
    · by_cases hexec : Executes env h
      · exact Or.inr ⟨hty, hcontent, hexec, hbetween, hfound⟩
      · rw [step_accept hty hcontent, if_neg hexec] at hr
        exact Or.inl hr

/-- **`allConsented_step`** — one event keeps all friendships agreed to exactly if it may accept. -/
theorem allConsented_step (hes : AllConsented es h) (e : Event) :
    AllConsented (es ++ [e]) (step h e) ↔ MayAccept es h e := by
  cases e with
  | closed session =>
      refine iff_of_true ?_ trivial
      intro r hr hstatus
      obtain ⟨a, b, hkey, hconsented⟩ := hes r hr hstatus
      exact ⟨a, b, hkey, hconsented.concat _⟩
  | frame env session msg =>
      constructor
      · rintro hall hty hcontent hexec ⟨r, hr, hbetween⟩
        -- the row the answer finds is accepted now, so the two have agreed
        have hrow : { r with status := 1 } ∈
            (step h (.frame env session msg)).db.tables.friends.rows := by
          rw [step_accept hty hcontent, if_pos hexec, Tables.mem_accepted]
          refine ⟨r, hr, (if_pos ?_).symm⟩
          rcases hbetween with hkey | hkey
          · exact Or.inr ⟨(Prod.mk.inj hkey).2, (Prod.mk.inj hkey).1⟩
          · exact Or.inl (Prod.mk.inj hkey)
        obtain ⟨a, b, hkey, hconsented⟩ := hall _ hrow rfl
        have hpair : Consented msg.fromUserId msg.toUserId (es ++ [.frame env session msg]) := by
          rcases hbetween with hk | hk
          · obtain ⟨ha, hb⟩ := Prod.mk.inj (hkey.symm.trans hk)
            rw [← to_string_inj.mp ha, ← to_string_inj.mp hb]
            exact hconsented
          · obtain ⟨ha, hb⟩ := Prod.mk.inj (hkey.symm.trans hk)
            rw [← to_string_inj.mp ha, ← to_string_inj.mp hb]
            exact hconsented.symm
        -- either they had agreed before, or this answer is what made them agree
        rcases consented_of_concat hpair with h | ⟨-, hinvited⟩ | ⟨⟨-, -, hfrom, hto⟩, hinvited⟩
        · exact Or.inl h
        · exact Or.inr hinvited
        · rw [hfrom, hto] at hinvited ⊢
          exact Or.inr hinvited
      · intro hmay r hr hstatus
        rcases accepted_row_step hr hstatus with hold | ⟨hty, hcontent, hexec, hbetween, r', hr', hkey⟩
        · obtain ⟨a, b, hkey, hconsented⟩ := hes r hold hstatus
          exact ⟨a, b, hkey, hconsented.concat _⟩
        · have hpair : Consented msg.fromUserId msg.toUserId (es ++ [.frame env session msg]) := by
            rcases hmay hty hcontent hexec ⟨r', hr', hbetween.of_key hkey⟩ with h | hinvited
            · exact h.concat _
            · exact Or.inl (agreedBy_concat.mpr (Or.inl ⟨⟨hty, hcontent, rfl, rfl⟩, hinvited⟩))
          rcases hbetween with hk | hk
          · exact ⟨_, _, hk, hpair⟩
          · exact ⟨_, _, hk, hpair.symm⟩

end Steps

end BusinessHandler

/-! ## Runs of the process -/

namespace Server

open BusinessHandler (AllConsented MayAccept Truthful)

section Runs

variable [OpenSSL] {pool_size : Nat} {v : Server}

/-- An event of the server hands the handler object nothing and changes no table, or it hands it one
event. -/
theorem step_handles (pool_size : Nat) (v : Server) (e : Event) : emit v e = [] ∧
      (step pool_size v e).handler.db.tables = v.handler.db.tables ∨
    ∃ f, emit v e = [f] ∧ (step pool_size v e).handler = v.handler.step f := by
  have hemit : emit v e = [] ∨ ∃ f, emit v e = [f] := by
    unfold emit
    by_cases henabled : v.Enabled e
    · rw [if_pos henabled]
      cases e with
      | read env s json_data =>
          dsimp only
          cases Message.fromJson env json_data with
          | ok msg => exact Or.inr ⟨_, rfl⟩
          | error x => exact Or.inl rfl
      | closed s => exact Or.inr ⟨_, rfl⟩
      | _ => exact Or.inl rfl
    · rw [if_neg henabled]
      exact Or.inl rfl
  by_cases hrestart : e = .restart
  · subst hrestart
    refine Or.inl ⟨?_, ?_⟩
    · unfold emit
      split <;> rfl
    · rw [step]
      split <;> rfl
  · rw [handler_step e hrestart]
    rcases hemit with hemit | ⟨f, hemit⟩
    · rw [hemit]
      exact Or.inl ⟨rfl, rfl⟩
    · rw [hemit]
      exact Or.inr ⟨f, rfl, rfl⟩

/-- **`consent_iff`** — in every run of the process from an empty friends table, whatever the SQLite
calls return and over rebuilds of the server, every friendship there ever is was agreed to by a user
the other had asked exactly if every event may accept where it is handled. -/
theorem consent_iff (tables : Tables) (hempty : tables.friends.rows = []) (pool_size : Nat)
    (next : SessionId) (es : List Event) :
    let v₀ := built (.start tables pool_size) next
    (∀ pre, pre <+: es → AllConsented (emitted (step pool_size) emit v₀ pre)
      (exec (step pool_size) v₀ pre).handler) ↔
    ∀ pre e, pre ++ [e] <+: es → ∀ f ∈ emit (exec (step pool_size) v₀ pre) e,
      MayAccept (emitted (step pool_size) emit v₀ pre) (exec (step pool_size) v₀ pre).handler f := by
  intro v₀
  refine history_iff (R := fun pre (v : Server) =>
      AllConsented (emitted (step pool_size) emit v₀ pre) v.handler)
    (C := fun pre v e => ∀ f ∈ emit v e,
      MayAccept (emitted (step pool_size) emit v₀ pre) v.handler f) ?_ ?_ es
  · intro r hr
    change r ∈ tables.friends.rows at hr
    rw [hempty] at hr
    cases hr
  · intro pre e hpre
    rw [emitted_concat]
    rcases step_handles pool_size (exec (step pool_size) v₀ pre) e with
      ⟨hemit, htables⟩ | ⟨f, hemit, hstep⟩
    · rw [hemit, List.append_nil]
      refine iff_of_true ?_ fun f hf => absurd hf List.not_mem_nil
      unfold AllConsented
      rw [htables]
      exact hpre
    · rw [hemit, hstep, BusinessHandler.allConsented_step hpre]
      simp only [List.mem_singleton, forall_eq]

end Runs

/-- The text of a frame from the first user to the second. -/
def toSecondUser (messageType content : String) : Bytes :=
  str ("\x7b\"fromUserId\":111111111,\"toUserId\":222222222,\"messageType\":\"" ++ messageType ++
    "\",\"messageId\":0,\"content\":\"" ++ content ++ "\",\"timestamp\":0\x7d")

/-- The first user logs in, a second one signs up; the first asks the second and accepts the request
itself. -/
def selfAccepts : List Event :=
  bobLogsIn ++
    [.accepted true, .handshaken true false,
      .read (.drawing 1) 1 (frameText "0" "SIGN_UP"
        "\x7b\\\"password\\\":\\\"pw\\\",\\\"username\\\":\\\"amy\\\"\x7d"),
      .read .plain 0 (toSecondUser "ADD_FRIEND" ""),
      .read .plain 0 (toSecondUser "FRIEND_REQUEST_RESPONSE" "accept")]

/-- The state at the end of the run. -/
def selfAccepted : Server :=
  letI := OpenSSL.pw
  exec (step 1) (start 1) selfAccepts

/-- The events the run hands to the handler object. -/
def selfAcceptedHistory : List BusinessHandler.Event :=
  letI := OpenSSL.pw
  emitted (step 1) emit (start 1) selfAccepts

/-- Every frame is sent by the user it names as its sender; the second user neither asks nor accepts
the first one; and they are friends. -/
theorem selfAccepts_run :
    letI := OpenSSL.pw
    StepsMeet (step 1) (fun v e => ∀ f ∈ emit v e, Truthful v.handler f) (start 1) selfAccepts ∧
    (∀ f ∈ selfAcceptedHistory, ¬BusinessHandler.Agrees 222222222 111111111 f ∧
      ¬BusinessHandler.Invites 222222222 111111111 f) ∧
    BusinessHandler.pairRow 111111111 222222222 1 ∈
      selfAccepted.handler.db.tables.friends.rows := by
  let _ := OpenSSL.pw
  decide +kernel

theorem selfAccepted_not_consented : ¬AllConsented selfAcceptedHistory selfAccepted.handler := by
  obtain ⟨-, hsilent, hrow⟩ := selfAccepts_run
  intro hall
  exact BusinessHandler.not_consented (fun f hf => (hsilent f hf).1) (fun f hf => (hsilent f hf).2)
    (hall.consented hrow).symm

/-- A user befriends another one who has not agreed to it. -/
theorem own_request_is_accepted :
    letI := OpenSSL.pw
    StepsMeet (step 1) (fun v e => ∀ f ∈ emit v e, Truthful v.handler f) (start 1) selfAccepts ∧
    ¬AllConsented selfAcceptedHistory selfAccepted.handler :=
  ⟨selfAccepts_run.1, selfAccepted_not_consented⟩

/-- So not every event of the run may accept. -/
theorem consent_iff_self_accepts :
    letI := OpenSSL.pw
    ¬∀ pre e, pre ++ [e] <+: selfAccepts → ∀ f ∈ emit (exec (step 1) (start 1) pre) e,
      MayAccept (emitted (step 1) emit (start 1) pre) (exec (step 1) (start 1) pre).handler f := by
  intro hmay
  let _ := OpenSSL.pw
  exact selfAccepted_not_consented
    ((consent_iff .empty rfl 1 0 selfAccepts).mpr hmay selfAccepts (List.prefix_refl _))

end Server

end TinyIM
