/-
# Registry — the login registry and its history

The registry is changed in three places: a successful login adds an entry, a logout frame removes the
entry of its user, and the completion of a close removes every entry of its session. This module
relates the registry of a state to the events that led there: user `u` is registered on session `s`
exactly if some successful login of `u` was handled on `s` and neither a logout of `u` nor a close of
`s` came after it. A login counts as successful by what the client sees of it, the reply.

A group message is relayed along the registry, entry by entry: the last part counts its copies, one
for each user of a session and not one for each session.
-/
import TinyIM.Invariants

namespace TinyIM

open TinyIM.Lib TinyIM.Lib.Text TinyIM.Lib.Table TinyIM.Lib.Runs

namespace BusinessHandler

/-! ## The loop of handleDisconnection -/

/-- The loop erases the users of the entries that belong to the session. -/
theorem lookup_foldl_erase (session : SessionId) (u : Int32) :
    ∀ (l : List (Σ _ : Int32, SessionId)) (m : Registry),
      (l.foldl (fun m it => if it.2 = session then m.erase it.1 else m) m).lookup u =
        if ∃ it ∈ l, it.1 = u ∧ it.2 = session then none else m.lookup u
  | [], m => by simp
  | it :: l, m => by
      rw [List.foldl_cons, lookup_foldl_erase session u l]
      -- the rest of the loop decides first, as it runs on what this entry left
      by_cases hrest : ∃ it ∈ l, it.1 = u ∧ it.2 = session
      · have hall : ∃ it' ∈ it :: l, it'.1 = u ∧ it'.2 = session := by
          obtain ⟨it', hit', hu⟩ := hrest
          exact ⟨it', List.mem_cons_of_mem _ hit', hu⟩
        rw [if_pos hrest, if_pos hall]
      · rw [if_neg hrest]
        by_cases hsession : it.2 = session
        · rw [if_pos hsession]
          by_cases hu : it.1 = u
          · have hall : ∃ it' ∈ it :: l, it'.1 = u ∧ it'.2 = session :=
              ⟨it, List.mem_cons_self, hu, hsession⟩
            rw [if_pos hall, hu, AList.lookup_erase]
          · have hnone : ¬∃ it' ∈ it :: l, it'.1 = u ∧ it'.2 = session := by
              rintro ⟨it', hit', hu', hs'⟩
              rcases List.mem_cons.mp hit' with rfl | hit'
              · exact hu hu'
              · exact hrest ⟨it', hit', hu', hs'⟩
            rw [if_neg hnone, AList.lookup_erase_ne (Ne.symm hu)]
        · have hnone : ¬∃ it' ∈ it :: l, it'.1 = u ∧ it'.2 = session := by
            rintro ⟨it', hit', hu', hs'⟩
            rcases List.mem_cons.mp hit' with rfl | hit'
            · exact hsession hs'
            · exact hrest ⟨it', hit', hu', hs'⟩
          rw [if_neg hsession, if_neg hnone]

/-- **`lookup_handleDisconnection`** — every entry of the session is removed, and no other. -/
theorem lookup_handleDisconnection (session : SessionId) (h : BusinessHandler) (u : Int32)
    (s : SessionId) : (handleDisconnection session h).userSessions.lookup u = some s ↔
      h.userSessions.lookup u = some s ∧ s ≠ session := by
  have hentry : (∃ it ∈ h.userSessions.entries, it.1 = u ∧ it.2 = session) ↔
      h.userSessions.lookup u = some session := by
    constructor
    · rintro ⟨⟨v, t⟩, hit, rfl, rfl⟩
      exact AList.mem_lookup_iff.mpr hit
    · intro hu
      exact ⟨⟨u, session⟩, AList.mem_lookup_iff.mp hu, rfl, rfl⟩
  show (h.userSessions.entries.foldl _ h.userSessions).lookup u = some s ↔ _
  rw [lookup_foldl_erase]
  simp only [hentry]
  split
  · rename_i hu
    constructor
    · intro hnone
      cases hnone
    · rintro ⟨hs, hne⟩
      rw [hu] at hs
      exact absurd (Option.some.inj hs).symm hne
  · rename_i hu
    constructor
    · intro hs
      refine ⟨hs, ?_⟩
      rintro rfl
      exact hu hs
    · exact fun hs => hs.1

/-! ## The history -/

section History

variable [OpenSSL]

/-- The frame is a login, and it was answered with a success. -/
def GrantsLogin (session : SessionId) (msg : Message) (h h' : BusinessHandler) : Prop :=
  msg.messageType = .LOGIN ∧ ∃ reply username, h'.posted = h.posted ++ [(session, reply)] ∧
    reply.messageType = .LOGIN_RESPONSE ∧ dumpJson (loginSuccess username) = .ok reply.content

/-- The event is a successful login of `u` on `s`. -/
def LogsIn (h : BusinessHandler) (u : Int32) (s : SessionId) : Event → Prop
  | .frame env session msg => (session = s ∧ msg.fromUserId = u) ∧
    GrantsLogin session msg h (step h (.frame env session msg))
  | .closed _ => False

/-- The event is a logout of `u`, or the completion of a close of `s`. -/
def LogsOut (u : Int32) (s : SessionId) : Event → Prop
  | .frame _ _ msg => msg.messageType = .LOGOUT ∧ msg.fromUserId = u
  | .closed session => session = s

/-- In the run from `h₀`, `u` has logged in on `s` and nothing has ended that login since. -/
def RemainsLoggedIn (h₀ : BusinessHandler) (es : List Event) (u : Int32) (s : SessionId) : Prop :=
  ∃ pre e rest, es = pre ++ e :: rest ∧ LogsIn (exec step h₀ pre) u s e ∧ ∀ f ∈ rest, ¬LogsOut u s f

variable {h₀ h h' : BusinessHandler} {env : Env} {session : SessionId} {msg : Message}
  {u : Int32} {s : SessionId}

/-- One more event: either it is the login, or the login stands and the event does not end it. -/
theorem remainsLoggedIn_concat {es : List Event} {e : Event} :
    RemainsLoggedIn h₀ (es ++ [e]) u s ↔
      LogsIn (exec step h₀ es) u s e ∨ RemainsLoggedIn h₀ es u s ∧ ¬LogsOut u s e :=
  since_concat (P := fun pre e => LogsIn (exec step h₀ pre) u s e) (Q := LogsOut u s)

/-- What a frame does to the registry: nothing, a granted login, or a logout. -/
theorem Did.registry (hdid : Did env session msg h h') :
    (msg.messageType ≠ .LOGOUT ∧ ¬GrantsLogin session msg h h' ∧ h'.userSessions = h.userSessions) ∨
    (GrantsLogin session msg h h' ∧ h.userSessions.lookup msg.fromUserId = none ∧
      h'.userSessions = h.userSessions.insert msg.fromUserId session) ∨
    (msg.messageType = .LOGOUT ∧ h'.userSessions = h.userSessions.erase msg.fromUserId) := by
  have hother : ∀ {ty : MessageType}, msg.messageType = ty → ty ≠ .LOGIN → ty ≠ .LOGOUT →
      h'.userSessions = h.userSessions →
      msg.messageType ≠ .LOGOUT ∧ ¬GrantsLogin session msg h h' ∧ h'.userSessions = h.userSessions := by
    rintro ty rfl hlogin hlogout hsame
    exact ⟨hlogout, fun hgrants => hlogin hgrants.1, hsame⟩
  cases hdid with
  | idle pool hty =>
      refine Or.inl ⟨hty.1, ?_, rfl⟩
      rintro ⟨-, reply, username, hposted, -⟩
      exact absurd hposted.symm (by simp)
  | signedUp pool hty => exact Or.inl (hother hty (by decide) (by decide) rfl)
  | refused pool hty hreason hcontent =>
      refine Or.inl ⟨by simp [hty], ?_, rfl⟩
      -- the reply of a refusal is never one of a success
      rintro ⟨-, reply, username, hposted, -, hsuccess⟩
      have hreply := (Prod.mk.inj (List.singleton_inj.mp (List.append_cancel_left hposted))).2
      rw [← hreply] at hsuccess
      exact loginFail_ne_loginSuccess hcontent hsuccess
  | loggedIn pool hty hfree hr hauth hcontent =>
      exact Or.inr (Or.inl ⟨⟨hty, _, _, rfl, rfl, hcontent⟩, hfree, rfl⟩)
  | loggedOut hty => exact Or.inr (Or.inr ⟨hty, rfl⟩)
  | requested pool hty => exact Or.inl (hother hty (by decide) (by decide) rfl)
  | rejected pool hty => exact Or.inl (hother hty (by decide) (by decide) rfl)
  | accepted pool hty => exact Or.inl (hother hty (by decide) (by decide) rfl)
  | chatted pool hty =>
      rcases hty with hty | hty
      · exact Or.inl (hother hty (by decide) (by decide) rfl)
      · exact Or.inl (hother hty (by decide) (by decide) rfl)
  | broadcast hty => exact Or.inl (hother hty (by decide) (by decide) rfl)
  | listed pool hty => exact Or.inl (hother hty (by decide) (by decide) rfl)
  | pulled pool hty => exact Or.inl (hother hty (by decide) (by decide) rfl)

/-- One event changes who is logged in as the history says. -/
theorem lookup_step (hok : h.db.tables.Ok) (e : Event) :
    (step h e).userSessions.lookup u = some s ↔
      LogsIn h u s e ∨ h.userSessions.lookup u = some s ∧ ¬LogsOut u s e := by
  cases e with
  | closed session =>
      refine (lookup_handleDisconnection session h u s).trans ?_
      rw [LogsIn, LogsOut, false_or, Ne, eq_comm (a := s)]
  | frame env session msg =>
      have hdid : Did env session msg h (step h (.frame env session msg)) := step_did hok.users
      rw [LogsIn, LogsOut]
      rcases hdid.registry with ⟨hty, hnot, hsame⟩ | ⟨hgrants, hfree, hsame⟩ | ⟨hty, hsame⟩
      · -- neither a granted login nor a logout
        rw [hsame]
        exact ⟨fun hu => Or.inr ⟨hu, fun hout => hty hout.1⟩,
          fun hu => (hu.resolve_left fun hin => hnot hin.2).1⟩
      · -- a granted login: its user was free
        rw [hsame]
        by_cases hu : u = msg.fromUserId
        · rw [hu, AList.lookup_insert, hfree, Option.some_inj]
          refine ⟨fun hs => Or.inl ⟨⟨hs, rfl⟩, hgrants⟩, ?_⟩
          rintro (⟨⟨hs, -⟩, -⟩ | ⟨hnone, -⟩)
          · exact hs
          · cases hnone
        · rw [AList.lookup_insert_ne hu]
          have hlogout : msg.messageType ≠ .LOGOUT := by simp [hgrants.1]
          refine ⟨fun hs => Or.inr ⟨hs, fun hout => hlogout hout.1⟩, ?_⟩
          rintro (⟨⟨-, hu'⟩, -⟩ | ⟨hs, -⟩)
          · exact absurd hu'.symm hu
          · exact hs
      · -- a logout
        rw [hsame]
        have hnot : ¬GrantsLogin session msg h (step h (.frame env session msg)) := by
          rintro ⟨hlogin, -⟩
          rw [hty] at hlogin
          cases hlogin
        by_cases hu : u = msg.fromUserId
        · rw [hu, AList.lookup_erase]
          refine ⟨fun hs => (nomatch hs), ?_⟩
          rintro (⟨-, hgrants⟩ | ⟨-, hstays⟩)
          · exact absurd hgrants hnot
          · exact absurd ⟨hty, rfl⟩ hstays
        · rw [AList.lookup_erase_ne hu]
          refine ⟨fun hs => Or.inr ⟨hs, fun hout => hu hout.2.symm⟩, ?_⟩
          rintro (⟨-, hgrants⟩ | ⟨hs, -⟩)
          · exact absurd hgrants hnot
          · exact hs

/-- **`registry_is_history`** — in every run, whatever the SQLite calls return, the registry holds
exactly the logins that were granted and not ended since; a login frame leaves every entry that is
there, and `handleDisconnection` removes the entries of its session and no others. -/
theorem registry_is_history (pool_size : Nat) (es : List Event) :
    let h := exec step (start .empty pool_size) es
    (∀ u s, h.userSessions.lookup u = some s ↔
      RemainsLoggedIn (start .empty pool_size) es u s) ∧
    (∀ env session msg, msg.messageType = .LOGIN → ∀ u s, h.userSessions.lookup u = some s →
      (step h (.frame env session msg)).userSessions.lookup u = some s) ∧
    ∀ session u s, (handleDisconnection session h).userSessions.lookup u = some s ↔
      h.userSessions.lookup u = some s ∧ s ≠ session := by
  refine ⟨?_, ?_, fun session u s => lookup_handleDisconnection session _ u s⟩
  · refine exec_history (R := fun es (h : BusinessHandler) => ∀ u s, h.userSessions.lookup u = some s ↔
      RemainsLoggedIn (start .empty pool_size) es u s) ?_ ?_ es
    · intro u s
      refine iff_of_false (fun hs => (nomatch hs)) ?_
      rintro ⟨pre, e, rest, hes, -⟩
      exact absurd hes (by simp)
    · intro es e hes u s
      rw [lookup_step (exec_ok pool_size es) e, hes, remainsLoggedIn_concat]
  · intro env session msg hty u s hs
    refine (lookup_step (exec_ok pool_size es) _).mpr (Or.inr ⟨hs, ?_⟩)
    rintro ⟨hlogout, -⟩
    rw [hty] at hlogout
    cases hlogout

end History

/-- A second login on another session does not take over the first one. -/
theorem registry_is_history_second_login :
    letI := OpenSSL.pw
    let h := exec step (start .empty 1) [.frame .plain 3 signUpFrame, .frame .plain 4 loginFrame]
    h.userSessions.lookup 111111111 = some 4 ∧
    (step h (.frame .plain 5 loginFrame)).userSessions.lookup 111111111 = some 4 := by
  let _ := OpenSSL.pw
  have hfirst : (exec step (start .empty 1) [.frame .plain 3 signUpFrame,
      .frame .plain 4 loginFrame]).userSessions.lookup 111111111 = some 4 := by decide +kernel
  exact ⟨hfirst, (registry_is_history 1 [.frame .plain 3 signUpFrame, .frame .plain 4 loginFrame]).2.1
    .plain 5 loginFrame rfl 111111111 4 hfirst⟩

/-! ## Group messages -/

/-- The users registered on a session. -/
def usersOn (h : BusinessHandler) (s : SessionId) : List Int32 :=
  (h.userSessions.entries.filter fun it => it.2 = s).map fun it => it.1

section Groups

variable {env : Env} {session s : SessionId} {msg : Message} {h h' : BusinessHandler} {u : Int32}

theorem mem_usersOn : u ∈ h.usersOn s ↔ h.userSessions.lookup u = some s := by
  unfold usersOn
  rw [List.mem_map]
  constructor
  · rintro ⟨⟨v, t⟩, hit, rfl⟩
    rw [List.mem_filter, decide_eq_true_eq] at hit
    obtain ⟨hit, rfl⟩ := hit
    exact AList.mem_lookup_iff.mpr hit
  · intro hu
    refine ⟨⟨u, s⟩, List.mem_filter.mpr ⟨AList.mem_lookup_iff.mp hu, ?_⟩, rfl⟩
    exact decide_eq_true rfl

theorem nodup_usersOn : (h.usersOn s).Nodup := by
  have hkeys : (h.userSessions.entries.map Sigma.fst).Nodup := h.userSessions.nodupKeys
  exact (List.filter_sublist.map Sigma.fst).nodup hkeys

theorem usersOn_eq_nil : h.usersOn s = [] ↔ ∀ u, h.userSessions.lookup u ≠ some s := by
  simp only [List.eq_nil_iff_forall_not_mem, mem_usersOn, ne_eq]

/-- One user is registered on a session exactly if every user registered there is that one. -/
theorem length_usersOn_eq_one (hu : h.userSessions.lookup u = some s) :
    (h.usersOn s).length = 1 ↔ ∀ v, h.userSessions.lookup v = some s → v = u := by
  constructor
  · intro hone v hv
    obtain ⟨x, hx⟩ := List.length_eq_one_iff.mp hone
    have hmem : ∀ w, h.userSessions.lookup w = some s → w = x := by
      intro w hw
      rw [← mem_usersOn, hx] at hw
      exact List.mem_singleton.mp hw
    exact (hmem v hv).trans (hmem u hu).symm
  · intro honly
    have hsame := List.eq_replicate_of_mem fun v hv => honly v (mem_usersOn.mp hv)
    have hle : (h.usersOn s).length ≤ 1 := by
      rw [← List.nodup_replicate (a := u), ← hsame]
      exact nodup_usersOn
    exact Nat.le_antisymm hle (List.length_pos_of_mem (mem_usersOn.mpr hu))

/-- What a group frame posts. -/
def groupCopies (env : Env) (session : SessionId) (msg : Message) (h : BusinessHandler) :
    List (SessionId × Message) :=
  ((reorder env.visit h.userSessions.entries).filter fun it => it.2 ≠ session).map fun it =>
    (it.2, .new env msg.fromUserId msg.toUserId .GROUP_CHAT msg.toUserId msg.content)

/-- Everything a group frame does. -/
theorem step_group [OpenSSL] (hty : msg.messageType = .GROUP_CHAT) :
    step h (.frame env session msg) = h.post (groupCopies env session msg h) := by
  have hdid : Did env session msg h (step h (.frame env session msg)) := step_did_of fun hlogin =>
    MessageType.noConfusion (hty.symm.trans hlogin)
  have hother : ∀ {ty : MessageType}, msg.messageType = ty → ty ≠ .GROUP_CHAT → False :=
    fun hty' hne => hne (hty'.symm.trans hty)
  generalize step h (.frame env session msg) = h' at hdid ⊢
  cases hdid with
  | broadcast hty' => rfl
  | idle pool hidle => exact absurd hty hidle.2
  | signedUp pool hty' hfields hnew => exact (hother hty' (by decide)).elim
  | refused pool hty' hreason hcontent => exact (hother hty' (by decide)).elim
  | loggedIn pool hty' hfree hr hauth hcontent => exact (hother hty' (by decide)).elim
  | loggedOut hty' => exact (hother hty' (by decide)).elim
  | requested pool hty' hne h₁ h₂ hps => exact (hother hty' (by decide)).elim
  | rejected pool hty' hcontent => exact (hother hty' (by decide)).elim
  | accepted pool hty' hcontent => exact (hother hty' (by decide)).elim
  | chatted pool hty' ht => exact (hty'.elim (hother · (by decide)) (hother · (by decide))).elim
  | listed pool hty' hcontent => exact (hother hty' (by decide)).elim
  | pulled pool hty' hms => exact (hother hty' (by decide)).elim

/-- A session other than the sending one gets a copy for each of its users. -/
theorem length_filter_groupCopies (hs : s ≠ session) :
    ((groupCopies env session msg h).filter fun p => p.1 = s).length = (h.usersOn s).length := by
  unfold groupCopies usersOn
  rw [List.filter_map, List.length_map, List.length_map, List.filter_filter]
  refine ((reorder_perm env.visit h.userSessions.entries).filter _).length_eq.trans ?_
  refine congrArg List.length (List.filter_congr fun it _ => ?_)
  -- an entry of this session is not one of the sending session
  rw [Function.comp_apply, Bool.and_eq_left_iff_imp, decide_eq_true_eq, decide_eq_true_eq]
  rintro rfl
  exact hs

/-- **`group_broadcast`** — a group frame enqueues, to every session but its own, one copy for each
user registered on that session, with the frame's sender, group and content: none where no user is
registered, and exactly one where a single user is. Its own session gets none, and the tables and the
registry stay as they are. -/
theorem group_broadcast [OpenSSL] (h : BusinessHandler) (env : Env) (session : SessionId)
    (msg : Message) (hty : msg.messageType = .GROUP_CHAT) :
    let h' := step h (.frame env session msg)
    (∃ ps, h'.posted = h.posted ++ ps ∧
      (∀ p ∈ ps, p.1 ≠ session ∧
        p.2 = .new env msg.fromUserId msg.toUserId .GROUP_CHAT msg.toUserId msg.content) ∧
      ∀ s, s ≠ session →
        (ps.filter fun p => p.1 = s).length = (h.usersOn s).length ∧
        ((∀ u, h.userSessions.lookup u ≠ some s) → ∀ p ∈ ps, p.1 ≠ s) ∧
        ∀ u, h.userSessions.lookup u = some s → ((ps.filter fun p => p.1 = s).length = 1 ↔
          ∀ v, h.userSessions.lookup v = some s → v = u)) ∧
    h'.db = h.db ∧ h'.userSessions = h.userSessions := by
  intro h'
  have hstep : h' = h.post (groupCopies env session msg h) := step_group hty
  rw [hstep]
  refine ⟨⟨_, rfl, ?_, fun s hs => ⟨length_filter_groupCopies hs, ?_, ?_⟩⟩, rfl, rfl⟩
  · intro p hp
    obtain ⟨it, hit, rfl⟩ := List.mem_map.mp hp
    exact ⟨of_decide_eq_true (List.mem_filter.mp hit).2, rfl⟩
  · intro hnone p hp hps
    have hlength : ((groupCopies env session msg h).filter fun p => p.1 = s).length =
        (h.usersOn s).length := length_filter_groupCopies hs
    rw [usersOn_eq_nil.mpr hnone, List.length_nil, List.length_eq_zero_iff,
      List.filter_eq_nil_iff] at hlength
    exact hlength p hp (decide_eq_true hps)
  · intro u hu
    rw [length_filter_groupCopies hs]
    exact length_usersOn_eq_one hu

end Groups

/-- A message of user 111111111 to group 0. -/
def groupFrame : Message := ⟨111111111, 0, .GROUP_CHAT, 2, str "hi", 0⟩

/-- Two users sign up and log in on one session. -/
def sharedSession : List Event :=
  [.frame (.drawing 0) 3 signUpFrame, .frame (.drawing 1) 3 signUpFrame,
    .frame .plain 4 loginFrame, .frame .plain 4 { loginFrame with fromUserId := 222222222 }]

/-- A group message from another session reaches the session of the one user there is once. -/
theorem group_broadcast_one :
    letI := OpenSSL.pw
    let h := exec step (start .empty 1) [.frame .plain 3 signUpFrame, .frame .plain 4 loginFrame]
    ∃ ps, (step h (.frame .plain 5 groupFrame)).posted = h.posted ++ ps ∧
      (ps.filter fun p => p.1 = 4).length = 1 := by
  let _ := OpenSSL.pw
  intro h
  obtain ⟨⟨ps, hposted, -, hcount⟩, -⟩ := group_broadcast h .plain 5 groupFrame rfl
  have hone : (h.usersOn 4).length = 1 := by decide +kernel
  exact ⟨ps, hposted, (hcount 4 (by decide)).1.trans hone⟩

/-- A session with two users gets two copies. -/
theorem group_copies_not_unique :
    letI := OpenSSL.pw
    ¬∀ (es : List Event) (env : Env) (session : SessionId) (msg : Message),
      msg.messageType = .GROUP_CHAT →
        let h := exec step (start .empty 1) es
        ∀ s u, s ≠ session → h.userSessions.lookup u = some s →
          ∀ ps, (step h (.frame env session msg)).posted = h.posted ++ ps →
            (ps.filter fun p => p.1 = s).length = 1 := by
  let _ := OpenSSL.pw
  intro hall
  obtain ⟨hregistered, htwo⟩ :
      (exec step (start .empty 1) sharedSession).userSessions.lookup 111111111 = some 4 ∧
      ((exec step (start .empty 1) sharedSession).usersOn 4).length = 2 := by decide +kernel
  have hposted : (step (exec step (start .empty 1) sharedSession)
      (.frame .plain 5 groupFrame)).posted = _ := congrArg BusinessHandler.posted (step_group rfl)
  have hone := hall sharedSession .plain 5 groupFrame rfl 4 111111111 (by decide) hregistered _ hposted
  rw [length_filter_groupCopies (by decide), htwo] at hone
  exact absurd hone (by decide)

end BusinessHandler

end TinyIM
