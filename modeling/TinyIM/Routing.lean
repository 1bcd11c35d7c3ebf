/-
# Routing — whom a handled frame writes to

A handler finds its targets by its own means: the session the frame came on, the entry of the user the
frame is addressed to, or a loop over all entries. `Did.routed` says for every one of them where its
messages go, from the list of effects of a frame; `frames_are_routed` lifts it to the runs of the
process. A session gets into the registry by a login that was answered with a success and in no other
way, so a session without one hears nothing but the answers to its own frames.
-/
import TinyIM.Sendable
import TinyIM.Registry

namespace TinyIM

open TinyIM.Lib TinyIM.Lib.Text TinyIM.Lib.Table TinyIM.Lib.Runs TinyIM.Lib.Stops

namespace BusinessHandler

/-! ## The targets of a frame -/

/-- A message that handling a frame may enqueue: it goes to the requesting session or to a registered
one; what is relayed goes to the session of the user the frame is addressed to; a reply and pulled
history go to the requesting session. -/
structure Routed (session : SessionId) (msg : Message) (h : BusinessHandler)
    (p : SessionId × Message) : Prop where
  known : p.1 = session ∨ ∃ u, h.userSessions.lookup u = some p.1
  relayed : msg.messageType = .TEXT ∨ msg.messageType = .PRIVATE_CHAT ∨
      msg.messageType = .ADD_FRIEND →
    p.2.messageType = .TEXT ∨ p.2.messageType = .FRIEND_REQUEST →
    h.userSessions.lookup msg.toUserId = some p.1
  reply : p.2.messageType = .SIGN_UP_RESPONSE ∨ p.2.messageType = .LOGIN_RESPONSE ∨
      p.2.messageType = .FRIEND_LIST → p.1 = session
  pulled : msg.messageType = .PULL_MESSAGE → p.1 = session

section Targets

variable {env : Env} {session : SessionId} {msg : Message} {h h' : BusinessHandler}

theorem routed_own {m : Message} (hty : msg.messageType = .SIGN_UP ∨ msg.messageType = .LOGIN ∨
    msg.messageType = .FRIEND_LIST ∨ msg.messageType = .PULL_MESSAGE) :
    Routed session msg h (session, m) where
  known := Or.inl rfl
  relayed := by
    intro hrelay
    rcases hty with hty | hty | hty | hty <;> rcases hrelay with hr | hr | hr <;>
      rw [hty] at hr <;> cases hr
  reply := fun _ => rfl
  pulled := fun _ => rfl

theorem routed_relay {m : Message} {other : SessionId}
    (hother : h.userSessions.lookup msg.toUserId = some other)
    (hty : msg.messageType ≠ .PULL_MESSAGE)
    (hm : m.messageType = .TEXT ∨ m.messageType = .FRIEND_REQUEST) :
    Routed session msg h (other, m) where
  known := Or.inr ⟨_, hother⟩
  relayed := fun _ _ => hother
  reply := by
    intro hreply
    rcases hm with hm | hm <;> rcases hreply with hr | hr | hr <;> rw [hm] at hr <;> cases hr
  pulled := fun hpull => absurd hpull hty

variable [OpenSSL]

/-- **`Did.routed`** — every message a frame enqueues is routed. -/
theorem Did.routed (hdid : Did env session msg h h') :
    ∃ ps, h'.posted = h.posted ++ ps ∧ ∀ p ∈ ps, Routed session msg h p := by
  have hnone : ∃ ps, h.posted = h.posted ++ ps ∧ ∀ p ∈ ps, Routed session msg h p :=
    ⟨[], (List.append_nil _).symm, fun p hp => absurd hp List.not_mem_nil⟩
  have hreply : ∀ {m : Message}, msg.messageType = .SIGN_UP ∨ msg.messageType = .LOGIN ∨
      msg.messageType = .FRIEND_LIST ∨ msg.messageType = .PULL_MESSAGE →
      ∀ p ∈ [(session, m)], Routed session msg h p := by
    intro m hty p hp
    rw [List.mem_singleton.mp hp]
    exact routed_own hty
  cases hdid with
  | idle pool hty => exact hnone
  | signedUp pool hty hfields hnew => exact ⟨_, rfl, hreply (Or.inl hty)⟩
  | refused pool hty hreason hcontent => exact ⟨_, rfl, hreply (Or.inr (Or.inl hty))⟩
  | loggedIn pool hty hfree hr hauth hcontent => exact ⟨_, rfl, hreply (Or.inr (Or.inl hty))⟩
  | loggedOut hty => exact hnone
  | requested pool hty hne h₁ h₂ hps =>
      refine ⟨_, rfl, ?_⟩
      rcases hps with rfl | ⟨other, hother, r, -, -, rfl⟩
      · exact fun p hp => absurd hp List.not_mem_nil
      · intro p hp
        rw [List.mem_singleton.mp hp]
        exact routed_relay hother (by simp [hty]) (Or.inr rfl)
  | rejected pool hty hcontent => exact hnone
  | accepted pool hty hcontent => exact hnone
  | chatted pool hty ht =>
      refine ⟨_, rfl, ?_⟩
      intro p hp
      obtain ⟨other, hother, rfl⟩ := List.mem_map.mp hp
      refine routed_relay (Option.mem_toList.mp hother) ?_ (Or.inl rfl)
      rcases hty with hty | hty <;> simp [hty]
  | broadcast hty =>
      refine ⟨_, rfl, ?_⟩
      intro p hp
      obtain ⟨it, hit, rfl⟩ := List.mem_map.mp hp
      have hentry : it ∈ h.userSessions.entries :=
        mem_reorder.mp (List.mem_of_mem_filter hit)
      refine ⟨Or.inr ⟨it.1, AList.mem_lookup_iff.mpr hentry⟩, ?_, ?_, by simp [hty]⟩
      · simp [hty]
      · rintro (hr | hr | hr) <;> cases hr
  | listed pool hty hcontent => exact ⟨_, rfl, hreply (Or.inr (Or.inr (Or.inl hty)))⟩
  | pulled pool hty hms =>
      refine ⟨_, rfl, ?_⟩
      intro p hp
      obtain ⟨m, -, rfl⟩ := List.mem_map.mp hp
      exact routed_own (Or.inr (Or.inr (Or.inr hty)))

end Targets

end BusinessHandler

namespace Server

open BusinessHandler (Routed GrantsLogin)

variable [OpenSSL] {pool_size : Nat} {v : Server} {e : Event} {r : SessionId}

/-! ## The messages of one event -/

/-- The messages an event enqueues, each with the session it goes to. -/
def enqueued (pool_size : Nat) (v : Server) (e : Event) : List (SessionId × Message) :=
  (step pool_size v e).handler.posted.drop v.handler.posted.length

/-- Until the server is rebuilt, the posted messages are those before and those of the event. -/
theorem posted_step (hv : v.Sound) (he : e ≠ .restart) :
    (step pool_size v e).handler.posted = v.handler.posted ++ enqueued pool_size v e := by
  have hhandled : Handled pool_size v e (step pool_size v e).handler :=
    step_handled hv.handler.ok e
  obtain ⟨ps, hps⟩ := hhandled.posted he
  rw [enqueued, hps, List.drop_left]

/-- Only a frame enqueues messages, and it routes them. -/
theorem routed_of_mem_enqueued (hv : v.Sound) {p : SessionId × Message}
    (hp : p ∈ enqueued pool_size v e) : ∃ env s json_data msg, e = .read env s json_data ∧
      v.Enabled e ∧ Message.fromJson env json_data = .ok msg ∧ Routed s msg v.handler p := by
  have hhandled : Handled pool_size v e (step pool_size v e).handler :=
    step_handled hv.handler.ok e
  unfold enqueued at hp
  generalize (step pool_size v e).handler = h at hhandled hp
  cases hhandled with
  | kept =>
      rw [List.drop_length] at hp
      cases hp
  | closed henabled =>
      change p ∈ v.handler.posted.drop v.handler.posted.length at hp
      rw [List.drop_length] at hp
      cases hp
  | rebuilt =>
      change p ∈ List.drop _ [] at hp
      rw [List.drop_nil] at hp
      cases hp
  | frame henabled hmsg hstep hdid =>
      obtain ⟨ps, hps, hrouted⟩ := hdid.routed
      rw [hps, List.drop_left] at hp
      exact ⟨_, _, _, _, rfl, henabled, hmsg, hrouted p hp⟩

/-! ## A session that never logs in -/

/-- A frame on the session is a login, and it is answered with a success. -/
def LogsInOn (r : SessionId) (v : Server) (e : Event) : Prop :=
  v.Enabled e ∧ ∃ env json_data msg, e = .read env r json_data ∧
    Message.fromJson env json_data = .ok msg ∧
    GrantsLogin r msg v.handler (v.handler.step (.frame env r msg))

/-- The session is not in the registry. -/
def Unregistered (r : SessionId) (v : Server) : Prop :=
  ∀ u, v.handler.userSessions.lookup u ≠ some r

/-- A session gets into the registry by a successful login on it only. -/
theorem unregistered_step (hv : v.Sound) (hr : v.Unregistered r) (he : ¬LogsInOn r v e) :
    (step pool_size v e).Unregistered r := by
  have hhandled : Handled pool_size v e (step pool_size v e).handler :=
    step_handled hv.handler.ok e
  unfold Unregistered
  generalize (step pool_size v e).handler = h at hhandled
  intro u hu
  cases hhandled with
  | kept => exact hr u hu
  | rebuilt => cases hu
  | closed henabled =>
      exact hr u ((BusinessHandler.lookup_handleDisconnection _ v.handler u r).mp hu).1
  | @frame env s json_data msg h henabled hmsg hstep hdid =>
      -- an entry is made by this login, or it was there before
      rw [hstep, BusinessHandler.lookup_step hv.handler.ok] at hu
      rcases hu with ⟨⟨hs, -⟩, hgrants⟩ | ⟨hold, -⟩
      · subst hs
        exact he ⟨henabled, env, json_data, msg, rfl, hmsg, hgrants⟩
      · exact hr u hold

/-- **`frames_are_routed`** — in every run of the process, every message enqueued while a frame is
handled is routed, and nothing but the handling of a frame enqueues one; a session on which no login
has succeeded so far is enqueued messages by the frames it sent itself only. -/
theorem frames_are_routed (pool_size : Nat) (es : List Event) :
    let v := exec (step pool_size) (start pool_size) es
    (∀ e, ∀ p ∈ enqueued pool_size v e, ∃ env s json_data msg, e = .read env s json_data ∧
      v.Enabled e ∧ Message.fromJson env json_data = .ok msg ∧ Routed s msg v.handler p) ∧
    ∀ r, StepsMeet (step pool_size) (fun v e => ¬LogsInOn r v e) (start pool_size) es →
      ∀ e m, (r, m) ∈ enqueued pool_size v e →
        ∃ env json_data, e = .read env r json_data ∧ v.Enabled e := by
  intro v
  have hv : v.Sound := exec_sound pool_size es
  refine ⟨fun e p hp => routed_of_mem_enqueued hv hp, ?_⟩
  intro r hnever e m hm
  have hunregistered : v.Sound ∧ v.Unregistered r :=
    exec_preserves_of_stepsMeet (I := fun v : Server => v.Sound ∧ v.Unregistered r)
      (fun v e hv he => ⟨step_sound v e hv.1, unregistered_step hv.1 hv.2 he⟩)
      ⟨start_sound pool_size, fun u hu => by cases hu⟩ hnever
  obtain ⟨env, s, json_data, msg, rfl, henabled, -, hrouted⟩ := routed_of_mem_enqueued hv hm
  -- the session is registered for nobody, so the message answers its own frame
  rcases hrouted.known with rfl | ⟨u, hu⟩
  · exact ⟨env, json_data, rfl, henabled⟩
  · exact absurd hu (hunregistered.2 u)

end Server

end TinyIM
