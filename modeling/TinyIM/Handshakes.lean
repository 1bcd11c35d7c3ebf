/-
# Handshakes — what a connection that fails does to the others

`Server::accept` arms the acceptor again after every accept, and a failed accept does nothing else. The
handler of a failed handshake closes the stream with the overload of `close` that throws, where
`Session::stop` uses the one with an error code. If the stream cannot be closed, the exception leaves
`io_context::run`, and `main` builds a new server without the sessions of the old one.
`undisturbed_iff` says that this is the only way: nothing else a client sends or does ends the run.
-/
import TinyIM.Sendable
import TinyIM.Teardown

namespace TinyIM

open TinyIM.Lib TinyIM.Lib.Text TinyIM.Lib.Table TinyIM.Lib.Runs TinyIM.Lib.Stops

namespace Server

/-- The event is an accept or a handshake that fails. -/
def Event.Fails : Event → Prop
  | .accepted ok => ok = false
  | .handshaken ok _ => ok = false
  | _ => False

/-- The event is an accept or a handshake. -/
def Event.Connects : Event → Prop
  | .accepted _ | .handshaken _ _ => True
  | _ => False

section Connections

variable [OpenSSL] {pool_size : Nat} {v : Server} {e : Event}

/-- **`Undisturbed`** — an accept or a handshake lets no exception out and finds or leaves the acceptor
armed, one that fails changes neither the sessions nor the registry, and `main` does not rebuild the
server. -/
structure Undisturbed (pool_size : Nat) (v : Server) (e : Event) : Prop where
  running : v.Enabled e → e.Connects → (step pool_size v e).status = .running
  accepting : v.Enabled e → e.Connects → (step pool_size v e).accepting = true
  unchanged : v.Enabled e → e.Fails → (step pool_size v e).sessions = v.sessions ∧
    (step pool_size v e).handler = v.handler ∧ (step pool_size v e).session = v.session
  served : v.Enabled e → e ≠ .restart

/-- The handshake did not fail, or the stream could be closed. -/
def Closes (v : Server) (e : Event) : Prop := v.Enabled e → e ≠ .handshaken false true

/-- Everything sent can be serialised, an accept is outstanding, and no exception has left the loop. -/
structure Serving (v : Server) : Prop where
  sound : v.Sound
  accepting : v.accepting = true
  running : v.status ≠ .escaped

theorem step_serving (v : Server) (e : Event) (hv : v.Serving) (he : Closes v e) :
    (step pool_size v e).Serving := by
  refine ⟨step_sound v e hv.sound, (step_advances hv.sound e).accepting hv.accepting, ?_⟩
  intro hescaped
  rcases step_escapes hv.sound hescaped with h | ⟨henabled, h⟩
  · exact hv.running h
  · exact he henabled h

theorem undisturbed_of_closes (hv : v.Serving) (he : Closes v e) : Undisturbed pool_size v e := by
  refine ⟨?_, ?_, ?_, ?_⟩
  · intro henabled hconnects
    rw [step, if_pos henabled]
    cases e with
    | accepted ok => exact henabled.1
    | handshaken ok closeThrows =>
        cases ok with
        | true => exact henabled.1
        | false =>
            cases closeThrows with
            | true => exact absurd rfl (he henabled)
            | false => exact henabled.1
    | _ => cases hconnects
  · intro _ _
    exact (step_advances hv.sound e).accepting hv.accepting
  · intro henabled hfails
    rw [step, if_pos henabled]
    cases e with
    | accepted ok => exact ⟨rfl, rfl, rfl⟩
    | handshaken ok closeThrows =>
        cases ok with
        | true => cases hfails
        | false => exact ⟨rfl, rfl, rfl⟩
    | _ => cases hfails
  · rintro henabled rfl
    exact hv.running henabled.1

theorem closes_of_undisturbed (h : Undisturbed pool_size v e) : Closes v e := by
  rintro henabled rfl
  have hrunning := h.running henabled trivial
  rw [step, if_pos henabled] at hrunning
  cases hrunning

/-- **`undisturbed_iff`** — in a run of the process, whatever the clients send and however many are
connected, every accept and every handshake leaves the others undisturbed exactly if the stream of
every handshake that fails can be closed. -/
theorem undisturbed_iff (pool_size : Nat) (es : List Event) :
    StepsMeet (step pool_size) (Undisturbed pool_size) (start pool_size) es ↔
      StepsMeet (step pool_size) Closes (start pool_size) es := by
  constructor
  · intro h pre e hpre
    exact closes_of_undisturbed (h pre e hpre)
  · intro h pre e hpre
    -- no step so far let an exception out
    have hserving : (exec (step pool_size) (start pool_size) pre).Serving := by
      refine exec_preserves_of_stepsMeet step_serving
        ⟨start_sound pool_size, rfl, fun hrunning => by cases hrunning⟩ ?_
      intro pre' e' hpre'
      exact h pre' e' (hpre'.trans ((List.prefix_append _ _).trans hpre))
    exact undisturbed_of_closes hserving (h pre e hpre)

end Connections

/-- "bob" is logged in, another client has connected, and its handshake fails. -/
def badHandshake : List Event := bobLogsIn ++ [.accepted true, .handshaken false true]

/-- The stream of the second client cannot be closed: the exception ends the event loop, and the server
that `main` builds next knows neither the session of the first client nor that its user is logged in. -/
theorem bad_handshake_disturbs :
    letI := OpenSSL.pw
    ¬StepsMeet (step 1) (Undisturbed 1) (start 1) badHandshake ∧
    (exec (step 1) (start 1) bobLogsIn).sessions = {0} ∧
    (exec (step 1) (start 1) bobLogsIn).handler.userSessions.lookup 111111111 = some 0 ∧
    (exec (step 1) (start 1) badHandshake).status = .escaped ∧
    (exec (step 1) (start 1) (badHandshake ++ [.restart])).sessions = ∅ ∧
    (exec (step 1) (start 1) (badHandshake ++ [.restart])).handler.userSessions.lookup 111111111 =
      none := by
  let _ := OpenSSL.pw
  refine ⟨?_, by decide +kernel⟩
  intro h
  have hundisturbed := h (bobLogsIn ++ [.accepted true]) (.handshaken false true)
    (by rw [badHandshake, List.append_assoc]; exact List.prefix_refl _)
  exact closes_of_undisturbed hundisturbed (by decide +kernel) rfl

end Server

end TinyIM
