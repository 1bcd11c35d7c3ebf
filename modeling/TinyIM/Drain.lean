/-
# Drain — what has been enqueued is written in the end

Two kinds of steps bring a message from `Session::send` to the stream: the task that `send` has posted,
and the completion of the write before it. `everything_is_written` says that these steps cannot go on
forever when nothing else happens, in whatever order the event loop takes them, and that they cannot
stop early: where none is left, every session with an open stream has been handed everything that was
enqueued to it. The other steps of the loop (frames, closes, failures) only add work or close streams.
-/
import TinyIM.Teardown
import TinyIM.WriteQueue
import Mathlib.Algebra.BigOperators.Group.Finset.Basic

namespace TinyIM

open TinyIM.Lib TinyIM.Lib.Text TinyIM.Lib.Table TinyIM.Lib.Runs TinyIM.Lib.Stops

namespace Session

theorem startWrite_is_open (x : Session) : x.startWrite.is_open = x.is_open := by
  unfold startWrite
  split
  · rfl
  · rfl

theorem sendTask_is_open (x : Session) (msg : Message) : (x.sendTask msg).is_open = x.is_open := by
  unfold sendTask
  split
  · exact startWrite_is_open _
  · rfl

theorem written_is_open (x : Session) : x.written.is_open = x.is_open := by
  unfold written
  split
  · exact startWrite_is_open _
  · rfl

end Session

namespace Server

/-! ## The steps that write -/

/-- A task posted by `send` runs, or a write completes without an error. -/
def Drains (v : Server) : Event → Prop
  | .task => v.Enabled .task
  | .wrote s => v.Enabled (.wrote s)
  | _ => False

instance decidableDrains (v : Server) : (e : Event) → Decidable (v.Drains e)
  | .task => inferInstanceAs (Decidable (v.Enabled .task))
  | .wrote s => inferInstanceAs (Decidable (v.Enabled (.wrote s)))
  | .accepted _ => isFalse id
  | .handshaken _ _ => isFalse id
  | .read _ _ _ => isFalse id
  | .readError _ => isFalse id
  | .writeError _ => isFalse id
  | .closed _ => isFalse id
  | .lost _ => isFalse id
  | .restart => isFalse id

/-- A bound on the steps that are left: a message whose task has not run needs two. -/
def backlog (v : Server) : Nat :=
  2 * (v.handler.posted.length - v.ran) +
    ∑ s ∈ Finset.range v.next, (v.session s).write_msgs.length

section Drain

variable {v : Server} {e : Event}

/-- A session that has not begun has nothing in its queue. -/
theorem Queues.write_msgs_of_le (hv : v.Queues) {s : SessionId} (hs : v.next ≤ s) :
    (v.session s).write_msgs = [] := by
  have hnone : v.tasked s = [] := by
    apply List.eq_nil_iff_forall_not_mem.mpr
    intro m hm
    have hlt := hv.fresh.posted _ (List.mem_of_mem_take (mem_sentTo.mp hm))
    exact absurd hlt (Nat.not_lt.mpr hs)
  have hqueue := hv.queue s
  rw [hnone] at hqueue
  cases hqueue with
  | idle hempty hwriting hwire => exact hempty
  | busy hempty hwriting hsent hwire => exact absurd hsent.symm (by simp)
  | halted hempty hwriting hopen hsent hwire => exact absurd hsent.symm (by simp)
  | failed hempty hwriting hopen hsent hwire => exact absurd hsent.symm (by simp)

/-- What another queue of one session does to the sum of all. -/
theorem sum_write_msgs_set (w : Server) {s : SessionId} (x : Session) (hs : s < w.next) :
    ∑ t ∈ Finset.range w.next, ((w.set s x).session t).write_msgs.length +
        (w.session s).write_msgs.length =
      ∑ t ∈ Finset.range w.next, (w.session t).write_msgs.length + x.write_msgs.length := by
  have hmem : s ∈ Finset.range w.next := Finset.mem_range.mpr hs
  have hnew := Finset.add_sum_erase (Finset.range w.next)
    (fun t : Nat => ((w.set s x).session t).write_msgs.length) hmem
  have hold := Finset.add_sum_erase (Finset.range w.next)
    (fun t : Nat => (w.session t).write_msgs.length) hmem
  have hothers : ∑ t ∈ (Finset.range w.next).erase s, ((w.set s x).session t).write_msgs.length =
      ∑ t ∈ (Finset.range w.next).erase s, (w.session t).write_msgs.length := by
    refine Finset.sum_congr rfl fun t ht => ?_
    rw [set_session, if_neg (Finset.ne_of_mem_erase ht)]
  have hself : (w.set s x).session s = x := by rw [set_session, if_pos rfl]
  rw [← hnew, ← hold, hothers, hself]
  omega

/-- A write in progress is that of the front of the queue. -/
theorem Queues.ne_nil_of_writing (hv : v.Queues) {s : SessionId} (hs : 0 < (v.session s).writing) :
    (v.session s).write_msgs ≠ [] := by
  obtain ⟨done, msg, rest, hqueue, -⟩ := (hv.queue s).exists_busy hs
  rw [hqueue]
  exact List.cons_ne_nil _ _

/-- Whether such a step is left shows at the sessions that there have been. -/
theorem Queues.not_drains (hv : v.Queues) (htask : ¬v.Enabled .task)
    (hwrote : ∀ s < v.next, ¬v.Enabled (.wrote s)) (e : Event) : ¬v.Drains e := by
  intro h
  cases e with
  | task => exact htask h
  | wrote s =>
      have henabled : v.Enabled (.wrote s) := h
      refine hwrote s (Nat.lt_of_not_le fun hle => ?_) henabled
      exact hv.ne_nil_of_writing (of_decide_eq_true henabled.2) (hv.write_msgs_of_le hle)
  | _ => exact h

variable [OpenSSL] (pool_size : Nat)

/-- What such a step does: the next task puts its message into the queue of its session, or the front
of a queue has been written. -/
theorem drain_cases (hv : v.Queues) (h : v.Drains e) :
    (∃ s msg, s < v.next ∧ v.ran < v.handler.posted.length ∧ step pool_size v e =
      Server.set { v with ran := v.ran + 1 } s ((v.session s).sendTask msg)) ∨
    ∃ s, s < v.next ∧ (v.session s).write_msgs ≠ [] ∧
      step pool_size v e = v.set s (v.session s).written := by
  cases e with
  | task =>
      have henabled : v.Enabled .task := h
      have hran : v.ran < v.handler.posted.length := of_decide_eq_true henabled.2
      have hmem := List.getElem_mem hran
      have hnext := List.getElem?_eq_getElem hran
      generalize v.handler.posted[v.ran] = p at hmem hnext
      refine Or.inl ⟨p.1, p.2, hv.fresh.posted p hmem, hran, ?_⟩
      rw [step, if_pos henabled, act, runTask, hnext]
      exact send_eq (v := { v with ran := v.ran + 1 }) (hv.sound.queued p.1)
        (hv.sound.handler.posted p hmem)
  | wrote s =>
      have henabled : v.Enabled (.wrote s) := h
      have hne := hv.ne_nil_of_writing (of_decide_eq_true henabled.2)
      rw [step, if_pos henabled]
      refine Or.inr ⟨s, ?_, hne, onWritten_eq (hv.sound.queued s)⟩
      by_contra hge
      exact hne (hv.write_msgs_of_le (Nat.not_lt.mp hge))
  | _ => exact h.elim

/-- Such a step changes nothing but write queues. -/
theorem drain_keeps (hv : v.Queues) (h : v.Drains e) :
    (step pool_size v e).handler = v.handler ∧ (step pool_size v e).next = v.next ∧
      (step pool_size v e).status = v.status ∧
      ∀ t, ((step pool_size v e).session t).is_open = (v.session t).is_open := by
  have hset : ∀ {w : Server} {s : SessionId} {x : Session}, w.session = v.session →
      x.is_open = (v.session s).is_open → ∀ t, ((w.set s x).session t).is_open =
        (v.session t).is_open := by
    intro w s x hw hx t
    rw [set_session, hw]
    split
    · rename_i ht
      rw [hx, ht]
    · rfl
  rcases drain_cases pool_size hv h with ⟨s, msg, -, -, hstep⟩ | ⟨s, -, -, hstep⟩
  · rw [hstep]
    exact ⟨rfl, rfl, rfl, hset rfl (Session.sendTask_is_open _ _)⟩
  · rw [hstep]
    exact ⟨rfl, rfl, rfl, hset rfl (Session.written_is_open _)⟩

/-- Each such step comes closer. -/
theorem backlog_step (hv : v.Queues) (h : v.Drains e) : backlog (step pool_size v e) < backlog v := by
  rcases drain_cases pool_size hv h with ⟨s, msg, hs, hran, hstep⟩ | ⟨s, hs, hne, hstep⟩
  · have hsum := sum_write_msgs_set { v with ran := v.ran + 1 } ((v.session s).sendTask msg) hs
    rw [Session.sendTask_write_msgs, List.length_append, List.length_singleton] at hsum
    have htask : ∀ posted ran before after queue : Nat, ran < posted →
        after + queue = before + (queue + 1) →
        2 * (posted - (ran + 1)) + after < 2 * (posted - ran) + before := by omega
    rw [hstep]
    exact htask _ _ _ _ _ hran hsum
  · have hsum := sum_write_msgs_set v (v.session s).written hs
    rw [Session.written_write_msgs, List.length_tail] at hsum
    have hwrote : ∀ left before after queue : Nat, 0 < queue → after + queue = before + (queue - 1) →
        2 * left + after < 2 * left + before := by omega
    rw [hstep]
    exact hwrote _ _ _ _ (List.length_pos_iff.mpr hne) hsum

/-- **`everything_is_written`** — after every run that has not ended, if only tasks and completed
writes follow: there are only finitely many of them, in whatever order; they neither enqueue anything
nor close or open a stream; and when none is left, every session whose stream is open has been handed
exactly what was enqueued to it, in that order. -/
theorem everything_is_written (es rest : List Event)
    (hrunning : (exec (step pool_size) (start pool_size) es).status = .running)
    (hrest : StepsMeet (step pool_size) Drains (exec (step pool_size) (start pool_size) es) rest) :
    let v := exec (step pool_size) (start pool_size) es
    let after := exec (step pool_size) v rest
    rest.length ≤ v.backlog ∧ after.handler = v.handler ∧
      (∀ s, (after.session s).is_open = (v.session s).is_open) ∧
      ((∀ e, ¬after.Drains e) → ∀ s, (v.session s).is_open = true →
        (after.session s).wire = sentTo s v.handler.posted) := by
  intro v after
  have hv : v.Queues := exec_queues pool_size es
  -- what the steps keep, along the run
  have hkept : after.Queues ∧ after.handler = v.handler ∧ after.status = v.status ∧
      ∀ s, (after.session s).is_open = (v.session s).is_open := by
    refine exec_preserves_of_stepsMeet (I := fun w : Server => w.Queues ∧ w.handler = v.handler ∧
      w.status = v.status ∧ ∀ s, (w.session s).is_open = (v.session s).is_open) ?_
      ⟨hv, rfl, rfl, fun _ => rfl⟩ hrest
    rintro w e ⟨hw, hhandler, hstatus, hopen⟩ he
    obtain ⟨hhandler', -, hstatus', hopen'⟩ := drain_keeps pool_size hw he
    exact ⟨step_queues w e hw, hhandler'.trans hhandler, hstatus'.trans hstatus,
      fun s => (hopen' s).trans (hopen s)⟩
  obtain ⟨hafter, hhandler, hstatus, hopen⟩ := hkept
  refine ⟨?_, hhandler, hopen, fun hquiet s hs => ?_⟩
  · exact length_le_rank (I := Queues) (fun w e hw _ => step_queues w e hw)
      (fun w e hw he => backlog_step pool_size hw he) hv hrest
  · have hstatus' : after.status = .running := hstatus.trans hrunning
    have hran : after.ran = after.handler.posted.length := by
      refine Nat.le_antisymm hafter.sound.ran (Nat.not_lt.mp fun hlt => ?_)
      exact hquiet .task ⟨hstatus', decide_eq_true hlt⟩
    have hidle : (after.session s).writing = 0 := by
      refine Nat.eq_zero_of_not_pos fun hpos => ?_
      exact hquiet (.wrote s) ⟨hstatus', decide_eq_true hpos⟩
    have hwire := ((hafter.queue s).of_open ((hopen s).trans hs)).2 hidle
    rw [hwire, tasked, hran, List.take_length, hhandler]

end Drain

/-- A client connects and tries twice to log in as a user that does not exist. -/
def strangerLogsIn : List Event :=
  [.accepted true, .handshaken true false, .read .plain 0 (frameText "7" "LOGIN" "pw"),
    .read .plain 0 (frameText "8" "LOGIN" "pw")]

/-- The tasks run and the writes complete. -/
def strangerIsAnswered : List Event := [.task, .task, .wrote 0, .wrote 0]

/-- Both tasks run before the first write completes. -/
theorem everything_is_written_stranger :
    letI := OpenSSL.zero
    (exec (step 1) (start 1) strangerLogsIn).handler.posted.length = 2 ∧
      ((exec (step 1) (exec (step 1) (start 1) strangerLogsIn) strangerIsAnswered).session 0).wire =
        sentTo 0 (exec (step 1) (start 1) strangerLogsIn).handler.posted := by
  let _ := OpenSSL.zero
  have hwritten := @everything_is_written OpenSSL.zero 1 strangerLogsIn strangerIsAnswered
    (by decide +kernel) (by decide +kernel)
  refine ⟨by decide +kernel, hwritten.2.2.2 ?_ 0 (by decide +kernel)⟩
  rw [← exec_append]
  exact (exec_queues 1 _).not_drains (by decide +kernel) (by decide +kernel)

end Server

end TinyIM
