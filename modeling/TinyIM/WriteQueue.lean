/-
# WriteQueue — one write at a time, in order

A session hands the message at the front of `write_msgs` to `async_write` and leaves it there until
the write completes. Two places start a write: the task posted by `send`, if it found the queue empty,
and the handler of a completed write, if something is left. `Queue` lists the four states the queue
can be in, and `tasked` the messages whose tasks have run; no interleaving of tasks and completions
leads anywhere else. A failed write, or a stream that closes between two writes, ends the writing of
its session for good, with the queue not empty.

The identities of sessions are given out in order, and nothing is sent to one that is yet to come
(`Fresh`), so a new session begins with an empty queue and nothing enqueued to it.
-/
import TinyIM.Routing

namespace TinyIM

open TinyIM.Lib TinyIM.Lib.Text TinyIM.Lib.Table TinyIM.Lib.Runs TinyIM.Lib.Stops

/-! ## The states of a write queue -/

/-- **`Session.Queue`** — the write queue of a session, with the messages whose tasks have run. -/
inductive Session.Queue (x : Session) (sent : List Message) : Prop
  /-- Everything has been written. -/
  | idle (hqueue : x.write_msgs = []) (hwriting : x.writing = 0) (hwire : x.wire = sent)
  /-- The front of the queue is being written. -/
  | busy {done : List Message} {msg : Message} {rest : List Message}
      (hqueue : x.write_msgs = msg :: rest) (hwriting : x.writing = 1)
      (hsent : sent = done ++ msg :: rest) (hwire : x.wire = done ++ [msg])
  /-- A write completed on a closed stream, and the next one was not started. -/
  | halted {done : List Message} {msg : Message} {rest : List Message}
      (hqueue : x.write_msgs = msg :: rest) (hwriting : x.writing = 0) (hopen : x.is_open = false)
      (hsent : sent = done ++ msg :: rest) (hwire : x.wire = done)
  /-- The write of the front failed. -/
  | failed {done : List Message} {msg : Message} {rest : List Message}
      (hqueue : x.write_msgs = msg :: rest) (hwriting : x.writing = 0) (hopen : x.is_open = false)
      (hsent : sent = done ++ msg :: rest) (hwire : x.wire = done ++ [msg])

namespace Session.Queue

variable {x y : Session} {sent : List Message}

theorem keeps (h : x.Queue sent) (hkeeps : x.Keeps y) : y.Queue sent := by
  obtain ⟨hmsgs, hwrites, hwires, hopens, -⟩ := hkeeps
  cases h with
  | idle hqueue hwriting hwire =>
      exact .idle (hmsgs.trans hqueue) (hwrites.trans hwriting) (hwires.trans hwire)
  | busy hqueue hwriting hsent hwire =>
      exact .busy (hmsgs.trans hqueue) (hwrites.trans hwriting) hsent (hwires.trans hwire)
  | halted hqueue hwriting hopen hsent hwire =>
      exact .halted (hmsgs.trans hqueue) (hwrites.trans hwriting) (hopens hopen) hsent
        (hwires.trans hwire)
  | failed hqueue hwriting hopen hsent hwire =>
      exact .failed (hmsgs.trans hqueue) (hwrites.trans hwriting) (hopens hopen) hsent
        (hwires.trans hwire)

/-- A task starts a write if the queue was empty, and only then. -/
theorem sendTask (h : x.Queue sent) (msg : Message) : (x.sendTask msg).Queue (sent ++ [msg]) := by
  -- the decision of `send` rests on the queue as it was before the message joined it
  have hempty : x.write_msgs = [] → x.sendTask msg =
      ({ x with write_msgs := [msg] } : Session).asyncWrite msg := by
    intro hqueue
    simp only [Session.sendTask, Session.startWrite, Session.pushBack, hqueue, List.nil_append,
      if_true]
  have hmore : ∀ {m rest}, x.write_msgs = m :: rest → x.sendTask msg = x.pushBack msg ∧
      (x.pushBack msg).write_msgs = m :: (rest ++ [msg]) := by
    intro m rest hqueue
    have hne : x.write_msgs ≠ [] := by
      rw [hqueue]
      exact List.cons_ne_nil _ _
    refine ⟨if_neg hne, ?_⟩
    simp only [Session.pushBack, hqueue, List.cons_append]
  cases h with
  | idle hqueue hwriting hwire =>
      rw [hempty hqueue]
      have hsent : sent ++ [msg] = sent ++ msg :: [] := rfl
      refine .busy rfl ?_ hsent ?_
      · show x.writing + 1 = 1
        rw [hwriting]
      · show x.wire ++ [msg] = sent ++ [msg]
        rw [hwire]
  | busy hqueue hwriting hsent hwire =>
      rw [(hmore hqueue).1]
      exact .busy (hmore hqueue).2 hwriting (by rw [hsent, List.append_assoc]; rfl) hwire
  | halted hqueue hwriting hopen hsent hwire =>
      rw [(hmore hqueue).1]
      exact .halted (hmore hqueue).2 hwriting hopen (by rw [hsent, List.append_assoc]; rfl) hwire
  | failed hqueue hwriting hopen hsent hwire =>
      rw [(hmore hqueue).1]
      exact .failed (hmore hqueue).2 hwriting hopen (by rw [hsent, List.append_assoc]; rfl) hwire

/-- While a write is outstanding, the queue is busy. -/
theorem exists_busy (h : x.Queue sent) (hwriting : 0 < x.writing) :
    ∃ done msg rest, x.write_msgs = msg :: rest ∧ x.writing = 1 ∧ sent = done ++ msg :: rest ∧
      x.wire = done ++ [msg] := by
  cases h with
  | idle _ hnone _ => omega
  | busy hqueue hwriting hsent hwire => exact ⟨_, _, _, hqueue, hwriting, hsent, hwire⟩
  | halted _ hnone _ _ _ => omega
  | failed _ hnone _ _ _ => omega

/-- A completed write leaves the queue, and the next one is started if the stream is open. -/
theorem written (h : x.Queue sent) (hwriting : 0 < x.writing) : x.written.Queue sent := by
  obtain ⟨done, msg, rest, hqueue, hone, hsent, hwire⟩ := h.exists_busy hwriting
  -- the message that was written is the front of the queue
  have hpop : x.popFront = { x with write_msgs := rest, writing := 0 } := by
    simp only [Session.popFront, hqueue, hone, List.tail_cons]
  unfold Session.written
  rw [hpop]
  cases rest with
  | nil =>
      rw [if_neg (fun hnext => hnext.1 rfl)]
      exact .idle rfl rfl (hwire.trans hsent.symm)
  | cons next rest =>
      have hsplit : sent = (done ++ [msg]) ++ next :: rest := by
        rw [hsent, List.append_assoc]
        rfl
      by_cases hopen : x.is_open = true
      · rw [if_pos ⟨List.cons_ne_nil _ _, hopen⟩]
        refine .busy rfl rfl hsplit ?_
        show x.wire ++ [next] = _
        rw [hwire]
      · rw [if_neg (fun hnext => hopen hnext.2)]
        exact .halted rfl rfl (Bool.eq_false_iff.mpr hopen) hsplit hwire

/-- A failed write is the last one. -/
theorem writeFailed (h : x.Queue sent) (hwriting : 0 < x.writing) :
    x.writeFailed.finish.Queue sent := by
  obtain ⟨done, msg, rest, hqueue, hone, hsent, hwire⟩ := h.exists_busy hwriting
  refine .failed hqueue ?_ rfl hsent hwire
  show x.writing - 1 = 0
  rw [hone]

/-- At most one write is outstanding. -/
theorem writing_le_one (h : x.Queue sent) : x.writing ≤ 1 := by
  cases h with
  | idle _ hwriting _ => omega
  | busy _ hwriting _ _ => omega
  | halted _ hwriting _ _ _ => omega
  | failed _ hwriting _ _ _ => omega

/-- What was handed to `async_write` is a prefix of what was sent. -/
theorem wire_begins (h : x.Queue sent) : x.wire <+: sent := by
  cases h with
  | idle _ _ hwire => rw [hwire]
  | @busy done msg rest _ _ hsent hwire => exact ⟨rest, by rw [hwire, hsent, List.append_assoc]; rfl⟩
  | @halted done msg rest _ _ _ hsent hwire => exact ⟨msg :: rest, by rw [hwire, hsent]⟩
  | @failed done msg rest _ _ _ hsent hwire =>
      exact ⟨rest, by rw [hwire, hsent, List.append_assoc]; rfl⟩

/-- On an open stream a write is outstanding exactly while the queue is not empty, and when none is,
everything has been written. -/
theorem of_open (h : x.Queue sent) (hopen : x.is_open = true) :
    (x.writing = 1 ↔ x.write_msgs ≠ []) ∧ (x.writing = 0 → x.wire = sent) := by
  cases h with
  | idle hqueue hwriting hwire =>
      refine ⟨iff_of_false (by omega) ?_, fun _ => hwire⟩
      exact not_not_intro hqueue
  | busy hqueue hwriting _ _ =>
      refine ⟨iff_of_true hwriting ?_, fun hnone => by omega⟩
      rw [hqueue]
      exact List.cons_ne_nil _ _
  | halted _ _ hclosed _ _ =>
      rw [hopen] at hclosed
      cases hclosed
  | failed _ _ hclosed _ _ =>
      rw [hopen] at hclosed
      cases hclosed

end Session.Queue

namespace Server

/-! ## Sessions that are yet to come -/

/-- Sessions that have not begun are silent, hold nothing, and are not known to anyone. -/
structure Fresh (v : Server) : Prop where
  silent : ∀ t, v.next ≤ t → (v.session t).Silent
  registered : ∀ u t, v.handler.userSessions.lookup u = some t → t < v.next
  posted : ∀ p ∈ v.handler.posted, p.1 < v.next

/-- What holds of the write queues in every reachable state. -/
structure Queues (v : Server) : Prop where
  sound : v.Sound
  fresh : v.Fresh
  queue : ∀ t, (v.session t).Queue (v.tasked t)

section Invariants

variable {v : Server}

/-- A session that reads has begun. -/
theorem Fresh.reading (hfresh : v.Fresh) {s : SessionId} (hs : (v.session s).reading = true) :
    s < v.next := by
  by_contra hge
  have hsilent := (hfresh.silent s (Nat.le_of_not_lt hge)).2
  rw [hs] at hsilent
  cases hsilent

/-- Only a session that begins stops being silent. -/
theorem Moved.silent {v' : Server} {t : SessionId} (hmoved : Moved v v' t)
    (hold : (v.session t).Silent) (hnew : ¬(t = v.next ∧ v'.next = v.next + 1)) :
    (v'.session t).Silent := by
  cases hmoved with
  | kept hkeeps htasked => exact hkeeps.silent hold
  | begun ht hnext hbegun htasked => exact absurd ⟨ht, hnext⟩ hnew
  | sent hposted hsent htasked =>
      rw [hsent]
      exact Session.sendTask_silent.mpr hold
  | written hwriting hwritten htasked =>
      rw [hwritten]
      exact Session.written_silent.mpr hold
  | failed hwriting hfailed htasked =>
      rw [hfailed]
      exact ⟨rfl, hold.2⟩
  | dropped hdropped htasked =>
      rw [hdropped]
      exact ⟨rfl, rfl⟩

/-- Nothing has been sent to the next session. -/
theorem Fresh.tasked (hfresh : v.Fresh) : v.tasked v.next = [] := by
  apply List.eq_nil_iff_forall_not_mem.mpr
  intro m hm
  have hlt := hfresh.posted _ (List.mem_of_mem_take (mem_sentTo.mp hm))
  exact Nat.lt_irrefl _ hlt

/-- What was handed to `async_write` is a prefix of what was enqueued to the session. -/
theorem Queues.wire_begins (hv : v.Queues) (s : SessionId) :
    (v.session s).wire <+: sentTo s v.handler.posted := by
  refine (hv.queue s).wire_begins.trans ?_
  exact (List.take_prefix _ _).filterMap _

end Invariants

section Run

variable [OpenSSL] {pool_size : Nat} {v : Server}

theorem posted_restart (pool_size : Nat) (v : Server) :
    (step pool_size v .restart).handler.posted = v.handler.posted ∨
    (step pool_size v .restart).handler.posted = [] := by
  unfold step
  split
  · exact Or.inr rfl
  · exact Or.inl rfl

theorem step_fresh (hv : v.Sound) (hfresh : v.Fresh) (e : Event) :
    (step pool_size v e).Fresh := by
  have hle : v.next ≤ (step pool_size v e).next := (step_advances hv e).next
  refine ⟨?_, ?_, ?_⟩
  · intro t ht
    have hold : (v.session t).Silent := hfresh.silent t (Nat.le_trans hle ht)
    have hmoved : Moved v (step pool_size v e) t := step_moved hv e
    refine hmoved.silent hold ?_
    rintro ⟨hnew, hnext⟩
    rw [hnext, hnew] at ht
    exact absurd ht (Nat.not_succ_le_self _)
  · intro u t hu
    refine Nat.lt_of_lt_of_le ?_ hle
    by_contra hge
    have hnever : ¬LogsInOn t v e := by
      rintro ⟨henabled, env, json_data, msg, rfl, -⟩
      exact hge (hfresh.reading henabled.2)
    exact unregistered_step hv (fun u' hu' => hge (hfresh.registered u' t hu')) hnever u hu
  · intro p hp
    refine Nat.lt_of_lt_of_le ?_ hle
    by_cases he : e = .restart
    · rw [he] at hp
      rcases posted_restart pool_size v with hnone | hnone
      · rw [hnone] at hp
        exact hfresh.posted p hp
      · rw [hnone] at hp
        cases hp
    · rw [posted_step hv he, List.mem_append] at hp
      rcases hp with hp | hp
      · exact hfresh.posted p hp
      · obtain ⟨env, s, json_data, msg, rfl, henabled, -, hrouted⟩ := routed_of_mem_enqueued hv hp
        -- a frame writes to its own session or to a registered one, and both have begun
        rcases hrouted.known with hs | ⟨u, hu⟩
        · rw [hs]
          exact hfresh.reading henabled.2
        · exact hfresh.registered u _ hu

/-! ## Runs -/

theorem step_queues (v : Server) (e : Event) (hv : v.Queues) : (step pool_size v e).Queues := by
  refine ⟨step_sound v e hv.sound, step_fresh hv.sound hv.fresh e, ?_⟩
  intro t
  have hqueue := hv.queue t
  have hmoved : Moved v (step pool_size v e) t := step_moved hv.sound e
  cases hmoved with
  | kept hkeeps htasked =>
      rw [htasked]
      exact hqueue.keeps hkeeps
  | begun hnew hnext hbegun htasked =>
      -- nothing was sent to the session before it began
      rw [htasked, hbegun, hnew, hv.fresh.tasked]
      exact .idle rfl rfl rfl
  | sent hposted hsent htasked =>
      rw [htasked, hsent]
      exact hqueue.sendTask _
  | written hwriting hwritten htasked =>
      rw [htasked, hwritten]
      exact hqueue.written hwriting
  | failed hwriting hfailed htasked =>
      rw [htasked, hfailed]
      exact hqueue.writeFailed hwriting
  | dropped hdropped htasked =>
      rw [htasked, hdropped]
      exact .idle rfl rfl rfl

theorem exec_queues (pool_size : Nat) (es : List Event) :
    (exec (step pool_size) (start pool_size) es).Queues := by
  refine exec_preserves step_queues ?_ es
  refine ⟨start_sound pool_size, ⟨fun _ _ => ⟨rfl, rfl⟩, ?_, ?_⟩, fun t => .idle rfl rfl rfl⟩
  · intro u t hu
    cases hu
  · intro p hp
    cases hp

/-- **`write_queue_is_correct`** — in every run, whatever the order of tasks and completions, at most
one write of a session is outstanding, and what was handed to `async_write` is a prefix of what was
enqueued to it; while its stream is open (a failed write closes it), a write is outstanding exactly if
`write_msgs` is not empty, and if none is, everything whose task has run has been written. -/
theorem write_queue_is_correct (pool_size : Nat) (es : List Event) (s : SessionId) :
    let v := exec (step pool_size) (start pool_size) es
    (v.session s).writing ≤ 1 ∧
    (v.session s).wire <+: sentTo s v.handler.posted ∧
    ((v.session s).is_open = true →
      ((v.session s).writing = 1 ↔ (v.session s).write_msgs ≠ []) ∧
      ((v.session s).writing = 0 → (v.session s).wire = v.tasked s)) := by
  intro v
  have hv : v.Queues := exec_queues pool_size es
  exact ⟨(hv.queue s).writing_le_one, hv.wire_begins s, (hv.queue s).of_open⟩

end Run

end Server

end TinyIM
