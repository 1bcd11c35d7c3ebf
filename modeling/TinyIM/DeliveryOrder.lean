/-
# DeliveryOrder — the order in which sessions receive what frames enqueue

A frame is handled at one position of the run, and what it enqueues is written to each recipient by a
queue of the recipient's own. `deliveries` is what a run enqueues to one session, each message with the
position of its frame; what is handed to the stream of the session is a prefix of it
(`handedOver_prefix`), whatever tasks and completions did in between and whatever other sessions do.

What the peer receives is another matter. `Session::write` passes `async_write` a buffer over its local
`json_data`, which is destroyed when `write` returns, while the stream may read the buffer until the
write completes: the bytes it has not taken by then are bytes of freed memory (`Transfer`).
`delivery_order_iff` says that the peers receive the messages exactly if no write comes to that, and
that they then receive them in the order of the frames, on which any two recipients agree.
-/
import TinyIM.Teardown
import TinyIM.WriteQueue

namespace TinyIM

open TinyIM.Lib TinyIM.Lib.Text TinyIM.Lib.Table TinyIM.Lib.Runs TinyIM.Lib.Stops

/-! ## The buffer of a write -/

/-- What `async_write` finds in the buffer it is given. The buffer is over `json_data`, a local variable
of `Session::write`. -/
structure Transfer where
  /-- How many bytes the stream has taken when the call returns and `json_data` is destroyed. -/
  taken : Nat
  /-- What the freed memory holds when the stream reads the others. -/
  freed : Nat → UInt8

/-- The bytes the stream carries instead of `json_data`. -/
def Transfer.carried (t : Transfer) (json_data : Bytes) : Bytes :=
  json_data.mapIdx fun i b => if i < t.taken then b else t.freed i

/-- The stream takes all of the bytes in time, or finds the others unchanged. -/
def Transfer.Intact (t : Transfer) (json_data : Bytes) : Prop :=
  ∀ i b, json_data[i]? = some b → t.taken ≤ i → t.freed i = b

theorem Transfer.carried_eq_iff {t : Transfer} {json_data : Bytes} :
    t.carried json_data = json_data ↔ t.Intact json_data := by
  unfold carried Intact
  rw [List.ext_getElem?_iff]
  refine forall_congr' fun i => ?_
  rw [List.getElem?_mapIdx]
  cases json_data[i]? with
  | none => simp
  | some b =>
      rw [Option.map_some, Option.some_inj]
      split
      · rename_i hlt
        exact iff_of_true rfl fun b' _ hle => absurd hlt (Nat.not_lt.mpr hle)
      · rename_i hge
        constructor
        · rintro hfreed b' hb -
          rw [hfreed]
          exact Option.some.inj hb
        · intro h
          exact h b rfl (Nat.le_of_not_lt hge)

/-- The stream takes all of a short message before the call returns. -/
def Transfer.whole : Transfer := ⟨1000, fun _ => 0⟩

/-- The stream takes nothing at first, and the freed memory is overwritten with zeros. -/
def Transfer.late : Transfer := ⟨0, fun _ => 0⟩

/-- What `toJson` returns. -/
def Message.json_data (m : Message) : Bytes :=
  match m.toJson with
  | .ok text => text
  | .error _ => []

theorem Session.startWrite_wire (x : Session) : ∃ ms, x.startWrite.wire = x.wire ++ ms := by
  unfold Session.startWrite
  split
  · exact ⟨[], (List.append_nil _).symm⟩
  · exact ⟨[_], rfl⟩

namespace Server

section Order

variable [OpenSSL] {pool_size : Nat} {v : Server} {r : SessionId}

/-! ## What a run enqueues to a session -/

/-- The messages an event enqueues to a session. -/
def enqueuedTo (pool_size : Nat) (r : SessionId) (v : Server) (e : Event) : List Message :=
  sentTo r (enqueued pool_size v e)

/-- The messages a run enqueues to a session, each with the position of its frame in the run. -/
def deliveries (pool_size : Nat) (es : List Event) (r : SessionId) : List (Nat × Message) :=
  stamped (step pool_size) (enqueuedTo pool_size r) (start pool_size) es

/-! ## Sessions of a server that was rebuilt -/

/-- The session belonged to a server object that is no more: it is silent and unknown, and nothing is
enqueued to it. -/
structure Gone (r : SessionId) (v : Server) : Prop where
  old : r < v.next
  silent : (v.session r).Silent
  unregistered : v.Unregistered r
  nothing : sentTo r v.handler.posted = []

/-- A frame on a session, or one that reaches it through the registry, is what enqueues messages. -/
theorem enqueuedTo_eq_nil (hv : v.Sound) (hreading : (v.session r).reading = false)
    (hr : v.Unregistered r) (e : Event) : enqueuedTo pool_size r v e = [] := by
  apply List.eq_nil_iff_forall_not_mem.mpr
  intro m hm
  obtain ⟨env, s, json_data, msg, rfl, henabled, -, hrouted⟩ :=
    routed_of_mem_enqueued hv (mem_sentTo.mp hm)
  rcases hrouted.known with rfl | ⟨u, hu⟩
  · have hread : (v.session r).reading = true := henabled.2
    rw [hreading] at hread
    cases hread
  · exact hr u hu

theorem sentTo_step (hv : v.Sound) {e : Event} (he : e ≠ .restart) :
    sentTo r (step pool_size v e).handler.posted =
      sentTo r v.handler.posted ++ enqueuedTo pool_size r v e := by
  rw [posted_step hv he, sentTo_append]
  rfl

theorem gone_step (hv : v.Sound) (hgone : v.Gone r) (e : Event) : (step pool_size v e).Gone r := by
  have hle : v.next ≤ (step pool_size v e).next := (step_advances hv e).next
  refine ⟨Nat.lt_of_lt_of_le hgone.old hle, ?_, ?_, ?_⟩
  · have hmoved : Moved v (step pool_size v e) r := step_moved hv e
    exact hmoved.silent hgone.silent fun hnew => Nat.ne_of_lt hgone.old hnew.1
  · refine unregistered_step hv hgone.unregistered ?_
    rintro ⟨henabled, env, json_data, msg, rfl, -⟩
    have hread : (v.session r).reading = true := henabled.2
    rw [hgone.silent.2] at hread
    cases hread
  · by_cases he : e = .restart
    · rcases posted_restart pool_size v with h | h
      · rw [he, h]
        exact hgone.nothing
      · rw [he, h]
        rfl
    · rw [sentTo_step hv he, hgone.nothing,
        enqueuedTo_eq_nil hv hgone.silent.2 hgone.unregistered]
      rfl

/-- A restart makes every session there is a thing of the past. -/
theorem gone_of_restart (henabled : v.Enabled .restart) (hr : r < v.next) :
    (step pool_size v .restart).Gone r := by
  rw [step, if_pos henabled]
  refine ⟨hr, ⟨rfl, rfl⟩, ?_, rfl⟩
  intro u hu
  cases hu

/-! ## What is handed to a stream -/

/-- The messages an event hands to `async_write` on the stream of a session, one at most. -/
def handed (pool_size : Nat) (r : SessionId) (v : Server) (e : Event) : List Message :=
  ((step pool_size v e).session r).wire.drop (v.session r).wire.length

/-- The messages a run hands to the stream of a session. -/
def handedOver (pool_size : Nat) (es : List Event) (r : SessionId) : List Message :=
  emitted (step pool_size) (handed pool_size r) (start pool_size) es

/-- Until the server is rebuilt, what has been handed over stays so. -/
theorem wire_step (hv : v.Queues) {e : Event} (he : e ≠ .restart) :
    ((step pool_size v e).session r).wire = (v.session r).wire ++ handed pool_size r v e := by
  suffices happend : ∃ ms, ((step pool_size v e).session r).wire = (v.session r).wire ++ ms by
    obtain ⟨ms, hms⟩ := happend
    rw [handed, hms, List.drop_left]
  have hnone : v.handler.posted = [] → (v.session r).wire = [] := by
    intro hposted
    have hprefix := hv.wire_begins r
    rw [hposted] at hprefix
    exact List.prefix_nil.mp hprefix
  have hmoved : Moved v (step pool_size v e) r := step_moved hv.sound e
  cases hmoved with
  | kept hkeeps htasked => exact ⟨[], by rw [hkeeps.wire, List.append_nil]⟩
  | begun hnew hnext hbegun htasked =>
      have hprefix := (hv.queue r).wire_begins
      rw [hnew, hv.fresh.tasked] at hprefix
      exact ⟨[], by rw [hbegun, hnew, List.prefix_nil.mp hprefix]; rfl⟩
  | sent hposted hsent htasked =>
      rw [hsent]
      unfold Session.sendTask
      split
      · exact Session.startWrite_wire _
      · exact ⟨[], (List.append_nil _).symm⟩
  | written hwriting hwritten htasked =>
      rw [hwritten]
      unfold Session.written
      split
      · exact Session.startWrite_wire _
      · exact ⟨[], (List.append_nil _).symm⟩
  | failed hwriting hfailed htasked => exact ⟨[], by rw [hfailed, List.append_nil]; rfl⟩
  | dropped hdropped htasked hposted =>
      rw [posted_step hv.sound he, List.append_eq_nil_iff] at hposted
      exact ⟨[], by rw [hdropped, hnone hposted.1]; rfl⟩

/-- A session of the past is handed nothing. -/
theorem handed_eq_nil_of_gone (hv : v.Queues) (hgone : v.Gone r) (e : Event) :
    handed pool_size r v e = [] := by
  have hwire : ∀ {w : Server}, w.Queues → w.Gone r → (w.session r).wire = [] := by
    intro w hw hgone
    have hprefix := hw.wire_begins r
    rw [hgone.nothing] at hprefix
    exact List.prefix_nil.mp hprefix
  rw [handed, hwire (step_queues v e hv) (gone_step hv.sound hgone e), List.drop_nil]

/-- What is enqueued to a session is only added to. -/
theorem deliveries_concat (es : List Event) (e : Event) :
    (deliveries pool_size (es ++ [e]) r).map Prod.snd = (deliveries pool_size es r).map Prod.snd ++
      enqueuedTo pool_size r (exec (step pool_size) (start pool_size) es) e := by
  unfold deliveries
  rw [stamped_concat, List.map_append, List.map_map]
  congr 1
  exact List.map_id _

/-- A session of the present server object has written what was handed over, and was posted what was
enqueued; to one of the past nothing is added any more. -/
theorem handedOver_spec (pool_size : Nat) (es : List Event) (r : SessionId) :
    let v := exec (step pool_size) (start pool_size) es
    (v.session r).wire = handedOver pool_size es r ∧
        sentTo r v.handler.posted = (deliveries pool_size es r).map Prod.snd ∨
      v.Gone r ∧ handedOver pool_size es r <+: (deliveries pool_size es r).map Prod.snd := by
  refine exec_history (R := fun es (v : Server) => (v.session r).wire = handedOver pool_size es r ∧
      sentTo r v.handler.posted = (deliveries pool_size es r).map Prod.snd ∨
    v.Gone r ∧ handedOver pool_size es r <+: (deliveries pool_size es r).map Prod.snd)
    (Or.inl ⟨rfl, rfl⟩) ?_ es
  intro es e hes
  have hv : (exec (step pool_size) (start pool_size) es).Queues := exec_queues pool_size es
  have hconcat : handedOver pool_size (es ++ [e]) r = handedOver pool_size es r ++
      handed pool_size r (exec (step pool_size) (start pool_size) es) e := emitted_concat _ es e
  rw [deliveries_concat, hconcat]
  generalize exec (step pool_size) (start pool_size) es = v at hes hv ⊢
  rcases hes with ⟨hwire, hsent⟩ | ⟨hgone, hprefix⟩
  · have hbegins := hv.wire_begins r
    rw [hwire, hsent] at hbegins
    by_cases he : e = .restart
    · subst he
      by_cases henabled : v.Enabled .restart
      · have hnone : handed pool_size r v .restart = [] := by
          rw [handed, step, if_pos henabled]
          exact List.drop_nil
        rw [hnone, List.append_nil]
        by_cases hr : r < v.next
        · exact Or.inr ⟨gone_of_restart henabled hr, hbegins.trans (List.prefix_append _ _)⟩
        · -- nothing had been enqueued to a session that is yet to come
          have hempty : sentTo r v.handler.posted = [] := by
            apply List.eq_nil_iff_forall_not_mem.mpr
            intro m hm
            exact hr (hv.fresh.posted _ (mem_sentTo.mp hm))
          rw [← hsent, hempty, List.prefix_nil] at hbegins
          rw [hbegins, ← hsent, hempty, enqueuedTo, enqueued, step, if_pos henabled]
          refine Or.inl ⟨rfl, ?_⟩
          show [] = [] ++ sentTo r (List.drop _ [])
          rw [List.drop_nil]
          rfl
      · have hsame : step pool_size v .restart = v := by rw [step, if_neg henabled]
        rw [handed, enqueuedTo, enqueued, hsame, List.drop_length, List.drop_length, sentTo_nil,
          List.append_nil, List.append_nil]
        exact Or.inl ⟨hwire, hsent⟩
    · rw [sentTo_step hv.sound he, hsent]
      exact Or.inl ⟨by rw [wire_step hv he, hwire], rfl⟩
  · rw [handed_eq_nil_of_gone hv hgone e, List.append_nil]
    exact Or.inr ⟨gone_step hv.sound hgone e, hprefix.trans (List.prefix_append _ _)⟩

/-- What was handed over to a session is a prefix of what was enqueued to it. -/
theorem handedOver_prefix (pool_size : Nat) (es : List Event) (r : SessionId) :
    handedOver pool_size es r <+: (deliveries pool_size es r).map Prod.snd := by
  rcases handedOver_spec pool_size es r with ⟨hwire, hsent⟩ | ⟨-, hprefix⟩
  · rw [← hwire, ← hsent]
    exact (exec_queues pool_size es).wire_begins r
  · exact hprefix

/-- Everything that was enqueued to an open session has been handed over when the tasks have run and
no write is outstanding. -/
theorem handedOver_of_idle (pool_size : Nat) (es : List Event) (r : SessionId) :
    let v := exec (step pool_size) (start pool_size) es
    (v.session r).is_open = true → (v.session r).writing = 0 → v.ran = v.handler.posted.length →
      handedOver pool_size es r = (deliveries pool_size es r).map Prod.snd := by
  intro v hopen hidle hran
  rcases handedOver_spec pool_size es r with ⟨hwire, hsent⟩ | ⟨hgone, -⟩
  · have hv : v.Queues := exec_queues pool_size es
    rw [← hwire, ← hsent, ((hv.queue r).of_open hopen).2 hidle, tasked, hran, List.take_length]
  · have hclosed := hgone.silent.1
    rw [hopen] at hclosed
    cases hclosed

/-! ## What the stream carries -/

/-- The messages an event hands to the stream of a session, each with the bytes the stream carries for
it. -/
def transferred (pool_size : Nat) (r : SessionId) (v : Server) (e : Event × Transfer) :
    List (Message × Bytes) :=
  (handed pool_size r v e.1).map fun msg => (msg, e.2.carried msg.json_data)

/-- The messages a run hands to the stream of a session, each with the bytes the stream carries for
it. -/
def transfers (pool_size : Nat) (es : List (Event × Transfer)) (r : SessionId) :
    List (Message × Bytes) :=
  emitted (fun v e => step pool_size v e.1) (transferred pool_size r) (start pool_size) es

/-- What the peer of a session receives, one frame after the other. -/
def carried (pool_size : Nat) (es : List (Event × Transfer)) (r : SessionId) : List Bytes :=
  (transfers pool_size es r).map Prod.snd

/-- The frame at a place on the wire of a session is the message that the event at a position of the run
enqueued there. -/
def Arrives (pool_size : Nat) (es : List (Event × Transfer)) (r : SessionId) (p k : Nat) (m : Message) :
    Prop :=
  (deliveries pool_size (es.map Prod.fst) r)[p]? = some (k, m) ∧
    ∃ text, m.toJson = .ok text ∧ (carried pool_size es r)[p]? = some text

/-- A write that the event starts does not come to carry bytes of freed memory. -/
def WritesIntact (pool_size : Nat) (v : Server) (e : Event × Transfer) : Prop :=
  ∀ r, ∀ msg ∈ handed pool_size r v e.1, e.2.Intact msg.json_data

/-- The messages that were handed over arrive, on each wire in the order of the frames that they
come from. -/
structure InOrder (pool_size : Nat) (es : List (Event × Transfer)) : Prop where
  /-- What arrives was enqueued by a frame. -/
  origin : ∀ r p k m, Arrives pool_size es r p k m → ∃ env s json_data,
    (es.map Prod.fst)[k]? = some (.read env s json_data) ∧
    m ∈ enqueuedTo pool_size r (exec (step pool_size) (start pool_size) ((es.map Prod.fst).take k))
      (.read env s json_data)
  /-- Of two messages to one session, the one of the earlier frame arrives first. -/
  sender : ∀ (r : SessionId) (p q i j : Nat) a b,
    (deliveries pool_size (es.map Prod.fst) r)[p]? = some (i, a) →
    (deliveries pool_size (es.map Prod.fst) r)[q]? = some (j, b) → i < j →
    q < (carried pool_size es r).length →
    p < q ∧ Arrives pool_size es r p i a ∧ Arrives pool_size es r q j b
  /-- Two sessions receive the messages of two frames in the same order. -/
  recipients : ∀ (r₁ r₂ : SessionId) (p₁ q₁ p₂ q₂ i j : Nat) a₁ b₁ a₂ b₂, i ≠ j →
    Arrives pool_size es r₁ p₁ i a₁ → Arrives pool_size es r₁ q₁ j b₁ →
    Arrives pool_size es r₂ p₂ i a₂ → Arrives pool_size es r₂ q₂ j b₂ →
    (p₁ < q₁ ↔ p₂ < q₂) ∧ (p₁ < q₁ ↔ i < j)
  /-- On an open stream everything arrives, once the tasks have run and no write is outstanding. -/
  all : ∀ r, let v := exec (step pool_size) (start pool_size) (es.map Prod.fst)
    (v.session r).is_open = true → (v.session r).writing = 0 → v.ran = v.handler.posted.length →
    (carried pool_size es r).length = (deliveries pool_size (es.map Prod.fst) r).length

theorem map_fst_transfers (pool_size : Nat) (es : List (Event × Transfer)) (r : SessionId) :
    (transfers pool_size es r).map Prod.fst = handedOver pool_size (es.map Prod.fst) r := by
  refine map_emitted (fun v e => ?_) (start pool_size) es
  rw [transferred, List.map_map]
  exact List.map_id _

theorem length_carried (pool_size : Nat) (es : List (Event × Transfer)) (r : SessionId) :
    (carried pool_size es r).length = (handedOver pool_size (es.map Prod.fst) r).length := by
  rw [← map_fst_transfers, carried, List.length_map, List.length_map]

/-- The message at a place on the wire is the one at this place of what was enqueued. -/
theorem getElem?_deliveries (pool_size : Nat) (es : List (Event × Transfer)) (r : SessionId) {p : Nat}
    {m : Message} {bytes : Bytes} (h : (transfers pool_size es r)[p]? = some (m, bytes)) :
    ∃ k, (deliveries pool_size (es.map Prod.fst) r)[p]? = some (k, m) := by
  obtain ⟨rest, hrest⟩ := handedOver_prefix pool_size (es.map Prod.fst) r
  have hm : ((deliveries pool_size (es.map Prod.fst) r).map Prod.snd)[p]? = some m := by
    have hfst : ((transfers pool_size es r).map Prod.fst)[p]? = some m := by
      rw [List.getElem?_map, h]
      rfl
    rw [map_fst_transfers] at hfst
    rw [← hrest, List.getElem?_append_left (List.getElem?_eq_some_iff.mp hfst).1]
    exact hfst
  rw [List.getElem?_map, Option.map_eq_some_iff] at hm
  obtain ⟨⟨k, m'⟩, hk, rfl⟩ := hm
  exact ⟨k, hk⟩

/-- What is enqueued can be serialised. -/
theorem exists_toJson_of_delivery {es : List Event} {k : Nat} {m : Message}
    (h : (k, m) ∈ deliveries pool_size es r) : ∃ text, m.toJson = .ok text ∧ m.json_data = text := by
  obtain ⟨hk, hout⟩ := mem_stamped.mp h
  unfold outputAt at hout
  rw [List.getElem?_eq_getElem hk, Option.elim_some] at hout
  have hsound : (step pool_size (exec (step pool_size) (start pool_size) (es.take k)) es[k]).Sound :=
    step_sound _ es[k] (exec_sound pool_size (es.take k))
  have hvalid := hsound.handler.posted _ (List.mem_of_mem_drop (mem_sentTo.mp hout))
  obtain ⟨text, htext⟩ := Message.exists_toJson hvalid
  exact ⟨text, htext, by rw [Message.json_data, htext]⟩

/-- Every frame on the wires is the message of its place exactly if no write carries freed memory. -/
theorem arrives_iff (pool_size : Nat) (es : List (Event × Transfer)) :
    (∀ r p, p < (carried pool_size es r).length → ∃ k m, Arrives pool_size es r p k m) ↔
      StepsMeet (fun v e => step pool_size v e.1) (WritesIntact pool_size) (start pool_size) es := by
  have hmeet : StepsMeet (fun v e => step pool_size v e.1) (WritesIntact pool_size)
      (start pool_size) es ↔
        ∀ r, ∀ x ∈ transfers pool_size es r, x.2 = x.1.json_data := by
    have hstep : ∀ r, (∀ x ∈ transfers pool_size es r, x.2 = x.1.json_data) ↔
        StepsMeet (fun v e => step pool_size v e.1)
          (fun v e => ∀ msg ∈ handed pool_size r v e.1, e.2.Intact msg.json_data)
          (start pool_size) es := by
      intro r
      refine forall_emitted_iff.trans ?_
      refine forall_congr' fun pre => forall_congr' fun e => imp_congr_right fun _ => ?_
      exact List.forall_mem_map.trans
        (forall_congr' fun msg => imp_congr_right fun _ => Transfer.carried_eq_iff)
    constructor
    · intro h r
      exact (hstep r).mpr fun pre e hpre => h pre e hpre r
    · intro h pre e hpre r
      exact (hstep r).mp (h r) pre e hpre
  rw [hmeet]
  refine forall_congr' fun r => ?_
  have hcarried : ∀ (p : Nat) (m : Message) (bytes : Bytes),
      (transfers pool_size es r)[p]? = some (m, bytes) → (carried pool_size es r)[p]? = some bytes := by
    intro p m bytes hp
    rw [carried, List.getElem?_map, hp]
    rfl
  constructor
  · intro h x hx
    obtain ⟨p, hp⟩ := List.mem_iff_getElem?.mp hx
    have hplace := hcarried p x.1 x.2 hp
    obtain ⟨k, m, hk, text, htext, hsame⟩ := h p (List.getElem?_eq_some_iff.mp hplace).1
    obtain ⟨k', hk'⟩ := getElem?_deliveries pool_size es r hp
    rw [hk] at hk'
    obtain ⟨rfl, rfl⟩ := Prod.mk.inj (Option.some.inj hk')
    rw [hplace] at hsame
    rw [Option.some.inj hsame, Message.json_data, htext]
  · intro h p hp
    rw [carried, List.length_map] at hp
    obtain ⟨⟨m, bytes⟩, hx⟩ : ∃ x, (transfers pool_size es r)[p]? = some x :=
      ⟨_, List.getElem?_eq_getElem hp⟩
    obtain ⟨k, hk⟩ := getElem?_deliveries pool_size es r hx
    obtain ⟨text, htext, hdata⟩ := exists_toJson_of_delivery (List.mem_of_getElem? hk)
    have hbytes : bytes = m.json_data := h _ (List.mem_of_getElem? hx)
    exact ⟨k, m, hk, text, htext, by rw [hcarried p m bytes hx, hbytes, hdata]⟩

/-- **`delivery_order_iff`** — in every run, with any freed memory: all that the peers receive is the
messages that were enqueued to them, each at its place, exactly if no write comes to carry bytes that
the stream had not taken when `Session::write` returned and that have changed since. Then two messages to
one session arrive in the order in which their frames were read and handled, any two sessions receive
the messages of the same two frames in the same order, and an open session on which no write is
outstanding has received everything that was enqueued to it. -/
theorem delivery_order_iff (pool_size : Nat) (es : List (Event × Transfer)) :
    ((∀ r p, p < (carried pool_size es r).length → ∃ k m, Arrives pool_size es r p k m) ↔
      StepsMeet (fun v e => step pool_size v e.1) (WritesIntact pool_size) (start pool_size) es) ∧
    (StepsMeet (fun v e => step pool_size v e.1) (WritesIntact pool_size) (start pool_size) es →
      InOrder pool_size es) := by
  refine ⟨arrives_iff pool_size es, fun hintact => ?_⟩
  have hplace : ∀ r p k m, (deliveries pool_size (es.map Prod.fst) r)[p]? = some (k, m) →
      p < (carried pool_size es r).length → Arrives pool_size es r p k m := by
    intro r p k m hk hp
    obtain ⟨k', m', harrives⟩ := (arrives_iff pool_size es).mpr hintact r p hp
    have hsame := harrives.1
    rw [hk] at hsame
    obtain ⟨rfl, rfl⟩ := Prod.mk.inj (Option.some.inj hsame)
    exact harrives
  refine ⟨?_, ?_, ?_, ?_⟩
  · rintro r p k m ⟨hk, -⟩
    obtain ⟨hlt, hout⟩ := mem_stamped.mp (List.mem_of_getElem? hk)
    unfold outputAt at hout
    rw [List.getElem?_eq_getElem hlt, Option.elim_some] at hout
    obtain ⟨env, s, json_data, msg, he, -⟩ :=
      routed_of_mem_enqueued (exec_sound pool_size ((es.map Prod.fst).take k)) (mem_sentTo.mp hout)
    rw [he] at hout
    exact ⟨env, s, json_data, by rw [List.getElem?_eq_getElem hlt, he], hout⟩
  · intro r p q i j a b hp hq hlt hlength
    -- the wire begins what was enqueued, and that is sorted by the positions of the frames
    have hpq : p < q := (lt_iff_of_stamped hp hq (Nat.ne_of_lt hlt)).mpr hlt
    exact ⟨hpq, hplace r p i a hp (hpq.trans hlength), hplace r q j b hq hlength⟩
  · intro r₁ r₂ p₁ q₁ p₂ q₂ i j a₁ b₁ a₂ b₂ hne hp₁ hq₁ hp₂ hq₂
    have h₁ := lt_iff_of_stamped hp₁.1 hq₁.1 hne
    have h₂ := lt_iff_of_stamped hp₂.1 hq₂.1 hne
    exact ⟨h₁.trans h₂.symm, h₁⟩
  · intro r v hopen hidle hran
    rw [length_carried, handedOver_of_idle pool_size (es.map Prod.fst) r hopen hidle hran,
      List.length_map]

end Order

/-- No stream is closed by the event, and no write fails. -/
def Event.keepsOpen : Event → Bool
  | .readError _ | .writeError _ | .closed _ | .lost _ | .restart => false
  | _ => true

/-- A stranger sends two messages to everybody, which bob's session is handed one after the other; its
stream is full when the first one is handed over. -/
def strangerWritesTwice : List (Event × Transfer) :=
  (bobLogsIn ++ ([.accepted true, .handshaken true false,
    .read .plain 1 (frameText "7" "GROUP_CHAT" "one"), .read .plain 1 (frameText "7" "GROUP_CHAT" "two"),
    .task, .task, .task, .task, .wrote 0] : List Event)).map (·, .whole) ++
    [(.wrote 0, .late), (.wrote 0, .whole)]

/-- The messages as the handler enqueues them to bob's session. -/
def strangerText (text : String) : Message := ⟨7, 0, .GROUP_CHAT, 0, str text, 0⟩

/-- Every stream stays open and no write fails, and yet the first of the two messages does not
arrive. -/
theorem first_message_lost :
    letI := OpenSSL.zero
    ¬∀ (pool_size : Nat) (es : List (Event × Transfer)), (∀ e ∈ es, e.1.keepsOpen = true) →
      ∀ (s r : SessionId) (p q i j : Nat) env₁ env₂ json₁ json₂ a b,
        (es.map Prod.fst)[i]? = some (.read env₁ s json₁) →
        (es.map Prod.fst)[j]? = some (.read env₂ s json₂) → i < j →
        a.messageType = .GROUP_CHAT → b.messageType = .GROUP_CHAT →
        (deliveries pool_size (es.map Prod.fst) r)[p]? = some (i, a) →
        (deliveries pool_size (es.map Prod.fst) r)[q]? = some (j, b) →
        q < (carried pool_size es r).length →
        ∃ p' q' : Nat, p' < q' ∧ (∃ text, a.toJson = .ok text ∧ (carried pool_size es r)[p']? = some text) ∧
          ∃ text, b.toJson = .ok text ∧ (carried pool_size es r)[q']? = some text := by
  intro hall
  obtain ⟨p, q, -, ⟨text, htext, hp⟩, -⟩ := hall 1 strangerWritesTwice (by decide +kernel) 1 0 2 3 6 7
    .plain .plain (frameText "7" "GROUP_CHAT" "one") (frameText "7" "GROUP_CHAT" "two")
    (strangerText "one") (strangerText "two") rfl rfl (by decide) rfl rfl (by decide +kernel)
    (by decide +kernel) (by decide +kernel)
  have hmem : (strangerText "one").json_data ∈ @carried OpenSSL.zero 1 strangerWritesTwice 0 := by
    rw [Message.json_data, htext]
    exact List.mem_of_getElem? hp
  exact absurd hmem (by decide +kernel)

end Server

end TinyIM
