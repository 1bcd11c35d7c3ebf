/-
# ViewOrder — the order in which a conversation is shown

The view of a conversation sorts by message ids, and the ids come from three counters: the one of the
page that wrote a message, the next number of it when the server relays the message, and the one of the
table that the history is read from. `ordered_iff` says of every run when the messages stand in the
order in which the server handled their frames, in every state: exactly if the id of every message that
is filed or handled puts it into its place. `reply_before_third_message` is a run in which a reply
is shown in front of a message that was handled before it.
-/
import TinyIM.Exchange

namespace TinyIM

open TinyIM.Lib TinyIM.Lib.Text TinyIM.Lib.Runs TinyIM.Lib.StableSort

namespace Exchange

/-! ## The order of handling and the order of the view -/

section Order

variable (g : Parties)

/-- Both frames have been handled, and the first one earlier. -/
def Before (handled : List Nat) (s t : Nat) : Prop :=
  handled.idxOf s < handled.idxOf t ∧ t ∈ handled

instance (handled : List Nat) (s t : Nat) : Decidable (Before handled s t) :=
  inferInstanceAs (Decidable (_ ∧ _))

/-- What the page of a party has cached of the conversation: what it sent, and what it received. -/
def conversation (c : Party) (messageCache : MessageCache Nat) : List (ShownMessage Nat) :=
  MessageCache.collect messageCache (g.id c).toInt (g.id c.other).toInt true ++
    MessageCache.collect messageCache (g.id c.other).toInt (g.id c).toInt false

/-- The messages of the conversation as the page of a party goes through them. -/
def view (c : Party) (messageCache : MessageCache Nat) : List (ShownMessage Nat) :=
  MessageCache.combinedMessages messageCache (g.id c).toInt (g.id c.other).toInt

/-- No message comes before one that was handled earlier. -/
def ViewOrdered (handled : List Nat) (c : Party) (messageCache : MessageCache Nat) : Prop :=
  (view g c messageCache).Pairwise fun a b => ¬Before handled b.mark a.mark

/-- Both pages go through their messages in the order in which the server handled them. -/
def Ordered (w : World) : Prop := ∀ c, ViewOrdered g w.handled c (w.client c).messageCache

/-- The id of a message that is filed puts it behind the messages that were handled before it, and in
front of those that were handled after it. -/
def FitsIn (handled : List Nat) (c : Party) (messageCache : MessageCache Nat)
    (call : MessageObject Nat × JsValue) : Prop :=
  ∀ z, MessageCache.Adds call (g.id c).toInt (g.id c.other).toInt z →
    ∀ a ∈ conversation g c messageCache,
      (Before handled a.mark z.mark → MessageCache.Precedes a z) ∧
      (Before handled z.mark a.mark → ¬MessageCache.Precedes a z)

/-- No message that has been handled has a larger id than one with the mark that is filed already, and
none with the same id stands behind it. -/
def StandsLast (handled : List Nat) (mark : Nat) (c : Party) (messageCache : MessageCache Nat) :
    Prop :=
  (∀ a ∈ conversation g c messageCache, ∀ b ∈ conversation g c messageCache,
    a.mark = mark → b.mark ∈ handled → b.messageId ≤ a.messageId) ∧
  (conversation g c messageCache).Pairwise fun a b =>
    a.messageId = b.messageId → a.mark = mark → b.mark ∉ handled

/-- The condition on an event. A message that arrives and is filed gets its place from its id and
from which of the two users sent it; a message that is filed already gets its place in the order of
handling when its frame is handled. -/
def Fits (w : World) : Event → Prop
  | .serve session _ =>
    match w.wire session with
    | [] => True
    | (_, mark) :: _ => ∀ c, StandsLast g w.handled mark c (w.client c).messageCache
  | .deliver c _ =>
    let client := w.client c
    match w.inbox client.session with
    | [] => True
    | (msg, mark) :: _ =>
      ∀ call ∈ arrival client.page msg mark, FitsIn g w.handled c client.messageCache call
  | _ => True

end Order

section Places

variable {g} {handled : List Nat} {c : Party} {messageCache : MessageCache Nat} {mark : Nat}
  {call : MessageObject Nat × JsValue}

theorem not_before_of_notMem {s t : Nat} (h : t ∉ handled) : ¬Before handled s t := fun hb => h hb.2

theorem not_before_of_notMem_left {s t : Nat} (h : s ∉ handled) : ¬Before handled s t := by
  rintro ⟨hlt, hmem⟩
  have hs := List.idxOf_eq_length h
  have ht := List.idxOf_lt_length_of_mem hmem
  omega

/-- One more frame has been handled. -/
theorem before_concat {s t : Nat} (hmark : mark ∉ handled) : Before (handled ++ [mark]) s t ↔
    Before handled s t ∨ (s ∈ handled ∧ t = mark) := by
  unfold Before
  by_cases ht : t ∈ handled
  · -- the new frame comes after both
    have hne : t ≠ mark := fun h => hmark (h ▸ ht)
    have htlt := List.idxOf_lt_length_of_mem ht
    rw [List.idxOf_append_of_mem ht, and_iff_left (List.mem_append_left _ ht), and_iff_left ht,
      or_iff_left fun h => hne h.2]
    by_cases hs : s ∈ handled
    · rw [List.idxOf_append_of_mem hs]
    · have hs' := List.idxOf_eq_length hs
      rw [List.idxOf_append_of_notMem hs]
      omega
  · rw [or_iff_right fun h => ht h.2, List.idxOf_append_of_notMem ht, List.mem_append,
      or_iff_right ht, List.mem_singleton]
    refine and_congr_left ?_
    rintro rfl
    rw [List.idxOf_cons_self, Nat.add_zero]
    by_cases hs : s ∈ handled
    · rw [List.idxOf_append_of_mem hs]
      exact iff_of_true (List.idxOf_lt_length_of_mem hs) hs
    · rw [List.idxOf_append_of_notMem hs]
      exact iff_of_false (by omega) hs

theorem viewOrdered_step_iff :
    ViewOrdered g handled c (MessageCache.step messageCache call) ↔
      ViewOrdered g handled c messageCache ∧ FitsIn g handled c messageCache call := by
  unfold ViewOrdered view FitsIn
  rw [MessageCache.pairwise_step_iff call (g.ne c)]
  refine and_congr Iff.rfl (forall_congr' fun z => imp_congr Iff.rfl ?_)
  refine forall_congr' fun a => imp_congr (mem_sortBy _) ?_
  rw [and_comm]
  exact and_congr not_imp_not imp_not_comm

theorem viewOrdered_concat_iff (hmark : mark ∉ handled) :
    ViewOrdered g (handled ++ [mark]) c messageCache ↔
      ViewOrdered g handled c messageCache ∧ StandsLast g handled mark c messageCache := by
  have hboth : ∀ a b : ShownMessage Nat, ¬Before (handled ++ [mark]) b.mark a.mark ↔
      ¬Before handled b.mark a.mark ∧ (a.mark = mark → b.mark ∉ handled) := by
    intro a b
    rw [before_concat hmark, not_or]
    refine and_congr Iff.rfl ⟨?_, ?_⟩
    · exact fun h ha hb => h ⟨hb, ha⟩
    · exact fun h hb => h hb.2 hb.1
  unfold ViewOrdered
  simp only [hboth, List.pairwise_and_iff]
  refine and_congr Iff.rfl ?_
  unfold view MessageCache.combinedMessages StandsLast
  rw [pairwise_sortBy_iff]
  refine and_congr ?_ Iff.rfl
  constructor
  · intro h a ha b hb heq hhandled
    by_contra hlt
    exact h a ha b hb (by omega) heq hhandled
  · intro h a ha b hb hlt heq hhandled
    have hle := h a ha b hb heq hhandled
    omega

end Places

/-! ## One event -/

section Exact

variable {g : Parties} {w w' : World} {c : Party}

/-- Nothing that matters has changed. -/
theorem ordered_congr (hhandled : w'.handled = w.handled)
    (hcache : ∀ d, (w'.client d).messageCache = (w.client d).messageCache) :
    Ordered g w' ↔ Ordered g w := by
  unfold Ordered
  rw [hhandled]
  exact forall_congr' fun d => by rw [hcache d]

/-- One of the caches has changed. -/
theorem ordered_update (h : Ordered g w) {messageCache : MessageCache Nat}
    (hhandled : w'.handled = w.handled) (hcache : (w'.client c).messageCache = messageCache)
    (hother : ∀ d, d ≠ c → (w'.client d).messageCache = (w.client d).messageCache) :
    Ordered g w' ↔ ViewOrdered g w.handled c messageCache := by
  unfold Ordered
  rw [hhandled]
  constructor
  · intro h'
    have hc := h' c
    rw [hcache] at hc
    exact hc
  · intro hc d
    by_cases hd : d = c
    · rw [hd, hcache]
      exact hc
    · rw [hother d hd]
      exact h d

theorem act_messageCache (w : World) (c : Party) (page : Page) (messageCache : MessageCache Nat) :
    ((act w c page messageCache).client c).messageCache = messageCache := by
  rw [act_eq]
  dsimp only
  rw [Function.update_self]

theorem act_other (w : World) (c : Party) (page : Page) (messageCache : MessageCache Nat)
    (d : Party) (hd : d ≠ c) : (act w c page messageCache).client d = w.client d := by
  rw [act_eq]
  dsimp only
  rw [Function.update_of_ne hd]

theorem act_handled (w : World) (c : Party) (page : Page) (messageCache : MessageCache Nat) :
    (act w c page messageCache).handled = w.handled := by
  rw [act_eq]

/-- A page that files nothing changes no view. -/
theorem ordered_act_same {page : Page} :
    Ordered g (act w c page (w.client c).messageCache) ↔ Ordered g w := by
  refine ordered_congr (act_handled ..) ?_
  intro d
  by_cases hd : d = c
  · rw [hd, act_messageCache]
  · rw [act_other _ _ _ _ d hd]

/-- A message that has not been handled fits in anywhere. -/
theorem fitsIn_of_notMem {handled : List Nat} {messageCache : MessageCache Nat}
    {call : MessageObject Nat × JsValue} (h : call.1.mark ∉ handled) :
    FitsIn g handled c messageCache call := by
  rintro z ⟨e, hcached, -, rfl⟩ a ha
  have hmark : (MessageCache.shownTo (g.id c).toInt e).mark = call.1.mark :=
    MessageCache.cached_mark hcached
  rw [hmark]
  exact ⟨fun hb => absurd hb (not_before_of_notMem h),
    fun hb => absurd hb (not_before_of_notMem_left h)⟩

variable [OpenSSL]

/-- **`ordered_step_iff`** — one event keeps the order exactly if it fits. -/
theorem ordered_step_iff (w : World) (e : Event) (hmarked : Marked w) (h : Ordered g w) :
    Ordered g (step g w e) ↔ Fits g w e := by
  cases e with
  | login c now password => exact iff_of_true (ordered_act_same.mpr h) trivial
  | chat c now toUserId content content_json =>
      refine iff_of_true ?_ trivial
      unfold step
      dsimp only
      split
      · exact h
      · -- the frame of the new message has not been handled
        have hnew : w.frames.length ∉ w.handled := fun hmem =>
          absurd (hmarked.queued.known _ hmem) (Nat.lt_irrefl _)
        refine (ordered_update h (act_handled ..) (act_messageCache ..) fun d hd =>
          congrArg _ (act_other _ _ _ _ d hd)).mpr ?_
        exact viewOrdered_step_iff.mpr ⟨h c, fitsIn_of_notMem hnew⟩
  | send c now type toUserId content => exact iff_of_true (ordered_act_same.mpr h) trivial
  | others session msg => exact iff_of_true h trivial
  | serve session env =>
      cases hwire : w.wire session with
      | nil =>
          rw [step_serve_nil hwire]
          simp only [Fits, hwire]
          exact iff_of_true h trivial
      | cons p rest =>
          obtain ⟨msg, mark⟩ := p
          have hmark : mark ∉ w.handled := by
            refine hmarked.queued.waiting session (msg, mark) ?_
            rw [hwire]
            exact List.mem_cons_self
          rw [step_serve_cons hwire]
          simp only [Fits, hwire]
          show (∀ c, ViewOrdered g (w.handled ++ [mark]) c (w.client c).messageCache) ↔ _
          simp only [viewOrdered_concat_iff hmark, forall_and]
          exact and_iff_right h
  | deliver c now =>
      cases hinbox : w.inbox (w.client c).session with
      | nil =>
          rw [step_deliver_nil hinbox]
          simp only [Fits, hinbox]
          exact iff_of_true h trivial
      | cons p rest =>
          obtain ⟨msg, mark⟩ := p
          have hrest : Ordered g { w with
              inbox := Function.update w.inbox (w.client c).session rest } := h
          rw [step_deliver_cons hinbox]
          simp only [Fits, hinbox]
          refine (ordered_update hrest (act_handled ..) (act_messageCache ..) fun d hd =>
            congrArg _ (act_other _ _ _ _ d hd)).trans ?_
          unfold cacheArrived
          cases arrival (w.client c).page msg mark with
          | none => exact iff_of_true (h c) fun call hcall => by cases hcall
          | some call =>
              rw [viewOrdered_step_iff, and_iff_right (h c)]
              exact ⟨fun hfits call' hcall => Option.some.inj hcall ▸ hfits, fun hfits => hfits call rfl⟩
  | reload c =>
      refine iff_of_true ?_ trivial
      have hempty : ViewOrdered g w.handled c MessageCache.empty := List.Pairwise.nil
      refine (ordered_update h ?_ reload_messageCache
        fun d hd => reload_messageCache_of_ne hd).mpr hempty
      rfl
  | reconnect c =>
      refine iff_of_true ?_ trivial
      refine (ordered_congr ?_ reconnect_messageCache).mpr h
      rfl
  | closed session => exact iff_of_true h trivial

end Exact

/-! ## Runs -/

section Runs

variable {g : Parties}

theorem start_ordered (g : Parties) (pool_size : Nat) : Ordered g (start pool_size) := by
  intro c
  cases c with
  | first => exact List.Pairwise.nil
  | second => exact List.Pairwise.nil

/-- What a page renders is in order if what it goes through is. -/
theorem Ordered.displayed {w : World} (h : Ordered g w) (c : Party) :
    (MessageCache.displayed (w.client c).messageCache (g.id c).toInt (g.id c.other).toInt).Pairwise
      fun a b => ¬Before w.handled b.mark a.mark := by
  rw [MessageCache.displayed_eq]
  exact (h c).sublist (List.takeWhile_sublist _)

/-- **`ordered_iff`** — in every run, the pages go through their messages in the order in which the
server handled them, in every state, exactly if every message that is filed or handled fits; and then
what they render is in this order too. -/
theorem ordered_iff [OpenSSL] (g : Parties) (pool_size : Nat) (es : List Event) :
    (Throughout (step g) (Ordered g) (start pool_size) es ↔
      StepsMeet (step g) (Fits g) (start pool_size) es) ∧
    (StepsMeet (step g) (Fits g) (start pool_size) es →
      Throughout (step g) (fun w => ∀ c, (MessageCache.displayed (w.client c).messageCache
        (g.id c).toInt (g.id c.other).toInt).Pairwise fun a b => ¬Before w.handled b.mark a.mark)
        (start pool_size) es) := by
  have hexact : Throughout (step g) (Ordered g) (start pool_size) es ↔
      StepsMeet (step g) (Fits g) (start pool_size) es :=
    throughout_iff_stepsMeet (step_marked g) ordered_step_iff (start_marked pool_size)
      (start_ordered g pool_size) es
  exact ⟨hexact, fun hfits pre hpre => (hexact.mpr hfits pre hpre).displayed⟩

end Runs

/-- The ids of two users who draw equal digits when they sign up. -/
def twoUsers : Parties where
  id
    | .first => 111111111
    | .second => 222222222
  differ := by decide

/-- A user submits the chat form. -/
def writes (c : Party) (username text : String) : Event :=
  .chat c 0 (twoUsers.id c.other)
    (.object [(js "username", .string (js username)), (js "text", .string (js text)),
      (js "timestamp", .number_float (.finite ⟨0⟩))])
    (str ("\x7b\"username\":\"" ++ username ++ "\",\"text\":\"" ++ text ++ "\",\"timestamp\":0\x7d"))

/-- The server handles a frame of a page, and what it sends back arrives. -/
def answered (c : Party) (session : SessionId) : List Event := [.serve session .plain, .deliver c 0]

/-- Bob and Amy sign up and log in, Bob asks Amy to be his friend, she accepts, and both ask for their
friends. Then Bob writes three messages, and when the server has handled them Amy writes one. -/
def replyToThree : List Event :=
  [.others 9 BusinessHandler.signUpFrame, .serve 9 .plain,
    .others 9 { BusinessHandler.signUpFrame with
      content := str "\x7b\"password\":\"pw\",\"username\":\"amy\"\x7d" },
    .serve 9 (.drawing 1), .login .first 0 (str "pw")] ++ answered .first 0 ++ [.serve 0 .plain,
    .login .second 0 (str "pw")] ++ answered .second 1 ++ [.serve 1 .plain,
    .send .first 0 .ADD_FRIEND 222222222 (str " "), .serve 0 .plain, .deliver .second 0,
    .send .second 0 .FRIEND_REQUEST_RESPONSE 111111111 (str "accept"), .serve 1 .plain,
    .send .first 0 .FRIEND_LIST 0 (str " ")] ++ answered .first 0 ++ [
    .send .second 0 .FRIEND_LIST 0 (str " ")] ++ answered .second 1 ++ [
    writes .first "bob" "one", writes .first "bob" "two", writes .first "bob" "three",
    .serve 0 .plain, .deliver .second 0, .serve 0 .plain, .deliver .second 0,
    .serve 0 .plain, .deliver .second 0,
    writes .second "amy" "four", .serve 1 .plain, .deliver .first 0]

/-- Amy's message is shown to Bob in front of his third one. -/
theorem reply_before_third_message :
    letI := OpenSSL.zero
    let w := exec (step twoUsers) (start 1) replyToThree
    let shown := MessageCache.displayed (w.client .first).messageCache 111111111 222222222
    w.handled = List.range 14 ∧
      shown.map (fun m => (m.mark, m.messageId)) = [(10, 4), (11, 5), (13, 5), (12, 6)] ∧
      ¬shown.Pairwise fun a b => ¬Before w.handled b.mark a.mark := by
  decide +kernel

end Exchange

end TinyIM
