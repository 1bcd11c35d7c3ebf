/-
# Notifications — how often the page answers a friend request

Each request that arrives registers one more `click` listener on the notification. None is ever
removed, so a click runs the listeners of all requests so far. The module counts what is answered and
what is sent, and from it says when every request is answered at most once.
-/
import TinyIM.PageCache

namespace TinyIM

open TinyIM.Lib TinyIM.Lib.Text TinyIM.Lib.Runs TinyIM.Lib.Stops

/-! ## The notification -/

/-- The page together with its friend request notification. -/
structure Tab where
  page : Page
  /-- `friendRequestNotification.style.display` is `'block'`. -/
  shown : Bool
  /-- The listeners in order, each as the `fromUserId` and the `toUserId` it captured. -/
  listeners : List (Int32 × Int32)

namespace Tab

/-- A page on which no request has been shown. -/
def opened (p : Page) : Tab := ⟨p, false, []⟩

/-- Show the notification and register a listener for the request. -/
def showFriendRequestNotification (fromUserId toUserId : Int32) (t : Tab) : Tab :=
  { t with shown := true, listeners := t.listeners ++ [(fromUserId, toUserId)] }

/-- The `FRIEND_REQUEST` branch of `handleMessage`. -/
def handleFriendRequest (msg : Message) (t : Tab) : Tab :=
  if t.page.userId = msg.toUserId then showFriendRequestNotification msg.fromUserId msg.toUserId t
  else t

/-- One listener runs; `prompt` is when the user answers `confirm`, and whether by accepting. -/
def listener (request : Int32 × Int32) (prompt : Int64 × Bool) (t : Tab) : Tab where
  page := stateOf (Page.sendMessage prompt.1 .FRIEND_REQUEST_RESPONSE request.2 request.1
    (if prompt.2 then str "accept" else str "reject") t.page)
  shown := false
  listeners := t.listeners

/-- The user clicks. A notification that is not shown cannot be hit. -/
def click (prompts : Nat → Int64 × Bool) (t : Tab) : Tab :=
  if t.shown then t.listeners.zipIdx.foldl (fun t l => listener l.1 (prompts l.2) t) t else t

/-- What happens to the page. -/
inductive Event where
  | submitLogin (now : Int64) (userId : Int32) (password : Bytes)
  | message (now : Int64) (msg : Message)
  /-- A click on the notification, with what the user does in each prompt it leads to. -/
  | click (prompts : Nat → Int64 × Bool)

/-- One event. -/
def step (t : Tab) : Event → Tab
  | .submitLogin now userId password =>
    { t with page := stateOf (Page.submitLogin now userId password t.page) }
  | .message now msg =>
    if msg.messageType = .FRIEND_REQUEST then handleFriendRequest msg t
    else { t with page := Page.step t.page (now, msg) }
  | .click prompts => t.click prompts

/-! ## Requests and answers -/

/-- The event is the arrival of a request of user `r`. -/
def Event.isRequest (r : Int32) : Event → Bool
  | .message _ msg => msg.messageType = .FRIEND_REQUEST ∧ msg.fromUserId = r
  | _ => false

/-- How many requests of user `r` have arrived. -/
def requests (r : Int32) (es : List Event) : Nat := es.countP (Event.isRequest r)

/-- How many responses to user `r` have been sent. -/
def responses (r : Int32) (sent : List Message) : Nat :=
  sent.countP fun m => m.messageType = .FRIEND_REQUEST_RESPONSE ∧ m.toUserId = r

/-- The requests an event answers, each as the number of its listener: a click on the shown
notification runs them all. -/
def answers (t : Tab) : Event → List Nat
  | .click _ => if t.shown then t.listeners.zipIdx.map Prod.snd else []
  | _ => []

/-- The event, if it is a click on the shown notification. -/
def hits (t : Tab) : Event → List Event
  | .click prompts => if t.shown then [.click prompts] else []
  | _ => []

/-- The requests answered in a run, one by one. -/
def answered (t : Tab) (es : List Event) : List Nat := emitted step answers t es

/-- How many clicks of a run hit the shown notification. -/
def clicks (t : Tab) (es : List Event) : Nat := (emitted step hits t es).length

/-- No user gets more responses than it has sent requests, and no request is answered again. -/
def AtMostOnce (p : Page) (es : List Event) : Prop :=
  (∀ r, responses r (exec step (opened p) es).page.sent ≤ responses r p.sent + requests r es) ∧
    (answered (opened p) es).Nodup

/-! ## What one event changes -/

section Step

variable {t : Tab} {r : Int32}

theorem responses_append_of_ne {sent ms : List Message}
    (h : ∀ m ∈ ms, m.messageType ≠ .FRIEND_REQUEST_RESPONSE) :
    responses r (sent ++ ms) = responses r sent := by
  unfold responses
  rw [List.countP_append, Nat.add_eq_left, List.countP_eq_zero]
  intro m hm hresponse
  exact h m hm (of_decide_eq_true hresponse).1

/-- No message makes the page send a response by itself. -/
theorem responses_pageStep (p : Page) (d : Int64 × Message) :
    responses r (Page.step p d).sent = responses r p.sent := by
  obtain ⟨now, msg⟩ := d
  by_cases htext : msg.messageType = .TEXT
  · rw [Page.step_text htext]
  by_cases hgroup : msg.messageType = .GROUP_CHAT
  · rw [Page.step_group hgroup]
  by_cases hlogin : msg.messageType = .LOGIN_RESPONSE
  · obtain ⟨-, -, ms, hsent, hpull⟩ := Page.step_login p now hlogin
    rw [hsent]
    refine responses_append_of_ne fun m hm hty => ?_
    rw [hpull m hm] at hty
    cases hty
  · rw [Page.step_other htext hgroup hlogin]

/-- A listener sends one response, to the user whose request it was registered for. -/
theorem responses_listener (l : Int32 × Int32) (prompt : Int64 × Bool) :
    responses r (t.listener l prompt).page.sent =
      responses r t.page.sent + if l.1 = r then 1 else 0 := by
  show List.countP _ (t.page.sent ++ [_]) = _
  rw [List.countP_append, List.countP_singleton]
  simp [responses]

/-- Listeners that run one after another send one response each. -/
theorem responses_listeners (prompts : Nat → Int64 × Bool) (ls : List ((Int32 × Int32) × Nat)) :
    responses r (ls.foldl (fun t l => listener l.1 (prompts l.2) t) t).page.sent =
      responses r t.page.sent + (ls.map fun l => l.1.1).count r := by
  induction ls generalizing t with
  | nil => rfl
  | cons l ls ih =>
      rw [List.foldl_cons, ih, responses_listener, List.map_cons, List.count_cons, Nat.add_assoc,
        Nat.add_comm (List.count r _)]
      simp only [beq_iff_eq]

theorem listeners_listeners (prompts : Nat → Int64 × Bool) (ls : List ((Int32 × Int32) × Nat)) :
    (ls.foldl (fun t l => listener l.1 (prompts l.2) t) t).listeners = t.listeners := by
  induction ls generalizing t with
  | nil => rfl
  | cons l ls ih => exact ih

/-- A click that hits the notification answers every request shown so far. -/
theorem responses_click (hshown : t.shown = true) (prompts : Nat → Int64 × Bool) :
    responses r (t.click prompts).page.sent =
      responses r t.page.sent + (t.listeners.map Prod.fst).count r := by
  unfold click
  rw [if_pos hshown, responses_listeners]
  have hmap : t.listeners.zipIdx.map (fun l => l.1.1) = t.listeners.map Prod.fst := by
    show t.listeners.zipIdx.map (Prod.fst ∘ Prod.fst) = _
    rw [← List.map_map, List.zipIdx_map_fst]
  rw [hmap]

theorem click_of_hidden (hshown : t.shown = false) (prompts : Nat → Int64 × Bool) :
    t.click prompts = t := by
  unfold click
  rw [if_neg (by rw [hshown]; exact Bool.false_ne_true)]

end Step

/-! ## Counting answers -/

/-- What holds after a run from a page on which no request has been shown. -/
structure Counted (p : Page) (es : List Event) (t : Tab) : Prop where
  /-- A shown notification has a listener. -/
  listening : t.shown = true → t.listeners ≠ []
  /-- Each listener belongs to a request that arrived. -/
  registered : ∀ r, (t.listeners.map Prod.fst).count r ≤ requests r es
  /-- Each click answers the requests that have arrived, or some of them. -/
  responded : ∀ r, responses r t.page.sent ≤
    responses r p.sent + clicks (opened p) es * requests r es
  /-- Each click answers no request twice. -/
  once : ∀ k, (answered (opened p) es).count k ≤ clicks (opened p) es
  /-- Each click answers the first request. -/
  first : (answered (opened p) es).count 0 = clicks (opened p) es

section Run

variable {p : Page} {es : List Event} {t : Tab} {e : Event}

theorem requests_concat (r : Int32) :
    requests r (es ++ [e]) = requests r es + if e.isRequest r then 1 else 0 := by
  unfold requests
  rw [List.countP_append, List.countP_singleton]

theorem answered_concat : answered t (es ++ [e]) = answered t es ++ answers (exec step t es) e :=
  emitted_concat t es e

theorem clicks_concat : clicks t (es ++ [e]) = clicks t es + (hits (exec step t es) e).length := by
  unfold clicks
  rw [emitted_concat, List.length_append]

/-- The clicks of a part of a run are among those of the run. -/
theorem clicks_mono {pre : List Event} (hpre : pre <+: es) : clicks t pre ≤ clicks t es := by
  obtain ⟨rest, rfl⟩ := hpre
  induction rest using List.reverseRecOn with
  | nil => rw [List.append_nil]
  | append_singleton rest e ih =>
      rw [← List.append_assoc, clicks_concat]
      exact Nat.le_add_right_of_le ih

theorem counted_opened (p : Page) : Counted p [] (opened p) where
  listening h := (nomatch h)
  registered _ := Nat.le_refl _
  responded _ := Nat.le_refl _
  once _ := Nat.le_refl _
  first := rfl

/-- An event that runs no listener. -/
theorem Counted.quiet (h : Counted p es (exec step (opened p) es))
    (hanswers : answers (exec step (opened p) es) e = [])
    (hhits : hits (exec step (opened p) es) e = []) {t' : Tab}
    (hsent : ∀ r, responses r t'.page.sent = responses r (exec step (opened p) es).page.sent)
    (hlistening : t'.shown = true → t'.listeners ≠ [])
    (hregistered : ∀ r, (t'.listeners.map Prod.fst).count r ≤
      ((exec step (opened p) es).listeners.map Prod.fst).count r +
        if e.isRequest r then 1 else 0) : Counted p (es ++ [e]) t' := by
  have hanswered : answered (opened p) (es ++ [e]) = answered (opened p) es := by
    rw [answered_concat, hanswers, List.append_nil]
  have hclicks : clicks (opened p) (es ++ [e]) = clicks (opened p) es := by
    rw [clicks_concat, hhits]
    rfl
  refine ⟨hlistening, fun r => ?_, fun r => ?_, ?_, ?_⟩
  · rw [requests_concat]
    exact (hregistered r).trans (Nat.add_le_add_right (h.registered r) _)
  · rw [hsent, hclicks, requests_concat]
    exact (h.responded r).trans
      (Nat.add_le_add_left (Nat.mul_le_mul_left _ (Nat.le_add_right _ _)) _)
  · rw [hanswered, hclicks]
    exact h.once
  · rw [hanswered, hclicks]
    exact h.first

/-- A click that hits the notification. -/
theorem Counted.hit {prompts : Nat → Int64 × Bool} (h : Counted p es (exec step (opened p) es))
    (hshown : (exec step (opened p) es).shown = true) :
    Counted p (es ++ [.click prompts]) ((exec step (opened p) es).click prompts) := by
  have hlisteners : ((exec step (opened p) es).click prompts).listeners =
      (exec step (opened p) es).listeners := by
    unfold click
    rw [if_pos hshown, listeners_listeners]
  have hclicks : clicks (opened p) (es ++ [.click prompts]) = clicks (opened p) es + 1 := by
    rw [clicks_concat, hits, if_pos hshown]
    rfl
  have hcount : ∀ k, (answered (opened p) (es ++ [.click prompts])).count k =
      (answered (opened p) es).count k +
        if k < (exec step (opened p) es).listeners.length then 1 else 0 := by
    intro k
    rw [answered_concat, answers, if_pos hshown, List.zipIdx_map_snd, ← List.range_eq_range',
      List.count_append, List.count_range]
  have hlistening := h.listening hshown
  refine ⟨fun _ => hlisteners ▸ hlistening, fun r => ?_, fun r => ?_, fun k => ?_, ?_⟩
  · rw [hlisteners, requests_concat]
    exact Nat.le_add_right_of_le (h.registered r)
  · have hrequests : requests r (es ++ [.click prompts]) = requests r es := requests_concat r
    rw [responses_click hshown, hclicks, hrequests, Nat.add_mul, Nat.one_mul, ← Nat.add_assoc]
    exact Nat.add_le_add (h.responded r) (h.registered r)
  · rw [hcount, hclicks]
    have hk := h.once k
    split
    · exact Nat.add_le_add_right hk 1
    · exact Nat.le_add_right_of_le hk
  · rw [hcount, hclicks, h.first, if_pos (List.length_pos_of_ne_nil hlistening)]

/-- **`counted`** — every run keeps the count. -/
theorem counted (p : Page) (es : List Event) : Counted p es (exec step (opened p) es) := by
  refine exec_history (R := Counted p) (counted_opened p) (fun es e h => ?_) es
  cases e with
  | submitLogin now userId password =>
      refine h.quiet rfl rfl (fun r => ?_) h.listening fun r => Nat.le_add_right _ _
      exact responses_append_of_ne fun m hm hty => by
        rw [List.mem_singleton.mp hm] at hty
        cases hty
  | message now msg =>
      rw [step]
      by_cases hty : msg.messageType = .FRIEND_REQUEST
      · rw [if_pos hty, handleFriendRequest]
        split
        · refine h.quiet rfl rfl (fun r => rfl) (fun _ => by simp [showFriendRequestNotification])
            fun r => ?_
          simp [showFriendRequestNotification, Event.isRequest, hty, List.count_singleton]
        · exact h.quiet rfl rfl (fun r => rfl) h.listening fun r => Nat.le_add_right _ _
      · rw [if_neg hty]
        exact h.quiet rfl rfl (fun r => responses_pageStep _ _) h.listening fun r =>
          Nat.le_add_right _ _
  | click prompts =>
      cases hshown : (exec step (opened p) es).shown with
      | true => exact h.hit hshown
      | false =>
          have hanswers : answers (exec step (opened p) es) (.click prompts) = [] := by
            simp [answers, hshown]
          have hhits : hits (exec step (opened p) es) (.click prompts) = [] := by
            simp [hits, hshown]
          rw [step, click_of_hidden hshown]
          exact h.quiet hanswers hhits (fun r => rfl) h.listening fun r => Nat.le_add_right _ _

end Run

/-- **`answered_at_most_once_iff`** — from every page on which no request has been shown, through every
run of messages, logins and clicks: throughout the run no user gets more responses than it has sent
requests, and none is sent for a request that has been answered, exactly if at most one click of the
run hits the shown notification. -/
theorem answered_at_most_once_iff (p : Page) (es : List Event) :
    (∀ pre, pre <+: es → AtMostOnce p pre) ↔ clicks (opened p) es ≤ 1 := by
  constructor
  · intro h
    obtain ⟨-, hnodup⟩ := h es (List.prefix_refl es)
    rw [← (counted p es).first]
    exact List.nodup_iff_count_le_one.mp hnodup 0
  · intro hclicks pre hpre
    have hone : clicks (opened p) pre ≤ 1 := (clicks_mono hpre).trans hclicks
    have hcounted := counted p pre
    refine ⟨fun r => (hcounted.responded r).trans (Nat.add_le_add_left ?_ _), ?_⟩
    · calc clicks (opened p) pre * requests r pre
        _ ≤ 1 * requests r pre := Nat.mul_le_mul_right _ hone
        _ = requests r pre := Nat.one_mul _
    · rw [List.nodup_iff_count_le_one]
      intro k
      exact (hcounted.once k).trans hone

/-- User 1 asks, user 2 accepts, user 3 asks, user 2 declines: user 1 is answered a second time. -/
theorem answered_twice : ¬∀ (p : Page) (es : List Event), AtMostOnce p es := by
  intro h
  have hresponses := (h { Page.loaded with userId := 2 } [
    .message 0 ⟨1, 2, .FRIEND_REQUEST, 0, str " ", 0⟩, .click fun _ => (0, true),
    .message 0 ⟨3, 2, .FRIEND_REQUEST, 0, str " ", 0⟩, .click fun _ => (0, false)]).1 1
  exact absurd hresponses (by decide +kernel)

end Tab

end TinyIM
