/-
# PageCache — whose text a cached message carries

The branches for chat and group messages parse the content into a variable they do not declare, so
after a failed parse they go on with the value an earlier message left there. A group message of the
chat that is open is rendered first, and is not cached if that throws. The module computes what each
type of message adds to the two caches, and from it the exact condition under which every entry is
made of the content of its own message.
-/
import TinyIM.Arrival

namespace TinyIM

open TinyIM.Lib TinyIM.Lib.Text TinyIM.Lib.Runs TinyIM.Lib.Stops

/-- The username and the text of the entry are those of the content of the message. -/
def Entry.Own (e : Entry) (msg : Message) : Prop :=
  ∃ v, JSON.parse msg.content = some v ∧ e = Page.entry msg v

namespace Page

/-! ## What each type of message adds -/

/-- What a message cached with a content adds, if it can be. -/
def added (msg : Message) : Option JsValue → List Entry
  | none => []
  | some v => if v.isNull then [] else [entry msg v]

/-- What a group message adds: nothing if it is rendered first and that throws. -/
def addedPublic (p : Page) (msg : Message) : List Entry :=
  if msg.toUserId = p.currentChat ∧ (contentAfter p msg).all canShow = false then []
  else added msg (contentAfter p msg)

section Steps

variable {p : Page} {now : Int64} {msg : Message}

theorem ends_addMessageToPublicCache {v w : JsValue} (hv : (JSON.parse msg.content).getD v = w) :
    Ends (addMessageToPublicCache msg v) p
      (fun _ p' => p' = { p with publicCache := p.publicCache ++ added msg (some w) })
      fun _ p' => p' = { p with publicCache := p.publicCache ++ added msg (some w) } := by
  unfold addMessageToPublicCache
  simp only [hv, ends_bind, ends_getProperty, ends_modify, added]
  cases w.isNull with
  | true => simp
  | false => rfl

/-- Everything a group message does to the page. -/
theorem step_group (hty : msg.messageType = .GROUP_CHAT) : step p (now, msg) = { p with
    content := contentAfter p msg
    publicCache := p.publicCache ++ addedPublic p msg } := by
  have hends : Ends (handleMessage now msg) p
      (fun _ p' => p' = { p with
        content := contentAfter p msg
        publicCache := p.publicCache ++ addedPublic p msg })
      fun _ p' => p' = { p with
        content := contentAfter p msg
        publicCache := p.publicCache ++ addedPublic p msg } := by
    unfold handleMessage
    rw [hty]
    dsimp only
    rw [ends_bind, ends_parseContent, ends_bind, ends_showIfOpen]
    unfold addedPublic
    dsimp only
    cases hc : contentAfter p msg with
    | none =>
        simp only [Option.all_none, Bool.true_eq_false, and_false, if_false, added, List.append_nil]
        split
        · trivial
        · rw [ends_bind, ends_getContent]
    | some v =>
        -- the message is cached after it has been rendered, or without being rendered
        have hcached : Ends (getContent >>= addMessageToPublicCache msg) { p with content := some v }
            (fun _ p' => p' = { p with
              content := some v, publicCache := p.publicCache ++ added msg (some v) })
            fun _ p' => p' = { p with
              content := some v, publicCache := p.publicCache ++ added msg (some v) } := by
          rw [ends_bind, ends_getContent]
          exact ends_addMessageToPublicCache (getD_of_contentAfter hc)
        rw [Option.all_some]
        by_cases hopen : msg.toUserId = p.currentChat
        · cases hshow : canShow v with
          | true =>
              simp only [hopen, hshow, if_true, Bool.true_eq_false, and_false, if_false]
              exact hcached
          | false =>
              simp only [hopen, hshow, if_true, Bool.false_eq_true, if_false, and_self, List.append_nil]
        · simp only [hopen, if_false, false_and]
          exact hcached
  exact ends_stateOf.mp hends

/-- A login response caches nothing, and all it sends is a request for the history. -/
theorem step_login (p : Page) (now : Int64) (hty : msg.messageType = .LOGIN_RESPONSE) :
    (step p (now, msg)).messageCache = p.messageCache ∧
      (step p (now, msg)).publicCache = p.publicCache ∧
      ∃ ms, (step p (now, msg)).sent = p.sent ++ ms ∧ ∀ m ∈ ms, m.messageType = .PULL_MESSAGE := by
  have hnone : ∃ ms, p.sent = p.sent ++ ms ∧ ∀ m ∈ ms, m.messageType = .PULL_MESSAGE :=
    ⟨[], (List.append_nil _).symm, fun m hm => (nomatch hm)⟩
  have hends : Ends (handleMessage now msg) p
      (fun _ p' => p'.messageCache = p.messageCache ∧ p'.publicCache = p.publicCache ∧
        ∃ ms, p'.sent = p.sent ++ ms ∧ ∀ m ∈ ms, m.messageType = .PULL_MESSAGE)
      fun _ p' => p'.messageCache = p.messageCache ∧ p'.publicCache = p.publicCache ∧
        ∃ ms, p'.sent = p.sent ++ ms ∧ ∀ m ∈ ms, m.messageType = .PULL_MESSAGE := by
    unfold handleMessage
    rw [hty]
    unfold handleLoginResponse parse
    simp only [ends_attempt, ends_bind, ends_orThrow, setContent, ends_modify, ends_getProperty]
    refine ⟨fun content _ => ?_, fun e _ => ⟨trivial, trivial, hnone⟩⟩
    split
    · exact ⟨trivial, trivial, hnone⟩
    split
    · rw [ends_ite]
      refine ⟨fun _ => ?_, fun _ => ⟨rfl, rfl, hnone⟩⟩
      simp only [ends_bind, ends_getProperty, ends_modify]
      split
      · exact ⟨trivial, trivial, hnone⟩
      · exact ⟨rfl, rfl, [_], rfl, fun m hm => by rw [List.mem_singleton.mp hm]⟩
    · exact ⟨rfl, rfl, hnone⟩
  exact ends_stateOf.mp hends

/-- A message of another type does not touch the state. -/
theorem step_other (htext : msg.messageType ≠ .TEXT) (hgroup : msg.messageType ≠ .GROUP_CHAT)
    (hlogin : msg.messageType ≠ .LOGIN_RESPONSE) : step p (now, msg) = p := by
  show stateOf (handleMessage now msg p) = p
  unfold handleMessage
  cases hty : msg.messageType with
  | TEXT => exact absurd hty htext
  | GROUP_CHAT => exact absurd hty hgroup
  | LOGIN_RESPONSE => exact absurd hty hlogin
  | _ => rfl

/-- Only chat messages are filed. -/
theorem messageCache_step_of_ne (hty : msg.messageType ≠ .TEXT) :
    (step p (now, msg)).messageCache = p.messageCache := by
  by_cases hgroup : msg.messageType = .GROUP_CHAT
  · rw [step_group hgroup]
  by_cases hlogin : msg.messageType = .LOGIN_RESPONSE
  · exact (step_login p now hlogin).1
  · rw [step_other hty hgroup hlogin]

end Steps

/-! ## Entries of the own message -/

/-- The frame is one whose content is cached. -/
def IsCached (msg : Message) : Prop := msg.messageType = .TEXT ∨ msg.messageType = .GROUP_CHAT

instance (msg : Message) : Decidable (IsCached msg) := inferInstanceAs (Decidable (_ ∨ _))

/-- Every entry the frame adds to a cache carries the username and the text of its own content. -/
def AddsOwn (p : Page) (d : Int64 × Message) : Prop :=
  (∀ k es, (step p d).messageCache k = p.messageCache k ++ es → ∀ e ∈ es, e.Own d.2) ∧
  ∀ es, (step p d).publicCache = p.publicCache ++ es → ∀ e ∈ es, e.Own d.2

/-- The frame is a group message of the chat that is open. -/
def InOpenChat (p : Page) (msg : Message) : Prop :=
  msg.messageType = .GROUP_CHAT ∧ msg.toUserId = p.currentChat

/-- The content to cache can be parsed, or there is nothing in the variable `content` that could be
taken for it: it is undeclared or null, or rendering it throws where that comes first. -/
def ReadsOwn (p : Page) (d : Int64 × Message) : Prop :=
  IsCached d.2 → (JSON.parse d.2.content).isSome ∨
    ∀ v, p.content = some v → v.isNull ∨ InOpenChat p d.2 ∧ canShow v = false

section Entries

variable {p : Page} {now : Int64} {msg : Message}

theorem file_eq (messageCache : Int32 → List Entry) (key : Int32) (e : Entry) (k : Int32) :
    file messageCache key e k = messageCache k ++ if k = key then [e] else [] := by
  unfold file
  split
  · rfl
  · exact (List.append_nil _).symm

/-- Under each user id, what is added is made of the message; under the recipient's, all of it is. -/
theorem cacheAfter_append (messageCache : Int32 → List Entry) (msg : Message) (c : Option JsValue)
    (k : Int32) : ∃ es, cacheAfter messageCache msg c k = messageCache k ++ es ∧
      (∀ e ∈ es, e ∈ added msg c) ∧ (k = msg.toUserId → ∀ e ∈ added msg c, e ∈ es) := by
  have hnone : ∃ es, messageCache k = messageCache k ++ es ∧ (∀ e ∈ es, e ∈ ([] : List Entry)) ∧
      (k = msg.toUserId → ∀ e ∈ ([] : List Entry), e ∈ es) :=
    ⟨[], (List.append_nil _).symm, fun e he => he, fun _ e he => he⟩
  cases c with
  | none => exact hnone
  | some v =>
      unfold cacheAfter added
      simp only
      split
      · exact hnone
      · rw [file_eq, file_eq, List.append_assoc]
        refine ⟨_, rfl, ?_, ?_⟩
        · intro e he
          rcases List.mem_append.mp he with he | he
          · split at he
            · exact he
            · cases he
          · split at he
            · exact he
            · cases he
        · intro hto e he
          rw [if_pos hto]
          exact List.mem_append_right _ he

/-- A message whose content parses adds entries of its own. -/
theorem own_of_added {v : JsValue} (hv : JSON.parse msg.content = some v) :
    ∀ e ∈ added msg (contentAfter p msg), e.Own msg := by
  intro e he
  rw [contentAfter, hv, Option.some_or, added] at he
  split at he
  · cases he
  · exact ⟨v, hv, List.mem_singleton.mp he⟩

/-- What a message can add is its own exactly if its content parses or nothing else stands for it. -/
theorem forall_added_own_iff : (∀ e ∈ added msg (contentAfter p msg), e.Own msg) ↔
    (JSON.parse msg.content).isSome ∨ ∀ v, p.content = some v → v.isNull := by
  cases hv : JSON.parse msg.content with
  | some v => exact iff_of_true (own_of_added hv) (Or.inl rfl)
  | none =>
      have hnone : ∀ e ∈ ([] : List Entry), e.Own msg := fun e he => absurd he List.not_mem_nil
      rw [contentAfter, hv, Option.none_or]
      cases hc : p.content with
      | none => exact iff_of_true hnone (Or.inr fun v hv => absurd hv.symm (Option.some_ne_none v))
      | some w =>
          unfold added
          simp only
          cases hnull : w.isNull with
          | true =>
              refine iff_of_true hnone (Or.inr fun v hv => ?_)
              rw [← Option.some.inj hv]
              exact hnull
          | false =>
              -- the value of an earlier message is filed
              refine iff_of_false ?_ ?_
              · intro hown
                obtain ⟨v, hv', -⟩ := hown _ (List.mem_singleton_self _)
                rw [hv] at hv'
                cases hv'
              · rintro (hsome | hall)
                · cases hsome
                · rw [hall w rfl] at hnull
                  cases hnull

/-- The same of a group message, which is not cached if rendering it throws. -/
theorem forall_addedPublic_own_iff : (∀ e ∈ addedPublic p msg, e.Own msg) ↔
    (JSON.parse msg.content).isSome ∨ ∀ v, p.content = some v →
      v.isNull ∨ msg.toUserId = p.currentChat ∧ canShow v = false := by
  unfold addedPublic
  by_cases hthrows : msg.toUserId = p.currentChat ∧ (contentAfter p msg).all canShow = false
  · rw [if_pos hthrows]
    refine iff_of_true (fun e he => absurd he List.not_mem_nil) ?_
    cases hv : JSON.parse msg.content with
    | some v => exact Or.inl rfl
    | none =>
        refine Or.inr fun v hcontent => Or.inr ⟨hthrows.1, ?_⟩
        have hshow := hthrows.2
        rw [contentAfter, hv, hcontent] at hshow
        exact hshow
  · rw [if_neg hthrows, forall_added_own_iff]
    cases hv : JSON.parse msg.content with
    | some v => exact iff_of_true (Or.inl rfl) (Or.inl rfl)
    | none =>
        refine or_congr_right (forall_congr' fun v => imp_congr_right fun hcontent => ?_)
        refine (or_iff_left fun hnot => hthrows ⟨hnot.1, ?_⟩).symm
        rw [contentAfter, hv, hcontent]
        exact hnot.2

/-- **`addsOwn_iff`** — one frame. -/
theorem addsOwn_iff (p : Page) (d : Int64 × Message) : AddsOwn p d ↔ ReadsOwn p d := by
  obtain ⟨now, msg⟩ := d
  have hnone : ∀ {l es : List Entry}, l = l ++ es → ∀ e ∈ es, e.Own msg := by
    intro l es hes e he
    rw [List.self_eq_append_right.mp hes] at he
    cases he
  unfold AddsOwn ReadsOwn
  by_cases htext : msg.messageType = .TEXT
  · have hnot : ¬InOpenChat p msg := fun h => MessageType.noConfusion (htext.symm.trans h.1)
    have hreads : ((JSON.parse msg.content).isSome ∨ ∀ v, p.content = some v →
        v.isNull ∨ InOpenChat p msg ∧ canShow v = false) ↔ _ :=
      or_congr_right (forall_congr' fun v => imp_congr_right fun _ => or_iff_left fun h => hnot h.1)
    rw [step_text htext, forall_prop_of_true (show IsCached msg from Or.inl htext), hreads,
      ← forall_added_own_iff]
    constructor
    · rintro ⟨hown, -⟩ e he
      obtain ⟨es, hes, -, hall⟩ := cacheAfter_append p.messageCache msg (contentAfter p msg) msg.toUserId
      exact hown _ es hes e (hall rfl e he)
    · intro hown
      refine ⟨fun k es hes e he => ?_, fun es hes => hnone hes⟩
      obtain ⟨es', hes', hsub, -⟩ := cacheAfter_append p.messageCache msg (contentAfter p msg) k
      rw [← List.append_cancel_left (hes'.symm.trans hes)] at he
      exact hown e (hsub e he)
  by_cases hgroup : msg.messageType = .GROUP_CHAT
  · have hreads : ((JSON.parse msg.content).isSome ∨ ∀ v, p.content = some v →
        v.isNull ∨ InOpenChat p msg ∧ canShow v = false) ↔ _ :=
      or_congr_right (forall_congr' fun v => imp_congr_right fun _ => or_congr_right
        (and_congr_left' (and_iff_right hgroup)))
    rw [step_group hgroup, forall_prop_of_true (show IsCached msg from Or.inr hgroup), hreads,
      ← forall_addedPublic_own_iff]
    constructor
    · rintro ⟨-, hown⟩
      exact hown _ rfl
    · intro hown
      refine ⟨fun k es hes => hnone hes, fun es hes => ?_⟩
      rw [← List.append_cancel_left hes]
      exact hown
  have hnot : ¬IsCached msg := fun h => h.elim htext hgroup
  refine iff_of_true ?_ fun h => absurd h hnot
  by_cases hlogin : msg.messageType = .LOGIN_RESPONSE
  · obtain ⟨hmessage, hpublic, -⟩ := step_login p now hlogin
    rw [hmessage, hpublic]
    exact ⟨fun k es hes => hnone hes, fun es hes => hnone hes⟩
  · rw [step_other htext hgroup hlogin]
    exact ⟨fun k es hes => hnone hes, fun es hes => hnone hes⟩

/-- Caches are only appended to, and only by the frames that are cached. -/
theorem step_appends (p : Page) (d : Int64 × Message) :
    (∀ k, ∃ es, (step p d).messageCache k = p.messageCache k ++ es ∧ (es ≠ [] → IsCached d.2)) ∧
      ∃ es, (step p d).publicCache = p.publicCache ++ es ∧ (es ≠ [] → IsCached d.2) := by
  obtain ⟨now, msg⟩ := d
  have hnone : ∀ l : List Entry, ∃ es, l = l ++ es ∧ (es ≠ [] → IsCached msg) := fun l =>
    ⟨[], (List.append_nil _).symm, fun h => absurd rfl h⟩
  by_cases htext : msg.messageType = .TEXT
  · rw [step_text htext]
    refine ⟨fun k => ?_, hnone _⟩
    obtain ⟨es, hes, -⟩ := cacheAfter_append p.messageCache msg (contentAfter p msg) k
    exact ⟨es, hes, fun _ => Or.inl htext⟩
  by_cases hgroup : msg.messageType = .GROUP_CHAT
  · rw [step_group hgroup]
    exact ⟨fun k => hnone _, _, rfl, fun _ => Or.inr hgroup⟩
  by_cases hlogin : msg.messageType = .LOGIN_RESPONSE
  · obtain ⟨hmessage, hpublic, -⟩ := step_login p now hlogin
    rw [hmessage, hpublic]
    exact ⟨fun k => hnone _, hnone _⟩
  · rw [step_other htext hgroup hlogin]
    exact ⟨fun k => hnone _, hnone _⟩

end Entries

/-! ## Frames while the user opens chats -/

/-- A frame that is handled, and the chat that is open then. -/
structure Received where
  chat : Int32
  now : Int64
  msg : Message

/-- The user has opened a chat. -/
def inChat (p : Page) (chat : Int32) : Page := { p with currentChat := chat }

/-- One frame. -/
def receive (p : Page) (d : Received) : Page := step (p.inChat d.chat) (d.now, d.msg)

/-- What the frame adds is its own. -/
def ReceivesOwn (p : Page) (d : Received) : Prop := AddsOwn (p.inChat d.chat) (d.now, d.msg)

/-- The condition on the frame. -/
def ReceivesReadable (p : Page) (d : Received) : Prop := ReadsOwn (p.inChat d.chat) (d.now, d.msg)

/-- The entries of the second cache are those of the first one, and then entries made of the content
of frames of the run. -/
def AppendsOwn (es : List Received) (before after : List Entry) : Prop :=
  ∃ l, after = before ++ l ∧ ∀ e ∈ l, ∃ d ∈ es, IsCached d.msg ∧ e.Own d.msg

theorem AppendsOwn.cons {es : List Received} {d : Received} {before between after : List Entry}
    (hd : ∃ l, between = before ++ l ∧ (l ≠ [] → IsCached d.msg))
    (hown : ∀ l, between = before ++ l → ∀ e ∈ l, e.Own d.msg) (h : AppendsOwn es between after) :
    AppendsOwn (d :: es) before after := by
  obtain ⟨l, hl, hcached⟩ := hd
  obtain ⟨l', rfl, hes⟩ := h
  refine ⟨l ++ l', by rw [hl, List.append_assoc], fun e he => ?_⟩
  rcases List.mem_append.mp he with he | he
  · exact ⟨d, List.mem_cons_self, hcached (List.ne_nil_of_mem he), hown l hl e he⟩
  · obtain ⟨d', hd', he⟩ := hes e he
    exact ⟨d', List.mem_cons_of_mem _ hd', he⟩

/-- **`cached_text_is_own_iff`** — from every page, so also from one that a successful login left, and
whatever chats the user opens between the frames: every entry a run of frames adds to a cache carries
the username and the text of its own frame exactly if the content of each chat and group frame of the
run parses, or nothing in the variable `content` can be taken for it when the frame is handled: the
variable is undeclared or null, or the frame is a group message of the open chat and rendering the value
throws. Then all that the run leaves in the caches, after what was there, is made of the contents of its
frames. -/
theorem cached_text_is_own_iff (p : Page) (es : List Received) :
    (StepsMeet receive ReceivesOwn p es ↔ StepsMeet receive ReceivesReadable p es) ∧
    (StepsMeet receive ReceivesReadable p es →
      (∀ k, AppendsOwn es (p.messageCache k) ((exec receive p es).messageCache k)) ∧
      AppendsOwn es p.publicCache (exec receive p es).publicCache) := by
  have hiff : StepsMeet receive ReceivesOwn p es ↔ StepsMeet receive ReceivesReadable p es :=
    forall_congr' fun pre => forall_congr' fun d => imp_congr_right fun _ => addsOwn_iff _ _
  refine ⟨hiff, fun hreads => ?_⟩
  have hadds := hiff.mpr hreads
  clear hiff hreads
  induction es generalizing p with
  | nil =>
      have hnone : ∀ l : List Entry, AppendsOwn [] l l := fun l =>
        ⟨[], (List.append_nil _).symm, fun e he => (nomatch he)⟩
      exact ⟨fun k => hnone _, hnone _⟩
  | cons d es ih =>
      rw [stepsMeet_cons] at hadds
      obtain ⟨hmessage, hpublic⟩ := step_appends (p.inChat d.chat) (d.now, d.msg)
      obtain ⟨ihmessage, ihpublic⟩ := ih (receive p d) hadds.2
      exact ⟨fun k => (ihmessage k).cons (hmessage k) (hadds.1.1 k),
        ihpublic.cons hpublic hadds.1.2⟩

/-- A chat message from user 1 to user 2, while the public chat is open. -/
def textOf (content : String) : Received := ⟨0, 0, ⟨1, 2, .TEXT, 7, str content, 0⟩⟩

/-- A message with a content of its own. -/
theorem cached_text_is_own_iff_hi : ∀ k, AppendsOwn
    [textOf "\x7b\"username\":\"bob\",\"text\":\"hi\"\x7d"] [] ((exec receive loaded
      [textOf "\x7b\"username\":\"bob\",\"text\":\"hi\"\x7d"]).messageCache k) := by
  have hreads : StepsMeet receive ReceivesReadable loaded
      [textOf "\x7b\"username\":\"bob\",\"text\":\"hi\"\x7d"] :=
    stepsMeet_cons.mpr ⟨fun _ => Or.inl (by decide +kernel), stepsMeet_nil⟩
  exact ((cached_text_is_own_iff loaded _).2 hreads).1

/-- After the login of bob, a message that is no JSON is cached with the name of bob. -/
theorem cached_text_of_another : ¬∀ (p : Page) (login : Int64 × Message) (es : List Received),
    Arrival.IsSuccess login.2 → StepsMeet receive ReceivesOwn (step p login) es := by
  intro hall
  have hbob : ValidUtf8 (str "bob") := validUtf8_utf8 _
  obtain ⟨content, hcontent⟩ := BusinessHandler.exists_loginSuccess hbob
  obtain ⟨v, hv, hstatus⟩ := Arrival.parse_loginSuccess hbob hcontent
  have hadds := hall loaded (0, ⟨2, 0, .LOGIN_RESPONSE, 1, content, 0⟩) [textOf "hello"]
    ⟨rfl, v, hv, hstatus⟩
  have hreads := (addsOwn_iff _ _).mp (stepsMeet_cons.mp hadds).1
  rcases hreads (Or.inl rfl) with hsome | hnothing
  · exact absurd hsome (by decide +kernel)
  · rw [step_success rfl hv hstatus] at hnothing
    rcases hnothing v rfl with hnull | ⟨hopen, -⟩
    · cases v with
      | null => cases hstatus
      | _ => cases hnull
    · exact MessageType.noConfusion hopen.1

end Page

end TinyIM
