/-
# Conversation — the private conversation the page shows

`addMessageToCache` files each message under its sender and under its recipient, and
`displayCachedMessages` takes from the entries of the two users of a conversation those that are
addressed to the other one, sorts them by their ids and renders them. `conversation_view` says of
every sequence of cached messages what is rendered: the messages between the two users, each as often
as it was cached, up to the first one that has no text form.

The numbers are integers here: the page counts its own messages without a bound, and ids typed in by
the user come from `parseInt`. `holds_arrived` and `holds_own` connect this cache with the one of `Page`,
whose messages come from the server. Every message carries a mark that the script neither reads nor has;
it tells apart messages with equal fields.
-/
import TinyIM.PageCache
import TinyIM.Lib.StableSort

namespace TinyIM

open TinyIM.Lib TinyIM.Lib.Text TinyIM.Lib.Runs TinyIM.Lib.Stops TinyIM.Lib.StableSort

/-! ## The cache -/

/-- The fields of a message object that the caches are filled from. -/
structure MessageObject (μ : Type) where
  fromUserId : Int
  toUserId : Int
  messageId : Int
  content : Bytes
  timestamp : Int
  mark : μ

/-- An entry of the message cache. -/
structure CachedMessage (μ : Type) where
  fromUserId : Int
  toUserId : Int
  messageId : Int
  username : Option JsValue
  text : Option JsValue
  timestamp : Int
  mark : μ

/-- The entries filed under each user id. -/
abbrev MessageCache (μ : Type) := Int → List (CachedMessage μ)

namespace MessageCache

variable {μ : Type}

/-- The object that is filed. -/
def entry (msg : MessageObject μ) (content : JsValue) : CachedMessage μ where
  fromUserId := msg.fromUserId
  toUserId := msg.toUserId
  messageId := msg.messageId
  username := content.property "username"
  text := content.property "text"
  timestamp := msg.timestamp
  mark := msg.mark

/-- `messageCache[key] = (messageCache[key] || []).concat(entry)`. -/
def file (messageCache : MessageCache μ) (key : Int) (e : CachedMessage μ) : MessageCache μ := fun k =>
  if k = key then messageCache k ++ [e] else messageCache k

/-- `v.key`. -/
def getProperty (v : JsValue) (key : String) : EStateM JsError (MessageCache μ) (Option JsValue) :=
  if v.isNull then throw .TypeError else return v.property key

/-- File a message under its sender and under its recipient. The content is parsed once more; if that
fails, the value passed in is used. -/
def addMessageToCache (msg : MessageObject μ) (content : JsValue) :
    EStateM JsError (MessageCache μ) Unit := do
  let content := (JSON.parse msg.content).getD content
  let _ ← getProperty content "username"
  let _ ← getProperty content "text"
  modify fun messageCache => file messageCache msg.fromUserId (entry msg content)
  modify fun messageCache => file messageCache msg.toUserId (entry msg content)

/-- One call, with the value passed as the content. -/
def step (messageCache : MessageCache μ) (call : MessageObject μ × JsValue) : MessageCache μ :=
  stateOf (addMessageToCache call.1 call.2 messageCache)

/-- The cache when the page has been loaded. -/
def empty : MessageCache μ := fun _ => []

/-- The entry that a call files, if it does not throw. -/
def cached (call : MessageObject μ × JsValue) : Option (CachedMessage μ) :=
  let content := (JSON.parse call.1.content).getD call.2
  if content.isNull then none else some (entry call.1 content)

end MessageCache

/-! ## The view -/

/-- A message as it is put into the list that is rendered. -/
structure ShownMessage (μ : Type) extends CachedMessage μ where
  isOwnMessage : Bool

namespace MessageCache

variable {μ : Type}

/-- The username and the text have a text form; `undefined` has one. -/
def Renders (m : ShownMessage μ) : Bool :=
  m.username.all JsValue.hasText && m.text.all JsValue.hasText

/-- Append a message to the rendered ones. The text is built before the document is changed. -/
def addMessageToChat (m : ShownMessage μ) : EStateM JsError (List (ShownMessage μ)) Unit :=
  if Renders m then modify (· ++ [m]) else throw .TypeError

/-- The entries of `userId` that are addressed to `friendId`. -/
def collect (messageCache : MessageCache μ) (userId friendId : Int) (isOwnMessage : Bool) :
    List (ShownMessage μ) :=
  ((messageCache userId).filter fun message => message.toUserId = friendId).map fun message =>
    { message with isOwnMessage := isOwnMessage }

/-- The messages in the order they are going to be rendered in. -/
def combinedMessages (messageCache : MessageCache μ) (userId friendId : Int) :
    List (ShownMessage μ) :=
  sortBy (·.messageId)
    (collect messageCache userId friendId true ++ collect messageCache friendId userId false)

/-- Render the conversation of `userId` with `friendId`. -/
def displayCachedMessages (messageCache : MessageCache μ) (userId friendId : Int) :
    EStateM JsError (List (ShownMessage μ)) Unit :=
  (combinedMessages messageCache userId friendId).forM addMessageToChat

/-- What the document shows afterwards. -/
def displayed (messageCache : MessageCache μ) (userId friendId : Int) : List (ShownMessage μ) :=
  stateOf (displayCachedMessages messageCache userId friendId [])

/-! ## What a sequence of calls leaves in the cache -/

section Calls

variable {messageCache : MessageCache μ} {call : MessageObject μ × JsValue} {u f : Int}

theorem ends_getProperty {v : JsValue} {key : String} {Q : Option JsValue → MessageCache μ → Prop}
    {E : JsError → MessageCache μ → Prop} : Ends (getProperty v key) messageCache Q E ↔
      if v.isNull then E .TypeError messageCache else Q (v.property key) messageCache := by
  unfold getProperty
  split
  · exact Iff.rfl
  · exact Iff.rfl

/-- A call files its entry twice, or throws and files nothing. -/
theorem step_eq (messageCache : MessageCache μ) (call : MessageObject μ × JsValue) :
    step messageCache call = match cached call with
      | some e => file (file messageCache call.1.fromUserId e) call.1.toUserId e
      | none => messageCache := by
  have hends : Ends (addMessageToCache call.1 call.2) messageCache
      (fun _ after => after = match cached call with
        | some e => file (file messageCache call.1.fromUserId e) call.1.toUserId e
        | none => messageCache)
      fun _ after => after = match cached call with
        | some e => file (file messageCache call.1.fromUserId e) call.1.toUserId e
        | none => messageCache := by
    unfold addMessageToCache cached
    simp only [ends_bind, ends_getProperty, ends_modify]
    cases ((JSON.parse call.1.content).getD call.2).isNull with
    | true => rfl
    | false => rfl
  exact ends_stateOf.mp hends

theorem cached_ids {e : CachedMessage μ} (h : cached call = some e) :
    e.fromUserId = call.1.fromUserId ∧ e.toUserId = call.1.toUserId := by
  unfold cached at h
  dsimp only at h
  split at h
  · cases h
  · rw [← Option.some.inj h]
    exact ⟨rfl, rfl⟩

theorem cached_mark {e : CachedMessage μ} (h : cached call = some e) : e.mark = call.1.mark := by
  unfold cached at h
  dsimp only at h
  split at h
  · cases h
  · rw [← Option.some.inj h]
    rfl

theorem mem_file {e e' : CachedMessage μ} {key : Int} (h : e ∈ file messageCache key e' u) :
    e ∈ messageCache u ∨ e = e' := by
  unfold file at h
  split at h
  · exact (List.mem_append.mp h).imp_right List.mem_singleton.mp
  · exact Or.inl h

/-- An entry was there before the call, or is the one of the call. -/
theorem mem_step {e : CachedMessage μ} (h : e ∈ step messageCache call u) :
    e ∈ messageCache u ∨ cached call = some e := by
  rw [step_eq] at h
  cases hcached : cached call with
  | none =>
      rw [hcached] at h
      exact Or.inl h
  | some e' =>
      rw [hcached] at h
      rcases mem_file h with h | rfl
      · exact (mem_file h).imp_right fun he => congrArg some he.symm
      · exact Or.inr rfl

theorem filter_file (e : CachedMessage μ) (key : Int) :
    (file messageCache key e u).filter (fun e => e.toUserId = f) =
      (messageCache u).filter (fun e => e.toUserId = f) ++
        if u = key ∧ e.toUserId = f then [e] else [] := by
  unfold file
  by_cases hkey : u = key
  · rw [if_pos hkey, List.filter_append]
    by_cases hto : e.toUserId = f
    · rw [if_pos ⟨hkey, hto⟩]
      exact congrArg _ (List.filter_cons_of_pos (decide_eq_true hto))
    · rw [if_neg fun h => hto h.2]
      exact congrArg _ (List.filter_cons_of_neg (mt of_decide_eq_true hto))
  · rw [if_neg hkey, if_neg fun h => hkey h.1, List.append_nil]

/-- What a call adds to the entries of `u` that are addressed to another user `f`. The entry filed
under the recipient is one of `f`, or one that `u` sent to itself. -/
theorem filter_step (hne : u ≠ f) :
    (step messageCache call u).filter (fun e => e.toUserId = f) =
      (messageCache u).filter (fun e => e.toUserId = f) ++
        (cached call).toList.filter fun e => e.fromUserId = u ∧ e.toUserId = f := by
  rw [step_eq]
  cases hcached : cached call with
  | none => exact (List.append_nil _).symm
  | some e =>
      obtain ⟨hfrom, hto⟩ := cached_ids hcached
      have hrecipient : ¬(u = e.toUserId ∧ e.toUserId = f) := fun h => hne (h.1.trans h.2)
      dsimp only
      rw [← hfrom, ← hto, filter_file, filter_file, if_neg hrecipient, List.append_nil,
        Option.toList_some]
      by_cases hsender : e.fromUserId = u ∧ e.toUserId = f
      · rw [if_pos ⟨hsender.1.symm, hsender.2⟩, List.filter_singleton, decide_eq_true hsender]
        rfl
      · rw [if_neg fun h => hsender ⟨h.1.symm, h.2⟩, List.filter_singleton,
          decide_eq_false hsender]
        rfl

/-- The entries of `u` that are addressed to another user are those of the messages `u` sent there. -/
theorem filter_exec (hne : u ≠ f) (calls : List (MessageObject μ × JsValue)) :
    (exec step messageCache calls u).filter (fun e => e.toUserId = f) =
      (messageCache u).filter (fun e => e.toUserId = f) ++
        (calls.filterMap cached).filter fun e => e.fromUserId = u ∧ e.toUserId = f := by
  induction calls generalizing messageCache with
  | nil => exact (List.append_nil _).symm
  | cons call calls ih =>
      rw [exec_cons, ih, filter_step hne, List.append_assoc, ← List.filter_append]
      congr 2
      rw [List.filterMap_cons]
      cases cached call with
      | none => rfl
      | some e => rfl

end Calls

/-! ## What is rendered -/

section Rendering

variable {messageCache : MessageCache μ} {u f : Int}

/-- The loop renders up to the first message that has no text form. -/
theorem forM_addMessageToChat (ms shown : List (ShownMessage μ)) :
    ms.forM addMessageToChat shown =
      if ms.all Renders then .ok () (shown ++ ms)
      else .error .TypeError (shown ++ ms.takeWhile Renders) := by
  induction ms generalizing shown with
  | nil => exact congrArg (EStateM.Result.ok ()) (List.append_nil shown).symm
  | cons m ms ih =>
      show EStateM.bind (addMessageToChat m) (fun _ => ms.forM addMessageToChat) shown = _
      rw [List.all_cons, List.takeWhile_cons, EStateM.bind]
      cases hm : Renders m with
      | true =>
          have hcall : addMessageToChat m shown = .ok () (shown ++ [m]) := by
            rw [addMessageToChat, if_pos hm]
            rfl
          rw [hcall]
          dsimp only
          rw [ih, List.append_assoc, List.append_assoc]
          rfl
      | false =>
          have hcall : addMessageToChat m shown = .error .TypeError shown := by
            rw [addMessageToChat, hm]
            rfl
          rw [hcall]
          exact congrArg (EStateM.Result.error JsError.TypeError) (List.append_nil shown).symm

/-- The message was sent from one of the users to the other. -/
def Between (u f : Int) (e : CachedMessage μ) : Prop :=
  (e.fromUserId = u ∧ e.toUserId = f) ∨ (e.fromUserId = f ∧ e.toUserId = u)

instance (u f : Int) (e : CachedMessage μ) : Decidable (Between u f e) :=
  inferInstanceAs (Decidable (_ ∨ _))

/-- How the message is shown to the user. -/
def shownTo (u : Int) (e : CachedMessage μ) : ShownMessage μ :=
  { e with isOwnMessage := e.fromUserId = u }

/-- Nothing that one user sent to the other is among what the other one sent back. -/
theorem perm_between (l : List (CachedMessage μ)) (hne : u ≠ f) :
    (((l.filter fun e : CachedMessage μ => e.fromUserId = u ∧ e.toUserId = f).map fun e =>
        (⟨e, true⟩ : ShownMessage μ)) ++
      (l.filter fun e : CachedMessage μ => e.fromUserId = f ∧ e.toUserId = u).map fun e =>
        (⟨e, false⟩ : ShownMessage μ)).Perm
    ((l.filter fun e => Between u f e).map (shownTo u)) := by
  induction l with
  | nil => exact List.Perm.refl _
  | cons e l ih =>
      rw [List.filter_cons, List.filter_cons, List.filter_cons]
      by_cases hsent : e.fromUserId = u ∧ e.toUserId = f
      · have hnot : ¬(e.fromUserId = f ∧ e.toUserId = u) := fun h => hne (hsent.1.symm.trans h.1)
        have hbetween : Between u f e := Or.inl hsent
        have hown : shownTo u e = ⟨e, true⟩ := congrArg _ (decide_eq_true hsent.1)
        rw [if_pos (decide_eq_true hsent), if_neg (mt of_decide_eq_true hnot),
          if_pos (decide_eq_true hbetween), List.map_cons, List.map_cons, List.cons_append, hown]
        exact ih.cons _
      · by_cases hreceived : e.fromUserId = f ∧ e.toUserId = u
        · have hfrom : e.fromUserId ≠ u := fun h => hne (h.symm.trans hreceived.1)
          have hbetween : Between u f e := Or.inr hreceived
          have hother : shownTo u e = ⟨e, false⟩ := congrArg _ (decide_eq_false hfrom)
          rw [if_neg (mt of_decide_eq_true hsent), if_pos (decide_eq_true hreceived),
            if_pos (decide_eq_true hbetween), List.map_cons, List.map_cons, hother]
          exact List.perm_middle.trans (ih.cons _)
        · have hneither : ¬Between u f e := not_or_intro hsent hreceived
          rw [if_neg (mt of_decide_eq_true hsent), if_neg (mt of_decide_eq_true hreceived),
            if_neg (mt of_decide_eq_true hneither)]
          exact ih

/-- The messages that are rendered are the cached ones between the two users. -/
theorem combinedMessages_exec (calls : List (MessageObject μ × JsValue)) (hne : u ≠ f) :
    (combinedMessages (exec step empty calls) u f).Perm
      (((calls.filterMap cached).filter fun e => Between u f e).map (shownTo u)) := by
  unfold combinedMessages collect
  refine (perm_sortBy _ _).trans ?_
  rw [filter_exec hne, filter_exec hne.symm]
  exact perm_between (calls.filterMap cached) hne

/-- **`conversation_view`** — after every sequence of calls, for two different users, the loop goes
through the messages that were cached and sent between the two, each as often as it was cached, marked
as own exactly if `u` sent it, in the order of their ids. It renders them all, or those up to the
first that has no text form, and throws there. -/
theorem conversation_view (calls : List (MessageObject μ × JsValue)) (u f : Int) (hne : u ≠ f) :
    let cache := exec step empty calls
    ∃ ms : List (ShownMessage μ),
      ms.Perm (((calls.filterMap cached).filter fun e => Between u f e).map (shownTo u)) ∧
      (ms.Pairwise fun a b => a.messageId ≤ b.messageId) ∧
      displayCachedMessages cache u f [] =
        if ms.all Renders then .ok () ms else .error .TypeError (ms.takeWhile Renders) := by
  intro cache
  refine ⟨combinedMessages cache u f, combinedMessages_exec calls hne, ?_, ?_⟩
  · exact sortBy_sorted _ _
  · exact forM_addMessageToChat _ []

/-- A message each way, and one of a third user. -/
theorem conversation_view_of_three :
    let hello : MessageObject Nat := ⟨1, 2, 5, str "\x7b\"text\":\"hello\"\x7d", 0, 0⟩
    let reply : MessageObject Nat := ⟨2, 1, 6, str "\x7b\"text\":\"yes\"\x7d", 0, 1⟩
    let other : MessageObject Nat := ⟨3, 1, 7, str "\x7b\"text\":\"hey\"\x7d", 0, 2⟩
    let calls := [(hello, .null), (reply, .null), (other, .null)]
    ∃ ms : List (ShownMessage Nat),
      ms.Perm (((calls.filterMap cached).filter fun e => Between 1 2 e).map (shownTo 1)) ∧
      (ms.Pairwise fun a b => a.messageId ≤ b.messageId) ∧
      displayCachedMessages (exec step empty calls) 1 2 [] =
        if ms.all Renders then .ok () ms else .error .TypeError (ms.takeWhile Renders) :=
  conversation_view _ 1 2 (by decide)

/-- A username without a text form stops the rendering: the message is cached and not shown. -/
theorem conversation_not_rendered :
    let msg : MessageObject Unit :=
      ⟨1, 2, 0, str "\x7b\"username\":\x7b\"toString\":1\x7d,\"text\":\"x\"\x7d", 0, ()⟩
    let cache := exec step empty [(msg, .null)]
    (JSON.parse msg.content).isSome ∧ (cache 1).length = 1 ∧ (cache 2).length = 1 ∧
      displayed cache 1 2 = [] := by
  refine ⟨by decide +kernel, by decide +kernel, by decide +kernel, ?_⟩
  exact List.isEmpty_iff.mp (by decide +kernel)

theorem displayed_eq (messageCache : MessageCache μ) (u f : Int) :
    displayed messageCache u f = (combinedMessages messageCache u f).takeWhile Renders := by
  unfold displayed displayCachedMessages
  rw [forM_addMessageToChat]
  split
  · rename_i hall
    show [] ++ combinedMessages messageCache u f = _
    rw [List.nil_append, List.takeWhile_eq_self_iff.mpr fun m hm => List.all_eq_true.mp hall m hm]
  · rfl

/-! ## One more message -/

/-- A message that is in the view stands before one that is added to it. Of two messages with one id
the own ones come first, and then the one that was added first. -/
def Precedes (a z : ShownMessage μ) : Prop :=
  a.messageId < z.messageId ∨
    (a.messageId = z.messageId ∧ (a.isOwnMessage = true ∨ z.isOwnMessage = false))

instance (a z : ShownMessage μ) : Decidable (Precedes a z) := inferInstanceAs (Decidable (_ ∨ _))

/-- The call adds the message to the view of `u` on `f`. -/
def Adds (call : MessageObject μ × JsValue) (u f : Int) (z : ShownMessage μ) : Prop :=
  ∃ e, cached call = some e ∧ Between u f e ∧ z = shownTo u e

theorem collect_step (call : MessageObject μ × JsValue) (hne : u ≠ f) (own : Bool) :
    collect (step messageCache call) u f own = collect messageCache u f own ++
      ((cached call).toList.filter fun e => e.fromUserId = u ∧ e.toUserId = f).map
        fun e => ⟨e, own⟩ := by
  unfold collect
  rw [filter_step hne, List.map_append]

theorem isOwnMessage_of_mem_collect {own : Bool} {a : ShownMessage μ}
    (h : a ∈ collect messageCache u f own) : a.isOwnMessage = own := by
  obtain ⟨e, -, rfl⟩ := List.mem_map.mp h
  rfl

theorem mem_combinedMessages {a : ShownMessage μ} : a ∈ combinedMessages messageCache u f ↔
    a ∈ collect messageCache u f true ∨ a ∈ collect messageCache f u false := by
  unfold combinedMessages
  rw [mem_sortBy, List.mem_append]

theorem precedes_iff_le {a z : ShownMessage μ} (h : a.isOwnMessage = true ∨ z.isOwnMessage = false) :
    Precedes a z ↔ a.messageId ≤ z.messageId := by
  unfold Precedes
  rw [and_iff_left h, ← Int.le_iff_lt_or_eq]

theorem precedes_iff_lt {a z : ShownMessage μ} (ha : a.isOwnMessage = false)
    (hz : z.isOwnMessage = true) : Precedes a z ↔ a.messageId < z.messageId := by
  unfold Precedes
  rw [ha, hz]
  simp

theorem combinedMessages_step_sent {e : CachedMessage μ} (hne : u ≠ f) (hcached : cached call = some e)
    (hsent : e.fromUserId = u ∧ e.toUserId = f) :
    combinedMessages (step messageCache call) u f = sortBy (·.messageId)
      (collect messageCache u f true ++ ⟨e, true⟩ :: collect messageCache f u false) := by
  have hnot : ¬(e.fromUserId = f ∧ e.toUserId = u) := fun h => hne (hsent.1.symm.trans h.1)
  unfold combinedMessages
  rw [collect_step call hne, collect_step call hne.symm, hcached, Option.toList_some,
    List.filter_singleton, List.filter_singleton, decide_eq_true hsent, decide_eq_false hnot,
    cond_true, cond_false, List.map_nil, List.append_nil, List.append_assoc]
  rfl

theorem combinedMessages_step_received {e : CachedMessage μ} (hne : u ≠ f)
    (hcached : cached call = some e) (hreceived : e.fromUserId = f ∧ e.toUserId = u) :
    combinedMessages (step messageCache call) u f = sortBy (·.messageId)
      ((collect messageCache u f true ++ collect messageCache f u false) ++ ⟨e, false⟩ :: []) := by
  have hnot : ¬(e.fromUserId = u ∧ e.toUserId = f) := fun h => hne (h.1.symm.trans hreceived.1)
  unfold combinedMessages
  rw [collect_step call hne, collect_step call hne.symm, hcached, Option.toList_some,
    List.filter_singleton, List.filter_singleton, decide_eq_false hnot, decide_eq_true hreceived,
    cond_true, cond_false, List.map_nil, List.append_nil, List.append_assoc]
  rfl

theorem combinedMessages_step_same (hne : u ≠ f) (hnone : ∀ z, ¬Adds call u f z) :
    combinedMessages (step messageCache call) u f = combinedMessages messageCache u f := by
  unfold combinedMessages
  rw [collect_step call hne, collect_step call hne.symm]
  cases hcached : cached call with
  | none =>
      rw [Option.toList_none, List.filter_nil, List.filter_nil, List.map_nil, List.map_nil,
        List.append_nil, List.append_nil]
  | some e =>
      have hnot := not_or.mp fun h : Between u f e => hnone _ ⟨e, hcached, h, rfl⟩
      rw [Option.toList_some, List.filter_singleton, List.filter_singleton, decide_eq_false hnot.1,
        decide_eq_false hnot.2, cond_false, List.map_nil, List.map_nil, List.append_nil,
        List.append_nil]

/-- **`pairwise_step_iff`** — what has to hold of a message that is added, for a relation to hold
between every message of the view and every later one. -/
theorem pairwise_step_iff {R : ShownMessage μ → ShownMessage μ → Prop}
    (call : MessageObject μ × JsValue) (hne : u ≠ f) :
    (combinedMessages (step messageCache call) u f).Pairwise R ↔
      (combinedMessages messageCache u f).Pairwise R ∧
        ∀ z, Adds call u f z → ∀ a ∈ combinedMessages messageCache u f,
          (Precedes a z → R a z) ∧ (¬Precedes a z → R z a) := by
  by_cases hadds : ∃ z, Adds call u f z
  · obtain ⟨z, hz⟩ := hadds
    have hone : (∀ z, Adds call u f z → ∀ a ∈ combinedMessages messageCache u f,
        (Precedes a z → R a z) ∧ (¬Precedes a z → R z a)) ↔
        ∀ a ∈ combinedMessages messageCache u f,
          (Precedes a z → R a z) ∧ (¬Precedes a z → R z a) := by
      refine ⟨fun h => h z hz, ?_⟩
      rintro h z' ⟨e', hcached', -, rfl⟩
      obtain ⟨e, hcached, -, rfl⟩ := hz
      rw [← Option.some.inj (hcached.symm.trans hcached')]
      exact h
    rw [hone]
    obtain ⟨e, hcached, hsent | hreceived, rfl⟩ := hz
    · have hown : shownTo u e = ⟨e, true⟩ := congrArg _ (decide_eq_true hsent.1)
      rw [combinedMessages_step_sent hne hcached hsent, pairwise_sortBy_insert, hown]
      refine and_congr Iff.rfl ?_
      constructor
      · rintro ⟨hfirst, hsecond⟩ a ha
        rcases mem_combinedMessages.mp ha with ha | ha
        · rw [precedes_iff_le (Or.inl (isOwnMessage_of_mem_collect ha)), not_le]
          exact hfirst a ha
        · rw [precedes_iff_lt (isOwnMessage_of_mem_collect ha) rfl, not_lt]
          exact hsecond a ha
      · intro h
        constructor
        · intro a ha
          have hrelated := h a (mem_combinedMessages.mpr (Or.inl ha))
          rwa [precedes_iff_le (Or.inl (isOwnMessage_of_mem_collect ha)), not_le] at hrelated
        · intro a ha
          have hrelated := h a (mem_combinedMessages.mpr (Or.inr ha))
          rwa [precedes_iff_lt (isOwnMessage_of_mem_collect ha) rfl, not_lt] at hrelated
    · have hfrom : e.fromUserId ≠ u := fun h => hne (h.symm.trans hreceived.1)
      have hother : shownTo u e = ⟨e, false⟩ := congrArg _ (decide_eq_false hfrom)
      rw [combinedMessages_step_received hne hcached hreceived, pairwise_sortBy_insert,
        List.append_nil, hother]
      refine and_congr Iff.rfl ?_
      -- whatever stands there with the same id comes first
      have hle : ∀ a : ShownMessage μ, Precedes a ⟨e, false⟩ ↔ a.messageId ≤ e.messageId :=
        fun a => precedes_iff_le (Or.inr rfl)
      simp only [hle, not_le, mem_combinedMessages, List.mem_append, List.not_mem_nil, false_imp_iff,
        implies_true, and_true]
  · have hnone := not_exists.mp hadds
    rw [combinedMessages_step_same hne hnone]
    exact (and_iff_left fun z hz => absurd hz (hnone z)).symm

end Rendering

/-! ## The cache of the page -/

section OfPage

/-- A message from the server, as an object. -/
def ofMessage (msg : Message) (mark : μ) : MessageObject μ where
  fromUserId := msg.fromUserId.toInt
  toUserId := msg.toUserId.toInt
  messageId := msg.messageId.toInt
  content := msg.content
  timestamp := msg.timestamp.toInt
  mark := mark

/-- An entry made of a message from the server. -/
def ofEntry (e : Entry) (mark : μ) : CachedMessage μ where
  fromUserId := e.fromUserId.toInt
  toUserId := e.toUserId.toInt
  messageId := e.messageId.toInt
  username := e.username
  text := e.text
  timestamp := e.timestamp.toInt
  mark := mark

/-- The entries are the same, up to the marks. -/
def Same (es : List Entry) (ms : List (CachedMessage μ)) : Prop :=
  List.Forall₂ (fun e m => m = ofEntry e m.mark) es ms

theorem exists_of_same {es : List Entry} {ms : List (CachedMessage μ)} (h : Same es ms) {e : Entry}
    (he : e ∈ es) : ∃ m ∈ ms, m = ofEntry e m.mark := by
  induction h with
  | nil => cases he
  | cons hm _ ih =>
      rcases List.mem_cons.mp he with rfl | he
      · exact ⟨_, List.mem_cons_self, hm⟩
      · obtain ⟨m, hmem, heq⟩ := ih he
        exact ⟨m, List.mem_cons_of_mem _ hmem, heq⟩

/-- Under each user id, the entries of the page are some of this cache, in their order; the others are
of messages written on the page itself. -/
def Holds (pageCache : Int32 → List Entry) (messageCache : MessageCache μ) : Prop :=
  ∀ k : Int32, ∃ ms, ms.Sublist (messageCache k.toInt) ∧ Same (pageCache k) ms

variable {pageCache : Int32 → List Entry} {messageCache : MessageCache μ}

theorem holds_file (h : Holds pageCache messageCache) (key : Int32) (e : Entry) (mark : μ) :
    Holds (Page.file pageCache key e) (file messageCache key.toInt (ofEntry e mark)) := by
  intro k
  obtain ⟨ms, hsub, hsame⟩ := h k
  unfold Page.file file
  by_cases hkey : k = key
  · rw [if_pos hkey, if_pos (congrArg Int32.toInt hkey)]
    exact ⟨ms ++ [ofEntry e mark], hsub.append_right _,
      List.rel_append hsame (List.Forall₂.cons rfl List.Forall₂.nil)⟩
  · rw [if_neg hkey, if_neg fun hint => hkey (Int32.toInt_inj.mp hint)]
    exact ⟨ms, hsub, hsame⟩

theorem holds_file_own (h : Holds pageCache messageCache) (key : Int) (e : CachedMessage μ) :
    Holds pageCache (file messageCache key e) := by
  intro k
  obtain ⟨ms, hsub, hsame⟩ := h k
  refine ⟨ms, ?_, hsame⟩
  unfold file
  split
  · exact hsub.trans (List.sublist_append_left _ _)
  · exact hsub

/-- A chat message from the server changes this cache as it changes the one of the page. -/
theorem holds_arrived (h : Holds pageCache messageCache) (msg : Message) (mark : μ) (v : JsValue) :
    Holds (Page.cacheAfter pageCache msg (some ((JSON.parse msg.content).getD v)))
      (step messageCache (ofMessage msg mark, v)) := by
  have hcached : cached (ofMessage msg mark, v) =
      if ((JSON.parse msg.content).getD v).isNull then none
      else some (ofEntry (Page.entry msg ((JSON.parse msg.content).getD v)) mark) := rfl
  rw [step_eq, hcached, Page.cacheAfter]
  cases ((JSON.parse msg.content).getD v).isNull with
  | true => exact h
  | false => exact holds_file (holds_file h _ _ mark) _ _ mark

/-- A message that is written on the page is filed in this cache only. -/
theorem holds_own (h : Holds pageCache messageCache) (call : MessageObject μ × JsValue) :
    Holds pageCache (step messageCache call) := by
  rw [step_eq]
  cases cached call with
  | none => exact h
  | some e => exact holds_file_own (holds_file_own h _ e) _ e

end OfPage

end MessageCache

end TinyIM
