/-
# WindowView — the window is up to date

The messages on the screen come from two paths: those that were cached when the chat was opened, and
those that were appended since. `window_is_current` says for which runs the two paths agree: when the
messages on the screen are always, up to their order, those that opening the same chat again would
show. The ids in the friend lists are neither the user's own nor `0`, which the script uses for the
public chat.
-/
import TinyIM.ChatWindow

namespace TinyIM

open TinyIM.Lib TinyIM.Lib.Text TinyIM.Lib.Runs TinyIM.Lib.Stops TinyIM.Lib.StableSort

namespace ChatWindow

/-! ## The two ways to fill the window -/

/-- The messages that opening the current chat again renders, in order. -/
def reopened (w : ChatWindow) : List (ShownMessage Unit) :=
  if w.currentChat = 0 then
    (sortBy (·.timestamp) w.publicCache).map (MessageCache.shownTo w.userId)
  else MessageCache.combinedMessages w.messageCache w.userId w.currentChat

/-- The window shows what opening the chat again would show, up to the order, and that would not
throw. -/
def Agrees (w : ChatWindow) : Prop :=
  (w.reopened.all MessageCache.Renders) = true ∧ w.chatMessages.Perm (w.reopened.map bubble)

/-- The condition on one event under which the window stays up to date. -/
def Keeps (w : ChatWindow) : Event → Prop
  -- what the caches hold for the chat that is opened can all be rendered
  | .click _ .publicChat _ => w.chats.count = 0 ∨
    ∀ m ∈ w.publicCache, MessageCache.Renders (MessageCache.shownTo w.userId m)
  | .click _ (.friend k) _ => w.chats.count = 0 ∨ ∀ friend selected,
    w.chats.friends[k]? = some (friend, selected) →
      ∀ m ∈ MessageCache.combinedMessages w.messageCache w.userId friend.id, MessageCache.Renders m
  | .click _ _ _ => True
  | .submit _ _ => True
  | .addFriend _ _ => True
  | .beforeunload _ => True
  -- a file is in no cache
  | .fileInput _ _ => False
  | .FILE msg _ => (w.contentOf msg).isNull ∨
    (orUnknown ((w.contentOf msg).property "username")).all JsValue.hasText = false
  -- a message of the open conversation comes from the friend, with a name and a text; no other one does
  | .TEXT msg => (w.contentOf msg).isNull ∨
    if w.currentChat ≠ 0 ∧ (msg.fromUserId = w.userId ∧ msg.toUserId = w.currentChat ∨
        msg.fromUserId = w.currentChat ∧ msg.toUserId = w.userId) then
      msg.fromUserId = w.currentChat ∧ Named (w.contentOf msg) ∧ Showable (w.contentOf msg)
    else ¬(msg.fromUserId = w.currentChat ∧ Showable (w.contentOf msg))
  -- in the public chat, what can be shown comes from others, with a name; elsewhere none is shown
  | .GROUP_CHAT msg => (w.contentOf msg).isNull ∨
    if w.currentChat = 0 then msg.toUserId = 0 ∧
      (Showable (w.contentOf msg) →
        Named (w.contentOf msg) ∧ Timed (w.contentOf msg) ∧ msg.fromUserId ≠ w.userId)
    else ¬(msg.toUserId = w.currentChat ∧ Showable (w.contentOf msg))
  | .FRIEND_LIST _ => True
  | .FRIEND_REQUEST _ => True

/-! ## One message in the two paths -/

section Views

variable {w w' : ChatWindow} {msg : MessageObject Unit} {v : JsValue} {shown : List Bubble}
  {added : List (ShownMessage Unit)}

theorem reopened_of_ne (h : w.currentChat ≠ 0) : w.reopened =
    MessageCache.combinedMessages w.messageCache w.userId w.currentChat := if_neg h

/-- What a call adds to a conversation, wherever the order of the ids puts it. -/
theorem combinedMessages_step_perm {u f : Int} (hne : u ≠ f) (messageCache : MessageCache Unit)
    (call : MessageObject Unit × JsValue) :
    (MessageCache.combinedMessages (MessageCache.step messageCache call) u f).Perm
      (MessageCache.combinedMessages messageCache u f ++
        ((MessageCache.cached call).toList.filter fun e => MessageCache.Between u f e).map
          (MessageCache.shownTo u)) := by
  have hadded := MessageCache.perm_between (MessageCache.cached call).toList hne
  unfold MessageCache.combinedMessages
  rw [MessageCache.collect_step call hne, MessageCache.collect_step call hne.symm]
  refine (perm_sortBy _ _).trans ?_
  refine List.Perm.trans ?_ ((perm_sortBy _ _).symm.append hadded)
  rw [List.append_assoc, List.append_assoc]
  exact List.Perm.append_left _ (List.perm_append_comm_assoc _ _ _)

/-- The views still agree exactly if the same is added to both, and can be rendered. -/
theorem agrees_push_iff (h : Agrees w) (hadded : w'.reopened.Perm (w.reopened ++ added))
    (hsame : w'.chatMessages = w.chatMessages) : Agrees (w'.push shown) ↔
      added.all MessageCache.Renders = true ∧ shown.Perm (added.map bubble) := by
  show w'.reopened.all MessageCache.Renders = true ∧
    (w'.chatMessages ++ shown).Perm (w'.reopened.map bubble) ↔ _
  rw [hsame, hadded.all_eq, List.all_append, h.1, Bool.true_and]
  refine and_congr Iff.rfl ?_
  have hold : (w.reopened.map bubble ++ added.map bubble).Perm (w'.reopened.map bubble) := by
    rw [← List.map_append]
    exact (hadded.map bubble).symm
  constructor
  · intro hperm
    have hboth := (h.2.symm.append_right shown).trans (hperm.trans hold.symm)
    exact (List.perm_append_left_iff _).mp hboth
  · intro hperm
    exact (h.2.append hperm).trans hold

/-- Only a name that counts as false is replaced. -/
theorem orUnknown_eq_iff : orUnknown (v.property "username") = v.property "username" ↔ Named v := by
  unfold orUnknown Named
  split
  · rename_i hnamed
    exact iff_of_true rfl hnamed
  · rename_i hnot
    refine iff_of_false ?_ hnot
    intro heq
    rw [← heq] at hnot
    exact hnot (by decide)

/-- The bubble of a received message is the one that its copy in a cache gives, under a name. -/
theorem live_eq_iff {u : Int} : live v = bubble (MessageCache.shownTo u (MessageCache.entry msg v)) ↔
    Named v ∧ msg.fromUserId ≠ u := by
  show Bubble.mk (orUnknown (v.property "username")) (v.property "text") false =
    ⟨v.property "username", v.property "text", decide (msg.fromUserId = u)⟩ ↔ _
  rw [Bubble.mk.injEq, orUnknown_eq_iff, eq_self_iff_true, true_and, eq_comm, decide_eq_false_iff_not]

/-- A named message that the live view can show, opening the chat again can render. -/
theorem renders_of_showable {u : Int} (hnamed : Named v) (hshow : Showable v) :
    MessageCache.Renders (MessageCache.shownTo u (MessageCache.entry msg v)) = true := by
  have hname := hshow.1
  rw [orUnknown_eq_iff.mpr hnamed] at hname
  exact Bool.and_eq_true_iff.mpr ⟨hname, hshow.2⟩

/-- One message in both views. -/
theorem added_one_iff {u : Int} :
    ([MessageCache.shownTo u (MessageCache.entry msg v)].all MessageCache.Renders = true ∧
      (if Showable v then [live v] else []).Perm
        ([MessageCache.shownTo u (MessageCache.entry msg v)].map bubble)) ↔
      Named v ∧ Showable v ∧ msg.fromUserId ≠ u := by
  rw [List.map_singleton, List.all_cons, List.all_nil, Bool.and_true]
  by_cases hshow : Showable v
  · rw [if_pos hshow, List.perm_singleton, List.singleton_inj, live_eq_iff]
    constructor
    · rintro ⟨-, hnamed, hfrom⟩
      exact ⟨hnamed, hshow, hfrom⟩
    · rintro ⟨hnamed, -, hfrom⟩
      exact ⟨renders_of_showable hnamed hshow, hnamed, hfrom⟩
  · rw [if_neg hshow]
    refine iff_of_false ?_ fun h => hshow h.2.1
    rintro ⟨-, hperm⟩
    exact absurd (List.nil_perm.mp hperm) (List.cons_ne_nil _ _)

/-- Nothing new in the caches: nothing may be new in the window. -/
theorem added_none_iff : (([] : List (ShownMessage Unit)).all MessageCache.Renders = true ∧
    shown.Perm (([] : List (ShownMessage Unit)).map bubble)) ↔ shown = [] := by
  rw [List.map_nil, List.perm_nil]
  exact and_iff_right rfl

end Views

/-! ## One event -/

/-- The friends of the list, and the open conversation, are with others. -/
structure Ready (w : ChatWindow) : Prop where
  friends : ∀ f ∈ w.chats.friends, f.1.id ≠ 0 ∧ f.1.id ≠ w.userId
  currentChat : w.currentChat ≠ 0 → w.currentChat ≠ w.userId

section Events

variable {w : ChatWindow} {msg : MessageObject Unit}

/-- What filing a private message adds to the open chat. -/
theorem reopened_filed (hready : Ready w) : (w.filed msg).reopened.Perm (w.reopened ++
    if (w.contentOf msg).isNull = false ∧ w.currentChat ≠ 0 ∧
      (msg.fromUserId = w.userId ∧ msg.toUserId = w.currentChat ∨
        msg.fromUserId = w.currentChat ∧ msg.toUserId = w.userId) then
      [MessageCache.shownTo w.userId (MessageCache.entry msg (w.contentOf msg))]
    else []) := by
  by_cases hchat : w.currentChat = 0
  · rw [if_neg fun h => h.2.1 hchat, List.append_nil, reopened, reopened, if_pos hchat]
    exact List.Perm.of_eq (if_pos hchat)
  · have hadded := combinedMessages_step_perm (hready.currentChat hchat).symm w.messageCache
      (msg, w.contentOf msg)
    have hcached : MessageCache.cached (msg, w.contentOf msg) =
        if (w.contentOf msg).isNull then none
        else some (MessageCache.entry msg (w.contentOf msg)) := by
      rw [MessageCache.cached]
      dsimp only
      rw [getD_contentOf]
    rw [hcached] at hadded
    rw [reopened, reopened, if_neg hchat]
    refine (List.Perm.of_eq (if_neg hchat)).trans (hadded.trans (List.Perm.of_eq ?_))
    congr 1
    cases (w.contentOf msg).isNull with
    | true =>
        rw [if_pos rfl, if_neg fun h => Bool.noConfusion h.1]
        rfl
    | false =>
        rw [if_neg Bool.false_ne_true, Option.toList_some, List.filter_singleton]
        by_cases hbetween : MessageCache.Between w.userId w.currentChat
            (MessageCache.entry msg (w.contentOf msg))
        · rw [decide_eq_true hbetween, if_pos ⟨rfl, hchat, hbetween⟩]
          rfl
        · rw [decide_eq_false hbetween, if_neg fun h => hbetween h.2.2]
          rfl

theorem agrees_text_iff (hready : Ready w) (h : Agrees w) :
    Agrees (step w (.TEXT msg)) ↔ Keeps w (.TEXT msg) := by
  rw [step_text, agrees_push_iff h (reopened_filed hready) rfl]
  unfold Keeps shown
  dsimp only
  cases hnull : (w.contentOf msg).isNull with
  | true =>
      rw [if_neg fun h => Bool.noConfusion h.1, if_neg fun h => Bool.noConfusion h.1, added_none_iff]
      exact iff_of_true rfl (Or.inl rfl)
  | false =>
      rw [or_iff_right Bool.false_ne_true]
      simp only [true_and]
      split
      · rename_i hview
        have hne := hready.currentChat hview.1
        by_cases hfrom : msg.fromUserId = w.currentChat
        · simp only [hfrom, true_and]
          rw [added_one_iff, hfrom]
          exact ⟨fun h => ⟨h.1, h.2.1⟩, fun h => ⟨h.1, h.2, hne⟩⟩
        · -- an own message that comes back is cached, and not shown
          rw [if_neg fun h => hfrom h.1]
          refine iff_of_false ?_ fun h => hfrom h.1
          rintro ⟨-, hperm⟩
          exact absurd (List.nil_perm.mp hperm) (List.cons_ne_nil _ _)
      · rw [added_none_iff, ite_eq_right_iff]
        exact imp_congr_right fun _ => iff_of_false (List.cons_ne_nil _ _) id

/-- What caching more public messages adds to the open chat. -/
theorem reopened_public {ms : List (CachedMessage Unit)} (w' : ChatWindow)
    (hchat : w'.currentChat = w.currentChat) (huser : w'.userId = w.userId)
    (hprivate : w'.messageCache = w.messageCache) (hpublic : w'.publicCache = w.publicCache ++ ms) :
    w'.reopened.Perm (w.reopened ++
      if w.currentChat = 0 then ms.map (MessageCache.shownTo w.userId) else []) := by
  unfold reopened
  rw [hchat, huser, hprivate, hpublic]
  split
  · rw [← List.map_append]
    refine List.Perm.map _ ((perm_sortBy _ _).trans ?_)
    exact (perm_sortBy _ _).symm.append_right ms
  · rw [List.append_nil]

theorem agrees_groupChat_iff (h : Agrees w) :
    Agrees (step w (.GROUP_CHAT msg)) ↔ Keeps w (.GROUP_CHAT msg) := by
  rw [step_groupChat, agrees_push_iff h (reopened_public (w.filedPublic msg) rfl rfl rfl rfl) rfl]
  unfold Keeps shown
  dsimp only
  cases hnull : (w.contentOf msg).isNull with
  | true =>
      simp only [Bool.true_eq_false, false_and, if_false, List.map_nil, ite_self]
      exact iff_of_true (added_none_iff.mpr rfl) (Or.inl trivial)
  | false =>
      rw [or_iff_right Bool.false_ne_true]
      simp only [true_and]
      by_cases hchat : w.currentChat = 0
      · rw [if_pos hchat, if_pos hchat]
        simp only [hchat]
        by_cases hto : msg.toUserId = 0
        · simp only [hto, true_and, true_imp_iff]
          by_cases hcached : Showable (w.contentOf msg) ∧ Timed (w.contentOf msg)
          · rw [if_pos hcached]
            refine added_one_iff.trans ?_
            constructor
            · rintro ⟨hnamed, -, hfrom⟩ -
              exact ⟨hnamed, hcached.2, hfrom⟩
            · intro hkeeps
              obtain ⟨hnamed, -, hfrom⟩ := hkeeps hcached.1
              exact ⟨hnamed, hcached.1, hfrom⟩
          · -- showing the message throws, before or after it stands in the window
            rw [if_neg hcached, List.map_nil, added_none_iff, ite_eq_right_iff]
            refine imp_congr_right fun hshow => iff_of_false (List.cons_ne_nil _ _) ?_
            exact fun h => hcached ⟨hshow, h.2.1⟩
        · rw [if_pos fun h => absurd h hto, if_neg fun h => hto h.1]
          refine iff_of_false ?_ fun h => hto h.1
          rintro ⟨-, hperm⟩
          exact absurd (List.nil_perm.mp hperm) (List.cons_ne_nil _ _)
      · rw [if_neg hchat, if_neg hchat, added_none_iff, ite_eq_right_iff]
        exact imp_congr_right fun _ => iff_of_false (List.cons_ne_nil _ _) id

theorem agrees_file_iff {filename : JsString} (h : Agrees w) :
    Agrees (step w (.FILE msg filename)) ↔ Keeps w (.FILE msg filename) := by
  have hsame : (w.read msg).reopened.Perm (w.reopened ++ []) :=
    List.Perm.of_eq (List.append_nil _).symm
  rw [step_file, agrees_push_iff h hsame rfl, added_none_iff, ite_eq_right_iff]
  unfold Keeps
  dsimp only
  cases (w.contentOf msg).isNull with
  | true => exact iff_of_true (fun h => Bool.noConfusion h.1) (Or.inl rfl)
  | false =>
      rw [or_iff_right Bool.false_ne_true]
      constructor
      · intro hnot
        exact Bool.eq_false_of_not_eq_true fun hname => List.cons_ne_nil _ _ (hnot ⟨rfl, hname⟩)
      · intro hname hshown
        exact absurd hshown.2 (ne_true_of_eq_false hname)

theorem not_agrees_fileInput {fileName : JsString} {timestamp : SafeInteger} (h : Agrees w) :
    ¬Agrees (step w (.fileInput fileName timestamp)) := by
  have hsame : w.reopened.Perm (w.reopened ++ []) := List.Perm.of_eq (List.append_nil _).symm
  rw [step_fileInput, agrees_push_iff h hsame rfl, added_none_iff]
  exact List.cons_ne_nil _ _

/-- What the form caches is what it shows. -/
theorem added_own (w : ChatWindow) (message : Json.CodePoints) (timestamp : SafeInteger) :
    let m := MessageCache.shownTo w.userId
      (MessageCache.entry (w.ownMessage message timestamp) (w.ownContent message timestamp))
    [m].all MessageCache.Renders = true ∧ [w.ownBubble message].Perm ([m].map bubble) := by
  refine ⟨rfl, List.Perm.of_eq ?_⟩
  show [w.ownBubble message] = [⟨_, _, decide (w.userId = w.userId)⟩]
  rw [decide_eq_true rfl]
  rfl

theorem agrees_submit (hready : Ready w) (h : Agrees w) (message : Json.CodePoints)
    (timestamp : SafeInteger) : Agrees (step w (.submit message timestamp)) := by
  have hown := added_own w message timestamp
  by_cases hblank : trim message.chars = []
  · rw [step_submit_blank hblank]
    exact h
  · by_cases hchat : w.currentChat = 0
    · have hadded := reopened_public (w := w) { w with
        message_id := w.message_id + 1
        sent := w.sent ++ [(MessageType.GROUP_CHAT, w.ownMessage message timestamp)]
        publicCache := w.publicCache ++ [MessageCache.entry (w.ownMessage message timestamp)
          (w.ownContent message timestamp)] } rfl rfl rfl rfl
      rw [if_pos hchat] at hadded
      rw [step_submit_public hblank hchat]
      exact (agrees_push_iff h hadded rfl).mpr hown
    · have hcached : MessageCache.cached
          (w.ownMessage message timestamp, w.ownContent message timestamp) =
          some (MessageCache.entry (w.ownMessage message timestamp)
            (w.ownContent message timestamp)) := by
        rw [MessageCache.cached]
        dsimp only
        rw [getD_ownContent, if_neg isNull_ownContent]
      have hbetween : MessageCache.Between w.userId w.currentChat (MessageCache.entry
          (w.ownMessage message timestamp) (w.ownContent message timestamp)) := Or.inl ⟨rfl, rfl⟩
      have hadded := combinedMessages_step_perm (hready.currentChat hchat).symm w.messageCache
        (w.ownMessage message timestamp, w.ownContent message timestamp)
      rw [hcached, Option.toList_some, List.filter_singleton, decide_eq_true hbetween] at hadded
      rw [← reopened_of_ne hchat] at hadded
      rw [step_submit_friend hblank hchat]
      refine Iff.mpr (agrees_push_iff h (List.Perm.trans ?_ hadded) rfl) hown
      exact List.Perm.of_eq (reopened_of_ne hchat)

end Events

/-! ## The chat list -/

section Clicks

variable {w : ChatWindow} {now : Int} {prompts : Nat → Int × Bool}

/-- A list that has been rendered from the start is up to date if all of it could be rendered. -/
theorem agrees_of_rendered {w' : ChatWindow} {ms : List (ShownMessage Unit)}
    (hview : w'.reopened.Perm ms)
    (hshown : w'.chatMessages = (ms.takeWhile MessageCache.Renders).map bubble) :
    Agrees w' ↔ ms.all MessageCache.Renders = true := by
  unfold Agrees
  rw [hview.all_eq, hshown]
  refine and_iff_left_of_imp fun hall => ?_
  rw [List.takeWhile_eq_self_iff.mpr fun m hm => List.all_eq_true.mp hall m hm]
  exact (hview.map bubble).symm

theorem agrees_click_public_iff (h : Agrees w) :
    Agrees (step w (.click now .publicChat prompts)) ↔ Keeps w (.click now .publicChat prompts) := by
  unfold Keeps
  dsimp only
  by_cases hcount : w.chats.count = 0
  · rw [step_click_of_count_eq_zero (by decide) hcount]
    exact iff_of_true h (Or.inl hcount)
  · obtain ⟨chats, hselect⟩ := ChatList.select_of_count_ne_zero hcount .publicChat
    rw [or_iff_right hcount, step_click_public hselect]
    -- the cache is sorted already when it is read again
    refine (agrees_of_rendered ?_ rfl).trans ?_
    · exact (perm_sortBy _ _).map _
    · rw [List.all_map, List.all_eq_true]
      exact forall_congr' fun m => by rw [mem_sortBy, Function.comp_apply]

theorem agrees_click_friend_iff {k : Nat} (hready : Ready w) (h : Agrees w) :
    Agrees (step w (.click now (.friend k) prompts)) ↔ Keeps w (.click now (.friend k) prompts) := by
  unfold Keeps
  dsimp only
  by_cases hcount : w.chats.count = 0
  · rw [step_click_of_count_eq_zero ChatItem.noConfusion hcount]
    exact iff_of_true h (Or.inl hcount)
  · rw [or_iff_right hcount]
    cases hold : w.chats.friends[k]? with
    | none =>
        have hnot : ¬w.chats.Has (.friend k) := by
          intro hitem
          exact absurd (hitem k rfl) (Nat.not_lt.mpr (List.getElem?_eq_none_iff.mp hold))
        rw [step_click_of_not_has hnot]
        exact iff_of_true h fun friend selected hsome => absurd hsome (Option.some_ne_none _).symm
    | some old =>
        obtain ⟨friend, selected⟩ := old
        obtain ⟨chats, hselect⟩ := ChatList.select_of_count_ne_zero hcount (.friend k)
        have hitem : w.chats.Has (.friend k) := by
          intro k' hk
          rw [← ChatItem.friend.inj hk]
          exact (List.getElem?_eq_some_iff.mp hold).1
        obtain ⟨selected', hnew⟩ : ∃ selected', chats.friends[k]? = some (friend, selected') := by
          have hsame := congrArg (fun l => l[k]?) (ChatList.map_fst_select hselect)
          rw [List.getElem?_map, List.getElem?_map, hold] at hsame
          obtain ⟨⟨friend', selected'⟩, hf, hfriend⟩ := Option.map_eq_some_iff.mp hsame
          exact ⟨selected', hf.trans (congrArg (fun x => some (x, selected')) hfriend)⟩
        have hid := (hready.friends _ (List.mem_of_getElem? hold)).1
        rw [step_click_friend hselect hitem hnew]
        refine (agrees_of_rendered (List.Perm.of_eq (reopened_of_ne hid)) rfl).trans ?_
        rw [List.all_eq_true]
        constructor
        · intro hall friend' selected'' hsame
          obtain ⟨rfl, -⟩ := Prod.mk.inj (Option.some.inj hsame)
          exact hall
        · intro hall
          exact hall friend selected rfl

/-- The other items change nothing that is shown. -/
theorem agrees_click_friendsList (h : Agrees w) :
    Agrees (step w (.click now .friendsList prompts)) := by
  have hitem : ChatItem.friendsList ≠ .friendRequestNotification := by decide
  by_cases hcount : w.chats.count = 0
  · rw [step_click_of_count_eq_zero hitem hcount]
    exact h
  · obtain ⟨chats, hselect⟩ := ChatList.select_of_count_ne_zero hcount .friendsList
    rw [step_click_friendsList hselect]
    exact h

theorem agrees_click_notification (h : Agrees w) :
    Agrees (step w (.click now .friendRequestNotification prompts)) := by
  obtain ⟨ms, -, hstep⟩ := step_click_notification w now prompts
  rw [hstep]
  exact h

end Clicks

/-! ## Runs -/

section Runs

variable {w w' : ChatWindow} {e : Event}

/-- One event keeps the window up to date exactly if it meets the condition. -/
theorem agrees_step_iff (hready : Ready w) (h : Agrees w) : Agrees (step w e) ↔ Keeps w e := by
  cases e with
  | click now item prompts =>
      cases item with
      | publicChat => exact agrees_click_public_iff h
      | friend k => exact agrees_click_friend_iff hready h
      | friendsList => exact iff_of_true (agrees_click_friendsList h) trivial
      | friendRequestNotification => exact iff_of_true (agrees_click_notification h) trivial
  | submit message timestamp => exact iff_of_true (agrees_submit hready h message timestamp) trivial
  | fileInput fileName timestamp => exact iff_of_false (not_agrees_fileInput h) id
  | TEXT msg => exact agrees_text_iff hready h
  | FILE msg filename => exact agrees_file_iff h
  | GROUP_CHAT msg => exact agrees_groupChat_iff h
  | FRIEND_LIST friends => exact iff_of_true h trivial
  | addFriend now friendIdInput =>
      rw [step_addFriend]
      exact iff_of_true h trivial
  | beforeunload now =>
      rw [step_beforeunload]
      exact iff_of_true h trivial
  | FRIEND_REQUEST msg =>
      rw [step_friendRequest]
      exact iff_of_true h trivial

theorem Ready.congr (hready : Ready w) (huser : w'.userId = w.userId)
    (hfriends : w'.chats.friends.map Prod.fst = w.chats.friends.map Prod.fst)
    (hchat : w'.currentChat = w.currentChat) : Ready w' where
  friends := by
    intro f hf
    have hmem := List.mem_map_of_mem (f := Prod.fst) hf
    rw [hfriends] at hmem
    obtain ⟨f', hf', hsame⟩ := List.mem_map.mp hmem
    rw [huser, ← hsame]
    exact hready.friends f' hf'
  currentChat := by
    rw [huser, hchat]
    exact hready.currentChat

/-- The event does not bring a friend list with the user's own id or `0`. -/
def NamesOthers (userId : Int) (e : Event) : Prop :=
  ∀ friends, e = .FRIEND_LIST friends → ∀ f ∈ friends, f.id ≠ 0 ∧ f.id ≠ userId

theorem ready_click {now : Int} {item : ChatItem} {prompts : Nat → Int × Bool} (hready : Ready w) :
    Ready (step w (.click now item prompts)) ∧
      (step w (.click now item prompts)).userId = w.userId := by
  by_cases hnotification : item = .friendRequestNotification
  · obtain ⟨ms, -, hstep⟩ := step_click_notification w now prompts
    rw [hnotification, hstep]
    exact ⟨hready.congr rfl (ChatList.map_fst_step_click _ _) rfl, rfl⟩
  by_cases hcount : w.chats.count = 0
  · rw [step_click_of_count_eq_zero hnotification hcount]
    exact ⟨hready, rfl⟩
  · obtain ⟨chats, hselect⟩ := ChatList.select_of_count_ne_zero hcount item
    have hfriends := ChatList.map_fst_select hselect
    have hchats : Ready { w with chats := chats } := hready.congr rfl hfriends rfl
    cases item with
    | publicChat =>
        rw [step_click_public hselect]
        exact ⟨⟨hchats.friends, fun h => absurd rfl h⟩, rfl⟩
    | friendsList =>
        rw [step_click_friendsList hselect]
        exact ⟨hchats.congr rfl rfl rfl, rfl⟩
    | friendRequestNotification => exact absurd rfl hnotification
    | friend k =>
        by_cases hitem : w.chats.Has (.friend k)
        · have hk := ChatList.lt_length_select hselect hitem
          have hfriend := List.getElem?_eq_getElem hk
          rw [step_click_friend hselect hitem hfriend]
          refine ⟨⟨hchats.friends, fun _ => ?_⟩, rfl⟩
          exact (hchats.friends _ (List.getElem_mem hk)).2
        · rw [step_click_of_not_has hitem]
          exact ⟨hready, rfl⟩

/-- An event keeps the user, and the friends of the list others. -/
theorem ready_step (hready : Ready w) (he : NamesOthers w.userId e) :
    Ready (step w e) ∧ (step w e).userId = w.userId := by
  cases e with
  | click now item prompts => exact ready_click hready
  | submit message timestamp =>
      by_cases hblank : trim message.chars = []
      · rw [step_submit_blank hblank]
        exact ⟨hready, rfl⟩
      · by_cases hchat : w.currentChat = 0
        · rw [step_submit_public hblank hchat]
          exact ⟨hready.congr rfl rfl rfl, rfl⟩
        · rw [step_submit_friend hblank hchat]
          exact ⟨hready.congr rfl rfl rfl, rfl⟩
  | fileInput fileName timestamp =>
      rw [step_fileInput]
      exact ⟨hready.congr rfl rfl rfl, rfl⟩
  | TEXT msg =>
      rw [step_text]
      exact ⟨hready.congr rfl rfl rfl, rfl⟩
  | FILE msg filename =>
      rw [step_file]
      exact ⟨hready.congr rfl rfl rfl, rfl⟩
  | GROUP_CHAT msg =>
      rw [step_groupChat]
      exact ⟨hready.congr rfl rfl rfl, rfl⟩
  | FRIEND_LIST friends =>
      refine ⟨⟨?_, hready.currentChat⟩, rfl⟩
      intro f hf
      obtain ⟨friend, hfriend, rfl⟩ := List.mem_map.mp hf
      exact he friends rfl friend hfriend
  | addFriend now friendIdInput =>
      rw [step_addFriend]
      exact ⟨hready.congr rfl rfl rfl, rfl⟩
  | beforeunload now =>
      rw [step_beforeunload]
      exact ⟨hready.congr rfl rfl rfl, rfl⟩
  | FRIEND_REQUEST msg =>
      rw [step_friendRequest]
      exact ⟨hready.congr rfl rfl rfl, rfl⟩

/-- **`window_is_current`** — in every run of a page that has logged in, whose friend lists name
neither the user nor the id `0`, the window shows at every moment what opening the same chat again
would show, up to the order, exactly if every event meets its condition in the state it is handled
in. -/
theorem window_is_current (userId : Int) (username : Json.CodePoints) (content : JsValue)
    (message_id : Nat) (es : List Event) (hes : ∀ e ∈ es, NamesOthers userId e) :
    Throughout step Agrees (opened userId username content message_id) es ↔
      StepsMeet step Keeps (opened userId username content message_id) es := by
  have hready : Ready (opened userId username content message_id) :=
    ⟨fun f hf => absurd hf List.not_mem_nil, fun h => absurd rfl h⟩
  have hagrees : Agrees (opened userId username content message_id) := ⟨rfl, List.Perm.refl _⟩
  refine throughout_iff_stepsMeet_of (I := fun w => Ready w ∧ w.userId = userId)
    (V := NamesOthers userId) ?_ ?_ ⟨hready, rfl⟩ hagrees hes
  · rintro w e he ⟨hw, rfl⟩
    exact ready_step hw he
  · rintro w e - ⟨hw, -⟩ h
    exact agrees_step_iff hw h

/-- A friend list, the conversation with a friend, a message each way. -/
theorem window_is_current_hello :
    let amy : Json.CodePoints := .ofChars "amy".toList
    let hello : MessageObject Unit :=
      ⟨2, 1, 5, str "\x7b\"username\":\"bob\",\"text\":\"hello\"\x7d", 0, ()⟩
    let es : List Event := [.FRIEND_LIST [⟨2, js "bob"⟩],
      .click 0 (.friend 0) (fun _ => (0, true)), .TEXT hello, .submit (.ofChars "hi".toList) ⟨0, by decide⟩]
    Throughout step Agrees (opened 1 amy .null 2) es ↔
      StepsMeet step Keeps (opened 1 amy .null 2) es := by
  refine window_is_current 1 _ .null 2 _ ?_
  intro e he friends hfriends
  rw [hfriends] at he
  rcases List.mem_cons.mp he with hfirst | hrest
  · rw [Event.FRIEND_LIST.inj hfirst]
    decide
  · simp at hrest

end Runs

/-! ## Messages of the form -/

section TypedMessages

variable {w : ChatWindow} {msg : MessageObject Unit} {c : ChatContent} {s : Json.CodePoints}

/-- What the form of another page sends can be shown, under a name that is not empty. -/
theorem typed_content (hmsg : msg.content = utf8 c.json) (hname : c.username = some s)
    (hs : s.units ≠ []) : (w.contentOf msg).isNull = false ∧ Named (w.contentOf msg) ∧
      Showable (w.contentOf msg) ∧ Timed (w.contentOf msg) := by
  have hcontent : w.contentOf msg = .object c.parsed := by
    rw [contentOf, hmsg, ChatContent.parse_json, Option.getD_some]
  have hproperty : (w.contentOf msg).property "username" = some (.string s.units) := by
    rw [hcontent, ← show ChatContent.nameValue c.username = .string s.units by rw [hname]; rfl]
    rfl
  have hnamed : Named (w.contentOf msg) := by
    rw [Named, hproperty]
    exact decide_eq_true hs
  rw [Showable, orUnknown_eq_iff.mpr hnamed, hproperty, hcontent]
  refine ⟨rfl, ?_, ⟨rfl, rfl⟩, rfl⟩
  rw [← hcontent]
  exact hnamed

/-- Of messages of the form, those of the open conversation have to come from the friend, and no
other ones may. -/
theorem keeps_text_typed (hmsg : msg.content = utf8 c.json) (hname : c.username = some s)
    (hs : s.units ≠ []) : Keeps w (.TEXT msg) ↔
      (msg.fromUserId = w.currentChat ↔ w.currentChat ≠ 0 ∧
        (msg.fromUserId = w.userId ∧ msg.toUserId = w.currentChat ∨
          msg.fromUserId = w.currentChat ∧ msg.toUserId = w.userId)) := by
  obtain ⟨hnull, hnamed, hshow, -⟩ := typed_content (w := w) hmsg hname hs
  unfold Keeps
  dsimp only
  rw [hnull, or_iff_right Bool.false_ne_true]
  split
  · rename_i hview
    rw [and_iff_left ⟨hnamed, hshow⟩]
    exact (iff_true_right hview).symm
  · rename_i hview
    rw [and_iff_left hshow]
    exact (iff_false_right hview).symm

/-- Of messages of the form, those to the public chat have to come from others while it is open, and
none may be addressed to the friend whose conversation is. -/
theorem keeps_groupChat_typed (hmsg : msg.content = utf8 c.json) (hname : c.username = some s)
    (hs : s.units ≠ []) : Keeps w (.GROUP_CHAT msg) ↔
      if w.currentChat = 0 then msg.toUserId = 0 ∧ msg.fromUserId ≠ w.userId
      else msg.toUserId ≠ w.currentChat := by
  obtain ⟨hnull, hnamed, hshow, htime⟩ := typed_content (w := w) hmsg hname hs
  unfold Keeps
  dsimp only
  rw [hnull, or_iff_right Bool.false_ne_true, and_iff_left hshow]
  split
  · rw [imp_iff_right hshow, and_iff_right hnamed, and_iff_right htime]
  · exact Iff.rfl

end TypedMessages

end ChatWindow

end TinyIM
