/-
# Recipients — who gets what is typed

The heading over a conversation shows a name, and what is typed goes to an id. Both come to the page in
a friend list, which the server puts together from two queries. `heading_names_recipient` says for
whole runs of the server and of a page that every chat message a user sends under the name of a friend
is addressed to the account registered under that name, provided the two queries return their rows in
the same order; and that what is typed under the heading of the public chat goes to everybody.
-/
import TinyIM.ChatWindow
import TinyIM.Durability
import TinyIM.Effects

namespace TinyIM

open TinyIM.Lib TinyIM.Lib.Text TinyIM.Lib.Table TinyIM.Lib.Runs TinyIM.Lib.Stops

/-! ## The heading -/

namespace ChatWindow

/-- The friends that the friend lists of a run name. -/
def told (es : List Event) : List Friend :=
  es.flatMap fun e =>
    match e with
    | .FRIEND_LIST friends => friends
    | _ => []

/-- The items are friends that were told, and the heading belongs to the open chat. -/
structure Headed (friends : List Friend) (w : ChatWindow) : Prop where
  items : ∀ f ∈ w.chats.friends, f.1 ∈ friends
  heading : (w.currentChat = 0 ∧ w.chatTitle = publicTitle) ∨
    ∃ f ∈ friends, f.id = w.currentChat ∧ f.name = w.chatTitle

section Heading

variable {w w' : ChatWindow} {friends friends' : List Friend}

theorem Headed.mono (h : Headed friends w) (hsub : ∀ f ∈ friends, f ∈ friends') :
    Headed friends' w where
  items := fun f hf => hsub _ (h.items f hf)
  heading := h.heading.imp_right fun ⟨f, hf, hopen⟩ => ⟨f, hsub f hf, hopen⟩

/-- A change of the window that moves the selection at most. -/
theorem Headed.congr (h : Headed friends w)
    (hfriends : w'.chats.friends.map Prod.fst = w.chats.friends.map Prod.fst)
    (hchat : w'.currentChat = w.currentChat) (htitle : w'.chatTitle = w.chatTitle) :
    Headed friends w' where
  items := by
    intro f hf
    have hmem := List.mem_map_of_mem (f := Prod.fst) hf
    rw [hfriends] at hmem
    obtain ⟨f', hf', hsame⟩ := List.mem_map.mp hmem
    rw [← hsame]
    exact h.items f' hf'
  heading := by
    rw [hchat, htitle]
    exact h.heading

theorem headed_opened (userId : Int) (username : Json.CodePoints) (content : JsValue)
    (message_id : Nat) : Headed friends (opened userId username content message_id) where
  items := fun _ hf => absurd hf List.not_mem_nil
  heading := Or.inl ⟨rfl, rfl⟩

/-- A click opens the public chat, or the conversation with a friend of the list, under its name. -/
theorem headed_click (h : Headed friends w) (now : Int) (item : ChatItem)
    (prompts : Nat → Int × Bool) : Headed friends (step w (.click now item prompts)) := by
  by_cases hnotification : item = .friendRequestNotification
  · obtain ⟨ms, -, hstep⟩ := step_click_notification w now prompts
    rw [hnotification, hstep]
    exact h.congr (ChatList.map_fst_step_click _ _) rfl rfl
  by_cases hcount : w.chats.count = 0
  · rw [step_click_of_count_eq_zero hnotification hcount]
    exact h
  · obtain ⟨chats, hselect⟩ := ChatList.select_of_count_ne_zero hcount item
    have hfriends := ChatList.map_fst_select hselect
    have hchats : Headed friends { w with chats := chats } := h.congr hfriends rfl rfl
    cases item with
    | publicChat =>
        rw [step_click_public hselect]
        exact ⟨hchats.items, Or.inl ⟨rfl, rfl⟩⟩
    | friendsList =>
        rw [step_click_friendsList hselect]
        exact hchats.congr rfl rfl rfl
    | friendRequestNotification => exact absurd rfl hnotification
    | friend k =>
        by_cases hitem : w.chats.Has (.friend k)
        · have hk := ChatList.lt_length_select hselect hitem
          rw [step_click_friend hselect hitem (List.getElem?_eq_getElem hk)]
          exact ⟨hchats.items, Or.inr ⟨_, hchats.items _ (List.getElem_mem hk), rfl, rfl⟩⟩
        · rw [step_click_of_not_has hitem]
          exact h

/-- An event changes the heading and the open chat together. -/
theorem headed_step (h : Headed friends w) (e : Event) : Headed (friends ++ told [e]) (step w e) := by
  have hsub : ∀ f ∈ friends, f ∈ friends ++ told [e] := fun f hf => List.mem_append_left _ hf
  cases e with
  | click now item prompts => exact (headed_click h now item prompts).mono hsub
  | submit message timestamp =>
      by_cases hblank : trim message.chars = []
      · rw [step_submit_blank hblank]
        exact h.mono hsub
      · by_cases hchat : w.currentChat = 0
        · rw [step_submit_public hblank hchat]
          exact (h.mono hsub).congr rfl rfl rfl
        · rw [step_submit_friend hblank hchat]
          exact (h.mono hsub).congr rfl rfl rfl
  | fileInput fileName timestamp =>
      rw [step_fileInput]
      exact (h.mono hsub).congr rfl rfl rfl
  | TEXT msg =>
      rw [step_text]
      exact (h.mono hsub).congr rfl rfl rfl
  | FILE msg filename =>
      rw [step_file]
      exact (h.mono hsub).congr rfl rfl rfl
  | GROUP_CHAT msg =>
      rw [step_groupChat]
      exact (h.mono hsub).congr rfl rfl rfl
  | FRIEND_LIST newer =>
      refine ⟨?_, (h.mono hsub).heading⟩
      intro f hf
      obtain ⟨friend, hfriend, rfl⟩ := List.mem_map.mp hf
      refine List.mem_append_right _ ?_
      rw [told, List.flatMap_singleton]
      exact hfriend
  | addFriend now friendIdInput =>
      rw [step_addFriend]
      exact (h.mono hsub).congr rfl rfl rfl
  | beforeunload now =>
      rw [step_beforeunload]
      exact (h.mono hsub).congr rfl rfl rfl
  | FRIEND_REQUEST msg =>
      rw [step_friendRequest]
      exact (h.mono hsub).congr rfl rfl rfl

theorem headed_exec (h : Headed [] w) (es : List Event) : Headed (told es) (exec step w es) := by
  refine exec_history (R := fun es w => Headed (told es) w) h ?_ es
  intro es e hheaded
  rw [told, List.flatMap_append]
  exact headed_step hheaded e

/-- A message of the types that the chat form sends. -/
def IsChat (m : MessageType × MessageObject Unit) : Prop := m.1 = .TEXT ∨ m.1 = .GROUP_CHAT

/-- The message goes to the chat that is open. -/
def ToOpen (w : ChatWindow) (m : MessageType × MessageObject Unit) : Prop :=
  m.2.toUserId = w.currentChat ∧
    (m.1 = .TEXT ∧ w.currentChat ≠ 0 ∨ m.1 = .GROUP_CHAT ∧ w.currentChat = 0)

theorem not_isChat_of_answers {requests : List (Int × Int)}
    {ms : List (MessageType × MessageObject Unit)} (h : List.Forall₂ Answers requests ms) :
    ∀ m ∈ ms, ¬IsChat m := by
  induction h with
  | nil => exact fun m hm => absurd hm List.not_mem_nil
  | cons hanswers _ ih =>
      refine List.forall_mem_cons.mpr ⟨?_, ih⟩
      rintro (htext | hgroup)
      · cases htext.symm.trans hanswers.1
      · cases hgroup.symm.trans hanswers.1

/-- An event that sends nothing sends no chat. -/
theorem sends_no_chat (w : ChatWindow) : ∃ ms, w.sent = w.sent ++ ms ∧ ∀ m ∈ ms, ¬IsChat m :=
  ⟨[], (List.append_nil _).symm, fun _ hm => absurd hm List.not_mem_nil⟩

/-- What a click sends is not chat. -/
theorem sent_click (w : ChatWindow) (now : Int) (item : ChatItem) (prompts : Nat → Int × Bool) :
    ∃ ms, (step w (.click now item prompts)).sent = w.sent ++ ms ∧ ∀ m ∈ ms, ¬IsChat m := by
  by_cases hnotification : item = .friendRequestNotification
  · obtain ⟨ms, hms, hstep⟩ := step_click_notification w now prompts
    rw [hnotification, hstep]
    exact ⟨ms, rfl, not_isChat_of_answers hms⟩
  by_cases hcount : w.chats.count = 0
  · rw [step_click_of_count_eq_zero hnotification hcount]
    exact sends_no_chat w
  · obtain ⟨chats, hselect⟩ := ChatList.select_of_count_ne_zero hcount item
    cases item with
    | publicChat =>
        rw [step_click_public hselect]
        exact sends_no_chat w
    | friendsList =>
        rw [step_click_friendsList hselect]
        refine ⟨_, rfl, List.forall_mem_singleton.mpr ?_⟩
        rintro (htext | hgroup)
        · cases htext
        · cases hgroup
    | friendRequestNotification => exact absurd rfl hnotification
    | friend k =>
        by_cases hitem : w.chats.Has (.friend k)
        · rw [step_click_friend hselect hitem
            (List.getElem?_eq_getElem (ChatList.lt_length_select hselect hitem))]
          exact sends_no_chat w
        · rw [step_click_of_not_has hitem]
          exact sends_no_chat w

/-- An event sends one message to the open chat, or none that is chat. -/
theorem sent_step (w : ChatWindow) (e : Event) :
    (∃ m, (step w e).sent = w.sent ++ [m] ∧ ToOpen w m) ∨
      ∃ ms, (step w e).sent = w.sent ++ ms ∧ ∀ m ∈ ms, ¬IsChat m := by
  cases e with
  | submit message timestamp =>
      by_cases hblank : trim message.chars = []
      · rw [step_submit_blank hblank]
        exact Or.inr (sends_no_chat w)
      · by_cases hchat : w.currentChat = 0
        · rw [step_submit_public hblank hchat]
          exact Or.inl ⟨_, rfl, rfl, Or.inr ⟨rfl, hchat⟩⟩
        · rw [step_submit_friend hblank hchat]
          exact Or.inl ⟨_, rfl, rfl, Or.inl ⟨rfl, hchat⟩⟩
  | click now item prompts => exact Or.inr (sent_click w now item prompts)
  | addFriend now friendIdInput =>
      rw [step_addFriend]
      refine Or.inr ⟨_, rfl, fun m hm => ?_⟩
      split at hm
      · rw [List.mem_singleton.mp hm]
        exact fun h => h.elim (fun htext => nomatch htext) fun hgroup => nomatch hgroup
      · exact absurd hm List.not_mem_nil
  | beforeunload now =>
      rw [step_beforeunload]
      refine Or.inr ⟨_, rfl, fun m hm => ?_⟩
      split at hm
      · rw [List.mem_singleton.mp hm]
        exact fun h => h.elim (fun htext => nomatch htext) fun hgroup => nomatch hgroup
      · exact absurd hm List.not_mem_nil
  | FRIEND_REQUEST msg =>
      rw [step_friendRequest]
      exact Or.inr (sends_no_chat w)
  | fileInput fileName timestamp =>
      rw [step_fileInput]
      exact Or.inr (sends_no_chat w)
  | TEXT msg =>
      rw [step_text]
      exact Or.inr (sends_no_chat w)
  | FILE msg filename =>
      rw [step_file]
      exact Or.inr (sends_no_chat w)
  | GROUP_CHAT msg =>
      rw [step_groupChat]
      exact Or.inr (sends_no_chat w)
  | FRIEND_LIST friends => exact Or.inr (sends_no_chat w)

/-- The message was sent by the event after that part of the run. -/
def SentAfter (w : ChatWindow) (pre es : List Event) (m : MessageType × MessageObject Unit) : Prop :=
  ∃ e, pre ++ [e] <+: es ∧ (exec step w (pre ++ [e])).sent = (exec step w pre).sent ++ [m]

/-- The chat messages of a run went to the chat that was open then. -/
theorem sent_exec (hsent : w.sent = []) (es : List Event) :
    ∀ m ∈ (exec step w es).sent, IsChat m →
      ∃ pre, SentAfter w pre es m ∧ ToOpen (exec step w pre) m := by
  refine exec_history (R := fun es (w' : ChatWindow) => ∀ m ∈ w'.sent, IsChat m →
    ∃ pre, SentAfter w pre es m ∧ ToOpen (exec step w pre) m) ?_ ?_ es
  · intro m hm
    rw [hsent] at hm
    exact absurd hm List.not_mem_nil
  · intro es e ih m hm hchat
    have hbefore : m ∈ (exec step w es).sent →
        ∃ pre, SentAfter w pre (es ++ [e]) m ∧ ToOpen (exec step w pre) m := by
      intro hm
      obtain ⟨pre, ⟨f, hpre, hsent⟩, hto⟩ := ih m hm hchat
      exact ⟨pre, ⟨f, hpre.trans (List.prefix_append _ _), hsent⟩, hto⟩
    rcases sent_step (exec step w es) e with ⟨m', hms, hto⟩ | ⟨ms, hms, hnot⟩
    · rw [hms, List.mem_append, List.mem_singleton] at hm
      rcases hm with hm | rfl
      · exact hbefore hm
      · exact ⟨es, ⟨e, List.prefix_refl _, by rw [exec_concat, hms]⟩, hto⟩
    · rw [hms, List.mem_append] at hm
      exact hm.elim hbefore fun hm => absurd hchat (hnot m hm)

end Heading

end ChatWindow

/-! ## The friend list on its way to the page -/

/-- The friend that an element of the list stands for, if its members have the types the script relies
on. -/
def friendOf (v : JsValue) : Option Friend :=
  match v.property "id", v.property "name" with
  | some (.number_float (.finite x)), some (.string name) =>
    if Binary64.ofInt x.trunc = x then some ⟨x.trunc, name⟩ else none
  | _, _ => none

/-- The friends in `JSON.parse(msg.content)`. -/
def friendsOf (content : Bytes) : Option (List Friend) :=
  match JSON.parse content with
  | some (.array vs) => vs.mapM friendOf
  | _ => none

/-- The page reads these friends from a message. -/
def Message.ReadsFriends (reply : Message) (friends : List Friend) : Prop :=
  ∃ text v, reply.toJson = .ok text ∧ JSON.parse text = some v ∧ v.Shows reply ∧
    friendsOf reply.content = some friends

/-- The friend with an id of the server and a name it has stored. -/
def Friend.of (id : Int32) (name : List Char) : Friend := ⟨id.toInt, name.map Char.toNat⟩

theorem friendEntry_eq (id : Int32) (name : Bytes) : friendEntry id name =
    .object [(str "avatar", .string (str "./default.png")), (str "id", ofInt id),
      (str "name", .string name)] := by
  have hne : str "name" ≠ str "id" := by decide
  have hlt : ¬str "name" < str "id" := by decide
  have hne' : str "avatar" ≠ str "id" := by decide
  have hlt' : str "avatar" < str "id" := by decide
  simp only [friendEntry, Json.mkObject, List.foldl_cons, List.foldl_nil, Json.setMember,
    if_neg hne, if_neg hlt, if_neg hne', if_pos hlt']

/-- The value the page reads for a friend. -/
def friendValue (id : Int32) (name : List Char) : JsValue :=
  .object [(js "avatar", .string (js "./default.png")), (js "id", JsValue.exact id.toInt),
    (js "name", .string (name.map Char.toNat))]

theorem reread_friendEntry (id : Int32) (name : List Char) :
    Json.reread ecmaScript (friendEntry id (utf8 name)) = some (friendValue id name) := by
  have hmembers : Json.rereadMembers ecmaScript [(str "avatar", .string (str "./default.png")),
      (str "id", ofInt id), (str "name", .string (utf8 name))] =
      some [(js "avatar", .string (js "./default.png")), (js "id", JsValue.exact id.toInt),
        (js "name", .string (name.map Char.toNat))] := by
    refine Json.rereadMembers_eq ecmaScript ?_ ?_
    · exact .cons (reread_member (reread_text _)) (.cons (reread_member (reread_ofInt id))
        (.cons (reread_member (reread_text name)) .nil))
    · show [js "avatar", js "id", js "name"].Nodup
      decide
  rw [friendEntry_eq, Json.reread, hmembers]
  rfl

theorem friendOf_friendValue (id : Int32) (name : List Char) :
    friendOf (friendValue id name) = some (.of id name) := by
  have hid : (friendValue id name).property "id" = some (JsValue.exact id.toInt) := rfl
  have hname : (friendValue id name).property "name" = some (.string (name.map Char.toNat)) := rfl
  unfold friendOf
  rw [hid, hname, JsValue.exact]
  dsimp only
  rw [Binary64.trunc_ofInt, if_pos rfl, Friend.of]

theorem rereadElements_friendEntry (fs : List (Int32 × List Char)) :
    Json.rereadElements ecmaScript (fs.map fun f => friendEntry f.1 (utf8 f.2)) =
      some (fs.map fun f => friendValue f.1 f.2) := by
  induction fs with
  | nil => rfl
  | cons f fs ih =>
      rw [List.map_cons, Json.rereadElements, reread_friendEntry, ih]
      rfl

theorem mapM_friendOf (fs : List (Int32 × List Char)) :
    (fs.map fun f => friendValue f.1 f.2).mapM friendOf = some (fs.map fun f => .of f.1 f.2) := by
  have hpure : (friendOf ∘ fun f : Int32 × List Char => friendValue f.1 f.2) =
      fun f => pure (.of f.1 f.2) := funext fun f => friendOf_friendValue f.1 f.2
  rw [List.mapM_map, hpure, List.mapM_pure]
  rfl

/-- The list is read back as it was written. -/
theorem friendsOf_content {fs : List (Int32 × List Char)} {content : Bytes}
    (h : dumpJson (.array (fs.map fun f => friendEntry f.1 (utf8 f.2))) = .ok content) :
    friendsOf content = some (fs.map fun f => .of f.1 f.2) := by
  rw [dumpJson_eq_ok] at h
  obtain ⟨t, ht, rfl⟩ := Option.map_eq_some_iff.mp h
  have hparse : JSON.parse (utf8 t) = some (.array (fs.map fun f => friendValue f.1 f.2)) := by
    rw [JSON.parse, decodeUtf8_utf8, Option.bind_some, Json.parseText_text ecmaScript ht, Json.reread,
      rereadElements_friendEntry, Option.map_some]
  unfold friendsOf
  rw [hparse]
  exact mapM_friendOf fs

/-- The friends the page reads, if the two columns were put side by side. -/
theorem mem_pairs_of_friendsOf {ids : List Int32} {names : List Bytes} {content : Bytes}
    (hnames : ∀ name ∈ names, ValidUtf8 name)
    (hcontent : dumpJson (.array ((pairUp ids names).map fun f => friendEntry f.1 f.2)) = .ok content)
    {friends : List Friend} (hfriends : friendsOf content = some friends) :
    ∀ f ∈ friends, ∃ id name, f = .of id name ∧ (id, utf8 name) ∈ pairUp ids names := by
  -- the pairs are pairs with the text that the names encode
  have hrange : pairUp ids names ∈
      Set.range (List.map fun f : Int32 × List Char => (f.1, utf8 f.2)) := by
    rw [Set.range_list_map]
    intro f hf
    obtain ⟨name, hname⟩ := hnames _ (mem_of_mem_pairUp hf)
    exact ⟨(f.1, name), Prod.ext rfl hname.symm⟩
  obtain ⟨fs, hfs⟩ := hrange
  rw [← hfs] at hcontent ⊢
  rw [List.map_map] at hcontent
  rw [friendsOf_content hcontent] at hfriends
  obtain rfl := Option.some.inj hfriends
  intro f hf
  obtain ⟨g, hg, rfl⟩ := List.mem_map.mp hf
  exact ⟨g.1, g.2, rfl, List.mem_map_of_mem hg⟩

/-! ## The names in a friend list -/

/-- A name that is stored stays the name of the account. -/
theorem Tables.Named.kept {Gone : Bytes × Bytes → Prop} {t t' : Tables} (hkept : t.KeptBut Gone t')
    {id name : Bytes} (h : t.Named id name) : t'.Named id name := by
  obtain ⟨w, hw, hid, hname⟩ := h
  exact ⟨w, hkept.users.subset hw, hid, hname⟩

namespace BusinessHandler

section Lists

variable [OpenSSL] {env : Env} {session : SessionId} {msg : Message} {h : BusinessHandler}

/-- Every friend the page reads from the list is an accepted friend, under the stored name. -/
theorem named_of_readsFriends (hty : msg.messageType = .FRIEND_LIST) (hok : h.db.tables.Ok)
    (hplain : h.db.tables.Plain)
    (hcolumns : Database.LinesUp (env.sql 0) (env.sql 1) h.db.tables msg.fromUserId)
    {session' : SessionId} {reply : Message}
    (hreply : (step h (.frame env session msg)).posted = h.posted ++ [(session', reply)])
    {friends : List Friend} (hfriends : reply.ReadsFriends friends) :
    ∀ f ∈ friends, ∃ id name, f = .of id name ∧ h.db.tables.Accepted msg.fromUserId (to_string id) ∧
      h.db.tables.Named (to_string id) (utf8 name) := by
  obtain ⟨-, -, -, -, -, hfriends⟩ := hfriends
  have hends := sendFriendList_listed (h := h) env session msg hok hplain
  have hstate : (step h (.frame env session msg)).posted = h.posted ∨
      Listed env session msg h (step h (.frame env session msg)) := by
    simp only [step, handleIncomingMessage, hty]
    exact ends_stateOf.mp (hends.mono (fun _ _ hlisted => Or.inr hlisted) fun _ _ hwait =>
      Or.inl hwait.2.2)
  rcases hstate with hsame | ⟨pool, ids, content, hids, -, hcontent, hlisted⟩
  · rw [hsame] at hreply
    exact absurd (List.self_eq_append_right.mp hreply) (List.cons_ne_nil _ _)
  · rw [hlisted] at hreply
    obtain ⟨rfl, rfl⟩ := Prod.mk.inj (List.singleton_inj.mp (List.append_cancel_left hreply))
    intro f hf
    obtain ⟨id, name, rfl, hmem⟩ := mem_pairs_of_friendsOf
      (fun _ hname => Database.validUtf8_of_mem_friendNames hok hname) hcontent hfriends f hf
    have hcomplete := (Database.complete_pairUp_iff hplain).mpr hcolumns
    refine ⟨id, name, rfl, (hcomplete.mem_iff _ _).mp ?_⟩
    rw [hids, pairUp_map_to_string]
    exact List.mem_map_of_mem (f := fun f : Int32 × Bytes => (to_string f.1, f.2)) hmem

/-- No account has the id that stands for the public chat. -/
theorem ne_zero_of_named (pool_size : Nat) (es : List Event) {id : Int32} {name : Bytes}
    (h : (exec step (start .empty pool_size) es).db.tables.Named (to_string id) name) : id ≠ 0 := by
  obtain ⟨w, hw, hid, -⟩ := h
  obtain ⟨password, username, pre, e, -, hins⟩ := (users_are_sign_ups pool_size es w).mp hw
  cases e with
  | closed session => exact hins.elim
  | frame env session msg =>
      obtain ⟨-, -, rfl, -⟩ := hins
      rintro rfl
      have hlength : (cstr (Database.generateUUID env)).length = (to_string 0).length :=
        congrArg List.length hid
      rw [Database.cstr_generateUUID, Database.length_generateUUID] at hlength
      revert hlength
      decide

end Lists

/-- In the run, the list was the answer to a request of the user, and the two columns lined up. -/
def Lists [OpenSSL] (pool_size : Nat) (es : List Event) (u : Int32) (friends : List Friend) : Prop :=
  ∃ pre env session msg reply, pre ++ [.frame env session msg] <+: es ∧
    msg.messageType = .FRIEND_LIST ∧ msg.fromUserId = u ∧
    Database.LinesUp (env.sql 0) (env.sql 1) (exec step (start .empty pool_size) pre).db.tables u ∧
    (exec step (start .empty pool_size) (pre ++ [.frame env session msg])).posted =
      (exec step (start .empty pool_size) pre).posted ++ [(session, reply)] ∧
    reply.ReadsFriends friends

/-- The names of a list are those of the accounts, from then on. -/
theorem Lists.named [OpenSSL] {pool_size : Nat} {es : List Event} {u : Int32} {friends : List Friend}
    (h : Lists pool_size es u friends) : ∀ f ∈ friends, ∃ id name, f = .of id name ∧ id ≠ 0 ∧
      (exec step (start .empty pool_size) es).db.tables.Named (to_string id) (utf8 name) := by
  obtain ⟨pre, env, session, msg, reply, hpre, hty, rfl, hcolumns, hreply, hfriends⟩ := h
  have hinv := exec_plain pool_size pre
  rw [exec_concat] at hreply
  intro f hf
  obtain ⟨id, name, rfl, -, hnamed⟩ :=
    named_of_readsFriends hty hinv.1 hinv.2 hcolumns hreply hfriends f hf
  refine ⟨id, name, rfl, ne_zero_of_named pool_size pre hnamed, ?_⟩
  obtain ⟨rest, rfl⟩ := (List.prefix_append _ _).trans hpre
  rw [exec_append]
  exact hnamed.kept (exec_keptBut hinv.1 rest)

/-- A list whose columns line up, as they were read. -/
theorem lists_of_reply [OpenSSL] {pool_size : Nat} {pre : List Event} {env : Env} {session : SessionId}
    {msg reply : Message} {ids names : List Bytes} (hty : msg.messageType = .FRIEND_LIST)
    (henv : (env.sql 0).Succeeds)
    (hids : Database.friendIds (env.sql 0) (exec step (start .empty pool_size) pre).db.tables
      msg.fromUserId = ids)
    (hnames : Database.friendNames (env.sql 1) (exec step (start .empty pool_size) pre).db.tables
      msg.fromUserId = names)
    (hnamed : List.Forall₂ (exec step (start .empty pool_size) pre).db.tables.Named ids names)
    (hreply : (exec step (start .empty pool_size) (pre ++ [.frame env session msg])).posted =
      (exec step (start .empty pool_size) pre).posted ++ [(session, reply)])
    (hcontent : ValidUtf8 reply.content) {friends : List Friend}
    (hfriends : friendsOf reply.content = some friends) :
    Lists pool_size (pre ++ [.frame env session msg]) msg.fromUserId friends := by
  obtain ⟨cs, hcs⟩ := hcontent
  obtain ⟨text, htext⟩ := Message.exists_toJson (m := reply) ⟨cs, hcs⟩
  have hplain := (exec_plain pool_size pre).2
  rw [← hids, ← hnames] at hnamed
  exact ⟨pre, env, session, msg, reply, List.prefix_refl _, hty, rfl,
    Or.inr ⟨fun id name hid _ => Database.mem_friendIds hplain henv hid, hnamed⟩, hreply,
    text, _, htext, parse_of_toJson hcs htext, shows_pageObject hcs, hfriends⟩

end BusinessHandler

/-! ## Who a message goes to -/

namespace ChatWindow

open BusinessHandler in
/-- **`heading_names_recipient`** — if every friend list that reaches a page was put together by the
server for its user from columns that lined up, then a chat message the user sends under the heading of
the public chat goes to everybody, and one that is sent under any other heading goes to an account that
is registered under the name in the heading. -/
theorem heading_names_recipient [OpenSSL] (pool_size : Nat) (es : List BusinessHandler.Event)
    (u : Int32) (username : Json.CodePoints) (content : JsValue) (message_id : Nat) (ws : List Event)
    (hlists : ∀ friends, .FRIEND_LIST friends ∈ ws → Lists pool_size es u friends) :
    let w := opened u.toInt username content message_id
    ∀ m ∈ (exec step w ws).sent, IsChat m → ∃ pre, SentAfter w pre ws m ∧
      ((exec step w pre).chatTitle = publicTitle ∧ m.1 = .GROUP_CHAT ∧ m.2.toUserId = 0 ∨
        ∃ id name, (exec step w pre).chatTitle = name.map Char.toNat ∧ m.1 = .TEXT ∧
          m.2.toUserId = id.toInt ∧ id ≠ 0 ∧
          (exec BusinessHandler.step (start .empty pool_size) es).db.tables.Named
            (to_string id) (utf8 name)) := by
  intro w m hm hkind
  obtain ⟨pre, hsent, hchat, hkind⟩ := sent_exec rfl ws m hm hkind
  refine ⟨pre, hsent, ?_⟩
  obtain ⟨e, hpre, -⟩ := hsent
  have htold : ∀ f ∈ told pre, ∃ id name, f = .of id name ∧ id ≠ 0 ∧
      (exec BusinessHandler.step (start .empty pool_size) es).db.tables.Named
        (to_string id) (utf8 name) := by
    intro f hf
    obtain ⟨e', he', hf⟩ := List.mem_flatMap.mp hf
    have hmem : e' ∈ ws := ((List.prefix_append pre [e]).trans hpre).subset he'
    cases e' with
    | FRIEND_LIST friends => exact (hlists friends hmem).named f hf
    | _ => cases hf
  have hheaded := (headed_exec (headed_opened u.toInt username content message_id) pre).heading
  rcases hheaded with ⟨hzero, htitle⟩ | ⟨f, hf, hid, htitle⟩
  · rcases hkind with ⟨-, hne⟩ | ⟨hkind, -⟩
    · exact absurd hzero hne
    · exact Or.inl ⟨htitle, hkind, hchat.trans hzero⟩
  · obtain ⟨id, name, rfl, hne, hnamed⟩ := htold f hf
    have hnonzero : (exec step w pre).currentChat ≠ 0 := by
      rw [← hid]
      exact fun hzero => hne (Int32.toInt_inj.mp hzero)
    rcases hkind with ⟨hkind, -⟩ | ⟨-, hzero⟩
    · exact Or.inr ⟨id, name, htitle.symm, hkind, hchat.trans hid.symm, hne, hnamed⟩
    · exact absurd hzero hnonzero

/-- "bob" and "amy" sign up and become friends, and bob asks for the list. -/
def oneFriend : List BusinessHandler.Event :=
  [.frame .plain 0 BusinessHandler.signUpFrame,
    BusinessHandler.signsUp 1 "\x7b\"password\":\"pw\",\"username\":\"amy\"\x7d"] ++
    BusinessHandler.befriend 111111111 222222222

/-- Bob asks for the friend list. -/
def listRequest : Message := ⟨111111111, 0, .FRIEND_LIST, 7, [], 0⟩

/-- The answer to it. -/
def listReply : Message := ⟨111111111, 0, .FRIEND_LIST, 8,
  str "[\x7b\"avatar\":\"./default.png\",\"id\":222222222,\"name\":\"amy\"\x7d]", 0⟩

/-- Bob opens the conversation with Amy and says "hi". -/
def saysHi : List Event :=
  [.FRIEND_LIST [.of 222222222 "amy".toList], .click 1 (.friend 0) (fun _ => (1, true)),
    .submit (.ofChars "hi".toList) ⟨5, by decide⟩]

/-- The answer carries the friend list of the run. -/
theorem lists_oneFriend :
    letI := OpenSSL.zero
    BusinessHandler.Lists 1 (oneFriend ++ [.frame .plain 0 listRequest]) 111111111
      [.of 222222222 "amy".toList] :=
  @BusinessHandler.lists_of_reply OpenSSL.zero 1 oneFriend .plain 0 listRequest listReply
    [str "222222222"] [str "amy"] rfl ⟨rfl, fun _ => rfl⟩ (by decide +kernel) (by decide +kernel)
    (.cons (by decide +kernel) .nil) (by decide +kernel) (validUtf8_utf8 _) _ (by decide +kernel)

/-- Amy's name stands over the conversation that bob's greeting goes to. -/
theorem heading_names_recipient_amy :
    letI := OpenSSL.zero
    let w := opened (111111111 : Int32).toInt (.ofChars "bob".toList) .null 3
    (exec step w saysHi).sent.map Prod.fst = [.TEXT] ∧
      ∀ m ∈ (exec step w saysHi).sent, IsChat m → ∃ pre, SentAfter w pre saysHi m ∧
        ((exec step w pre).chatTitle = publicTitle ∧ m.1 = .GROUP_CHAT ∧ m.2.toUserId = 0 ∨
          ∃ id name, (exec step w pre).chatTitle = name.map Char.toNat ∧ m.1 = .TEXT ∧
            m.2.toUserId = id.toInt ∧ id ≠ 0 ∧
            (exec BusinessHandler.step (.start .empty 1)
              (oneFriend ++ [.frame .plain 0 listRequest])).db.tables.Named
                (to_string id) (utf8 name)) := by
  have hsent : (exec step (opened (111111111 : Int32).toInt (.ofChars "bob".toList) .null 3)
      saysHi).sent.map Prod.fst = [.TEXT] := by decide +kernel
  have hlists : ∀ friends, .FRIEND_LIST friends ∈ saysHi → @BusinessHandler.Lists OpenSSL.zero 1
      (oneFriend ++ [.frame .plain 0 listRequest]) 111111111 friends := by
    intro friends hfriends
    rcases List.mem_cons.mp hfriends with hfirst | hrest
    · rw [Event.FRIEND_LIST.inj hfirst]
      exact lists_oneFriend
    · simp at hrest
  have hmain := @heading_names_recipient OpenSSL.zero 1
    (oneFriend ++ [.frame .plain 0 listRequest]) 111111111 (.ofChars "bob".toList) .null 3 saysHi
    hlists
  intro w
  exact ⟨hsent, hmain⟩

end ChatWindow

end TinyIM
