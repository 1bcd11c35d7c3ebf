/-
# Replay — what a pull makes of a stored row

A row of the messages table is written by one frame and read back by every pull of its sender or
recipient inside a day. The reader converts four texts to the types they were made of, and one of them
need not fit: the id is a 64-bit counter and is parsed into an `int`. From the exact result of that
conversion follow the condition under which pulls never throw, what a pull says about the time of a
message, and whether the stored copy of a content is the one that was relayed.
-/
import TinyIM.History

namespace TinyIM

open TinyIM.Lib TinyIM.Lib.Text TinyIM.Lib.Table TinyIM.Lib.Runs TinyIM.Lib.Stops

/-! ## The conversion of a row -/

namespace Database

variable {r : MessageRow} {env env' : Env} {m m' : Message}

/-- Each conversion of the row succeeds and returns what is stored. -/
structure Converts (r : MessageRow) : Prop where
  from_user_id : ∃ a, stoi (cstr r.from_user_id) = .ok a ∧ to_string a = r.from_user_id
  to_user_id : ∃ b, stoi (cstr r.to_user_id) = .ok b ∧ to_string b = r.to_user_id
  message_type : ∃ ty, stringToMessageType (cstr r.message_type) = .ok ty ∧
    messageTypeToString ty = r.message_type
  message_id : ∃ id : Int32, stoi (decimal r.message_id) = .ok id ∧ id.toInt = r.message_id

/-- An id is parsed into an `int` exactly if it is one. -/
theorem stoi_decimal_iff {n : Nat} :
    (∃ id : Int32, stoi (decimal n) = .ok id ∧ id.toInt = n) ↔ n < 2 ^ 31 := by
  constructor
  · rintro ⟨id, -, hid⟩
    have hlt := id.toInt_lt
    omega
  · intro hn
    refine ⟨Int32.ofInt n, stoi_decimal hn, Int32.toInt_ofInt_of_le ?_ ?_⟩
    · omega
    · omega

/-- A stored row converts exactly if its id fits an `int`. -/
theorem converts_iff (hr : r.Ok) : Converts r ↔ r.message_id < 2 ^ 31 := by
  obtain ⟨⟨a, ha⟩, ⟨b, hb⟩, hty⟩ := hr
  constructor
  · intro hconverts
    exact stoi_decimal_iff.mp hconverts.message_id
  · intro hid
    refine ⟨⟨a, ?_, ha.symm⟩, ⟨b, ?_, hb.symm⟩, ⟨.TEXT, ?_, hty.symm⟩, stoi_decimal_iff.mpr hid⟩
    · rw [ha, cstr_to_string, stoi_to_string]
    · rw [hb, cstr_to_string, stoi_to_string]
    · rw [hty, cstr_messageTypeToString, stringToMessageType_messageTypeToString]

/-- A row whose conversions succeed is turned into a frame. -/
theorem exists_messageOfRow (hr : Converts r) (env : Env) : ∃ m, messageOfRow env r = .ok m := by
  obtain ⟨⟨a, ha, -⟩, ⟨b, hb, -⟩, ⟨ty, hty, -⟩, id, hid, -⟩ := hr
  exact ⟨⟨a, b, ty, id, cstr r.content, env.now⟩,
    messageOfRow_eq_ok.mpr ⟨ha, hb, hty, hid, rfl, rfl⟩⟩

/-- A row that is turned into a frame has an id that fits an `int`, and the frame has that id. -/
theorem toInt_of_messageOfRow (h : messageOfRow env r = .ok m) : m.messageId.toInt = r.message_id := by
  obtain ⟨-, -, -, hid, -⟩ := messageOfRow_eq_ok.mp h
  simp only [stoi, strtol_decimal] at hid
  split at hid
  · rename_i hrange
    rw [← Except.ok.inj hid]
    exact Int32.toInt_ofInt_of_le hrange.1 hrange.2
  · cases hid

/-- Read at two moments, a row is turned into frames that differ in the timestamp alone. -/
theorem messageOfRow_at (h : messageOfRow env r = .ok m) (h' : messageOfRow env' r = .ok m') :
    m' = { m with timestamp := env'.now } := by
  obtain ⟨hfrom, hto, hty, hid, hcontent, -⟩ := messageOfRow_eq_ok.mp h
  obtain ⟨hfrom', hto', hty', hid', hcontent', htime'⟩ := messageOfRow_eq_ok.mp h'
  obtain ⟨fromUserId, toUserId, messageType, messageId, content, timestamp⟩ := m'
  rw [Message.mk.injEq]
  exact ⟨Except.ok.inj (hfrom'.symm.trans hfrom), Except.ok.inj (hto'.symm.trans hto),
    Except.ok.inj (hty'.symm.trans hty), Except.ok.inj (hid'.symm.trans hid),
    hcontent'.trans hcontent.symm, htime'⟩

/-- Two replays of a row are one frame, with a given time, exactly if that is the time of both. -/
theorem replays_eq_iff (h : messageOfRow env r = .ok m) (h' : messageOfRow env' r = .ok m') :
    m = m' ∧ m.timestamp.toInt = r.timestamp ↔
      env.now.toInt = r.timestamp ∧ env'.now.toInt = r.timestamp := by
  obtain ⟨-, -, -, -, -, htime⟩ := messageOfRow_eq_ok.mp h
  rw [messageOfRow_at h h', htime]
  constructor
  · rintro ⟨heq, hstored⟩
    have hnow : env.now = env'.now := htime.symm.trans (congrArg Message.timestamp heq)
    exact ⟨hstored, hnow ▸ hstored⟩
  · rintro ⟨hstored, hstored'⟩
    have hnow : env.now = env'.now := Int64.toInt_inj.mp (hstored.trans hstored'.symm)
    refine ⟨?_, hstored⟩
    rw [← hnow, ← htime]

/-- The exits of `storeMessage`. -/
theorem ends_storeMessage {o : Outcome} {msg : Message} {db : Database}
    {Q : Bool → Database → Prop} {E : Stop → Database → Prop} :
    Ends (storeMessage env o (to_string msg.fromUserId) (to_string msg.toUserId)
        (messageTypeToString .TEXT) msg.content) db Q E ↔
      (db.connection_pool = [] → E .wait db) ∧
      ∀ conn rest, db.connection_pool = conn :: rest →
        (o.prepare = false → Q false ⟨db.tables, rest⟩) ∧
        (o.prepare = true →
          if o.step 0 then Q true ⟨db.tables.stored env msg, rest ++ [conn]⟩
          else Q false ⟨db.tables, rest ++ [conn]⟩) := by
  unfold storeMessage writing
  simp only [cstr_to_string, cstr_messageTypeToString]
  rw [ends_withStatement_total]
  refine and_congr Iff.rfl (forall_congr' fun conn => forall_congr' fun rest =>
    imp_congr_right fun _ => and_congr Iff.rfl (imp_congr_right fun _ => ?_))
  unfold stepDone
  split
  · rfl
  · rfl

end Database

namespace BusinessHandler

section Frames

variable [OpenSSL] {env : Env} {session : SessionId} {msg : Message} {h : BusinessHandler}

/-- The insert of a chat frame goes through: there is a connection, and its two calls succeed. -/
def Stores (env : Env) (h : BusinessHandler) : Prop :=
  h.db.Ready ∧ (env.sql 0).prepare ∧ (env.sql 0).step 0

/-- What a chat frame posts. -/
def liveCopies (msg : Message) (env : Env) (h : BusinessHandler) : List (SessionId × Message) :=
  (h.userSessions.lookup msg.toUserId).toList.map fun other =>
    (other, .new env msg.fromUserId msg.toUserId .TEXT (msg.messageId + 1) msg.content)

/-- A chat frame stores its row and relays the message, or leaves the tables as they are. -/
theorem step_chat_tables (hchat : IsChat msg) :
    let h' := step h (.frame env session msg)
    Stores env h ∧ h'.db.tables = h.db.tables.stored env msg ∧ h'.db.Ready ∧
        h'.posted = h.posted ++ liveCopies msg env h ∨
      ¬Stores env h ∧ h'.db.tables = h.db.tables := by
  have hends : Ends (sendMessageToUser env msg) h
      (fun _ h' => Stores env h ∧ h'.db.tables = h.db.tables.stored env msg ∧ h'.db.Ready ∧
        h'.posted = h.posted ++ liveCopies msg env h ∨
        ¬Stores env h ∧ h'.db.tables = h.db.tables)
      fun _ h' => ¬Stores env h ∧ h'.db.tables = h.db.tables := by
    unfold sendMessageToUser liveCopies
    simp only [ends_bind, ends_findSession, ends_callDb, Database.ends_storeMessage]
    refine ⟨fun hempty => ⟨fun hstores => hstores.1 hempty, trivial⟩, ?_⟩
    intro conn rest hpool
    have hready : h.db.Ready := by
      rw [Database.Ready, hpool]
      exact List.cons_ne_nil _ _
    refine ⟨fun hprepare => ?_, fun hprepare => ?_⟩
    · have hnot : ¬Stores env h := fun hstores =>
        Bool.false_ne_true (hprepare.symm.trans hstores.2.1)
      cases h.userSessions.lookup msg.toUserId with
      | none => exact Or.inr ⟨hnot, rfl⟩
      | some other => exact Or.inr ⟨hnot, rfl⟩
    · split
      · rename_i hstep
        have hpush : rest ++ [conn] ≠ [] := by simp
        cases h.userSessions.lookup msg.toUserId with
        | none =>
            exact Or.inl ⟨⟨hready, hprepare, hstep⟩, rfl, hpush, (List.append_nil _).symm⟩
        | some other => exact Or.inl ⟨⟨hready, hprepare, hstep⟩, rfl, hpush, rfl⟩
      · rename_i hstep
        have hnot : ¬Stores env h := fun hstores => hstep hstores.2.2
        cases h.userSessions.lookup msg.toUserId with
        | none => exact Or.inr ⟨hnot, rfl⟩
        | some other => exact Or.inr ⟨hnot, rfl⟩
  have hstate := ends_stateOf.mp (hends.mono (fun _ _ hs => hs) fun _ _ hstop => Or.inr hstop)
  rw [← handle_chat hchat] at hstate
  exact hstate

/-! ## When no pull fails -/

/-- No pull fails: the conversions of the rows it can select succeed and return what is stored, and no
exception leaves it. -/
def PullsSafely (h : BusinessHandler) : Prop :=
  ∀ (env : Env) (u : Int32),
    (∀ r ∈ Database.recentRows env (to_string u) 1 h.db.tables, Database.Converts r) ∧
    ∀ session msg, msg.messageType = .PULL_MESSAGE → msg.fromUserId = u →
      Ends (handleIncomingMessage env session msg) h (fun _ _ => True) fun e _ => e = .wait

/-- Pulls are safe exactly if the ids of the rows they can select fit an `int`. -/
theorem pullsSafely_iff (hok : h.db.tables.Ok) : PullsSafely h ↔ ∀ (env : Env) (u : Int32),
    ∀ r ∈ Database.recentRows env (to_string u) 1 h.db.tables, r.message_id < 2 ^ 31 := by
  have hrow : ∀ {env : Env} {u : Int32},
      ∀ r ∈ Database.recentRows env (to_string u) 1 h.db.tables, r.Ok := fun r hr =>
    hok.messages r (List.mem_filter.mp hr).1
  constructor
  · intro hsafe env u r hr
    exact (Database.converts_iff (hrow r hr)).mp ((hsafe env u).1 r hr)
  · intro hids env u
    have hconverts : ∀ r ∈ Database.recentRows env (to_string u) 1 h.db.tables,
        Database.Converts r := fun r hr => (Database.converts_iff (hrow r hr)).mpr (hids env u r hr)
    refine ⟨hconverts, ?_⟩
    intro session msg hty hu
    have hposts : ∀ (ms : List Message) (h' : BusinessHandler),
        Ends (ms.forM fun m => Session.send session m) h' (fun _ _ => True)
          fun e _ => e = .wait := fun ms h' =>
      ends_forM_send (fun m => some (session, m)) _ (fun _ _ _ _ => Iff.rfl) ms trivial
    rw [handle_pull hty]
    unfold pushMessage
    simp only [ends_bind, ends_callDb, hu]
    refine Database.ends_reading_any rfl (fun pool => hposts _ _) (fun _ ms _ _ _ => hposts ms _) ?_
    intro rs e pool hrs herror
    obtain ⟨r, hr, he⟩ := Database.exists_of_mapM_error herror
    obtain ⟨m, hm⟩ := Database.exists_messageOfRow (hconverts r (hrs r hr)) env
    rw [he] at hm
    cases hm

/-- A chat message that the event stores gets an id that fits an `int`. -/
def StoresInRange (h : BusinessHandler) : Event → Prop
  | .frame env _ msg => IsChat msg → Stores env h → h.db.tables.messages.last + 1 < 2 ^ 31
  | .closed _ => True

/-- One event keeps pulls safe exactly if what it stores gets an id that fits. -/
theorem pullsSafely_step (hok : h.db.tables.Ok) (hsafe : PullsSafely h) (e : Event) :
    PullsSafely (step h e) ↔ StoresInRange h e := by
  have hok' := step_ok h e hok
  have hids := (pullsSafely_iff hok).mp hsafe
  rw [pullsSafely_iff hok']
  have hsame : (step h e).db.tables.messages = h.db.tables.messages → ∀ (env : Env) (u : Int32),
      ∀ r ∈ Database.recentRows env (to_string u) 1 (step h e).db.tables, r.message_id < 2 ^ 31 := by
    intro hmessages env u r hr
    unfold Database.recentRows at hr
    rw [hmessages] at hr
    exact hids env u r hr
  cases e with
  | closed session => exact iff_of_true (hsame rfl) trivial
  | frame env session msg =>
      by_cases hchat : IsChat msg
      swap
      · have hdid : Did env session msg h _ := step_did hok.users
        exact iff_of_true (hsame (hdid.messages_of_not_chat hchat)) fun h => absurd h hchat
      obtain ⟨hstores, htables, -⟩ | ⟨hnot, htables⟩ :
          Stores env h ∧ (step h (.frame env session msg)).db.tables = _ ∧ _ ∨
            ¬Stores env h ∧ _ := step_chat_tables hchat
      swap
      · exact iff_of_true (hsame (congrArg Tables.messages htables)) fun _ hstores =>
          absurd hstores hnot
      rw [htables]
      constructor
      · -- the sender itself selects the new row at once
        intro hnew _ _
        refine hnew env msg.fromUserId (MessageRow.new env msg (h.db.tables.messages.last + 1)) ?_
        refine List.mem_filter.mpr ⟨List.mem_append_right _ (List.mem_singleton_self _), ?_⟩
        rw [decide_eq_true_eq, cstr_to_string]
        exact ⟨Or.inl rfl, by simp only [MessageRow.new]; omega⟩
      · intro hrange env' u r hr
        obtain ⟨hmem, hselect⟩ := List.mem_filter.mp hr
        rcases List.mem_append.mp hmem with hmem | hmem
        · exact hids env' u r (List.mem_filter.mpr ⟨hmem, hselect⟩)
        · rw [List.mem_singleton.mp hmem]
          exact hrange hchat hstores

/-- **`pulls_safely_iff`** — in every run from an empty database, whatever the SQLite calls return,
no pull of any user fails in any state reached exactly if every message stored in the run gets an id
below `2 ^ 31`. -/
theorem pulls_safely_iff (pool_size : Nat) (es : List Event) :
    Throughout step PullsSafely (start .empty pool_size) es ↔
      StepsMeet step StoresInRange (start .empty pool_size) es := by
  refine throughout_iff_stepsMeet (I := fun h : BusinessHandler => h.db.tables.Ok) step_ok
    (fun h e hok hsafe => pullsSafely_step hok hsafe e) Tables.Ok.empty ?_ es
  refine (pullsSafely_iff Tables.Ok.empty).mpr ?_
  intro env u r hr
  exact absurd (List.mem_filter.mp hr).1 List.not_mem_nil

/-! ## The replays of a row -/

/-- Stored messages stay. -/
theorem messages_step (hok : h.db.tables.Ok) (e : Event) :
    h.db.tables.messages.rows <+: (step h e).db.tables.messages.rows := by
  cases e with
  | closed session => exact List.prefix_refl _
  | frame env session msg =>
      by_cases hchat : IsChat msg
      · obtain ⟨-, htables, -⟩ | ⟨-, htables⟩ :
            Stores env h ∧ (step h (.frame env session msg)).db.tables = _ ∧ _ ∨
              ¬Stores env h ∧ _ := step_chat_tables hchat
        · rw [htables]
          exact List.prefix_append _ _
        · rw [htables]
      · have hdid : Did env session msg h _ := step_did hok.users
        rw [hdid.messages_of_not_chat hchat]

theorem messages_exec (hok : h.db.tables.Ok) (es : List Event) :
    h.db.tables.messages.rows <+: (exec step h es).db.tables.messages.rows := by
  induction es generalizing h with
  | nil => exact List.prefix_refl _
  | cons e es ih => exact (messages_step hok e).trans (ih (step_ok h e hok))

/-- The event posts a message that has the id of the row. -/
def Replayed (h : BusinessHandler) (e : Event) (r : MessageRow) (m : Message) : Prop :=
  ∃ ps session, (step h e).posted = h.posted ++ ps ∧ (session, m) ∈ ps ∧
    m.messageId.toInt = r.message_id

/-- A pull posts what it makes of rows it selects, if anything. -/
theorem step_pull_any (h : BusinessHandler) (env : Env) (session : SessionId)
    (hty : msg.messageType = .PULL_MESSAGE) :
    ∃ ms : List Message, (step h (.frame env session msg)).posted =
        h.posted ++ ms.map (fun m => (session, m)) ∧
      ∀ m ∈ ms, ∃ r ∈ Database.recentRows env (to_string msg.fromUserId) 1 h.db.tables,
        Database.messageOfRow env r = .ok m := by
  have hnone : ∀ h' : BusinessHandler, h'.posted = h.posted → ∃ ms : List Message,
      h'.posted = h.posted ++ ms.map (fun m => (session, m)) ∧
      ∀ m ∈ ms, ∃ r ∈ Database.recentRows env (to_string msg.fromUserId) 1 h.db.tables,
        Database.messageOfRow env r = .ok m := by
    intro h' hposted
    exact ⟨[], by rw [hposted]; exact (List.append_nil _).symm, fun m hm => (nomatch hm)⟩
  have hends : Ends (pushMessage env msg session) h
      (fun _ h' => ∃ ms : List Message, h'.posted = h.posted ++ ms.map (fun m => (session, m)) ∧
        ∀ m ∈ ms, ∃ r ∈ Database.recentRows env (to_string msg.fromUserId) 1 h.db.tables,
          Database.messageOfRow env r = .ok m)
      fun _ h' => h'.posted = h.posted := by
    unfold pushMessage
    simp only [ends_bind, ends_callDb]
    refine Database.ends_getRecentMessages_any trivial ?_ fun e pool => trivial
    intro ms pool hms
    refine ends_forM_send (fun m => some (session, m)) _ (fun m h' Q E => Iff.rfl) _ ⟨ms, ?_, hms⟩
    rw [List.filterMap_eq_map']
    rfl
  have hstate := ends_stateOf.mp (hends.mono (fun _ _ hs => hs) fun _ h' hstop => hnone h' hstop)
  rw [← handle_pull hty] at hstate
  exact hstate

/-- What a pull replays of a stored row is what it makes of that row. -/
theorem messageOfRow_of_replayed {r : MessageRow} {m : Message}
    (hty : msg.messageType = .PULL_MESSAGE) (hr : r ∈ h.db.tables.messages.rows)
    (hm : Replayed h (.frame env session msg) r m) : Database.messageOfRow env r = .ok m := by
  obtain ⟨ps, session', hposted, hmem, hid⟩ := hm
  obtain ⟨ms, hposted', hms⟩ := step_pull_any h env session hty
  rw [List.append_cancel_left (hposted.symm.trans hposted')] at hmem
  obtain ⟨m', hm', heq⟩ := List.mem_map.mp hmem
  rw [(Prod.mk.inj heq).2] at hm'
  obtain ⟨r', hr', hrow⟩ := hms m hm'
  -- the ids of the two rows are the id of the message
  have hids : r'.message_id = r.message_id :=
    Int.ofNat.inj ((Database.toInt_of_messageOfRow hrow).symm.trans hid)
  rw [← h.db.tables.messages.eq_of_id_eq (List.mem_filter.mp hr').1 hr hids]
  exact hrow

/-- A pull whose statements succeed replays every row it selects, if their ids fit an `int`. -/
theorem exists_replayed {r : MessageRow} (hok : h.db.tables.Ok) (hready : h.db.Ready)
    (henv : env.SqlSucceeds) (hty : msg.messageType = .PULL_MESSAGE)
    (hids : ∀ r ∈ h.db.tables.messages.rows, r.message_id < 2 ^ 31)
    (hr : r ∈ Database.recentRows env (to_string msg.fromUserId) 1 h.db.tables) :
    ∃ m, Replayed h (.frame env session msg) r m := by
  have hrows : ∀ r ∈ Database.recentRows env (to_string msg.fromUserId) 1 h.db.tables,
      ∃ m, Database.messageOfRow env r = .ok m := by
    intro r hr
    have hmem := (List.mem_filter.mp hr).1
    exact Database.exists_messageOfRow ((Database.converts_iff (hok.messages r hmem)).mpr
      (hids r hmem)) env
  have hread : ∀ r ∈ Database.recentRows env (to_string msg.fromUserId) 1 h.db.tables,
      Database.messageOfRow env r = .ok
        ((Database.messageOfRow env r).toOption.getD (.new env 0 0 .TEXT 0 [])) := by
    intro r hr
    obtain ⟨m, hm⟩ := hrows r hr
    rw [hm]
    rfl
  obtain ⟨pool, rows, hperm, hstep⟩ : ∃ (pool : List Conn) (rows : List MessageRow),
      rows.Perm _ ∧ step h (.frame env session msg) = _ := step_pull hty henv hready hread
  exact ⟨_, _, session, congrArg BusinessHandler.posted hstep,
    List.mem_map_of_mem (hperm.mem_iff.mpr hr), Database.toInt_of_messageOfRow (hread r hr)⟩

/-! ## The time of a replayed message -/

/-- **`replay_stable_iff`** — for every stored message and any two pulls that replay it, the second one
at any later point of the run, the two replays are the same frame, stamped with the time the message
was stored at, exactly if the clock shows that time at both pulls. -/
theorem replay_stable_iff (pool_size : Nat) (es fs : List Event) (env₁ env₂ : Env)
    (session₁ session₂ : SessionId) (msg₁ msg₂ : Message) (r : MessageRow) (m₁ m₂ : Message) :
    let h₁ := exec step (start .empty pool_size) es
    let h₂ := exec step h₁ fs
    msg₁.messageType = .PULL_MESSAGE → msg₂.messageType = .PULL_MESSAGE →
    r ∈ h₁.db.tables.messages.rows → Replayed h₁ (.frame env₁ session₁ msg₁) r m₁ →
    Replayed h₂ (.frame env₂ session₂ msg₂) r m₂ →
      (m₁ = m₂ ∧ m₁.timestamp.toInt = r.timestamp ↔
        env₁.now.toInt = r.timestamp ∧ env₂.now.toInt = r.timestamp) := by
  intro h₁ h₂ hty₁ hty₂ hr hm₁ hm₂
  have hr₂ : r ∈ h₂.db.tables.messages.rows := (messages_exec (exec_ok pool_size es) fs).subset hr
  exact Database.replays_eq_iff (messageOfRow_of_replayed hty₁ hr hm₁)
    (messageOfRow_of_replayed hty₂ hr₂ hm₂)

/-! ## The live and the stored copy -/

/-- Every copy of the chat message that the event stores has the content of the frame: the ones that
are relayed, and the ones any later pull replays. -/
def CopiesAgree (h : BusinessHandler) (env : Env) (session : SessionId) (msg : Message) : Prop :=
  let h' := step h (.frame env session msg)
  (∀ ps, h'.posted = h.posted ++ ps → ∀ p ∈ ps, p.2.content = msg.content) ∧
  ∀ r, h'.db.tables.messages.rows = h.db.tables.messages.rows ++ [r] →
    ∀ fs env' session' msg', msg'.messageType = .PULL_MESSAGE →
      ∀ m, Replayed (exec step h' fs) (.frame env' session' msg') r m → m.content = msg.content

/-- The state after a chat message was stored. -/
theorem step_stored (session : SessionId) (hchat : IsChat msg) (hstores : Stores env h) :
    let h' := step h (.frame env session msg)
    h'.db.tables.messages.rows = h.db.tables.messages.rows ++
        [MessageRow.new env msg (h.db.tables.messages.last + 1)] ∧
      h'.db.tables.messages.last = h.db.tables.messages.last + 1 ∧ h'.db.Ready ∧
      h'.posted = h.posted ++ liveCopies msg env h := by
  intro h'
  obtain ⟨-, htables, hready, hposted⟩ | ⟨hnot, -⟩ :
      Stores env h ∧ h'.db.tables = _ ∧ _ ∨ ¬Stores env h ∧ _ := step_chat_tables hchat
  · rw [htables]
    exact ⟨rfl, rfl, hready, hposted⟩
  · exact absurd hstores hnot

/-- A replay has the content SQLite was given of the frame's. -/
theorem content_of_replayed (hok : h.db.tables.Ok) {env' : Env} {msg' : Message} {id : Nat}
    (hr : MessageRow.new env msg id ∈ h.db.tables.messages.rows) (fs : List Event)
    (hty : msg'.messageType = .PULL_MESSAGE) {m : Message}
    (hm : Replayed (exec step h fs) (.frame env' session msg') (.new env msg id) m) :
    m.content = cstr msg.content ∧ id < 2 ^ 31 := by
  have hrow := messageOfRow_of_replayed hty ((messages_exec hok fs).subset hr) hm
  have hid := Database.toInt_of_messageOfRow hrow
  change m.messageId.toInt = id at hid
  have hlt := m.messageId.toInt_lt
  refine ⟨?_, by omega⟩
  rw [(Database.messageOfRow_eq_ok.mp hrow).2.2.2.2.1]
  exact cstr_cstr _

/-- The sender can have a message replayed at once, unless ids have outgrown an `int`. -/
theorem exists_replayed_of_last (session : SessionId) (hok : h.db.tables.Ok) (hready : h.db.Ready) {id : Nat}
    (hlast : h.db.tables.messages.last < 2 ^ 31)
    (hr : MessageRow.new env msg id ∈ h.db.tables.messages.rows) :
    ∃ env' msg' m, msg'.messageType = .PULL_MESSAGE ∧
      Replayed h (.frame env' session msg') (.new env msg id) m := by
  have hids : ∀ r ∈ h.db.tables.messages.rows, r.message_id < 2 ^ 31 := fun r hr =>
    Nat.lt_of_le_of_lt (h.db.tables.messages.bounded r hr).2 hlast
  have hselected : MessageRow.new env msg id ∈ Database.recentRows { Env.plain with now := env.now }
      (to_string msg.fromUserId) 1 h.db.tables := by
    refine List.mem_filter.mpr ⟨hr, ?_⟩
    rw [decide_eq_true_eq, cstr_to_string]
    exact ⟨Or.inl rfl, by simp only [MessageRow.new]; omega⟩
  have hsucceeds : Env.SqlSucceeds { Env.plain with now := env.now } := Env.plain_sqlSucceeds
  obtain ⟨m, hm⟩ : ∃ m, Replayed h (.frame { Env.plain with now := env.now } session
      ⟨msg.fromUserId, 0, .PULL_MESSAGE, 0, [], 0⟩) (.new env msg id) m :=
    exists_replayed hok hready hsucceeds rfl hids hselected
  exact ⟨_, _, m, rfl, hm⟩

theorem copiesAgree_iff (hok : h.db.tables.Ok) (hchat : IsChat msg) (hstores : Stores env h) :
    CopiesAgree h env session msg ↔
      NoNul msg.content ∨ 2 ^ 31 ≤ h.db.tables.messages.last + 1 := by
  obtain ⟨hrows, hlast, hready, hposted⟩ := step_stored session hchat hstores
  have hok' := step_ok h (.frame env session msg) hok
  unfold CopiesAgree
  generalize step h (.frame env session msg) = h' at hrows hlast hready hposted hok' ⊢
  have hnew : MessageRow.new env msg (h.db.tables.messages.last + 1) ∈ h'.db.tables.messages.rows :=
    hrows ▸ List.mem_append_right _ (List.mem_singleton_self _)
  constructor
  · rintro ⟨-, hreplays⟩
    by_cases hid : 2 ^ 31 ≤ h.db.tables.messages.last + 1
    · exact Or.inr hid
    obtain ⟨env', msg', m, hty, hm⟩ := exists_replayed_of_last session hok' hready
      (hlast ▸ Nat.not_le.mp hid) hnew
    have hwhole := hreplays _ hrows [] env' session msg' hty m hm
    rw [(content_of_replayed hok' hnew [] hty hm).1] at hwhole
    refine Or.inl ?_
    rw [← hwhole]
    exact noNul_cstr _
  · intro hcond
    refine ⟨?_, ?_⟩
    · intro ps hps p hp
      rw [← List.append_cancel_left (hposted.symm.trans hps)] at hp
      obtain ⟨other, -, rfl⟩ := List.mem_map.mp hp
      rfl
    · intro r hr fs env' session' msg' hty m hm
      rw [← List.singleton_inj.mp (List.append_cancel_left (hrows.symm.trans hr))] at hm
      obtain ⟨hm, hid⟩ := content_of_replayed hok' hnew fs hty hm
      rcases hcond with hnul | hrange
      · rw [hm, cstr_of_noNul hnul]
      · exact absurd hid (Nat.not_lt.mpr hrange)

/-- **`copies_agree_iff`** — in every state reached from an empty database, all copies of a chat
message that is stored have the content of its frame exactly if that content has no NUL, or no pull
can ever replay the message because its id does not fit an `int`. -/
theorem copies_agree_iff (pool_size : Nat) (es : List Event) (env : Env) (session : SessionId)
    (msg : Message) (hchat : IsChat msg)
    (hstores : Stores env (exec step (start .empty pool_size) es)) :
    CopiesAgree (exec step (start .empty pool_size) es) env session msg ↔ NoNul msg.content ∨
      2 ^ 31 ≤ (exec step (start .empty pool_size) es).db.tables.messages.last + 1 :=
  copiesAgree_iff (exec_ok pool_size es) hchat hstores

end Frames

/-! ## Runs -/

theorem stores_start : Stores .plain (start .empty 1) := ⟨ready_start (Nat.le_refl 1), rfl, rfl⟩

section Runs

variable [OpenSSL]

/-- A chat frame handled over and over: each time its row takes the next id. -/
theorem exec_replicate_chat (n : Nat) :
    let h := exec step (start .empty 1) (List.replicate n (.frame .plain 0 (chatFrame [])))
    h.db.Ready ∧ h.db.tables.messages.last = n := by
  induction n with
  | zero => exact ⟨stores_start.1, rfl⟩
  | succ n ih =>
      have hchat : IsChat (chatFrame []) := Or.inl rfl
      obtain ⟨-, hlast, hready, -⟩ := step_stored 0 hchat (⟨ih.1, rfl, rfl⟩ : Stores .plain _)
      rw [List.replicate_succ', exec_concat]
      exact ⟨hready, by rw [hlast, ih.2]⟩

/-- A stored message and a pull that replays it within a day. -/
theorem exists_replayed_hi {env : Env} (henv : env.SqlSucceeds) (hday : env.now.toInt ≤ 86400) :
    let h := exec step (start .empty 1) [.frame .plain 0 (chatFrame (str "hi"))]
    let r := MessageRow.new .plain (chatFrame (str "hi")) 1
    r ∈ h.db.tables.messages.rows ∧ ∃ m, Replayed h (.frame env 0 pullFrame) r m := by
  intro h r
  have hchat : IsChat (chatFrame (str "hi")) := Or.inl rfl
  obtain ⟨hrows, -, hready, -⟩ := step_stored 0 hchat stores_start
  have hone : h.db.tables.messages.rows = [r] := hrows
  have hids : ∀ x ∈ h.db.tables.messages.rows, x.message_id < 2 ^ 31 := by
    intro x hx
    rw [hone] at hx
    rw [List.mem_singleton.mp hx]
    show 1 < 2 ^ 31
    decide
  have hr : r ∈ h.db.tables.messages.rows := hone ▸ List.mem_singleton_self _
  refine ⟨hr, exists_replayed (exec_ok 1 _) hready henv rfl hids (List.mem_filter.mpr ⟨hr, ?_⟩)⟩
  rw [decide_eq_true_eq]
  refine ⟨Or.inl (by decide), ?_⟩
  show env.now.toInt - 86400 * 1 ≤ 0
  omega

end Runs

/-- Two pulls in the second in which the message was stored. -/
theorem replay_stable_iff_at_once :
    letI := OpenSSL.zero
    let h := exec step (start .empty 1) [.frame .plain 0 (chatFrame (str "hi"))]
    let r := MessageRow.new .plain (chatFrame (str "hi")) 1
    ∃ m₁ m₂, Replayed h (.frame .plain 0 pullFrame) r m₁ ∧
      Replayed h (.frame .plain 0 pullFrame) r m₂ ∧ m₁ = m₂ := by
  let _ := OpenSSL.zero
  intro h r
  obtain ⟨hr, m, hm⟩ := exists_replayed_hi Env.plain_sqlSucceeds (by decide)
  exact ⟨m, m, hm, hm, ((replay_stable_iff 1 [.frame .plain 0 (chatFrame (str "hi"))] [] .plain .plain
    0 0 pullFrame pullFrame r m m rfl rfl hr hm hm).mpr ⟨rfl, rfl⟩).1⟩

/-- A pull a minute after the message was stored gives it another time. -/
theorem replay_not_stable :
    letI := OpenSSL.zero
    ¬∀ (pool_size : Nat) (es fs : List Event) (env₁ env₂ : Env) (session₁ session₂ : SessionId)
      (msg₁ msg₂ : Message) (r : MessageRow) (m₁ m₂ : Message),
      let h₁ := exec step (start .empty pool_size) es
      let h₂ := exec step h₁ fs
      msg₁.messageType = .PULL_MESSAGE → msg₂.messageType = .PULL_MESSAGE →
      r ∈ h₁.db.tables.messages.rows → Replayed h₁ (.frame env₁ session₁ msg₁) r m₁ →
      Replayed h₂ (.frame env₂ session₂ msg₂) r m₂ →
        m₁ = m₂ ∧ m₁.timestamp.toInt = r.timestamp := by
  let _ := OpenSSL.zero
  intro hall
  have hsucceeds : Env.SqlSucceeds { Env.plain with now := 60 } := Env.plain_sqlSucceeds
  obtain ⟨hr, m₁, hm₁⟩ := exists_replayed_hi Env.plain_sqlSucceeds (by decide)
  obtain ⟨-, m₂, hm₂⟩ := exists_replayed_hi hsucceeds (by decide)
  have hstable := hall 1 [.frame .plain 0 (chatFrame (str "hi"))] [] .plain _ 0 0 pullFrame pullFrame _
    m₁ m₂ rfl rfl hr hm₁ hm₂
  obtain ⟨-, hlater⟩ := (Database.replays_eq_iff (messageOfRow_of_replayed rfl hr hm₁)
    (messageOfRow_of_replayed rfl hr hm₂)).mp hstable
  exact absurd hlater (by decide)

/-- Ordinary text comes back as it was sent. -/
theorem copies_agree_iff_hi :
    letI := OpenSSL.zero
    CopiesAgree (start .empty 1) .plain 0 (chatFrame (str "hi")) := by
  let _ := OpenSSL.zero
  exact (copies_agree_iff 1 [] .plain 0 (chatFrame (str "hi")) (Or.inl rfl) stores_start).mpr
    (Or.inl (by decide))

/-- A frame of which half the content is stored. -/
def nulText : Bytes :=
  str ("\x7b\"fromUserId\":1,\"toUserId\":2,\"messageType\":\"TEXT\",\"messageId\":7," ++
    "\"content\":\"a\\u0000b\",\"timestamp\":0\x7d")

/-- A content with a NUL is relayed whole and stored up to the NUL. -/
theorem copies_disagree :
    letI := OpenSSL.zero
    Message.fromJson .plain nulText = .ok (chatFrame [97, 0, 98]) ∧
    ¬∀ (pool_size : Nat) (es : List Event) (env : Env) (session : SessionId) (msg : Message),
      IsChat msg → Stores env (exec step (start .empty pool_size) es) →
        CopiesAgree (exec step (start .empty pool_size) es) env session msg := by
  let _ := OpenSSL.zero
  refine ⟨by decide +kernel, fun hall => ?_⟩
  have hagree := hall 1 [] .plain 0 (chatFrame [97, 0, 98]) (Or.inl rfl) stores_start
  rcases (copiesAgree_iff Tables.Ok.empty (Or.inl rfl) stores_start).mp hagree with hnul | hrange
  · exact absurd hnul (by decide)
  · exact absurd hrange (by decide)

/-- The chat message number `2 ^ 31` makes the pulls of its sender fail. -/
theorem pulls_fail :
    letI := OpenSSL.zero
    ¬∀ (pool_size : Nat) (es : List Event), PullsSafely (exec step (start .empty pool_size) es) := by
  let _ := OpenSSL.zero
  intro hall
  obtain ⟨n, hn⟩ : ∃ n, n + 1 = 2 ^ 31 := ⟨2 ^ 31 - 1, by omega⟩
  obtain ⟨hready, hlast⟩ := exec_replicate_chat n
  have hnext := hall 1 (List.replicate n (.frame .plain 0 (chatFrame [])) ++
    [.frame .plain 0 (chatFrame [])])
  rw [exec_concat, pullsSafely_step (exec_ok 1 _) (hall 1 _)] at hnext
  have hrange := hnext (Or.inl rfl) ⟨hready, rfl, rfl⟩
  rw [hlast] at hrange
  omega

end BusinessHandler

end TinyIM
