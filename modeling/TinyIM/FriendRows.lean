/-
# FriendRows — the ids of the friends table as text and as integers

The handlers write an id into `friends` with `std::to_string`, and `sendFriendList` reads it back
with `std::stoi`, which throws for a text that is no number or too large. Nothing else writes the
table, so every row holds two different ids in decimal form, whatever the SQLite calls returned
before (`Tables.Ok`). The conversion back cannot fail, and the entries of a list carry the integers
that the rows were written from. They are not always those of all the friends: with one who is not
registered the two columns have different lengths, and the list comes out empty.
-/
import TinyIM.FriendList
import TinyIM.Lib.JsonRoundTrip
import Mathlib.Algebra.Order.BigOperators.Group.List
import Mathlib.Algebra.Order.Group.Nat
import Mathlib.Data.Set.List

namespace TinyIM

open TinyIM.Lib TinyIM.Lib.Text TinyIM.Lib.Table TinyIM.Lib.Runs TinyIM.Lib.Stops

/-! ## Pairs with ids that convert back -/

/-- The entry of a friend with this id. -/
def friendEntry (id : Int32) (name : Bytes) : Json Bytes Empty :=
  Json.mkObject [(str "id", ofInt id), (str "name", .string name),
    (str "avatar", .string (str "./default.png"))]

theorem friendInfo_to_string (id : Int32) (name : Bytes) :
    BusinessHandler.friendInfo (to_string id, name) = .ok (friendEntry id name) := by
  unfold BusinessHandler.friendInfo
  rw [stoi_to_string]
  rfl

/-- Rendering the ids of a list of friends does not change how they pair up with the names. -/
theorem pairUp_map_to_string (ids : List Int32) (names : List Bytes) :
    pairUp (ids.map to_string) names =
      (pairUp ids names).map fun f => (to_string f.1, f.2) := by
  unfold pairUp
  rw [List.length_map]
  split
  · rw [List.zip_map_left]
    rfl
  · rfl

/-- `std::stoi` returns for every id, with the integer it was written from. -/
theorem mapM_friendInfo (ids : List Int32) (names : List Bytes) :
    (pairUp (ids.map to_string) names).mapM BusinessHandler.friendInfo =
      .ok ((pairUp ids names).map fun f => friendEntry f.1 f.2) := by
  rw [pairUp_map_to_string, List.mapM_map]
  have hpure : (BusinessHandler.friendInfo ∘ fun f : Int32 × Bytes => (to_string f.1, f.2)) =
      fun f => pure (friendEntry f.1 f.2) := funext fun f => friendInfo_to_string f.1 f.2
  rw [hpure, List.mapM_pure]
  rfl

theorem wellFormed_array {xs : List (Json Bytes Empty)} (h : ∀ x ∈ xs, x.WellFormed) :
    (Json.array xs).WellFormed := by
  show Json.WellFormedElements xs
  induction xs with
  | nil => exact trivial
  | cons x xs ih =>
      rw [List.forall_mem_cons] at h
      exact ⟨h.1, ih h.2⟩

theorem wellFormed_friendEntry (id : Int32) {name : Bytes} (h : ValidUtf8 name) :
    (friendEntry id name).WellFormed := by
  refine Json.wellFormed_mkObject ?_
  intro m hm
  simp only [List.mem_cons, List.not_mem_nil, or_false] at hm
  rcases hm with rfl | rfl | rfl
  · exact ⟨validUtf8_utf8 _, trivial⟩
  · exact ⟨validUtf8_utf8 _, h⟩
  · exact ⟨validUtf8_utf8 _, validUtf8_utf8 _⟩

/-! ## What the two queries read -/

/-- Every accepted friend of the user is registered. -/
def Tables.AllRegistered (t : Tables) (u : Int32) : Prop :=
  ∀ id, t.Accepted u id → ∃ name, t.Named id name

namespace Database

section Queries

variable {o : Outcome} {t : Tables} {u : Int32}

/-- The ids handed out are the decimal forms of different ids. -/
theorem exists_friendIds (hok : t.Ok) (ht : t.Plain) :
    ∃ ids : List Int32, friendIds o t u = ids.map to_string ∧ ids.Nodup := by
  have hrange : friendIds o t u ∈ Set.range (List.map to_string) := by
    rw [Set.range_list_map]
    intro id hid
    obtain ⟨-, b, -, -, rfl⟩ := hok.friends _ (accepted_of_mem_friendIds ht hid)
    exact ⟨b, rfl⟩
  obtain ⟨ids, hids⟩ := hrange
  have hnodup := nodup_friendIds (o := o) (u := u) ht
  rw [← hids] at hnodup
  exact ⟨ids, hids.symm, hnodup.of_map _⟩

/-- With an accepted friend who is not registered, the second query has fewer rows. -/
theorem length_friendNames_lt {o₁ o₂ : Outcome} (ho₁ : o₁.Succeeds) (ho₂ : o₂.Succeeds)
    (hnot : ¬t.AllRegistered u) : (friendNames o₂ t u).length < (friendIds o₁ t u).length := by
  obtain ⟨id, hid⟩ := not_forall.mp hnot
  obtain ⟨haccepted, hunnamed⟩ := Classical.not_imp.mp hid
  have hmost : ∀ f ∈ acceptedRows t u,
      (t.users.rows.filter fun w => f.friend_id = w.user_id).length ≤ 1 := by
    intro f _
    have hsame : (t.users.rows.filter fun w => f.friend_id = w.user_id) =
        t.users.rows.filter fun w => w.user_id = f.friend_id :=
      List.filter_congr fun w _ => decide_eq_decide.mpr eq_comm
    rw [hsame]
    exact t.users.length_filter_key_le_one f.friend_id
  -- the row of that friend is joined with none
  have hnone : (t.users.rows.filter fun w => id = w.user_id).length < 1 := by
    rw [Nat.lt_one_iff, List.length_eq_zero_iff, List.filter_eq_nil_iff]
    intro w hw heq
    exact hunnamed ⟨w.username, w, hw, (of_decide_eq_true heq).symm, rfl⟩
  have hjoined : (friendUsers (to_string u) t).length < (acceptedRows t u).length := by
    unfold friendUsers
    rw [cstr_to_string, List.length_flatMap]
    calc ((acceptedRows t u).map fun f =>
          (t.users.rows.filter fun w => f.friend_id = w.user_id).length).sum
      _ < ((acceptedRows t u).map fun _ => 1).sum :=
          List.sum_lt_sum _ _ hmost ⟨_, mem_acceptedRows.mpr ⟨id, haccepted, rfl⟩, hnone⟩
      _ = (acceptedRows t u).length := by
          rw [List.map_const', List.sum_replicate_nat, Nat.mul_one]
  rw [friendIds, friendNames, List.length_map, List.length_map, handedOut_of_succeeds ho₁,
    handedOut_of_succeeds ho₂, (reorder_perm _ _).length_eq, (reorder_perm _ _).length_eq]
  exact hjoined

theorem validUtf8_of_mem_friendNames (hok : t.Ok) {name : Bytes} (h : name ∈ friendNames o t u) :
    ValidUtf8 name := by
  obtain ⟨w, hw, rfl⟩ := List.mem_map.mp h
  exact validUtf8_cstr (hok.users w (mem_friendUsers.mp (mem_of_mem_handedOut hw)).1)

end Queries

end Database

/-! ## Reachable rows -/

namespace BusinessHandler

variable {env : Env} {session : SessionId} {msg : Message} {h : BusinessHandler}

/-- The frame was answered with the two columns side by side, the ids being the integers, all different,
that the stored ones were written from. -/
def Listed (env : Env) (session : SessionId) (msg : Message) (h h' : BusinessHandler) : Prop :=
  ∃ pool ids content,
    Database.friendIds (env.sql 0) h.db.tables msg.fromUserId = ids.map to_string ∧ ids.Nodup ∧
    dumpJson (.array ((pairUp ids (Database.friendNames (env.sql 1) h.db.tables
      msg.fromUserId)).map fun f => friendEntry f.1 f.2)) = .ok content ∧
    h' = (h.withDb h.db.tables pool).post [(session,
      .new env msg.fromUserId msg.toUserId .FRIEND_LIST (msg.messageId + 1) content)]

/-- A request for the list is answered with one, or waits for a connection; nothing is thrown. -/
theorem sendFriendList_listed (env : Env) (session : SessionId) (msg : Message)
    (hok : h.db.tables.Ok) (hplain : h.db.tables.Plain) :
    Ends (sendFriendList env msg session) h (fun _ h' => Listed env session msg h h')
      fun stop h' => stop = .wait ∧ (¬h.db.Ready ∨ (env.sql 0).prepare = false) ∧
        h'.posted = h.posted := by
  obtain ⟨ids, hids, hnodup⟩ := Database.exists_friendIds (o := env.sql 0) (u := msg.fromUserId) hok hplain
  unfold sendFriendList
  rw [ends_bind, ends_callDb]
  refine Database.ends_getFriendPair (fun pool hwait => ⟨rfl, hwait, rfl⟩) ?_
  intro pool
  rw [ends_bind, hids, ends_orThrow_ok (mapM_friendInfo ids _), ends_bind]
  -- the names were stored as well-formed text, so the list can be written
  have hwell : (Json.array ((pairUp ids (Database.friendNames (env.sql 1) h.db.tables
      msg.fromUserId)).map fun f => friendEntry f.1 f.2)).WellFormed := by
    refine wellFormed_array ?_
    intro x hx
    obtain ⟨f, hf, rfl⟩ := List.mem_map.mp hx
    exact wellFormed_friendEntry f.1
      (Database.validUtf8_of_mem_friendNames hok (mem_of_mem_pairUp hf))
  obtain ⟨content, hcontent⟩ := exists_dumpJson hwell
  rw [ends_orThrow_ok hcontent]
  exact ⟨pool, ids, content, hids, hnodup, hcontent, rfl⟩

/-- The content is a list of different friends, and their ids are those of the accepted ones. -/
def ListsFriends (t : Tables) (u : Int32) (content : Bytes) : Prop :=
  ∃ friends : List (Int32 × Bytes),
    dumpJson (.array (friends.map fun f => friendEntry f.1 f.2)) = .ok content ∧
    (friends.map Prod.fst).Nodup ∧ ∀ id, id ∈ friends.map (fun f => to_string f.1) ↔ t.Accepted u id

/-- An empty list is the text of no other one. -/
theorem eq_nil_of_dump {xs : List (Json Bytes Empty)} {content : Bytes}
    (hnil : dumpJson (.array []) = .ok content) (h : dumpJson (.array xs) = .ok content) : xs = [] := by
  rw [dumpJson_eq_ok] at hnil h
  have htext := Json.text_eq_of_dump_eq h hnil
  cases xs with
  | nil => rfl
  | cons x xs =>
      obtain ⟨t, ht, heq⟩ := Option.map_eq_some_iff.mp htext
      obtain ⟨t₁, t₂, h₁, -, rfl⟩ := Json.textElements_cons_eq_some.mp ht
      obtain ⟨c, cs, rfl, -, -⟩ := Json.exists_cons_of_text h₁
      -- the text of an element stands between the brackets
      have hlength := congrArg List.length heq
      split at hlength
      · simp at hlength
      · simp at hlength

section Replies

variable {t : Tables} {u : Int32} {o₁ o₂ : Outcome} {ids : List Int32} {content : Bytes}

/-- The two columns side by side list the friends exactly if they have one length. -/
theorem listsFriends_iff (ht : t.Plain) (ho₁ : o₁.Succeeds) (ho₂ : o₂.Succeeds)
    (hids : Database.friendIds o₁ t u = ids.map to_string)
    (hcontent : dumpJson (.array ((pairUp ids (Database.friendNames o₂ t u)).map
      fun f => friendEntry f.1 f.2)) = .ok content) :
    ListsFriends t u content ↔ t.AllRegistered u := by
  have hstored : ∀ id, id ∈ ids.map to_string ↔ t.Accepted u id := by
    intro id
    rw [← hids]
    exact ⟨Database.accepted_of_mem_friendIds ht, Database.mem_friendIds ht ho₁⟩
  constructor
  · rintro ⟨friends, hfriends, -, hmem⟩
    by_contra hnot
    have hlength := Database.length_friendNames_lt ho₁ ho₂ hnot
    rw [hids, List.length_map] at hlength
    have hnone : pairUp ids (Database.friendNames o₂ t u) = [] := if_neg (Nat.ne_of_gt hlength)
    rw [hnone] at hcontent
    have hnil := List.map_eq_nil_iff.mp (eq_nil_of_dump hcontent hfriends)
    -- an accepted friend is missing
    obtain ⟨id, hid⟩ := not_forall.mp hnot
    have hin := (hmem id).mpr (Classical.not_imp.mp hid).1
    rw [hnil] at hin
    cases hin
  · intro hall
    have hlength := Database.length_friendIds ho₁ ho₂ hall
    rw [hids, List.length_map] at hlength
    have hpairs : (pairUp ids (Database.friendNames o₂ t u)).map Prod.fst = ids := by
      rw [pairUp, if_pos hlength, List.map_fst_zip (Nat.le_of_eq hlength)]
    have hnodup : (ids.map to_string).Nodup := by
      rw [← hids]
      exact Database.nodup_friendIds ht
    refine ⟨_, hcontent, ?_, fun id => ?_⟩
    · rw [hpairs]
      exact hnodup.of_map _
    · rw [← hstored id, ← congrArg (List.map to_string) hpairs, List.map_map]
      rfl

end Replies

/-- Without an idle connection the request waits. -/
theorem sendFriendList_waits (hready : ¬h.db.Ready) :
    Ends (sendFriendList env msg session) h (fun _ _ => False) fun stop h' =>
      stop = .wait ∧ h'.posted = h.posted := by
  unfold sendFriendList Database.getFriendPair Database.getFriendList Database.reading
  rw [ends_bind, ends_callDb, ends_bind]
  exact Database.ends_withStatement_of_not_ready hready ⟨rfl, rfl⟩

/-- What the property says of one request: if it is answered, the answer lists the friends. -/
def AnswersWithFriends (env : Env) (session : SessionId) (msg : Message) (h : BusinessHandler) : Prop :=
  Ends (sendFriendList env msg session) h
    (fun _ h' => ∃ reply, h'.posted = h.posted ++ [(session, reply)] ∧
      reply.messageType = .FRIEND_LIST ∧ ListsFriends h.db.tables msg.fromUserId reply.content)
    fun stop h' => stop = .wait ∧ h'.posted = h.posted

/-- **`answersWithFriends_iff`** — one request, its calls succeeding. -/
theorem answersWithFriends_iff (hok : h.db.tables.Ok) (hplain : h.db.tables.Plain)
    (ho₁ : (env.sql 0).Succeeds) (ho₂ : (env.sql 1).Succeeds) :
    AnswersWithFriends env session msg h ↔
      ¬h.db.Ready ∨ h.db.tables.AllRegistered msg.fromUserId := by
  have hlisted := sendFriendList_listed (h := h) env session msg hok hplain
  constructor
  · intro hanswers
    by_cases hready : h.db.Ready
    · refine Or.inr ?_
      by_contra hnot
      refine not_ends_false ((hlisted.and hanswers).mono ?_ ?_)
      · rintro _ h' ⟨⟨pool, ids, content, hids, -, hcontent, rfl⟩, reply, hposted, -, hlists⟩
        obtain ⟨-, rfl⟩ := Prod.mk.inj (List.singleton_inj.mp (List.append_cancel_left hposted))
        exact hnot ((listsFriends_iff hplain ho₁ ho₂ hids hcontent).mp hlists)
      · rintro _ _ ⟨⟨-, hwait | hwait, -⟩, -⟩
        · exact hwait hready
        · rw [ho₁.1] at hwait
          cases hwait
    · exact Or.inl hready
  · rintro (hready | hall)
    · exact (sendFriendList_waits hready).mono (fun _ _ hfalse => hfalse.elim) fun _ _ hwait => hwait
    · refine hlisted.mono ?_ fun _ _ hwait => ⟨hwait.1, hwait.2.2⟩
      rintro _ h' ⟨pool, ids, content, hids, -, hcontent, rfl⟩
      exact ⟨_, rfl, rfl, (listsFriends_iff hplain ho₁ ho₂ hids hcontent).mpr hall⟩

/-- **`friend_rows_convert`** — in every state a run from an empty database leads to, whatever the
calls returned, every row of `friends` holds two different ids that convert back, and a request for
a friend list waits for a connection or is answered with the two columns, the ids as integers. If the
calls of the request succeed, the ids in the answer are those of the accepted friends, each once,
exactly if no connection is idle or every accepted friend is registered. -/
theorem friend_rows_convert [OpenSSL] (pool_size : Nat) (es : List Event) :
    let h := exec step (start .empty pool_size) es
    (∀ r ∈ h.db.tables.friends.rows, r.user_id ≠ r.friend_id ∧
      ∃ a b : Int32, r.user_id = to_string a ∧ stoi r.user_id = .ok a ∧
        r.friend_id = to_string b ∧ stoi r.friend_id = .ok b) ∧
    ∀ (env : Env) (session : SessionId) (msg : Message),
      Ends (sendFriendList env msg session) h (fun _ h' => Listed env session msg h h')
        (fun stop h' => stop = .wait ∧ h'.posted = h.posted) ∧
      ((env.sql 0).Succeeds → (env.sql 1).Succeeds →
        (AnswersWithFriends env session msg h ↔
          ¬h.db.Ready ∨ h.db.tables.AllRegistered msg.fromUserId)) := by
  intro h
  have hinv : h.db.tables.Ok ∧ h.db.tables.Plain := exec_plain pool_size es
  refine ⟨?_, fun env session msg => ⟨?_, fun ho₁ ho₂ => ?_⟩⟩
  · intro r hr
    obtain ⟨a, b, hne, ha, hb⟩ := hinv.1.friends r hr
    rw [ha, hb]
    refine ⟨?_, a, b, rfl, stoi_to_string a, rfl, stoi_to_string b⟩
    intro heq
    exact hne (to_string_inj.mp heq)
  · exact (sendFriendList_listed env session msg hinv.1 hinv.2).mono (fun _ _ hlisted => hlisted)
      fun _ _ hwait => ⟨hwait.1, hwait.2.2⟩
  · exact answersWithFriends_iff hinv.1 hinv.2 ho₁ ho₂

/-- Bob asks for his friends. -/
def friendsFrame : Message := ⟨111111111, 0, .FRIEND_LIST, 0, str " ", 0⟩

/-- The server after Bob has made friends with Amy and with an id nobody has. -/
@[irreducible] def befriended : BusinessHandler :=
  letI := OpenSSL.zero
  exec step (start .empty 1) twoFriends

theorem befriended_plain : befriended.db.tables.Ok ∧ befriended.db.tables.Plain := by
  unfold befriended
  exact @exec_plain OpenSSL.zero 1 twoFriends

theorem befriended_ready : befriended.db.Ready := by
  unfold Database.Ready
  decide +kernel

/-- The answer to Bob's request is an empty list, though he has two accepted friends. -/
theorem friends_left_out :
    letI := OpenSSL.zero
    befriended.db.tables.Accepted 111111111 (str "222222222") ∧
      (step befriended (.frame .plain 3 friendsFrame)).posted =
        befriended.posted ++ [(3, .new .plain 111111111 0 .FRIEND_LIST 1 (str "[]"))] ∧
      ¬AnswersWithFriends .plain 3 friendsFrame befriended := by
  have hstranger : befriended.db.tables.Accepted 111111111 (str "333333333") := by decide +kernel
  have hunknown : ∀ w ∈ befriended.db.tables.users.rows, w.user_id ≠ str "333333333" := by
    decide +kernel
  refine ⟨by decide +kernel, by decide +kernel, ?_⟩
  rw [answersWithFriends_iff befriended_plain.1 befriended_plain.2 (Outcome.ordered_succeeds 0)
    (Outcome.ordered_succeeds 0)]
  rintro (hnot | hall)
  · exact hnot befriended_ready
  · obtain ⟨name, w, hw, hid, -⟩ := hall _ hstranger
    exact hunknown w hw hid

end BusinessHandler

end TinyIM
