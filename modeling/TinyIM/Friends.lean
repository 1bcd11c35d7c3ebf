/-
# Friends — when friendship is mutual

`ADD_FRIEND` and an accepting answer write both rows of a pair; a rejecting answer deletes one of
them. The module computes what each frame does to the friends table when its SQLite statements
succeed, and from it the exact condition under which the two directions of every pair agree in every
state of a run: no rejecting answer is handled while the row of its request exists.
-/
import TinyIM.Invariants

namespace TinyIM

open TinyIM.Lib TinyIM.Lib.Text TinyIM.Lib.Table TinyIM.Lib.Runs TinyIM.Lib.Stops

/-! ## The two directions of a pair -/

/-- The row of the other direction. -/
def FriendRow.swap (r : FriendRow) : FriendRow := ⟨r.friend_id, r.user_id, r.status⟩

namespace Tables

/-- A row `(a, b, st)` is stored exactly if the row `(b, a, st)` is. -/
def Mirrored (t : Tables) : Prop :=
  ∀ a b st, (⟨a, b, st⟩ : FriendRow) ∈ t.friends.rows ↔ (⟨b, a, st⟩ : FriendRow) ∈ t.friends.rows

/-- The ids `getFriendList` reads, in the order of the table. -/
def friendList (t : Tables) (user_id : Bytes) : List Bytes :=
  (t.friends.rows.filter fun f => f.user_id = cstr user_id ∧ f.status = 1).map fun f =>
    cstr f.friend_id

/-- Friendship is mutual, in the table and in the lists read from it. -/
def Mutual (t : Tables) : Prop :=
  t.Mirrored ∧ ∀ a b : Int32, to_string b ∈ t.friendList (to_string a) ↔
    to_string a ∈ t.friendList (to_string b)

variable {t : Tables} {a b : Int32}

theorem Mirrored.swap_mem (h : t.Mirrored) {r : FriendRow} (hr : r ∈ t.friends.rows) :
    r.swap ∈ t.friends.rows := (h r.user_id r.friend_id r.status).mp hr

theorem mirrored_of_swap (h : ∀ r ∈ t.friends.rows, r.swap ∈ t.friends.rows) : t.Mirrored :=
  fun a b st => ⟨h ⟨a, b, st⟩, h ⟨b, a, st⟩⟩

theorem mem_friendList (hok : ∀ r ∈ t.friends.rows, r.Ok) :
    to_string b ∈ t.friendList (to_string a) ↔
      (⟨to_string a, to_string b, 1⟩ : FriendRow) ∈ t.friends.rows := by
  unfold friendList
  rw [List.mem_map]
  constructor
  · rintro ⟨r, hr, hid⟩
    rw [List.mem_filter, decide_eq_true_eq, cstr_to_string] at hr
    obtain ⟨hr, huser, hstatus⟩ := hr
    obtain ⟨x, y, -, hx, hy⟩ := hok r hr
    rw [hy, cstr_to_string] at hid
    have hrow : r = ⟨to_string a, to_string b, 1⟩ := by
      obtain ⟨user_id, friend_id, status⟩ := r
      rw [FriendRow.mk.injEq]
      exact ⟨huser, hy.trans hid, hstatus⟩
    exact hrow ▸ hr
  · intro hr
    refine ⟨_, List.mem_filter.mpr ⟨hr, ?_⟩, cstr_to_string b⟩
    rw [decide_eq_true_eq, cstr_to_string]
    exact ⟨rfl, rfl⟩

/-- Mirrored rows give mutual lists. -/
theorem Mirrored.mutual (h : t.Mirrored) (hok : ∀ r ∈ t.friends.rows, r.Ok) : t.Mutual := by
  refine ⟨h, ?_⟩
  intro a b
  rw [mem_friendList hok, mem_friendList hok]
  exact h _ _ _

/-! ## The writes -/

/-- After both inserts of a request between different users. -/
theorem mem_requested_requested (hne : a ≠ b) {r : FriendRow} :
    r ∈ ((t.requested a b).requested b a).friends.rows ↔ r ∈ t.friends.rows ∨
      (r = ⟨to_string a, to_string b, 0⟩ ∧
        ∀ r' ∈ t.friends.rows, r'.key ≠ (to_string a, to_string b)) ∨
      (r = ⟨to_string b, to_string a, 0⟩ ∧
        ∀ r' ∈ t.friends.rows, r'.key ≠ (to_string b, to_string a)) := by
  rw [mem_requested, mem_requested, or_assoc]
  refine or_congr_right (or_congr_right (and_congr_right fun _ => ?_))
  constructor
  · intro hfree r' hr'
    exact hfree r' (mem_requested.mpr (Or.inl hr'))
  · intro hfree r' hr'
    rcases mem_requested.mp hr' with hr' | ⟨rfl, -⟩
    · exact hfree r' hr'
    · intro hkey
      exact hne (to_string_inj.mp (Prod.mk.inj hkey).1)

/-- A request keeps the directions equal. -/
theorem Mirrored.requested (h : t.Mirrored) (hne : a ≠ b) :
    ((t.requested a b).requested b a).Mirrored := by
  have hfree : ∀ x y : Int32, (∀ r ∈ t.friends.rows, r.key ≠ (to_string x, to_string y)) →
      ∀ r ∈ t.friends.rows, r.key ≠ (to_string y, to_string x) := by
    intro x y hxy r hr hkey
    obtain ⟨h1, h2⟩ := Prod.mk.inj hkey
    exact hxy r.swap (h.swap_mem hr) (Prod.ext h2 h1)
  refine mirrored_of_swap ?_
  intro r hr
  rw [mem_requested_requested hne] at hr ⊢
  -- an old row has its old mirror image, and the two new rows are each other's
  rcases hr with hr | ⟨rfl, hab⟩ | ⟨rfl, hba⟩
  · exact Or.inl (h.swap_mem hr)
  · exact Or.inr (Or.inr ⟨rfl, hfree a b hab⟩)
  · exact Or.inr (Or.inl ⟨rfl, hfree b a hba⟩)

/-- An acceptance keeps the directions equal. -/
theorem Mirrored.accepted (h : t.Mirrored) (a b : Int32) : (t.accepted a b).Mirrored := by
  refine mirrored_of_swap ?_
  intro r hr
  obtain ⟨r', hr', rfl⟩ := mem_accepted.mp hr
  refine mem_accepted.mpr ⟨r'.swap, h.swap_mem hr', ?_⟩
  -- the condition of the UPDATE names both orders
  have hpair : (r'.swap.user_id = to_string a ∧ r'.swap.friend_id = to_string b ∨
      r'.swap.friend_id = to_string a ∧ r'.swap.user_id = to_string b) ↔
      (r'.user_id = to_string a ∧ r'.friend_id = to_string b ∨
        r'.friend_id = to_string a ∧ r'.user_id = to_string b) := Or.comm
  by_cases hp : r'.user_id = to_string a ∧ r'.friend_id = to_string b ∨
      r'.friend_id = to_string a ∧ r'.user_id = to_string b
  · rw [if_pos hp, if_pos (hpair.mpr hp)]
    rfl
  · rw [if_neg hp, if_neg fun hq => hp (hpair.mp hq)]

/-- **`rejected_mirrored_iff`** — a rejection keeps the directions equal exactly if it finds nothing
to delete. -/
theorem rejected_mirrored_iff (h : t.Mirrored) (hok : ∀ r ∈ t.friends.rows, r.Ok) :
    (t.rejected a b).Mirrored ↔ ∀ r ∈ t.friends.rows, r.key ≠ (to_string a, to_string b) := by
  constructor
  · intro hmirrored r hr hkey
    obtain ⟨huser, hfriend⟩ := Prod.mk.inj hkey
    obtain ⟨x, y, hne, hx, hy⟩ := hok r hr
    -- the other direction survives the deletion
    have hswap : r.swap ∈ (t.rejected a b).friends.rows := by
      refine mem_rejected.mpr ⟨h.swap_mem hr, ?_⟩
      rintro ⟨hu, -⟩
      have hyx : to_string y = to_string x := (hy.symm.trans (hu.trans huser.symm)).trans hx
      exact hne (to_string_inj.mp hyx.symm)
    exact (mem_rejected.mp (hmirrored.swap_mem hswap)).2 ⟨huser, hfriend⟩
  · intro hfree
    have hsame : ∀ r, r ∈ (t.rejected a b).friends.rows ↔ r ∈ t.friends.rows := by
      intro r
      rw [mem_rejected]
      refine ⟨fun hr => hr.1, fun hr => ⟨hr, ?_⟩⟩
      rintro ⟨huser, hfriend⟩
      exact hfree r hr (Prod.ext huser hfriend)
    intro x y st
    rw [hsame, hsame]
    exact h x y st

end Tables

/-! ## Runs of friend frames -/

/-- A frame that asks for or answers a friend request, in surroundings where the SQLite statements
succeed. -/
structure FriendFrame where
  env : Env
  session : SessionId
  msg : Message
  kind : msg.messageType = .ADD_FRIEND ∨ msg.messageType = .FRIEND_REQUEST_RESPONSE
  succeeds : env.SqlSucceeds

namespace BusinessHandler

/-- What a friend frame does to the tables. -/
def friendTables (t : Tables) (msg : Message) : Tables :=
  if msg.messageType = .ADD_FRIEND then
    if msg.fromUserId = msg.toUserId then t
    else (t.requested msg.fromUserId msg.toUserId).requested msg.toUserId msg.fromUserId
  else if msg.content = str "reject" then t.rejected msg.toUserId msg.fromUserId
  else if msg.content = str "accept" then t.accepted msg.toUserId msg.fromUserId
  else t

theorem friendTables_ok {t : Tables} (hok : ∀ r ∈ t.friends.rows, r.Ok) (msg : Message) :
    ∀ r ∈ (friendTables t msg).friends.rows, r.Ok := by
  unfold friendTables
  split
  · split
    · exact hok
    · rename_i hne
      exact Tables.friends_ok_requested (Tables.friends_ok_requested hok hne) (Ne.symm hne)
  · split
    · exact Tables.friends_ok_rejected hok
    · split
      · exact Tables.friends_ok_accepted hok
      · exact hok

theorem addFriend_ok {env : Env} {msg : Message} {h : BusinessHandler} (henv : env.SqlSucceeds)
    (hready : h.db.Ready) (hne : msg.fromUserId ≠ msg.toUserId) :
    Ends (addFriend env msg) h
      (fun _ h' => h'.db.Ready ∧ h'.db.tables =
        (h.db.tables.requested msg.fromUserId msg.toUserId).requested msg.toUserId msg.fromUserId)
      fun _ _ => False := by
  unfold addFriend
  rw [if_neg hne]
  simp only [ends_bind, ends_callDb, ends_ite]
  refine Database.ends_addFriend_ok (henv 0) (henv 1) hready ?_
  intro pool hpool
  refine ⟨fun _ => ?_, fun hfalse => absurd rfl hfalse⟩
  refine Database.ends_reading_ok (henv 2) hpool ?_
  intro rows _
  refine ⟨_, rfl, ?_⟩
  intro pool' hpool'
  cases rows.head? with
  | none => exact ⟨hpool', rfl⟩
  | some r =>
      show Ends (findSession msg.toUserId >>= _) _ _ _
      rw [ends_bind, ends_findSession]
      cases h.userSessions.lookup msg.toUserId with
      | none => exact ⟨hpool', rfl⟩
      | some other => exact ⟨hpool', rfl⟩

theorem ackAddFriend_ok {env : Env} {msg : Message} {h : BusinessHandler} (henv : env.SqlSucceeds)
    (hready : h.db.Ready) :
    Ends (ackAddFriend env msg) h
      (fun _ h' => h'.db.Ready ∧ h'.db.tables =
        if msg.content = str "reject" then h.db.tables.rejected msg.toUserId msg.fromUserId
        else if msg.content = str "accept" then h.db.tables.accepted msg.toUserId msg.fromUserId
        else h.db.tables)
      fun _ _ => False := by
  unfold ackAddFriend
  simp only [ends_ite, ends_bind, ends_callDb, ends_pure]
  refine ⟨?_, fun hnot => ⟨?_, ?_⟩⟩
  · intro hreject
    rw [if_pos hreject]
    exact Database.ends_removeFriend_ok (henv 0) hready fun pool hpool => ⟨hpool, rfl⟩
  · intro haccept
    rw [if_neg hnot, if_pos haccept]
    exact Database.ends_ackAddFriend_ok (henv 0) hready fun pool hpool => ⟨hpool, rfl⟩
  · intro hneither
    rw [if_neg hnot, if_neg hneither]
    exact ⟨hready, rfl⟩

section Runs

variable [OpenSSL]

/-- Handle a friend frame. -/
def friendStep (h : BusinessHandler) (f : FriendFrame) : BusinessHandler :=
  step h (.frame f.env f.session f.msg)

/-- The spec of one friend frame. -/
theorem friendStep_spec {h : BusinessHandler} (hready : h.db.Ready) (f : FriendFrame) :
    (friendStep h f).db.Ready ∧ (friendStep h f).db.tables = friendTables h.db.tables f.msg := by
  have hspec : Ends (handleIncomingMessage f.env f.session f.msg) h
      (fun _ h' => h'.db.Ready ∧ h'.db.tables = friendTables h.db.tables f.msg)
      fun _ _ => False := by
    unfold handleIncomingMessage friendTables
    rcases f.kind with hty | hty
    · rw [hty, if_pos rfl]
      by_cases hself : f.msg.fromUserId = f.msg.toUserId
      · rw [if_pos hself]
        unfold addFriend
        simp only [if_pos hself]
        exact ⟨hready, rfl⟩
      · rw [if_neg hself]
        exact addFriend_ok f.succeeds hready hself
    · rw [hty, if_neg MessageType.noConfusion]
      exact ackAddFriend_ok f.succeeds hready
  exact ends_stateOf.mp (hspec.mono (fun _ _ hs => hs) fun _ _ hfalse => hfalse.elim)

/-- A rejecting answer finds no row of the request it rejects. -/
def FindsNoRow (h : BusinessHandler) (f : FriendFrame) : Prop :=
  f.msg.messageType = .FRIEND_REQUEST_RESPONSE → f.msg.content = str "reject" →
    ∀ r ∈ h.db.tables.friends.rows, r.key ≠ (to_string f.msg.toUserId, to_string f.msg.fromUserId)

/-- What the runs keep: a connection, and well-formed friend rows. -/
def FriendsOk (h : BusinessHandler) : Prop :=
  h.db.Ready ∧ ∀ r ∈ h.db.tables.friends.rows, r.Ok

theorem friendsOk_step (h : BusinessHandler) (f : FriendFrame) (hok : FriendsOk h) :
    FriendsOk (friendStep h f) := by
  obtain ⟨hready', htables⟩ := friendStep_spec hok.1 f
  refine ⟨hready', ?_⟩
  rw [htables]
  exact friendTables_ok hok.2 f.msg

/-- One friend frame keeps friendship mutual exactly if, rejecting, it finds no row. -/
theorem mutual_step {h : BusinessHandler} (hok : FriendsOk h) (hmutual : h.db.tables.Mutual)
    (f : FriendFrame) : (friendStep h f).db.tables.Mutual ↔ FindsNoRow h f := by
  obtain ⟨-, htables⟩ := friendStep_spec hok.1 f
  have hok' := (friendsOk_step h f hok).2
  rw [htables] at hok' ⊢
  have hiff : (friendTables h.db.tables f.msg).Mutual ↔ (friendTables h.db.tables f.msg).Mirrored :=
    ⟨fun hm => hm.1, fun hm => hm.mutual hok'⟩
  rw [hiff]
  unfold friendTables FindsNoRow
  rcases f.kind with hty | hty
  · rw [hty, if_pos rfl]
    refine iff_of_true ?_ fun hno => MessageType.noConfusion hno
    split
    · exact hmutual.1
    · rename_i hne
      exact hmutual.1.requested hne
  · rw [hty, if_neg MessageType.noConfusion]
    by_cases hreject : f.msg.content = str "reject"
    · rw [if_pos hreject, Tables.rejected_mirrored_iff hmutual.1 hok.2]
      exact ⟨fun hfree _ _ => hfree, fun hfree => hfree rfl hreject⟩
    · rw [if_neg hreject]
      refine iff_of_true ?_ fun _ hr => absurd hr hreject
      split
      · exact hmutual.1.accepted _ _
      · exact hmutual.1

/-- **`friends_mutual_iff`** — from an empty friends table, friendship is mutual in every state of a
run of friend frames exactly if no rejecting answer of the run is handled while the row of the
request it rejects is stored. -/
theorem friends_mutual_iff (tables : Tables) (hempty : tables.friends.rows = []) {pool_size : Nat}
    (hsize : 1 ≤ pool_size) (es : List FriendFrame) :
    Throughout friendStep (fun h => h.db.tables.Mutual) (start tables pool_size) es ↔
      StepsMeet friendStep FindsNoRow (start tables pool_size) es := by
  have hok : FriendsOk (start tables pool_size) := by
    refine ⟨ready_start hsize, ?_⟩
    intro r hr
    exact absurd hr (hempty ▸ List.not_mem_nil)
  have hmirrored : (start tables pool_size).db.tables.Mirrored := by
    refine Tables.mirrored_of_swap ?_
    intro r hr
    exact absurd hr (hempty ▸ List.not_mem_nil)
  exact throughout_iff_stepsMeet friendsOk_step (fun h f hok hmutual => mutual_step hok hmutual f)
    hok (hmirrored.mutual hok.2) es

end Runs

/-- User 1 asks user 2. -/
def asks : FriendFrame :=
  ⟨.plain, 0, ⟨1, 2, .ADD_FRIEND, 0, [], 0⟩, Or.inl rfl, Env.plain_sqlSucceeds⟩

/-- User 2 rejects. -/
def declines : FriendFrame :=
  ⟨.plain, 1, ⟨2, 1, .FRIEND_REQUEST_RESPONSE, 0, str "reject", 0⟩, Or.inr rfl,
    Env.plain_sqlSucceeds⟩

/-- A rejecting answer to nothing, then a request. -/
theorem friends_mutual_asks :
    letI := OpenSSL.zero
    Throughout friendStep (fun h => h.db.tables.Mutual) (start .empty 1) [declines, asks] := by
  let _ := OpenSSL.zero
  refine (friends_mutual_iff .empty rfl (Nat.le_refl 1) [declines, asks]).mpr ?_
  refine stepsMeet_cons.mpr ⟨fun _ _ r hr => absurd hr List.not_mem_nil, ?_⟩
  exact stepsMeet_cons.mpr ⟨fun hty => MessageType.noConfusion hty, stepsMeet_nil⟩

/-- A request that is rejected leaves the requester in the table of the user who rejected. -/
theorem rejected_one_sided :
    letI := OpenSSL.zero
    (exec friendStep (start .empty 1) [asks, declines]).db.tables.friends.rows =
      [⟨str "2", str "1", 0⟩] ∧
    ¬(exec friendStep (start .empty 1) [asks, declines]).db.tables.Mutual := by
  let _ := OpenSSL.zero
  have hrows : (exec friendStep (start .empty 1) [asks, declines]).db.tables.friends.rows =
      [⟨str "2", str "1", 0⟩] := by decide
  refine ⟨hrows, ?_⟩
  rintro ⟨hmirrored, -⟩
  have hmem := (hmirrored (str "2") (str "1") 0).mp (by rw [hrows]; exact List.mem_singleton_self _)
  rw [hrows, List.mem_singleton] at hmem
  exact absurd hmem (by decide)

end BusinessHandler

end TinyIM
