/-
# FriendTable — friend frames act on the rows of their own pair

A friend frame changes the friends table key by key: what becomes of the row under a key depends on
that row alone (`friendAct`), and under a key of another pair nothing happens. Repetition, direction
and order of friend frames are questions about these actions on one row, for tables in any state. The
last part is the operation behind `ADD_FRIEND` when its statements fail: two inserts and no
transaction.
-/
import TinyIM.FriendHistory

namespace TinyIM

open TinyIM.Lib TinyIM.Lib.Text TinyIM.Lib.Table TinyIM.Lib.Runs TinyIM.Lib.Stops

/-! ## What the writes do under a key -/

/-- The key is one of the two of a pair. -/
def OnPair (a b : Int32) (k : Bytes × Bytes) : Prop :=
  k = (to_string a, to_string b) ∨ k = (to_string b, to_string a)

instance (a b : Int32) (k : Bytes × Bytes) : Decidable (OnPair a b k) :=
  inferInstanceAs (Decidable (_ ∨ _))

theorem onPair_comm {a b : Int32} {k : Bytes × Bytes} : OnPair a b k ↔ OnPair b a k := Or.comm

/-- A key belongs to one pair. -/
theorem OnPair.unique {a b x y : Int32} {k : Bytes × Bytes} (h : OnPair a b k) (h' : OnPair x y k) :
    x = a ∧ y = b ∨ x = b ∧ y = a := by
  rcases h with rfl | rfl <;> rcases h' with h' | h' <;>
    simp only [Prod.mk.injEq, to_string_inj] at h' <;> simp [h'.1, h'.2]

namespace Tables

variable {t : Tables} {a b : Int32} {k : Bytes × Bytes}

theorem lookup_requested : (t.requested a b).friends.lookup k =
    if (to_string a, to_string b) = k then (t.friends.lookup k).or (some ⟨to_string a, to_string b, 0⟩)
    else t.friends.lookup k := Keyed.lookup_insertOrIgnore

/-- After both inserts of a request between different users. -/
theorem lookup_requested_requested (hne : a ≠ b) :
    ((t.requested a b).requested b a).friends.lookup k =
      if OnPair a b k then (t.friends.lookup k).or (some ⟨k.1, k.2, 0⟩) else t.friends.lookup k := by
  have hkeys : (to_string a, to_string b) ≠ (to_string b, to_string a) := fun h =>
    hne (to_string_inj.mp (Prod.mk.inj h).1)
  rw [lookup_requested, lookup_requested]
  by_cases hba : (to_string b, to_string a) = k
  · have hpair : OnPair a b k := Or.inr hba.symm
    subst hba
    rw [if_pos rfl, if_neg hkeys, if_pos hpair]
  · rw [if_neg hba]
    by_cases hab : (to_string a, to_string b) = k
    · have hpair : OnPair a b k := Or.inl hab.symm
      subst hab
      rw [if_pos rfl, if_pos hpair]
    · have hpair : ¬OnPair a b k := by
        rintro (rfl | rfl)
        · exact hab rfl
        · exact hba rfl
      rw [if_neg hab, if_neg hpair]

theorem lookup_accepted : (t.accepted a b).friends.lookup k =
    if OnPair a b k then (t.friends.lookup k).map fun r => { r with status := 1 }
    else t.friends.lookup k := by
  refine Keyed.lookup_updateWhere ?_ FriendRow.key_accepted
  intro r
  -- the four parameters of the statement spell out the two keys
  rw [decide_eq_true_eq, OnPair, FriendRow.key, Prod.mk.injEq, Prod.mk.injEq,
    and_comm (a := r.friend_id = _)]

theorem lookup_rejected : (t.rejected a b).friends.lookup k =
    if k = (to_string a, to_string b) then none else t.friends.lookup k := by
  refine Keyed.lookup_deleteWhere (q := fun k => k = (to_string a, to_string b)) ?_
  intro r
  rw [decide_eq_true_eq, FriendRow.key, Prod.mk.injEq]

end Tables

namespace BusinessHandler

/-! ## Friend frames as actions on single rows -/

/-- What a friend frame does to the row under a key. -/
def friendAct (msg : Message) (k : Bytes × Bytes) (row : Option FriendRow) : Option FriendRow :=
  if msg.messageType = .ADD_FRIEND then
    if msg.fromUserId ≠ msg.toUserId ∧ OnPair msg.fromUserId msg.toUserId k then
      row.or (some ⟨k.1, k.2, 0⟩)
    else row
  else if msg.content = str "reject" then
    if k = (to_string msg.toUserId, to_string msg.fromUserId) then none else row
  else if msg.content = str "accept" ∧ OnPair msg.fromUserId msg.toUserId k then
    row.map fun r => { r with status := 1 }
  else row

section Actions

variable {msg : Message} {k : Bytes × Bytes} {row : Option FriendRow} {a b : Int32}

theorem lookup_friendTables (t : Tables) (msg : Message) (k : Bytes × Bytes) :
    (friendTables t msg).friends.lookup k = friendAct msg k (t.friends.lookup k) := by
  unfold friendTables friendAct
  split
  · by_cases hself : msg.fromUserId = msg.toUserId
    · rw [if_pos hself, if_neg fun h => h.1 hself]
    · rw [if_neg hself, Tables.lookup_requested_requested hself]
      simp only [ne_eq, hself, not_false_eq_true, true_and]
  · split
    · exact Tables.lookup_rejected
    · split
      · rename_i haccept
        rw [Tables.lookup_accepted]
        simp only [haccept, true_and, onPair_comm (a := msg.toUserId)]
      · rename_i haccept
        rw [if_neg fun h => haccept h.1]

/-- Under a key of another pair a friend frame does nothing. -/
theorem friendAct_of_not_onPair (h : ¬OnPair msg.fromUserId msg.toUserId k) :
    friendAct msg k row = row := by
  unfold friendAct
  split
  · exact if_neg fun hadd => h hadd.2
  · split
    · exact if_neg fun hk => h (Or.inr hk)
    · exact if_neg fun haccept => h haccept.2

theorem Concerns.onPair_iff (h : Concerns a b msg) :
    OnPair msg.fromUserId msg.toUserId k ↔ OnPair a b k := by
  rcases h with ⟨rfl, rfl⟩ | ⟨rfl, rfl⟩
  · exact Iff.rfl
  · exact onPair_comm

/-- A request between two users fills the free keys of their pair. -/
theorem friendAct_asks (hne : a ≠ b) (h : Asks a b msg) :
    friendAct msg k row = if OnPair a b k then row.or (some ⟨k.1, k.2, 0⟩) else row := by
  obtain ⟨hty, hconcerns⟩ := h
  have hself : msg.fromUserId ≠ msg.toUserId := by
    rcases hconcerns with ⟨hfrom, hto⟩ | ⟨hfrom, hto⟩
    · rw [hfrom, hto]
      exact hne
    · rw [hfrom, hto]
      exact hne.symm
  unfold friendAct
  rw [if_pos hty]
  simp only [hself, ne_eq, not_false_eq_true, true_and, hconcerns.onPair_iff]

/-- An acceptance between two users accepts the rows of their pair. -/
theorem friendAct_accepts (h : Accepts a b msg) :
    friendAct msg k row = if OnPair a b k then row.map fun r => { r with status := 1 } else row := by
  obtain ⟨hty, hcontent, hconcerns⟩ := h
  have hnot : msg.content ≠ str "reject" := by
    rw [hcontent]
    decide
  unfold friendAct
  rw [if_neg (kind_of_response hty), if_neg hnot]
  simp only [hcontent, true_and, hconcerns.onPair_iff]

end Actions

/-! ## Repetition, direction and order -/

/-- The two states hold the same friends. -/
def SameFriends (h h' : BusinessHandler) : Prop := h.db.tables.friends.SameRows h'.db.tables.friends

section Frames

variable [OpenSSL] {h : BusinessHandler} {f : FriendFrame} {k : Bytes × Bytes}

/-- A friend frame that finds no idle connection waits. -/
theorem friendStep_of_not_ready (hready : ¬h.db.Ready) (f : FriendFrame) : friendStep h f = h := by
  have hends : Ends (handleIncomingMessage f.env f.session f.msg) h (fun _ h' => h' = h)
      fun _ h' => h' = h := by
    unfold handleIncomingMessage
    rcases f.kind with hty | hty
    · rw [hty]
      unfold addFriend
      simp only [ends_ite, ends_bind, ends_callDb, ends_pure]
      refine ⟨fun _ => trivial, fun _ => ?_⟩
      have hempty : h.db.connection_pool = [] := not_not.mp hready
      obtain ⟨⟨tables, pool⟩, userSessions, posted, closing⟩ := h
      change pool = [] at hempty
      subst hempty
      rfl
    · rw [hty]
      unfold ackAddFriend
      simp only [ends_ite, ends_bind, ends_callDb, ends_pure]
      exact ⟨fun _ => Database.ends_withStatement_of_not_ready hready rfl,
        fun _ => ⟨fun _ => Database.ends_withStatement_of_not_ready hready rfl, fun _ => trivial⟩⟩
  exact ends_stateOf.mp hends

/-- The spec of one friend frame, key by key. -/
theorem lookup_friendStep (hready : h.db.Ready) (f : FriendFrame) (k : Bytes × Bytes) :
    (friendStep h f).db.tables.friends.lookup k =
      friendAct f.msg k (h.db.tables.friends.lookup k) := by
  rw [(friendStep_spec hready f).2, lookup_friendTables]

/-- Requests between two users after a first one do nothing more. -/
theorem lookup_exec_asks {u f : Int32} (hne : u ≠ f) (hready : h.db.Ready) {adds : List FriendFrame}
    (hnonempty : adds ≠ []) (hasks : ∀ e ∈ adds, Asks u f e.msg) :
    (exec friendStep h adds).db.tables.friends.lookup k =
      if OnPair u f k then (h.db.tables.friends.lookup k).or (some ⟨k.1, k.2, 0⟩)
      else h.db.tables.friends.lookup k := by
  induction adds generalizing h with
  | nil => exact absurd rfl hnonempty
  | cons e adds ih =>
      rw [List.forall_mem_cons] at hasks
      have hone := lookup_friendStep hready e k
      rw [friendAct_asks hne hasks.1] at hone
      by_cases hlast : adds = []
      · rw [hlast]
        exact hone
      · rw [exec_cons, ih (friendStep_spec hready e).1 hlast hasks.2, hone]
        -- a key that has been filled is not free any more
        split
        · rw [Option.or_assoc, Option.or_self]
        · rfl

end Frames

/-- **`friend_frames_insensitive`** — for every friends table, while statements succeed: requests
between two users, any number of them and in either direction, leave the table that any one of them
leaves, with every row there was as it was; an acceptance between the two is idempotent and leaves one
table whichever of them sends it; and friend frames between different pairs of users commute. -/
theorem friend_frames_insensitive [OpenSSL] (h : BusinessHandler) :
    (∀ u f : Int32, u ≠ f → ∀ (first : FriendFrame) (adds : List FriendFrame),
      Asks u f first.msg → adds ≠ [] → (∀ e ∈ adds, Asks u f e.msg) →
        SameFriends (exec friendStep h adds) (friendStep h first) ∧
        ∀ r ∈ h.db.tables.friends.rows, r ∈ (exec friendStep h adds).db.tables.friends.rows) ∧
    (∀ u f : Int32, u ≠ f → ∀ x y : FriendFrame, Accepts u f x.msg → Accepts u f y.msg →
        SameFriends (friendStep (friendStep h x) y) (friendStep h x) ∧
        SameFriends (friendStep h x) (friendStep h y)) ∧
    ∀ x y : FriendFrame, ¬Concerns x.msg.fromUserId x.msg.toUserId y.msg →
      SameFriends (friendStep (friendStep h x) y) (friendStep (friendStep h y) x) := by
  have hrefl : ∀ h : BusinessHandler, SameFriends h h := fun h r => Iff.rfl
  by_cases hready : h.db.Ready
  swap
  · -- nothing runs at all
    have hexec : ∀ es, exec friendStep h es = h := by
      intro es
      induction es with
      | nil => rfl
      | cons e es ih => rw [exec_cons, friendStep_of_not_ready hready, ih]
    simp only [hexec, friendStep_of_not_ready hready, hrefl, imp_self, implies_true, and_self]
  refine ⟨?_, ?_, ?_⟩
  · intro u f hne first adds hfirst hnonempty hadds
    have hexec : ∀ k, (exec friendStep h adds).db.tables.friends.lookup k = _ := fun k =>
      lookup_exec_asks hne hready hnonempty hadds
    refine ⟨Keyed.sameRows_iff.mpr fun k => ?_, ?_⟩
    · rw [hexec, lookup_friendStep hready, friendAct_asks hne hfirst]
    · intro r hr
      have hold := Keyed.lookup_eq_some.mpr ⟨hr, rfl⟩
      have hnew := hexec r.key
      rw [hold, Option.some_or, ite_self] at hnew
      exact (Keyed.lookup_eq_some.mp hnew).1
  · intro u f _ x y hx hy
    refine ⟨Keyed.sameRows_iff.mpr fun k => ?_, Keyed.sameRows_iff.mpr fun k => ?_⟩
    · rw [lookup_friendStep (friendStep_spec hready x).1, lookup_friendStep hready,
        friendAct_accepts hx, friendAct_accepts hy]
      split
      · rw [Option.map_map]
        rfl
      · rfl
    · rw [lookup_friendStep hready, lookup_friendStep hready, friendAct_accepts hx,
        friendAct_accepts hy]
  · intro x y hother
    refine Keyed.sameRows_iff.mpr fun k => ?_
    rw [lookup_friendStep (friendStep_spec hready x).1, lookup_friendStep hready,
      lookup_friendStep (friendStep_spec hready y).1, lookup_friendStep hready]
    -- the key is on at most one of the two pairs
    by_cases hx : OnPair x.msg.fromUserId x.msg.toUserId k
    · have hy : ¬OnPair y.msg.fromUserId y.msg.toUserId k := fun hy => hother (hx.unique hy)
      rw [friendAct_of_not_onPair hy, friendAct_of_not_onPair hy]
    · rw [friendAct_of_not_onPair hx, friendAct_of_not_onPair hx]

/-- User 3 asks user 4. -/
def othersAsk : FriendFrame :=
  ⟨.plain, 2, ⟨3, 4, .ADD_FRIEND, 0, [], 0⟩, Or.inl rfl, Env.plain_sqlSucceeds⟩

/-- User 1 asks user 2 twice, the acceptance arrives twice, and others ask in between. -/
theorem friend_frames_insensitive_twice :
    letI := OpenSSL.zero
    let h := start .empty 1
    let asked := friendStep h asks
    SameFriends (exec friendStep h [asks, asks]) asked ∧
      SameFriends (friendStep (friendStep asked accepts) accepts) (friendStep asked accepts) ∧
      SameFriends (friendStep (friendStep h asks) othersAsk) (friendStep (friendStep h othersAsk) asks) := by
  let _ := OpenSSL.zero
  intro h asked
  obtain ⟨hasks, -, hcommute⟩ := friend_frames_insensitive h
  obtain ⟨-, haccepts, -⟩ := friend_frames_insensitive asked
  refine ⟨?_, ?_, ?_⟩
  · refine (hasks 1 2 (by decide) asks [asks, asks] ⟨rfl, Or.inl ⟨rfl, rfl⟩⟩ (by simp) ?_).1
    intro e he
    rcases List.mem_cons.mp he with rfl | he
    · exact ⟨rfl, Or.inl ⟨rfl, rfl⟩⟩
    · rw [List.mem_singleton.mp he]
      exact ⟨rfl, Or.inl ⟨rfl, rfl⟩⟩
  · have hconfirms : Accepts 1 2 accepts.msg := ⟨rfl, rfl, Or.inl ⟨rfl, rfl⟩⟩
    exact (haccepts 1 2 (by decide) accepts accepts hconfirms hconfirms).1
  · refine hcommute asks othersAsk ?_
    rintro (⟨hfrom, -⟩ | ⟨hfrom, -⟩)
    · exact absurd hfrom (by decide)
    · exact absurd hfrom (by decide)

end BusinessHandler

/-! ## The two inserts of a request, whatever the calls return -/

namespace Database

/-- A row is stored for the direction. -/
def HasRow (t : Tables) (user_id friend_id : Bytes) : Prop :=
  ∃ r ∈ t.friends.rows, r.key = (cstr user_id, cstr friend_id)

/-- The result of `addFriend` is the truth about the table: after `false` nothing has changed, after
`true` both directions are stored and nothing else has changed. -/
def AllOrNothing (t : Tables) (user_id friend_id : Bytes) (success : Bool) (t' : Tables) : Prop :=
  (success = false → t'.friends = t.friends) ∧
  (success = true → HasRow t' user_id friend_id ∧ HasRow t' friend_id user_id ∧
    ∀ r : FriendRow, r.key ≠ (cstr user_id, cstr friend_id) → r.key ≠ (cstr friend_id, cstr user_id) →
      (r ∈ t'.friends.rows ↔ r ∈ t.friends.rows))

/-- The tables after one of the inserts was stepped. -/
def afterInsert (o : Outcome) (user_id friend_id : Bytes) (t : Tables) : Tables :=
  if o.step 0 then
    { t with friends := t.friends.insertOrIgnore ⟨cstr user_id, cstr friend_id, 0⟩ }
  else t

section AddFriend

variable {o o₁ o₂ : Outcome} {a b x y : Bytes} {t : Tables}

theorem stepDone_insertFriend (o : Outcome) (a b : Bytes) (t : Tables) :
    stepDone o (insertFriend a b) t = (o.step 0, afterInsert o a b t) := by
  unfold stepDone afterInsert
  cases o.step 0 with
  | true => rfl
  | false => rfl

theorem afterInsert_of_step (h : o.step 0 = true) : afterInsert o a b t =
    { t with friends := t.friends.insertOrIgnore ⟨cstr a, cstr b, 0⟩ } := by
  rw [afterInsert, if_pos h]

theorem afterInsert_of_not_step (h : o.step 0 = false) : afterInsert o a b t = t := by
  rw [afterInsert, h, if_neg Bool.false_ne_true]

/-- The exits of `addFriend` on an idle connection. -/
theorem ends_addFriend {conn : Conn} {rest : List Conn} {Q : Bool → Database → Prop}
    {E : Stop → Database → Prop} : Ends (addFriend o₁ o₂ a b) ⟨t, conn :: rest⟩ Q E ↔
      (o₁.prepare = false → Q false ⟨t, rest⟩) ∧
      (o₁.prepare = true →
        (o₂.prepare = false → Q false ⟨afterInsert o₁ a b t, rest⟩) ∧
        (o₂.prepare = true → Q (o₁.step 0 && o₂.step 0)
          ⟨afterInsert o₂ b a (afterInsert o₁ a b t), rest ++ [conn]⟩)) := by
  unfold addFriend
  rw [ends_bind]
  show Ends (if o₁.prepare = true then _ else _) _ Q E ↔ _
  rw [ends_ite, and_comm, Bool.not_eq_true]
  refine and_congr Iff.rfl (imp_congr_right fun _ => ?_)
  rw [ends_bind, ends_onTables, forall_ok_pair, stepDone_insertFriend, and_iff_left fun e he => nomatch he]
  show Ends (if o₂.prepare = true then _ else _) _ Q E ↔ _
  rw [ends_ite, and_comm, Bool.not_eq_true]
  refine and_congr Iff.rfl (imp_congr_right fun _ => ?_)
  rw [ends_bind, ends_onTables, forall_ok_pair, stepDone_insertFriend, and_iff_left fun e he => nomatch he]
  exact Iff.rfl

/-- An insert changes nothing exactly if it fails or finds its row. -/
theorem afterInsert_friends_eq : (afterInsert o a b t).friends = t.friends ↔
    (o.step 0 = true → HasRow t a b) := by
  cases hstep : o.step 0 with
  | false =>
      rw [afterInsert_of_not_step hstep]
      exact iff_of_true rfl fun h => nomatch h
  | true =>
      rw [afterInsert_of_step hstep]
      exact ⟨fun h _ => Keyed.insertOrIgnore_eq_self.mp h,
        fun h => Keyed.insertOrIgnore_eq_self.mpr (h rfl)⟩

/-- With both inserts done the result is the truth. -/
theorem allOrNothing_of_both (h₁ : o₁.step 0 = true) (h₂ : o₂.step 0 = true) :
    AllOrNothing t a b true (afterInsert o₂ b a (afterInsert o₁ a b t)) := by
  rw [afterInsert_of_step h₁, afterInsert_of_step h₂]
  refine ⟨fun h => (nomatch h), fun _ => ?_⟩
  -- the key of an inserted row is taken afterwards, and other keys are not touched
  have hfilled : ∀ (t : Keyed FriendRow FriendRow.key) (r : FriendRow),
      ∃ x ∈ (t.insertOrIgnore r).rows, x.key = r.key := by
    intro t r
    by_cases htaken : ∃ x ∈ t.rows, x.key = r.key
    · rw [Keyed.insertOrIgnore_eq_self.mpr htaken]
      exact htaken
    · exact ⟨r, Keyed.mem_insertOrIgnore.mpr (Or.inr ⟨rfl, fun y hy hk => htaken ⟨y, hy, hk⟩⟩), rfl⟩
  refine ⟨?_, hfilled _ _, ?_⟩
  · obtain ⟨r, hr, hk⟩ := hfilled t.friends ⟨cstr a, cstr b, 0⟩
    exact ⟨r, Keyed.mem_insertOrIgnore.mpr (Or.inl hr), hk⟩
  · intro r hab hba
    rw [Keyed.mem_insertOrIgnore, Keyed.mem_insertOrIgnore]
    constructor
    · rintro ((hr | ⟨rfl, -⟩) | ⟨rfl, -⟩)
      · exact hr
      · exact absurd rfl hab
      · exact absurd rfl hba
    · intro hr
      exact Or.inl (Or.inl hr)

/-- Without an insert that went through the result is the truth if the other changed nothing. -/
theorem allOrNothing_false_iff {t' : Tables} : AllOrNothing t a b false t' ↔ t'.friends = t.friends :=
  ⟨fun h => h.1 rfl, fun h => ⟨fun _ => h, fun hsuccess => nomatch hsuccess⟩⟩

end AddFriend

/-- **`addFriend_atomic_iff`** — for every friends table, two ids and the outcomes of the four SQLite
calls, `addFriend` is atomic exactly if both inserts go through, or each of them that goes through
finds its row already there. -/
theorem addFriend_atomic_iff (o₁ o₂ : Outcome) (user_id friend_id : Bytes) (t : Tables) (conn : Conn)
    (rest : List Conn) :
    Ends (addFriend o₁ o₂ user_id friend_id) ⟨t, conn :: rest⟩
        (fun success db => AllOrNothing t user_id friend_id success db.tables) (fun _ _ => False) ↔
      (o₁.prepare ∧ o₁.step 0 ∧ o₂.prepare ∧ o₂.step 0) ∨
        (o₁.prepare ∧ o₁.step 0 → HasRow t user_id friend_id) ∧
        (o₁.prepare ∧ o₂.prepare ∧ o₂.step 0 → HasRow t friend_id user_id) := by
  rw [ends_addFriend]
  cases hprepare₁ : o₁.prepare with
  | false => simp [allOrNothing_false_iff]
  | true =>
      cases hprepare₂ : o₂.prepare with
      | false => simp [allOrNothing_false_iff, afterInsert_friends_eq]
      | true =>
          cases hstep₁ : o₁.step 0 with
          | false =>
              -- the first insert failed, and the second one was tried all the same
              simp [allOrNothing_false_iff, afterInsert_of_not_step hstep₁, afterInsert_friends_eq]
          | true =>
              cases hstep₂ : o₂.step 0 with
              | false =>
                  simp [allOrNothing_false_iff, afterInsert_of_not_step hstep₂,
                    afterInsert_friends_eq, hstep₁]
              | true => simp [allOrNothing_of_both hstep₁ hstep₂]

/-- The second statement cannot be prepared: the request is refused, and half of it is stored. -/
theorem addFriend_half_stored : ¬∀ (o₁ o₂ : Outcome) (user_id friend_id : Bytes) (t : Tables)
    (conn : Conn) (rest : List Conn), user_id ≠ friend_id →
      Ends (addFriend o₁ o₂ user_id friend_id) ⟨t, conn :: rest⟩
        (fun success db => AllOrNothing t user_id friend_id success db.tables)
        (fun _ _ => False) := by
  intro hall
  have hends := hall .good .unprepared (str "1") (str "2") .empty 0 [] (by decide)
  obtain ⟨-, hrefused⟩ := ends_addFriend.mp hends
  have hsame := (hrefused rfl).1 rfl
  rw [allOrNothing_false_iff, afterInsert_friends_eq] at hsame
  obtain ⟨r, hr, -⟩ := hsame rfl
  exact absurd hr List.not_mem_nil

end Database

end TinyIM
