/-
# FriendHistory — the friends table is its history

Which rows the friends table holds, and with which status, is a function of the friend frames handled
so far. A row `(a, b)` is there since an `ADD_FRIEND` between the two users that no rejection of `a` by
`b` has followed, and it is accepted since an accepting answer between them while it was there. The two
rows of a pair are created together, but each is deleted by the other user's rejection alone, so each
has a history of its own.
-/
import TinyIM.Friends

namespace TinyIM

open TinyIM.Lib TinyIM.Lib.Text TinyIM.Lib.Table TinyIM.Lib.Runs TinyIM.Lib.Stops

namespace BusinessHandler

/-! ## The frames between two users -/

/-- The frame is between the two users, in either direction. -/
def Concerns (a b : Int32) (msg : Message) : Prop :=
  msg.fromUserId = a ∧ msg.toUserId = b ∨ msg.fromUserId = b ∧ msg.toUserId = a

/-- One of the two asks the other. -/
def Asks (a b : Int32) (msg : Message) : Prop :=
  msg.messageType = .ADD_FRIEND ∧ Concerns a b msg

/-- One of the two accepts the other. -/
def Accepts (a b : Int32) (msg : Message) : Prop :=
  msg.messageType = .FRIEND_REQUEST_RESPONSE ∧ msg.content = str "accept" ∧ Concerns a b msg

/-- `b` rejects `a`. -/
def Rejects (a b : Int32) (msg : Message) : Prop :=
  msg.messageType = .FRIEND_REQUEST_RESPONSE ∧ msg.content = str "reject" ∧
    msg.fromUserId = b ∧ msg.toUserId = a

/-- An `ADD_FRIEND` between the two was handled after the last rejection of `a` by `b`. -/
def Requested (a b : Int32) (es : List FriendFrame) : Prop :=
  Since (fun _ f => Asks a b f.msg) (fun f => Rejects a b f.msg) es

/-- An accepting answer between the two was handled after the first of the `ADD_FRIEND`s between them
that no rejection of `a` by `b` has followed. -/
def Confirmed (a b : Int32) (es : List FriendFrame) : Prop :=
  Since (fun pre f => Accepts a b f.msg ∧ Requested a b pre) (fun f => Rejects a b f.msg) es

/-- The rows of the pair `(a, b)` that the history calls for. -/
def Recorded (es : List FriendFrame) (a b : Int32) (status : Nat) : Prop :=
  a ≠ b ∧ Requested a b es ∧ (status = 1 ∧ Confirmed a b es ∨ status = 0 ∧ ¬Confirmed a b es)

section History

variable {es : List FriendFrame} {f : FriendFrame} {a b : Int32}

theorem requested_concat : Requested a b (es ++ [f]) ↔
    Asks a b f.msg ∨ Requested a b es ∧ ¬Rejects a b f.msg :=
  since_concat (P := fun (_ : List FriendFrame) f => Asks a b f.msg)
    (Q := fun f => Rejects a b f.msg)

theorem confirmed_concat : Confirmed a b (es ++ [f]) ↔
    (Accepts a b f.msg ∧ Requested a b es) ∨ Confirmed a b es ∧ ¬Rejects a b f.msg :=
  since_concat (P := fun (pre : List FriendFrame) f => Accepts a b f.msg ∧ Requested a b pre)
    (Q := fun f => Rejects a b f.msg)

/-- What is confirmed was requested. -/
theorem Confirmed.requested (h : Confirmed a b es) : Requested a b es := by
  induction es using List.reverseRecOn with
  | nil => exact absurd h not_since_nil
  | append_singleton es f ih =>
      rw [requested_concat]
      rcases confirmed_concat.mp h with ⟨haccepts, hrequested⟩ | ⟨hconfirmed, hrejects⟩
      · refine Or.inr ⟨hrequested, ?_⟩
        rintro ⟨-, hreject, -⟩
        exact absurd (haccepts.2.1.symm.trans hreject) (by decide)
      · exact Or.inr ⟨ih hconfirmed, hrejects⟩

end History

/-! ## The rows of a pair -/

/-- The row `(a, b)` with a status. -/
def pairRow (a b : Int32) (status : Nat) : FriendRow := ⟨to_string a, to_string b, status⟩

theorem pairRow_inj {a b x y : Int32} {st st' : Nat} :
    pairRow a b st = pairRow x y st' ↔ a = x ∧ b = y ∧ st = st' := by
  simp only [pairRow, FriendRow.mk.injEq, to_string_inj]

section Rows

variable {t : Tables} {msg : Message} {a b : Int32} {st : Nat}

/-- No row of the pair is stored. -/
theorem forall_key_ne_iff : (∀ r ∈ t.friends.rows, r.key ≠ (to_string a, to_string b)) ↔
    ∀ st, pairRow a b st ∉ t.friends.rows := by
  constructor
  · intro h st hr
    exact h _ hr rfl
  · rintro h ⟨user_id, friend_id, status⟩ hr hkey
    obtain ⟨rfl, rfl⟩ := Prod.mk.inj hkey
    exact h status hr

/-- A request adds the row unless there is one. -/
theorem mem_of_asks (hne : a ≠ b) (hasks : Asks a b msg) :
    pairRow a b st ∈ (friendTables t msg).friends.rows ↔
      pairRow a b st ∈ t.friends.rows ∨ st = 0 ∧ ∀ st', pairRow a b st' ∉ t.friends.rows := by
  obtain ⟨hty, hconcerns⟩ := hasks
  have hself : msg.fromUserId ≠ msg.toUserId := by
    rcases hconcerns with ⟨hfrom, hto⟩ | ⟨hfrom, hto⟩
    · rw [hfrom, hto]
      exact hne
    · rw [hfrom, hto]
      exact hne.symm
  have hrow : ∀ x y : Int32, pairRow a b st = ⟨to_string x, to_string y, 0⟩ ↔
      a = x ∧ b = y ∧ st = 0 := fun x y => pairRow_inj
  unfold friendTables
  rw [if_pos hty, if_neg hself, Tables.mem_requested_requested hself, hrow, hrow,
    forall_key_ne_iff, forall_key_ne_iff]
  rcases hconcerns with ⟨rfl, rfl⟩ | ⟨rfl, rfl⟩
  · simp only [true_and, hself, false_and, or_false]
  · simp only [true_and, Ne.symm hself, false_and, false_or]

theorem kind_of_response (hty : msg.messageType = .FRIEND_REQUEST_RESPONSE) :
    msg.messageType ≠ .ADD_FRIEND := by
  rw [hty]
  exact MessageType.noConfusion

/-- A rejection of `a` by `b` deletes the row. -/
theorem notMem_of_rejects (hrejects : Rejects a b msg) :
    pairRow a b st ∉ (friendTables t msg).friends.rows := by
  obtain ⟨hty, hcontent, rfl, rfl⟩ := hrejects
  unfold friendTables
  rw [if_neg (kind_of_response hty), if_pos hcontent, Tables.mem_rejected]
  exact fun h => h.2 ⟨rfl, rfl⟩

/-- An acceptance sets the status of the row, if there is one. -/
theorem mem_of_accepts (haccepts : Accepts a b msg) :
    pairRow a b st ∈ (friendTables t msg).friends.rows ↔
      st = 1 ∧ ∃ st', pairRow a b st' ∈ t.friends.rows := by
  obtain ⟨hty, hcontent, hconcerns⟩ := haccepts
  have hnot : msg.content ≠ str "reject" := by
    rw [hcontent]
    decide
  unfold friendTables
  rw [if_neg (kind_of_response hty), if_neg hnot, if_pos hcontent, Tables.mem_accepted]
  have hpair : ∀ st', (pairRow a b st').user_id = to_string msg.toUserId ∧
        (pairRow a b st').friend_id = to_string msg.fromUserId ∨
      (pairRow a b st').friend_id = to_string msg.toUserId ∧
        (pairRow a b st').user_id = to_string msg.fromUserId := by
    intro st'
    rcases hconcerns with ⟨rfl, rfl⟩ | ⟨rfl, rfl⟩
    · exact Or.inr ⟨rfl, rfl⟩
    · exact Or.inl ⟨rfl, rfl⟩
  constructor
  · rintro ⟨r, hr, heq⟩
    split at heq
    · obtain ⟨user_id, friend_id, status⟩ := r
      obtain ⟨huser, hfriend, hstatus⟩ := FriendRow.mk.inj heq
      refine ⟨hstatus, status, ?_⟩
      rw [pairRow, huser, hfriend]
      exact hr
    · rename_i hother
      rw [← heq] at hother
      exact absurd (hpair st) hother
  · rintro ⟨rfl, st', hr⟩
    exact ⟨_, hr, (if_pos (hpair st')).symm⟩

/-- Any other frame leaves the row as it is. -/
theorem mem_of_other (hkind : msg.messageType = .ADD_FRIEND ∨
      msg.messageType = .FRIEND_REQUEST_RESPONSE) (hne : a ≠ b) (hasks : ¬Asks a b msg)
    (haccepts : ¬Accepts a b msg) (hrejects : ¬Rejects a b msg) :
    pairRow a b st ∈ (friendTables t msg).friends.rows ↔ pairRow a b st ∈ t.friends.rows := by
  -- a request and a response find the row by its two ids only
  unfold friendTables
  rcases hkind with hty | hty
  · rw [if_pos hty]
    have hconcerns : ¬Concerns a b msg := fun h => hasks ⟨hty, h⟩
    split
    · rfl
    · rename_i hself
      have hrow : ∀ x y : Int32, pairRow a b st = ⟨to_string x, to_string y, 0⟩ ↔
          a = x ∧ b = y ∧ st = 0 := fun x y => pairRow_inj
      rw [Tables.mem_requested_requested hself, hrow, hrow]
      constructor
      · rintro (hr | ⟨⟨rfl, rfl, -⟩, -⟩ | ⟨⟨rfl, rfl, -⟩, -⟩)
        · exact hr
        · exact absurd (Or.inl ⟨rfl, rfl⟩) hconcerns
        · exact absurd (Or.inr ⟨rfl, rfl⟩) hconcerns
      · exact Or.inl
  · rw [if_neg (kind_of_response hty)]
    split
    · rename_i hcontent
      rw [Tables.mem_rejected, and_iff_left_iff_imp]
      rintro - ⟨huser, hfriend⟩
      exact hrejects ⟨hty, hcontent, (to_string_inj.mp hfriend).symm, (to_string_inj.mp huser).symm⟩
    · split
      · rename_i hcontent
        have hconcerns : ¬Concerns a b msg := fun h => haccepts ⟨hty, hcontent, h⟩
        have hpair : ∀ st', ¬((pairRow a b st').user_id = to_string msg.toUserId ∧
              (pairRow a b st').friend_id = to_string msg.fromUserId ∨
            (pairRow a b st').friend_id = to_string msg.toUserId ∧
              (pairRow a b st').user_id = to_string msg.fromUserId) := by
          rintro st' (⟨huser, hfriend⟩ | ⟨hfriend, huser⟩)
          · exact hconcerns (Or.inr ⟨(to_string_inj.mp hfriend).symm, (to_string_inj.mp huser).symm⟩)
          · exact hconcerns (Or.inl ⟨(to_string_inj.mp huser).symm, (to_string_inj.mp hfriend).symm⟩)
        rw [Tables.mem_accepted]
        constructor
        · rintro ⟨r, hr, heq⟩
          split at heq
          · rename_i hmatch
            -- a row of another pair keeps its key
            obtain ⟨user_id, friend_id, status⟩ := r
            obtain ⟨rfl, rfl, -⟩ := FriendRow.mk.inj heq
            exact absurd hmatch (hpair status)
          · rw [heq]
            exact hr
        · intro hr
          exact ⟨_, hr, (if_neg (hpair st)).symm⟩
      · rfl

end Rows

/-! ## Runs -/

/-- A pair has a row exactly if it was requested. -/
theorem exists_recorded {es : List FriendFrame} {a b : Int32} (hne : a ≠ b) :
    (∃ st, Recorded es a b st) ↔ Requested a b es := by
  constructor
  · rintro ⟨st, -, hrequested, -⟩
    exact hrequested
  · intro hrequested
    by_cases hconfirmed : Confirmed a b es
    · exact ⟨1, hne, hrequested, Or.inl ⟨rfl, hconfirmed⟩⟩
    · exact ⟨0, hne, hrequested, Or.inr ⟨rfl, hconfirmed⟩⟩

/-- The rows of a pair after one more frame are those the longer history calls for. -/
theorem recorded_concat {t : Tables} {es : List FriendFrame} {f : FriendFrame} {a b : Int32}
    (hne : a ≠ b) (hes : ∀ st, pairRow a b st ∈ t.friends.rows ↔ Recorded es a b st) (st : Nat) :
    pairRow a b st ∈ (friendTables t f.msg).friends.rows ↔ Recorded (es ++ [f]) a b st := by
  have hexists : (∃ st, Recorded es a b st) ↔ Requested a b es := exists_recorded hne
  have hrequested : Confirmed a b es → Requested a b es := Confirmed.requested
  have hrow : Recorded es a b st ↔
      Requested a b es ∧ (st = 1 ∧ Confirmed a b es ∨ st = 0 ∧ ¬Confirmed a b es) :=
    and_iff_right hne
  rw [Recorded, requested_concat, confirmed_concat, and_iff_right hne]
  by_cases hasks : Asks a b f.msg
  · have hnot : ¬Accepts a b f.msg ∧ ¬Rejects a b f.msg :=
      ⟨fun h => kind_of_response h.1 hasks.1, fun h => kind_of_response h.1 hasks.1⟩
    rw [mem_of_asks hne hasks]
    simp only [hes, ← not_exists, hexists, hrow, hasks, hnot.1, hnot.2, true_or, false_and, false_or,
      not_false_eq_true, and_true, true_and]
    -- a row that is there stays; a new one is pending, and nothing is confirmed yet
    by_cases hr : Requested a b es
    · simp only [hr, true_and, not_true, and_false, or_false]
    · simp only [hr, mt hrequested hr, false_and, false_or, and_false, not_false_eq_true, and_true]
  · by_cases hrejects : Rejects a b f.msg
    · refine iff_of_false (notMem_of_rejects hrejects) ?_
      simp only [hasks, hrejects, not_true, and_false, or_self, false_and, not_false_eq_true]
    · by_cases haccepts : Accepts a b f.msg
      · rw [mem_of_accepts haccepts]
        simp only [hes, hexists, hasks, haccepts, hrejects, true_and, false_or, not_false_eq_true,
          and_true]
        by_cases hr : Requested a b es
        · simp only [hr, true_or, and_true, not_true, and_false, or_false, true_and]
        · simp only [hr, and_false, false_and]
      · rw [mem_of_other f.kind hne hasks haccepts hrejects, hes, hrow]
        simp only [hasks, haccepts, hrejects, false_or, false_and, not_false_eq_true, and_true]

/-- **`friends_are_history`** — after every run of friend frames from an empty friends table, every row
belongs to a pair of users; a pair has a row exactly if its users differ and one of them asked the
other after the last rejection of that row; it has no second one; and the row is accepted exactly if
one of the two accepted the other since the first of those requests, and pending otherwise. -/
theorem friends_are_history [OpenSSL] (tables : Tables) (hempty : tables.friends.rows = [])
    {pool_size : Nat} (hsize : 1 ≤ pool_size) (es : List FriendFrame) :
    let rows := (exec friendStep (start tables pool_size) es).db.tables.friends.rows
    (∀ r ∈ rows, ∃ a b, r = pairRow a b r.status) ∧
    ∀ a b : Int32,
      ((∃ st, pairRow a b st ∈ rows) ↔ a ≠ b ∧ Requested a b es) ∧
      (rows.filter fun r => r.key = (to_string a, to_string b)).length ≤ 1 ∧
      ∀ st, pairRow a b st ∈ rows →
        (st = 1 ↔ Confirmed a b es) ∧ (st = 0 ↔ ¬Confirmed a b es) := by
  intro rows
  have hok : FriendsOk (start tables pool_size) := by
    refine ⟨ready_start hsize, ?_⟩
    intro r hr
    exact absurd hr (hempty ▸ List.not_mem_nil)
  have hrun : FriendsOk (exec friendStep (start tables pool_size) es) ∧
      ∀ a b, a ≠ b → ∀ st, pairRow a b st ∈ rows ↔ Recorded es a b st := by
    refine exec_history (R := fun es (h : BusinessHandler) => FriendsOk h ∧ ∀ a b, a ≠ b → ∀ st,
      pairRow a b st ∈ h.db.tables.friends.rows ↔ Recorded es a b st) ⟨hok, ?_⟩ ?_ es
    · intro a b _ st
      refine iff_of_false ?_ fun hrecorded => not_since_nil hrecorded.2.1
      show pairRow a b st ∉ tables.friends.rows
      rw [hempty]
      exact List.not_mem_nil
    · rintro es f ⟨hok, hes⟩
      refine ⟨friendsOk_step _ f hok, ?_⟩
      intro a b hne st
      rw [(friendStep_spec hok.1 f).2]
      exact recorded_concat hne (hes a b hne) st
  refine ⟨?_, ?_⟩
  · intro r hr
    obtain ⟨a, b, -, hone, htwo⟩ := hrun.1.2 r hr
    exact ⟨a, b, by rw [pairRow, ← hone, ← htwo]⟩
  · intro a b
    refine ⟨?_, ?_, ?_⟩
    · by_cases hne : a = b
      · refine iff_of_false ?_ fun h => h.1 hne
        rintro ⟨st, hr⟩
        obtain ⟨x, y, hxy, hx, hy⟩ := hrun.1.2 _ hr
        exact hxy ((to_string_inj.mp hx).symm.trans (hne.trans (to_string_inj.mp hy)))
      · simp only [hrun.2 a b hne, exists_recorded hne, ne_eq, hne, not_false_eq_true, true_and]
    · exact Keyed.length_filter_key_le_one _ _
    · intro st hr
      by_cases hne : a = b
      · obtain ⟨x, y, hxy, hx, hy⟩ := hrun.1.2 _ hr
        exact absurd ((to_string_inj.mp hx).symm.trans (hne.trans (to_string_inj.mp hy))) hxy
      · obtain ⟨-, -, ⟨rfl, hconfirmed⟩ | ⟨rfl, hconfirmed⟩⟩ := (hrun.2 a b hne st).mp hr
        · simp [hconfirmed]
        · simp [hconfirmed]

/-- User 1 accepts. -/
def accepts : FriendFrame :=
  ⟨.plain, 0, ⟨1, 2, .FRIEND_REQUEST_RESPONSE, 0, str "accept", 0⟩, Or.inr rfl,
    Env.plain_sqlSucceeds⟩

/-- User 1 asks and accepts the request itself, user 2 rejects it: the row of user 1 is gone, and that
of user 2 stays accepted. -/
theorem friends_are_history_one_sided :
    letI := OpenSSL.zero
    (∃ st, pairRow 2 1 st ∈ (exec friendStep (start .empty 1)
      [asks, accepts, declines]).db.tables.friends.rows) ∧ Requested 2 1 [asks, accepts, declines] := by
  let _ := OpenSSL.zero
  have hrow : ∃ st, pairRow 2 1 st ∈ (exec friendStep (start .empty 1)
      [asks, accepts, declines]).db.tables.friends.rows := ⟨1, by decide⟩
  exact ⟨hrow, (((friends_are_history .empty rfl (Nat.le_refl 1)
    [asks, accepts, declines]).2 2 1).1.mp hrow).2⟩

end BusinessHandler

end TinyIM
