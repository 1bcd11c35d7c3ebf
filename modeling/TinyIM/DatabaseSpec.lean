/-
# DatabaseSpec — what the operations do, for every outcome and for the good one

Two rules each for the two shapes an operation has. The `_any` rule covers every outcome of the SQLite
calls: a writing statement either writes or leaves the tables alone, a reading one sees some of the
selected rows or none, and what becomes of the pool is left open. The `_ok` rule is for statements
that succeed on a pool with an idle connection: the write happens, the read sees exactly the selected
rows in some order, and there is an idle connection again.
-/
import TinyIM.BusinessHandler

namespace TinyIM

open TinyIM.Lib TinyIM.Lib.Text TinyIM.Lib.Table TinyIM.Lib.Stops

/-! ## What the operations write -/

/-- The row `registerUser` inserts. -/
def UserRow.new [OpenSSL] (env : Env) (password username : Bytes) : UserRow :=
  ⟨cstr (Database.generateUUID env), cstr username,
    cstr (Database.hashPassword password (Database.generateSalt env)),
    cstr (Database.generateSalt env)⟩

/-- The row `storeMessage` inserts for a chat frame. -/
def MessageRow.new (env : Env) (msg : Message) (id : Nat) : MessageRow :=
  ⟨id, to_string msg.fromUserId, to_string msg.toUserId, messageTypeToString .TEXT,
    cstr msg.content, env.now.toInt⟩

namespace Tables

/-- The tables after one more user, or `none` when the id is taken. -/
def registered (t : Tables) (r : UserRow) : Option Tables :=
  (t.users.insert r).map fun users => { t with users := users }

/-- The tables after one more chat message. -/
def stored (t : Tables) (env : Env) (msg : Message) : Tables :=
  { t with messages := t.messages.append (MessageRow.new env msg) fun _ => rfl }

/-- The tables after `INSERT OR IGNORE` of one direction of a request. -/
def requested (t : Tables) (a b : Int32) : Tables :=
  { t with friends := t.friends.insertOrIgnore ⟨to_string a, to_string b, 0⟩ }

/-- The tables after `a`'s request to `b` was accepted. -/
def accepted (t : Tables) (a b : Int32) : Tables :=
  { t with
    friends := t.friends.updateWhere
      (fun r => (r.user_id = to_string a ∧ r.friend_id = to_string b) ∨
        (r.friend_id = to_string a ∧ r.user_id = to_string b))
      (fun r => { r with status := 1 }) FriendRow.key_accepted }

/-- The tables after `a`'s request to `b` was rejected. -/
def rejected (t : Tables) (a b : Int32) : Tables :=
  { t with
    friends := t.friends.deleteWhere fun r =>
      r.user_id = to_string a ∧ r.friend_id = to_string b }

/-- An id that nobody has can be given to a user. -/
theorem exists_registered {t : Tables} {r : UserRow}
    (hfree : ∀ x ∈ t.users.rows, x.user_id ≠ r.user_id) : ∃ t', t.registered r = some t' := by
  cases hins : t.users.insert r with
  | none =>
      obtain ⟨x, hx, hid⟩ := Keyed.insert_eq_none.mp hins
      exact absurd hid (hfree x hx)
  | some users => exact ⟨{ t with users := users }, by rw [registered, hins, Option.map_some]⟩

section Friends

variable {t : Tables} {a b : Int32} {r : FriendRow}

theorem mem_requested : r ∈ (t.requested a b).friends.rows ↔
    r ∈ t.friends.rows ∨ (r = ⟨to_string a, to_string b, 0⟩ ∧
      ∀ r' ∈ t.friends.rows, r'.key ≠ (to_string a, to_string b)) := Keyed.mem_insertOrIgnore

theorem mem_accepted : r ∈ (t.accepted a b).friends.rows ↔
    ∃ r' ∈ t.friends.rows, r = if (r'.user_id = to_string a ∧ r'.friend_id = to_string b) ∨
      (r'.friend_id = to_string a ∧ r'.user_id = to_string b) then { r' with status := 1 } else r' := by
  refine (Keyed.mem_updateWhere FriendRow.key_accepted).trans ?_
  simp only [decide_eq_true_eq]

theorem mem_rejected : r ∈ (t.rejected a b).friends.rows ↔
    r ∈ t.friends.rows ∧ ¬(r.user_id = to_string a ∧ r.friend_id = to_string b) := by
  refine Keyed.mem_deleteWhere.trans ?_
  rw [decide_eq_false_iff_not]

end Friends

end Tables

namespace Database

variable {α Row : Type} {o : Outcome} {failed : α} {db : Database}
  {Q : α → Database → Prop} {E : Stop → Database → Prop}

/-- There is an idle connection. -/
def Ready (db : Database) : Prop := db.connection_pool ≠ []

/-! ## One statement on one connection -/

@[simp] theorem ends_onTables {run : Tables → Except Exn (α × Tables)} :
    Ends (onTables run) db Q E ↔
      (∀ a t, run db.tables = .ok (a, t) → Q a ⟨t, db.connection_pool⟩) ∧
        ∀ e, run db.tables = .error e → E (.exn e) db := by
  unfold Ends onTables
  cases hrun : run db.tables with
  | ok r =>
      constructor
      · intro h
        refine ⟨?_, fun e he => (nomatch he)⟩
        intro a t heq
        rw [Except.ok.inj heq] at h
        exact h
      · intro h
        exact h.1 r.1 r.2 rfl
  | error e =>
      constructor
      · intro h
        refine ⟨fun a t heq => (nomatch heq), ?_⟩
        intro e' heq
        rw [← Except.error.inj heq]
        exact h
      · intro h
        exact h.2 e rfl

/-- The exits of `withStatement`: the wait on an empty pool, the failed `prepare` and the exception,
both one connection short, and the regular one. -/
theorem ends_withStatement {run : Tables → Except Exn (α × Tables)} :
    Ends (withStatement o failed run) db Q E ↔
      (db.connection_pool = [] → E .wait db) ∧
      ∀ conn rest, db.connection_pool = conn :: rest →
        (o.prepare = false → Q failed ⟨db.tables, rest⟩) ∧
        (o.prepare = true →
          (∀ a t, run db.tables = .ok (a, t) → Q a ⟨t, rest ++ [conn]⟩) ∧
          ∀ e, run db.tables = .error e → E (.exn e) ⟨db.tables, rest⟩) := by
  obtain ⟨tables, pool⟩ := db
  cases pool with
  | nil =>
      constructor
      · intro h
        exact ⟨fun _ => h, fun _ _ hc => nomatch hc⟩
      · intro h
        exact h.1 rfl
  | cons conn rest =>
      have hpool : ∀ (P : Conn → List Conn → Prop),
          (∀ c r, conn :: rest = c :: r → P c r) ↔ P conn rest := by
        intro P
        constructor
        · intro h
          exact h conn rest rfl
        · rintro h c r heq
          obtain ⟨rfl, rfl⟩ := List.cons.inj heq
          exact h
      simp only [hpool, reduceCtorEq, false_imp_iff, true_and]
      unfold withStatement
      rw [ends_bind]
      show Ends (if o.prepare = true then _ else _) _ Q E ↔ _
      rw [ends_ite, and_comm, Bool.not_eq_true]
      refine and_congr Iff.rfl (imp_congr_right fun _ => ?_)
      rw [ends_bind, ends_onTables]
      exact Iff.rfl

/-- What follows from a result is what holds of its parts. -/
theorem forall_ok_pair {β : Type} {x : α × β} {P : α → β → Prop} :
    (∀ a b, (Except.ok x : Except Exn (α × β)) = .ok (a, b) → P a b) ↔ P x.1 x.2 := by
  constructor
  · intro h
    exact h x.1 x.2 rfl
  · intro h a b heq
    rw [Except.ok.inj heq] at h
    exact h

/-- The exits of an operation of one statement that cannot throw. -/
theorem ends_withStatement_total {f : Tables → α × Tables} :
    Ends (withStatement o failed fun tables => .ok (f tables)) db Q E ↔
      (db.connection_pool = [] → E .wait db) ∧
      ∀ conn rest, db.connection_pool = conn :: rest →
        (o.prepare = false → Q failed ⟨db.tables, rest⟩) ∧
        (o.prepare = true → Q (f db.tables).1 ⟨(f db.tables).2, rest ++ [conn]⟩) := by
  rw [ends_withStatement]
  refine and_congr Iff.rfl (forall_congr' fun conn => forall_congr' fun rest =>
    imp_congr_right fun _ => and_congr Iff.rfl (imp_congr_right fun _ => ?_))
  rw [forall_ok_pair, and_iff_left fun e he => nomatch he]

/-- Any outcome of an operation of one statement. -/
theorem ends_withStatement_any {run : Tables → Except Exn (α × Tables)}
    (hwait : E .wait db) (hfailed : ∀ pool, Q failed ⟨db.tables, pool⟩)
    (hrun : ∀ a t pool, run db.tables = .ok (a, t) → Q a ⟨t, pool⟩)
    (hthrow : ∀ e pool, run db.tables = .error e → E (.exn e) ⟨db.tables, pool⟩) :
    Ends (withStatement o failed run) db Q E := by
  rw [ends_withStatement]
  refine ⟨fun _ => hwait, ?_⟩
  intro conn rest _
  refine ⟨fun _ => hfailed rest, fun _ => ⟨?_, ?_⟩⟩
  · intro a t hr
    exact hrun a t _ hr
  · intro e hr
    exact hthrow e rest hr

/-- Without an idle connection an operation of one statement waits. -/
theorem ends_withStatement_of_not_ready {run : Tables → Except Exn (α × Tables)} (hready : ¬db.Ready)
    (hwait : E .wait db) : Ends (withStatement o failed run) db Q E := by
  rw [ends_withStatement]
  refine ⟨fun _ => hwait, ?_⟩
  intro conn rest hpool
  have hidle : db.Ready := by
    rw [Ready, hpool]
    exact List.cons_ne_nil _ _
  exact absurd hidle hready

/-- The good outcome of an operation of one statement. -/
theorem ends_withStatement_ok {run : Tables → Except Exn (α × Tables)} {a : α} {t : Tables}
    (ho : o.Succeeds) (hready : db.Ready) (hrun : run db.tables = .ok (a, t))
    (hQ : ∀ pool, pool ≠ [] → Q a ⟨t, pool⟩) : Ends (withStatement o failed run) db Q E := by
  rw [ends_withStatement]
  refine ⟨fun h => absurd h hready, ?_⟩
  intro conn rest _
  refine ⟨fun h => ?_, fun _ => ⟨?_, ?_⟩⟩
  · rw [ho.1] at h
    cases h
  · intro a' t' hr
    rw [hrun] at hr
    obtain ⟨rfl, rfl⟩ := Prod.mk.inj (Except.ok.inj hr)
    exact hQ _ (by simp)
  · intro e hr
    rw [hrun] at hr
    cases hr

/-! ## Writing statements -/

variable {write : Tables → Option Tables} {tables : Tables}

/-- A step of a writing statement writes and says so, or does neither. -/
theorem stepDone_cases (o : Outcome) (write : Tables → Option Tables) (tables : Tables) :
    (stepDone o write tables).1 = false ∧ (stepDone o write tables).2 = tables ∨
    (stepDone o write tables).1 = true ∧ write tables = some (stepDone o write tables).2 := by
  unfold stepDone
  split
  · cases hw : write tables with
    | none => exact Or.inl ⟨rfl, rfl⟩
    | some t => exact Or.inr ⟨rfl, rfl⟩
  · exact Or.inl ⟨rfl, rfl⟩

theorem stepDone_ok {t : Tables} (ho : o.Succeeds) (hw : write tables = some t) :
    stepDone o write tables = (true, t) := by
  simp only [stepDone, ho.2, if_true, hw]

theorem ends_writing_any {Q : Bool → Database → Prop} (hwait : E .wait db)
    (hnot : ∀ pool, Q false ⟨db.tables, pool⟩)
    (hdone : ∀ t pool, write db.tables = some t → Q true ⟨t, pool⟩) :
    Ends (writing o write) db Q E := by
  refine ends_withStatement_any hwait hnot ?_ fun _ _ h => nomatch h
  intro a t pool h
  have hs := Except.ok.inj h
  rcases stepDone_cases o write db.tables with ⟨h1, h2⟩ | ⟨h1, h2⟩
  · rw [hs] at h1 h2
    subst h1 h2
    exact hnot pool
  · rw [hs] at h1 h2
    subst h1
    exact hdone t pool h2

theorem ends_writing_ok {Q : Bool → Database → Prop} {t : Tables} (ho : o.Succeeds)
    (hready : db.Ready) (hw : write db.tables = some t)
    (hQ : ∀ pool, pool ≠ [] → Q true ⟨t, pool⟩) : Ends (writing o write) db Q E :=
  ends_withStatement_ok ho hready (congrArg Except.ok (stepDone_ok ho hw)) hQ

/-! ## Reading statements -/

variable {rows : Tables → List Row} {convert : List Row → Except Exn α}

theorem ends_reading_any (hwait : E .wait db) (hfailed : ∀ pool, Q failed ⟨db.tables, pool⟩)
    (hread : ∀ rs a pool, (∀ r ∈ rs, r ∈ rows db.tables) → convert rs = .ok a →
      Q a ⟨db.tables, pool⟩)
    (hthrow : ∀ rs e pool, (∀ r ∈ rs, r ∈ rows db.tables) → convert rs = .error e →
      E (.exn e) ⟨db.tables, pool⟩) :
    Ends (reading o failed rows convert) db Q E := by
  have hsub : ∀ r ∈ fetch o.step 0 (reorder o.order (rows db.tables)), r ∈ rows db.tables := by
    intro r hr
    exact mem_reorder.mp (mem_of_mem_fetch hr)
  refine ends_withStatement_any hwait hfailed ?_ ?_
  · intro a t pool h
    cases hc : convert (fetch o.step 0 (reorder o.order (rows db.tables))) with
    | error e =>
        rw [hc] at h
        cases h
    | ok b =>
        rw [hc] at h
        obtain ⟨rfl, rfl⟩ := Prod.mk.inj (Except.ok.inj h)
        exact hread _ b pool hsub hc
  · intro e pool h
    cases hc : convert (fetch o.step 0 (reorder o.order (rows db.tables))) with
    | error e' =>
        rw [hc] at h
        rw [← Except.error.inj h]
        exact hthrow _ e' pool hsub hc
    | ok b =>
        rw [hc] at h
        cases h

theorem ends_reading_ok (ho : o.Succeeds) (hready : db.Ready)
    (hread : ∀ rs, rs.Perm (rows db.tables) →
      ∃ a, convert rs = .ok a ∧ ∀ pool, pool ≠ [] → Q a ⟨db.tables, pool⟩) :
    Ends (reading o failed rows convert) db Q E := by
  obtain ⟨a, hconv, hQ⟩ := hread _ (reorder_perm o.order (rows db.tables))
  refine ends_withStatement_ok ho hready ?_ hQ
  show (convert (fetch o.step 0 (reorder o.order (rows db.tables))) >>= _) = _
  rw [fetch_of_ok ho.2, hconv]
  rfl

/-- The rows the cursor of a `SELECT` hands out, none if it cannot be prepared. -/
def handedOut (o : Outcome) (rs : List Row) : List Row :=
  if o.prepare then fetch o.step 0 (reorder o.order rs) else []

theorem handedOut_of_succeeds (ho : o.Succeeds) (rs : List Row) :
    handedOut o rs = reorder o.order rs := by
  rw [handedOut, if_pos ho.1, fetch_of_ok ho.2]

/-- A reading that cannot throw, for every outcome: it converts the rows handed out, and a connection
is idle afterwards unless the statement could not be prepared. -/
theorem ends_reading_rows {g : List Row → α} (hwait : ¬db.Ready → E .wait db)
    (hread : ∀ pool, (o.prepare = true → pool ≠ []) →
      Q (g (handedOut o (rows db.tables))) ⟨db.tables, pool⟩) :
    Ends (reading o (g []) rows fun rs => .ok (g rs)) db Q E := by
  unfold reading
  rw [ends_withStatement]
  refine ⟨fun hempty => hwait fun hready => hready hempty, ?_⟩
  intro conn rest _
  refine ⟨?_, fun hprepare => ⟨?_, fun e he => by cases he⟩⟩
  · intro hprepare
    have hread := hread rest fun h => by rw [hprepare] at h; cases h
    rw [handedOut, hprepare, if_neg Bool.false_ne_true] at hread
    exact hread
  · intro a t hrun
    obtain ⟨rfl, rfl⟩ := Prod.mk.inj (Except.ok.inj hrun)
    have hread := hread (rest ++ [conn]) fun _ => by simp
    rw [handedOut, if_pos hprepare] at hread
    exact hread

/-! ## The operations the handlers use -/

/-- A result of converting a list comes from an element. -/
theorem exists_of_mem_mapM {β γ : Type} {f : β → Except Exn γ} :
    ∀ {l : List β} {cs : List γ}, l.mapM f = .ok cs → ∀ {c}, c ∈ cs → ∃ b ∈ l, f b = .ok c
  | [], cs, h, c, hc => by
      rw [← Except.ok.inj h] at hc
      cases hc
  | b :: l, cs, h, c, hc => by
      rw [List.mapM_cons] at h
      cases hb : f b with
      | error e =>
          rw [hb] at h
          cases h
      | ok d =>
          cases hl : l.mapM f with
          | error e =>
              rw [hb, hl] at h
              cases h
          | ok ds =>
              rw [hb, hl] at h
              rw [← Except.ok.inj h] at hc
              rcases List.mem_cons.mp hc with rfl | hc
              · exact ⟨b, List.mem_cons_self, hb⟩
              · obtain ⟨b', hb', hc⟩ := exists_of_mem_mapM hl hc
                exact ⟨b', List.mem_cons_of_mem _ hb', hc⟩

/-- A list converts if its elements do. -/
theorem mapM_eq_ok {β γ : Type} {f : β → Except Exn γ} {g : β → γ} :
    ∀ {l : List β}, (∀ b ∈ l, f b = .ok (g b)) → l.mapM f = .ok (l.map g)
  | [], _ => rfl
  | b :: l, h => by
      rw [List.forall_mem_cons] at h
      rw [List.mapM_cons, h.1, mapM_eq_ok h.2]
      rfl

/-- A list that does not convert has an element that does not. -/
theorem exists_of_mapM_error {β γ : Type} {f : β → Except Exn γ} {e : Exn} :
    ∀ {l : List β}, l.mapM f = .error e → ∃ b ∈ l, f b = .error e
  | [], h => nomatch h
  | b :: l, h => by
      rw [List.mapM_cons] at h
      cases hb : f b with
      | error e' =>
          rw [hb] at h
          exact ⟨b, List.mem_cons_self, hb.trans (congrArg _ (Except.error.inj h))⟩
      | ok c =>
          cases hl : l.mapM f with
          | error e' =>
              rw [hb, hl] at h
              obtain ⟨b', hb', he⟩ := exists_of_mapM_error hl
              exact ⟨b', List.mem_cons_of_mem _ hb', he.trans (congrArg _ (Except.error.inj h))⟩
          | ok cs =>
              rw [hb, hl] at h
              cases h

section Operations

variable [OpenSSL] {env : Env}

theorem ends_registerUser {password username : Bytes} {Q : Option Bytes → Database → Prop} :
    Ends (registerUser env o password username) db Q E ↔
      (db.connection_pool = [] → E .wait db) ∧
      ∀ conn rest, db.connection_pool = conn :: rest →
        (o.prepare = false → Q none ⟨db.tables, rest⟩) ∧
        (o.prepare = true →
          let done := stepDone o (fun t => t.registered (.new env password username)) db.tables
          Q (if done.1 then some (generateUUID env) else none) ⟨done.2, rest ++ [conn]⟩) :=
  ends_withStatement_total (f := fun tables =>
    let done := stepDone o (fun t => t.registered (.new env password username)) tables
    (if done.1 then some (generateUUID env) else none, done.2))

theorem ends_registerUser_any {password username : Bytes} {Q : Option Bytes → Database → Prop}
    (hwait : E .wait db) (hnot : ∀ pool, Q none ⟨db.tables, pool⟩)
    (hdone : ∀ t pool, db.tables.registered (.new env password username) = some t →
      Q (some (generateUUID env)) ⟨t, pool⟩) :
    Ends (registerUser env o password username) db Q E := by
  rw [ends_registerUser]
  refine ⟨fun _ => hwait, fun conn rest _ => ⟨fun _ => hnot rest, fun _ => ?_⟩⟩
  intro done
  rcases stepDone_cases o (fun t => t.registered (.new env password username)) db.tables with
    ⟨h1, h2⟩ | ⟨h1, h2⟩
  · rw [show done = (false, db.tables) from Prod.ext h1 h2]
    exact hnot _
  · rw [show done = (true, done.2) from Prod.ext h1 rfl]
    exact hdone _ _ h2

theorem ends_registerUser_ok {password username : Bytes} {Q : Option Bytes → Database → Prop}
    {t : Tables} (ho : o.Succeeds) (hready : db.Ready)
    (hnew : db.tables.registered (.new env password username) = some t)
    (hdone : ∀ pool, pool ≠ [] → Q (some (generateUUID env)) ⟨t, pool⟩) :
    Ends (registerUser env o password username) db Q E := by
  rw [ends_registerUser]
  refine ⟨fun hempty => absurd hempty hready, fun conn rest _ => ⟨?_, fun _ => ?_⟩⟩
  · intro hprepare
    rw [ho.1] at hprepare
    cases hprepare
  · intro done
    rw [show done = (true, t) from stepDone_ok ho hnew]
    exact hdone _ (by simp)

/-- The row answers to the id and the password. -/
def Authenticates (userId : Int32) (password : Bytes) (r : UserRow) : Prop :=
  r.user_id = to_string userId ∧ hashPassword password (cstr r.salt) = cstr r.password_hash

theorem ends_authenticateUser_any {userId : Int32} {password : Bytes}
    {Q : Option Bytes → Database → Prop} (hwait : E .wait db) (hnot : ∀ pool, Q none ⟨db.tables, pool⟩)
    (hdone : ∀ r pool, r ∈ db.tables.users.rows → Authenticates userId password r →
      Q (some (cstr r.username)) ⟨db.tables, pool⟩) :
    Ends (authenticateUser o (to_string userId) password) db Q E := by
  unfold authenticateUser
  rw [ends_bind]
  refine ends_reading_any hwait hnot ?_ fun _ _ _ _ h => nomatch h
  intro rs row pool hrs hrow
  rw [← Except.ok.inj hrow]
  cases rs with
  | nil => exact hnot pool
  | cons r rs =>
      have hr := List.mem_filter.mp (hrs r List.mem_cons_self)
      rw [decide_eq_true_eq, cstr_to_string] at hr
      show Ends (if _ then _ else _) _ Q E
      rw [ends_ite]
      exact ⟨fun hhash => hdone r pool hr.1 ⟨hr.2, hhash⟩, fun _ => hnot pool⟩

theorem ends_authenticateUser_ok {userId : Int32} {password : Bytes}
    {Q : Option Bytes → Database → Prop} (ho : o.Succeeds) (hready : db.Ready)
    (hnot : ∀ pool, pool ≠ [] → (∀ r ∈ db.tables.users.rows, ¬Authenticates userId password r) →
      Q none ⟨db.tables, pool⟩)
    (hdone : ∀ r pool, pool ≠ [] → r ∈ db.tables.users.rows → Authenticates userId password r →
      Q (some (cstr r.username)) ⟨db.tables, pool⟩) :
    Ends (authenticateUser o (to_string userId) password) db Q E := by
  unfold authenticateUser
  rw [ends_bind]
  refine ends_reading_ok ho hready ?_
  intro rs hrs
  refine ⟨rs.head?, rfl, ?_⟩
  intro pool hpool
  have hmem : ∀ r, r ∈ rs ↔ r ∈ db.tables.users.rows ∧ r.user_id = to_string userId := by
    intro r
    rw [hrs.mem_iff, List.mem_filter, decide_eq_true_eq, cstr_to_string]
  cases rs with
  | nil =>
      refine hnot pool hpool ?_
      intro r hr hauth
      exact absurd ((hmem r).mpr ⟨hr, hauth.1⟩) List.not_mem_nil
  | cons r rs =>
      obtain ⟨hr, hid⟩ := (hmem r).mp List.mem_cons_self
      show Ends (if _ then _ else _) _ Q E
      rw [ends_ite]
      refine ⟨fun hhash => hdone r pool hpool hr ⟨hid, hhash⟩, fun hhash => hnot pool hpool ?_⟩
      -- the primary key leaves no other row of the id
      intro r' hr' hauth
      have heq := db.tables.users.eq_of_key_eq hr hr' (hid.trans hauth.1.symm)
      rw [heq] at hhash
      exact hhash hauth.2

end Operations

section Operations

variable {env : Env}

theorem ends_getUserNameById_any {userId : Int32} {Q : Option Bytes → Database → Prop}
    (hwait : E .wait db) (hnot : ∀ pool, Q none ⟨db.tables, pool⟩)
    (hdone : ∀ r pool, r ∈ db.tables.users.rows → r.user_id = to_string userId →
      Q (some (cstr r.username)) ⟨db.tables, pool⟩) :
    Ends (getUserNameById o (to_string userId)) db Q E := by
  refine ends_reading_any hwait hnot ?_ fun _ _ _ _ h => nomatch h
  intro rs row pool hrs hrow
  rw [← Except.ok.inj hrow]
  cases rs with
  | nil => exact hnot pool
  | cons r rs =>
      have hr := List.mem_filter.mp (hrs r List.mem_cons_self)
      rw [decide_eq_true_eq, cstr_to_string] at hr
      exact hdone r pool hr.1 hr.2

theorem ends_addFriend_any {o₁ o₂ : Outcome} {a b : Int32} {Q : Bool → Database → Prop}
    (hwait : E .wait db)
    (hdone : ∀ success t₁ t₂ pool, t₁ = db.tables ∨ t₁ = db.tables.requested a b →
      t₂ = t₁ ∨ t₂ = t₁.requested b a → Q success ⟨t₂, pool⟩) :
    Ends (addFriend o₁ o₂ (to_string a) (to_string b)) db Q E := by
  obtain ⟨tables, pool⟩ := db
  cases pool with
  | nil => exact hwait
  | cons conn pool =>
      have hstep : ∀ (o : Outcome) (t : Tables) (x y : Int32),
          (stepDone o (insertFriend (to_string x) (to_string y)) t).2 = t ∨
          (stepDone o (insertFriend (to_string x) (to_string y)) t).2 = t.requested x y := by
        intro o t x y
        rcases stepDone_cases o (insertFriend (to_string x) (to_string y)) t with ⟨-, h⟩ | ⟨-, h⟩
        · exact Or.inl h
        · rw [insertFriend, cstr_to_string, cstr_to_string] at h
          exact Or.inr (Option.some.inj h).symm
      unfold addFriend
      rw [ends_bind]
      show Ends (if o₁.prepare = true then _ else _) _ Q E
      rw [ends_ite]
      refine ⟨fun _ => ?_, fun _ => hdone false tables tables pool (Or.inl rfl) (Or.inl rfl)⟩
      rw [ends_bind, ends_onTables]
      refine ⟨?_, fun _ h => nomatch h⟩
      intro result1 t₁ h₁
      have ht₁ := hstep o₁ tables a b
      rw [Except.ok.inj h₁] at ht₁
      rw [ends_ite]
      refine ⟨fun _ => ?_, fun _ => hdone false t₁ t₁ pool ht₁ (Or.inl rfl)⟩
      rw [ends_bind, ends_onTables]
      refine ⟨?_, fun _ h => nomatch h⟩
      intro result2 t₂ h₂
      have ht₂ := hstep o₂ t₁ b a
      rw [Except.ok.inj h₂] at ht₂
      exact hdone _ t₁ t₂ _ ht₁ ht₂

theorem ends_addFriend_ok {o₁ o₂ : Outcome} {a b : Int32} {Q : Bool → Database → Prop}
    (ho₁ : o₁.Succeeds) (ho₂ : o₂.Succeeds) (hready : db.Ready)
    (hdone : ∀ pool, pool ≠ [] → Q true ⟨(db.tables.requested a b).requested b a, pool⟩) :
    Ends (addFriend o₁ o₂ (to_string a) (to_string b)) db Q E := by
  obtain ⟨tables, pool⟩ := db
  cases pool with
  | nil => exact absurd rfl hready
  | cons conn pool =>
      have hstep : ∀ (o : Outcome), o.Succeeds → ∀ (t : Tables) (x y : Int32),
          stepDone o (insertFriend (to_string x) (to_string y)) t = (true, t.requested x y) := by
        intro o ho t x y
        refine stepDone_ok ho ?_
        rw [insertFriend, cstr_to_string, cstr_to_string]
        rfl
      unfold addFriend
      rw [ends_bind]
      show Ends (if o₁.prepare = true then _ else _) _ Q E
      rw [ho₁.1, if_pos rfl, ends_bind, ends_onTables, hstep o₁ ho₁]
      refine ⟨?_, fun _ h => nomatch h⟩
      intro result1 t₁ h₁
      obtain ⟨rfl, rfl⟩ := Prod.mk.inj (Except.ok.inj h₁)
      rw [ho₂.1, if_pos rfl, ends_bind, ends_onTables, hstep o₂ ho₂]
      refine ⟨?_, fun _ h => nomatch h⟩
      intro result2 t₂ h₂
      obtain ⟨rfl, rfl⟩ := Prod.mk.inj (Except.ok.inj h₂)
      exact hdone _ (by simp)

theorem ends_ackAddFriend_any {a b : Int32} {Q : Bool → Database → Prop} (hwait : E .wait db)
    (hnot : ∀ pool, Q false ⟨db.tables, pool⟩)
    (hdone : ∀ pool, Q true ⟨db.tables.accepted a b, pool⟩) :
    Ends (ackAddFriend o (to_string a) (to_string b)) db Q E := by
  refine ends_writing_any hwait hnot ?_
  intro t pool ht
  simp only [cstr_to_string] at ht
  rw [← Option.some.inj ht]
  exact hdone pool

theorem ends_ackAddFriend_ok {a b : Int32} {Q : Bool → Database → Prop} (ho : o.Succeeds)
    (hready : db.Ready) (hdone : ∀ pool, pool ≠ [] → Q true ⟨db.tables.accepted a b, pool⟩) :
    Ends (ackAddFriend o (to_string a) (to_string b)) db Q E := by
  refine ends_writing_ok ho hready ?_ hdone
  simp only [cstr_to_string]
  rfl

theorem ends_removeFriend_any {a b : Int32} {Q : Bool → Database → Prop} (hwait : E .wait db)
    (hnot : ∀ pool, Q false ⟨db.tables, pool⟩)
    (hdone : ∀ pool, Q true ⟨db.tables.rejected a b, pool⟩) :
    Ends (removeFriend o (to_string a) (to_string b)) db Q E := by
  refine ends_writing_any hwait hnot ?_
  intro t pool ht
  simp only [cstr_to_string] at ht
  rw [← Option.some.inj ht]
  exact hdone pool

theorem ends_removeFriend_ok {a b : Int32} {Q : Bool → Database → Prop} (ho : o.Succeeds)
    (hready : db.Ready) (hdone : ∀ pool, pool ≠ [] → Q true ⟨db.tables.rejected a b, pool⟩) :
    Ends (removeFriend o (to_string a) (to_string b)) db Q E := by
  refine ends_writing_ok ho hready ?_ hdone
  simp only [cstr_to_string]
  rfl

/-- A successful reading leaves the tables as they are. -/
theorem ends_getFriendPair_any {o₁ o₂ : Outcome} {user_id : Bytes}
    {Q : List (Bytes × Bytes) → Database → Prop} (hwait : ∀ pool, E .wait ⟨db.tables, pool⟩)
    (hdone : ∀ pairs pool, Q pairs ⟨db.tables, pool⟩) :
    Ends (getFriendPair o₁ o₂ user_id) db Q E := by
  unfold getFriendPair
  rw [ends_bind]
  have hnames : ∀ (ids : List Bytes) (pool : List Conn),
      Ends (getFriendListUsername o₂ user_id) ⟨db.tables, pool⟩
      (fun names db' => Ends (if ids.length = names.length then return ids.zip names
        else return [] : DbM (List (Bytes × Bytes))) db' Q E) E := by
    intro ids pool
    refine ends_reading_any (hwait pool) ?_ ?_ fun _ _ _ _ h => nomatch h
    · intro pool
      rw [ends_ite]
      exact ⟨fun _ => hdone _ pool, fun _ => hdone _ pool⟩
    · intro rs names pool _ _
      rw [ends_ite]
      exact ⟨fun _ => hdone _ pool, fun _ => hdone _ pool⟩
  refine ends_reading_any (hwait _) ?_ ?_ fun _ _ _ _ h => nomatch h
  · intro pool
    rw [ends_bind]
    exact hnames [] pool
  · intro rs ids pool _ _
    rw [ends_bind]
    exact hnames ids pool

theorem ends_storeMessage_any {msg : Message} {Q : Bool → Database → Prop} (hwait : E .wait db)
    (hnot : ∀ pool, Q false ⟨db.tables, pool⟩)
    (hdone : ∀ pool, Q true ⟨db.tables.stored env msg, pool⟩) :
    Ends (storeMessage env o (to_string msg.fromUserId) (to_string msg.toUserId)
      (messageTypeToString .TEXT) msg.content) db Q E := by
  refine ends_writing_any hwait hnot ?_
  intro t pool ht
  rw [← Option.some.inj ht]
  simp only [cstr_to_string, cstr_messageTypeToString]
  exact hdone pool

theorem ends_storeMessage_ok {msg : Message} {Q : Bool → Database → Prop} (ho : o.Succeeds)
    (hready : db.Ready) (hdone : ∀ pool, pool ≠ [] → Q true ⟨db.tables.stored env msg, pool⟩) :
    Ends (storeMessage env o (to_string msg.fromUserId) (to_string msg.toUserId)
      (messageTypeToString .TEXT) msg.content) db Q E := by
  refine ends_writing_ok ho hready rfl ?_
  simp only [cstr_to_string, cstr_messageTypeToString]
  exact hdone

theorem ends_getRecentMessages_any {user_id : Bytes} {days : Nat}
    {Q : List Message → Database → Prop} (hwait : E .wait db)
    (hdone : ∀ ms pool, (∀ m ∈ ms, ∃ r ∈ recentRows env user_id days db.tables,
      messageOfRow env r = .ok m) → Q ms ⟨db.tables, pool⟩)
    (hthrow : ∀ e pool, E (.exn e) ⟨db.tables, pool⟩) :
    Ends (getRecentMessages env o user_id days) db Q E := by
  refine ends_reading_any hwait (fun pool => hdone [] pool (by simp)) ?_
    fun _ e pool _ _ => hthrow e pool
  intro rs ms pool hrs hms
  refine hdone ms pool ?_
  intro m hm
  obtain ⟨r, hr, hrm⟩ := exists_of_mem_mapM hms hm
  exact ⟨r, hrs r hr, hrm⟩

end Operations

/-! ### The conversion of a row -/

section Conversion

variable {r : MessageRow} {env : Env} {m : Message}

/-- What the reader puts into the fields of a frame: the columns, each
converted, and the current time. -/
theorem messageOfRow_eq_ok : messageOfRow env r = .ok m ↔
    stoi (cstr r.from_user_id) = .ok m.fromUserId ∧ stoi (cstr r.to_user_id) = .ok m.toUserId ∧
      stringToMessageType (cstr r.message_type) = .ok m.messageType ∧
      stoi (decimal r.message_id) = .ok m.messageId ∧ m.content = cstr r.content ∧
      m.timestamp = env.now := by
  obtain ⟨fromUserId, toUserId, messageType, messageId, content, timestamp⟩ := m
  unfold messageOfRow Message.new
  simp only [except_bind_eq_ok, pure, Except.pure, Except.ok.injEq, Message.mk.injEq]
  constructor
  · rintro ⟨_, hfrom, _, hto, _, hty, _, hid, rfl, rfl, rfl, rfl, rfl, rfl⟩
    exact ⟨hfrom, hto, hty, hid, rfl, rfl⟩
  · rintro ⟨hfrom, hto, hty, hid, rfl, rfl⟩
    exact ⟨_, hfrom, _, hto, _, hty, _, hid, rfl, rfl, rfl, rfl, rfl, rfl⟩

/-- The message repeats a chat message, up to the first NUL of its content. -/
structure Repeats (msg m : Message) : Prop where
  fromUserId : m.fromUserId = msg.fromUserId
  toUserId : m.toUserId = msg.toUserId
  messageType : m.messageType = .TEXT
  content : m.content = cstr msg.content

/-- A row that a chat frame has stored is turned into a message that repeats it. -/
theorem repeats_of_messageOfRow {env₀ : Env} {msg₀ : Message} {id : Nat}
    (h : messageOfRow env (.new env₀ msg₀ id) = .ok m) : Repeats msg₀ m := by
  obtain ⟨hfrom, hto, hty, -, hcontent, -⟩ := messageOfRow_eq_ok.mp h
  rw [MessageRow.new] at hfrom hto hty hcontent
  rw [cstr_to_string, stoi_to_string] at hfrom hto
  rw [cstr_messageTypeToString, stringToMessageType_messageTypeToString] at hty
  rw [cstr_cstr] at hcontent
  exact ⟨(Except.ok.inj hfrom).symm, (Except.ok.inj hto).symm, (Except.ok.inj hty).symm, hcontent⟩

end Conversion

end Database

end TinyIM
