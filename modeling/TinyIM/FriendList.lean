/-
# FriendList — when the friend list is complete and correctly paired

`getFriendPair` reads the ids of a user's friends and their names with two queries. The second one
joins with `users`, so a friend who never signed up has an id and no name; neither query says in which
order its rows come. The two results are put side by side if they have the same length, and thrown
away if they have not. `friend_list_iff` says for every reachable database, every order of the rows and
every outcome of the calls when the result is the friend list.
-/
import TinyIM.Accounts

namespace TinyIM

open TinyIM.Lib TinyIM.Lib.Text TinyIM.Lib.Table TinyIM.Lib.Runs TinyIM.Lib.Stops

/-! ## The friend list -/

namespace Tables

/-- The user has an accepted row with the id. -/
def Accepted (t : Tables) (u : Int32) (id : Bytes) : Prop :=
  (⟨to_string u, id, 1⟩ : FriendRow) ∈ t.friends.rows

/-- The id is a registered user of that name. -/
def Named (t : Tables) (id name : Bytes) : Prop :=
  ∃ w ∈ t.users.rows, w.user_id = id ∧ w.username = name

/-- No accepted friend of the user is registered, or all of them are, under one name. -/
def OneName (t : Tables) (u : Int32) : Prop :=
  (∀ id name, t.Accepted u id → ¬t.Named id name) ∨
    ∃ name, ∀ id, t.Accepted u id → t.Named id name

instance (t : Tables) (u : Int32) (id : Bytes) : Decidable (t.Accepted u id) :=
  inferInstanceAs (Decidable (_ ∈ _))

instance (t : Tables) (id name : Bytes) : Decidable (t.Named id name) :=
  inferInstanceAs (Decidable (∃ w ∈ _, _))

/-- One pair for each accepted friend who is registered, and no other. -/
structure Complete (t : Tables) (u : Int32) (pairs : List (Bytes × Bytes)) : Prop where
  nodup : pairs.Nodup
  mem_iff : ∀ id name, (id, name) ∈ pairs ↔ t.Accepted u id ∧ t.Named id name

theorem Named.unique {t : Tables} {id name name' : Bytes} (h : t.Named id name)
    (h' : t.Named id name') : name = name' := by
  obtain ⟨w, hw, hid, rfl⟩ := h
  obtain ⟨w', hw', hid', rfl⟩ := h'
  rw [t.users.eq_of_key_eq hw hw' (hid.trans hid'.symm)]

/-- The stored texts end where they are read to end. -/
structure Plain (t : Tables) : Prop where
  ids : ∀ f ∈ t.friends.rows, NoNul f.friend_id
  names : ∀ w ∈ t.users.rows, NoNul w.username

end Tables

/-- No call fails, and the rows come in the `k`-th order. -/
def Outcome.ordered (k : Nat) : Outcome := ⟨true, fun _ => true, k⟩

theorem Outcome.ordered_succeeds (k : Nat) : (Outcome.ordered k).Succeeds := ⟨rfl, fun _ => rfl⟩

namespace Database

/-! ## What the two queries read -/

section Queries

variable {o o₁ o₂ : Outcome} {t : Tables} {u : Int32} {id name : Bytes} {db : Database}

/-- The rows the first query selects. -/
def acceptedRows (t : Tables) (u : Int32) : List FriendRow :=
  t.friends.rows.filter fun f => f.user_id = to_string u ∧ f.status = 1

/-- The ids the first query hands out. -/
def friendIds (o : Outcome) (t : Tables) (u : Int32) : List Bytes :=
  (handedOut o (acceptedRows t u)).map fun f => cstr f.friend_id

/-- The names the second query hands out. -/
def friendNames (o : Outcome) (t : Tables) (u : Int32) : List Bytes :=
  (handedOut o (friendUsers (to_string u) t)).map fun w => cstr w.username

/-- A selected row is the row of an accepted friend. -/
theorem mem_acceptedRows {f : FriendRow} :
    f ∈ acceptedRows t u ↔ ∃ id, t.Accepted u id ∧ f = ⟨to_string u, id, 1⟩ := by
  rw [acceptedRows, List.mem_filter, decide_eq_true_eq]
  constructor
  · obtain ⟨user_id, friend_id, status⟩ := f
    rintro ⟨hrow, rfl, rfl⟩
    exact ⟨friend_id, hrow, rfl⟩
  · rintro ⟨id, hid, rfl⟩
    exact ⟨hid, rfl, rfl⟩

/-- The second query joins the selected rows with the users. -/
theorem mem_friendUsers {w : UserRow} : w ∈ friendUsers (to_string u) t ↔
    w ∈ t.users.rows ∧ t.Accepted u w.user_id := by
  have hselect : friendUsers (to_string u) t = (acceptedRows t u).flatMap fun f =>
      t.users.rows.filter fun w => f.friend_id = w.user_id := by
    unfold friendUsers acceptedRows
    rw [cstr_to_string]
  rw [hselect, List.mem_flatMap]
  constructor
  · rintro ⟨f, hf, hjoin⟩
    obtain ⟨hw, hid⟩ := List.mem_filter.mp hjoin
    obtain ⟨id, hid', rfl⟩ := mem_acceptedRows.mp hf
    refine ⟨hw, ?_⟩
    rw [← of_decide_eq_true hid]
    exact hid'
  · rintro ⟨hw, hid⟩
    exact ⟨_, mem_acceptedRows.mpr ⟨_, hid, rfl⟩, List.mem_filter.mpr ⟨hw, decide_eq_true rfl⟩⟩

/-- **`ends_getFriendPair`** — the ids and the names, paired up. It waits only if no connection is idle
or the first statement could not be prepared. -/
theorem ends_getFriendPair {Q : List (Bytes × Bytes) → Database → Prop} {E : Stop → Database → Prop}
    (hwait : ∀ pool, ¬db.Ready ∨ o₁.prepare = false → E .wait ⟨db.tables, pool⟩)
    (hdone : ∀ pool, Q (pairUp (friendIds o₁ db.tables u) (friendNames o₂ db.tables u))
      ⟨db.tables, pool⟩) : Ends (getFriendPair o₁ o₂ (to_string u)) db Q E := by
  unfold getFriendPair getFriendList getFriendListUsername
  rw [ends_bind]
  refine ends_reading_rows (fun hready => hwait _ (Or.inl hready)) ?_
  intro pool hpool
  rw [ends_bind]
  refine ends_reading_rows ?_ ?_
  · intro hready
    refine hwait pool (Or.inr ?_)
    rw [← Bool.not_eq_true]
    exact fun hprepare => hready (hpool hprepare)
  · intro pool' _
    have hdone := hdone pool'
    unfold pairUp friendIds friendNames acceptedRows at hdone
    simp only [cstr_to_string]
    split
    · rename_i hlen
      rw [if_pos hlen] at hdone
      exact hdone
    · rename_i hlen
      rw [if_neg hlen] at hdone
      exact hdone

/-- With an idle connection it returns. -/
theorem ends_getFriendPair_of_ready {P : List (Bytes × Bytes) → Prop} (hready : db.Ready)
    (hprepare : o₁.prepare = true)
    (hdone : P (pairUp (friendIds o₁ db.tables u) (friendNames o₂ db.tables u))) :
    Ends (getFriendPair o₁ o₂ (to_string u)) db (fun pairs _ => P pairs) fun _ _ => False := by
  refine ends_getFriendPair ?_ fun _ => hdone
  rintro _ (hwait | hwait)
  · exact hwait hready
  · rw [hprepare] at hwait
    cases hwait

/-- What it returns with an idle connection; without one it does not return. -/
theorem ends_getFriendPair_iff {P : List (Bytes × Bytes) → Prop} (hprepare : o₁.prepare = true) :
    Ends (getFriendPair o₁ o₂ (to_string u)) db (fun pairs _ => P pairs) (fun _ _ => False) ↔
      db.Ready ∧ P (pairUp (friendIds o₁ db.tables u) (friendNames o₂ db.tables u)) := by
  constructor
  · intro hends
    have hready : db.Ready := by
      by_contra hready
      have hwaits : Ends (getFriendPair o₁ o₂ (to_string u)) db (fun _ _ => False)
          fun _ _ => True := by
        unfold getFriendPair getFriendList reading
        rw [ends_bind]
        exact ends_withStatement_of_not_ready hready trivial
      exact not_ends_false ((hends.and hwaits).mono (fun _ _ h => h.2) fun _ _ h => h.1)
    refine ⟨hready, ?_⟩
    by_contra hnot
    have hother : Ends (getFriendPair o₁ o₂ (to_string u)) db (fun pairs _ => ¬P pairs)
        fun _ _ => False := ends_getFriendPair_of_ready hready hprepare hnot
    exact not_ends_false ((hends.and hother).mono (fun _ _ h => h.2 h.1) fun _ _ h => h.1)
  · rintro ⟨hready, hdone⟩
    exact ends_getFriendPair_of_ready hready hprepare hdone

theorem mem_of_mem_handedOut {Row : Type} {rs : List Row} {r : Row} (h : r ∈ handedOut o rs) :
    r ∈ rs := by
  unfold handedOut at h
  split at h
  · exact mem_reorder.mp (mem_of_mem_fetch h)
  · cases h

theorem accepted_of_mem_friendIds (ht : t.Plain) (h : id ∈ friendIds o t u) :
    t.Accepted u id := by
  obtain ⟨f, hf, rfl⟩ := List.mem_map.mp h
  obtain ⟨id, hid, rfl⟩ := mem_acceptedRows.mp (mem_of_mem_handedOut hf)
  dsimp only
  rw [cstr_of_noNul (ht.ids _ hid)]
  exact hid

/-- The first query reads no id twice. -/
theorem nodup_friendIds (ht : t.Plain) : (friendIds o t u).Nodup := by
  have hrows : (handedOut o (acceptedRows t u)).Nodup := by
    unfold handedOut
    split
    · exact nodup_fetch ((List.Nodup.of_map _ t.friends.unique).filter _)
    · exact List.nodup_nil
  refine List.Nodup.map_on ?_ hrows
  intro f hf f' hf' heq
  obtain ⟨id, hid, rfl⟩ := mem_acceptedRows.mp (mem_of_mem_handedOut hf)
  obtain ⟨id', hid', rfl⟩ := mem_acceptedRows.mp (mem_of_mem_handedOut hf')
  rw [cstr_of_noNul (ht.ids _ hid), cstr_of_noNul (ht.ids _ hid')] at heq
  exact congrArg (fun id => (⟨to_string u, id, 1⟩ : FriendRow)) heq

/-- Every name handed out is the name of an accepted friend. -/
theorem exists_of_mem_friendNames (ht : t.Plain) (h : name ∈ friendNames o t u) :
    ∃ id, t.Accepted u id ∧ t.Named id name := by
  obtain ⟨w, hw, rfl⟩ := List.mem_map.mp h
  obtain ⟨hrow, hid⟩ := mem_friendUsers.mp (mem_of_mem_handedOut hw)
  exact ⟨w.user_id, hid, w, hrow, rfl, (cstr_of_noNul (ht.names w hrow)).symm⟩

/-- If no accepted friend is registered, there is no name. -/
theorem friendNames_eq_nil (ht : t.Plain) (hnone : ∀ id name, t.Accepted u id → ¬t.Named id name) :
    friendNames o t u = [] := by
  rw [List.eq_nil_iff_forall_not_mem]
  intro name hname
  obtain ⟨id, haccepted, hnamed⟩ := exists_of_mem_friendNames ht hname
  exact hnone id name haccepted hnamed

/-- No accepted friend of the user is registered; or the first query hands out every accepted friend
who is, and the `k`-th name handed out is the name of the `k`-th id. -/
def LinesUp (o₁ o₂ : Outcome) (t : Tables) (u : Int32) : Prop :=
  (∀ id name, t.Accepted u id → ¬t.Named id name) ∨
    ((∀ id name, t.Accepted u id → t.Named id name → id ∈ friendIds o₁ t u) ∧
      List.Forall₂ t.Named (friendIds o₁ t u) (friendNames o₂ t u))

/-- The two columns are the friend list exactly if they line up. -/
theorem complete_pairUp_iff (ht : t.Plain) :
    t.Complete u (pairUp (friendIds o₁ t u) (friendNames o₂ t u)) ↔ LinesUp o₁ o₂ t u := by
  rw [LinesUp, ← mem_pairUp_iff (fun _ => accepted_of_mem_friendIds ht) (friendNames_eq_nil ht)
    fun _ _ _ h h' => h.unique h']
  exact ⟨fun h => h.mem_iff, fun h => ⟨nodup_pairUp (nodup_friendIds ht), h⟩⟩

/-! ## All the orders of the rows -/

/-- Any accepted friend can come first in the ids. -/
theorem exists_friendIds_cons (ht : t.Plain) (h : t.Accepted u id) :
    ∃ k rest, friendIds (.ordered k) t u = id :: rest := by
  obtain ⟨k, rest, hk⟩ := exists_reorder_cons (mem_acceptedRows.mpr ⟨id, h, rfl⟩)
  refine ⟨k, rest.map fun f => cstr f.friend_id, ?_⟩
  rw [friendIds, handedOut_of_succeeds (Outcome.ordered_succeeds k)]
  show (reorder k _).map _ = _
  rw [hk, List.map_cons, cstr_of_noNul (ht.ids _ h)]

/-- The name of any accepted friend can come first in the names. -/
theorem exists_friendNames_cons (ht : t.Plain) (h : t.Accepted u id) (hname : t.Named id name) :
    ∃ k rest, friendNames (.ordered k) t u = name :: rest := by
  obtain ⟨w, hw, rfl, rfl⟩ := hname
  obtain ⟨k, rest, hk⟩ := exists_reorder_cons (mem_friendUsers.mpr ⟨hw, h⟩)
  refine ⟨k, rest.map fun w => cstr w.username, ?_⟩
  rw [friendNames, handedOut_of_succeeds (Outcome.ordered_succeeds k)]
  show (reorder k _).map _ = _
  rw [hk, List.map_cons, cstr_of_noNul (ht.names w hw)]

/-- If no call fails, the first query hands out every accepted friend. -/
theorem mem_friendIds (ht : t.Plain) (ho : o.Succeeds) (h : t.Accepted u id) :
    id ∈ friendIds o t u := by
  refine List.mem_map.mpr ⟨⟨to_string u, id, 1⟩, ?_, cstr_of_noNul (ht.ids _ h)⟩
  rw [handedOut_of_succeeds ho, mem_reorder]
  exact mem_acceptedRows.mpr ⟨id, h, rfl⟩

/-- If every accepted friend is registered, the two queries hand out equally many rows. -/
theorem length_friendIds (ho₁ : o₁.Succeeds) (ho₂ : o₂.Succeeds)
    (hnamed : ∀ id, t.Accepted u id → ∃ name, t.Named id name) :
    (friendIds o₁ t u).length = (friendNames o₂ t u).length := by
  have hone : ∀ f ∈ acceptedRows t u,
      (t.users.rows.filter fun w => f.friend_id = w.user_id).length = 1 := by
    intro f hf
    obtain ⟨id, hid, rfl⟩ := mem_acceptedRows.mp hf
    obtain ⟨name, w, hw, hkey, -⟩ := hnamed id hid
    have hsame : (t.users.rows.filter fun w => id = w.user_id) =
        t.users.rows.filter fun w => w.user_id = id :=
      List.filter_congr fun w _ => decide_eq_decide.mpr eq_comm
    have hmost := t.users.length_filter_key_le_one id
    have hleast : 0 < (t.users.rows.filter fun w => w.user_id = id).length :=
      List.length_pos_of_mem (List.mem_filter.mpr ⟨hw, decide_eq_true hkey⟩)
    rw [hsame]
    exact Nat.le_antisymm hmost hleast
  -- so the join has one row for each selected one
  have hjoined : (friendUsers (to_string u) t).length = (acceptedRows t u).length := by
    unfold friendUsers
    rw [cstr_to_string, List.length_flatMap]
    show ((acceptedRows t u).map _).sum = _
    rw [List.map_congr_left hone, List.map_const', List.sum_replicate_nat, Nat.mul_one]
  rw [friendIds, friendNames, List.length_map, List.length_map, handedOut_of_succeeds ho₁,
    handedOut_of_succeeds ho₂, (reorder_perm _ _).length_eq, (reorder_perm _ _).length_eq, hjoined]

/-- **`linesUp_iff_oneName`** — the two results line up in every order of the rows exactly if no
accepted friend is registered, or all are and a name cannot get to the wrong one. -/
theorem linesUp_iff_oneName (ht : t.Plain) :
    (∀ o₁ o₂, o₁.Succeeds → o₂.Succeeds → LinesUp o₁ o₂ t u) ↔ t.OneName u := by
  constructor
  · intro hall
    by_cases hnone : ∀ id name, t.Accepted u id → ¬t.Named id name
    · exact Or.inl hnone
    · obtain ⟨id₀, hid₀⟩ := not_forall.mp hnone
      obtain ⟨name, hname⟩ := not_forall.mp hid₀
      obtain ⟨haccepted, hnamed⟩ := Classical.not_imp.mp hname
      refine Or.inr ⟨name, ?_⟩
      -- an order puts the name of that friend next to the id of any other one
      intro id hid
      obtain ⟨k₁, ids, hids⟩ := exists_friendIds_cons ht hid
      obtain ⟨k₂, names, hnames⟩ := exists_friendNames_cons ht haccepted (not_not.mp hnamed)
      rcases hall (.ordered k₁) (.ordered k₂) (Outcome.ordered_succeeds _)
        (Outcome.ordered_succeeds _) with hno | ⟨-, hpairs⟩
      · exact absurd hno hnone
      · rw [hids, hnames] at hpairs
        exact (List.forall₂_cons.mp hpairs).1
  · rintro (hnone | ⟨name, hall⟩) o₁ o₂ ho₁ ho₂
    · exact Or.inl hnone
    · refine Or.inr ⟨fun id _ hid _ => mem_friendIds ht ho₁ hid, List.forall₂_iff_zip.mpr ⟨?_, ?_⟩⟩
      · exact length_friendIds ho₁ ho₂ fun id hid => ⟨name, hall id hid⟩
      · intro id name' hpair
        obtain ⟨hid, hname'⟩ := List.of_mem_zip hpair
        obtain ⟨id', hid', hnamed'⟩ := exists_of_mem_friendNames ht hname'
        rw [hnamed'.unique (hall id' hid')]
        exact hall id (accepted_of_mem_friendIds ht hid)

end Queries

end Database

/-! ## Reachable databases -/

namespace BusinessHandler

section Runs

variable [OpenSSL]

theorem step_plain (h : BusinessHandler) (e : Event) (hok : h.db.tables.Ok ∧ h.db.tables.Plain) :
    (step h e).db.tables.Ok ∧ (step h e).db.tables.Plain := by
  have hok' := step_ok h e hok.1
  refine ⟨hok', ?_, ?_⟩
  · intro f hf
    obtain ⟨a, b, -, -, hid⟩ := hok'.friends f hf
    rw [hid]
    exact noNul_decimal _
  · intro w hw
    rcases (mem_users_step hok.1 e).mp hw with hw | ⟨password, username, hins⟩
    · exact hok.2.names w hw
    · cases e with
      | closed session => exact hins.elim
      | frame env session msg =>
          obtain ⟨-, -, rfl, -⟩ := hins
          exact noNul_cstr _

/-- The stored data of a server that began with an empty database. -/
theorem exec_plain (pool_size : Nat) (es : List Event) :
    (exec step (start .empty pool_size) es).db.tables.Ok ∧
      (exec step (start .empty pool_size) es).db.tables.Plain :=
  exec_preserves (I := fun h : BusinessHandler => h.db.tables.Ok ∧ h.db.tables.Plain) step_plain
    ⟨Tables.Ok.empty, fun _ hf => absurd hf List.not_mem_nil,
      fun _ hw => absurd hw List.not_mem_nil⟩ es

/-- **`friend_list_iff`** — in every database a run from an empty one leads to, for every user,
`getFriendPair` returns the friend list in every order of the rows exactly if a connection is idle and
no accepted friend of the user is registered, or all of them are, under one name. -/
theorem friend_list_iff (pool_size : Nat) (es : List Event) (u : Int32) :
    let db := (exec step (start .empty pool_size) es).db
    (∀ o₁ o₂ : Outcome, o₁.Succeeds → o₂.Succeeds →
      Ends (Database.getFriendPair o₁ o₂ (to_string u)) db
        (fun pairs _ => db.tables.Complete u pairs) fun _ _ => False) ↔
      db.Ready ∧ db.tables.OneName u := by
  intro db
  have hplain : db.tables.Ok ∧ db.tables.Plain := exec_plain pool_size es
  rw [← Database.linesUp_iff_oneName hplain.2]
  generalize db = db at hplain ⊢
  have hends : ∀ o₁ o₂ : Outcome, o₁.Succeeds →
      (Ends (Database.getFriendPair o₁ o₂ (to_string u)) db
        (fun pairs _ => db.tables.Complete u pairs) (fun _ _ => False) ↔
        db.Ready ∧ Database.LinesUp o₁ o₂ db.tables u) := by
    intro o₁ o₂ ho₁
    rw [Database.ends_getFriendPair_iff ho₁.1, Database.complete_pairUp_iff hplain.2]
  have hgood : (Outcome.ordered 0).Succeeds := Outcome.ordered_succeeds 0
  constructor
  · intro hall
    refine ⟨((hends _ _ hgood).mp (hall _ _ hgood hgood)).1, ?_⟩
    intro o₁ o₂ ho₁ ho₂
    exact ((hends o₁ o₂ ho₁).mp (hall o₁ o₂ ho₁ ho₂)).2
  · rintro ⟨hready, hall⟩ o₁ o₂ ho₁ ho₂
    exact (hends o₁ o₂ ho₁).mpr ⟨hready, hall o₁ o₂ ho₁ ho₂⟩

end Runs

/-- A sign-up of "amy" or "eve" with password "pw", under the id of nine equal digits. -/
def signsUp (digit : Nat) (content : String) : Event :=
  .frame (.drawing digit) 0 ⟨0, 0, .SIGN_UP, 0, str content, 0⟩

/-- One user asks another, and the other accepts. -/
def befriend (a b : Int32) : List Event :=
  [.frame .plain 0 ⟨a, b, .ADD_FRIEND, 0, [], 0⟩,
    .frame .plain 0 ⟨b, a, .FRIEND_REQUEST_RESPONSE, 0, str "accept", 0⟩]

/-- "bob" signs up, and so does "amy"; then bob is friends with amy and with an id nobody has. -/
def twoFriends : List Event :=
  [.frame .plain 0 signUpFrame,
    signsUp 1 "\x7b\"password\":\"pw\",\"username\":\"amy\"\x7d"] ++
    befriend 111111111 222222222 ++ befriend 111111111 333333333

/-- The database afterwards. -/
@[irreducible] def oneRegistered : Database :=
  letI := OpenSSL.zero
  (exec step (start .empty 1) twoFriends).db

/-- The database when "eve" has signed up under that id. -/
@[irreducible] def bothRegistered : Database :=
  letI := OpenSSL.zero
  (exec step (start .empty 1)
    (twoFriends ++ [signsUp 2 "\x7b\"password\":\"pw\",\"username\":\"eve\"\x7d"])).db

theorem oneRegistered_ready : oneRegistered.Ready := by
  unfold Database.Ready
  decide +kernel

theorem bothRegistered_ready : bothRegistered.Ready := by
  unfold Database.Ready
  decide +kernel

/-- Two ids and one name. -/
theorem oneRegistered_pairs : pairUp (Database.friendIds .good oneRegistered.tables 111111111)
    (Database.friendNames .good oneRegistered.tables 111111111) = [] := by decide +kernel

/-- In the second order of its two rows, the query for the names hands out Amy's name last. -/
theorem bothRegistered_pairs : (str "222222222", str "eve") ∈
    pairUp (Database.friendIds .good bothRegistered.tables 111111111)
      (Database.friendNames (.ordered 1) bothRegistered.tables 111111111) := by
  have htwo : (Database.friendUsers (to_string 111111111) bothRegistered.tables).length = 2 := by
    decide +kernel
  have hids : Database.friendIds .good bothRegistered.tables 111111111 =
      [str "222222222", str "333333333"] := by decide +kernel
  have hnames : Database.friendNames (.ordered 1) bothRegistered.tables 111111111 =
      [str "eve", str "amy"] := by
    show (fetch (fun _ => true) 0 (reorder 1 _)).map _ = _
    rw [reorder_one_of_length_two htwo]
    decide +kernel
  rw [hids, hnames]
  decide

/-- As long as one of the two friends is not registered, the list is empty; once she is, the two queries
only have to differ in their order to give each friend the name of the other. -/
theorem friend_list_lost_and_mixed :
    Ends (Database.getFriendPair .good .good (to_string 111111111)) oneRegistered
      (fun pairs _ => ¬oneRegistered.tables.Complete 111111111 pairs) (fun _ _ => False) ∧
    Ends (Database.getFriendPair .good (.ordered 1) (to_string 111111111)) bothRegistered
      (fun pairs _ => ¬bothRegistered.tables.Complete 111111111 pairs) fun _ _ => False := by
  have hamy : oneRegistered.tables.Accepted 111111111 (str "222222222") ∧
      oneRegistered.tables.Named (str "222222222") (str "amy") := by decide +kernel
  have heve : ¬bothRegistered.tables.Named (str "222222222") (str "eve") := by decide +kernel
  refine ⟨Database.ends_getFriendPair_of_ready oneRegistered_ready rfl ?_,
    Database.ends_getFriendPair_of_ready bothRegistered_ready rfl ?_⟩
  · intro hcomplete
    have hlisted := (hcomplete.mem_iff _ _).mpr hamy
    rw [oneRegistered_pairs] at hlisted
    cases hlisted
  · intro hcomplete
    exact heve ((hcomplete.mem_iff _ _).mp bothRegistered_pairs).2

end BusinessHandler

end TinyIM
