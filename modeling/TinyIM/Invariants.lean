/-
# Invariants — what every reachable state keeps

`Tables.Ok` is the invariant of the stored data: names are well-formed UTF-8, and the id columns of
the friends and messages tables hold decimal forms of 32-bit ids. One lemma for each write says that
it keeps the invariant; `step_ok` reads the writes off `Did`. Everything here holds for every outcome
of the SQLite calls.
-/
import TinyIM.HandlerSpec

namespace TinyIM

open TinyIM.Lib TinyIM.Lib.Text TinyIM.Lib.Table TinyIM.Lib.Runs

/-! ## Stored data -/

/-- The row names two different users. -/
def FriendRow.Ok (r : FriendRow) : Prop :=
  ∃ a b : Int32, a ≠ b ∧ r.user_id = to_string a ∧ r.friend_id = to_string b

/-- The row is a chat message between two users. -/
def MessageRow.Ok (r : MessageRow) : Prop :=
  (∃ a : Int32, r.from_user_id = to_string a) ∧ (∃ b : Int32, r.to_user_id = to_string b) ∧
    r.message_type = messageTypeToString .TEXT

/-- The invariant of the database file. -/
structure Tables.Ok (t : Tables) : Prop where
  users : ∀ r ∈ t.users.rows, ValidUtf8 r.username
  friends : ∀ r ∈ t.friends.rows, r.Ok
  messages : ∀ r ∈ t.messages.rows, r.Ok

namespace Tables

section Friends

variable {t : Tables} {a b : Int32}

theorem friends_ok_requested (ht : ∀ r ∈ t.friends.rows, r.Ok) (hne : a ≠ b) :
    ∀ r ∈ (t.requested a b).friends.rows, r.Ok := by
  intro r hr
  rcases mem_requested.mp hr with hr | ⟨rfl, -⟩
  · exact ht r hr
  · exact ⟨a, b, hne, rfl, rfl⟩

theorem friends_ok_accepted (ht : ∀ r ∈ t.friends.rows, r.Ok) :
    ∀ r ∈ (t.accepted a b).friends.rows, r.Ok := by
  intro r hr
  obtain ⟨r', hr', rfl⟩ := mem_accepted.mp hr
  split
  · exact ht r' hr'
  · exact ht r' hr'

theorem friends_ok_rejected (ht : ∀ r ∈ t.friends.rows, r.Ok) :
    ∀ r ∈ (t.rejected a b).friends.rows, r.Ok := by
  intro r hr
  exact ht r (mem_rejected.mp hr).1

end Friends

end Tables

namespace Tables.Ok

variable {t t' : Tables}

theorem empty : Tables.empty.Ok where
  users := fun _ hr => absurd hr List.not_mem_nil
  friends := fun _ hr => absurd hr List.not_mem_nil
  messages := fun _ hr => absurd hr List.not_mem_nil

theorem registered (ht : t.Ok) {r : UserRow} (hr : ValidUtf8 r.username)
    (hnew : t.registered r = some t') : t'.Ok := by
  obtain ⟨users, hins, rfl⟩ := Option.map_eq_some_iff.mp hnew
  refine { ht with users := ?_ }
  intro r' hr'
  rw [(Keyed.insert_eq_some hins).2, List.mem_append, List.mem_singleton] at hr'
  rcases hr' with hr' | rfl
  · exact ht.users r' hr'
  · exact hr

theorem stored (ht : t.Ok) (env : Env) (msg : Message) : (t.stored env msg).Ok := by
  refine { ht with messages := ?_ }
  intro r hr
  rcases List.mem_append.mp hr with hr | hr
  · exact ht.messages r hr
  · rw [List.mem_singleton.mp hr]
    exact ⟨⟨_, rfl⟩, ⟨_, rfl⟩, rfl⟩

theorem requested (ht : t.Ok) {a b : Int32} (hne : a ≠ b) : (t.requested a b).Ok :=
  { ht with friends := friends_ok_requested ht.friends hne }

theorem accepted (ht : t.Ok) (a b : Int32) : (t.accepted a b).Ok :=
  { ht with friends := friends_ok_accepted ht.friends }

theorem rejected (ht : t.Ok) (a b : Int32) : (t.rejected a b).Ok :=
  { ht with friends := friends_ok_rejected ht.friends }

end Tables.Ok

/-! ## Runs of the handler -/

namespace BusinessHandler

/-- The server starts with an idle connection. -/
theorem ready_start {tables : Tables} {pool_size : Nat} (hsize : 1 ≤ pool_size) :
    (start tables pool_size).db.Ready := by
  intro hempty
  have hlength := congrArg List.length hempty
  simp only [start, Database.init, List.nil_append, List.length_range, List.length_nil] at hlength
  omega

theorem SignsUp.validUtf8 {content password username : Bytes}
    (hfields : SignsUp content password username) : ValidUtf8 username := by
  obtain ⟨j, -, -, husername⟩ := hfields
  cases hj : member j "username" with
  | error e =>
      rw [hj] at husername
      cases husername
  | ok v =>
      rw [hj] at husername
      exact validUtf8_of_asString husername

variable [OpenSSL] {env : Env} {session : SessionId} {msg : Message} {h h' : BusinessHandler}

/-- Every effect keeps the invariant of the stored data. -/
theorem Did.ok (hdid : Did env session msg h h') (hok : h.db.tables.Ok) : h'.db.tables.Ok := by
  cases hdid with
  | signedUp pool hty hfields hnew => exact hok.registered (validUtf8_cstr hfields.validUtf8) hnew
  | @requested pool hty hne t₁ t₂ h₁ h₂ ps hps =>
      have hok₁ : t₁.Ok := by
        rcases h₁ with rfl | rfl
        · exact hok
        · exact hok.requested hne
      rcases h₂ with rfl | rfl
      · exact hok₁
      · exact hok₁.requested hne.symm
  | rejected pool hty hcontent => exact hok.rejected _ _
  | accepted pool hty hcontent => exact hok.accepted _ _
  | chatted pool hty ht =>
      rcases ht with rfl | rfl
      · exact hok
      · exact hok.stored env msg
  | idle pool hty => exact hok
  | refused pool hty hreason hcontent => exact hok
  | loggedIn pool hty hfree hr hauth hcontent => exact hok
  | loggedOut hty => exact hok
  | broadcast hty => exact hok
  | listed pool hty hcontent => exact hok
  | pulled pool hty hms => exact hok

/-- Every event keeps the invariant of the stored data. -/
theorem step_ok (h : BusinessHandler) (e : Event) (hok : h.db.tables.Ok) : (step h e).db.tables.Ok := by
  cases e with
  | frame env session msg => exact (step_did hok.users).ok hok
  | closed session => exact hok

/-- The stored data of a server that began with an empty database. -/
theorem exec_ok (pool_size : Nat) (es : List Event) :
    (exec step (start .empty pool_size) es).db.tables.Ok :=
  exec_preserves (I := fun h : BusinessHandler => h.db.tables.Ok) step_ok Tables.Ok.empty es

/-- What a frame does in a run of a server that began with an empty database. -/
theorem exec_step_did (pool_size : Nat) (es : List Event) :
    Did env session msg (exec step (start .empty pool_size) es)
      (step (exec step (start .empty pool_size) es) (.frame env session msg)) :=
  step_did (exec_ok pool_size es).users

end BusinessHandler

end TinyIM
