/-
# Durability — what has been stored stays stored

An exception that leaves the event loop costs the server its sessions, its registry of logged-in users
and whatever it had not written yet; the database file stays. `data_survives` says over whole runs of
the process, with any number of such exceptions and of rebuilt servers, that accounts and messages are
only ever added, and that a row of `friends` goes only by a "reject" of the user in it and never becomes
pending again.
-/
import TinyIM.Server

namespace TinyIM

open TinyIM.Lib TinyIM.Lib.Text TinyIM.Lib.Table TinyIM.Lib.Runs TinyIM.Lib.Stops

namespace Tables

/-- What was stored is still there, but for rows of `friends` with a key of `Gone`. -/
structure KeptBut (Gone : Bytes × Bytes → Prop) (t t' : Tables) : Prop where
  users : t.users.rows <+: t'.users.rows
  messages : t.messages.rows <+: t'.messages.rows
  offline_messages : t'.offline_messages = t.offline_messages
  friends : ∀ r ∈ t.friends.rows, Gone r.key ∨
    ∃ r' ∈ t'.friends.rows, r'.key = r.key ∧ (r.status = 1 → r'.status = 1)

section Kept

variable {Gone Gone' : Bytes × Bytes → Prop} {t t' t'' : Tables}

theorem KeptBut.refl (t : Tables) : KeptBut Gone t t where
  users := List.prefix_refl _
  messages := List.prefix_refl _
  offline_messages := rfl
  friends := fun r hr => Or.inr ⟨r, hr, rfl, id⟩

theorem KeptBut.trans (h : KeptBut Gone t t') (h' : KeptBut Gone' t' t'') :
    KeptBut (fun key => Gone key ∨ Gone' key) t t'' where
  users := h.users.trans h'.users
  messages := h.messages.trans h'.messages
  offline_messages := h'.offline_messages.trans h.offline_messages
  friends := by
    intro r hr
    rcases h.friends r hr with hgone | ⟨r', hr', hkey, hstatus⟩
    · exact Or.inl (Or.inl hgone)
    · rcases h'.friends r' hr' with hgone | ⟨r'', hr'', hkey', hstatus'⟩
      · exact Or.inl (Or.inr (hkey ▸ hgone))
      · exact Or.inr ⟨r'', hr'', hkey'.trans hkey, fun h => hstatus' (hstatus h)⟩

theorem KeptBut.mono (h : KeptBut Gone t t') (hgone : ∀ key, Gone key → Gone' key) :
    KeptBut Gone' t t' :=
  { h with friends := fun r hr => (h.friends r hr).imp_left (hgone r.key) }

/-- Only the rows of `friends` have changed, and none is gone. -/
theorem keptBut_of_friends (husers : t'.users = t.users) (hmessages : t'.messages = t.messages)
    (hoffline : t'.offline_messages = t.offline_messages)
    (hfriends : ∀ r ∈ t.friends.rows,
      ∃ r' ∈ t'.friends.rows, r'.key = r.key ∧ (r.status = 1 → r'.status = 1)) :
    KeptBut Gone t t' where
  users := husers ▸ List.prefix_refl _
  messages := hmessages ▸ List.prefix_refl _
  offline_messages := hoffline
  friends := fun r hr => Or.inr (hfriends r hr)

theorem keptBut_registered {r : UserRow} (h : t.registered r = some t') : KeptBut Gone t t' := by
  obtain ⟨users, hins, rfl⟩ := Option.map_eq_some_iff.mp h
  refine { KeptBut.refl t with users := ?_ }
  rw [(Keyed.insert_eq_some hins).2]
  exact List.prefix_append _ _

theorem keptBut_stored (t : Tables) (env : Env) (msg : Message) : KeptBut Gone t (t.stored env msg) :=
  { KeptBut.refl t with messages := List.prefix_append _ _ }

theorem keptBut_requested (t : Tables) (a b : Int32) : KeptBut Gone t (t.requested a b) :=
  keptBut_of_friends rfl rfl rfl fun r hr => ⟨r, mem_requested.mpr (Or.inl hr), rfl, id⟩

theorem keptBut_accepted (t : Tables) (a b : Int32) : KeptBut Gone t (t.accepted a b) := by
  refine keptBut_of_friends rfl rfl rfl fun r hr => ⟨_, mem_accepted.mpr ⟨r, hr, rfl⟩, ?_⟩
  split
  · exact ⟨r.key_accepted, fun _ => rfl⟩
  · exact ⟨rfl, id⟩

theorem keptBut_rejected (t : Tables) (a b : Int32) :
    KeptBut (· = (to_string a, to_string b)) t (t.rejected a b) := by
  refine ⟨List.prefix_refl _, List.prefix_refl _, rfl, fun r hr => ?_⟩
  by_cases hrow : r.user_id = to_string a ∧ r.friend_id = to_string b
  · exact Or.inl (Prod.ext hrow.1 hrow.2)
  · exact Or.inr ⟨r, mem_rejected.mpr ⟨hr, hrow⟩, rfl, id⟩

end Kept

end Tables

namespace BusinessHandler

/-- The event is a "reject" of the request in the row with the key, by the user it went to. -/
def Withdraws (key : Bytes × Bytes) : Event → Prop
  | .frame _ _ msg => msg.messageType = .FRIEND_REQUEST_RESPONSE ∧ msg.content = str "reject" ∧
      key = (to_string msg.toUserId, to_string msg.fromUserId)
  | .closed _ => False

section Steps

variable [OpenSSL] {h h' : BusinessHandler}

/-- A frame removes a row of `friends` only if it rejects the request. -/
theorem Did.keptBut {env : Env} {session : SessionId} {msg : Message}
    (hdid : Did env session msg h h') : Tables.KeptBut
      (fun key => Withdraws key (.frame env session msg)) h.db.tables h'.db.tables := by
  cases hdid with
  | signedUp pool hty hfields hnew => exact Tables.keptBut_registered hnew
  | @requested pool hty hne t₁ t₂ h₁ h₂ ps hps =>
      have hkept₁ : Tables.KeptBut (fun _ => False) h.db.tables t₁ := by
        rcases h₁ with rfl | rfl
        · exact .refl _
        · exact Tables.keptBut_requested _ _ _
      have hkept₂ : Tables.KeptBut (fun _ => False) t₁ t₂ := by
        rcases h₂ with rfl | rfl
        · exact .refl _
        · exact Tables.keptBut_requested _ _ _
      exact (hkept₁.trans hkept₂).mono fun _ hgone => hgone.elim False.elim False.elim
  | rejected pool hty hcontent =>
      exact (Tables.keptBut_rejected _ _ _).mono fun key hkey => ⟨hty, hcontent, hkey⟩
  | accepted pool hty hcontent => exact Tables.keptBut_accepted _ _ _
  | chatted pool hty ht =>
      rcases ht with rfl | rfl
      · exact .refl _
      · exact Tables.keptBut_stored _ _ _
  | idle pool hty => exact .refl _
  | refused pool hty hreason hcontent => exact .refl _
  | loggedIn pool hty hfree hr hauth hcontent => exact .refl _
  | loggedOut hty => exact .refl _
  | broadcast hty => exact .refl _
  | listed pool hty hcontent => exact .refl _
  | pulled pool hty hms => exact .refl _

/-- Over a run of the handler, only the rejected rows go. -/
theorem exec_keptBut (hok : h.db.tables.Ok) (es : List Event) : Tables.KeptBut
    (fun key => ∃ e ∈ es, Withdraws key e) h.db.tables (exec step h es).db.tables := by
  induction es generalizing h with
  | nil => exact .refl _
  | cons e es ih =>
      have hfirst : Tables.KeptBut (fun key => Withdraws key e) h.db.tables (step h e).db.tables := by
        cases e with
        | frame env session msg => exact (step_did hok.users).keptBut
        | closed session => exact .refl _
      refine (hfirst.trans (ih (step_ok h e hok))).mono ?_
      rintro key (hgone | ⟨e', he', hgone⟩)
      · exact ⟨e, List.mem_cons_self, hgone⟩
      · exact ⟨e', List.mem_cons_of_mem _ he', hgone⟩

end Steps

end BusinessHandler

namespace Server

section Runs

variable [OpenSSL] {pool_size : Nat} {v : Server}

/-- A rebuilt server works on the same file. -/
theorem restart_tables (v : Server) :
    (step pool_size v .restart).handler.db.tables = v.handler.db.tables := by
  unfold step
  split
  · rfl
  · rfl

/-- One event of the server removes no rows but those its frame rejects. -/
theorem step_keptBut (hok : v.handler.db.tables.Ok) (e : Event) : Tables.KeptBut
    (fun key => ∃ f ∈ emit v e, BusinessHandler.Withdraws key f) v.handler.db.tables
      (step pool_size v e).handler.db.tables := by
  by_cases he : e = .restart
  · rw [he, restart_tables]
    exact .refl _
  · rw [handler_step e he]
    exact BusinessHandler.exec_keptBut hok _

theorem exec_keptBut (hok : v.handler.db.tables.Ok) (es : List Event) : Tables.KeptBut
    (fun key => ∃ f ∈ emitted (step pool_size) emit v es, BusinessHandler.Withdraws key f)
      v.handler.db.tables (exec (step pool_size) v es).handler.db.tables := by
  induction es generalizing v with
  | nil => exact .refl _
  | cons e es ih =>
      refine ((step_keptBut hok e).trans (ih (step_ok v e hok))).mono ?_
      rintro key (⟨f, hf, hgone⟩ | ⟨f, hf, hgone⟩)
      · exact ⟨f, List.mem_append_left _ hf, hgone⟩
      · exact ⟨f, List.mem_append_right _ hf, hgone⟩

/-- **`data_survives`** — whatever happens after any point of a run of the process, exceptions that end
the event loop, rebuilt servers and failing SQLite calls included: no account and no message is changed
or removed, they are only appended; every row of `friends` is still there, accepted if it was, unless the
user who was asked has rejected the request in between. -/
theorem data_survives (pool_size : Nat) (es fs : List Event) :
    let v := exec (step pool_size) (start pool_size) es
    Tables.KeptBut
      (fun key => ∃ f ∈ emitted (step pool_size) emit v fs, BusinessHandler.Withdraws key f)
      v.handler.db.tables (exec (step pool_size) v fs).handler.db.tables := by
  intro v
  exact exec_keptBut (exec_ok pool_size es) fs

end Runs

end Server

end TinyIM
