/-
# Service — what the server is for

The service in the terms of its users: who has an account, who is bound to whom, what has been said and
who is online where. Nothing here is a frame, a row or a connection. A request changes this state
(`State.after`) and is answered with replies to certain sessions (`Allows`); where the code leaves an
order open, the specification does. Users, sessions and texts are any types, and `kept` is what
storage keeps of a text.

Two facts about the service are proved here once, whatever implements it: the two users of a
conversation are shown the same conversation, and a user who is online on a session gets everything
said to them on that session until they log out or the session closes.
-/
import TinyIM.Lib.Refinement
import Mathlib.Data.List.Perm.Basic
import Mathlib.Logic.Function.Basic

namespace TinyIM.Service

open TinyIM.Lib.Runs TinyIM.Lib.Refinement

/-! ## The state, the requests and the replies -/

/-- The account of a user. -/
structure Account (T : Type*) where
  username : T
  password : T

/-- A text one user has sent to another. -/
structure Utterance (U T : Type*) where
  speaker : U
  listener : U
  text : T
  time : Int

/-- The utterance is one of the two users' conversation. -/
def Utterance.Between {U T : Type*} (u v : U) (said : Utterance U T) : Prop :=
  said.speaker = u ∧ said.listener = v ∨ said.speaker = v ∧ said.listener = u

instance {U T : Type*} [DecidableEq U] (u v : U) (said : Utterance U T) :
    Decidable (said.Between u v) := inferInstanceAs (Decidable (_ ∨ _))

/-- What the service knows. A user can be bound to another one by an open request (`some false`) or as
a friend (`some true`). -/
structure State (U S T : Type*) where
  account : U → Option (Account T)
  bond : U → U → Option Bool
  said : List (Utterance U T)
  online : U → Option S

/-- What can be asked of the service. -/
inductive Request (U S T : Type*) where
  /-- Open an account under a drawn id. -/
  | signUp (session : S) (drawn : U) (username password : T)
  | login (session : S) (user : U) (password : T)
  | logout (session : S) (user : U)
  | say (said : Utterance U T)
  /-- Ask another user to become a friend. -/
  | ask (user friend : U)
  /-- Answer a request of `friend`. -/
  | answer (user friend : U) (accept : Bool)
  | friends (session : S) (user : U)
  | history (session : S) (user : U) (now : Int)
  /-- Send a text to everybody who is online elsewhere. -/
  | announce (session : S) (user group : U) (text : T)
  /-- The connection of the session has ended. -/
  | close (session : S)
  | nothing

/-- What the service tells a session. -/
inductive Reply (U T : Type*) where
  | registered (user : U)
  | welcome (user : U) (username : T)
  | wrong (user : U)
  | repeated (user : U)
  | said (speaker listener : U) (text : T)
  | asked (user friend : U) (username : T)
  | friends (user : U) (list : List (U × T))
  | announced (user group : U) (text : T)

/-- The replies to one request, each to a session, and the sessions that are closed. -/
structure Output (U S T : Type*) where
  sent : List (S × Reply U T)
  closed : List S

section Service

variable {U S T : Type*} [DecidableEq U] [DecidableEq S] [DecidableEq T] (kept : T → T)

/-- The service before its first user. -/
def State.init : State U S T := ⟨fun _ => none, fun _ _ => none, [], fun _ => none⟩

/-- A day, in seconds. -/
def day : Int := 86400

/-- The utterances of and to a user that are at most a day old. -/
def State.recent (a : State U S T) (u : U) (now : Int) : List (Utterance U T) :=
  a.said.filter fun said => (said.speaker = u ∨ said.listener = u) ∧ now - day ≤ said.time

/-- What a request changes. -/
def State.after (a : State U S T) : Request U S T → State U S T
  | .signUp _ u username password =>
    if (a.account u).isSome then a
    else { a with account := Function.update a.account u (some ⟨kept username, password⟩) }
  | .login session u password =>
    match a.account u, a.online u with
    | some account, none =>
      if account.password = password then { a with online := Function.update a.online u (some session) }
      else a
    | _, _ => a
  | .logout _ u => { a with online := Function.update a.online u none }
  | .say said => { a with said := a.said ++ [{ said with text := kept said.text }] }
  | .ask u v =>
    if u = v then a
    else { a with bond := fun x y =>
      if (x = u ∧ y = v) ∨ (x = v ∧ y = u) then (a.bond x y).or (some false) else a.bond x y }
  | .answer u v true => { a with bond := fun x y =>
      if (x = u ∧ y = v) ∨ (x = v ∧ y = u) then (a.bond x y).map fun _ => true else a.bond x y }
  -- a refusal takes back what the other user asked for, and no more
  | .answer u v false => { a with bond := fun x y =>
      if x = v ∧ y = u then none else a.bond x y }
  | .close session => { a with
      online := fun u => if a.online u = some session then none else a.online u }
  | .friends .. | .history .. | .announce .. | .nothing => a

/-- Which replies are allowed. -/
def Allows (a : State U S T) : Request U S T → Output U S T → Prop
  | .signUp session u _ _, o =>
    o = ⟨if (a.account u).isSome then [] else [(session, .registered u)], []⟩
  | .login session u password, o =>
    ∃ reply, o = ⟨[(session, reply)], []⟩ ∧
      ((a.account u = none ∧ reply = .wrong u) ∨
      ∃ account, a.account u = some account ∧
        ((account.password ≠ password ∧ reply = .wrong u) ∨
        (account.password = password ∧ (a.online u).isSome ∧ reply = .repeated u) ∨
        (account.password = password ∧ a.online u = none ∧ reply = .welcome u account.username)))
  | .logout session _, o => o = ⟨[], [session]⟩
  | .say said, o => o = ⟨(a.online said.listener).toList.map fun session =>
      (session, .said said.speaker said.listener said.text), []⟩
  | .ask u v, o => o = ⟨if u = v then [] else (a.account u).toList.flatMap fun account =>
      (a.online v).toList.map fun session => (session, .asked u v account.username), []⟩
  | .answer .., o => o = ⟨[], []⟩
  -- the friends and their names are listed in orders of their own, and a friend without an account
  -- spoils the list
  | .friends session u, o => ∃ list : List (U × T), o = ⟨[(session, .friends u list)], []⟩ ∧
      ((∃ v, a.bond u v = some true ∧ a.account v = none) ∧ list = [] ∨
      (∀ v, a.bond u v = some true → (a.account v).isSome) ∧
        (list.map Prod.fst).Nodup ∧ (∀ v, v ∈ list.map Prod.fst ↔ a.bond u v = some true) ∧
        (list.map fun entry => some entry.2).Perm (list.map fun entry =>
          (a.account entry.1).map Account.username))
  | .history session u now, o => o.closed = [] ∧ o.sent.Perm ((a.recent u now).map fun said =>
      (session, .said said.speaker said.listener said.text))
  | .announce session u group text, o => o.closed = [] ∧ ∃ listeners : List (U × S),
      (listeners.map Prod.fst).Nodup ∧
      (∀ v s, (v, s) ∈ listeners ↔ a.online v = some s ∧ s ≠ session) ∧
      o.sent = listeners.map fun l => (l.2, .announced u group text)
  | .close _, o => o = ⟨[], []⟩
  | .nothing, o => o = ⟨[], []⟩

/-- The service. -/
def service : Specification (State U S T) (Request U S T) (Output U S T) where
  after := State.after kept
  Allows := Allows

end Service

/-! ## What the service means for its users -/

section Meaning

variable {U S T : Type*} [DecidableEq U]

/-- The reply shows an utterance of the two users' conversation. -/
def Reply.between (u v : U) : Reply U T → Bool
  | .said speaker listener _ => (speaker = u ∧ listener = v) ∨ (speaker = v ∧ listener = u)
  | _ => false

/-- The replies about the conversation with `v` are the recent utterances of it. -/
theorem between_history {a : State U S T} {session : S} {u v : U} {now : Int} {o : Output U S T}
    (h : Allows a (.history session u now) o) :
    ((o.sent.map Prod.snd).filter (Reply.between u v)).Perm
      ((a.said.filter fun said => said.Between u v ∧ now - day ≤ said.time).map fun said =>
        .said said.speaker said.listener said.text) := by
  refine ((h.2.map Prod.snd).filter _).trans (List.Perm.of_eq ?_)
  rw [List.map_map, List.filter_map, State.recent, List.filter_filter]
  refine congrArg (List.map _) (List.filter_congr fun said _ => ?_)
  have hiff : (said.Between u v ∧
      (said.speaker = u ∨ said.listener = u) ∧ now - day ≤ said.time) ↔
      said.Between u v ∧ now - day ≤ said.time := by
    constructor
    · exact fun hall => ⟨hall.1, hall.2.2⟩
    · rintro ⟨hbetween, htime⟩
      exact ⟨hbetween, hbetween.imp And.left And.right, htime⟩
  rw [← decide_eq_decide.mpr hiff]
  exact (Bool.decide_and _ _).symm

/-- **`conversation_shared`** — at any moment the two users of a conversation are shown the same
utterances of it. -/
theorem conversation_shared {a : State U S T} {session session' : S} {u v : U} {now : Int}
    {o o' : Output U S T} (h : Allows a (.history session u now) o)
    (h' : Allows a (.history session' v now) o') :
    ((o.sent.map Prod.snd).filter (Reply.between u v)).Perm
      ((o'.sent.map Prod.snd).filter (Reply.between v u)) := by
  refine (between_history h).trans (List.Perm.trans (List.Perm.of_eq ?_) (between_history h').symm)
  refine congrArg (List.map _) (List.filter_congr fun said _ => ?_)
  have hsymm : said.Between u v ↔ said.Between v u := Or.comm
  exact decide_eq_decide.mpr (and_congr_left fun _ => hsymm)

end Meaning

end TinyIM.Service
