/-
# ChatList — the items of the chat list, and the selected one

A click on an item first takes the class `selected` from the first item that has it, and throws if there
is none; everything else the click does comes after that. The items of the friends are thrown away and
made anew, unselected, whenever a friend list arrives. `click_throws_iff` says exactly when a click
fails: after a friend list has arrived while a friend was selected, and from then on always.

The items are the ones of the page: the public chat, the friends list, one for each friend and the
notification of friend requests, which is a chat item too. Items that are not shown cannot be clicked;
the runs here may click them all the same.
-/
import TinyIM.Page

namespace TinyIM

open TinyIM.Lib.Runs

/-! ## The items -/

/-- What the page knows of a friend. -/
structure Friend where
  id : Int
  name : JsString
  deriving DecidableEq

/-- The chat items in the order of the document, each with whether it has the class `selected`. -/
structure ChatList where
  publicChat : Bool
  friendsList : Bool
  friends : List (Friend × Bool)
  friendRequestNotification : Bool

/-- An item. -/
inductive ChatItem where
  | publicChat
  | friendsList
  | friend (k : Nat)
  | friendRequestNotification
  deriving DecidableEq

namespace ChatList

/-- The list when the page has been loaded. -/
def loaded : ChatList := ⟨true, false, [], false⟩

/-- The friends once the first selected one has lost the class, if one is selected. -/
def deselectFriend : List (Friend × Bool) → Option (List (Friend × Bool))
  | [] => none
  | (friend, true) :: rest => some ((friend, false) :: rest)
  | (friend, false) :: rest => (deselectFriend rest).map ((friend, false) :: ·)

/-- `document.querySelector('.chat-item.selected').classList.remove('selected')`; a throw without a
selected item. -/
def deselect (l : ChatList) : Except JsError ChatList :=
  if l.publicChat then .ok { l with publicChat := false }
  else if l.friendsList then .ok { l with friendsList := false }
  else match deselectFriend l.friends with
    | some friends => .ok { l with friends := friends }
    | none =>
      if l.friendRequestNotification then .ok { l with friendRequestNotification := false }
      else .error .TypeError

/-- `this.classList.add('selected')`. -/
def add (l : ChatList) : ChatItem → ChatList
  | .publicChat => { l with publicChat := true }
  | .friendsList => { l with friendsList := true }
  | .friend k => { l with friends := l.friends.modify k fun f => (f.1, true) }
  | .friendRequestNotification => { l with friendRequestNotification := true }

/-- The item is in the list. -/
def Has (l : ChatList) (item : ChatItem) : Prop :=
  ∀ k, item = .friend k → k < l.friends.length

instance decidableHas (l : ChatList) : (item : ChatItem) → Decidable (l.Has item)
  | .friend k => decidable_of_iff (k < l.friends.length)
      ⟨fun h _ hk => ChatItem.friend.inj hk ▸ h, fun h => h k rfl⟩
  | .publicChat => isTrue fun _ hk => ChatItem.noConfusion hk
  | .friendsList => isTrue fun _ hk => ChatItem.noConfusion hk
  | .friendRequestNotification => isTrue fun _ hk => ChatItem.noConfusion hk

/-- How a listener of an item begins. -/
def select (l : ChatList) (item : ChatItem) : Except JsError ChatList := do
  let l ← l.deselect
  return l.add item

/-- Replace the items of the friends. -/
def updateFriendsList (l : ChatList) (friends : List Friend) : ChatList :=
  { l with friends := friends.map fun friend => (friend, false) }

/-- What happens to the list. -/
inductive Event where
  | click (item : ChatItem)
  | updateFriendsList (friends : List Friend)

/-- One event; a throw leaves the list as it is. -/
def step (l : ChatList) : Event → ChatList
  | .click item =>
    if l.Has item then
      match l.select item with
      | .ok l' => l'
      | .error _ => l
    else l
  | .updateFriendsList friends => l.updateFriendsList friends

/-! ## How many items are selected -/

/-- A friend is selected. -/
def friendSelected (l : ChatList) : Bool := l.friends.any Prod.snd

/-- The number of selected items. -/
def count (l : ChatList) : Nat :=
  l.publicChat.toNat + l.friendsList.toNat + l.friends.countP Prod.snd +
    l.friendRequestNotification.toNat

section Count

variable {l l' : ChatList} {friends friends' : List (Friend × Bool)} {item : ChatItem}

theorem deselectFriend_eq_none : deselectFriend friends = none ↔ friends.countP Prod.snd = 0 := by
  induction friends with
  | nil => exact iff_of_true rfl rfl
  | cons f friends ih =>
      obtain ⟨friend, selected⟩ := f
      cases selected with
      | true =>
          rw [List.countP_cons_of_pos rfl]
          exact iff_of_false (Option.some_ne_none _) (Nat.succ_ne_zero _)
      | false =>
          rw [List.countP_cons_of_neg Bool.false_ne_true, ← ih, deselectFriend, Option.map_eq_none_iff]

theorem deselectFriend_eq_some (h : deselectFriend friends = some friends') :
    friends.countP Prod.snd = friends'.countP Prod.snd + 1 ∧
      friends'.map Prod.fst = friends.map Prod.fst := by
  induction friends generalizing friends' with
  | nil => cases h
  | cons f friends ih =>
      obtain ⟨friend, selected⟩ := f
      cases selected with
      | true =>
          rw [← Option.some.inj h, List.countP_cons_of_pos rfl, List.countP_cons_of_neg Bool.false_ne_true]
          exact ⟨rfl, rfl⟩
      | false =>
          obtain ⟨rest, hrest, rfl⟩ := Option.map_eq_some_iff.mp h
          obtain ⟨hcount, hsame⟩ := ih hrest
          rw [List.countP_cons_of_neg Bool.false_ne_true, List.countP_cons_of_neg Bool.false_ne_true,
            List.map_cons, List.map_cons, hsame]
          exact ⟨hcount, rfl⟩

/-- Exactly a list without a selected item cannot be deselected. -/
theorem deselect_eq_error : (∃ x, l.deselect = .error x) ↔ l.count = 0 := by
  obtain ⟨publicChat, friendsList, friends, notification⟩ := l
  unfold deselect count
  cases publicChat with
  | true => simp
  | false =>
      cases friendsList with
      | true => simp
      | false =>
          cases hfriends : deselectFriend friends with
          | some friends' =>
              have hcount := (deselectFriend_eq_some hfriends).1
              simp [hcount]
          | none =>
              have hcount := deselectFriend_eq_none.mp hfriends
              cases notification with
              | true => simp
              | false => simp [hcount]

/-- Deselecting takes the class from one item and moves nothing. -/
theorem deselect_eq_ok (h : l.deselect = .ok l') :
    l.count = l'.count + 1 ∧ l'.friends.map Prod.fst = l.friends.map Prod.fst := by
  obtain ⟨publicChat, friendsList, friends, notification⟩ := l
  unfold deselect at h
  cases publicChat with
  | true =>
      rw [← Except.ok.inj h]
      refine ⟨?_, rfl⟩
      simp only [count, Bool.toNat_true, Bool.toNat_false]
      omega
  | false =>
      cases friendsList with
      | true =>
          rw [← Except.ok.inj h]
          refine ⟨?_, rfl⟩
          simp only [count, Bool.toNat_true, Bool.toNat_false]
          omega
      | false =>
          cases hfriends : deselectFriend friends with
          | some friends' =>
              simp only [hfriends] at h
              obtain ⟨hcount, hsame⟩ := deselectFriend_eq_some hfriends
              rw [← Except.ok.inj h]
              refine ⟨?_, hsame⟩
              simp only [count, hcount, Bool.toNat_false]
              omega
          | none =>
              simp only [hfriends] at h
              cases notification with
              | true =>
                  rw [← Except.ok.inj h]
                  refine ⟨?_, rfl⟩
                  simp only [count, Bool.toNat_true, Bool.toNat_false]
              | false => cases h

/-- Adding the class moves no friend. -/
theorem map_fst_modify (friends : List (Friend × Bool)) (k : Nat) :
    (friends.modify k fun f => (f.1, true)).map Prod.fst = friends.map Prod.fst := by
  apply List.ext_getElem?
  intro i
  rw [List.getElem?_map, List.getElem?_map, List.getElem?_modify]
  cases friends[i]? with
  | none => rfl
  | some f =>
      show some (if k = i then (f.1, true) else f).1 = some f.1
      split
      · rfl
      · rfl

/-- The item that is added to a list without a selected item is the only selected one. -/
theorem count_add (h : l.count = 0) (hitem : l.Has item) : (l.add item).count = 1 := by
  obtain ⟨publicChat, friendsList, friends, notification⟩ := l
  have hparts : publicChat.toNat = 0 ∧ friendsList.toNat = 0 ∧ friends.countP Prod.snd = 0 ∧
      notification.toNat = 0 := by
    unfold count at h
    dsimp only at h
    omega
  obtain ⟨hpublic, hlist, hfriends, hnotification⟩ := hparts
  cases item with
  | publicChat => simp only [add, count, hlist, hfriends, hnotification, Bool.toNat_true]
  | friendsList => simp only [add, count, hpublic, hfriends, hnotification, Bool.toNat_true]
  | friendRequestNotification => simp only [add, count, hpublic, hlist, hfriends, Bool.toNat_true]
  | friend k =>
      have hk : k < friends.length := hitem k rfl
      have hnone : ∀ fs : List (Friend × Bool), List.Sublist fs friends → fs.countP Prod.snd = 0 := by
        intro fs hfs
        exact Nat.le_zero.mp (hfriends ▸ hfs.countP_le)
      have hone : (friends.modify k fun f => (f.1, true)).countP Prod.snd = 1 := by
        rw [List.modify_eq_take_cons_drop hk, List.countP_append, List.countP_cons_of_pos rfl,
          hnone _ (List.take_sublist _ _), hnone _ (List.drop_sublist _ _)]
      simp only [add, count, hpublic, hlist, hnotification, hone]

/-- A friend is selected exactly if one of the counted items is a friend. -/
theorem friendSelected_iff : l.friendSelected = true ↔ 0 < l.friends.countP Prod.snd := by
  rw [friendSelected, List.any_eq_true, List.countP_pos_iff]

/-- A click moves no friend. -/
theorem map_fst_select (h : l.select item = .ok l') :
    l'.friends.map Prod.fst = l.friends.map Prod.fst := by
  unfold select at h
  cases hl : l.deselect with
  | error x =>
      rw [hl] at h
      cases h
  | ok l₁ =>
      rw [hl] at h
      rw [← Except.ok.inj h, ← (deselect_eq_ok hl).2]
      cases item with
      | friend k => exact map_fst_modify l₁.friends k
      | _ => rfl

/-- A click moves no friend, also if it fails. -/
theorem map_fst_step_click (l : ChatList) (item : ChatItem) :
    (step l (.click item)).friends.map Prod.fst = l.friends.map Prod.fst := by
  unfold step
  dsimp only
  split
  · split
    · rename_i hselect
      exact map_fst_select hselect
    · rfl
  · rfl

/-- The friend whose item is clicked is still in the list. -/
theorem lt_length_select {k : Nat} (h : l.select item = .ok l') (hitem : l.Has (.friend k)) :
    k < l'.friends.length := by
  rw [← List.length_map (f := Prod.fst), map_fst_select h, List.length_map]
  exact hitem k rfl

/-- With a selected item a click does not throw. -/
theorem select_of_count_ne_zero (h : l.count ≠ 0) (item : ChatItem) :
    ∃ chats, l.select item = .ok chats := by
  unfold select
  cases hl : l.deselect with
  | error x => exact absurd (deselect_eq_error.mp ⟨x, hl⟩) h
  | ok l₁ => exact ⟨l₁.add item, rfl⟩

/-- A click on an item moves the selection there, and throws exactly if nothing is selected. -/
theorem select_spec (hcount : l.count ≤ 1) (hitem : l.Has item) :
    (l.count = 0 ∧ ∃ x, l.select item = .error x) ∨
      (l.count = 1 ∧ ∃ l', l.select item = .ok l' ∧ l'.count = 1) := by
  unfold select
  cases hl : l.deselect with
  | error x => exact Or.inl ⟨deselect_eq_error.mp ⟨x, hl⟩, x, rfl⟩
  | ok l₁ =>
      obtain ⟨hone, hsame⟩ := deselect_eq_ok hl
      have hzero : l₁.count = 0 := by omega
      have hitem₁ : l₁.Has item := by
        intro k hk
        have hlength := congrArg List.length hsame
        rw [List.length_map, List.length_map] at hlength
        rw [hlength]
        exact hitem k hk
      exact Or.inr ⟨by omega, l₁.add item, rfl, count_add hzero hitem₁⟩

end Count

/-! ## Runs -/

/-- Some friend list of the run arrived while a friend was selected. -/
def Lost (es : List Event) : Prop :=
  ∃ pre friends rest, es = pre ++ .updateFriendsList friends :: rest ∧
    (exec step loaded pre).friendSelected = true

section Runs

variable {l : ChatList} {es : List Event} {item : ChatItem}

theorem not_lost_nil : ¬Lost [] := by
  rintro ⟨pre, friends, rest, hes, -⟩
  exact absurd hes (by simp)

/-- One more event: it is the friend list that takes the selection away, or there was one before. -/
theorem lost_concat {e : Event} : Lost (es ++ [e]) ↔ Lost es ∨
    (∃ friends, e = .updateFriendsList friends) ∧ (exec step loaded es).friendSelected = true := by
  constructor
  · rintro ⟨pre, friends, rest, hes, hselected⟩
    rcases List.eq_nil_or_concat rest with rfl | ⟨rest', f, rfl⟩
    · obtain ⟨rfl, he⟩ := List.append_inj' hes rfl
      exact Or.inr ⟨⟨friends, List.singleton_inj.mp he⟩, hselected⟩
    · rw [List.concat_eq_append, ← List.cons_append, ← List.append_assoc] at hes
      obtain ⟨rfl, -⟩ := List.append_inj' hes rfl
      exact Or.inl ⟨pre, friends, rest', rfl, hselected⟩
  · rintro (⟨pre, friends, rest, rfl, hselected⟩ | ⟨⟨friends, rfl⟩, hselected⟩)
    · exact ⟨pre, friends, rest ++ [e], by simp, hselected⟩
    · exact ⟨es, friends, [], rfl, hselected⟩

/-- A new friend list takes the selected friend away, and nothing else. -/
theorem count_updateFriendsList (friends : List Friend) :
    (l.updateFriendsList friends).count + l.friends.countP Prod.snd = l.count := by
  have hnone : (friends.map fun friend => (friend, false)).countP Prod.snd = 0 := by
    rw [List.countP_eq_zero]
    intro f hf
    obtain ⟨friend, -, rfl⟩ := List.mem_map.mp hf
    exact Bool.false_ne_true
  simp only [updateFriendsList, count, hnone]
  omega

/-- At most one item is selected, and none exactly if the selection has been taken away. -/
theorem count_exec (es : List Event) :
    (exec step loaded es).count ≤ 1 ∧ ((exec step loaded es).count = 0 ↔ Lost es) := by
  have hstart : loaded.count ≤ 1 ∧ (loaded.count = 0 ↔ Lost []) :=
    ⟨Nat.le_refl 1, iff_of_false Nat.one_ne_zero not_lost_nil⟩
  refine exec_history (R := fun es (l : ChatList) => l.count ≤ 1 ∧ (l.count = 0 ↔ Lost es))
    hstart ?_ es
  rintro es e ⟨hle, hzero⟩
  rw [lost_concat]
  generalize hl : exec step loaded es = l at hle hzero ⊢
  cases e with
  | updateFriendsList friends =>
      have hcount := count_updateFriendsList (l := l) friends
      show (l.updateFriendsList friends).count ≤ 1 ∧ ((l.updateFriendsList friends).count = 0 ↔ _)
      refine ⟨by omega, ?_⟩
      rw [← hzero, friendSelected_iff, and_iff_right ⟨friends, rfl⟩]
      omega
  | click item =>
      have hnot : ¬((∃ friends, Event.click item = .updateFriendsList friends) ∧
          l.friendSelected = true) := by
        rintro ⟨⟨friends, hfriends⟩, -⟩
        cases hfriends
      rw [or_iff_left hnot, ← hzero]
      unfold step
      dsimp only
      by_cases hitem : l.Has item
      · rw [if_pos hitem]
        rcases select_spec hle hitem with ⟨-, x, hx⟩ | ⟨hone, l', hl', hone'⟩
        · rw [hx]
          exact ⟨hle, Iff.rfl⟩
        · rw [hl']
          exact ⟨hone'.le, by rw [hone, hone']⟩
      · rw [if_neg hitem]
        exact ⟨hle, Iff.rfl⟩

/-- **`click_throws_iff`** — after every run, a click on any item of the list throws exactly if some
friend list of the run arrived while a friend was selected. -/
theorem click_throws_iff (es : List Event) (item : ChatItem) (h : (exec step loaded es).Has item) :
    (∃ x, (exec step loaded es).select item = .error x) ↔ Lost es := by
  obtain ⟨hle, hzero⟩ := count_exec es
  rw [← hzero]
  rcases select_spec hle h with ⟨hnone, x, hx⟩ | ⟨hone, l', hl', -⟩
  · exact iff_of_true ⟨x, hx⟩ hnone
  · refine iff_of_false ?_ (by omega)
    rintro ⟨x, hx⟩
    rw [hl'] at hx
    cases hx

/-- A friend list, a friend, the list again: no item can be opened any more. -/
theorem click_throws_iff_reload :
    let es := [.updateFriendsList [⟨2, js "bob"⟩], .click (.friend 0), .updateFriendsList []]
    (∃ x, (exec step loaded es).select .publicChat = .error x) ↔ Lost es :=
  click_throws_iff _ _ (by decide +kernel)

end Runs

end ChatList

end TinyIM
