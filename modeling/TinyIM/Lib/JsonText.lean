/-
# JsonText — what the parser reads, in any dialect

Two facts about the parser that do not depend on the dialect. What it accepts contains no NUL: every
character it consumes is one the grammar names. And it reads back the string literals the serializer
writes.
-/
import TinyIM.Lib.Json

namespace TinyIM.Lib.Json

open TinyIM.Lib.Text

/-! ## The characters consumed -/

/-- `r` is what is left of `cs` after reading characters other than NUL. -/
def Reads (cs r : List Char) : Prop := ∃ p, cs = p ++ r ∧ '\x00' ∉ p

theorem Reads.refl (cs : List Char) : Reads cs cs := ⟨[], rfl, List.not_mem_nil⟩

theorem Reads.trans {cs ds r : List Char} (h : Reads cs ds) (h' : Reads ds r) : Reads cs r := by
  obtain ⟨p, rfl, hp⟩ := h
  obtain ⟨q, rfl, hq⟩ := h'
  refine ⟨p ++ q, (List.append_assoc p q r).symm, ?_⟩
  intro hmem
  exact (List.mem_append.mp hmem).elim hp hq

theorem Reads.cons {c : Char} {cs r : List Char} (hc : c ≠ '\x00') (h : Reads cs r) :
    Reads (c :: cs) r := by
  obtain ⟨p, rfl, hp⟩ := h
  refine ⟨c :: p, rfl, ?_⟩
  intro hmem
  exact (List.mem_cons.mp hmem).elim (fun heq => hc heq.symm) hp

theorem reads_dropWhile {p : Char → Bool} (hp : p '\x00' = false) (cs : List Char) :
    Reads cs (cs.dropWhile p) := by
  refine ⟨cs.takeWhile p, List.takeWhile_append_dropWhile.symm, ?_⟩
  intro hmem
  rw [List.mem_takeWhile_imp hmem] at hp
  cases hp

theorem reads_skipWs (cs : List Char) : Reads cs (skipWs cs) := reads_dropWhile (by decide) cs

theorem reads_digits (cs : List Char) : Reads cs (cs.dropWhile Char.isDigit) :=
  reads_dropWhile (by decide) cs

theorem ne_nul_of_hexValue {c : Char} {n : Nat} (h : hexValue c = some n) : c ≠ '\x00' := by
  have hnul : hexValue '\x00' = none := by decide
  rintro rfl
  rw [hnul] at h
  cases h

theorem ne_nul_of_unescape {c c' : Char} (h : unescape c = some c') : c ≠ '\x00' := by
  have hnul : unescape '\x00' = none := by decide
  rintro rfl
  rw [hnul] at h
  cases h

theorem ne_nul_of_hex4 {a b c e : Char} {u : Nat} (h : hex4 a b c e = some u) :
    a ≠ '\x00' ∧ b ≠ '\x00' ∧ c ≠ '\x00' ∧ e ≠ '\x00' := by
  unfold hex4 at h
  obtain ⟨a', ha, h⟩ := Option.bind_eq_some_iff.mp h
  obtain ⟨b', hb, h⟩ := Option.bind_eq_some_iff.mp h
  obtain ⟨c', hc, h⟩ := Option.bind_eq_some_iff.mp h
  obtain ⟨e', he, -⟩ := Option.bind_eq_some_iff.mp h
  exact ⟨ne_nul_of_hexValue ha, ne_nul_of_hexValue hb, ne_nul_of_hexValue hc, ne_nul_of_hexValue he⟩

/-- Building something from what was read does not change what is left. -/
theorem reads_of_map {α β : Type} {f : α × List Char → β × List Char}
    {o : Option (α × List Char)} {cs r : List Char} {b : β} (h : o.map f = some (b, r))
    (ho : ∀ a r, o = some (a, r) → Reads cs r) (hf : ∀ p, (f p).2 = p.2) : Reads cs r := by
  obtain ⟨⟨a, r'⟩, hp, heq⟩ := Option.map_eq_some_iff.mp h
  have hr : r' = r := (hf (a, r')).symm.trans (congrArg Prod.snd heq)
  rw [← hr]
  exact ho a r' hp

theorem reads_scanUnits (cs : List Char) : ∀ us r, scanUnits cs = some (us, r) → Reads cs r := by
  fun_induction scanUnits cs with
  | case1 => exact fun us r h => by cases h
  | case2 r' =>
      intro us r h
      obtain ⟨-, rfl⟩ := Prod.mk.inj (Option.some.inj h)
      exact (Reads.refl r').cons (by decide)
  | case3 => exact fun us r h => by cases h
  | case4 a₀ a₁ a₂ a₃ r' u hu _ ih =>
      intro us r h
      obtain ⟨h₀, h₁, h₂, h₃⟩ := ne_nul_of_hex4 hu
      have hrest : Reads r' r := reads_of_map h ih fun _ => rfl
      exact (((((hrest.cons h₃).cons h₂).cons h₁).cons h₀).cons (by decide)).cons (by decide)
  | case5 => exact fun us r h => by cases h
  | case6 e r' _ c hc _ ih =>
      intro us r h
      have hrest : Reads r' r := reads_of_map h ih fun _ => rfl
      exact (hrest.cons (ne_nul_of_unescape hc)).cons (by decide)
  | case7 => exact fun us r h => by cases h
  | case8 => exact fun us r h => by cases h
  | case9 c r' _ _ hc ih =>
      intro us r h
      have hrest : Reads r' r := reads_of_map h ih fun _ => rfl
      refine hrest.cons ?_
      rintro rfl
      exact hc (by decide)

theorem reads_scanMinus (cs : List Char) : Reads cs (scanMinus cs).2 := by
  unfold scanMinus
  split
  · exact (Reads.refl _).cons (by decide)
  · exact Reads.refl _

theorem reads_scanSign (cs : List Char) : Reads cs (scanSign cs).2 := by
  unfold scanSign
  split
  · exact (Reads.refl _).cons (by decide)
  · exact (Reads.refl _).cons (by decide)
  · exact Reads.refl _

theorem reads_scanFraction {cs f r : List Char} (h : scanFraction cs = some (f, r)) : Reads cs r := by
  unfold scanFraction at h
  split at h
  · split at h
    · cases h
    · obtain ⟨-, rfl⟩ := Prod.mk.inj (Option.some.inj h)
      exact (reads_digits _).cons (by decide)
  · obtain ⟨-, rfl⟩ := Prod.mk.inj (Option.some.inj h)
    exact Reads.refl _

theorem reads_scanExponent {cs r : List Char} {e : Option Int} (h : scanExponent cs = some (e, r)) :
    Reads cs r := by
  unfold scanExponent at h
  split at h
  · obtain ⟨-, rfl⟩ := Prod.mk.inj (Option.some.inj h)
    exact Reads.refl _
  · rename_i c r'
    simp only at h
    split at h
    · rename_i hc
      split at h
      · cases h
      · obtain ⟨-, rfl⟩ := Prod.mk.inj (Option.some.inj h)
        refine ((reads_scanSign r').trans (reads_digits _)).cons ?_
        rintro rfl
        exact absurd hc (by decide)
    · obtain ⟨-, rfl⟩ := Prod.mk.inj (Option.some.inj h)
      exact Reads.refl _

theorem reads_scanNumber {cs r : List Char} {n : Number} (h : scanNumber cs = some (n, r)) :
    Reads cs r := by
  unfold scanNumber at h
  simp only at h
  split at h
  · cases h
  · split at h
    · cases h
    · rename_i fraction r' hfraction
      have hexponent : Reads r' r := reads_of_map h (fun _ _ => reads_scanExponent) fun _ => rfl
      exact (((reads_scanMinus cs).trans (reads_digits _)).trans
        (reads_scanFraction hfraction)).trans hexponent

theorem reads_keyword {C F : Type} {w cs r : List Char} {v v' : Json (List C) F} (hw : '\x00' ∉ w)
    (h : keyword w v cs = some (v', r)) : Reads cs r := by
  unfold keyword at h
  split at h
  · rename_i hprefix
    obtain ⟨t, rfl⟩ := List.isPrefixOf_iff_prefix.mp hprefix
    obtain ⟨-, rfl⟩ := Prod.mk.inj (Option.some.inj h)
    rw [List.drop_left]
    exact ⟨w, rfl, hw⟩
  · cases h

theorem reads_scanString {C F : Type} {d : Dialect C F} {cs r : List Char} {s : List C}
    (h : scanString d cs = some (s, r)) : Reads cs r := by
  unfold scanString at h
  split at h
  · cases h
  · rename_i us r' hus
    obtain ⟨t, -, heq⟩ := Option.map_eq_some_iff.mp h
    obtain ⟨-, rfl⟩ := Prod.mk.inj heq
    exact reads_scanUnits cs us r' hus

section Parser

variable {C F : Type} [BEq C] {d : Dialect C F} {fuel : Nat} {cs r : List Char}

theorem reads_value {v : Json (List C) F}
    (ihe : ∀ cs vs r, parseElements d fuel cs = some (vs, r) → Reads cs r)
    (ihm : ∀ cs ms r, parseMembers d fuel cs = some (ms, r) → Reads cs r)
    (h : parseValue d (fuel + 1) cs = some (v, r)) : Reads cs r := by
  refine (reads_skipWs cs).trans ?_
  rw [parseValue] at h
  split at h
  · cases h
  · rename_i c cs' hcs
    rw [hcs]
    by_cases hobject : c = '{'
    · rw [if_pos hobject] at h
      refine Reads.cons (by rw [hobject]; decide) ((reads_skipWs cs').trans ?_)
      split at h
      · rename_i r' hr'
        obtain ⟨-, rfl⟩ := Prod.mk.inj (Option.some.inj h)
        rw [hr']
        exact (Reads.refl _).cons (by decide)
      · exact reads_of_map h (ihm _) fun _ => rfl
    · rw [if_neg hobject] at h
      by_cases harray : c = '['
      · rw [if_pos harray] at h
        refine Reads.cons (by rw [harray]; decide) ((reads_skipWs cs').trans ?_)
        split at h
        · rename_i r' hr'
          obtain ⟨-, rfl⟩ := Prod.mk.inj (Option.some.inj h)
          rw [hr']
          exact (Reads.refl _).cons (by decide)
        · exact reads_of_map h (ihe _) fun _ => rfl
      · rw [if_neg harray] at h
        split at h
        · rename_i hstring
          refine Reads.cons (by rw [hstring]; decide) ?_
          exact reads_of_map h (fun _ _ => reads_scanString) fun _ => rfl
        · split at h
          · exact reads_keyword (by decide) h
          · split at h
            · exact reads_keyword (by decide) h
            · split at h
              · exact reads_keyword (by decide) h
              · split at h
                · cases h
                · rename_i hnumber
                  obtain ⟨v', -, heq⟩ := Option.map_eq_some_iff.mp h
                  obtain ⟨-, rfl⟩ := Prod.mk.inj heq
                  exact reads_scanNumber hnumber

theorem reads_elements {vs : List (Json (List C) F)}
    (ihv : ∀ cs v r, parseValue d fuel cs = some (v, r) → Reads cs r)
    (ihe : ∀ cs vs r, parseElements d fuel cs = some (vs, r) → Reads cs r)
    (h : parseElements d (fuel + 1) cs = some (vs, r)) : Reads cs r := by
  rw [parseElements] at h
  split at h
  · cases h
  · rename_i v cs₁ hv
    refine (ihv _ _ _ hv).trans ((reads_skipWs cs₁).trans ?_)
    split at h
    · rename_i c cs₂ hcs₂
      rw [hcs₂]
      split at h
      · rename_i hcomma
        exact Reads.cons (by rw [hcomma]; decide) (reads_of_map h (ihe _) fun _ => rfl)
      · split at h
        · rename_i hclose
          obtain ⟨-, rfl⟩ := Prod.mk.inj (Option.some.inj h)
          exact Reads.cons (by rw [hclose]; decide) (Reads.refl _)
        · cases h
    · cases h

theorem reads_members {ms : List (List C × Json (List C) F)}
    (ihv : ∀ cs v r, parseValue d fuel cs = some (v, r) → Reads cs r)
    (ihm : ∀ cs ms r, parseMembers d fuel cs = some (ms, r) → Reads cs r)
    (h : parseMembers d (fuel + 1) cs = some (ms, r)) : Reads cs r := by
  refine (reads_skipWs cs).trans ?_
  rw [parseMembers] at h
  split at h
  · rename_i cs₁ hcs₁
    rw [hcs₁]
    refine Reads.cons (by decide) ?_
    split at h
    · cases h
    · rename_i k cs₂ hk
      refine (reads_scanString hk).trans ((reads_skipWs cs₂).trans ?_)
      split at h
      · rename_i cs₃ hcs₃
        rw [hcs₃]
        refine Reads.cons (by decide) ?_
        split at h
        · cases h
        · rename_i v cs₄ hv
          refine (ihv _ _ _ hv).trans ((reads_skipWs cs₄).trans ?_)
          split at h
          · rename_i c cs₅ hcs₅
            rw [hcs₅]
            split at h
            · rename_i hcomma
              exact Reads.cons (by rw [hcomma]; decide) (reads_of_map h (ihm _) fun _ => rfl)
            · split at h
              · rename_i hclose
                obtain ⟨-, rfl⟩ := Prod.mk.inj (Option.some.inj h)
                exact Reads.cons (by rw [hclose]; decide) (Reads.refl _)
              · cases h
          · cases h
      · cases h
  · cases h

/-- **`reads_parse`** — a value, the elements of an array and the members of an object are read
without a NUL, by induction on the fuel. -/
theorem reads_parse (fuel : Nat) :
    (∀ cs v r, parseValue d fuel cs = some (v, r) → Reads cs r) ∧
    (∀ cs vs r, parseElements d fuel cs = some (vs, r) → Reads cs r) ∧
    ∀ cs ms r, parseMembers d fuel cs = some (ms, r) → Reads cs r := by
  induction fuel with
  | zero =>
      refine ⟨?_, ?_, ?_⟩
      · intro cs v r h
        rw [parseValue] at h
        cases h
      · intro cs vs r h
        rw [parseElements] at h
        cases h
      · intro cs ms r h
        rw [parseMembers] at h
        cases h
  | succ fuel ih =>
      obtain ⟨ihv, ihe, ihm⟩ := ih
      exact ⟨fun _ _ _ => reads_value ihe ihm, fun _ _ _ => reads_elements ihv ihe,
        fun _ _ _ => reads_members ihv ihm⟩

/-- **`nul_notMem_of_parseText`** — a text that is accepted contains no NUL. -/
theorem nul_notMem_of_parseText {v : Json (List C) F} (h : parseText d cs = some v) :
    '\x00' ∉ cs := by
  unfold parseText at h
  split at h
  · cases h
  · rename_i v' r' hv
    split at h
    · rename_i hr
      obtain ⟨p, hp, hnul⟩ := ((reads_parse _).1 _ _ _ hv).trans (reads_skipWs r')
      rw [hr, List.append_nil] at hp
      rw [hp]
      exact hnul
    · cases h

end Parser

/-! ## Strings read back -/

theorem hexValue_hexDigit_all : ∀ n, n < 16 → hexValue (hexDigit n) = some n := by decide

/-- The escape of a character is read back as that character. -/
theorem scanUnits_escapeChar (c : Char) (r : List Char) : scanUnits (escapeChar c ++ r) =
    (scanUnits r).map fun p => (.inl c :: p.1, p.2) := by
  unfold escapeChar
  by_cases hquote : c = '"'
  · rw [if_pos hquote, hquote]
    rfl
  · rw [if_neg hquote]
    by_cases hslash : c = '\\'
    · rw [if_pos hslash, hslash]
      rfl
    · rw [if_neg hslash]
      split
      · rename_i h
        rw [h]
        rfl
      · split
        · rename_i h
          rw [h]
          rfl
        · split
          · rename_i h
            rw [h]
            rfl
          · split
            · rename_i h
              rw [h]
              rfl
            · split
              · rename_i h
                rw [h]
                rfl
              · split
                · rename_i hcontrol
                  -- the escape of a control character: four digits, the first two of them zero
                  have hhigh := hexValue_hexDigit_all (c.toNat / 16) (by omega)
                  have hlow := hexValue_hexDigit_all (c.toNat % 16) (by omega)
                  have hzero : hexValue '0' = some 0 := by decide
                  have hunit : hex4 '0' '0' (hexDigit (c.toNat / 16)) (hexDigit (c.toNat % 16)) =
                      some c.toNat := by
                    simp only [hex4, hzero, hhigh, hlow]
                    show some (((0 * 16 + 0) * 16 + c.toNat / 16) * 16 + c.toNat % 16) = _
                    congr 1
                    omega
                  show scanUnits ('\\' :: 'u' :: '0' :: '0' :: hexDigit (c.toNat / 16) ::
                    hexDigit (c.toNat % 16) :: r) = _
                  rw [scanUnits, if_neg (by decide), if_pos rfl]
                  simp only [hunit]
                  rw [if_pos (Or.inl (by omega)), Char.ofNat_toNat]
                · rename_i hcontrol
                  show scanUnits (c :: r) = _
                  rw [scanUnits.eq_def]
                  simp only [if_neg hquote, if_neg hslash, if_neg hcontrol]

theorem scanUnits_escape (cs r : List Char) :
    scanUnits (cs.flatMap escapeChar ++ '"' :: r) = some (cs.map .inl, r) := by
  induction cs with
  | nil =>
      show scanUnits ('"' :: r) = some ([], r)
      rw [scanUnits.eq_def]
      exact if_pos rfl
  | cons c cs ih =>
      rw [List.flatMap_cons, List.append_assoc, scanUnits_escapeChar, ih]
      rfl

section Strings

variable {C F : Type} (d : Dialect C F)

theorem joinSurrogates_chars (cs : List Char) :
    joinSurrogates d (cs.map .inl) = some (cs.map d.char) := by
  induction cs with
  | nil => rfl
  | cons c cs ih =>
      rw [List.map_cons, joinSurrogates, ih]
      rfl

/-- **`scanString_escape`** — a string literal that was written is read back. -/
theorem scanString_escape (cs r : List Char) :
    scanString d (cs.flatMap escapeChar ++ '"' :: r) = some (cs.map d.char, r) := by
  unfold scanString
  rw [scanUnits_escape]
  show (joinSurrogates d (cs.map .inl)).map _ = _
  rw [joinSurrogates_chars]
  rfl

/-! ## Values read back -/

variable [BEq C]

theorem skipWs_cons {c : Char} (hc : isWs c = false) (cs : List Char) : skipWs (c :: cs) = c :: cs := by
  rw [skipWs, List.dropWhile_cons_of_neg]
  rw [hc]
  exact Bool.false_ne_true

/-- A string literal is read back as a value. -/
theorem parseValue_string (fuel : Nat) (v r : List Char) :
    parseValue d (fuel + 1) ('"' :: (v.flatMap escapeChar ++ '"' :: r)) =
      some (.string (v.map d.char), r) := by
  rw [parseValue, skipWs_cons (by decide)]
  simp only [scanString_escape]
  rfl

theorem parseValue_object (fuel : Nat) (cs : List Char) : parseValue d (fuel + 1) ('{' :: '"' :: cs) =
    (parseMembers d fuel ('"' :: cs)).map fun p => (.object p.1, p.2) := by
  rw [parseValue, skipWs_cons (by decide)]
  dsimp only
  rw [if_pos rfl, skipWs_cons (by decide)]
  rfl

end Strings

end TinyIM.Lib.Json
