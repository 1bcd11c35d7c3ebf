/-
# Utils — splitting a line, and the statistics of the process

`split` reads a string with `std::getline` until the stream fails. The call that reaches the end of
the string sets the end-of-file bit and returns what it read; the next one fails, and so does one
that finds nothing at all. So a delimiter at the end ends the last token and starts none
(`split_joins`). `printProcessStats` splits the line of `/proc/<pid>/stat` and reads five of its
tokens by their index: the largest is 23, and the check in front of them asks for 22 tokens.
`stats_inside_iff` says of every line whether a read is outside.
-/
import TinyIM.Log
import TinyIM.Runtime

namespace TinyIM

open TinyIM.Lib TinyIM.Lib.Text

/-! ## Streams -/

/-- An input stream: the characters that have not been read, `eofbit` and `failbit`. -/
structure IStream where
  rest : Bytes
  eof : Bool
  fail : Bool

/-- A stream that has just been opened on a text. -/
def IStream.over (text : Bytes) : IStream := ⟨text, false, false⟩

/-- What a reading of the item leaves, whatever is left of the text behind it. -/
def IStream.past (item : Bytes) : Bytes → IStream
  -- the end was reached, and it is a failure to have read nothing
  | [] => ⟨[], true, item.isEmpty⟩
  -- the delimiter is extracted and not stored
  | _ :: rest => ⟨rest, false, false⟩

/-- `std::getline(ss, item, delimiter)`: the item, and the stream afterwards. -/
def getline (ss : IStream) (delimiter : UInt8) : Bytes × IStream :=
  -- no character is read from a stream that is not good
  if ss.eof || ss.fail then ([], { ss with fail := true })
  else
    let item := ss.rest.takeWhile (· != delimiter)
    (item, .past item (ss.rest.drop item.length))

/-- How many calls of `getline` can succeed at most. -/
def IStream.left (ss : IStream) : Nat := if ss.eof || ss.fail then 0 else ss.rest.length + 1

theorem getline_left {ss : IStream} {delimiter : UInt8}
    (h : (getline ss delimiter).2.fail = false) : (getline ss delimiter).2.left < ss.left := by
  unfold getline at h ⊢
  by_cases hgood : (ss.eof || ss.fail) = true
  · rw [if_pos hgood] at h
    cases h
  · have hleft : ss.left = ss.rest.length + 1 := if_neg hgood
    rw [if_neg hgood, hleft]
    dsimp only
    cases hrest : ss.rest.drop (ss.rest.takeWhile (· != delimiter)).length with
    | nil => exact Nat.succ_pos _
    | cons b rest =>
        have hlength := congrArg List.length hrest
        rw [List.length_drop, List.length_cons] at hlength
        show rest.length + 1 < ss.rest.length + 1
        omega

namespace Utils

/-- The loop of `split`. -/
def splitLoop (ss : IStream) (delimiter : UInt8) (tokens : List Bytes) : List Bytes :=
  if (getline ss delimiter).2.fail then tokens
  else splitLoop (getline ss delimiter).2 delimiter (tokens ++ [(getline ss delimiter).1])
termination_by ss.left
decreasing_by
  rename_i hfail
  exact getline_left (Bool.not_eq_true _ ▸ hfail)

/-- The tokens of a string between the delimiters. -/
def split (str : Bytes) (delimiter : UInt8) : List Bytes := splitLoop (.over str) delimiter []

/-! ## Splitting as the inverse of joining -/

section Split

variable {ss : IStream} {s t : Bytes} {d : UInt8} {tokens : List Bytes}

theorem splitLoop_done (h : (getline ss d).2.fail = true) : splitLoop ss d tokens = tokens := by
  rw [splitLoop, if_pos h]

theorem splitLoop_next (tokens : List Bytes) (h : (getline ss d).2.fail = false) :
    splitLoop ss d tokens = splitLoop (getline ss d).2 d (tokens ++ [(getline ss d).1]) := by
  rw [splitLoop, if_neg (Bool.eq_false_iff.mp h)]

theorem splitLoop_append (tokens : List Bytes) :
    splitLoop ss d tokens = tokens ++ splitLoop ss d [] := by
  induction hn : ss.left using Nat.strongRecOn generalizing ss tokens with
  | _ n ih =>
      cases hfail : (getline ss d).2.fail with
      | true => rw [splitLoop_done hfail, splitLoop_done hfail, List.append_nil]
      | false =>
          have hleft := getline_left hfail
          rw [hn] at hleft
          rw [splitLoop_next tokens hfail, splitLoop_next [] hfail, ih _ hleft _ rfl,
            ih _ hleft ([] ++ _) rfl, List.nil_append, List.append_assoc]

/-- What the loop finds in a text that begins with a good reading. -/
theorem splitLoop_cons (h : (getline ss d).2.fail = false) :
    splitLoop ss d [] = (getline ss d).1 :: splitLoop (getline ss d).2 d [] := by
  rw [splitLoop_next [] h, splitLoop_append]
  rfl

theorem getline_over (s : Bytes) (d : UInt8) : getline (.over s) d =
    (s.takeWhile (· != d),
      .past (s.takeWhile (· != d)) (s.drop (s.takeWhile (· != d)).length)) := rfl

theorem takeWhile_of_notMem (h : d ∉ t) : t.takeWhile (· != d) = t := by
  rw [List.takeWhile_eq_self_iff]
  intro b hb
  rw [bne_iff_ne]
  rintro rfl
  exact h hb

theorem getline_of_notMem (h : d ∉ s) : getline (.over s) d = (s, ⟨[], true, s.isEmpty⟩) := by
  rw [getline_over, takeWhile_of_notMem h, List.drop_length]
  rfl

theorem getline_of_append (h : d ∉ t) : getline (.over (t ++ d :: s)) d = (t, .over s) := by
  have htake : (t ++ d :: s).takeWhile (· != d) = t := by
    rw [List.takeWhile_append, takeWhile_of_notMem h, if_pos rfl, List.takeWhile_cons,
      if_neg (by simp), List.append_nil]
  rw [getline_over, htake, List.drop_left]
  rfl

/-- A stream at its end gives no token. -/
theorem splitLoop_of_eof : splitLoop ⟨[], true, false⟩ d [] = [] := by
  rw [splitLoop_done rfl]

theorem split_nil : split [] d = [] := by
  refine splitLoop_done ?_
  rw [getline_of_notMem List.not_mem_nil]
  rfl

/-- What stands behind the last delimiter is the last token, unless nothing does. -/
theorem split_of_notMem (hne : s ≠ []) (h : d ∉ s) : split s d = [s] := by
  have hread := getline_of_notMem h
  rw [List.isEmpty_eq_false_iff.mpr hne] at hread
  rw [split, splitLoop_cons (congrArg (fun r => r.2.fail) hread), hread, splitLoop_of_eof]

/-- A token ends at its delimiter. -/
theorem split_of_append (h : d ∉ t) : split (t ++ d :: s) d = t :: split s d := by
  have hread := getline_of_append (s := s) h
  rw [split, splitLoop_cons (congrArg (fun r => r.2.fail) hread), hread]
  rfl

/-- A string is empty, or has no delimiter, or begins with a token and its delimiter. -/
theorem split_cases {P : Bytes → Prop} (hnil : P []) (hlast : ∀ s, s ≠ [] → d ∉ s → P s)
    (htoken : ∀ t s, d ∉ t → P s → P (t ++ d :: s)) (s : Bytes) : P s := by
  induction hn : s.length using Nat.strongRecOn generalizing s with
  | _ n ih =>
      by_cases hmem : d ∈ s
      · obtain ⟨t, r, rfl, ht⟩ := List.eq_append_cons_of_mem hmem
        refine htoken t r ht (ih r.length ?_ r rfl)
        rw [← hn, List.length_append, List.length_cons]
        omega
      · by_cases hne : s = []
        · rw [hne]
          exact hnil
        · exact hlast s hne hmem

theorem not_mem_of_mem_split (h : t ∈ split s d) : d ∉ t := by
  induction s using split_cases (d := d) with
  | hnil =>
      rw [split_nil] at h
      cases h
  | hlast s hne hs =>
      rw [split_of_notMem hne hs, List.mem_singleton] at h
      rw [h]
      exact hs
  | htoken t' s ht' ih =>
      rw [split_of_append ht', List.mem_cons] at h
      rcases h with rfl | h
      · exact ht'
      · exact ih h

theorem split_eq_nil : split s d = [] ↔ s = [] := by
  induction s using split_cases (d := d) with
  | hnil => exact ⟨fun _ => rfl, fun _ => split_nil⟩
  | hlast s hne hs =>
      rw [split_of_notMem hne hs]
      exact ⟨fun h => absurd h (List.cons_ne_nil _ _), fun h => absurd h hne⟩
  | htoken t s ht ih =>
      rw [split_of_append ht]
      exact ⟨fun h => absurd h (List.cons_ne_nil _ _), fun h => absurd h (by simp)⟩

theorem intercalate_split : [d].intercalate (split s d) =
    if s.getLast? = some d then s.dropLast else s := by
  induction s using split_cases (d := d) with
  | hnil =>
      rw [split_nil]
      rfl
  | hlast s hne hs =>
      have hend : s.getLast? ≠ some d := fun h => hs (List.mem_of_getLast? h)
      rw [split_of_notMem hne hs, if_neg hend]
      simp [List.intercalate]
  | htoken t s ht ih =>
      rw [split_of_append ht]
      cases s with
      | nil =>
          rw [split_nil]
          simp [List.intercalate]
      | cons b s =>
          have hend : (t ++ d :: b :: s).getLast? = (b :: s).getLast? := by
            rw [List.getLast?_append_of_ne_nil _ (List.cons_ne_nil _ _), List.getLast?_cons_cons]
          have hdrop : (t ++ d :: b :: s).dropLast = t ++ d :: (b :: s).dropLast := by
            rw [List.dropLast_append_of_ne_nil (List.cons_ne_nil _ _), List.dropLast_cons_cons]
          obtain ⟨u, us, hsplit⟩ :=
            List.exists_cons_of_ne_nil (split_eq_nil.not.mpr (List.cons_ne_nil b s))
          rw [hsplit] at ih ⊢
          rw [hend, hdrop, List.intercalate_cons_cons, ih, List.append_assoc]
          split
          · rfl
          · rfl

/-- How many tokens there are: one for each delimiter, and one for what stands behind the last. -/
theorem length_split : (split s d).length =
    s.count d + if s = [] ∨ s.getLast? = some d then 0 else 1 := by
  induction s using split_cases (d := d) with
  | hnil =>
      rw [split_nil, if_pos (Or.inl rfl)]
      rfl
  | hlast s hne hs =>
      have hend : s.getLast? ≠ some d := fun h => hs (List.mem_of_getLast? h)
      rw [split_of_notMem hne hs, if_neg (not_or_intro hne hend), List.count_eq_zero.mpr hs]
      rfl
  | htoken t s ht ih =>
      rw [split_of_append ht, List.length_cons, ih, List.count_append, List.count_eq_zero.mpr ht,
        List.count_cons_self]
      cases s with
      | nil => simp
      | cons b s =>
          have hend : (t ++ d :: b :: s).getLast? = (b :: s).getLast? := by
            rw [List.getLast?_append_of_ne_nil _ (List.cons_ne_nil _ _), List.getLast?_cons_cons]
          simp only [hend, List.cons_ne_nil, List.append_eq_nil_iff, and_false, false_or]
          omega

/-- Splitting is the inverse of joining on tokens of which the last is not empty. -/
theorem split_intercalate {ts : List Bytes} (h : ∀ t ∈ ts, d ∉ t) (hlast : ts.getLast? ≠ some []) :
    split ([d].intercalate ts) d = ts := by
  induction ts with
  | nil => exact split_nil
  | cons t ts ih =>
      rw [List.forall_mem_cons] at h
      cases ts with
      | nil =>
          have hne : t ≠ [] := by
            rintro rfl
            exact hlast rfl
          rw [List.intercalate_singleton, split_of_notMem hne h.1]
      | cons u us =>
          rw [List.getLast?_cons_cons] at hlast
          rw [List.intercalate_cons_cons, List.append_assoc, List.singleton_append,
            split_of_append h.1, ih h.2 hlast]

/-- **`split_joins`** — no token contains the delimiter; the tokens joined with it are the string, up
to a delimiter at its end; and only the empty string has no token. -/
theorem split_joins (s : Bytes) (d : UInt8) :
    (∀ t ∈ split s d, d ∉ t) ∧
      [d].intercalate (split s d) = (if s.getLast? = some d then s.dropLast else s) ∧
      (split s d = [] ↔ s = []) :=
  ⟨fun _ => not_mem_of_mem_split, intercalate_split, split_eq_nil⟩

end Split

/-! ## The statistics of the process -/

/-- `std::stol`; a `long` has 64 bits. -/
def stol (s : Bytes) : Except Exn Int64 :=
  match strtol s with
  | none => .error .invalid_argument
  | some n => if -2 ^ 63 ≤ n ∧ n < 2 ^ 63 then .ok (Int64.ofInt n) else .error .out_of_range

/-- Why a computation did not return. -/
inductive Fault where
  /-- `operator[]` got an index behind the last one: undefined behaviour. -/
  | outside (index : Nat)
  /-- An exception left it. -/
  | exn (e : Exn)
  deriving DecidableEq

/-- What was written to `std::cerr` and put into the log. -/
structure Output where
  cerr : List Bytes
  log : List LogEntry
  deriving DecidableEq

/-- `tokens[index]`. -/
def subscript (tokens : List Bytes) (index : Nat) : Except Fault Bytes :=
  match tokens[index]? with
  | some token => .ok token
  | none => .error (.outside index)

/-- `std::stol(tokens[index])`. -/
def stolAt (tokens : List Bytes) (index : Nat) : Except Fault Int64 :=
  subscript tokens index >>= fun token => (stol token).mapError .exn

/-- The tokens of the first line of the file. -/
def statTokens (text : Bytes) : List Bytes :=
  let line := (getline (.over text) '\n'.toUInt8).1
  split line ' '.toUInt8

/-- Log the statistics in `/proc/<pid>/stat`, if it could be opened. -/
def printProcessStats (log_level : LogLevel) (file : Bytes) (pid : Int32)
    (statFile : Option Bytes) : Except Fault Output := do
  match statFile with
  | none => return ⟨[str "Error opening file: /proc/" ++ to_string pid ++ str "/stat"], []⟩
  | some text =>
    let tokens := statTokens text
    if tokens.length < 22 then
      return ⟨[str "Unexpected format in /proc/" ++ to_string pid ++ str "/stat"], []⟩
    else
      let processName ← subscript tokens 1
      let utime ← stolAt tokens 13
      let stime ← stolAt tokens 14
      let vsize ← stolAt tokens 22
      let rss ← stolAt tokens 23
      let LOG_INFO (line : Int) (format : String) (arg : Bytes) :=
        Logger.log log_level .INFO file line (str "printProcessStats") (str format) [arg]
      return ⟨[], [
        LOG_INFO 81 "Process ID: \x7b\x7d" (to_string pid),
        LOG_INFO 82 "Process Name: \x7b\x7d" processName,
        LOG_INFO 83 "User Time (jiffies): \x7b\x7d" (decimal utime.toInt),
        LOG_INFO 84 "System Time (jiffies): \x7b\x7d" (decimal stime.toInt),
        LOG_INFO 85 "Virtual Memory Size (bytes): \x7b\x7d" (decimal vsize.toInt),
        LOG_INFO 86 "Resident Set Size (pages): \x7b\x7d" (decimal rss.toInt)].reduceOption⟩

/-! ## Reads that are inside -/

section Inside

variable {α β : Type} {x : Except Fault α} {f : α → Except Fault β} {tokens : List Bytes} {i : Nat}

/-- No index was behind the last one. -/
def Inside (x : Except Fault α) : Prop := ∀ index, x ≠ .error (.outside index)

theorem inside_ok {a : α} : Inside (.ok a) := fun _ h => by cases h

theorem inside_pure {a : α} : Inside (pure a) := inside_ok

theorem inside_exn {e : Exn} : Inside (.error (.exn e) : Except Fault α) := fun _ h => by cases h

theorem not_inside_outside : ¬Inside (.error (.outside i) : Except Fault α) := fun h => h i rfl

theorem inside_bind : Inside (x >>= f) ↔ Inside x ∧ ∀ a, x = .ok a → Inside (f a) := by
  cases x with
  | ok a =>
      show Inside (f a) ↔ _
      refine ⟨fun h => ⟨inside_ok, ?_⟩, fun h => h.2 a rfl⟩
      intro a' ha'
      rw [← Except.ok.inj ha']
      exact h
  | error e =>
      show Inside (.error e) ↔ _
      cases e with
      | outside i =>
          exact ⟨fun h => absurd h not_inside_outside, fun h => absurd h.1 not_inside_outside⟩
      | exn e => exact ⟨fun _ => ⟨inside_exn, fun a ha => by cases ha⟩, fun _ => inside_exn⟩

theorem subscript_of_lt (h : i < tokens.length) : subscript tokens i = .ok tokens[i] := by
  rw [subscript, List.getElem?_eq_getElem h]

theorem inside_subscript : Inside (subscript tokens i) ↔ i < tokens.length := by
  constructor
  · intro h
    by_contra hlt
    rw [subscript, List.getElem?_eq_none (Nat.le_of_not_lt hlt)] at h
    exact not_inside_outside h
  · intro h
    rw [subscript_of_lt h]
    exact inside_ok

theorem inside_stolAt : Inside (stolAt tokens i) ↔ i < tokens.length := by
  rw [stolAt, inside_bind, inside_subscript, and_iff_left]
  intro token _
  cases stol token with
  | ok n => exact inside_ok
  | error e => exact inside_exn

/-- The token with this index is there, and it is a number that a `long` can hold. -/
def Converts (tokens : List Bytes) (i : Nat) : Prop :=
  ∃ token n, tokens[i]? = some token ∧ stol token = .ok n

theorem exists_stolAt : (∃ n, stolAt tokens i = .ok n) ↔ Converts tokens i := by
  unfold stolAt subscript Converts
  cases tokens[i]? with
  | none =>
      constructor
      · rintro ⟨n, hn⟩
        cases hn
      · rintro ⟨token, n, htoken, -⟩
        cases htoken
  | some token =>
      show (∃ n, (stol token).mapError Fault.exn = .ok n) ↔ _
      constructor
      · rintro ⟨n, hn⟩
        refine ⟨token, n, rfl, ?_⟩
        cases hstol : stol token with
        | ok m =>
            rw [hstol] at hn
            exact congrArg Except.ok (Except.ok.inj hn)
        | error e =>
            rw [hstol] at hn
            cases hn
      · rintro ⟨token', n, htoken, hstol⟩
        rw [Option.some.inj htoken, hstol]
        exact ⟨n, rfl⟩

/-- What follows a conversion runs if there is a number. -/
theorem inside_stolAt_bind {f : Int64 → Except Fault β} {P : Prop} (hf : ∀ n, Inside (f n) ↔ P) :
    Inside (stolAt tokens i >>= f) ↔ i < tokens.length ∧ (Converts tokens i → P) := by
  rw [inside_bind, inside_stolAt, ← exists_stolAt, forall_exists_index]
  simp only [hf]

end Inside

/-- A read that is outside happens on a line of 22 tokens or 23, if no conversion throws before. -/
theorem stats_inside (log_level : LogLevel) (file : Bytes) (pid : Int32) (text : Bytes) :
    let tokens := statTokens text
    Inside (printProcessStats log_level file pid (some text)) ↔
      ¬(Converts tokens 13 ∧ Converts tokens 14 ∧
        (tokens.length = 22 ∨ (tokens.length = 23 ∧ Converts tokens 22))) := by
  unfold printProcessStats
  dsimp only
  generalize statTokens text = tokens
  by_cases hshort : tokens.length < 22
  · rw [if_pos hshort]
    refine iff_of_true inside_pure ?_
    rintro ⟨-, -, hlength | ⟨hlength, -⟩⟩ <;> omega
  · rw [if_neg hshort, subscript_of_lt (by omega)]
    show Inside (stolAt tokens 13 >>= _) ↔ _
    rw [inside_stolAt_bind fun utime => inside_stolAt_bind fun stime =>
      inside_stolAt_bind fun vsize => inside_stolAt_bind fun rss => iff_true_intro inside_pure]
    constructor
    · rintro ⟨-, hafter13⟩ ⟨hutime, hstime, hlength⟩
      obtain ⟨-, hafter14⟩ := hafter13 hutime
      obtain ⟨hlt22, hafter22⟩ := hafter14 hstime
      rcases hlength with hlength | ⟨hlength, hvsize⟩
      · omega
      · have hlt23 := (hafter22 hvsize).1
        omega
    · intro hnot
      refine ⟨by omega, fun hutime => ⟨by omega, fun hstime => ?_⟩⟩
      have hnot22 : tokens.length ≠ 22 := fun h => hnot ⟨hutime, hstime, Or.inl h⟩
      refine ⟨by omega, fun hvsize => ⟨?_, fun _ => trivial⟩⟩
      have hnot23 : tokens.length ≠ 23 := fun h => hnot ⟨hutime, hstime, Or.inr ⟨h, hvsize⟩⟩
      omega

/-- **`stats_inside_iff`** — the statistics are read from tokens that are there, or the format is
reported, exactly if it does not happen that the line has 22 tokens or 23 and no conversion throws
before the first read behind the last token. All five indices are those of tokens, or the format is
reported, exactly if the line has neither 22 tokens nor 23. -/
theorem stats_inside_iff (log_level : LogLevel) (file : Bytes) (pid : Int32) (text : Bytes) :
    let tokens := statTokens text
    (Inside (printProcessStats log_level file pid (some text)) ↔
      ¬(Converts tokens 13 ∧ Converts tokens 14 ∧
        (tokens.length = 22 ∨ (tokens.length = 23 ∧ Converts tokens 22)))) ∧
    ((tokens.length < 22 ∨ ∀ i ∈ [1, 13, 14, 22, 23], i < tokens.length) ↔
      ¬(tokens.length = 22 ∨ tokens.length = 23)) := by
  refine ⟨stats_inside log_level file pid text, ?_⟩
  simp only [List.forall_mem_cons, List.not_mem_nil, false_imp_iff, implies_true, and_true]
  omega

/-- A line that ends with the time the process started at: the virtual memory size is read behind
its last token. -/
theorem stats_outside_on_short_line :
    let text := str "1 (im) S 0 1 1 0 -1 4194560 100 0 0 0 7 3 0 0 20 0 1 0 99"
    (statTokens text).length = 22 ∧
      printProcessStats .DEBUG (str "Utils.h") 1 (some text) = .error (.outside 22) := by
  intro text
  have htokens : statTokens text = ["1", "(im)", "S", "0", "1", "1", "0", "-1", "4194560", "100",
      "0", "0", "0", "7", "3", "0", "0", "20", "0", "1", "0", "99"].map str := by
    have htext : text = [' '.toUInt8].intercalate (["1", "(im)", "S", "0", "1", "1", "0", "-1",
      "4194560", "100", "0", "0", "0", "7", "3", "0", "0", "20", "0", "1", "0", "99"].map str) := by
      decide
    rw [statTokens, getline_of_notMem (by decide)]
    dsimp only
    rw [htext, split_intercalate (by decide) (by decide)]
  unfold printProcessStats
  simp only [htokens]
  decide

end Utils

end TinyIM
