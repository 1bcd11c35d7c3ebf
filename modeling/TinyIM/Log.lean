/-
# Log — the text of a log entry

`formatString` puts its arguments in the places of the `{}` of a format, by a recursion that emits
the text in front of the first `{}` together with the first argument, and goes on with the rest of
the format only. `format_string_substitutes` says what comes out in terms of the pieces the format
falls into; an argument is emitted and never looked at again, so what it contains does not matter.
-/
import TinyIM.Lib.Separated
import TinyIM.Lib.Text
import Mathlib.Data.List.Infix

namespace TinyIM

open TinyIM.Lib.Text TinyIM.Lib.Separated

inductive LogLevel where
  | DEBUG | INFO | WARNING | ERROR
  deriving DecidableEq, Repr

structure LogEntry where
  level : LogLevel
  message : Bytes
  deriving DecidableEq, Repr

namespace Logger

/-- `"{}"`. -/
def placeholder : Bytes := str "\x7b\x7d"

/-- Emit a format with the texts the arguments are printed as. What has been written to the stream
comes first. -/
def formatImpl (oss format : Bytes) : List Bytes → Bytes
  | [] => oss ++ format
  | arg :: args =>
    match find placeholder format with
    | some pos =>
      formatImpl (oss ++ format.take pos ++ arg) (format.drop (pos + 2)) args
    -- the arguments that are left have no place
    | none => oss ++ format

def formatString (format : Bytes) (args : List Bytes) : Bytes := formatImpl [] format args

/-- What a call of `log` puts into the queue, if the level is not below the one that is set. -/
def log (log_level level : LogLevel) (file : Bytes) (line : Int) (func format : Bytes)
    (args : List Bytes) : Option LogEntry :=
  if level.ctorIdx < log_level.ctorIdx then none
  else
    let message := formatString format args
    some ⟨level,
      str "[" ++ file ++ str ":" ++ decimal line ++ str " - " ++ func ++ str "] " ++ message⟩

/-! ## Substitution -/

theorem placeholder_ne_nil : placeholder ≠ [] := by decide

/-- The two braces differ, so no `{}` begins inside another. -/
theorem placeholder_unbordered : Unbordered placeholder := by
  intro t hne hpre hsuffix
  have hall : ∀ t ∈ placeholder.inits, t ≠ [] → t <:+ placeholder → t = placeholder := by decide
  exact hall t ((List.mem_inits t _).mpr hpre) hne hsuffix

theorem formatImpl_eq (oss format : Bytes) (args : List Bytes) :
    formatImpl oss format args = oss ++ formatImpl [] format args := by
  induction args generalizing oss format with
  | nil => rfl
  | cons arg args ih =>
      rw [formatImpl, formatImpl]
      cases find placeholder format with
      | none => rfl
      | some pos =>
          dsimp only
          rw [ih, ih ([] ++ format.take pos ++ arg), List.nil_append]
          simp only [List.append_assoc]

/-- What stands in the places of `k` placeholders: the arguments in order, and the placeholders
themselves where there are no more. -/
def fillers (k : Nat) (args : List Bytes) : List Bytes :=
  args.take k ++ List.replicate (k - args.length) placeholder

theorem fillers_cons (k : Nat) (arg : Bytes) (args : List Bytes) :
    fillers (k + 1) (arg :: args) = arg :: fillers k args := by
  rw [fillers, fillers, List.take_succ_cons, List.length_cons, Nat.add_sub_add_right,
    List.cons_append]

/-- The pieces of the format come out as they are, with the arguments between them. -/
theorem formatString_pieces {p format : Bytes} {ps : List Bytes}
    (h : Pieces placeholder p ps format) (args : List Bytes) :
    formatString format args = weave p ps (fillers ps.length args) := by
  unfold formatString
  induction args generalizing p ps format with
  | nil =>
      show format = _
      rw [fillers, List.take_nil, List.nil_append, List.length_nil, Nat.sub_zero, h.weave_eq]
  | cons arg args ih =>
      rw [formatImpl]
      cases ps with
      | nil =>
          rw [h.find_of_nil]
          show format = _
          rw [weave_nil, ← h.weave_eq, weave_nil]
      | cons q ps =>
          obtain ⟨hrest, hformat⟩ := h.of_cons
          have hdrop : format.drop (p.length + 2) =
              weave q ps (List.replicate ps.length placeholder) := by
            rw [← hformat, ← List.append_assoc]
            exact List.drop_left' (List.length_append ..)
          rw [h.find_of_cons placeholder_unbordered]
          dsimp only
          rw [formatImpl_eq, hdrop, ih hrest, ← hformat, List.take_left, List.nil_append,
            List.length_cons, fillers_cons, weave_cons, List.append_assoc]

/-- **`format_string_substitutes`** — a format falls into pieces without a `{}` in one way, and
`formatString` returns these pieces with the arguments in the places between them, from the left:
the `i`-th argument in the `i`-th place, whatever its text. A place without an argument keeps its
`{}`, and an argument without a place is left out. -/
theorem format_string_substitutes (format : Bytes) :
    ∃! pieces : Bytes × List Bytes, Pieces placeholder pieces.1 pieces.2 format ∧
      ∀ args : List Bytes, formatString format args =
        weave pieces.1 pieces.2 (args.take pieces.2.length ++
          List.replicate (pieces.2.length - args.length) placeholder) := by
  obtain ⟨p, ps, h⟩ := exists_pieces placeholder_ne_nil format
  refine ⟨(p, ps), ⟨h, formatString_pieces h⟩, ?_⟩
  rintro ⟨q, qs⟩ ⟨h', -⟩
  obtain ⟨rfl, rfl⟩ := pieces_unique placeholder_unbordered h h'
  rfl

/-- The braces around a `{}` stay, and those of an argument do. -/
example : formatString (str "\x7b\x7b\x7d\x7d \x7b\x7d") [str "\x7b\x7d", str "b"] =
    str "\x7b\x7b\x7d\x7d b" := by decide

end Logger

end TinyIM
