/-
# Runtime — what the server takes from its surroundings

Everything below is decided outside the program text: the exceptions the libraries throw, the clock,
the random generators, the digests of OpenSSL, the outcome of each SQLite call, the iteration order
of an `std::unordered_map`, and the values C++ leaves open (a variable read in its own initialiser, a
floating-point number converted to an integer type that cannot hold it). `Env` collects what one
handled event reads of it; a run is then a run for every choice of the environment.
-/
import TinyIM.Lib.Binary64
import TinyIM.Lib.Table

namespace TinyIM

open TinyIM.Lib TinyIM.Lib.Text TinyIM.Lib.Table

/-! ## Exceptions and stops -/

/-- The exceptions that can be thrown; all of them derive from `std::exception`. -/
inductive Exn where
  /-- `nlohmann::json::parse_error`, or `out_of_range` for a number that overflows a double. -/
  | parse_error
  /-- `nlohmann::json::type_error`: a conversion, or a dump of ill-formed UTF-8. -/
  | type_error
  /-- `std::invalid_argument`. -/
  | invalid_argument
  /-- `std::out_of_range`. -/
  | out_of_range
  deriving DecidableEq, Repr

/-- Why a computation did not return. -/
inductive Stop where
  /-- An exception left it. -/
  | exn (e : Exn)
  /-- It waits on a condition variable that nobody will notify. -/
  | wait
  deriving DecidableEq, Repr

/-! ## Integers as text -/

/-- `std::to_string` of an `int`. -/
def to_string (n : Int32) : Bytes := decimal n.toInt

/-- `std::stoi`. -/
def stoi (s : Bytes) : Except Exn Int32 :=
  match strtol s with
  | none => .error .invalid_argument
  | some n => if -2 ^ 31 ≤ n ∧ n < 2 ^ 31 then .ok (Int32.ofInt n) else .error .out_of_range

theorem to_string_injective : Function.Injective to_string := fun _ _ h =>
  Int32.toInt_inj.mp (decimal_injective h)

@[simp] theorem to_string_inj {m n : Int32} : to_string m = to_string n ↔ m = n :=
  to_string_injective.eq_iff

@[simp] theorem cstr_to_string (n : Int32) : cstr (to_string n) = to_string n := cstr_decimal _

/-- **`stoi_to_string`** — every `int` survives the trip through its decimal form. -/
@[simp] theorem stoi_to_string (n : Int32) : stoi (to_string n) = .ok n := by
  have hlo : -2 ^ 31 ≤ n.toInt := n.le_toInt
  have hhi : n.toInt < 2 ^ 31 := n.toInt_lt
  simp only [stoi, to_string, strtol_decimal]
  rw [if_pos ⟨hlo, hhi⟩, Int32.ofInt_toInt]

/-! ## The environment of one event -/

/-- The outcome of one SQLite statement. -/
structure Outcome where
  /-- `sqlite3_prepare_v2` returned `SQLITE_OK`. -/
  prepare : Bool
  /-- The `i`-th `sqlite3_step` met no error (busy, full disk, …). -/
  step : Nat → Bool
  /-- The order in which a `SELECT` hands out its rows. -/
  order : Nat

/-- No call on the statement fails. A constraint violation is not a failure in this sense: it is what
the statement computes. -/
def Outcome.Succeeds (o : Outcome) : Prop := o.prepare = true ∧ ∀ i, o.step i = true

/-- What one event reads of its surroundings. -/
structure Env where
  /-- `std::time(nullptr)`, and the instant of `datetime('now')`. -/
  now : Int64
  /-- The draws of `std::uniform_int_distribution` on the nine characters of an id. -/
  draw : Vector (Fin 9) 9
  /-- The bytes of `RAND_bytes`. -/
  rand : Vector UInt8 16
  /-- The outcomes of the SQLite statements, in the order the event runs them. -/
  sql : Nat → Outcome
  /-- The iteration order of the session map. -/
  visit : Nat
  /-- An uninitialised `int`. -/
  junk : Int32
  /-- A double converted to an `int` that cannot hold it. -/
  badInt : Binary64 → Int32
  /-- A double converted to a `std::time_t` that cannot hold it. -/
  badTime : Binary64 → Int64

/-- No call of the statement fails, and the rows come in the order they are stored. -/
def Outcome.good : Outcome := ⟨true, fun _ => true, 0⟩

/-- The statement cannot be prepared. -/
def Outcome.unprepared : Outcome := ⟨false, fun _ => true, 0⟩

/-- Surroundings in which everything goes well. -/
def Env.plain : Env where
  now := 0
  draw := Vector.replicate 9 0
  rand := Vector.replicate 16 0
  sql := fun _ => .good
  visit := 0
  junk := 0
  badInt := fun _ => 0
  badTime := fun _ => 0

/-- The same, with every character of an id drawn as that one. -/
def Env.drawing (n : Nat) : Env :=
  { Env.plain with draw := Vector.replicate 9 (Fin.ofNat 9 n) }

/-- SQLite statements succeed. -/
def Env.SqlSucceeds (env : Env) : Prop := ∀ i, (env.sql i).Succeeds

/-- The digest function of OpenSSL. -/
class OpenSSL where
  sha256 : Bytes → Vector UInt8 32

/-- A stand-in for runs that hash nothing. -/
abbrev OpenSSL.zero : OpenSSL := ⟨fun _ => Vector.replicate 32 0⟩

/-- SHA-256, as far as runs need it that hash nothing but "pw" followed by the salt of sixteen zero
bytes. -/
abbrev OpenSSL.pw : OpenSSL := ⟨fun _ => #v[
    0xaa, 0x98, 0x53, 0x8c, 0x26, 0xaa, 0x1a, 0xb0, 0x16, 0xb5, 0xdb, 0xac, 0xf6, 0x24,
    0xb8, 0xe5, 0xc0, 0xf2, 0x4e, 0x2f, 0xc8, 0x3a, 0xa2, 0xce, 0x7a, 0x00, 0x92, 0x6d,
    0xad, 0x26, 0xf8, 0xa2]⟩

theorem Env.plain_sqlSucceeds : Env.plain.SqlSucceeds := fun _ => ⟨rfl, fun _ => rfl⟩

end TinyIM
