/-
# Binary64 — decimal literals read as double-precision numbers

A finite double is an integer multiple of `2 ^ -1074`, the smallest positive one. It is represented
here by that integer, so reading a literal (round to nearest, ties to even, with overflow to infinity
refused) and truncating a double to an integer are computations on integers and nothing is lost to a
rational arithmetic in between.
-/
import TinyIM.Lib.Json

namespace TinyIM.Lib

open TinyIM.Lib.Json (Decimal)

/-- A finite double `x`, as the integer `x * 2 ^ 1074`. -/
structure Binary64 where
  scaled : Int
  deriving DecidableEq, Repr

namespace Binary64

/-- `a / d` rounded to the nearest integer, a tie to the even one. -/
def roundHalfEven (a d : Nat) : Nat :=
  if 2 * (a % d) < d then a / d
  else if d < 2 * (a % d) then a / d + 1
  else if (a / d) % 2 = 0 then a / d
  else a / d + 1

/-- The double nearest to `n / d`, or `none` when it is not finite. The spacing of the doubles around
the value is `2 ^ p` units: 53 significant bits, and never below one unit. -/
def round (n d : Nat) : Option Nat :=
  let a := n * 2 ^ 1074
  let p := Nat.log2 (a / d) - 52
  let s := roundHalfEven a (d * 2 ^ p) * 2 ^ p
  if s < 2 ^ 2098 then some s else none

/-- `strtod`, with a value that overflows refused. -/
def ofDecimal (x : Decimal) : Option Binary64 :=
  let magnitude := match x.exponent with
    | .ofNat e => round (x.digits * 10 ^ e) 1
    | .negSucc e => round x.digits (10 ^ (e + 1))
  magnitude.map fun s => ⟨if x.negative then -(s : Int) else s⟩

/-- The integer part, toward zero. -/
def trunc (x : Binary64) : Int := x.scaled.tdiv (2 ^ 1074)

/-- Zeros can be written out. -/
theorem ofDecimal_mul_pow (negative : Bool) (digits zeros : Nat) :
    ofDecimal ⟨negative, digits * 10 ^ zeros, 0⟩ = ofDecimal ⟨negative, digits, zeros⟩ := by
  have hzeros : ∀ d e : Nat, ofDecimal ⟨negative, d, .ofNat e⟩ =
      ofDecimal ⟨negative, d * 10 ^ e, .ofNat 0⟩ := by
    intro d e
    unfold ofDecimal
    dsimp only
    rw [Nat.pow_zero, Nat.mul_one]
  exact (hzeros digits zeros).symm

/-! ## Integers are exact -/

/-- The double that is an integer. -/
def ofInt (z : Int) : Binary64 := ⟨z * 2 ^ 1074⟩

@[simp] theorem trunc_ofInt (z : Int) : (ofInt z).trunc = z :=
  Int.mul_tdiv_cancel z (Int.ne_of_gt (Int.pow_pos (by decide)))

/-- A quotient without remainder is not rounded. -/
theorem roundHalfEven_mul (q : Nat) {d : Nat} (hd : 0 < d) : roundHalfEven (q * d) d = q := by
  unfold roundHalfEven
  rw [Nat.mul_mod_left, if_pos (by omega), Nat.mul_div_cancel q hd]

theorem scaled_lt {z u v : Nat} (hz : z < 2 ^ 53) (hv : 53 + u ≤ v) : z * 2 ^ u < 2 ^ v :=
  calc z * 2 ^ u
    _ < 2 ^ 53 * 2 ^ u := Nat.mul_lt_mul_of_pos_right hz (Nat.two_pow_pos u)
    _ = 2 ^ (53 + u) := (Nat.pow_add 2 53 u).symm
    _ ≤ 2 ^ v := Nat.pow_le_pow_right Nat.two_pos hv

/-- The spacing of the doubles around an integer of at most 53 bits is at most one; `u` is the scale. -/
theorem exists_spacing {z : Nat} (hz : z < 2 ^ 53) (u : Nat) :
    ∃ k, k + (Nat.log2 (z * 2 ^ u) - 52) = u := by
  have hlog : Nat.log2 (z * 2 ^ u) - 52 ≤ u := by
    by_cases hzero : z = 0
    · rw [hzero, Nat.zero_mul, Nat.log2_zero, Nat.zero_sub]
      exact Nat.zero_le u
    · have hne : z * 2 ^ u ≠ 0 := Nat.mul_ne_zero hzero (Nat.two_pow_pos u).ne'
      have hlt := (Nat.log2_lt hne).mpr (scaled_lt hz (Nat.le_refl (53 + u)))
      omega
  exact ⟨u - (Nat.log2 (z * 2 ^ u) - 52), Nat.sub_add_cancel hlog⟩

/-- **`round_mul`** — an integer of at most 53 bits is a double, whatever fraction it is written as. -/
theorem round_mul {z d : Nat} (hz : z < 2 ^ 53) (hd : 0 < d) :
    round (z * d) d = some (z * 2 ^ 1074) := by
  have hscaled : z * d * 2 ^ 1074 = z * 2 ^ 1074 * d := Nat.mul_right_comm z d _
  have hquotient : z * d * 2 ^ 1074 / d = z * 2 ^ 1074 := by
    rw [hscaled, Nat.mul_div_cancel _ hd]
  obtain ⟨k, hk⟩ := exists_spacing hz 1074
  generalize hp : Nat.log2 (z * 2 ^ 1074) - 52 = p at hk
  have hmultiple : z * d * 2 ^ 1074 = z * 2 ^ k * (d * 2 ^ p) := by
    rw [hscaled, ← hk, Nat.pow_add]
    ac_rfl
  have hs : z * 2 ^ k * 2 ^ p = z * 2 ^ 1074 := by
    rw [Nat.mul_assoc, ← Nat.pow_add]
    exact congrArg (fun e => z * 2 ^ e) hk
  have hfinite : z * 2 ^ 1074 < 2 ^ 2098 := scaled_lt hz (by decide)
  unfold round
  simp only
  rw [hquotient, hp, hmultiple, roundHalfEven_mul _ (Nat.mul_pos hd (Nat.two_pow_pos p)), hs]
  exact if_pos hfinite

/-! ## Large numbers stay large -/

theorem div_le_roundHalfEven (a d : Nat) : a / d ≤ roundHalfEven a d := by
  unfold roundHalfEven
  split
  · exact Nat.le_refl _
  split
  · exact Nat.le_succ _
  split
  · exact Nat.le_refl _
  · exact Nat.le_succ _

/-- Rounding to a spacing that divides a power of two does not go below it. -/
theorem pow_le_roundHalfEven {a k : Nat} (hk : 2 ^ k ≤ a) :
    2 ^ k ≤ roundHalfEven a (2 ^ (a.log2 - 52)) * 2 ^ (a.log2 - 52) := by
  have hne : a ≠ 0 := Nat.ne_of_gt (Nat.lt_of_lt_of_le (Nat.two_pow_pos k) hk)
  have hlog : k ≤ a.log2 := (Nat.le_log2 hne).mpr hk
  generalize hp : a.log2 - 52 = p
  have hsplit : 2 ^ a.log2 = 2 ^ (a.log2 - p) * 2 ^ p := by
    rw [← Nat.pow_add, Nat.sub_add_cancel (by omega)]
  calc 2 ^ k
    _ ≤ 2 ^ a.log2 := Nat.pow_le_pow_right Nat.two_pos hlog
    _ = 2 ^ (a.log2 - p) * 2 ^ p := hsplit
    _ ≤ a / 2 ^ p * 2 ^ p := by
        refine Nat.mul_le_mul_right _ ((Nat.le_div_iff_mul_le (Nat.two_pow_pos p)).mpr ?_)
        rw [← hsplit]
        exact Nat.log2_self_le hne
    _ ≤ roundHalfEven a (2 ^ p) * 2 ^ p := Nat.mul_le_mul_right _ (div_le_roundHalfEven _ _)

/-- A scaled number that reaches a power of two does so in units, too; `u` is the scale. -/
theorem pow_add_le_scaled {n k : Nat} (hk : 2 ^ k ≤ n) (u : Nat) : 2 ^ (k + u) ≤ n * 2 ^ u := by
  rw [Nat.pow_add]
  exact Nat.mul_le_mul_right _ hk

theorem pow_le_div {s k u : Nat} (h : 2 ^ (k + u) ≤ s) : 2 ^ k ≤ s / 2 ^ u := by
  rw [Nat.le_div_iff_mul_le (Nat.two_pow_pos u), ← Nat.pow_add]
  exact h

/-- A double is not below a power of two that the number reaches. -/
theorem pow_le_round {n s k : Nat} (h : round n 1 = some s) (hk : 2 ^ k ≤ n) :
    2 ^ (k + 1074) ≤ s := by
  have hscaled := pow_add_le_scaled hk 1074
  unfold round at h
  simp only [Nat.div_one, Nat.one_mul, Option.ite_none_right_eq_some, Option.some.injEq] at h
  rw [← h.2]
  exact pow_le_roundHalfEven hscaled

/-- **`pow_le_trunc`** — an integer that reaches a power of two is read as a double that does. -/
theorem pow_le_trunc {x : Decimal} {zeros k : Nat} {y : Binary64} (hzeros : x.exponent = .ofNat zeros)
    (h : ofDecimal x = some y) (hk : 2 ^ k ≤ x.digits * 10 ^ zeros) : 2 ^ k ≤ y.trunc.natAbs := by
  unfold ofDecimal at h
  rw [hzeros] at h
  dsimp only at h
  obtain ⟨z, hz, rfl⟩ := Option.map_eq_some_iff.mp h
  obtain ⟨s, hs, hsz⟩ := Option.bind_eq_some_iff.mp hz
  have hscaled : (if x.negative then -z else z).natAbs = s := by
    rw [← Option.some.inj hsz]
    split
    · rw [Int.natAbs_neg, Int.natAbs_natCast]
    · exact Int.natAbs_natCast s
  have hunit : ∀ u : Nat, ((2 : Int) ^ u).natAbs = 2 ^ u := fun u => Int.natAbs_pow 2 u
  unfold trunc
  dsimp only
  rw [Int.natAbs_tdiv, hscaled, hunit]
  exact pow_le_div (pow_le_round hs hk)

end Binary64

end TinyIM.Lib
