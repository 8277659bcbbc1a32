/-!
# Rounding

Quotients rounded to the nearest number of a kind, where a tie goes to the even neighbour.

* `roundDiv n d` is the natural number nearest to `n / d`;
* `nearestBinary64 n d` is the binary64 number nearest to `n / d`, as a significand and a power of two;
* `roundQuotient a b` divides integers in binary64 and rounds the result to an integer.  The two roundings are not the
  same as one: a quotient just off a half becomes that half, and then goes to the even side;
* `quotientOverflows a b` says if the quotient is too large for a binary64 number.
-/

namespace Chip8

/-- The natural number nearest to `n / d`; a tie goes to the even one. -/
def roundDiv (n d : Nat) : Nat :=
  if 2 * (n % d) < d then n / d
  else if 2 * (n % d) = d then n / d + n / d % 2
  else n / d + 1

theorem roundDiv_le (n d : Nat) : roundDiv n d ≤ n / d + 1 := by
  unfold roundDiv
  split
  · omega
  · split <;> omega

/-- A significand and the power of two by which it counts. -/
structure Scaled where
  significand : Nat
  /-- The exponent of the power of two. -/
  exponent : Int
deriving DecidableEq, Repr

/-- The quotient `n / d` in units of a power of two, rounded to a whole number of them. -/
def Scaled.quotient (n d : Nat) (exponent : Int) : Scaled :=
  ⟨roundDiv (n <<< (-exponent).toNat) (d <<< exponent.toNat), exponent⟩

/-- The binary64 number nearest to `n / d`: its significand has fifty-three bits.  The exponent is not bounded. -/
def nearestBinary64 (n d : Nat) : Scaled :=
  let low : Int := (n.log2 : Int) - d.log2 - 53
  if n <<< (-low).toNat < d <<< (low.toNat + 53) then Scaled.quotient n d low else Scaled.quotient n d (low + 1)

/-- The natural number nearest to a scaled one; a tie goes to the even one. -/
def Scaled.round (s : Scaled) : Nat :=
  roundDiv (s.significand <<< s.exponent.toNat) (1 <<< (-s.exponent).toNat)

/-- Scaling up, rounding, scaling back and rounding once more moves a quotient by two at most. -/
private theorem round_quotient_le (n : Nat) {d : Nat} (positive : 0 < d) {e : Int} (fine : e ≤ 0) :
    (Scaled.quotient n d e).round ≤ n / d + 2 := by
  obtain ⟨k, rfl⟩ : ∃ k : Nat, e = -(k : Int) := ⟨(-e).toNat, by omega⟩
  have up : (-(-(k : Int))).toNat = k := by omega
  have down : (-(k : Int)).toNat = 0 := by omega
  simp only [Scaled.round, Scaled.quotient, up, down, Nat.shiftLeft_eq, Nat.pow_zero, Nat.mul_one, Nat.one_mul]
  have scale : 0 < 2 ^ k := Nat.two_pow_pos k
  generalize 2 ^ k = s at scale
  have exact : n * s / d < (n / d + 1) * s := by
    have below : n < (n / d + 1) * d := Nat.lt_mul_of_div_lt (Nat.lt_succ_self _) positive
    rw [Nat.div_lt_iff_lt_mul positive]
    calc
      n * s < (n / d + 1) * d * s := Nat.mul_lt_mul_of_pos_right below scale
      _ = (n / d + 1) * s * d := Nat.mul_right_comm ..
  have first := roundDiv_le (n * s) d
  have back : roundDiv (n * s) d / s ≤ n / d + 1 := Nat.div_le_of_le_mul (by rw [Nat.mul_comm s]; omega)
  have second := roundDiv_le (roundDiv (n * s) d) s
  omega

/-- Where binary64 has fractions, a quotient and the integer nearest to its binary64 number differ by two at most. -/
theorem round_nearestBinary64_le {n d : Nat} (positive : 0 < d) (small : n.log2 ≤ d.log2 + 52) :
    (nearestBinary64 n d).round ≤ n / d + 2 := by
  unfold nearestBinary64
  simp only []
  split <;> exact round_quotient_le n positive (by omega)

/-- Is the quotient of two integers too large for a binary64 number?  Those end below the 1024th power of two. -/
def quotientOverflows (a b : Int) : Bool := 1 <<< 1024 ≤ (nearestBinary64 a.natAbs b.natAbs).round

/-- The integer nearest to the binary64 quotient of two integers; a tie goes to the even one. -/
def roundQuotient (a b : Int) : Int :=
  let size : Int := (nearestBinary64 a.natAbs b.natAbs).round
  if (a < 0) = (b < 0) then size else -size

end Chip8
