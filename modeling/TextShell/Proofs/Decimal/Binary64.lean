import Mathlib
import TextShell.Decimal.Binary64

/-!
# Powers of two as doubles

A power of two is a double of its own as long as its exponent is below 1024: the mantissa
is one, so nothing is rounded.  From there on it has no double at all.  Both halves are
followed through the encoder, whose bits are then taken apart again by the decoder.

## Main results

* `ofInteger?_pow2` — which powers of two have a double, and what its bits are.
* `integer?_powerOfTwo` — that double is the power, exactly.
-/

namespace TextShell.Decimal

open Float.Model (UnpackedFloat)

theorem pow2_zero : pow2 0 = 1 := rfl

theorem pow2_add (i j : Nat) : pow2 (i + j) = pow2 i * pow2 j := Nat.pow_add 2 i j

theorem pow2_pos (i : Nat) : 0 < pow2 i := Nat.two_pow_pos i

/-- The double `2 ^ i`, for an `i` below 1024: nothing in its fraction, and `i` in its exponent. -/
def powerOfTwo (i : Nat) : Float := ofMagnitude false ((i + 1023) * pow2 52)

/-! ## Encoding -/

theorem roundHalfEven_mul {den : Nat} (hden : 0 < den) (n : Nat) :
    roundHalfEven (n * den) den = n := by
  simp [roundHalfEven, Nat.mul_div_cancel n hden, hden]

/-- Divided by all but `k` of its factors, a power of two leaves `2 ^ k`. -/
theorem scaleDown_pow2 (i k : Nat) :
    ∃ den, 0 < den ∧ scaleDown (pow2 i) 1 ((i : Int) - k) = (pow2 k * den, den) := by
  unfold scaleDown pow2
  split
  · obtain ⟨d, rfl⟩ : ∃ d, k = i + d := ⟨k - i, by omega⟩
    exact ⟨1, by omega, by simp [Nat.pow_add]⟩
  · obtain ⟨d, rfl⟩ : ∃ d, i = k + d := ⟨i - k, by omega⟩
    exact ⟨2 ^ d, by positivity, by simp [Nat.pow_add]⟩

theorem encodeRatio_pow2 (i : Nat) :
    encodeRatio (pow2 i) 1 = min (i + 1023) 2047 * pow2 52 := by
  have hpos : pow2 i ≠ 0 := (pow2_pos i).ne'
  have hlog : Nat.log2 (pow2 i) = i := Nat.log2_two_pow
  have hlogOne : Nat.log2 1 = 0 := @Nat.log2_two_pow 0
  obtain ⟨unit, -, hunit⟩ := scaleDown_pow2 i 0
  obtain ⟨den, hden, hscaled⟩ := scaleDown_pow2 i 52
  have hone : scaleDown (pow2 i) 1 i = (unit, unit) := by simpa [pow2] using hunit
  have hexponent : max ((i : Int) - 52) minExponent = i - 52 := by
    unfold minExponent
    omega
  have hsteps : ((i : Int) - 52 - minExponent).toNat = i + 1022 := by
    unfold minExponent
    omega
  simp only [Nat.cast_ofNat] at hscaled
  simp only [encodeRatio, hpos, if_false, hlog, hlogOne, Nat.cast_zero, sub_zero, hone, le_refl,
    if_true, hexponent, hsteps, hscaled, roundHalfEven_mul hden]
  rw [← Nat.succ_mul, Nat.mul_min_mul_right]

/-- A power of two has a double if its exponent is below 1024, and only then. -/
theorem ofInteger?_pow2 (i : Nat) :
    ofInteger? (pow2 i) = if i < 1024 then some (powerOfTwo i) else none := by
  have hbits : min (i + 1023) 2047 * pow2 52 = 2047 * pow2 52 ↔ ¬ i < 1024 := by
    rw [Nat.mul_left_inj (pow2_pos 52).ne']
    omega
  have hsign : ((pow2 i : Int) < 0) = False := by simp
  simp only [ofInteger?, Int.natAbs_natCast, encodeRatio_pow2, hbits, ite_not, hsign, powerOfTwo]
  split
  · rw [Nat.min_eq_left (by omega)]
    simp
  · rfl

/-! ## Decoding -/

/-- Bits are kept unless they are those of no number, which has only one form. -/
theorem toBits_ofBits {b : UInt64} (h : b.toNat / 2 ^ 52 % 2 ^ 11 ≠ 2047) :
    (Float.ofBits b).toBits = b := by
  have hexponent : @UnpackedFloat.unpackExponent .binary64 b.toBitVec ≠ -1#11 := by
    intro heq
    apply h
    have hnat := congrArg BitVec.toNat heq
    rw [UnpackedFloat.unpackExponent_def, BitVec.extractLsb'_toNat] at hnat
    simpa [Nat.shiftRight_eq_div_pow] using hnat
  have hnan : @UnpackedFloat.isNaNBits .binary64 b.toBitVec = false :=
    decide_eq_false fun hbits => hexponent hbits.1
  have hpack := @UnpackedFloat.pack_unpack .binary64 b.toBitVec (by decide)
  rw [hnan] at hpack
  exact UInt64.toBitVec_inj.1 hpack

theorem toNat_toBits_ofMagnitude {bits : Nat} (h : bits < 2047 * pow2 52) :
    (ofMagnitude false bits).toBits.toNat = bits := by
  rw [show pow2 52 = 4503599627370496 from rfl] at h
  have hnat : (UInt64.ofNat bits).toNat = bits := by
    rw [UInt64.toNat_ofNat']
    omega
  unfold ofMagnitude
  rw [if_neg (by simp), add_zero, toBits_ofBits]
  · exact hnat
  · rw [hnat]
    omega

theorem decode_powerOfTwo {i : Nat} (h : i < 1024) :
    decode (powerOfTwo i) = .finite false (pow2 52) ((i : Int) - 52) := by
  have hbits : (powerOfTwo i).toBits.toNat = (i + 1023) * pow2 52 :=
    toNat_toBits_ofMagnitude (Nat.mul_lt_mul_of_pos_right (by omega) (pow2_pos 52))
  have hscale : pow2 52 = 4503599627370496 := rfl
  have hlimit : pow2 11 = 2048 := rfl
  have hsign : (i + 1023) * pow2 52 / pow2 63 = 0 := by
    rw [hscale, show pow2 63 = 9223372036854775808 from rfl]
    omega
  have hbiased : (i + 1023) * pow2 52 / pow2 52 % pow2 11 = i + 1023 := by
    rw [hscale, hlimit]
    omega
  have hinner : i + 1023 ≠ pow2 11 - 1 := by
    rw [hlimit]
    omega
  simp only [decode, hbits, hsign, hbiased, hinner, Nat.mul_mod_left]
  simp [minExponent]
  omega

/-- A finite double whose scaled mantissa is the whole number `n` is that number. -/
theorem integer?_of_decode {x : Float} {mantissa n : Nat} {exponent : Int}
    (hx : decode x = .finite false mantissa exponent)
    (hn : mantissa * pow2 exponent.toNat = n * pow2 (-exponent).toNat) :
    integer? x = some n := by
  unfold integer?
  rw [hx]
  by_cases he : 0 ≤ exponent
  · have hzero : (-exponent).toNat = 0 := by omega
    rw [hzero, pow2_zero, Nat.mul_one] at hn
    simp [he, hn]
  · have hzero : exponent.toNat = 0 := by omega
    rw [hzero, pow2_zero, Nat.mul_one] at hn
    simp [he, hn, Nat.mul_div_cancel n (pow2_pos _)]

theorem integer?_powerOfTwo {i : Nat} (h : i < 1024) :
    integer? (powerOfTwo i) = some (2 ^ i) := by
  have hcast : ((pow2 i : Nat) : Int) = 2 ^ i := Nat.cast_pow 2 i
  rw [← hcast]
  refine integer?_of_decode (decode_powerOfTwo h) ?_
  rw [← pow2_add, ← pow2_add]
  congr 1
  omega

end TextShell.Decimal
