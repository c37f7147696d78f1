/-!
# Doubles as exact numbers

A finite double is `± m · 2^q` for whole `m` and `q`. Reading a decimal, writing one and rounding to
a whole number are done on `m` and `q` in exact arithmetic; only the scripts' own sums and
comparisons are left to the machine. `encodeRatio` is the one place where a number is rounded: to the
nearest double, a tie to the even one.
-/

namespace TextShell.Decimal

/-- A power of two. -/
def pow2 (n : Nat) : Nat := Nat.pow 2 n

/-- A power of ten. -/
def pow10 (n : Nat) : Nat := Nat.pow 10 n

/-- What a double stands for. -/
inductive Binary64 where
  /-- `mantissa · 2 ^ exponent`, with a sign that zero has too. -/
  | finite (negative : Bool) (mantissa : Nat) (exponent : Int)
  | infinite (negative : Bool)
  | notANumber
deriving Repr, DecidableEq, Inhabited

/-- The least exponent of a double. -/
def minExponent : Int := -1074

/-- What the double `x` stands for. -/
def decode (x : Float) : Binary64 :=
  let bits : Nat := x.toBits.toNat
  let negative := bits / pow2 63 == 1
  let biased : Nat := bits / pow2 52 % pow2 11
  let fraction : Nat := bits % pow2 52
  if biased = pow2 11 - 1 then
    if fraction = 0 then .infinite negative else .notANumber
  else if biased = 0 then .finite negative fraction minExponent
  else .finite negative (pow2 52 + fraction) (biased + minExponent - 1)

/-- The quotient `num / den` to the nearest whole number, a tie to the even one. -/
def roundHalfEven (num den : Nat) : Nat :=
  let quotient := num / den
  let twice := 2 * (num % den)
  if twice < den then quotient
  else if den < twice then quotient + 1
  else quotient + quotient % 2

/-- The pair `(num · 2^(-e), den)` or `(num, den · 2^e)`: the quotient of the two, divided by `2^e`. -/
def scaleDown (num den : Nat) (e : Int) : Nat × Nat :=
  if e ≤ 0 then (num * pow2 (-e).toNat, den) else (num, den * pow2 e.toNat)

/-- The bits, sign apart, of the double nearest to `num / den`. -/
def encodeRatio (num den : Nat) : Nat :=
  if num = 0 then 0
  else
    -- The quotient lies between `2 ^ (guess - 1)` and `2 ^ (guess + 1)`.
    let guess : Int := (Nat.log2 num : Int) - Nat.log2 den
    let one := scaleDown num den guess
    let top := if one.2 ≤ one.1 then guess else guess - 1
    let exponent := max (top - 52) minExponent
    let scaled := scaleDown num den exponent
    let mantissa := roundHalfEven scaled.1 scaled.2
    -- A subnormal number has a mantissa below `2 ^ 52` and the biased exponent zero; a mantissa
    -- that was rounded up to the next power of two carries into the exponent.
    let bits := (exponent - minExponent).toNat * pow2 52 + mantissa
    min bits (2047 * pow2 52)

/-- The double with these bits and this sign. -/
def ofMagnitude (negative : Bool) (bits : Nat) : Float :=
  Float.ofBits (UInt64.ofNat (bits + if negative then pow2 63 else 0))

/-- The double nearest to `± digits · 10 ^ exponent`. Exponents far out of range are settled by the
number of digits, so that no huge power is computed. -/
def ofDecimal (negative : Bool) (digits : Nat) (exponent : Int) : Float :=
  let width : Int := (Nat.toDigits 10 digits).length
  if digits = 0 || width + exponent < -330 then ofMagnitude negative 0
  else if 310 < width + exponent then ofMagnitude negative (2047 * pow2 52)
  else if 0 ≤ exponent then ofMagnitude negative (encodeRatio (digits * pow10 exponent.toNat) 1)
  else ofMagnitude negative (encodeRatio digits (pow10 (-exponent).toNat))

/-- The double nearest to a whole number; `none` where that is not a finite one. -/
def ofInteger? (n : Int) : Option Float :=
  let bits := encodeRatio n.natAbs 1
  if bits = 2047 * pow2 52 then none else some (ofMagnitude (n < 0) bits)

/-- The whole number that a finite double is, if it is one. -/
def integer? (x : Float) : Option Int :=
  match decode x with
  | .finite negative mantissa exponent =>
    let magnitude : Option Nat :=
      if 0 ≤ exponent then some (mantissa * pow2 exponent.toNat)
      else
        let unit := pow2 (-exponent).toNat
        if mantissa % unit = 0 then some (mantissa / unit) else none
    magnitude.map fun n => if negative then -(n : Int) else n
  | _ => none

/-- The whole part of a finite double, toward zero. -/
def truncate? (x : Float) : Option Int :=
  match decode x with
  | .finite negative mantissa exponent =>
    let n := if 0 ≤ exponent then mantissa * pow2 exponent.toNat else mantissa / pow2 (-exponent).toNat
    some (if negative then -(n : Int) else n)
  | _ => none

end TextShell.Decimal
