import TextShell.Decimal.Shortest

/-!
# Writing reals

One way to lay out the shortest digits and three formats of it: for messages, for data with braces
and for data by indentation. They differ in the words for infinity and for no number, and in whether a
fraction must stand before an exponent.
-/

namespace TextShell.Decimal

/-- What distinguishes one way to write reals from another. -/
structure RealFormat where
  notANumber : String
  infinity : String
  /-- `1.0e+16` rather than `1e+16`. -/
  fractionBeforeExponent : Bool := false

/-- The shortest digits of a finite double. Positional notation is used from `10 ^ -4` up to
`10 ^ 16`, with a fraction that is at least `.0`; an exponent has a sign and two digits or more. -/
def finiteText (format : RealFormat) (negative : Bool) (mantissa : Nat) (exponent : Int) : String :=
  let short := shortest mantissa exponent
  let digits := Nat.toDigits 10 short.digits
  let count : Int := digits.length
  -- The number is `0.d₁d₂… · 10 ^ point`.
  let point := count + short.exponent
  let body : List Char :=
    if mantissa = 0 then ['0', '.', '0']
    else if -4 < point && point ≤ 16 then
      if point ≤ 0 then '0' :: '.' :: List.replicate (-point).toNat '0' ++ digits
      else if count ≤ point then
        digits ++ List.replicate (point - count).toNat '0' ++ ['.', '0']
      else digits.take point.toNat ++ '.' :: digits.drop point.toNat
    else
      let power := point - 1
      let fraction :=
        match digits.drop 1 with
        | [] => if format.fractionBeforeExponent then ['.', '0'] else []
        | rest => '.' :: rest
      let size := Nat.toDigits 10 power.natAbs
      digits.take 1 ++ fraction ++ 'e' :: (if power < 0 then '-' else '+') ::
        List.replicate (2 - size.length) '0' ++ size
  String.ofList (if negative then '-' :: body else body)

/-- Writes a real. -/
def RealFormat.write (format : RealFormat) (x : Float) : String :=
  match decode x with
  | .notANumber => format.notANumber
  | .infinite negative => if negative then "-" ++ format.infinity else format.infinity
  | .finite negative mantissa exponent => finiteText format negative mantissa exponent

/-- Reals in messages. -/
def plainReal : RealFormat := { notANumber := "nan", infinity := "inf" }

/-- A number as scripts show it: a whole number has no fraction. -/
def scriptNumber (x : Float) : String :=
  match decode x with
  | .notANumber => "NaN"
  | _ =>
    match integer? x with
    | some n => toString n
    | none => plainReal.write x

end TextShell.Decimal
