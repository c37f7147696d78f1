import TextShell.Calendar
import TextShell.Text.Quoted

/-!
# Faults

A fault is a failure that is not one of the script's own errors: a conversion that has no result, an
operation used out of order, a request that failed. Scripts see a fault only as a message, made of
its kind and its words.
-/

namespace TextShell

/-- Why an operation has no result. -/
inductive Fault where
  /-- A numeral of this many digits is too long to become an integer. -/
  | numeralTooLong (digits : Nat)
  /-- An integer is too wide to be written. -/
  | integerTooWide
  | notReal (text : String)
  /-- A numeral, as it is shown, that is no integer in this base. -/
  | notInteger (shown : String) (base : Nat := 10)
  | infinityToInteger
  | notANumberToInteger
  | integerToReal
  /-- A value of this kind has no integer. -/
  | kindToInteger (kind : String)
  /-- A value of this kind has no real. -/
  | kindToReal (kind : String)
  | emptyScopeStack
  | missingField (name : String)
  | unsupportedFormat (shown : String)
  | notAValueMapping
  /-- Numbers that are no day or no moment. -/
  | calendar (error : CalendarError)
  /-- Something of this kind cannot be a key. -/
  | unhashable (kind : String)
  /-- The body of a function is of this kind, which cannot be called. -/
  | notCallable (kind : String)
  /-- The evaluation was cut off. -/
  | outOfFuel
  /-- A failure reported from outside, under its own kind and words. -/
  | reported (kind message : String)
deriving Repr, DecidableEq, Inhabited

/-- The kind under which a fault is reported. -/
def Fault.kind : Fault → String
  | .infinityToInteger | .integerToReal => "OverflowError"
  | .kindToInteger _ | .kindToReal _ | .unhashable _ | .notCallable _ => "TypeError"
  | .emptyScopeStack => "IndexError"
  | .missingField _ => "KeyError"
  | .outOfFuel => "RuntimeError"
  | .reported kind _ => kind
  | _ => "ValueError"

/-- The words of a fault. A numeral that is no integer is shown up to two hundred characters. -/
def Fault.message : Fault → String
  | .numeralTooLong digits =>
    "Exceeds the limit (4300 digits) for integer string conversion: value has " ++
      toString digits ++ " digits; use sys.set_int_max_str_digits() to increase the limit"
  | .integerTooWide =>
    "Exceeds the limit (4300 digits) for integer string conversion; " ++
      "use sys.set_int_max_str_digits() to increase the limit"
  | .notReal text => "could not convert string to float: " ++ Text.quote text
  | .notInteger shown base =>
    "invalid literal for int() with base " ++ toString base ++ ": " ++
      String.ofList (shown.toList.take 200)
  | .infinityToInteger => "cannot convert float infinity to integer"
  | .notANumberToInteger => "cannot convert float NaN to integer"
  | .integerToReal => "int too large to convert to float"
  | .kindToInteger kind =>
    "int() argument must be a string, a bytes-like object or a real number, not '" ++ kind ++ "'"
  | .kindToReal kind => "float() argument must be a string or a real number, not '" ++ kind ++ "'"
  | .emptyScopeStack => "pop from an empty scope stack"
  | .missingField name => Text.quote name
  | .unsupportedFormat shown => "Unsupported serialization format: " ++ shown
  | .notAValueMapping => "expected a mapping with `text` and `status`"
  | .calendar error => error.message
  | .unhashable kind => "unhashable type: '" ++ kind ++ "'"
  | .notCallable kind => "'" ++ kind ++ "' object is not callable"
  | .outOfFuel => "evaluation was cut off"
  | .reported _ message => message

/-- The fault of a number that is no code point: it is too large for one, or for a machine word. -/
def Text.codeFault (code : Nat) : Fault :=
  if 0x80000000 ≤ code then .reported "OverflowError" "Python int too large to convert to C int"
  else .reported "ValueError" "chr() arg not in range(0x110000)"

/-- Why a text cannot be read: it does not have the form, or a part of it that does is a fault. -/
inductive ReadError where
  | malformed
  | failed (fault : Fault)
deriving Repr, DecidableEq, Inhabited

end TextShell
