import Mathlib

/-!
# Command lines and decimal conversions

The parts of `base` the compositor reads: the switches of a `base::CommandLine`, and the decimal
conversions `base::StringToInt` and `base::StringToSizeT`, on an `int` of 32 bits and a `size_t`
of `width` bits.  `StringToSizeT` is modelled with the value it stores on failure, which
`GetGpuMemoryPolicy` keeps; `GetSwitchValueAsInt` reads only whether `StringToInt` succeeded and
the value it accepted.
-/

namespace ChromiumContent

/-- The build targets whose `#if` branches the modelled code distinguishes. -/
inductive Platform
  | android
  | chromeOS
  | mac
  | otherDesktop
  deriving DecidableEq, Repr

/-- `base::CommandLine`: the value of each switch that is present. -/
structure CommandLine where
  /-- The value of a present switch; a bare `--name` has the value `""`. -/
  switchValue : String → Option String

namespace CommandLine

/-- `HasSwitch`. -/
def hasSwitch (commandLine : CommandLine) (switchString : String) : Bool :=
  (commandLine.switchValue switchString).isSome

/-- `GetSwitchValueASCII`: the value, or `""` when the switch is absent. -/
def getSwitchValueASCII (commandLine : CommandLine) (switchString : String) : String :=
  (commandLine.switchValue switchString).getD ""

/-- A command line holding exactly the given switches. -/
def ofSwitches (switches : List (String × String)) : CommandLine :=
  ⟨fun name => switches.lookup name⟩

end CommandLine

/-- `std::numeric_limits<int>::max()`, also `INT_MAX`. -/
def intMax : Int := 2 ^ 31 - 1

/-- `LocalIsWhitespace`, the C `isspace` of the default locale. -/
def isSpace (c : Char) : Bool :=
  c = ' ' || c = '\t' || c = '\n' || c = '\x0B' || c = '\x0C' || c = '\r'

/-- The value of a decimal digit. -/
def digitValue (c : Char) : Nat := c.toNat - '0'.toNat

/-- The loop of `IteratorRangeToNumber::Positive::Invoke` for values up to `max`: whether every
character is a digit and the value stays in range, and the value stored.  A non-digit stops with
the value read so far; a value past `max` stores `max`. -/
def accumulateDigits (max : Nat) : List Char → Nat → Bool × Nat
  | [], value => (true, value)
  | c :: rest, value =>
      if !c.isDigit then (false, value)
      else if max / 10 < value ∨ (value = max / 10 ∧ max % 10 < digitValue c) then (false, max)
      else accumulateDigits max rest (10 * value + digitValue c)

/-- The value of a nonempty string of decimal digits. -/
def decimalValue? (digits : List Char) : Option Nat :=
  if digits ≠ [] ∧ digits.all Char.isDigit then
    some (digits.foldl (fun value c => 10 * value + digitValue c) 0)
  else none

/-- `base::StringToInt` on a 32-bit `int`: the value when the whole string is an optional sign
and decimal digits within range. -/
def stringToInt (input : String) : Option Int :=
  let (negative, digits) : Bool × List Char :=
    match input.toList with
    | '-' :: digits => (true, digits)
    | '+' :: digits => (false, digits)
    | digits => (false, digits)
  (decimalValue? digits).bind fun magnitude =>
    let value : Int := if negative then -magnitude else magnitude
    if -intMax - 1 ≤ value ∧ value ≤ intMax then some value else none

/-- `base::StringToSizeT` on a `size_t` of `width` bits: whether the whole string converted, and
the value stored, `none` when the output is left untouched (a leading `-`). -/
def stringToSizeT (width : Nat) (input : String) : Bool × Option Nat :=
  let chars := input.toList
  let afterSpace := chars.dropWhile isSpace
  let noSpace := afterSpace.length == chars.length
  let positive (digits : List Char) : Bool × Option Nat :=
    if digits = [] then (false, some 0)
    else
      let (converted, stored) := accumulateDigits (2 ^ width - 1) digits 0
      (noSpace && converted, some stored)
  match afterSpace with
  | '-' :: _ => (false, none)
  | '+' :: digits => positive digits
  | digits => positive digits

end ChromiumContent
