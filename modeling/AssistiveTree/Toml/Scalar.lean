import AssistiveTree.Toml.Layout
import AssistiveTree.Toml.Section

/-!
# Numbers, truth values and dates

Every value that is neither quoted nor bracketed is one run of letters, digits
and a few signs. A date may be followed by a space and a time of day.
-/

namespace AssistiveTree
namespace Toml

/-- Characters of an unquoted value. -/
def isScalarChar (character : Char) : Bool :=
  character.isAlphanum || character = '+' || character = '-' ||
    character = '_' || character = '.' || character = ':'

/-- Digits in which single underscores may stand between two digits, without
the underscores. -/
def digitRun? (isDigit : Char → Bool) : List Char → Option (List Char)
  | [] => none
  | [digit] => if isDigit digit then some [digit] else none
  | digit :: '_' :: rest =>
      if isDigit digit then (digitRun? isDigit rest).map (digit :: ·)
      else none
  | digit :: rest =>
      if isDigit digit then (digitRun? isDigit rest).map (digit :: ·)
      else none

/-- The digits of a decimal number, which has no leading zeros. -/
def decimalRun? (text : List Char) : Option (List Char) := do
  let digits ← digitRun? Char.isDigit text
  if digits.head? = some '0' ∧ digits ≠ ['0'] then none else return digits

/-- The sign of a number, and the text after it. -/
def splitSign : List Char → Bool × List Char
  | '-' :: rest => (true, rest)
  | '+' :: rest => (false, rest)
  | text => (false, text)

/-- The value of digits in a base. -/
def natValue (base : Nat) (digits : List Char) (digitValue : Char → Nat) :
    Nat :=
  digits.foldl (fun value digit => base * value + digitValue digit) 0

/-- The value of a digit up to `f`. -/
def digitValue (character : Char) : Nat :=
  if character.isDigit then character.toNat - '0'.toNat
  else character.toLower.toNat - 'a'.toNat + 10

/-- Whether a character is a hexadecimal digit. -/
def isHexDigit (character : Char) : Bool :=
  character.isDigit || ('a' ≤ character.toLower && character.toLower ≤ 'f')

/-- An integer, if it fits into 64 bits with sign. -/
def int64? (value : Int) : Option Int :=
  if Int64.minValue.toInt ≤ value ∧ value ≤ Int64.maxValue.toInt then some value
  else none

/-- The value of an integer literal. Only decimal literals have signs. -/
def integerLiteral? (text : List Char) : Option Int :=
  match text with
  | '0' :: 'x' :: digits => do
      let digits ← digitRun? isHexDigit digits
      int64? (natValue 16 digits digitValue)
  | '0' :: 'o' :: digits => do
      let digits ← digitRun? (fun digit => '0' ≤ digit && digit ≤ '7') digits
      int64? (natValue 8 digits digitValue)
  | '0' :: 'b' :: digits => do
      let digits ← digitRun? (fun digit => digit = '0' || digit = '1') digits
      int64? (natValue 2 digits digitValue)
  | _ => do
      let signed := splitSign text
      let digits ← decimalRun? signed.2
      let size : Int := Nat.ofDigitChars 10 digits 0
      int64? (if signed.1 then -size else size)

/-- Whether a decimal number with the given digits and exponent of ten rounds
to a finite double-precision number. The least number that does not is halfway
between the greatest such number and the next power of two. -/
def isFinite (digits : List Char) (exponent : Int) : Bool :=
  let significant := digits.dropWhile fun digit => digit = '0'
  let magnitude := exponent + significant.length
  let size := Nat.ofDigitChars 10 significant 0
  let bound := Nat.pow 2 1024 - Nat.pow 2 970
  if significant = [] || magnitude < 300 then true
  else if magnitude > 320 then false
  else if 0 ≤ exponent then size * Nat.pow 10 exponent.toNat < bound
  else size < bound * Nat.pow 10 (-exponent).toNat

/-- The exponent after the mark of a float literal. -/
def exponentLiteral? (text : List Char) : Option Int := do
  let signed := splitSign text
  let digits ← digitRun? Char.isDigit signed.2
  let size : Int := Nat.ofDigitChars 10 digits 0
  return if signed.1 then -size else size

/-- Whether a character marks an exponent. -/
def isExponentMark (character : Char) : Bool :=
  character = 'e' || character = 'E'

/-- Whether a text is a float literal: with a fraction, with an exponent or
with both, or one of the special values. A positive literal that rounds to no
finite number is refused. -/
def isFloatLiteral (text : List Char) : Bool :=
  let signed := splitSign text
  let mantissa := signed.2.takeWhile fun c => !isExponentMark c
  let afterMark := (signed.2.dropWhile fun c => !isExponentMark c).tail
  let whole := mantissa.takeWhile fun c => c ≠ '.'
  let afterPoint := (mantissa.dropWhile fun c => c ≠ '.').tail
  let hasMark := mantissa.length < signed.2.length
  let hasPoint := whole.length < mantissa.length
  if signed.2 = ['i', 'n', 'f'] ∨ signed.2 = ['n', 'a', 'n'] then true
  else if !hasMark && !hasPoint then false
  else
    let read : Option (List Char × Int) := do
      let wholeDigits ← decimalRun? whole
      let fraction ←
        if hasPoint then digitRun? Char.isDigit afterPoint else some []
      let exponent ← if hasMark then exponentLiteral? afterMark else some 0
      return (wholeDigits ++ fraction, exponent - fraction.length)
    match read with
    | none => false
    | some (digits, exponent) => signed.1 || isFinite digits exponent

/-- The value of two digits. -/
def twoDigits? (tens units : Char) : Option Nat :=
  if tens.isDigit && units.isDigit then
    some (Nat.ofDigitChars 10 [tens, units] 0)
  else none

/-- Number of days of a month. -/
def daysInMonth (year month : Nat) : Nat :=
  if month = 2 then
    if year % 4 = 0 && (year % 100 ≠ 0 || year % 400 = 0) then 29 else 28
  else if month = 4 || month = 6 || month = 9 || month = 11 then 30
  else 31

/-- The text after a calendar date. -/
def readDate? : List Char → Option (List Char)
  | y₁ :: y₂ :: y₃ :: y₄ :: '-' :: m₁ :: m₂ :: '-' :: d₁ :: d₂ :: rest => do
      let century ← twoDigits? y₁ y₂
      let year ← twoDigits? y₃ y₄
      let month ← twoDigits? m₁ m₂
      let day ← twoDigits? d₁ d₂
      if 1 ≤ month ∧ month ≤ 12 ∧ 1 ≤ day ∧
          day ≤ daysInMonth (100 * century + year) month then
        return rest
      else none
  | _ => none

/-- The text after a fraction of a second, if there is one. -/
def skipSecondFraction : List Char → List Char
  | '.' :: digit :: rest =>
      if digit.isDigit then rest.dropWhile Char.isDigit
      else '.' :: digit :: rest
  | text => text

/-- The text after a time of day. The sixtieth second may be a leap second. -/
def readTime? : List Char → Option (List Char)
  | h₁ :: h₂ :: ':' :: m₁ :: m₂ :: ':' :: s₁ :: s₂ :: rest => do
      let hour ← twoDigits? h₁ h₂
      let minute ← twoDigits? m₁ m₂
      let second ← twoDigits? s₁ s₂
      if hour ≤ 23 ∧ minute ≤ 59 ∧ second ≤ 60 then
        return skipSecondFraction rest
      else none
  | _ => none

/-- Whether a text is empty or an offset from universal time. -/
def isOffset : List Char → Bool
  | [] => true
  | ['Z'] => true
  | ['z'] => true
  | [sign, h₁, h₂, ':', m₁, m₂] =>
      match twoDigits? h₁ h₂, twoDigits? m₁ m₂ with
      | some hour, some minute =>
          (sign = '+' || sign = '-') && hour ≤ 23 && minute ≤ 59
      | _, _ => false
  | _ => false

/-- Whether a text is a time of day, with or without an offset. -/
def isOffsetTime (text : List Char) : Bool :=
  match readTime? text with
  | some rest => isOffset rest
  | none => false

/-- Whether a text is a date, a time of day or both. -/
def isMoment (text : List Char) : Bool :=
  readTime? text = some [] ||
    match readDate? text with
    | some [] => true
    | some ('T' :: time) => isOffsetTime time
    | some ('t' :: time) => isOffsetTime time
    | _ => false

/-- The value of one run of scalar characters. -/
def scalar? (text : List Char) : Option Value :=
  if text = ['t', 'r', 'u', 'e'] then some (.boolean true)
  else if text = ['f', 'a', 'l', 's', 'e'] then some (.boolean false)
  else
    match integerLiteral? text with
    | some value => some (.integer value)
    | none =>
        if isFloatLiteral text then some .float
        else if isMoment text then some .moment
        else none

/-- The text after the time of day that may follow a date after a space. -/
def skipTimeAfter (date : List Char) (text : List Char) : List Char :=
  match text with
  | ' ' :: rest =>
      if readDate? date = some [] && isOffsetTime (rest.takeWhile isScalarChar)
      then rest.dropWhile isScalarChar
      else text
  | _ => text

/-- Read a value that is neither quoted nor bracketed. -/
def readScalar? : Reader Value := fun text =>
  let run := text.takeWhile isScalarChar
  let rest := text.dropWhile isScalarChar
  (scalar? run).map fun value => (value, skipTimeAfter run rest)

end Toml
end AssistiveTree
