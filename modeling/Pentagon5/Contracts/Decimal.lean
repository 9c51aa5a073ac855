import Pentagon5.Ecma.Pattern
import Pentagon5.Notation.Decimal
import Pentagon5.Python.Text

/-!
# The decimal contract

The patterns of `Decimal` and `NonNegativeDecimal` in `common.schema.json`, and the number that a
text denotes.
-/

namespace Pentagon5.Contracts

open Python Ecma Notation RegularExpression

/-- `[0-9]` -/
def digit : RegularExpression ℕ := oneOf (Str.ofString "0123456789").codes

/-- `[1-9]` -/
def nonzeroDigit : RegularExpression ℕ := oneOf (Str.ofString "123456789").codes

/-- `\.[0-9]*[1-9]` -/
def fractionPattern : RegularExpression ℕ := char 46 * (digit.star * nonzeroDigit)

/-- `0\.[0-9]*[1-9]|[1-9][0-9]*(?:\.[0-9]*[1-9])?` -/
def nonzeroPattern : RegularExpression ℕ :=
  char 48 * fractionPattern + nonzeroDigit * (digit.star * optional fractionPattern)

/-- `^(?:0|-?(?:0\.[0-9]*[1-9]|[1-9][0-9]*(?:\.[0-9]*[1-9])?))$` -/
def decimalPattern : RegularExpression ℕ := char 48 + optional (char 45) * nonzeroPattern

/-- `^(?:0|(?:0\.[0-9]*[1-9]|[1-9][0-9]*(?:\.[0-9]*[1-9])?))$` -/
def nonNegativeDecimalPattern : RegularExpression ℕ := char 48 + nonzeroPattern

def digitValues (codes : List ℕ) : List ℕ := codes.map (· - 48)

/-- The number of an unsigned text, in ordinary base ten notation. -/
def magnitude (codes : List ℕ) : ℚ :=
  let whole := codes.takeWhile (· ≠ 46)
  let fraction := (codes.dropWhile (· ≠ 46)).tail
  wholeValue (digitValues whole) + fractionValue (digitValues fraction)

/-- The text after a minus sign. -/
def unsigned (codes : List ℕ) : List ℕ := if codes.head? = some 45 then codes.tail else codes

def denoted (codes : List ℕ) : ℚ :=
  if codes.head? = some 45 then -magnitude (unsigned codes) else magnitude (unsigned codes)

/-- The rules of ADR 0002 for the spelling of a number. The characters leave out an exponent and a
plus sign. -/
structure IsPlain (codes : List ℕ) : Prop where
  characters : ∀ c ∈ codes, (48 ≤ c ∧ c ≤ 57) ∨ c = 45 ∨ c = 46
  leadingZero : ∀ c rest, unsigned codes = 48 :: c :: rest → c = 46
  trailingZero : 46 ∈ codes → codes.getLast? ≠ some 48
  point : codes.getLast? ≠ some 46
  magnitudeBelowOne : (unsigned codes).head? ≠ some 46

end Pentagon5.Contracts
