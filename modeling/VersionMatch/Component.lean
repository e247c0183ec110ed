import VersionMatch.Text.Basic

/-!
# Components of a version-id

A component counts as a number if it consists of ASCII digits, at least one, and its value is at
most 2147483647. Two numbers are compared by value. In every other case the two components are
compared as texts, code point by code point, so that a numeral above the bound is a text as well.
-/

namespace VersionMatch.Component

/-- The largest value of a component that counts as a number. -/
def maxNumber : Nat := 2147483647

/-- The value of a numeral of value `n` after one more digit. -/
def appendDigit (n : Nat) (digit : Char) : Nat :=
  n * 10 + (digit.toNat - '0'.toNat)

/-- One step of reading a number: a further character must be a digit and must keep the value
within the bound. -/
def readDigit (n : Nat) (c : Char) : Option Nat :=
  if c.isDigit && appendDigit n c ≤ maxNumber then some (appendDigit n c) else none

/-- The value of a component that counts as a number. Reading stops at the first character that
settles that it is none. -/
def number? (component : Text) : Option Nat :=
  if component.isEmpty then none else component.foldlM readDigit 0

/-- The order of two texts by code points: `-1`, `0` or `1`. -/
def textDifference (a b : Text) : Int :=
  if a < b then -1 else if b < a then 1 else 0

/-- The signed difference of two components: negative if `a` sorts before `b`, zero if the two are
equal, positive if `a` sorts after `b`. Numbers are subtracted. -/
def difference (a b : Text) : Int :=
  match number? a, number? b with
  | some m, some n => (m : Int) - n
  | _, _ => textDifference a b

end VersionMatch.Component
