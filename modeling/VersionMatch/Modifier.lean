import VersionMatch.Text.Basic

/-!
# Modifiers

A modifier after a version-id relaxes what it accepts: `+` accepts the version-id and everything
newer, `*` accepts everything that begins with the components of the version-id.
-/

namespace VersionMatch

/-- The two ways to relax a version-id. -/
inductive Modifier where
  | atLeast
  | prefixMatch
  deriving DecidableEq

namespace Modifier

/-- The character that a modifier is written as. -/
def symbol : Modifier → Char
  | .atLeast => '+'
  | .prefixMatch => '*'

/-- The modifier that a character stands for. -/
def ofSymbol? (c : Char) : Option Modifier :=
  if c == '+' then some .atLeast
  else if c == '*' then some .prefixMatch
  else none

/-- The modifier that a text stands for. -/
def ofText? : Text → Option Modifier
  | [c] => ofSymbol? c
  | _ => none

/-- The character that a modifier is written as stands for it. -/
theorem of_symbol_symbol (modifier : Modifier) : ofSymbol? modifier.symbol = some modifier := by
  cases modifier <;> rfl

end Modifier

end VersionMatch
