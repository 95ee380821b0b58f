import FrameworkLint.Text.Fields

/-!
# Integers in texts

A number is written with the decimal digits of any script.  Scripts may be mixed, zeros
may lead, a single underscore may stand between two digits, and a sign may stand in
front.  The number of digits is limited, zeros in front included.
-/

namespace FrameworkLint.Text

/-- The code points of the zeros, as one version of the interpreter knows them: later versions of
Unicode add scripts.  The other nine digits of a script follow its zero. -/
def zeros : List Nat :=
  [0x30, 0x660, 0x6F0, 0x7C0, 0x966, 0x9E6, 0xA66, 0xAE6, 0xB66, 0xBE6, 0xC66, 0xCE6, 0xD66,
   0xDE6, 0xE50, 0xED0, 0xF20, 0x1040, 0x1090, 0x17E0, 0x1810, 0x1946, 0x19D0, 0x1A80, 0x1A90,
   0x1B50, 0x1BB0, 0x1C40, 0x1C50, 0xA620, 0xA8D0, 0xA900, 0xA9D0, 0xA9F0, 0xAA50, 0xABF0,
   0xFF10, 0x104A0, 0x10D30, 0x11066, 0x110F0, 0x11136, 0x111D0, 0x112F0, 0x11450, 0x114D0,
   0x11650, 0x116C0, 0x11730, 0x118E0, 0x11950, 0x11C50, 0x11D50, 0x11DA0, 0x16A60, 0x16AC0,
   0x16B50, 0x1D7CE, 0x1D7D8, 0x1D7E2, 0x1D7EC, 0x1D7F6, 0x1E140, 0x1E2F0, 0x1E950, 0x1FBF0]

/-- The value of a digit. -/
def digit? (character : Char) : Option Nat :=
  zeros.findSome? fun start =>
    if start ≤ character.toNat ∧ character.toNat < start + 10 then some (character.toNat - start)
    else none

/-- The number with the given digits. -/
def ofDigits (digits : List Nat) : Nat :=
  digits.foldl (fun value digit => 10 * value + digit) 0

/-- The greatest number of digits that is read as a number.  Like the zeros it belongs to one
version of the interpreter. -/
def digitLimit : Nat := 4300

/-- A number without a sign.  Its underscores divide it into groups, none of which is
empty. -/
def natural? (text : List Char) : Option Nat :=
  let groups := fields (· == '_') text
  if groups.any List.isEmpty || digitLimit < groups.flatten.length then none
  else (groups.flatten.mapM digit?).map ofDigits

/-- A number with or without a sign. -/
def integer? : List Char → Option Int
  | '+' :: text => (natural? text).map Int.ofNat
  | '-' :: text => (natural? text).map fun value => -Int.ofNat value
  | text => (natural? text).map Int.ofNat

end FrameworkLint.Text
