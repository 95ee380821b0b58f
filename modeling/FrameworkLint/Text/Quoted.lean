import FrameworkLint.Text.Printable

/-!
# Quoted texts

A text is shown between quotes, so that all of it can be seen.  The quotes are single
ones, and double ones for a text in which only single ones occur.  The quote itself, a
backslash and a line break are escaped, and a hidden character is written by the
number of its code point.
-/

namespace FrameworkLint.Text

def singleQuote : Char := '\x27'

def doubleQuote : Char := '\x22'

def backslash : Char := '\x5c'

/-- The quote that stands around a text. -/
def quoteOf (text : List Char) : Char :=
  if text.contains singleQuote && !text.contains doubleQuote then doubleQuote else singleQuote

/-- A number in base sixteen, filled up to a width. -/
def hexadecimal (width value : Nat) : List Char :=
  let digits := Nat.toDigits 16 value
  List.replicate (width - digits.length) '0' ++ digits

/-- The escape of a character by the number of its code point, in the shortest of three
widths. -/
def numbered (code : Nat) : List Char :=
  if code < 0x100 then backslash :: 'x' :: hexadecimal 2 code
  else if code < 0x10000 then backslash :: 'u' :: hexadecimal 4 code
  else backslash :: 'U' :: hexadecimal 8 code

/-- How a character is written between quotes. -/
def written (quote character : Char) : List Char :=
  if character = quote ∨ character = backslash then [backslash, character]
  else if isPrintable character then [character]
  else
    match character with
    | '\t' => [backslash, 't']
    | '\n' => [backslash, 'n']
    | '\r' => [backslash, 'r']
    | _ => numbered character.toNat

def quoted (text : String) : String :=
  let quote := quoteOf text.toList
  String.ofList (quote :: (text.toList.flatMap (written quote) ++ [quote]))

end FrameworkLint.Text
