import FrameworkLint.Fault

/-!
# Versions

A version is a list of parts.  Most parts are numbers; a release level such as
`final` is a word.  Two versions are compared part by part, and a version that
continues another one is the later of the two.
-/

namespace FrameworkLint

inductive VersionPart
  | number (value : Int)
  | word (text : String)
  deriving DecidableEq

abbrev Version := List VersionPart

namespace Version

/-- A version whose parts are all numbers. -/
def ofNumbers (parts : List Int) : Version :=
  parts.map .number

/-- Compares a version with a bound made of numbers.  A word can only be compared
with a number by position, never by size, so meeting one before the decision is a
fault. -/
def compareTo : Version → List Int → Except Fault Ordering
  | [], [] => .ok .eq
  | [], _ :: _ => .ok .lt
  | _ :: _, [] => .ok .gt
  | .word _ :: _, _ :: _ => .error .incomparable
  | .number part :: rest, bound :: bounds =>
      if part = bound then compareTo rest bounds else .ok (compare part bound)

/-- The version is the bound or a later one. -/
def atLeast (version : Version) (bound : List Int) : Except Fault Bool :=
  (compareTo version bound).map (· != .lt)

/-- The version starts with the given numbers. -/
def startsWith (version : Version) (parts : List Int) : Bool :=
  (ofNumbers parts).isPrefixOf version

theorem startsWith_iff (version : Version) (parts : List Int) :
    version.startsWith parts = true ↔ ofNumbers parts <+: version := by
  simp [startsWith]

/-- A version does not start with more parts than it has. -/
theorem length_le_of_startsWith {version : Version} {parts : List Int}
    (starts : version.startsWith parts = true) : parts.length ≤ version.length := by
  have shorter := ((startsWith_iff version parts).mp starts).length_le
  simpa [ofNumbers] using shorter

end Version

end FrameworkLint
