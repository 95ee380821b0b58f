import FrameworkLint.Text.Integer
import FrameworkLint.Version

/-!
# Skip lists

A skip list names versions under which a job is not run.  Its words are the beginnings
of versions, written with dots.  The words are read in order up to the first that fits
the version; a word that is no version is a fault, unless the decision comes before it.
-/

namespace FrameworkLint.SkipList

/-- The parts of a version that a word names. -/
def entry (word : List Char) : Except Fault (List Int) :=
  match (Text.fields (· == '.') word).mapM Text.integer? with
  | some parts => .ok parts
  | none => .error .notANumber

/-- Whether a version is skipped by the words of a list. -/
def skipsWords (version : Version) (words : List (List Char)) : Except Fault Bool :=
  words.anyM fun word => (entry word).map version.startsWith

/-- Whether a version is skipped.  Without a list nothing is. -/
def skips (list : Option String) (version : Version) : Except Fault Bool :=
  skipsWords version (Text.words (list.getD ""))

/-- A version given by its parts, one text for each. -/
def versionOfTexts (parts : List String) : Version :=
  parts.map fun part =>
    match Text.integer? part.toList with
    | some value => .number value
    | none => .word part

end FrameworkLint.SkipList
