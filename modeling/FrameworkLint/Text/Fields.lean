import FrameworkLint.Text.Blank

/-!
# Fields and words

A text falls into fields at every separator, and into words at every run of blanks.
-/

namespace FrameworkLint.Text

/-- The parts of a text between the separators.  There is one part more than there are
separators, and parts can be empty. -/
def fields (isSeparator : Char → Bool) : List Char → List (List Char)
  | [] => [[]]
  | first :: rest =>
      if isSeparator first then [] :: fields isSeparator rest
      else
        match fields isSeparator rest with
        | [] => [[first]]
        | field :: others => (first :: field) :: others

theorem fields_ne_nil (isSeparator : Char → Bool) (text : List Char) :
    fields isSeparator text ≠ [] := by
  cases text with
  | nil => simp [fields]
  | cons first rest =>
      unfold fields
      split
      · simp
      · split <;> simp

/-- The words of a text: the fields between blanks that are not empty. -/
def words (text : String) : List (List Char) :=
  (fields isBlank text.toList).filter (!·.isEmpty)

end FrameworkLint.Text
