/-!
# Parts of a text

Whether a text begins with, ends with or contains another one, character by
character.
-/

namespace FrameworkLint.Text

/-- The text begins with `start`. -/
def begins (start text : String) : Bool :=
  start.toList.isPrefixOf text.toList

/-- The text ends with `ending`. -/
def ends (ending text : String) : Bool :=
  ending.toList.isSuffixOf text.toList

theorem ends_iff (ending text : String) :
    ends ending text = true ↔ ending.toList <:+ text.toList := by
  simp [ends]

/-- Some part of the characters is `part`. -/
def occurs (part : List Char) : List Char → Bool
  | [] => part.isEmpty
  | first :: rest => part.isPrefixOf (first :: rest) || occurs part rest

theorem occurs_iff (part text : List Char) : occurs part text = true ↔ part <:+: text := by
  induction text with
  | nil => simp [occurs]
  | cons first rest ih => simp [occurs, ih, List.infix_cons_iff]

/-- The text contains `part`. -/
def contains (part text : String) : Bool :=
  occurs part.toList text.toList

theorem contains_iff (part text : String) :
    contains part text = true ↔ part.toList <:+: text.toList :=
  occurs_iff part.toList text.toList

end FrameworkLint.Text
