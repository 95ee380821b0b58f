import FrameworkLint.Declaration

/-!
# Complaints about models

A model should have a method that gives its text.  In Python 2 that method is
`__unicode__`; Python 3 uses another one.
-/

namespace FrameworkLint.Model

inductive Complaint
  /-- The text method is bound to something that cannot be called. -/
  | notCallable
  /-- There is no text method. -/
  | missing
  /-- The text method is one that Python 3 does not use. -/
  | outdated
  /-- The text method is only inherited. -/
  | inherited
  deriving DecidableEq

namespace Complaint

def declaration : Complaint → Declaration
  | .notCallable =>
      { id := "E5101"
        text := "__unicode__ on a model must be callable (%s)"
        symbol := "model-unicode-not-callable"
        description := "Django models require a callable __unicode__ method" }
  | .missing =>
      { id := "W5101"
        text := "No __unicode__ method on model (%s)"
        symbol := "model-missing-unicode"
        description :=
          "Django models should implement a __unicode__ method for string representation" }
  | .outdated =>
      { id := "W5102"
        text := "Found __unicode__ method on model (%s). Python3 uses __str__."
        symbol := "model-has-unicode"
        description :=
          "Django models should not implement a __unicode__ method for string representation " ++
            "when using Python3" }
  | .inherited =>
      { id := "W5103"
        text := "Model does not explicitly define __unicode__ (%s)"
        symbol := "model-no-explicit-unicode"
        description :=
          "Django models should implement a __unicode__ method for string representation. " ++
            "A parent class of this model does, but ideally all models should be explicit." }

def id (complaint : Complaint) : String :=
  complaint.declaration.id

/-- Every complaint, in the order of the identifiers. -/
def all : List Complaint :=
  [.notCallable, .missing, .outdated, .inherited]

end Complaint

end FrameworkLint.Model
