import FrameworkLint.Declaration
import FrameworkLint.Fault

/-!
# Whether the framework is installed

Without the framework most rules cannot work, so its absence is reported once, at the
end of a run.
-/

namespace FrameworkLint.Installation

def checkerName : String := "django-installed-checker"

def notAvailable : Declaration where
  id := "F5101"
  text := "Django is not available on the PYTHONPATH"
  symbol := "django-not-available"
  description :=
    "Django could not be imported by the pylint-django plugin, so most Django related " ++
      "improvements to pylint will fail."

/-- A checker is only switched on if one of its messages is not fatal. -/
def placeholder : Declaration where
  id := "W5199"
  text := "Placeholder message to prevent disabling of checker"
  symbol := "django-not-available-placeholder"
  description :=
    "PyLint does not recognise checkers as being enabled unless they have at least" ++
      " one message which is not fatal..."

def declarations : List Declaration :=
  [notAvailable, placeholder]

def enabledBy : List String := [notAvailable.symbol]

/-- The messages after an attempt to import the framework, which may have failed.
Only a failure of the import itself is reported; any other one is passed on. -/
def messages : Option Fault → Except Fault (List Declaration)
  | none => .ok []
  | some fault => if fault.isImportFailure then .ok [notAvailable] else .error fault

end FrameworkLint.Installation
