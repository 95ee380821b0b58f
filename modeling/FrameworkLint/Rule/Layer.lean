import FrameworkLint.Rule.Site
import FrameworkLint.Rule.Test

/-!
# Layers around a check

Rules put layers around the method of a checker.  A layer that is added later goes
around the layers that are there already.  A gate runs what is inside it or nothing.
A suppressor asks its test first, then runs what is inside it, and drops its message
from the result if the test held.  So every test outside a closed gate is asked, and
the first fault ends the run.
-/

namespace FrameworkLint.Rule

variable {n : Nat}

/-- A suppressor has the identifier of its message, as the rule was written. -/
inductive Layer
  | gate (gate : Gate)
  | suppress (identifier : String) (test : Test)
  deriving DecidableEq

/-- What comes out of a check: how often the method of the checker ran, and the
messages in the order in which it raised them. -/
structure Report where
  runs : Nat
  messages : List String
  deriving DecidableEq

namespace Report

/-- The report without the messages raised under one of the names. -/
def without (names : List String) (report : Report) : Report :=
  { report with messages := report.messages.filter (!names.contains ·) }

end Report

/-- Runs a check inside its layers, the outermost layer first.  The method of the
checker raises `raised`.  The layers may be any number: only the search of a single test is
bounded by the depth of the settings. -/
def run (settings : Settings) (graph : Graph n) (ref : Ref n) (raised : List String) :
    List Layer → Except Fault Report
  | [] => .ok ⟨1, raised⟩
  | .gate gate :: inner =>
      (gate.passes settings graph ref).bind fun passes =>
        if passes then run settings graph ref raised inner else .ok ⟨0, []⟩
  | .suppress identifier test :: inner =>
      (test.holds settings graph ref).bind fun holds =>
        (run settings graph ref raised inner).map fun report =>
          if holds then report.without (settings.messageNames identifier) else report

end FrameworkLint.Rule

namespace FrameworkLint

/-- A layer at a site. -/
structure Rule where
  site : Rule.Site
  layer : Rule.Layer
  deriving DecidableEq

namespace Rule

/-- The layers that a list of rules puts around a site, the outermost first.  The
rules are in the order in which they are added. -/
def layers (rules : List Rule) (site : Site) : List Layer :=
  ((rules.filter (·.site = site)).map (·.layer)).reverse

/-- What comes out of a check at a site under a list of rules. -/
def check {n : Nat} (settings : Settings) (graph : Graph n) (rules : List Rule) (site : Site)
    (ref : Ref n) (raised : List String) : Except Fault Report :=
  run settings graph ref raised (layers rules site)

end Rule

end FrameworkLint
