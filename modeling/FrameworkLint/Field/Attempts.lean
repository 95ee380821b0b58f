import FrameworkLint.Field.StandIn

/-!
# Repeated questions for special values

The rule for the special values of a node is tried once.  A node whose rule failed is
remembered, and from then on the rule has nothing to say about it.
-/

namespace FrameworkLint.Field

variable {n : Nat}

/-- The nodes whose rule was tried and failed. -/
structure Attempts (n : Nat) where
  failed : List (Ref n) := []

namespace Attempts

/-- Remembers a node if its rule failed. -/
def note (attempts : Attempts n) (ref : Ref n) :
    Except Fault (List (StandIn n)) → Attempts n
  | .ok _ => attempts
  | .error _ => ⟨ref :: attempts.failed⟩

/-- Tries the rule of a node, unless it failed before. -/
def attempt (attempts : Attempts n) (ref : Ref n) (rule : Except Fault (List (StandIn n))) :
    Except Fault (List (StandIn n)) × Attempts n :=
  if ref ∈ attempts.failed then (.error .noSpecialValue, attempts)
  else (rule, attempts.note ref rule)

/-- The special values of a node, and what is remembered afterwards.  A node without a
rule, or for which it is not known whether there is one, is not remembered. -/
def visit (attempts : Attempts n) (settings : Settings) (graph : Graph n) (ref : Ref n) :
    Except Fault (Option (List (StandIn n))) × Attempts n :=
  match specialRule settings graph ref with
  | .error fault => (.error fault, attempts)
  | .ok none => (.ok none, attempts)
  | .ok (some rule) =>
      let outcome := attempts.attempt ref rule
      (outcome.1.map some, outcome.2)

end Attempts

end FrameworkLint.Field
