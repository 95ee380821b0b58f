import FrameworkLint.Text.Quoted

/-!
# Faults

A question about a node of the analysed program can fail.  The causes are listed
here once for the whole library, together with the text that describes them.  Only
two of them say that an expression has no known value; every test recovers from
those two and from no other.
-/

namespace FrameworkLint

inductive Fault
  /-- No value is known for an expression. -/
  | unresolved
  /-- No value is known because a name has no binding. -/
  | unresolvedName
  /-- A value does not have the requested member. -/
  | unresolvedMember
  /-- The analysis of the program failed. -/
  | analysis
  /-- A special rule for the value of an expression has nothing to say. -/
  | noSpecialValue
  /-- The class hierarchy was followed deeper than the limit. -/
  | tooDeep
  /-- A node of kind `owner` does not answer `member`. -/
  | noMember (owner member : String)
  /-- A checker does not have the method. -/
  | noMethod (checker method : String)
  /-- No checker of the requested kind is present. -/
  | noChecker
  /-- A table has no entry for the key. -/
  | noKey (key : String)
  /-- A sequence is too short for the requested position. -/
  | noElement
  /-- A stub module does not exist. -/
  | noStub
  /-- A text cannot be the name of a file. -/
  | notAFileName
  /-- The name of a file has more bytes than a name can have. -/
  | longFileName
  /-- A name could not be imported. -/
  | noImport
  /-- A module to be imported does not exist. -/
  | noModule
  /-- A number was expected in a text. -/
  | notANumber
  /-- A number was compared with a text. -/
  | incomparable
  /-- A value that is no sequence was read like one. -/
  | notASequence
  /-- A definition stands in no scope although it has a parent. -/
  | noScope
  /-- A failure of another origin, known by its label only. -/
  | external (label : String)
  deriving DecidableEq

namespace Fault

/-- The two faults that mean "the value of this expression is not known". -/
def isUnresolved : Fault → Bool
  | .unresolved => true
  | .unresolvedName => true
  | _ => false

/-- The two faults that mean "this import does not work". -/
def isImportFailure : Fault → Bool
  | .noImport => true
  | .noModule => true
  | _ => false

/-- The description of a fault, for those faults that carry one. -/
def message : Fault → Option String
  | .noMember owner member => some s!"'{owner}' object has no attribute '{member}'"
  | .noMethod checker method => some s!"type object '{checker}' has no attribute '{method}'"
  | .noKey key => some (Text.quoted key)
  | .noElement => some "list index out of range"
  | _ => none

/-- Takes an unknown value for a negative answer and keeps every other outcome. -/
def settle : Except Fault Bool → Except Fault Bool
  | .ok answer => .ok answer
  | .error fault => if fault.isUnresolved then .ok false else .error fault

@[simp]
theorem settle_ok (answer : Bool) : settle (.ok answer) = .ok answer := rfl

theorem settle_error (fault : Fault) :
    settle (.error fault) = if fault.isUnresolved then .ok false else .error fault := rfl

/-- A settled outcome never says that a value is unknown. -/
theorem isUnresolved_of_settle {outcome : Except Fault Bool} {fault : Fault}
    (failed : settle outcome = .error fault) : fault.isUnresolved = false := by
  cases outcome with
  | ok answer => cases failed
  | error cause =>
      rw [settle_error] at failed
      split at failed
      · cases failed
      · next known =>
          cases failed
          simpa using known

end Fault

/-- How far a sequence of steps came, and the fault that stopped it, if one did. -/
structure Outcome (α : Type) where
  result : α
  fault : Option Fault

end FrameworkLint
