import FrameworkLint.Graph.Node
import FrameworkLint.Stub.Expression
import FrameworkLint.Table

/-!
# Statements in stubs

A stub is a list of statements.  What matters about a statement are the names that
it binds.
-/

namespace FrameworkLint

namespace Stub

inductive Statement
  | classDef (name : String) (bases : List Expression) (body : List Statement)
  | function (name : String) (parameters : List Parameter) (body : List Statement)
  | conditional (test : Expression) (body : List Statement)
  | importFrom (origin : String) (names : List ImportedName)
  | importModules (names : List ImportedName)
  | assign (targets : List Expression) (value : Expression)
  | evaluate (expression : Expression)
  | pass

namespace Statement

mutual

/-- The names that a statement binds in the scope in which it stands. -/
def bound : Statement → List String
  | .classDef name _ _ => [name]
  | .function name _ _ => [name]
  | .conditional _ body => boundAll body
  | .importFrom _ names => names.map (·.bound)
  | .importModules names => names.map (·.bound)
  | .assign targets _ =>
      targets.filterMap fun target =>
        match target with
        | .variable name => some name
        | _ => none
  | .evaluate _ => []
  | .pass => []

def boundAll : List Statement → List String
  | [] => []
  | first :: rest => first.bound ++ boundAll rest

end

/-- The names bound in the body of a class, each once, in the order of code points. -/
def members (body : List Statement) : List String :=
  (boundAll body).eraseDups.mergeSort fun first second => decide (first ≤ second)

end Statement

/-- A name together with a statement that binds it. -/
structure Definition where
  name : String
  statement : Statement

end Stub

/-- A stub module, which has no name of its own. -/
structure Stub where
  statements : List Stub.Statement

namespace Stub

/-- The statements that bind a name. -/
def binding (stub : Stub) (name : String) : List Statement :=
  stub.statements.filter (·.bound.contains name)

/-- The statements that bind a name, of which there has to be one. -/
def get (stub : Stub) (name : String) : Except Fault (List Statement) :=
  match stub.binding name with
  | [] => .error (.noKey name)
  | statements => .ok statements

/-- The definitions of every name that the stub binds. -/
def locals (stub : Stub) : Table (List Definition) :=
  (Statement.boundAll stub.statements).eraseDups.map fun name =>
    (name, (stub.binding name).map (Definition.mk name))

end Stub

end FrameworkLint
