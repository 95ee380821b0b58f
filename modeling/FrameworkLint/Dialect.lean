import FrameworkLint.Version

/-!
# Dialects

The linter and the library that reads programs have renamed things from one version to
the next.  Each rule here picks the name that is in use.
-/

namespace FrameworkLint.Dialect

/-! ## Methods of checkers -/

/-- The methods of a checker that rules are put around. -/
inductive Hook
  | visitClass
  | visitMember
  | leaveClass
  | leaveFunction
  | visitAssignedName
  | visitAssignment

/-- The name of a method since version 1.5 of the linter. -/
def Hook.current : Hook → String
  | .visitClass => "visit_classdef"
  | .visitMember => "visit_attribute"
  | .leaveClass => "leave_classdef"
  | .leaveFunction => "leave_functiondef"
  | .visitAssignedName => "visit_assignname"
  | .visitAssignment => "visit_assign"

/-- The name of a method before version 1.5 of the linter. -/
def Hook.former : Hook → String
  | .visitClass => "visit_class"
  | .visitMember => "visit_getattr"
  | .leaveClass => "leave_class"
  | .leaveFunction => "leave_function"
  | .visitAssignedName => "visit_assname"
  | .visitAssignment => "visit_assign"

/-- The name of a method in a version of the linter.  The version is only looked at if
the method was renamed. -/
def Hook.name (version : Version) (hook : Hook) : Except Fault String :=
  if hook.current = hook.former then .ok hook.current
  else
    (version.atLeast [1, 5]).map fun isCurrent => if isCurrent then hook.current else hook.former

/-- The method of a checker that has the given methods. -/
def Hook.find (version : Version) (methods : List String) (hook : Hook) : Except Fault String :=
  (hook.name version).bind fun name =>
    if methods.contains name then .ok name else .error (.noMethod "Checker" name)

/-! ## Members of nodes -/

/-- The spelling of a member of a node that has the given members. -/
def spelling (current former : String) (members : List String) : Except Fault String :=
  if members.contains current then .ok current
  else if members.contains former then .ok former
  else .error (.noMember "Node" former)

/-- The member that gives the values of an expression. -/
def inferredMember (members : List String) : Except Fault String :=
  spelling "inferred" "infered" members

/-- The member that gives a new instance of a class. -/
def instantiateMember (members : List String) : Except Fault String :=
  spelling "instantiate_class" "instanciate_class" members

/-! ## Names of the library -/

/-- A kind of node and its two names. -/
structure NodeName where
  current : String
  former : String

def nodeNames : List NodeName :=
  [⟨"ClassDef", "Class"⟩, ⟨"FunctionDef", "Function"⟩, ⟨"ImportFrom", "From"⟩,
   ⟨"AssignName", "AssName"⟩, ⟨"Attribute", "Getattr"⟩]

/-- The names that the modules of the library hold, and the version of the framework if
it is installed. -/
structure Library where
  nodes : List String
  bases : List String
  util : List String
  framework : Option Version

/-- What the kinds of nodes and the marker of an unknown value are bound to. -/
structure Bindings where
  /-- The current name of a kind of node and its full name in the library. -/
  nodes : List (String × String)
  unknown : String
  frameworkVersion : Version

/-- The kinds of nodes under their current names if the library has all of these, and
otherwise under their former names. -/
def bindNodes (available : List String) : Except Fault (List (String × String)) :=
  if nodeNames.all (available.contains ·.current) then
    .ok (nodeNames.map fun name => (name.current, "astroid.nodes." ++ name.current))
  else if nodeNames.all (available.contains ·.former) then
    .ok (nodeNames.map fun name => (name.current, "astroid.nodes." ++ name.former))
  else .error .noImport

/-- The marker of an unknown value, which was moved and then renamed. -/
def bindUnknown (library : Library) : Except Fault String :=
  if library.bases.contains "YES" then .ok "astroid.bases.YES"
  else if library.util.contains "YES" then .ok "astroid.util.YES"
  else if library.util.contains "Uninferable" then .ok "astroid.util.Uninferable"
  else .error .noImport

/-- The version that is assumed if the framework is not installed. -/
def assumedVersion : Version := .ofNumbers [1, 5]

def Library.bindings (library : Library) : Except Fault Bindings :=
  (bindNodes library.nodes).bind fun nodes =>
    (bindUnknown library).map fun unknown =>
      ⟨nodes, unknown, library.framework.getD assumedVersion⟩

end FrameworkLint.Dialect
