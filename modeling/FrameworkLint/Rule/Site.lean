/-!
# Sites

A rule is attached to a site: a method that a checker runs for a node.
-/

namespace FrameworkLint.Rule

inductive Checker
  | type
  | design
  | classes
  | docString
  | newStyle
  | name
  | variables
  deriving DecidableEq

def Checker.label : Checker → String
  | .type => "TypeChecker"
  | .design => "MisdesignChecker"
  | .classes => "ClassChecker"
  | .docString => "DocStringChecker"
  | .newStyle => "NewStyleConflictChecker"
  | .name => "NameChecker"
  | .variables => "VariablesChecker"

inductive Visit
  | member
  | classStart
  | classEnd
  | functionEnd
  | assignedName
  deriving DecidableEq

def Visit.label : Visit → String
  | .member => "visit_attribute"
  | .classStart => "visit_classdef"
  | .classEnd => "leave_classdef"
  | .functionEnd => "leave_functiondef"
  | .assignedName => "visit_assignname"

structure Site where
  checker : Checker
  visit : Visit
  deriving DecidableEq

namespace Site

/-- Every site that has rules, grouped by checker. -/
def all : List Site :=
  [⟨.type, .member⟩, ⟨.classes, .classStart⟩, ⟨.classes, .member⟩, ⟨.classes, .functionEnd⟩,
   ⟨.design, .classStart⟩, ⟨.design, .classEnd⟩, ⟨.docString, .classStart⟩,
   ⟨.newStyle, .classStart⟩, ⟨.name, .assignedName⟩, ⟨.variables, .functionEnd⟩]

/-- The site where the types of a member access are checked. -/
def memberAccess : Site := ⟨.type, .member⟩

/-- The site with the given labels. -/
def ofLabels? (checker visit : String) : Option Site :=
  all.find? fun site => site.checker.label == checker && site.visit.label == visit

end Site

end FrameworkLint.Rule
