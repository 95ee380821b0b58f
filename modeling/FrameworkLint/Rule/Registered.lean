import FrameworkLint.Member.Views
import FrameworkLint.Rule.Layer

/-!
# The registered rules

The rules in the order in which they are added.
-/

namespace FrameworkLint.Rule

/-- Drops a message at the start of a class. -/
def atClassStart (checker : Checker) (identifier : String) (test : Test) : Rule :=
  ⟨⟨checker, .classStart⟩, .suppress identifier test⟩

/-- Drops a message of the design checker at the end of a class. -/
def atClassEnd (identifier : String) (test : Test) : Rule :=
  ⟨⟨.design, .classEnd⟩, .suppress identifier test⟩

/-- The gates in front of the check of a member access. -/
def gates : List Rule :=
  [⟨.memberAccess, .gate .relatedSet⟩, ⟨.memberAccess, .gate .relatedKey⟩]

/-- Drops the report of a missing member. -/
def knownMember (test : Test) : Rule :=
  ⟨.memberAccess, .suppress "E1101" test⟩

/-- The rules about members that the framework provides. -/
def providedMembers (families : List Member.Family) : List Rule :=
  families.map fun family => knownMember (.provided family)

/-- The rules about classes with unusual bases. -/
def frameworkBases : List Rule :=
  [atClassStart .design "R0901" (.derives ["django.views.generic.edit.FormView"]),
   atClassStart .classes "W0232" (.derives ["django.forms.models.ModelForm"]),
   atClassEnd "R0924" (.derives ["django.forms.forms.Form"]),
   atClassEnd "R0924" (.derives ["django.forms.models.ModelForm"])]

/-- An inner class of options needs neither documentation nor methods.  The message about a
class without an initialiser is written by its code in one place and by its symbol in others. -/
def optionClass (noInit : String) (test : Test) : List Rule :=
  [atClassStart .docString "missing-docstring" test,
   atClassStart .newStyle "old-style-class" test,
   atClassStart .classes noInit test,
   atClassEnd "too-few-public-methods" test]

/-- The rules about member accesses, with the families of provided members in the order
in which they are added. -/
def memberRules (families : List Member.Family) : List Rule :=
  gates ++ [knownMember .displayAccessor] ++ providedMembers families

/-- The rules at all other sites. -/
def otherRules : List Rule :=
  frameworkBases ++ optionClass "no-init" .metaClass ++
    [⟨⟨.classes, .member⟩, .suppress "protected-access" .publicMeta⟩,
     ⟨⟨.name, .assignedName⟩, .suppress "C0103" .mediaConstant⟩] ++
    optionClass "no-init" .mediaClass ++
    [atClassEnd "too-few-public-methods" (.derives [".Model"]),
     atClassEnd "too-few-public-methods" (.derives [".View"]),
     atClassEnd "R0904" .adminPage,
     atClassEnd "R0904" .testCase,
     ⟨⟨.classes, .functionEnd⟩, .suppress "R0201" .requestHandler⟩,
     ⟨⟨.variables, .functionEnd⟩, .suppress "W0613" .requestParameter⟩] ++
    optionClass "W0232" .treeMetaClass

/-- The rules for a framework that provides the members of the families. -/
def registeredFor (families : List Member.Family) : List Rule :=
  memberRules families ++ otherRules

/-- The families of the installed framework. -/
def installedFamilies : List Member.Family :=
  Member.Family.core ++ Member.Family.genericViews

def registered : List Rule :=
  registeredFor installedFamilies

end FrameworkLint.Rule
