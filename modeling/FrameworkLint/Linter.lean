import FrameworkLint.Installation
import FrameworkLint.Model.Check
import FrameworkLint.Rule.Registered

/-!
# Registration

Registration adapts a linter to the framework.  It adds names and patterns to the
options of the linter, then two checkers, then the rules, and at last the filter of
imports.  A rule needs the checker it belongs to; the first one that is absent ends the
registration, and what was done before stays.
-/

namespace FrameworkLint

structure Linter where
  /-- Names that are always allowed. -/
  goodNames : List String
  /-- The pattern that names of constants follow. -/
  constantPattern : String
  /-- Names of files and directories that are left out. -/
  ignored : List String
  /-- The checkers that are present. -/
  checkers : List Rule.Checker
  /-- The checkers that were added. -/
  added : List String := []
  rules : List Rule := []
  /-- How many times the filter of imports was put around the end of a module. -/
  importFilters : Nat := 0

namespace Linter

/-- Adds an alternative to a pattern.  The pattern ends with a closing bracket and the
mark of the end, and the alternative goes in front of these two characters. -/
def withAlternative (alternative pattern : String) : String :=
  let characters := pattern.toList
  let cut := characters.length - 2
  String.ofList (characters.take cut) ++ "|" ++ alternative ++
    String.ofList (characters.drop cut)

/-- The options of a linter for the framework. -/
def withOptions (linter : Linter) : Linter :=
  { linter with
    goodNames := linter.goodNames ++ ["qs"]
    constantPattern := withAlternative "(urls|urlpatterns|register)" linter.constantPattern
    ignored := linter.ignored ++ ["migrations", "south_migrations"] }

/-- The checkers for the framework. -/
def withCheckers (linter : Linter) : Linter :=
  { linter with added := linter.added ++ [Model.checkerName, Installation.checkerName] }

/-- Adds rules in order, up to the first whose checker is absent. -/
def addRules : List Rule → Linter → Outcome Linter
  | [], linter => ⟨linter, none⟩
  | rule :: rest, linter =>
      if linter.checkers.contains rule.site.checker then
        addRules rest { linter with rules := linter.rules ++ [rule] }
      else ⟨linter, some .noChecker⟩

/-- Puts the filter of imports around the end of a module. -/
def withImportFilter (linter : Linter) : Linter :=
  { linter with importFilters := linter.importFilters + 1 }

/-- Adds the rules for the families of provided members, and the filter of imports. -/
def augment (families : List Member.Family) (linter : Linter) : Outcome Linter :=
  match addRules (Rule.registeredFor families) linter with
  | ⟨augmented, none⟩ => ⟨augmented.withImportFilter, none⟩
  | stopped => stopped

/-- Registers everything for the installed framework.  The names checker holds the options,
so nothing happens without it. -/
def register (linter : Linter) : Outcome Linter :=
  if linter.checkers.contains .name then
    linter.withOptions.withCheckers.augment Rule.installedFamilies
  else ⟨linter, some .noChecker⟩

/-- The outcomes of registering several times, one after the other. -/
def registrations : Nat → Linter → List (Outcome Linter)
  | 0, _ => []
  | times + 1, linter =>
      let outcome := linter.register
      outcome :: registrations times outcome.result

/-- The sites of the checkers that are present. -/
def sites (linter : Linter) : List Rule.Site :=
  Rule.Site.all.filter fun site => linter.checkers.contains site.checker

/-- How many layers are around a site. -/
def layerCount (linter : Linter) (site : Rule.Site) : Nat :=
  (Rule.layers linter.rules site).length

end Linter

end FrameworkLint
