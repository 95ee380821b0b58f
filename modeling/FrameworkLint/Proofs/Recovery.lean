import FrameworkLint.Field.StandIn
import FrameworkLint.Proofs.Hierarchy.Reachability
import FrameworkLint.Rule.Test

/-!
# Recovery from unknown values

Expressions are evaluated in five places: at the bases of a class, at the object of a
provided member, at that of a display accessor, at that of an access to related objects,
and at the arguments of a relation.  Each place recovers from an unknown value in its own
way, so none of the tests, gates and field rules ends with one.
-/

namespace FrameworkLint

open Fault

variable {n : Nat}

theorem Version.compareTo_settled (version : Version) (bounds : List Int) :
    Settled (version.compareTo bounds) := by
  fun_induction Version.compareTo version bounds with
  | case1 => exact settled_ok _
  | case2 => exact settled_ok _
  | case3 => exact settled_ok _
  | case4 => exact settled_error rfl
  | case5 rest bound bounds ih => exact ih
  | case6 => exact settled_ok _

/-! ## Access to members -/

namespace Member

theorem provided_settled (settings : Settings) (graph : Graph n) (family : Family) (ref : Ref n) :
    Settled (provided settings graph family ref) := by
  apply (graph.memberName_settled ref).bind
  intro name
  split
  · split
    · exact settled_ok false
    · exact settled_settle _
  · exact settled_ok false

theorem someDerives_settled (settings : Settings) (graph : Graph n) (names : List String)
    (values : List (Ref n)) : Settled (someDerives settings graph names values) :=
  Settled.anyM (fun _ => Hierarchy.derivesFrom_settled graph names settings.depth _) values

theorem displayAccessor_settled (settings : Settings) (graph : Graph n) (ref : Ref n) :
    Settled (displayAccessor settings graph ref) := by
  apply (graph.memberName_settled ref).bind
  intro name
  split
  · split
    · exact settled_ok _
    · exact (settled_settle _).map some
  · exact settled_ok none

theorem relatedSetPasses_settled (settings : Settings) (graph : Graph n) (ref : Ref n) :
    Settled (relatedSetPasses settings graph ref) := by
  apply (graph.memberName_settled ref).bind
  intro name
  split
  · split
    · exact settled_error rfl
    · split
      · split
        · exact settled_ok true
        · next other => exact settled_error (by simpa using other)
      · next values _ => exact (someDerives_settled settings graph relatedOwners values).map _
  · exact settled_ok true

theorem relatedKeyPasses_settled (graph : Graph n) (ref : Ref n) :
    Settled (relatedKeyPasses graph ref) :=
  (graph.memberName_settled ref).map _

theorem publicMeta_settled (settings : Settings) (graph : Graph n) (ref : Ref n) :
    Settled (publicMeta settings graph ref) := by
  apply ((Version.compareTo_settled settings.frameworkVersion [1, 8]).map _).bind
  intro isPublic
  split
  · exact (graph.memberName_settled ref).map _
  · exact settled_ok false

end Member

/-! ## Roles -/

namespace Role

theorem derives_settled (settings : Settings) (graph : Graph n) (names : List String)
    (ref : Ref n) : Settled (derives settings graph names ref) :=
  Hierarchy.derivesFrom_settled graph names settings.depth (.node ref)

theorem adminPage_settled (settings : Settings) (graph : Graph n) (ref : Ref n) :
    Settled (adminPage settings graph ref) := by
  apply (graph.name_settled ref).bind
  intro name
  cases name with
  | none => exact settled_error rfl
  | some name =>
      dsimp only
      split
      · exact derives_settled settings graph _ ref
      · exact settled_ok false

theorem innerClass_settled (settings : Settings) (graph : Graph n) (label : String)
    (names : List String) (ref : Ref n) : Settled (innerClass settings graph label names ref) := by
  apply (graph.name_settled ref).bind
  intro name
  split
  · split
    · exact derives_settled settings graph names _
    · exact settled_ok false
  · exact settled_ok false

theorem testCase_settled (settings : Settings) (graph : Graph n) (ref : Ref n) :
    Settled (testCase settings graph ref) := by
  apply (graph.name_settled ref).bind
  intro name
  split
  · exact derives_settled settings graph _ ref
  · exact settled_ok false

theorem requestHandler_settled (settings : Settings) (graph : Graph n) (ref : Ref n) :
    Settled (requestHandler settings graph ref) := by
  apply (graph.name_settled ref).bind
  intro name
  split
  · split
    · split
      · exact derives_settled settings graph _ _
      · exact settled_ok false
    · exact settled_ok false
  · exact settled_ok false

theorem parameters_settled (graph : Graph n) (ref : Ref n) : Settled (parameters graph ref) := by
  unfold parameters
  split
  · exact settled_ok _
  · exact settled_error (graph.missing_settled ref "argnames")

theorem requestParameter_settled (settings : Settings) (graph : Graph n) (ref : Ref n) :
    Settled (requestParameter settings graph ref) := by
  apply (requestHandler_settled settings graph ref).bind
  intro handler
  split
  · exact (parameters_settled graph ref).map _
  · exact settled_ok false

theorem mediaConstant_settled (graph : Graph n) (ref : Ref n) :
    Settled (mediaConstant graph ref) :=
  (graph.name_settled ref).map _

theorem moduleConstant_settled (names : List String) (test : String → Bool) (graph : Graph n)
    (ref : Ref n) : Settled (moduleConstant names test graph ref) := by
  apply (graph.name_settled ref).bind
  intro name
  split
  · split
    · exact settled_ok _
    · exact settled_error rfl
  · exact settled_ok false

end Role

/-! ## Fields -/

namespace Field

theorem isRelation_settled (graph : Graph n) (ref : Ref n) : Settled (isRelation graph ref) := by
  unfold isRelation
  split
  · split
    · exact settled_ok _
    · exact settled_error (graph.missing_settled ref "func")
  · exact settled_ok false

/-- An argument without a known value is passed over, also if values were to follow. -/
theorem relationTarget_settled (graph : Graph n) (arguments : List (Ref n)) :
    Settled (relationTarget graph arguments) := by
  induction arguments with
  | nil => exact settled_error rfl
  | cons argument rest ih =>
      unfold relationTarget
      split
      · split
        · exact settled_ok _
        · exact ih
        · split
          · exact ih
          · next other => exact settled_error (by simpa using other)
      · exact ih

theorem arguments_settled (graph : Graph n) (ref : Ref n) : Settled (arguments graph ref) := by
  unfold arguments
  split
  · exact settled_ok _
  · exact settled_error rfl
  · exact settled_error rfl
  · exact settled_error rfl
  · exact settled_error (graph.missing_settled ref "args")

theorem relationValues_settled (graph : Graph n) (ref : Ref n) :
    Settled (relationValues graph ref) := by
  apply (arguments_settled graph ref).bind
  intro arguments
  exact (relationTarget_settled graph arguments).map _

theorem hasHome_settled (home : String) (graph : Graph n) (ref : Ref n) :
    Settled (hasHome home graph ref) :=
  (graph.qualifiedName_settled (.node ref)).map _

end Field

/-! ## Tests and gates -/

namespace Rule

theorem Test.answer_settled (settings : Settings) (graph : Graph n) (ref : Ref n) (test : Test) :
    Settled (test.answer settings graph ref) := by
  cases test with
  | derives names => exact (Role.derives_settled settings graph names ref).map some
  | provided family => exact (Member.provided_settled settings graph family ref).map some
  | displayAccessor => exact Member.displayAccessor_settled settings graph ref
  | publicMeta => exact (Member.publicMeta_settled settings graph ref).map some
  | adminPage => exact (Role.adminPage_settled settings graph ref).map some
  | mediaClass => exact (Role.innerClass_settled settings graph _ _ ref).map some
  | metaClass => exact (Role.innerClass_settled settings graph _ _ ref).map some
  | treeMetaClass => exact (Role.innerClass_settled settings graph _ _ ref).map some
  | testCase => exact (Role.testCase_settled settings graph ref).map some
  | requestHandler => exact (Role.requestHandler_settled settings graph ref).map some
  | requestParameter => exact (Role.requestParameter_settled settings graph ref).map some
  | mediaConstant => exact (Role.mediaConstant_settled graph ref).map some
  | tagRegistry => exact (Role.moduleConstant_settled _ _ graph ref).map some
  | addressConstant => exact (Role.moduleConstant_settled _ _ graph ref).map some

theorem Gate.passes_settled (settings : Settings) (graph : Graph n) (ref : Ref n) (gate : Gate) :
    Settled (gate.passes settings graph ref) := by
  cases gate with
  | relatedSet => exact Member.relatedSetPasses_settled settings graph ref
  | relatedKey => exact Member.relatedKeyPasses_settled graph ref

end Rule

/-- Whatever the expressions of a program evaluate to, and wherever their evaluation
fails, an unknown value ends none of the questions that are asked about the program. -/
theorem unresolved_never_escapes (settings : Settings) (graph : Graph n) :
    (∀ names depth entity, Settled (Hierarchy.derivesFrom graph names depth entity)) ∧
      (∀ (test : Rule.Test) ref, Settled (test.answer settings graph ref)) ∧
      (∀ (gate : Rule.Gate) ref, Settled (gate.passes settings graph ref)) ∧
      (∀ ref, Settled (Field.isModelField graph ref)) ∧
      (∀ ref, Settled (Field.isFormField graph ref)) ∧
      (∀ ref, Settled (Field.isRelation graph ref)) ∧
      (∀ arguments, Settled (Field.relationTarget graph arguments)) ∧
      ∀ ref, Settled (Field.relationValues graph ref) := by
  refine ⟨?_, ?_, ?_, ?_, ?_, ?_, ?_, ?_⟩
  · exact Hierarchy.derivesFrom_settled graph
  · exact fun test ref => test.answer_settled settings graph ref
  · exact fun gate ref => gate.passes_settled settings graph ref
  · exact Field.hasHome_settled _ graph
  · exact Field.hasHome_settled _ graph
  · exact Field.isRelation_settled graph
  · exact Field.relationTarget_settled graph
  · exact Field.relationValues_settled graph

end FrameworkLint
