import FrameworkLint.Model.Check
import FrameworkLint.Proofs.Hierarchy.Reachability
import FrameworkLint.Proofs.Rule.Augmented

/-!
# Classes with few public methods

Five tests of the design checker drop the complaint that a class has too few public
methods: two ask for an ancestor of the class itself, and three ask whether the class holds
the options of the class around it.  None of them asks for the model base class under its
full name.  So the complaint about a model is dropped if the model reaches the stand-in of
the base class, and not if it reaches the base class alone.
-/

namespace FrameworkLint

variable {n : Nat}

namespace Role

open Hierarchy

/-- A class with the given name stands directly inside a class that has an ancestor with
one of the names. -/
structure InnerOf (graph : Graph n) (label : String) (names : List String) (ref : Ref n) :
    Prop where
  name : graph.name ref = .ok (some label)
  outer : ∃ outer, graph.parent ref = some outer ∧ graph.isClass outer = true ∧
    HasAncestor graph names (.node outer)

theorem innerOf_iff {settings : Settings} {graph : Graph n} {label : String} {names : List String}
    {ref : Ref n} {answer : Bool}
    (answered : innerClass settings graph label names ref = .ok answer) :
    InnerOf graph label names ref ↔ answer = true := by
  unfold innerClass at answered
  cases called : graph.name ref with
  | error fault => rw [called] at answered; cases answered
  | ok name =>
      rw [called] at answered
      dsimp only [Except.bind] at answered
      by_cases same : name = some label
      · rw [if_pos same] at answered
        cases outside : (graph.parent ref).filter graph.isClass with
        | none =>
            rw [outside] at answered
            cases answered
            constructor
            · rintro ⟨_, outer, parent, isClass, _⟩
              rw [parent, Option.filter_some, if_pos isClass] at outside
              cases outside
            · intro impossible; cases impossible
        | some outer =>
            rw [outside] at answered
            obtain ⟨parent, isClass⟩ := Option.filter_eq_some_iff.mp outside
            rw [← hasAncestor_iff answered]
            constructor
            · rintro ⟨_, other, parentAgain, _, ancestor⟩
              cases parent.symm.trans parentAgain
              exact ancestor
            · intro ancestor
              exact ⟨called.trans (congrArg Except.ok same), outer, parent, isClass, ancestor⟩
      · rw [if_neg same] at answered
        cases answered
        constructor
        · intro inner
          exact absurd (Except.ok.inj (called.symm.trans inner.name)) same
        · intro impossible; cases impossible

end Role

namespace Rule

open Hierarchy

/-! ## The tests that drop the complaint -/

/-- The site where the design of a class is checked. -/
def classDesign : Site := ⟨.design, .classEnd⟩

def fewMethodsTests : List Test :=
  [.metaClass, .mediaClass, .derives [".Model"], .derives [".View"], .treeMetaClass]

theorem layers_classDesign (families : List Member.Family) :
    layers (registeredFor families) classDesign =
      [.suppress "too-few-public-methods" .treeMetaClass,
       .suppress "R0904" .testCase,
       .suppress "R0904" .adminPage,
       .suppress "too-few-public-methods" (.derives [".View"]),
       .suppress "too-few-public-methods" (.derives [".Model"]),
       .suppress "too-few-public-methods" .mediaClass,
       .suppress "too-few-public-methods" .metaClass,
       .suppress "R0924" (.derives ["django.forms.models.ModelForm"]),
       .suppress "R0924" (.derives ["django.forms.forms.Form"])] := by
  rw [layers_of_ne (by decide)]
  decide

theorem mem_fewMethodsTests_iff (families : List Member.Family) (test : Test) :
    ⟨classDesign, .suppress "too-few-public-methods" test⟩ ∈ registeredFor families ↔
      test ∈ fewMethodsTests := by
  rw [← mem_layers_iff, layers_classDesign]
  simp only [List.mem_cons, Layer.suppress.injEq, fewMethodsTests, List.not_mem_nil, true_and,
    String.reduceEq, false_and, or_false, false_or]
  grind

/-- Two other messages are dropped at this site. -/
theorem identifier_of_classDesign {families : List Member.Family} {identifier : String}
    {test : Test} (member : ⟨classDesign, .suppress identifier test⟩ ∈ registeredFor families) :
    identifier = "too-few-public-methods" ∨ identifier ∈ ["R0904", "R0924"] := by
  rw [← mem_layers_iff, layers_classDesign] at member
  simp only [List.mem_cons, Layer.suppress.injEq, List.not_mem_nil, or_false] at member ⊢
  grind

theorem suppressed_fewMethods_iff (settings : Settings) (graph : Graph n)
    (families : List Member.Family) (ref : Ref n) {name : String}
    (named : name ∈ settings.messageNames "too-few-public-methods")
    (apart : ∀ other ∈ ["R0904", "R0924"], name ∉ settings.messageNames other) :
    Suppressed settings graph (registeredFor families) classDesign ref name ↔
      ∃ test ∈ fewMethodsTests, test.holds settings graph ref = .ok true := by
  constructor
  · rintro ⟨identifier, test, member, holds, also⟩
    obtain rfl | other := identifier_of_classDesign member
    · exact ⟨test, (mem_fewMethodsTests_iff families test).mp member, holds⟩
    · exact absurd also (apart identifier other)
  · rintro ⟨test, member, holds⟩
    exact ⟨_, test, (mem_fewMethodsTests_iff families test).mpr member, holds, named⟩

/-! ## When the complaint is dropped -/

/-- The reasons for a class to have few public methods. -/
inductive FewMethodsExpected (graph : Graph n) (ref : Ref n) : Prop
  | model (has : HasAncestor graph [".Model"] (.node ref))
  | view (has : HasAncestor graph [".View"] (.node ref))
  | options (inner : Role.InnerOf graph "Meta" Role.metaOwners ref)
  | media (inner : Role.InnerOf graph "Media" Role.mediaOwners ref)
  | treeOptions (inner : Role.InnerOf graph "MPTTMeta" Role.treeMetaOwners ref)

/-- A test that looks for ancestors of the class. -/
theorem derives_holds_iff {settings : Settings} {graph : Graph n} {ref : Ref n}
    {names : List String} {answer : Bool}
    (asked : (Test.derives names).holds settings graph ref = .ok answer) :
    HasAncestor graph names (.node ref) ↔
      (Test.derives names).holds settings graph ref = .ok true := by
  have same : (Test.derives names).holds settings graph ref = _ := Test.holds_of_answer rfl
  rw [asked, Except.ok.injEq]
  exact hasAncestor_iff (same.symm.trans asked)

/-- A test that looks for an inner class of the given name. -/
theorem inner_holds_iff {settings : Settings} {graph : Graph n} {ref : Ref n} {test : Test}
    {label : String} {names : List String} {answer : Bool}
    (said : test.answer settings graph ref =
      (Role.innerClass settings graph label names ref).map some)
    (asked : test.holds settings graph ref = .ok answer) :
    Role.InnerOf graph label names ref ↔ test.holds settings graph ref = .ok true := by
  rw [asked, Except.ok.injEq]
  exact Role.innerOf_iff ((Test.holds_of_answer said).symm.trans asked)

theorem fewMethodsExpected_iff {settings : Settings} {graph : Graph n} {ref : Ref n}
    (answered : ∀ test ∈ fewMethodsTests, ∃ answer, test.holds settings graph ref = .ok answer) :
    FewMethodsExpected graph ref ↔
      ∃ test ∈ fewMethodsTests, test.holds settings graph ref = .ok true := by
  obtain ⟨_, metaAsked⟩ := answered .metaClass (by decide)
  obtain ⟨_, mediaAsked⟩ := answered .mediaClass (by decide)
  obtain ⟨_, modelAsked⟩ := answered (.derives [".Model"]) (by decide)
  obtain ⟨_, viewAsked⟩ := answered (.derives [".View"]) (by decide)
  obtain ⟨_, treeAsked⟩ := answered .treeMetaClass (by decide)
  constructor
  · intro expected
    cases expected with
    | model has => exact ⟨_, by decide, (derives_holds_iff modelAsked).mp has⟩
    | view has => exact ⟨_, by decide, (derives_holds_iff viewAsked).mp has⟩
    | options inner => exact ⟨.metaClass, by decide, (inner_holds_iff rfl metaAsked).mp inner⟩
    | media inner => exact ⟨.mediaClass, by decide, (inner_holds_iff rfl mediaAsked).mp inner⟩
    | treeOptions inner =>
        exact ⟨.treeMetaClass, by decide, (inner_holds_iff rfl treeAsked).mp inner⟩
  · rintro ⟨test, member, holds⟩
    simp only [fewMethodsTests, List.mem_cons, List.not_mem_nil, or_false] at member
    rcases member with rfl | rfl | rfl | rfl | rfl
    · exact .options ((inner_holds_iff rfl metaAsked).mpr holds)
    · exact .media ((inner_holds_iff rfl mediaAsked).mpr holds)
    · exact .model ((derives_holds_iff modelAsked).mpr holds)
    · exact .view ((derives_holds_iff viewAsked).mpr holds)
    · exact .treeOptions ((inner_holds_iff rfl treeAsked).mpr holds)

/-- The complaint about a model is dropped exactly if few public methods are expected of it.
A model of which they are not expected descends from the base class by its full name only.  The
name of the complaint must not be one of another message that is dropped at this site. -/
theorem fewMethods_of_model (settings : Settings) (graph : Graph n)
    (families : List Member.Family) (linter : Linter) (fresh : linter.rules = [])
    (complete : (linter.augment families).fault = none) (ref : Ref n)
    (model : Model.isModel settings graph ref = .ok true)
    (answered : ∀ identifier test,
      ⟨classDesign, .suppress identifier test⟩ ∈ registeredFor families →
        ∃ answer, test.holds settings graph ref = .ok answer)
    (raised : List String) (name : String) (emitted : name ∈ raised)
    (named : name ∈ settings.messageNames "too-few-public-methods")
    (apart : ∀ other ∈ ["R0904", "R0924"], name ∉ settings.messageNames other) :
    ∃ report,
      check settings graph (linter.augment families).result.rules classDesign ref raised =
        .ok report ∧
      (name ∉ report.messages ↔ FewMethodsExpected graph ref) ∧
      (name ∈ report.messages →
        HasAncestor graph ["django.db.models.base.Model"] (.node ref) ∧
          ¬ HasAncestor graph [".Model"] (.node ref)) := by
  refine ⟨_, check_augmented_of_ne fresh complete (by decide) answered raised, ?_⟩
  have dropped : name ∉ raised.filter (fun name =>
      ¬ Suppressed settings graph (registeredFor families) classDesign ref name) ↔
      FewMethodsExpected graph ref := by
    rw [List.mem_filter, decide_eq_true_iff, not_and, Classical.not_not,
      suppressed_fewMethods_iff settings graph families ref named apart, fewMethodsExpected_iff
      fun test member => answered _ test ((mem_fewMethodsTests_iff families test).mpr member)]
    exact ⟨fun holds => holds emitted, fun holds _ => holds⟩
  refine ⟨dropped, ?_⟩
  intro kept
  -- The checker knows two names of the base class, and the stand-in is a reason to drop the
  -- complaint.
  have standIn : ¬ HasAncestor graph [".Model"] (.node ref) := fun has =>
    dropped.mpr (.model has) kept
  have either : HasAncestor graph Member.modelNames (.node ref) := (hasAncestor_iff model).mpr rfl
  exact ⟨((hasAncestor_cons_iff _ _ _ _).mp either).resolve_right standIn, standIn⟩

/-- A class whose base class has the given full name. -/
def derivedModel (baseName : String) : Graph 3 where
  node
    | 0 => { shape := .classDef { name := "Article", bases := some [1] } }
    | 1 => { shape := .usedName "Model", inference := { values := [2], fault := none } }
    | 2 => { shape := .classDef { name := "Model", qualifiedName := some baseName } }

/-- The complaint about a model that reaches the stand-in is dropped. -/
theorem standInModel_excused :
    ∃ report,
      check {} (derivedModel ".Model") (bareLinter.augment installedFamilies).result.rules
        classDesign 0 ["R0903", "R0901"] = .ok report ∧ "R0903" ∉ report.messages := by
  have all : (layers (registeredFor installedFamilies) classDesign).all
      (Layer.answers {} (derivedModel ".Model") 0) = true := by
    decide +kernel
  have found : Hierarchy.derivesFrom (derivedModel ".Model") [".Model"] 2 (.node 0) = .ok true :=
    rfl
  obtain ⟨report, checked, dropped, _⟩ := fewMethods_of_model {} (derivedModel ".Model")
    installedFamilies bareLinter rfl rfl 0 rfl (answered_of_all all) ["R0903", "R0901"] "R0903"
    (by decide) (by decide) (by decide)
  exact ⟨report, checked, dropped.mpr (.model (exists_above_of_derivesFrom found))⟩

/-- The complaint about a model that reaches the base class by its full name is not. -/
theorem namedModel_blamed :
    bareLinter.rules = [] ∧ (bareLinter.augment installedFamilies).fault = none ∧
    Model.isModel {} (derivedModel "django.db.models.base.Model") 0 = .ok true ∧
    (∀ identifier test,
      ⟨classDesign, .suppress identifier test⟩ ∈ registeredFor installedFamilies →
        ∃ answer, test.holds {} (derivedModel "django.db.models.base.Model") 0 = .ok answer) ∧
    check {} (derivedModel "django.db.models.base.Model")
      (bareLinter.augment installedFamilies).result.rules classDesign 0
      ["too-few-public-methods"] = .ok ⟨1, ["too-few-public-methods"]⟩ := by
  have all : (layers (registeredFor installedFamilies) classDesign).all
      (Layer.answers {} (derivedModel "django.db.models.base.Model") 0) = true := by
    decide +kernel
  exact ⟨rfl, rfl, rfl, answered_of_all all, rfl⟩

end Rule

end FrameworkLint
