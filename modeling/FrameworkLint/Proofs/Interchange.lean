import FrameworkLint.Model.Check
import FrameworkLint.Proofs.Graph.Renaming
import FrameworkLint.Role

/-!
# Framework classes and their stand-ins

A model, a form and a model form go by the name of the framework class or by the name of
its stand-in, depending on how the class was imported.  The tests about models and forms
and the check of a model class do not tell the two apart: each of them is asked for lists
of names that hold both names of a class or neither.
-/

namespace FrameworkLint

variable {n : Nat} {rename : String → String} {before after : Graph n}

/-! ## Access to members -/

namespace Member

theorem subject_renamed (renamed : Graph.Renamed rename before after) (value : Ref n) :
    subject after value = subject before value := by
  obtain ⟨stated, same⟩ := renamed.shape value
  unfold subject
  rw [same]
  cases before.shape value <;> rfl

theorem belongs_renamed (renamed : Graph.Renamed rename before after) {owners : List String}
    (keeps : Keeps rename owners) (settings : Settings) (value : Ref n) :
    belongs settings after owners value = belongs settings before owners value := by
  unfold belongs
  rw [subject_renamed renamed, Hierarchy.derivesFrom_renamed renamed keeps,
    Hierarchy.map_wanted_renamed renamed keeps]

theorem provided_renamed (renamed : Graph.Renamed rename before after) {family : Family}
    (keeps : Keeps rename family.owners) (settings : Settings) (ref : Ref n) :
    provided settings after family ref = provided settings before family ref := by
  have each : belongs settings after family.owners = belongs settings before family.owners :=
    funext (belongs_renamed renamed keeps settings)
  unfold provided someBelongs
  rw [renamed.memberName_eq, renamed.receiver_eq, each]
  simp only [renamed.inferred_eq]

theorem someDerives_renamed (renamed : Graph.Renamed rename before after) {names : List String}
    (keeps : Keeps rename names) (settings : Settings) :
    someDerives settings after names = someDerives settings before names := by
  funext values
  unfold someDerives
  simp only [Hierarchy.derivesFrom_renamed renamed keeps]

theorem displayAccessor_renamed (renamed : Graph.Renamed rename before after)
    (keeps : Keeps rename modelNames) (settings : Settings) (ref : Ref n) :
    displayAccessor settings after ref = displayAccessor settings before ref := by
  unfold displayAccessor
  rw [renamed.memberName_eq, renamed.receiver_eq, someDerives_renamed renamed keeps]
  simp only [renamed.inferred_eq]

theorem usedAsManager_renamed (renamed : Graph.Renamed rename before after) (ref : Ref n) :
    usedAsManager after ref = usedAsManager before ref := by
  unfold usedAsManager
  rw [renamed.parent_eq]
  cases before.parent ref with
  | none => rfl
  | some outer =>
      obtain ⟨stated, same⟩ := renamed.shape outer
      dsimp only [Option.map]
      rw [same]
      cases before.shape outer <;> rfl

theorem relatedSetPasses_renamed (renamed : Graph.Renamed rename before after)
    (keeps : Keeps rename relatedOwners) (settings : Settings) (ref : Ref n) :
    relatedSetPasses settings after ref = relatedSetPasses settings before ref := by
  unfold relatedSetPasses looksRelated
  rw [renamed.memberName_eq, renamed.object_eq, usedAsManager_renamed renamed,
    someDerives_renamed renamed keeps]
  simp only [renamed.inferred_eq]

end Member

/-! ## Roles -/

namespace Role

theorem innerClass_renamed (renamed : Graph.Renamed rename before after) {label : String}
    {names : List String} (keepsLabel : Keeps rename [label]) (keeps : Keeps rename names)
    (settings : Settings) (ref : Ref n) :
    innerClass settings after label names ref = innerClass settings before label names ref := by
  have classes : after.isClass = before.isClass := funext renamed.isClass_eq
  have search (outer : Ref n) :
      derives settings after names outer = derives settings before names outer :=
    Hierarchy.derivesFrom_renamed renamed keeps settings.depth (.node outer)
  unfold innerClass
  rw [renamed.parent_eq, classes]
  simp only [search]
  apply renamed.bind_name_eq keepsLabel
  intro first second alike
  simp only [alike]

end Role

/-! ## The check of a model class -/

namespace Model

theorem isTrueConstant_renamed (renamed : Graph.Renamed rename before after) (ref : Ref n) :
    isTrueConstant after ref = isTrueConstant before ref := by
  obtain ⟨stated, same⟩ := renamed.shape ref
  unfold isTrueConstant
  rw [same]
  cases before.shape ref <;> rfl

theorem setsAbstract_renamed (renamed : Graph.Renamed rename before after)
    (keeps : Keeps rename ["abstract"]) (ref : Ref n) :
    setsAbstract after ref = setsAbstract before ref := by
  have constants : isTrueConstant after = isTrueConstant before :=
    funext (isTrueConstant_renamed renamed)
  obtain ⟨stated, same⟩ := renamed.shape ref
  unfold setsAbstract
  rw [same, constants]
  cases before.shape ref with
  | assign targets value =>
      cases targets with
      | nil => rfl
      | cons target rest =>
          apply renamed.bind_name_eq keeps
          intro first second alike
          simp only [alike]
  | _ => rfl

theorem isAbstractMeta_renamed (renamed : Graph.Renamed rename before after)
    (keeps : Keeps rename ["abstract"]) (ref : Ref n) :
    isAbstractMeta after ref = isAbstractMeta before ref := by
  have settings : setsAbstract after = setsAbstract before :=
    funext (setsAbstract_renamed renamed keeps)
  unfold isAbstractMeta
  rw [settings]
  rcases renamed.classDef_cases ref with ⟨absent, also⟩ | ⟨info, stated, present, also⟩
  · rw [absent, also]
  · rw [present, also]
    rfl

theorem isTextTarget_renamed (renamed : Graph.Renamed rename before after) (ref : Ref n) :
    isTextTarget after ref = isTextTarget before ref := by
  obtain ⟨stated, same⟩ := renamed.shape ref
  unfold isTextTarget
  rw [same]
  cases before.shape ref <;> rfl

theorem assignVerdict_renamed (renamed : Graph.Renamed rename before after)
    (parts : List (Option (Ref n))) : assignVerdict after parts = assignVerdict before parts := by
  have values : valueVerdict after = valueVerdict before := by
    funext value
    unfold valueVerdict
    simp only [renamed.inferred_eq, renamed.callable_eq]
  unfold assignVerdict
  simp only [isTextTarget_renamed renamed, values]

theorem childVerdict_renamed (renamed : Graph.Renamed rename before after)
    (keeps : Keeps rename ["abstract"]) (settings : Settings) (child : Ref n) :
    childVerdict settings after child = childVerdict settings before child := by
  obtain ⟨stated, same⟩ := renamed.shape child
  unfold childVerdict
  rw [isAbstractMeta_renamed renamed keeps, same]
  simp only [assignVerdict_renamed renamed]
  cases before.shape child <;> rfl

theorem isTextDecorator_renamed (renamed : Graph.Renamed rename before after)
    (keeps : Keeps rename [textDecorator]) (ref : Ref n) :
    isTextDecorator after ref = isTextDecorator before ref := by
  unfold isTextDecorator
  rcases renamed.name_cases ref with same | ⟨name, old, new⟩
  · rw [same]
  · rw [old, new]
    change (some (rename name) == some textDecorator) = (some name == some textDecorator)
    rw [Bool.eq_iff_iff, beq_iff_eq, beq_iff_eq, Option.some_inj, Option.some_inj]
    exact keeps.eq_iff name

/-- The stated name of a class has no part in the verdict about it. -/
theorem verdict_renamed (renamed : Graph.Renamed rename before after)
    (keepsAbstract : Keeps rename ["abstract"]) (keepsDecorator : Keeps rename [textDecorator])
    (settings : Settings) (info : ClassInfo n) (stated : Option String) :
    verdict settings after { info with qualifiedName := stated } =
      verdict settings before info := by
  have children : childVerdict settings after = childVerdict settings before :=
    funext (childVerdict_renamed renamed keepsAbstract settings)
  have decorators : isTextDecorator after = isTextDecorator before :=
    funext (isTextDecorator_renamed renamed keepsDecorator)
  unfold verdict classVerdict
  rw [children, decorators]
  rfl

theorem check_renamed (renamed : Graph.Renamed rename before after)
    (keepsModel : Keeps rename Member.modelNames) (keepsAbstract : Keeps rename ["abstract"])
    (keepsDecorator : Keeps rename [textDecorator]) (settings : Settings) (ref : Ref n) :
    check settings after ref = check settings before ref := by
  unfold check isModel
  rw [Hierarchy.derivesFrom_renamed renamed keepsModel]
  cases Hierarchy.derivesFrom before Member.modelNames settings.depth (.node ref) with
  | error fault => rfl
  | ok model =>
      rcases renamed.classInfo_cases ref with ⟨absent, also⟩ | ⟨info, stated, present, also⟩
      · rw [absent, also]
        cases model <;> rfl
      · rw [present, also]
        cases model with
        | false => rfl
        | true =>
            dsimp only [Except.bind]
            rw [verdict_renamed renamed keepsAbstract keepsDecorator]

end Model

/-! ## Stand-ins -/

/-- The exchange of each framework class with its stand-in. -/
def exchange : String → String :=
  Equiv.swap "django.db.models.base.Model" ".Model" ∘
    Equiv.swap "django.forms.forms.Form" ".Form" ∘
    Equiv.swap "django.forms.models.ModelForm" ".ModelForm"

/-- A list that has both names of each class, or neither, keeps the exchange. -/
theorem exchange_keeps {names : List String}
    (paired : ("django.db.models.base.Model" ∈ names ↔ ".Model" ∈ names) ∧
      ("django.forms.forms.Form" ∈ names ↔ ".Form" ∈ names) ∧
      ("django.forms.models.ModelForm" ∈ names ↔ ".ModelForm" ∈ names)) :
    Keeps exchange names := by
  obtain ⟨model, form, modelForm⟩ := paired
  exact (Keeps.swap model).comp ((Keeps.swap form).comp (Keeps.swap modelForm))

/-- It makes no difference whether a program reaches the framework classes or their
stand-ins.  Tests, gate and model check have the same outcome, faults included. -/
theorem exchange_unobservable (settings : Settings) {before after : Graph n}
    (renamed : Graph.Renamed exchange before after) (ref : Ref n) :
    Role.metaClass settings after ref = Role.metaClass settings before ref ∧
      Role.mediaClass settings after ref = Role.mediaClass settings before ref ∧
      Role.treeMetaClass settings after ref = Role.treeMetaClass settings before ref ∧
      Member.provided settings after .model ref = Member.provided settings before .model ref ∧
      Member.displayAccessor settings after ref = Member.displayAccessor settings before ref ∧
      Member.relatedSetPasses settings after ref = Member.relatedSetPasses settings before ref ∧
      Model.check settings after ref = Model.check settings before ref := by
  have keepsModel : Keeps exchange Member.modelNames := exchange_keeps (by decide)
  have keepsAbstract : Keeps exchange ["abstract"] := exchange_keeps (by decide)
  have keepsDecorator : Keeps exchange [Model.textDecorator] := exchange_keeps (by decide)
  have inner (label : String) (names : List String) (keepsLabel : Keeps exchange [label])
      (keeps : Keeps exchange names) :
      Role.innerClass settings after label names ref =
        Role.innerClass settings before label names ref :=
    Role.innerClass_renamed renamed keepsLabel keeps settings ref
  refine ⟨?_, ?_, ?_, ?_, ?_, ?_, ?_⟩
  · exact inner "Meta" Role.metaOwners (exchange_keeps (by decide)) (exchange_keeps (by decide))
  · exact inner "Media" Role.mediaOwners (exchange_keeps (by decide)) (exchange_keeps (by decide))
  · exact inner "MPTTMeta" Role.treeMetaOwners (exchange_keeps (by decide))
      (exchange_keeps (by decide))
  · exact Member.provided_renamed renamed (exchange_keeps (by decide)) settings ref
  · exact Member.displayAccessor_renamed renamed keepsModel settings ref
  · exact Member.relatedSetPasses_renamed renamed (exchange_keeps (by decide)) settings ref
  · exact Model.check_renamed renamed keepsModel keepsAbstract keepsDecorator settings ref

/-- A model class with options, and the model base class under a given name. -/
def optionedModel (baseName : String) : Graph 4 where
  node
    | 0 => { shape := .classDef { name := "Meta" }, parent := some 1 }
    | 1 => { shape := .classDef { name := "Article", bases := some [2], body := [0] } }
    | 2 => { shape := .usedName "Model", inference := { values := [3], fault := none } }
    | 3 => { shape := .classDef { name := "Model", qualifiedName := some baseName } }

theorem optionedModel_renamed :
    Graph.Renamed exchange (optionedModel "django.db.models.base.Model")
      (optionedModel ".Model") where
  node
    | 0 => ⟨none, rfl⟩
    | 1 => ⟨none, rfl⟩
    | 2 => ⟨none, rfl⟩
    | 3 => ⟨some ".Model", rfl⟩
  qualifiedName
    | 0 => rfl
    | 1 => rfl
    | 2 => rfl
    | 3 => rfl

theorem optionedModel_exchanged :
    Graph.Renamed exchange (optionedModel "django.db.models.base.Model")
        (optionedModel ".Model") ∧
      Role.metaClass {} (optionedModel "django.db.models.base.Model") 0 = .ok true ∧
      Role.metaClass {} (optionedModel ".Model") 0 = .ok true ∧
      Model.check { python3 := false } (optionedModel "django.db.models.base.Model") 1 =
        .ok (some ⟨.missing, "Article", 1⟩) ∧
      Model.check { python3 := false } (optionedModel ".Model") 1 =
        .ok (some ⟨.missing, "Article", 1⟩) := by
  have options : Role.metaClass {} (optionedModel "django.db.models.base.Model") 0 = .ok true := rfl
  have complaint :
      Model.check { python3 := false } (optionedModel "django.db.models.base.Model") 1 =
        .ok (some ⟨.missing, "Article", 1⟩) := rfl
  obtain ⟨sameOptions, _⟩ := exchange_unobservable {} optionedModel_renamed 0
  obtain ⟨_, _, _, _, _, _, sameComplaint⟩ :=
    exchange_unobservable { python3 := false } optionedModel_renamed 1
  exact ⟨optionedModel_renamed, options, sameOptions.trans options, complaint,
    sameComplaint.trans complaint⟩

end FrameworkLint
