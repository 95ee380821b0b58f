import FrameworkLint.Proofs.Hierarchy.Reachability
import FrameworkLint.Proofs.Model.Decision
import Mathlib.Logic.Function.Basic

/-!
# Faults in the check of a model

The check of a model reads the children of the class in order, up to the first that decides,
and recovers from nothing that it meets on the way.  It expects a name of whatever the options
assign to first, and a value of whatever is assigned to the text method.  A child for which this
fails cannot be read.  The check of a model fails exactly if it gets to such a child, and then
with the fault of that child.
-/

namespace FrameworkLint

open Fault

variable {n : Nat}

namespace Graph

/-- The only fault in the question for a name is that there is none. -/
theorem eq_missing_of_name_error {graph : Graph n} {ref : Ref n} {fault : Fault}
    (failed : graph.name ref = .error fault) : fault = graph.missing ref "name" := by
  simp only [name] at failed
  split at failed
  · cases failed
  · cases failed
  · cases failed
  · split at failed
    · cases failed
    · cases failed
    · exact (Except.error.inj failed).symm

/-- A class with something above it has bases that can be listed. -/
theorem exists_bases_of_above {graph : Graph n} {ref : Ref n} {info : ClassInfo n}
    {ancestor : Entity n} (isClass : graph.classInfo? ref = some info)
    (path : Hierarchy.Above graph (.node ref) ancestor) : ∃ bases, info.bases = some bases := by
  obtain ⟨upper, edge, _⟩ := Relation.TransGen.head'_iff.mp path
  obtain ⟨values, listed, _⟩ := (Hierarchy.edge_iff graph _ upper).mp edge
  simp only [bases, isClass] at listed
  obtain ⟨bases, known, _⟩ := (Hierarchy.mem_classBases_iff graph info values).mp listed
  exact ⟨bases, known⟩

end Graph

namespace Model

/-! ## Children that cannot be read -/

/-- An option that cannot be read, and its fault: an assignment without a target, or one whose
first target has no name. -/
inductive BadOption (graph : Graph n) (part : Ref n) : Fault → Prop
  | untargeted {value : Option (Ref n)} (assigned : graph.shape part = .assign [] value) :
      BadOption graph part .noElement
  | unnamed {target : Ref n} {targets : List (Ref n)} {value : Option (Ref n)}
      (assigned : graph.shape part = .assign (target :: targets) value)
      (nameless : graph.name target = .error (graph.missing target "name")) :
      BadOption graph part (graph.missing target "name")

/-- Options that cannot be read.  The options after one that makes the class abstract are not
looked at. -/
inductive BadOptions (graph : Graph n) (child : Ref n) : Fault → Prop
  | unlisted {info : ClassInfo n} (isClass : graph.shape child = .classDef info)
      (named : info.name = "Meta") (unknown : info.bases = none) :
      BadOptions graph child .notASequence
  | option {info : ClassInfo n} {bases before after : List (Ref n)} {part : Ref n} {fault : Fault}
      (isClass : graph.shape child = .classDef info) (named : info.name = "Meta")
      (listed : info.bases = some bases) (split : bases ++ info.body = before ++ part :: after)
      (clean : ∀ earlier ∈ before, ¬ AssignsTrue graph "abstract" earlier ∧
        ∀ other, ¬ BadOption graph earlier other)
      (bad : BadOption graph part fault) : BadOptions graph child fault

/-- A second part of an assignment that has no first value. -/
inductive BadValue (graph : Graph n) : List (Option (Ref n)) → Fault → Prop
  | absent : BadValue graph [] .noElement
  | null {others : List (Option (Ref n))} :
      BadValue graph (none :: others) (.noMember "NoneType" "infered")
  | unknown {second : Ref n} {others : List (Option (Ref n))} {fault : Fault}
      (failed : graph.inferred second = .error fault) : BadValue graph (some second :: others) fault
  | empty {second : Ref n} {others : List (Option (Ref n))}
      (found : graph.inferred second = .ok []) : BadValue graph (some second :: others) .noElement

/-- A child that cannot be read, and its fault. -/
inductive Unreadable (graph : Graph n) (child : Ref n) : Fault → Prop
  | options {fault : Fault} (bad : BadOptions graph child fault) : Unreadable graph child fault
  | value {further : List (Option (Ref n))} {fault : Fault}
      (assigns : AssignsText graph child further) (bad : BadValue graph further fault) :
      Unreadable graph child fault

/-- There is a child that cannot be read, and all children before it can be read and leave the
matter open. -/
def ReachesUnreadable (graph : Graph n) (children : List (Ref n)) (fault : Fault) : Prop :=
  ∃ before child after, children = before ++ child :: after ∧
    (∀ earlier ∈ before, ¬ Decisive graph earlier ∧ ∀ other, ¬ Unreadable graph earlier other) ∧
    Unreadable graph child fault

/-! ## Options -/

theorem setsAbstract_error_iff (graph : Graph n) (part : Ref n) (fault : Fault) :
    setsAbstract graph part = .error fault ↔ BadOption graph part fault := by
  constructor
  · intro failed
    simp only [setsAbstract] at failed
    split at failed
    · next assigned =>
        cases failed
        exact .untargeted assigned
    · next target targets value assigned =>
        cases called : graph.name target with
        | ok name => rw [called] at failed; cases failed
        | error cause =>
            rw [called] at failed
            cases failed
            obtain rfl := Graph.eq_missing_of_name_error called
            exact .unnamed assigned called
    · cases failed
  · intro bad
    cases bad with
    | untargeted assigned => simp only [setsAbstract, assigned]
    | unnamed assigned nameless => simp only [setsAbstract, assigned, nameless, Except.map]

theorem setsAbstract_false_iff (graph : Graph n) (part : Ref n) :
    setsAbstract graph part = .ok false ↔
      ¬ AssignsTrue graph "abstract" part ∧ ∀ fault, ¬ BadOption graph part fault := by
  simp only [← setsAbstract_error_iff]
  cases asked : setsAbstract graph part with
  | error fault => simp
  | ok answer => simp [assignsTrue_iff asked]

/-- The options are read up to the first that makes the class abstract or cannot be read. -/
theorem anyM_setsAbstract_error_iff (graph : Graph n) (parts : List (Ref n)) (fault : Fault) :
    parts.anyM (setsAbstract graph) = .error fault ↔
      ∃ before part after, parts = before ++ part :: after ∧
        (∀ earlier ∈ before, ¬ AssignsTrue graph "abstract" earlier ∧
          ∀ other, ¬ BadOption graph earlier other) ∧
        BadOption graph part fault := by
  rw [anyM_error_iff]
  simp only [setsAbstract_false_iff, setsAbstract_error_iff]

theorem isAbstractMeta_error_iff (graph : Graph n) (child : Ref n) (fault : Fault) :
    isAbstractMeta graph child = .error fault ↔ BadOptions graph child fault := by
  constructor
  · intro failed
    cases shape : graph.shape child with
    | classDef info =>
        rw [isAbstractMeta_of_class shape] at failed
        split at failed
        · next named =>
            cases listed : info.bases with
            | none =>
                simp only [Graph.classChildren, listed] at failed
                cases failed
                exact .unlisted shape named listed
            | some bases =>
                simp only [Graph.classChildren, listed] at failed
                obtain ⟨before, part, after, split, clean, bad⟩ :=
                  (anyM_setsAbstract_error_iff graph _ fault).mp failed
                exact .option shape named listed split clean bad
        · cases failed
    | _ =>
        rw [isAbstractMeta_of_not_class (by simp [shape])] at failed
        cases failed
  · intro bad
    cases bad with
    | unlisted isClass named unknown =>
        rw [isAbstractMeta_of_class isClass, if_pos named]
        simp only [Graph.classChildren, unknown, Except.bind]
    | option isClass named listed split clean bad =>
        rw [isAbstractMeta_of_class isClass, if_pos named]
        simp only [Graph.classChildren, listed, Except.bind]
        exact (anyM_setsAbstract_error_iff graph _ fault).mpr ⟨_, _, _, split, clean, bad⟩

/-! ## Assignments to the text method -/

theorem valueVerdict_error_iff (graph : Graph n) (part : Option (Ref n))
    (others : List (Option (Ref n))) (fault : Fault) :
    valueVerdict graph part = .error fault ↔ BadValue graph (part :: others) fault := by
  constructor
  · intro failed
    cases part with
    | none => cases failed; exact .null
    | some second =>
        cases known : graph.inferred second with
        | error cause =>
            simp only [valueVerdict, known] at failed
            cases failed
            exact .unknown known
        | ok values =>
            simp only [valueVerdict, known] at failed
            cases values with
            | nil => cases failed; exact .empty known
            | cons value values => cases failed
  · intro bad
    cases bad with
    | null => rfl
    | unknown failed => simp only [valueVerdict, failed, Except.bind]
    | empty found => simp only [valueVerdict, found, Except.bind]

theorem assignVerdict_error_iff (graph : Graph n) (parts : List (Option (Ref n))) (fault : Fault) :
    assignVerdict graph parts = .error fault ↔
      ∃ target further, parts = some target :: further ∧
        graph.shape target = .assignedName textMethod ∧ BadValue graph further fault := by
  constructor
  · intro failed
    simp only [assignVerdict] at failed
    split at failed
    · next target further =>
        split at failed
        · next named =>
            refine ⟨target, further, rfl, (isTextTarget_iff graph target).mp named, ?_⟩
            cases further with
            | nil => cases failed; exact .absent
            | cons second others =>
                cases judged : valueVerdict graph second with
                | ok verdict => simp only [judged] at failed; cases failed
                | error cause =>
                    simp only [judged] at failed
                    cases failed
                    exact (valueVerdict_error_iff graph second others fault).mp judged
        · cases failed
    · cases failed
  · rintro ⟨target, further, rfl, named, bad⟩
    simp only [assignVerdict, (isTextTarget_iff graph target).mpr named, if_true]
    cases further with
    | nil => cases bad; rfl
    | cons second others =>
        simp only [(valueVerdict_error_iff graph second others fault).mpr bad, Except.map]

/-! ## Children -/

theorem childVerdict_error_iff (settings : Settings) (graph : Graph n) (child : Ref n)
    (fault : Fault) :
    childVerdict settings graph child = .error fault ↔ Unreadable graph child fault := by
  constructor
  · intro failed
    cases shape : graph.shape child with
    | assign targets value =>
        rw [childVerdict_of_assign shape] at failed
        obtain ⟨target, further, parts, named, bad⟩ :=
          (assignVerdict_error_iff graph _ fault).mp failed
        exact .value ⟨shape, parts, named⟩ bad
    | function info =>
        rw [childVerdict_of_function shape] at failed
        cases failed
    | _ =>
        -- A child of another shape can fail by its options only.
        simp only [childVerdict, shape] at failed
        cases abstract : isAbstractMeta graph child with
        | error cause =>
            rw [abstract] at failed
            cases failed
            exact .options ((isAbstractMeta_error_iff graph child fault).mp abstract)
        | ok answer =>
            rw [abstract] at failed
            cases answer <;> cases failed
  · intro unreadable
    cases unreadable with
    | options bad =>
        simp only [childVerdict, (isAbstractMeta_error_iff graph child fault).mpr bad, Except.bind]
    | value assigns bad =>
        obtain ⟨assigned, parts, named⟩ := assigns
        rw [childVerdict_of_assign assigned]
        exact (assignVerdict_error_iff graph _ fault).mpr ⟨_, _, parts, named, bad⟩

/-- A child that decides and can be read has a verdict. -/
theorem exists_verdict_of_decisive {settings : Settings} {graph : Graph n} {child : Ref n}
    {outcome : Option Verdict} (decides : Decisive graph child)
    (asked : childVerdict settings graph child = .ok outcome) :
    ∃ verdict, outcome = some verdict := by
  cases decides with
  | abstract makes => exact ⟨_, childVerdict_of_makesAbstract makes asked⟩
  | assigned assigns =>
      obtain ⟨_, _, _, _, _, _, verdict⟩ := childVerdict_of_assignsText assigns asked
      exact ⟨_, verdict⟩
  | defined defines => exact ⟨_, childVerdict_of_definesText defines asked⟩

theorem childVerdict_none_iff (settings : Settings) (graph : Graph n) (child : Ref n) :
    childVerdict settings graph child = .ok none ↔
      ¬ Decisive graph child ∧ ∀ fault, ¬ Unreadable graph child fault := by
  simp only [← childVerdict_error_iff settings]
  constructor
  · intro asked
    refine ⟨?_, by simp [asked]⟩
    intro decides
    obtain ⟨verdict, impossible⟩ := exists_verdict_of_decisive decides asked
    cases impossible
  · rintro ⟨idle, readable⟩
    cases asked : childVerdict settings graph child with
    | error fault => exact absurd asked (readable fault)
    | ok outcome => rw [childVerdict_of_not_decisive idle asked]

/-! ## The check -/

theorem findSomeM_childVerdict_error_iff (settings : Settings) (graph : Graph n)
    (children : List (Ref n)) (fault : Fault) :
    children.findSomeM? (childVerdict settings graph) = .error fault ↔
      ReachesUnreadable graph children fault := by
  rw [findSomeM_error_iff]
  simp only [childVerdict_none_iff, childVerdict_error_iff, ReachesUnreadable]

theorem check_error_iff {settings : Settings} {graph : Graph n} {ref : Ref n} {info : ClassInfo n}
    {bases : List (Ref n)} (isClass : graph.classInfo? ref = some info)
    (listed : info.bases = some bases) (model : isModel settings graph ref = .ok true)
    (fault : Fault) :
    check settings graph ref = .error fault ↔
      ReachesUnreadable graph (bases ++ info.body) fault := by
  rw [← findSomeM_childVerdict_error_iff settings]
  simp only [check, model, isClass, verdict, Graph.classChildren, listed, Except.bind]
  cases (bases ++ info.body).findSomeM? (childVerdict settings graph) with
  | error cause => simp only [Except.map, Except.error.injEq]
  | ok outcome => simp [Except.map]

/-- The check of a model fails exactly if it gets to a child that cannot be read, and with the
fault of that child.  If all children can be read, it comes to a result. -/
theorem check_fails_iff_unreadable (settings : Settings) (graph : Graph n) (ref : Ref n)
    (info : ClassInfo n) (isClass : graph.classInfo? ref = some info)
    (model : isModel settings graph ref = .ok true) :
    ∃ bases, info.bases = some bases ∧
      (∀ fault, check settings graph ref = .error fault ↔
        ReachesUnreadable graph (bases ++ info.body) fault) ∧
      ((∀ child ∈ bases ++ info.body, ∀ fault, ¬ Unreadable graph child fault) →
        ∃ found, check settings graph ref = .ok found) := by
  obtain ⟨ancestor, path, _⟩ := Hierarchy.exists_above_of_derivesFrom model
  obtain ⟨bases, listed⟩ := graph.exists_bases_of_above isClass path
  have fails := check_error_iff isClass listed model
  refine ⟨bases, listed, fails, ?_⟩
  intro readable
  cases checked : check settings graph ref with
  | ok found => exact ⟨found, rfl⟩
  | error fault =>
      obtain ⟨before, child, after, split, _, unreadable⟩ := (fails fault).mp checked
      refine absurd unreadable (readable child ?_ fault)
      rw [split]
      exact List.mem_append_right before List.mem_cons_self

/-- Three models that cannot be read: one whose options assign to an element, one whose text
method is bound to an unknown name, and one whose text method is bound to a name without a
value. -/
def unreadableModels : Graph 14 where
  node
    | 0 => { shape := .classDef { name := "Article", bases := some [3], body := [5] } }
    | 1 => { shape := .classDef { name := "Comment", bases := some [3], body := [9] } }
    | 2 => { shape := .classDef { name := "Draft", bases := some [3], body := [12] } }
    | 3 => { shape := .usedName "Model", inference := { values := [4], fault := none } }
    | 4 => { shape := .classDef { name := "Model", qualifiedName := some ".Model" } }
    | 5 => { shape := .classDef { name := "Meta", body := [6] } }
    | 6 => { shape := .assign [7] (some 8) }
    | 7 => { shape := .plain .subscript }
    | 8 => { shape := .constant (.boolean true) }
    | 9 => { shape := .assign [10] (some 11) }
    | 10 => { shape := .assignedName "__unicode__" }
    | 11 => { shape := .usedName "describe" }
    | 12 => { shape := .assign [10] (some 13) }
    | 13 => { shape := .usedName "describe", inference := { values := [], fault := none } }

/-- The same models, but the options of the first assign to a name. -/
def readableModel : Graph 14 where
  node := Function.update unreadableModels.node 7 { shape := .assignedName "abstract" }

theorem assignedElement_fails :
    (ReachesUnreadable unreadableModels [3, 5] (.noMember "Subscript" "name") ∧
      check {} unreadableModels 0 = .error (.noMember "Subscript" "name")) ∧
    ((∀ child ∈ [3, 5], ∀ fault, ¬ Unreadable readableModel child fault) ∧
      ∃ found, check {} readableModel 0 = .ok found) := by
  have element : BadOption unreadableModels 6 (unreadableModels.missing 7 "name") :=
    .unnamed rfl rfl
  have options : BadOptions unreadableModels 5 (.noMember "Subscript" "name") :=
    .option rfl rfl rfl (List.nil_append [6]).symm nofun element
  have reaches : ReachesUnreadable unreadableModels [3, 5] (.noMember "Subscript" "name") := by
    refine ⟨[3], 5, [], rfl, ?_, .options options⟩
    intro earlier member
    rw [List.mem_singleton.mp member]
    exact (childVerdict_none_iff {} unreadableModels 3).mp rfl
  have readable : ∀ child ∈ [3, 5], ∀ fault, ¬ Unreadable readableModel child fault := by
    intro child member fault
    rw [← childVerdict_error_iff {}]
    simp only [List.mem_cons, List.not_mem_nil, or_false] at member
    rcases member with rfl | rfl
    · intro failed; cases failed
    · intro failed; cases failed
  obtain ⟨_, listed, fails, _⟩ := check_fails_iff_unreadable {} unreadableModels 0 _ rfl rfl
  cases listed
  obtain ⟨_, named, _, checked⟩ := check_fails_iff_unreadable {} readableModel 0 _ rfl rfl
  cases named
  exact ⟨⟨reaches, (fails _).mpr reaches⟩, readable, checked readable⟩

/-- Each of the three is a model, and the check of none of them comes to a result. -/
theorem unreadableModels_not_checked :
    (isModel {} unreadableModels 0 = .ok true ∧
      check {} unreadableModels 0 = .error (.noMember "Subscript" "name")) ∧
    (isModel {} unreadableModels 1 = .ok true ∧
      check {} unreadableModels 1 = .error .unresolved) ∧
    (isModel {} unreadableModels 2 = .ok true ∧
      check {} unreadableModels 2 = .error .noElement) :=
  ⟨⟨rfl, rfl⟩, ⟨rfl, rfl⟩, rfl, rfl⟩

end Model

end FrameworkLint
