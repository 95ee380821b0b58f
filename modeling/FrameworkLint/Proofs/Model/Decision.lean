import FrameworkLint.Model.Check
import FrameworkLint.Proofs.Outcome

/-!
# The child that decides about a model

Three kinds of children of a class decide about its text method: a class of options that makes
the class abstract, an assignment to the method, and a definition of it.  The first of them in
the order of the children decides alone.  The children before it are only looked at, and those
after it are not even that.  If there is none, the methods and the decorators of the class
decide.
-/

namespace FrameworkLint

open Fault

variable {n : Nat}

namespace Graph

theorem classDef_eq_some_iff (graph : Graph n) (ref : Ref n) (info : ClassInfo n) :
    graph.classDef? ref = some info ↔ graph.shape ref = .classDef info := by
  unfold classDef?
  cases graph.shape ref <;> simp

theorem classChildren_ok {info : ClassInfo n} {children : List (Ref n)}
    (listed : classChildren info = .ok children) :
    ∃ bases, info.bases = some bases ∧ children = bases ++ info.body := by
  unfold classChildren at listed
  split at listed
  · next bases known => exact ⟨bases, known, (Except.ok.inj listed).symm⟩
  · cases listed

end Graph

namespace Model

/-! ## Decisive children -/

/-- An assignment of a true constant whose first target goes by the name. -/
inductive AssignsTrue (graph : Graph n) (label : String) (ref : Ref n) : Prop
  | intro {target value : Ref n} {targets : List (Ref n)} {literal : Literal}
      (assigned : graph.shape ref = .assign (target :: targets) (some value))
      (named : graph.name target = .ok (some label))
      (constant : graph.shape value = .constant literal) (holds : literal.truthy = true)

/-- A class of options that makes the class around it abstract. -/
inductive MakesAbstract (graph : Graph n) (child : Ref n) : Prop
  | intro {info : ClassInfo n} {bases : List (Ref n)} {part : Ref n}
      (isClass : graph.shape child = .classDef info) (named : info.name = "Meta")
      (listed : info.bases = some bases) (member : part ∈ bases ++ info.body)
      (assigns : AssignsTrue graph "abstract" part)

/-- An assignment whose first part is the name of the text method, and its further parts.  The
parts are the targets and then the value. -/
inductive AssignsText (graph : Graph n) (child : Ref n) (further : List (Option (Ref n))) : Prop
  | intro {targets : List (Ref n)} {value : Option (Ref n)} {target : Ref n}
      (assigned : graph.shape child = .assign targets value)
      (parts : targets.map some ++ [value] = some target :: further)
      (named : graph.shape target = .assignedName textMethod)

/-- A definition of the text method. -/
inductive DefinesText (graph : Graph n) (child : Ref n) : Prop
  | intro {info : FunctionInfo} (isFunction : graph.shape child = .function info)
      (named : info.name = textMethod)

/-- A child that decides. -/
inductive Decisive (graph : Graph n) (child : Ref n) : Prop
  | abstract (makes : MakesAbstract graph child)
  | assigned {further : List (Option (Ref n))} (assigns : AssignsText graph child further)
  | defined (defines : DefinesText graph child)

/-- The first child that decides. -/
def FirstDecisive (graph : Graph n) (children : List (Ref n)) (child : Ref n) : Prop :=
  ∃ before after, children = before ++ child :: after ∧
    (∀ earlier ∈ before, ¬ Decisive graph earlier) ∧ Decisive graph child

/-! ## Options -/

theorem isTrueConstant_iff (graph : Graph n) (ref : Ref n) :
    isTrueConstant graph ref = true ↔
      ∃ literal, graph.shape ref = .constant literal ∧ literal.truthy = true := by
  unfold isTrueConstant
  cases graph.shape ref <;> simp

theorem assignsTrue_iff {graph : Graph n} {ref : Ref n} {answer : Bool}
    (asked : setsAbstract graph ref = .ok answer) :
    AssignsTrue graph "abstract" ref ↔ answer = true := by
  unfold setsAbstract at asked
  split at asked
  · cases asked
  · next target targets value assigned =>
      obtain ⟨name, called, answers⟩ := exists_of_map_ok asked
      rw [← answers, Bool.and_eq_true, decide_eq_true_iff, Option.any_eq_true]
      constructor
      · rintro ⟨again, named, constant, holds⟩
        cases assigned.symm.trans again
        exact ⟨Except.ok.inj (called.symm.trans named), _, rfl,
          (isTrueConstant_iff graph _).mpr ⟨_, constant, holds⟩⟩
      · rintro ⟨named, constant, present, isTrue⟩
        obtain ⟨literal, isConstant, holds⟩ := (isTrueConstant_iff graph constant).mp isTrue
        exact ⟨by rw [assigned, present], by rw [called, named], isConstant, holds⟩
  · next other =>
      cases asked
      refine iff_of_false ?_ Bool.false_ne_true
      rintro ⟨assigned, _, _, _⟩
      exact other _ _ _ assigned

theorem isAbstractMeta_of_class {graph : Graph n} {child : Ref n} {info : ClassInfo n}
    (isClass : graph.shape child = .classDef info) :
    isAbstractMeta graph child =
      if info.name = "Meta" then
        (Graph.classChildren info).bind fun parts => parts.anyM (setsAbstract graph)
      else .ok false := by
  simp only [isAbstractMeta, (graph.classDef_eq_some_iff child info).mpr isClass]

theorem isAbstractMeta_of_not_class {graph : Graph n} {child : Ref n}
    (other : ∀ info, graph.shape child ≠ .classDef info) :
    isAbstractMeta graph child = .ok false := by
  unfold isAbstractMeta
  cases isClass : graph.classDef? child with
  | none => rfl
  | some info => exact absurd ((graph.classDef_eq_some_iff child info).mp isClass) (other info)

theorem makesAbstract_iff {graph : Graph n} {child : Ref n} {answer : Bool}
    (asked : isAbstractMeta graph child = .ok answer) :
    MakesAbstract graph child ↔ answer = true := by
  cases shape : graph.shape child with
  | classDef info =>
      rw [isAbstractMeta_of_class shape] at asked
      split at asked
      · next named =>
          obtain ⟨parts, children, searched⟩ := exists_of_bind_ok asked
          obtain ⟨bases, listed, split⟩ := Graph.classChildren_ok children
          rw [← exists_iff_of_anyM_ok assignsTrue_iff searched, split]
          constructor
          · rintro ⟨again, _, listedAgain, member, assigns⟩
            cases shape.symm.trans again
            cases listed.symm.trans listedAgain
            exact ⟨_, member, assigns⟩
          · rintro ⟨part, member, assigns⟩
            exact ⟨shape, named, listed, member, assigns⟩
      · next different =>
          cases asked
          refine iff_of_false ?_ Bool.false_ne_true
          rintro ⟨again, named, _, _, _⟩
          cases shape.symm.trans again
          exact different named
  | _ =>
      rw [isAbstractMeta_of_not_class (by simp [shape])] at asked
      cases asked
      refine iff_of_false ?_ Bool.false_ne_true
      rintro ⟨isClass, _, _, _, _⟩
      cases shape.symm.trans isClass

/-! ## Assignments to the text method -/

theorem isTextTarget_iff (graph : Graph n) (ref : Ref n) :
    isTextTarget graph ref = true ↔ graph.shape ref = .assignedName textMethod := by
  unfold isTextTarget
  cases graph.shape ref <;> simp

theorem valueVerdict_ok {graph : Graph n} {part : Option (Ref n)} {verdict : Verdict}
    (asked : valueVerdict graph part = .ok verdict) :
    ∃ second value values, part = some second ∧ graph.inferred second = .ok (value :: values) ∧
      verdict = if graph.callable value then .quiet else .complain .notCallable := by
  cases part with
  | none => cases asked
  | some second =>
      obtain ⟨values, known, judged⟩ := exists_of_bind_ok asked
      cases values with
      | nil => cases judged
      | cons value values => exact ⟨second, value, values, rfl, known, (Except.ok.inj judged).symm⟩

theorem assignVerdict_of_text {graph : Graph n} {target : Ref n} {further : List (Option (Ref n))}
    {outcome : Option Verdict} (named : graph.shape target = .assignedName textMethod)
    (asked : assignVerdict graph (some target :: further) = .ok outcome) :
    ∃ second others value values, further = some second :: others ∧
      graph.inferred second = .ok (value :: values) ∧
      outcome = some (if graph.callable value then .quiet else .complain .notCallable) := by
  unfold assignVerdict at asked
  dsimp only at asked
  rw [if_pos ((isTextTarget_iff graph target).mpr named)] at asked
  cases further with
  | nil => cases asked
  | cons part others =>
      obtain ⟨verdict, judged, result⟩ := exists_of_map_ok asked
      obtain ⟨second, value, values, present, known, same⟩ := valueVerdict_ok judged
      exact ⟨second, others, value, values, by rw [present], known, by rw [← result, same]⟩

theorem assignVerdict_of_other {graph : Graph n} {parts : List (Option (Ref n))}
    (other : ∀ target further, parts = some target :: further →
      graph.shape target ≠ .assignedName textMethod) :
    assignVerdict graph parts = .ok none := by
  unfold assignVerdict
  split
  · next target further =>
      have different : ¬ isTextTarget graph target = true := fun named =>
        other target further rfl ((isTextTarget_iff graph target).mp named)
      rw [if_neg different]
  · rfl

/-! ## Verdicts of children -/

theorem childVerdict_of_makesAbstract {settings : Settings} {graph : Graph n} {child : Ref n}
    {outcome : Option Verdict} (makes : MakesAbstract graph child)
    (asked : childVerdict settings graph child = .ok outcome) : outcome = some .quiet := by
  obtain ⟨answer, abstract, judged⟩ := exists_of_bind_ok asked
  rw [if_pos ((makesAbstract_iff abstract).mp makes)] at judged
  exact (Except.ok.inj judged).symm

theorem childVerdict_of_assign {settings : Settings} {graph : Graph n} {child : Ref n}
    {targets : List (Ref n)} {value : Option (Ref n)}
    (assigned : graph.shape child = .assign targets value) :
    childVerdict settings graph child = assignVerdict graph (targets.map some ++ [value]) := by
  unfold childVerdict
  rw [isAbstractMeta_of_not_class (by simp [assigned]), assigned]
  rfl

theorem childVerdict_of_function {settings : Settings} {graph : Graph n} {child : Ref n}
    {info : FunctionInfo} (isFunction : graph.shape child = .function info) :
    childVerdict settings graph child = .ok (if info.name = textMethod then
      some (if settings.python3 then .complain .outdated else .quiet) else none) := by
  unfold childVerdict
  rw [isAbstractMeta_of_not_class (by simp [isFunction]), isFunction]
  rfl

theorem childVerdict_of_assignsText {settings : Settings} {graph : Graph n} {child : Ref n}
    {further : List (Option (Ref n))} {outcome : Option Verdict}
    (assigns : AssignsText graph child further)
    (asked : childVerdict settings graph child = .ok outcome) :
    ∃ second others value values, further = some second :: others ∧
      graph.inferred second = .ok (value :: values) ∧
      outcome = some (if graph.callable value then .quiet else .complain .notCallable) := by
  obtain ⟨assigned, parts, named⟩ := assigns
  rw [childVerdict_of_assign assigned, parts] at asked
  exact assignVerdict_of_text named asked

theorem childVerdict_of_definesText {settings : Settings} {graph : Graph n} {child : Ref n}
    {outcome : Option Verdict} (defines : DefinesText graph child)
    (asked : childVerdict settings graph child = .ok outcome) :
    outcome = some (if settings.python3 then .complain .outdated else .quiet) := by
  obtain ⟨isFunction, named⟩ := defines
  rw [childVerdict_of_function isFunction, if_pos named] at asked
  exact (Except.ok.inj asked).symm

/-- A child that does not decide has no verdict. -/
theorem childVerdict_of_not_decisive {settings : Settings} {graph : Graph n} {child : Ref n}
    {outcome : Option Verdict} (idle : ¬ Decisive graph child)
    (asked : childVerdict settings graph child = .ok outcome) : outcome = none := by
  cases shape : graph.shape child with
  | assign targets value =>
      have other : ∀ target further, targets.map some ++ [value] = some target :: further →
          graph.shape target ≠ .assignedName textMethod :=
        fun target further parts named => idle (.assigned ⟨shape, parts, named⟩)
      rw [childVerdict_of_assign shape, assignVerdict_of_other other] at asked
      exact (Except.ok.inj asked).symm
  | function info =>
      have different : info.name ≠ textMethod := fun named => idle (.defined ⟨shape, named⟩)
      rw [childVerdict_of_function shape, if_neg different] at asked
      exact (Except.ok.inj asked).symm
  | _ =>
      -- Of the other shapes only a class could have a verdict, and only as abstract options.
      obtain ⟨answer, abstract, judged⟩ := exists_of_bind_ok asked
      have notAbstract : ¬ answer = true := fun yes =>
        idle (.abstract ((makesAbstract_iff abstract).mpr yes))
      rw [if_neg notAbstract, shape] at judged
      exact (Except.ok.inj judged).symm

/-! ## The run over the children -/

theorem verdict_ok {settings : Settings} {graph : Graph n} {info : ClassInfo n} {ruling : Verdict}
    (judged : verdict settings graph info = .ok ruling) :
    ∃ bases outcome, info.bases = some bases ∧
      (bases ++ info.body).findSomeM? (childVerdict settings graph) = .ok outcome ∧
      ruling = outcome.getD (classVerdict settings graph info) := by
  obtain ⟨children, held, searched⟩ := exists_of_bind_ok judged
  obtain ⟨outcome, asked, result⟩ := exists_of_map_ok searched
  obtain ⟨bases, listed, split⟩ := Graph.classChildren_ok held
  rw [split] at asked
  exact ⟨bases, outcome, listed, asked, result.symm⟩

theorem check_ok {settings : Settings} {graph : Graph n} {ref : Ref n} {info : ClassInfo n}
    {found : Option (Finding n)} (isClass : graph.classInfo? ref = some info)
    (visited : check settings graph ref = .ok found) :
    (isModel settings graph ref = .ok false ∧ found = none) ∨
      (isModel settings graph ref = .ok true ∧ ∃ ruling, verdict settings graph info = .ok ruling ∧
        found = ruling.complaint?.map fun complaint => ⟨complaint, info.name, ref⟩) := by
  obtain ⟨answer, model, rest⟩ := exists_of_bind_ok visited
  rw [isClass] at rest
  cases answer with
  | false => exact Or.inl ⟨model, (Except.ok.inj rest).symm⟩
  | true =>
      obtain ⟨ruling, judged, result⟩ := exists_of_map_ok rest
      exact Or.inr ⟨model, ruling, judged, result.symm⟩

/-- The first child that decides has a verdict, and it is that of the run. -/
theorem FirstDecisive.childVerdict_eq {settings : Settings} {graph : Graph n}
    {children : List (Ref n)} {child : Ref n} {outcome : Option Verdict}
    (first : FirstDecisive graph children child)
    (asked : children.findSomeM? (childVerdict settings graph) = .ok outcome) :
    ∃ answer, childVerdict settings graph child = .ok answer ∧
      ∀ ruling, answer = some ruling → outcome = some ruling := by
  obtain ⟨before, after, split, idle, _⟩ := first
  rw [split] at asked
  have here := findSomeM_of_idle asked fun earlier member _ =>
    childVerdict_of_not_decisive (idle earlier member)
  rw [findSomeM_cons_eq] at here
  obtain ⟨answer, judged, further⟩ := exists_of_bind_ok here
  refine ⟨answer, judged, ?_⟩
  intro ruling same
  rw [same] at further
  exact (Except.ok.inj further).symm

/-! ## The decision -/

/-- The identifier of the message. -/
def Finding.id (finding : Finding n) : String :=
  finding.complaint.id

/-- A decorator of the class goes by the name of the text decorator. -/
def Decorated (graph : Graph n) (info : ClassInfo n) : Prop :=
  ∃ decorator ∈ info.decorators, graph.name decorator = .ok (some textDecorator)

theorem any_isTextDecorator_iff (graph : Graph n) (info : ClassInfo n) :
    info.decorators.any (isTextDecorator graph) = true ↔ Decorated graph info := by
  rw [List.any_eq_true]
  refine exists_congr fun decorator => and_congr_right fun _ => ?_
  unfold isTextDecorator
  cases graph.name decorator <;> simp

instance (graph : Graph n) (info : ClassInfo n) : Decidable (Decorated graph info) :=
  decidable_of_iff _ (any_isTextDecorator_iff graph info)

theorem classVerdict_id (settings : Settings) (graph : Graph n) (info : ClassInfo n) :
    (classVerdict settings graph info).complaint?.map Complaint.id =
      if settings.python3 then none
      else if textMethod ∈ info.methods then some "W5103"
      else if Decorated graph info then none
      else some "W5101" := by
  unfold classVerdict
  simp only [List.contains_iff_mem, any_isTextDecorator_iff]
  split
  · rfl
  · split
    · rfl
    · split <;> rfl

/-- The verdict on a class that is a model is that of the first child that decides, and that of
the class itself if there is no such child.  Nothing is said about other classes, and at most
one thing about a model. -/
theorem check_decided (settings : Settings) (graph : Graph n) (ref : Ref n) (info : ClassInfo n)
    (isClass : graph.classInfo? ref = some info) (found : Option (Finding n))
    (visited : check settings graph ref = .ok found) :
    (∀ finding ∈ found, finding.className = info.name ∧ finding.node = ref) ∧
    ((isModel settings graph ref = .ok false ∧ found = none) ∨
      (isModel settings graph ref = .ok true ∧ ∃ bases, info.bases = some bases ∧
        (∀ child, FirstDecisive graph (bases ++ info.body) child →
          (MakesAbstract graph child → found = none) ∧
          (∀ further, AssignsText graph child further → ∃ second others value values,
            further = some second :: others ∧ graph.inferred second = .ok (value :: values) ∧
            found.map Finding.id = if graph.callable value then none else some "E5101") ∧
          (DefinesText graph child →
            found.map Finding.id = if settings.python3 then some "W5102" else none)) ∧
        ((∀ child ∈ bases ++ info.body, ¬ Decisive graph child) →
          found.map Finding.id =
            if settings.python3 then none
            else if textMethod ∈ info.methods then some "W5103"
            else if Decorated graph info then none
            else some "W5101"))) := by
  rcases check_ok isClass visited with ⟨noModel, silent⟩ | ⟨model, ruling, judged, same⟩
  · subst silent
    exact ⟨nofun, Or.inl ⟨noModel, rfl⟩⟩
  obtain ⟨bases, outcome, listed, asked, decided⟩ := verdict_ok judged
  -- All that is left is a verdict: a finding is made from it alone.
  have ids : found.map Finding.id = ruling.complaint?.map Complaint.id := by
    rw [same, Option.map_map]
    rfl
  refine ⟨?_, Or.inr ⟨model, bases, listed, ?_, ?_⟩⟩
  · intro finding present
    rw [same] at present
    obtain ⟨complaint, _, made⟩ := Option.map_eq_some_iff.mp present
    rw [← made]
    exact ⟨rfl, rfl⟩
  · intro child first
    obtain ⟨answer, said, passed⟩ := first.childVerdict_eq asked
    have settled (last : Verdict) (answers : answer = some last) : ruling = last := by
      rw [decided, passed last answers]
      rfl
    refine ⟨?_, ?_, ?_⟩
    · intro makes
      rw [same, settled _ (childVerdict_of_makesAbstract makes said)]
      rfl
    · intro further assigns
      obtain ⟨second, others, value, values, parts, known, answers⟩ :=
        childVerdict_of_assignsText assigns said
      refine ⟨second, others, value, values, parts, known, ?_⟩
      rw [ids, settled _ answers]
      split <;> rfl
    · intro defines
      rw [ids, settled _ (childVerdict_of_definesText defines said)]
      split <;> rfl
  · intro idle
    have silent : outcome = none := by
      rw [← List.append_nil (bases ++ info.body)] at asked
      have rest := findSomeM_of_idle asked fun child member _ =>
        childVerdict_of_not_decisive (idle child member)
      exact (Except.ok.inj rest).symm
    rw [ids, decided, silent]
    exact classVerdict_id settings graph info

/-- A model whose text method is bound to a text, before options that make it abstract. -/
def boundText : Graph 10 where
  node
    | 0 => { shape := .classDef { name := "Article", bases := some [1], body := [3, 6] } }
    | 1 => { shape := .usedName "Model", inference := { values := [2], fault := none } }
    | 2 => { shape := .classDef { name := "Model", qualifiedName := some ".Model" } }
    | 3 => { shape := .assign [4] (some 5) }
    | 4 => { shape := .assignedName "__unicode__" }
    | 5 => { shape := .constant (.text "article"), inference := { values := [5], fault := none } }
    | 6 => { shape := .classDef { name := "Meta", body := [7] } }
    | 7 => { shape := .assign [8] (some 9) }
    | 8 => { shape := .assignedName "abstract" }
    | 9 => { shape := .constant (.boolean true) }

/-- The assignment comes first, so the options do not keep it from being blamed. -/
theorem boundText_blamed :
    MakesAbstract boundText 6 ∧ FirstDecisive boundText [1, 3, 6] 3 ∧
      ∃ found, check { python3 := false } boundText 0 = .ok found ∧
        found.map Finding.id = some "E5101" := by
  have options : MakesAbstract boundText 6 :=
    ⟨rfl, rfl, rfl, List.mem_cons_self, ⟨rfl, rfl, rfl, rfl⟩⟩
  have assigns : AssignsText boundText 3 [some 5] := ⟨rfl, rfl, rfl⟩
  have first : FirstDecisive boundText [1, 3, 6] 3 := by
    refine ⟨[1], [6], rfl, ?_, .assigned assigns⟩
    intro earlier member
    rw [List.mem_singleton.mp member]
    rintro (⟨isClass, _, _, _, _⟩ | ⟨assigned, _, _⟩ | ⟨isFunction, _⟩)
    · cases isClass
    · cases assigned
    · cases isFunction
  have visited : check { python3 := false } boundText 0 = .ok (some ⟨.notCallable, "Article", 0⟩) :=
    rfl
  have model : isModel { python3 := false } boundText 0 = .ok true := rfl
  refine ⟨options, first, _, visited, ?_⟩
  obtain ⟨_, ⟨noModel, _⟩ | ⟨_, bases, listed, decided, _⟩⟩ :=
    check_decided { python3 := false } boundText 0 _ rfl _ visited
  · cases model.symm.trans noModel
  · cases listed
    obtain ⟨second, others, value, values, parts, known, blamed⟩ :=
      (decided 3 first).2.1 [some 5] assigns
    cases parts
    cases known
    exact blamed

end Model

end FrameworkLint
