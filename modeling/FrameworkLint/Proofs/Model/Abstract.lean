import FrameworkLint.Proofs.Model.Faults

/-!
# Abstract models

A model that its options make abstract should not be reported, because it has no objects that
need a text.  The options are one of the children that decide, and so they keep a message away
only if no child before them decides.  An abstract model that binds its text method to something
that cannot be called before its options come is blamed for that, and one that defines its text
method before them is blamed for that in Python 3.  No other message about it is possible.
-/

namespace FrameworkLint.Model

open Fault

variable {n : Nat}

/-! ## The first child that decides -/

theorem exists_firstDecisive {graph : Graph n} {children : List (Ref n)} {child : Ref n}
    (member : child ∈ children) (decides : Decisive graph child) :
    ∃ first, FirstDecisive graph children first := by
  induction children with
  | nil => cases member
  | cons head rest ih =>
      by_cases here : Decisive graph head
      · exact ⟨head, [], rest, rfl, nofun, here⟩
      · have later : child ∈ rest := by
          rcases List.mem_cons.mp member with rfl | later
          · exact absurd decides here
          · exact later
        obtain ⟨first, before, after, split, idle, found⟩ := ih later
        refine ⟨first, head :: before, after, ?_, ?_, found⟩
        · rw [split, List.cons_append]
        · exact List.forall_mem_cons.mpr ⟨here, idle⟩

theorem FirstDecisive.decisive {graph : Graph n} {children : List (Ref n)} {child : Ref n}
    (first : FirstDecisive graph children child) : Decisive graph child := by
  obtain ⟨_, _, _, _, decides⟩ := first
  exact decides

/-- What the first child that decides says is the verdict on the class. -/
theorem FirstDecisive.childVerdict_ruling {settings : Settings} {graph : Graph n}
    {info : ClassInfo n} {bases : List (Ref n)} {child : Ref n} {ruling : Verdict}
    (first : FirstDecisive graph (bases ++ info.body) child) (listed : info.bases = some bases)
    (judged : verdict settings graph info = .ok ruling) :
    childVerdict settings graph child = .ok (some ruling) := by
  obtain ⟨bases', outcome, listed', asked, decided⟩ := verdict_ok judged
  cases listed.symm.trans listed'
  obtain ⟨answer, said, passed⟩ := first.childVerdict_eq asked
  obtain ⟨last, rfl⟩ := exists_verdict_of_decisive first.decisive said
  rw [said, decided, passed last rfl]
  rfl

/-! ## Reasons to blame an abstract model -/

/-- The first child that decides binds the text method to something that cannot be called. -/
inductive BindsUncallable (graph : Graph n) (children : List (Ref n)) : Prop
  | intro {child second value : Ref n} {others : List (Option (Ref n))} {values : List (Ref n)}
      (first : FirstDecisive graph children child)
      (assigns : AssignsText graph child (some second :: others))
      (known : graph.inferred second = .ok (value :: values))
      (uncallable : graph.callable value = false)

/-- The first child that decides defines the text method. -/
inductive DefinesFirst (graph : Graph n) (children : List (Ref n)) : Prop
  | intro {child : Ref n} (first : FirstDecisive graph children child)
      (defines : DefinesText graph child)

section Ruling

variable {settings : Settings} {graph : Graph n} {info : ClassInfo n} {bases : List (Ref n)}
  {ruling : Verdict}

theorem BindsUncallable.ruling_eq (binds : BindsUncallable graph (bases ++ info.body))
    (listed : info.bases = some bases) (judged : verdict settings graph info = .ok ruling) :
    ruling = .complain .notCallable := by
  obtain ⟨first, assigns, known, uncallable⟩ := binds
  obtain ⟨_, _, _, _, parts, known', answers⟩ :=
    childVerdict_of_assignsText assigns (first.childVerdict_ruling listed judged)
  cases parts
  cases known.symm.trans known'
  rw [uncallable] at answers
  exact Option.some.inj answers

theorem DefinesFirst.ruling_eq (defined : DefinesFirst graph (bases ++ info.body))
    (listed : info.bases = some bases) (judged : verdict settings graph info = .ok ruling) :
    ruling = if settings.python3 then .complain .outdated else .quiet := by
  obtain ⟨first, defines⟩ := defined
  exact Option.some.inj
    (childVerdict_of_definesText defines (first.childVerdict_ruling listed judged))

/-- A class of which some child decides is blamed for one of the two reasons or not at all. -/
theorem ruling_cases {child : Ref n} (first : FirstDecisive graph (bases ++ info.body) child)
    (listed : info.bases = some bases) (judged : verdict settings graph info = .ok ruling) :
    ruling = .quiet ∨
      (ruling = .complain .notCallable ∧ BindsUncallable graph (bases ++ info.body)) ∨
      (ruling = .complain .outdated ∧ settings.python3 = true ∧
        DefinesFirst graph (bases ++ info.body)) := by
  have said := first.childVerdict_ruling listed judged
  cases first.decisive with
  | abstract makes => exact Or.inl (Option.some.inj (childVerdict_of_makesAbstract makes said))
  | assigned assigns =>
      obtain ⟨second, others, value, values, rfl, known, answers⟩ :=
        childVerdict_of_assignsText assigns said
      cases callable : graph.callable value with
      | true =>
          rw [callable] at answers
          exact Or.inl (Option.some.inj answers)
      | false =>
          rw [callable] at answers
          exact Or.inr (Or.inl ⟨Option.some.inj answers, first, assigns, known, callable⟩)
  | defined defines =>
      have answers := childVerdict_of_definesText defines said
      cases python : settings.python3 with
      | true =>
          rw [python] at answers
          exact Or.inr (Or.inr ⟨Option.some.inj answers, rfl, first, defines⟩)
      | false =>
          rw [python] at answers
          exact Or.inl (Option.some.inj answers)

theorem ruling_notCallable_iff {child : Ref n}
    (first : FirstDecisive graph (bases ++ info.body) child) (listed : info.bases = some bases)
    (judged : verdict settings graph info = .ok ruling) :
    ruling = .complain .notCallable ↔ BindsUncallable graph (bases ++ info.body) := by
  refine ⟨?_, fun binds => binds.ruling_eq listed judged⟩
  rintro rfl
  rcases ruling_cases first listed judged with quiet | ⟨_, binds⟩ | ⟨outdated, _⟩
  · cases quiet
  · exact binds
  · cases outdated

theorem ruling_outdated_iff {child : Ref n}
    (first : FirstDecisive graph (bases ++ info.body) child) (listed : info.bases = some bases)
    (judged : verdict settings graph info = .ok ruling) :
    ruling = .complain .outdated ↔
      settings.python3 = true ∧ DefinesFirst graph (bases ++ info.body) := by
  constructor
  · rintro rfl
    rcases ruling_cases first listed judged with quiet | ⟨notCallable, _⟩ | ⟨_, defined⟩
    · cases quiet
    · cases notCallable
    · exact defined
  · rintro ⟨python, defined⟩
    rw [defined.ruling_eq listed judged, python]
    rfl

end Ruling

/-! ## Reports about abstract models -/

/-- A class with options that make it abstract is reported exactly if it is a model and its first
child that decides binds the text method to something that cannot be called, or defines it in
Python 3.  It is never reported for having no text method of its own. -/
theorem abstractModel_reported_iff (settings : Settings) (graph : Graph n) (ref : Ref n)
    (info : ClassInfo n) (isClass : graph.classInfo? ref = some info) (found : Option (Finding n))
    (visited : check settings graph ref = .ok found) (options : Ref n)
    (member : options ∈ info.body) (abstract : isAbstractMeta graph options = .ok true) :
    (isModel settings graph ref = .ok false ∧ found = none) ∨
    (isModel settings graph ref = .ok true ∧ ∃ bases, info.bases = some bases ∧
      (found.map Finding.id = some "E5101" ↔ BindsUncallable graph (bases ++ info.body)) ∧
      (found.map Finding.id = some "W5102" ↔
        settings.python3 = true ∧ DefinesFirst graph (bases ++ info.body)) ∧
      (found = none ↔ ¬ BindsUncallable graph (bases ++ info.body) ∧
        ¬ (settings.python3 = true ∧ DefinesFirst graph (bases ++ info.body))) ∧
      found.map Finding.id ≠ some "W5101" ∧ found.map Finding.id ≠ some "W5103") := by
  rcases check_ok isClass visited with ⟨noModel, silent⟩ | ⟨model, ruling, judged, same⟩
  · exact Or.inl ⟨noModel, silent⟩
  obtain ⟨bases, _, listed, _, _⟩ := verdict_ok judged
  have decides : Decisive graph options := .abstract ((makesAbstract_iff abstract).mpr rfl)
  obtain ⟨child, first⟩ := exists_firstDecisive (List.mem_append_right bases member) decides
  have ids : found.map Finding.id = ruling.complaint?.map Complaint.id := by
    rw [same, Option.map_map]
    rfl
  have silence : found = none ↔ ruling.complaint? = none := by
    rw [same, Option.map_eq_none_iff]
  refine Or.inr ⟨model, bases, listed, ?_⟩
  rw [ids, silence, ← ruling_notCallable_iff first listed judged,
    ← ruling_outdated_iff first listed judged]
  rcases ruling_cases first listed judged with rfl | ⟨rfl, _⟩ | ⟨rfl, _⟩ <;> decide

/-- Two abstract models whose options come last: one defines its text method, and one binds it to a
text. -/
def lateOptions : Graph 15 where
  node
    | 0 => { shape := .classDef { name := "Article", bases := some [2], body := [4, 5] } }
    | 1 => { shape := .classDef { name := "Comment", bases := some [2], body := [9, 12] } }
    | 2 => { shape := .usedName "Model", inference := { values := [3], fault := none } }
    | 3 => { shape := .classDef { name := "Model", qualifiedName := some ".Model" } }
    | 4 => { shape := .function { name := "__unicode__" } }
    | 5 => { shape := .classDef { name := "Meta", body := [6] } }
    | 6 => { shape := .assign [7] (some 8) }
    | 7 => { shape := .assignedName "abstract" }
    | 8 => { shape := .constant (.boolean true) }
    | 9 => { shape := .assign [10] (some 11) }
    | 10 => { shape := .assignedName "__unicode__" }
    | 11 => { shape := .constant (.text "comment"), inference := { values := [11], fault := none } }
    | 12 => { shape := .classDef { name := "Meta", body := [13] } }
    | 13 => { shape := .assign [14] (some 8) }
    | 14 => { shape := .assignedName "abstract" }

theorem article_definesFirst : DefinesFirst lateOptions [2, 4, 5] := by
  refine ⟨(⟨[2], [5], rfl, ?_, .defined ⟨rfl, rfl⟩⟩ : FirstDecisive lateOptions [2, 4, 5] 4),
    rfl, rfl⟩
  intro earlier member
  rw [List.mem_singleton.mp member]
  exact ((childVerdict_none_iff {} lateOptions 2).mp rfl).1

/-- The definition comes before the options and is blamed. -/
theorem lateOptions_definition_reported :
    isAbstractMeta lateOptions 5 = .ok true ∧ DefinesFirst lateOptions [2, 4, 5] ∧
      ∃ found, check {} lateOptions 0 = .ok found ∧ found.map Finding.id = some "W5102" := by
  have visited : check {} lateOptions 0 = .ok (some ⟨.outdated, "Article", 0⟩) := rfl
  refine ⟨rfl, article_definesFirst, _, visited, ?_⟩
  rcases abstractModel_reported_iff {} lateOptions 0 _ rfl _ visited 5 (by simp) rfl with
    ⟨noModel, _⟩ | ⟨_, bases, listed, _, outdated, _⟩
  · cases noModel.symm.trans (rfl : isModel {} lateOptions 0 = .ok true)
  · cases listed
    exact outdated.mpr ⟨rfl, article_definesFirst⟩

/-- Both have options that make them abstract, and both are reported. -/
theorem lateOptions_reported :
    ((lateOptions.classInfo? 0).map ClassInfo.body = some [4, 5] ∧
      isAbstractMeta lateOptions 5 = .ok true ∧
      check {} lateOptions 0 = .ok (some ⟨.outdated, "Article", 0⟩)) ∧
    ((lateOptions.classInfo? 1).map ClassInfo.body = some [9, 12] ∧
      isAbstractMeta lateOptions 12 = .ok true ∧
      check {} lateOptions 1 = .ok (some ⟨.notCallable, "Comment", 1⟩) ∧
      check { python3 := false } lateOptions 1 = .ok (some ⟨.notCallable, "Comment", 1⟩)) :=
  ⟨⟨rfl, rfl, rfl⟩, rfl, rfl, rfl, rfl⟩

end FrameworkLint.Model
