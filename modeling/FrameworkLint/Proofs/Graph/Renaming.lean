import FrameworkLint.Hierarchy
import Mathlib.Logic.Equiv.Basic

/-!
# Programs that differ in qualified names

Two programs can have the same nodes and differ only in the qualified names of these
nodes.  Whatever is asked of a node apart from its qualified name has the same answer in
both.  The one exception is the name of a module, which is its qualified name as well;
but no question tells the two names of a module apart unless it asks for one of them.
-/

namespace FrameworkLint

variable {n : Nat}

/-- The shape with another stated name.  A module always states a name. -/
def Shape.restated (stated : Option String) : Shape n → Shape n
  | .moduleDef name => .moduleDef (stated.getD name)
  | .classDef info => .classDef { info with qualifiedName := stated }
  | .function info => .function { info with qualifiedName := stated }
  | .lambda _ => .lambda stated
  | shape => shape

/-- A list has a name exactly if it has the name that is put in its place. -/
def Keeps (rename : String → String) (names : List String) : Prop :=
  ∀ name, rename name ∈ names ↔ name ∈ names

namespace Keeps

theorem comp {first second : String → String} {names : List String} (outer : Keeps first names)
    (inner : Keeps second names) : Keeps (first ∘ second) names :=
  fun name => (outer (second name)).trans (inner name)

/-- A list that has both of two names, or neither, keeps their exchange. -/
theorem swap {first second : String} {names : List String}
    (both : first ∈ names ↔ second ∈ names) : Keeps (Equiv.swap first second) names := by
  intro name
  rw [Equiv.swap_apply_def]
  split
  · next same => rw [same]; exact both.symm
  · split
    · next same => rw [same]; exact both
    · exact Iff.rfl

theorem wanted_map {rename : String → String} {names : List String} (keeps : Keeps rename names)
    (qualifiedName : Option String) :
    Hierarchy.wanted names (qualifiedName.map rename) = Hierarchy.wanted names qualifiedName := by
  cases qualifiedName with
  | none => rfl
  | some name =>
      rw [Bool.eq_iff_iff]
      simpa [Hierarchy.wanted] using keeps name

/-- A name that stays in its place is met on both sides or on neither. -/
theorem eq_iff {rename : String → String} {label : String} (keeps : Keeps rename [label])
    (name : String) : rename name = label ↔ name = label := by
  simpa using keeps name

end Keeps

namespace Graph

theorem qualifiedName_moduleDef {graph : Graph n} {ref : Ref n} {name : String}
    (isModule : graph.shape ref = .moduleDef name) :
    graph.qualifiedName (.node ref) = .ok (some name) := by
  have itself : graph.definition ref = ref := by
    unfold definition
    rw [isModule]
  cases n with
  | zero => exact ref.elim0
  | succ n =>
      unfold qualifiedName
      simp only [isModule, itself]
      unfold scopeName
      rw [isModule]
      rfl

/-- The second program is the first one with other qualified names: a node that answers
with a name answers with the renamed one, and a node that fails to answer fails alike.
Everything else about the nodes is the same. -/
structure Renamed (rename : String → String) (before after : Graph n) : Prop where
  node : ∀ ref, ∃ stated,
    after.node ref = { before.node ref with shape := (before.node ref).shape.restated stated }
  qualifiedName : ∀ ref,
    after.qualifiedName (.node ref) = (before.qualifiedName (.node ref)).map (Option.map rename)

namespace Renamed

variable {rename : String → String} {before after : Graph n}

/-! ## Questions about one node -/

theorem shape (renamed : Renamed rename before after) (ref : Ref n) :
    ∃ stated, after.shape ref = (before.shape ref).restated stated := by
  obtain ⟨stated, same⟩ := renamed.node ref
  exact ⟨stated, congrArg Node.shape same⟩

theorem definition_eq (renamed : Renamed rename before after) (ref : Ref n) :
    after.definition ref = before.definition ref := by
  obtain ⟨stated, same⟩ := renamed.shape ref
  unfold definition
  rw [same]
  cases before.shape ref <;> rfl

theorem parent_eq (renamed : Renamed rename before after) (ref : Ref n) :
    after.parent ref = before.parent ref := by
  obtain ⟨stated, same⟩ := renamed.shape (before.definition ref)
  obtain ⟨_, answering⟩ := renamed.node (before.definition ref)
  unfold parent
  rw [renamed.definition_eq, same, answering]
  cases before.shape (before.definition ref) <;> rfl

theorem inferred_eq (renamed : Renamed rename before after) (ref : Ref n) :
    after.inferred ref = before.inferred ref := by
  obtain ⟨stated, same⟩ := renamed.shape ref
  obtain ⟨_, answering⟩ := renamed.node (before.definition ref)
  unfold inferred
  rw [renamed.definition_eq, same, answering]
  cases before.shape ref <;> rfl

theorem builtin_eq (renamed : Renamed rename before after) (ref : Ref n) :
    (after.shape ref).builtin? = (before.shape ref).builtin? := by
  obtain ⟨stated, same⟩ := renamed.shape ref
  rw [same]
  cases before.shape ref <;> rfl

theorem missing_eq (renamed : Renamed rename before after) (ref : Ref n) (member : String) :
    after.missing ref member = before.missing ref member := by
  obtain ⟨stated, same⟩ := renamed.shape (before.definition ref)
  unfold missing answeringKind
  rw [renamed.builtin_eq, renamed.definition_eq, same]
  cases before.shape (before.definition ref) <;> rfl

theorem memberName_eq (renamed : Renamed rename before after) (ref : Ref n) :
    after.memberName ref = before.memberName ref := by
  obtain ⟨stated, same⟩ := renamed.shape ref
  unfold memberName
  rw [renamed.missing_eq, same]
  cases before.shape ref <;> rfl

theorem object_eq (renamed : Renamed rename before after) (ref : Ref n) :
    after.object? ref = before.object? ref := by
  obtain ⟨stated, same⟩ := renamed.shape ref
  unfold object?
  rw [same]
  cases before.shape ref <;> rfl

theorem receiver_eq (renamed : Renamed rename before after) (ref : Ref n) :
    after.receiver? ref = before.receiver? ref := by
  unfold receiver?
  rw [renamed.object_eq]
  congr 1
  funext object
  obtain ⟨stated, same⟩ := renamed.shape object
  rw [same]
  cases before.shape object <;> rfl

theorem callable_eq (renamed : Renamed rename before after) (ref : Ref n) :
    after.callable ref = before.callable ref := by
  obtain ⟨stated, same⟩ := renamed.shape ref
  unfold callable
  rw [same]
  cases before.shape ref <;> rfl

/-! ## Classes -/

theorem classDef_cases (renamed : Renamed rename before after) (ref : Ref n) :
    (before.classDef? ref = none ∧ after.classDef? ref = none) ∨
      ∃ info stated, before.classDef? ref = some info ∧
        after.classDef? ref = some { info with qualifiedName := stated } := by
  obtain ⟨stated, same⟩ := renamed.shape ref
  unfold classDef?
  rw [same]
  cases before.shape ref with
  | classDef info => exact Or.inr ⟨info, stated, rfl, rfl⟩
  | _ => exact Or.inl ⟨rfl, rfl⟩

theorem isClass_eq (renamed : Renamed rename before after) (ref : Ref n) :
    after.isClass ref = before.isClass ref := by
  unfold isClass
  rcases renamed.classDef_cases ref with ⟨absent, also⟩ | ⟨info, stated, present, also⟩
  · rw [absent, also]
  · rw [present, also]
    rfl

theorem classInfo_cases (renamed : Renamed rename before after) (ref : Ref n) :
    (before.classInfo? ref = none ∧ after.classInfo? ref = none) ∨
      ∃ info stated, before.classInfo? ref = some info ∧
        after.classInfo? ref = some { info with qualifiedName := stated } := by
  obtain ⟨stated, same⟩ := renamed.shape ref
  unfold classInfo?
  rw [same]
  cases before.shape ref with
  | classDef info => exact Or.inr ⟨info, stated, rfl, rfl⟩
  | instanceOf type callable => exact renamed.classDef_cases type
  | _ => exact Or.inl ⟨rfl, rfl⟩

theorem bases_eq (renamed : Renamed rename before after) (entity : Entity n) :
    after.bases entity = before.bases entity := by
  cases entity with
  | builtin type => rfl
  | node ref =>
      unfold bases
      dsimp only
      rw [renamed.builtin_eq]
      rcases renamed.classInfo_cases ref with ⟨absent, also⟩ | ⟨info, stated, present, also⟩
      · rw [absent, also]
        cases (before.shape ref).builtin? <;> rfl
      · rw [present, also]
        unfold classBases
        simp only [renamed.inferred_eq]

/-! ## Names -/

/-- The name of a node is the same, or it is that of a module and renamed. -/
theorem name_cases (renamed : Renamed rename before after) (ref : Ref n) :
    after.name ref = before.name ref ∨
      ∃ name, before.name ref = .ok (some name) ∧ after.name ref = .ok (some (rename name)) := by
  obtain ⟨stated, same⟩ := renamed.shape (before.definition ref)
  unfold name
  rw [renamed.definition_eq, renamed.missing_eq, same]
  cases old : before.shape (before.definition ref) with
  | moduleDef name =>
      right
      rw [old] at same
      have qualified := renamed.qualifiedName (before.definition ref)
      rw [qualifiedName_moduleDef old, qualifiedName_moduleDef same] at qualified
      refine ⟨name, rfl, ?_⟩
      exact qualified
  | _ => exact Or.inl rfl

/-- What depends on a name only as far as it is a certain label, and that label stays in
its place, is the same for both programs. -/
theorem bind_name_eq (renamed : Renamed rename before after) {label : String}
    (keeps : Keeps rename [label]) (ref : Ref n) {β : Type} {next : Option String → Except Fault β}
    (blind : ∀ first second, (first = some label ↔ second = some label) →
      next first = next second) :
    (after.name ref).bind next = (before.name ref).bind next := by
  rcases renamed.name_cases ref with same | ⟨name, old, new⟩
  · rw [same]
  · rw [old, new]
    apply blind
    simpa using keeps.eq_iff name

end Renamed

end Graph

/-! ## Hierarchies -/

namespace Hierarchy

variable {rename : String → String} {before after : Graph n} {names : List String}

/-- Whether an entity has a wanted name does not depend on the renaming. -/
theorem map_wanted_renamed (renamed : Graph.Renamed rename before after)
    (keeps : Keeps rename names) (entity : Entity n) :
    (after.qualifiedName entity).map (wanted names) =
      (before.qualifiedName entity).map (wanted names) := by
  cases entity with
  | builtin type => rfl
  | node ref =>
      rw [renamed.qualifiedName]
      cases before.qualifiedName (.node ref) with
      | error fault => rfl
      | ok qualifiedName => exact congrArg Except.ok (keeps.wanted_map qualifiedName)

theorem leadsTo_renamed (renamed : Graph.Renamed rename before after) (keeps : Keeps rename names)
    (subject : Entity n) (search : Entity n → Except Fault Bool) (value : Entity n) :
    leadsTo after names subject search value = leadsTo before names subject search value := by
  have asked (graph : Graph n) : leadsTo graph names subject search value =
      ((graph.qualifiedName value).map (wanted names)).bind fun hit =>
        if hit then .ok true else if value = subject then .ok false else search value := by
    unfold leadsTo
    cases graph.qualifiedName value <;> rfl
  rw [asked, asked, map_wanted_renamed renamed keeps]

/-- A search for names that a renaming keeps does not notice the renaming. -/
theorem derivesFrom_renamed (renamed : Graph.Renamed rename before after)
    (keeps : Keeps rename names) (depth : Nat) (subject : Entity n) :
    derivesFrom after names depth subject = derivesFrom before names depth subject := by
  induction depth generalizing subject with
  | zero => rfl
  | succ depth ih =>
      have above : derivesFrom after names depth = derivesFrom before names depth := funext ih
      unfold derivesFrom
      rw [renamed.bases_eq, above]
      congr 1
      funext value
      exact leadsTo_renamed renamed keeps subject _ value

end Hierarchy

end FrameworkLint
