import FrameworkLint.Proofs.Hierarchy.Reachability
import FrameworkLint.Rule.Layer

/-!
# Access to sets of related objects

A relation gives the objects at its other end a member that is declared nowhere.  The gate for
such members closes if the access looks like one to a set of related objects and some value of
the object descends from a model or from a manager.  The check inside a closed gate does not run,
and nothing is asked about an access that does not look so.
-/

namespace FrameworkLint

open Fault Hierarchy

variable {n : Nat}

namespace Member

/-- The access looks like one to a set of related objects: the member is named like one of a
manager or like a set, or a member of a manager is read from it. -/
inductive SetAccess (graph : Graph n) (ref : Ref n) (name : String) : Prop
  | manager (listed : name ∈ Names.manager)
  | ending (ends : "_set".toList <:+ name.toList)
  | used {outer : Ref n} {outerName : String} {object : Option (Ref n)}
      (parent : graph.parent ref = some outer)
      (reads : graph.shape outer = .member outerName object) (listed : outerName ∈ Names.manager)

theorem usedAsManager_iff (graph : Graph n) (ref : Ref n) :
    usedAsManager graph ref = true ↔ ∃ outer name object, graph.parent ref = some outer ∧
      graph.shape outer = .member name object ∧ name ∈ Names.manager := by
  simp only [usedAsManager]
  cases graph.parent ref with
  | none => simp
  | some outer => cases shape : graph.shape outer <;> simp [shape]

theorem looksRelated_iff (graph : Graph n) (ref : Ref n) (name : String) :
    looksRelated graph ref (some name) = true ↔ SetAccess graph ref name := by
  simp only [looksRelated, Option.any_some, Bool.or_eq_true, List.contains_iff_mem, Text.ends_iff,
    usedAsManager_iff]
  constructor
  · rintro ((listed | ends) | ⟨outer, outerName, object, parent, reads, listed⟩)
    · exact .manager listed
    · exact .ending ends
    · exact .used parent reads listed
  · intro access
    cases access with
    | manager listed => exact Or.inl (Or.inl listed)
    | ending ends => exact Or.inl (Or.inr ends)
    | used parent reads listed => exact Or.inr ⟨_, _, _, parent, reads, listed⟩

/-- Some value of the object descends from a model or from a manager. -/
def HasRelatedOwner (graph : Graph n) (object : Option (Ref n)) : Prop :=
  ∃ receiver values, object = some receiver ∧ graph.inferred receiver = .ok values ∧
    ∃ value ∈ values, HasAncestor graph relatedOwners (.node value)

theorem relatedSetPasses_of_other {settings : Settings} {graph : Graph n} {ref : Ref n}
    {name : String} {object : Option (Ref n)} (access : graph.shape ref = .member name object)
    (other : ¬ SetAccess graph ref name) : relatedSetPasses settings graph ref = .ok true := by
  simp only [relatedSetPasses, Graph.memberName, access, Except.bind]
  rw [if_neg fun looks => other ((looksRelated_iff graph ref name).mp looks)]

/-- What the gate says of an access that looks like one to a set of related objects. -/
theorem hasRelatedOwner_iff_of_passes {settings : Settings} {graph : Graph n} {ref : Ref n}
    {name : String} {object : Option (Ref n)} {passes : Bool}
    (access : graph.shape ref = .member name object) (related : SetAccess graph ref name)
    (asked : relatedSetPasses settings graph ref = .ok passes) :
    HasRelatedOwner graph object ↔ passes = false := by
  simp only [relatedSetPasses, Graph.memberName, Graph.object?, access, Except.bind,
    (looksRelated_iff graph ref name).mpr related, if_true] at asked
  cases object with
  | none => cases asked
  | some receiver =>
      cases known : graph.inferred receiver with
      | error fault =>
          -- Without known values the gate stays open.
          simp only [known] at asked
          split at asked
          · cases asked
            simp [HasRelatedOwner, known]
          · cases asked
      | ok values =>
          simp only [known] at asked
          obtain ⟨derives, searched, same⟩ := exists_of_map_ok asked
          have found : (∃ value ∈ values, HasAncestor graph relatedOwners (.node value)) ↔
              derives = true := exists_iff_of_anyM_ok hasAncestor_iff searched
          rw [← same, Bool.not_eq_false', ← found]
          simp [HasRelatedOwner, known]

theorem relatedSetPasses_false_iff {settings : Settings} {graph : Graph n} {ref : Ref n}
    {name : String} {object : Option (Ref n)} {passes : Bool}
    (access : graph.shape ref = .member name object)
    (asked : relatedSetPasses settings graph ref = .ok passes) :
    passes = false ↔ SetAccess graph ref name ∧ HasRelatedOwner graph object := by
  by_cases related : SetAccess graph ref name
  · rw [← hasRelatedOwner_iff_of_passes access related asked]
    exact (and_iff_right related).symm
  · rw [relatedSetPasses_of_other access related] at asked
    cases asked
    exact iff_of_false nofun fun both => related both.1

end Member

namespace Rule

open Member

/-- A check behind a single gate runs once or not at all. -/
theorem run_gate (settings : Settings) (graph : Graph n) (ref : Ref n) (raised : List String)
    (gate : Gate) :
    run settings graph ref raised [.gate gate] =
      (gate.passes settings graph ref).map fun passes =>
        if passes then ⟨1, raised⟩ else ⟨0, []⟩ := by
  simp only [run]
  cases gate.passes settings graph ref with
  | error fault => rfl
  | ok passes => cases passes <;> rfl

/-- A check behind the gate for sets of related objects runs at most once.  It does not run
exactly if the access looks like one to such a set and some value of the object descends from a
model or from a manager.  An access that does not look so is checked, whatever its object is. -/
theorem relatedSet_runs (settings : Settings) (graph : Graph n) (ref : Ref n) (name : String)
    (object : Option (Ref n)) (access : graph.shape ref = .member name object)
    (raised : List String) :
    (∀ report, run settings graph ref raised [.gate .relatedSet] = .ok report →
      report.runs ≤ 1 ∧
      (report.runs = 0 ↔ SetAccess graph ref name ∧
        ∃ receiver values, object = some receiver ∧ graph.inferred receiver = .ok values ∧
          ∃ value ∈ values, ∃ ancestor, Relation.TransGen (Edge graph) (.node value) ancestor ∧
            ∃ owner ∈ ["django.db.models.manager.Manager", "django.db.models.base.Model", ".Model"],
              graph.qualifiedName ancestor = .ok (some owner))) ∧
    (¬ SetAccess graph ref name →
      run settings graph ref raised [.gate .relatedSet] = .ok ⟨1, raised⟩) := by
  rw [run_gate]
  constructor
  · intro report ran
    obtain ⟨passes, asked, same⟩ := exists_of_map_ok ran
    have closed := relatedSetPasses_false_iff access asked
    rw [← same]
    cases passes with
    | true => exact ⟨Nat.le_refl 1, iff_of_false nofun fun both => nomatch closed.mpr both⟩
    | false => exact ⟨Nat.zero_le 1, iff_of_true rfl (closed.mp rfl)⟩
  · intro other
    have passes : Gate.relatedSet.passes settings graph ref = .ok true :=
      relatedSetPasses_of_other access other
    rw [passes]
    rfl

/-- An access to a member of an object of a model. -/
def namedAccess (name : String) : Graph 6 where
  node
    | 0 => { shape := .member name (some 1) }
    | 1 => { shape := .usedName "article", inference := { values := [2], fault := none } }
    | 2 => { shape := .instanceOf 3 false }
    | 3 => { shape := .classDef { name := "Article", bases := some [4] } }
    | 4 => { shape := .usedName "Model", inference := { values := [5], fault := none } }
    | 5 => { shape := .classDef { name := "Model", qualifiedName := some ".Model" } }

theorem namedAccess_runs :
    (run {} (namedAccess "comment_set") 0 ["E1101"] [.gate .relatedSet] = .ok ⟨0, []⟩ ∧
      SetAccess (namedAccess "comment_set") 0 "comment_set" ∧
      HasRelatedOwner (namedAccess "comment_set") (some 1)) ∧
    (¬ SetAccess (namedAccess "title") 0 "title" ∧
      run {} (namedAccess "title") 0 ["E1101"] [.gate .relatedSet] = .ok ⟨1, ["E1101"]⟩) := by
  have closed : run {} (namedAccess "comment_set") 0 ["E1101"] [.gate .relatedSet] =
      .ok ⟨0, []⟩ := rfl
  have other : ¬ SetAccess (namedAccess "title") 0 "title" := by
    rw [← looksRelated_iff]
    decide
  obtain ⟨counted, _⟩ := relatedSet_runs {} (namedAccess "comment_set") 0 _ _ rfl ["E1101"]
  obtain ⟨_, checked⟩ := relatedSet_runs {} (namedAccess "title") 0 _ _ rfl ["E1101"]
  exact ⟨⟨closed, (counted _ closed).2.mp rfl⟩, other, checked other⟩

end Rule

end FrameworkLint
