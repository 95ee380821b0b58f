import FrameworkLint.Member.Access
import FrameworkLint.Proofs.Hierarchy.Reachability
import Mathlib.Logic.Function.Basic

/-!
# Owners of provided members

A class that the framework gives a member to owns it, and so does everything that descends from
the class.  The test for a provided member asks two questions about each value of the object:
whether something above it has the name of an owner, and whether it has such a name itself.
Together they decide whether the value belongs to the owners.  A class, its instances and the
object through which it reaches its bases all belong to the same owners.
-/

namespace FrameworkLint

open Fault

variable {n : Nat}

/-! ## Descendants of the owners, the owners included -/

namespace Hierarchy

/-- The entity itself, or something above it, goes by one of the names. -/
def Owned (graph : Graph n) (names : List String) (subject : Entity n) : Prop :=
  ∃ owner, Relation.ReflTransGen (Edge graph) subject owner ∧ Named graph names owner

theorem owned_iff (graph : Graph n) (names : List String) (subject : Entity n) :
    Owned graph names subject ↔ HasAncestor graph names subject ∨ Named graph names subject := by
  constructor
  · rintro ⟨owner, path, named⟩
    rcases Relation.reflTransGen_iff_eq_or_transGen.mp path with same | above
    · rw [same] at named
      exact Or.inr named
    · exact Or.inl ⟨owner, above, named⟩
  · rintro (⟨owner, above, named⟩ | named)
    · exact ⟨owner, above.to_reflTransGen, named⟩
    · exact ⟨subject, .refl, named⟩

/-- Entities with the same bases have the same ancestors. -/
theorem hasAncestor_congr {graph : Graph n} {first second : Entity n}
    (same : graph.bases first = graph.bases second) (names : List String) :
    HasAncestor graph names first ↔ HasAncestor graph names second := by
  simp only [HasAncestor, Above, Relation.TransGen.head'_iff, edge_iff, same]

end Hierarchy

namespace Graph

theorem bases_of_instance {graph : Graph n} {value type : Ref n} {callable : Bool}
    {info : ClassInfo n} (isInstance : graph.shape value = .instanceOf type callable)
    (isClass : graph.shape type = .classDef info) :
    graph.bases (.node value) = graph.bases (.node type) := by
  simp only [bases, classInfo?, classDef?, isInstance, isClass]

theorem qualifiedName_of_instance {graph : Graph n} {value type : Ref n} {callable : Bool}
    {info : ClassInfo n} (isInstance : graph.shape value = .instanceOf type callable)
    (isClass : graph.shape type = .classDef info) :
    graph.qualifiedName (.node value) = graph.qualifiedName (.node type) := by
  simp only [qualifiedName, definition, isInstance, isClass, Shape.builtin?]

theorem receiver_of_member {graph : Graph n} {ref : Ref n} {name : String}
    {object : Option (Ref n)} (access : graph.shape ref = .member name object) (receiver : Ref n) :
    graph.receiver? ref = some receiver ↔
      object = some receiver ∧ graph.shape receiver ≠ .unknown := by
  simp only [receiver?, object?, access, Option.filter_eq_some_iff]
  refine and_congr_right fun _ => ?_
  cases graph.shape receiver <;> simp

end Graph

namespace Member

open Hierarchy

/-- A value that stands for a class: the class itself, an instance of it, or the object through
which it reaches its bases. -/
inductive StandsFor (graph : Graph n) (type : Ref n) : Ref n → Prop
  | itself : StandsFor graph type type
  | instanceOf {value : Ref n} {callable : Bool}
      (isInstance : graph.shape value = .instanceOf type callable) : StandsFor graph type value
  | superOf {value : Ref n} (isSuper : graph.shape value = .superOf type) :
      StandsFor graph type value

theorem owned_subject_iff {graph : Graph n} {type value : Ref n} {info : ClassInfo n}
    (isClass : graph.shape type = .classDef info) (stands : StandsFor graph type value)
    (owners : List String) :
    Owned graph owners (subject graph value) ↔ Owned graph owners (.node type) := by
  cases stands with
  | itself => simp only [subject, isClass]
  | instanceOf isInstance =>
      simp only [subject, isInstance, owned_iff, Named,
        Graph.qualifiedName_of_instance isInstance isClass,
        hasAncestor_congr (Graph.bases_of_instance isInstance isClass)]
  | superOf isSuper => simp only [subject, isSuper]

/-! ## The test for a provided member -/

theorem owned_iff_of_belongs {settings : Settings} {graph : Graph n} {owners : List String}
    {value : Ref n} {answer : Bool} (asked : belongs settings graph owners value = .ok answer) :
    Owned graph owners (subject graph value) ↔ answer = true := by
  obtain ⟨derives, searched, further⟩ := exists_of_bind_ok asked
  rw [owned_iff, hasAncestor_iff searched]
  cases derives with
  | true =>
      cases further
      exact iff_of_true (Or.inl rfl) rfl
  | false =>
      obtain ⟨qualifiedName, called, same⟩ := exists_of_map_ok further
      rw [← same, wanted_iff]
      simp only [Bool.false_eq_true, false_or, Named, called, Except.ok.injEq]

theorem belongs_settled (settings : Settings) (graph : Graph n) (owners : List String)
    (value : Ref n) : Settled (belongs settings graph owners value) := by
  apply (derivesFrom_settled graph owners settings.depth _).bind
  intro derives
  split
  · exact settled_ok true
  · exact (graph.qualifiedName_settled _).map _

/-- Some value of the expression belongs to the owners, and all values are known. -/
theorem exists_owned_iff_of_someBelongs {settings : Settings} {graph : Graph n}
    {owners : List String} {expression : Ref n} {answer : Bool}
    (asked : someBelongs settings graph owners expression = .ok answer) :
    (∃ values, graph.inferred expression = .ok values ∧
      ∃ value ∈ values, Owned graph owners (subject graph value)) ↔ answer = true := by
  have settled (values : List (Ref n)) : Settled (values.anyM (belongs settings graph owners)) :=
    Settled.anyM (belongs_settled settings graph owners) values
  rcases settle_bind_ok settled asked with ⟨values, known, searched⟩ | ⟨no, fault, unknown⟩
  · rw [← exists_iff_of_anyM_ok owned_iff_of_belongs searched]
    simp only [known, Except.ok.injEq, exists_eq_left']
  · simp only [unknown, no, reduceCtorEq, false_and, exists_false, Bool.false_eq_true]

/-- The member is one of the family, and some value of the object belongs to its owners. -/
theorem owned_iff_of_provided {settings : Settings} {graph : Graph n} {family : Family}
    {ref : Ref n} {name : String} {object : Option (Ref n)} {answer : Bool}
    (access : graph.shape ref = .member name object)
    (asked : provided settings graph family ref = .ok answer) :
    (name ∈ family.members ∧ ∃ receiver, object = some receiver ∧
      graph.shape receiver ≠ .unknown ∧ ∃ values, graph.inferred receiver = .ok values ∧
        ∃ value ∈ values, Owned graph family.owners (subject graph value)) ↔ answer = true := by
  simp only [provided, Graph.memberName, access, Except.bind, Option.any_some] at asked
  by_cases listed : name ∈ family.members
  · rw [if_pos (List.contains_iff_mem.mpr listed)] at asked
    cases received : graph.receiver? ref with
    | none =>
        rw [received] at asked
        cases asked
        refine iff_of_false ?_ Bool.false_ne_true
        rintro ⟨_, receiver, present, known, _⟩
        cases received.symm.trans ((Graph.receiver_of_member access receiver).mpr ⟨present, known⟩)
    | some receiver =>
        rw [received] at asked
        obtain ⟨present, known⟩ := (Graph.receiver_of_member access receiver).mp received
        rw [← exists_owned_iff_of_someBelongs asked]
        constructor
        · rintro ⟨_, other, again, _, owned⟩
          cases present.symm.trans again
          exact owned
        · intro owned
          exact ⟨listed, receiver, present, known, owned⟩
  · rw [if_neg fun contained => listed (List.contains_iff_mem.mp contained)] at asked
    cases asked
    exact iff_of_false (fun both => listed both.1) Bool.false_ne_true

/-- The test for a provided member decides whether the member is one of the family and some value
of the object is an owner or descends from one.  Hence, where it has an answer, it accepts every
value that stands for an owner or for a class that descends from one. -/
theorem provided_iff_owned (settings : Settings) (graph : Graph n) (family : Family) (ref : Ref n)
    (name : String) (object : Option (Ref n)) (access : graph.shape ref = .member name object)
    (answer : Bool) (returned : provided settings graph family ref = .ok answer) :
    (answer = true ↔
      name ∈ family.members ∧ ∃ receiver, object = some receiver ∧
        graph.shape receiver ≠ .unknown ∧ ∃ values, graph.inferred receiver = .ok values ∧
          ∃ value ∈ values, ∃ owner,
            Relation.ReflTransGen (Edge graph) (subject graph value) owner ∧
              ∃ label ∈ family.owners, graph.qualifiedName owner = .ok (some label)) ∧
    (∀ type info owner label, graph.shape type = .classDef info →
      Relation.ReflTransGen (Edge graph) (.node type) owner → label ∈ family.owners →
      graph.qualifiedName owner = .ok (some label) → name ∈ family.members →
      ∀ receiver values value, object = some receiver → graph.inferred receiver = .ok values →
        value ∈ values → StandsFor graph type value → answer = true) := by
  have decides := owned_iff_of_provided access returned
  refine ⟨decides.symm, ?_⟩
  intro type info owner label isClass path listed called member receiver values value present known
    found stands
  have visible : graph.shape receiver ≠ .unknown := by
    intro unknown
    simp only [Graph.inferred, unknown] at known
    cases known
  have owned : Owned graph family.owners (subject graph value) :=
    (owned_subject_iff isClass stands family.owners).mpr ⟨owner, path, label, listed, called⟩
  exact decides.mp ⟨member, receiver, present, visible, values, known, value, found, owned⟩

/-- An access to an object of a class two steps below a model, and one to what is above that
class. -/
def pageAccess : Graph 12 where
  node
    | 0 => { shape := .member "objects" (some 1) }
    | 1 => { shape := .usedName "article", inference := { values := [2], fault := none } }
    | 2 => { shape := .instanceOf 3 false }
    | 3 => { shape := .classDef { name := "Article", bases := some [4] } }
    | 4 => { shape := .usedName "Page", inference := { values := [5], fault := none } }
    | 5 => { shape := .classDef { name := "Page", bases := some [6] } }
    | 6 => { shape := .usedName "Model", inference := { values := [7], fault := none } }
    | 7 => { shape := .classDef { name := "Model", qualifiedName := some ".Model" } }
    | 8 => { shape := .member "objects" (some 9) }
    | 9 => { shape := .call (some 11) [], inference := { values := [10], fault := none } }
    | 10 => { shape := .superOf 3 }
    | 11 => { shape := .usedName "super" }

/-- The same with an access to the model class instead of the object. -/
def ownerAccess : Graph 12 where
  node := Function.update pageAccess.node 0 { shape := .member "objects" (some 6) }

/-- The object belongs to the models and not to the views, and the accesses to it, to what is
above its class and to the model class are accepted. -/
theorem pageAccess_decided :
    (provided {} pageAccess .model 0 = .ok true ∧
      ∃ value ∈ [2], Owned pageAccess Family.model.owners (subject pageAccess value)) ∧
    (provided {} pageAccess ⟨[".View"], ["objects"]⟩ 0 = .ok false ∧
      ¬ Owned pageAccess [".View"] (.node 2)) ∧
    (StandsFor pageAccess 3 10 ∧ provided {} pageAccess .model 8 = .ok true) ∧
    (StandsFor ownerAccess 7 7 ∧ provided {} ownerAccess .model 0 = .ok true) := by
  have accepted : provided {} pageAccess .model 0 = .ok true := rfl
  have rejected : provided {} pageAccess ⟨[".View"], ["objects"]⟩ 0 = .ok false := rfl
  obtain ⟨above, fromAbove⟩ : ∃ answer, provided {} pageAccess .model 8 = .ok answer := ⟨_, rfl⟩
  obtain ⟨onOwner, fromOwner⟩ : ∃ answer, provided {} ownerAccess .model 0 = .ok answer := ⟨_, rfl⟩
  refine ⟨⟨accepted, ?_⟩, ⟨rejected, ?_⟩, ⟨.superOf rfl, ?_⟩, .itself, ?_⟩
  · obtain ⟨_, receiver, present, _, values, known, owned⟩ :=
      (provided_iff_owned {} pageAccess .model 0 _ _ rfl true accepted).1.mp rfl
    cases present
    cases known
    exact owned
  · intro owned
    have visible : pageAccess.shape 1 ≠ .unknown := nofun
    have accepted := (provided_iff_owned {} pageAccess _ 0 _ _ rfl false rejected).1.mpr
      ⟨List.mem_cons_self, 1, rfl, visible, [2], rfl, 2, List.mem_cons_self, owned⟩
    cases accepted
  · have first : Edge pageAccess (.node 3) (.node 5) :=
      .stated rfl rfl List.mem_cons_self rfl List.mem_cons_self
    have second : Edge pageAccess (.node 5) (.node 7) :=
      .stated rfl rfl List.mem_cons_self rfl List.mem_cons_self
    rw [fromAbove, (provided_iff_owned {} pageAccess .model 8 _ _ rfl above fromAbove).2 3 _
      (.node 7) ".Model" rfl (.head first (.single second)) (by decide) rfl (by decide) 9 [10] 10
      rfl rfl List.mem_cons_self (.superOf rfl)]
  · rw [fromOwner, (provided_iff_owned {} ownerAccess .model 0 _ _ rfl onOwner fromOwner).2 7 _
      (.node 7) ".Model" rfl .refl (by decide) rfl (by decide) 6 [7] 7 rfl rfl List.mem_cons_self
      .itself]

end Member

end FrameworkLint
