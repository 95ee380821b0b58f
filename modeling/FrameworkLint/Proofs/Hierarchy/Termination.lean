import FrameworkLint.Proofs.Hierarchy.Reachability
import Mathlib.Data.List.Chain
import Mathlib.Data.Set.Card

/-!
# Where the search ends

The search does not enter an entity again from the entity itself, but it enters every longer
cycle.  This module says when it comes to an answer.  If no cycle through two or more
entities can be reached, a depth of one more than the number of ancestors is always enough.
If one can be reached and nothing with a wanted name can, no depth is enough, whatever the
order of the bases.
-/

namespace FrameworkLint

open Fault

variable {n : Nat}

/-! ## The number of entities -/

instance : Fintype Builtin where
  elems := {.object, .int, .bool, .float, .str, .noneType, .tuple, .list, .dict}
  complete type := by cases type <;> decide

/-- An entity is a node or a builtin class. -/
def Entity.equiv (n : Nat) : Entity n ≃ Ref n ⊕ Builtin where
  toFun
    | .node ref => .inl ref
    | .builtin type => .inr type
  invFun
    | .inl ref => .node ref
    | .inr type => .builtin type
  left_inv entity := by cases entity <;> rfl
  right_inv entity := by cases entity <;> rfl

instance : Fintype (Entity n) :=
  Fintype.ofEquiv _ (Entity.equiv n).symm

namespace Hierarchy

/-! ## Cycles -/

/-- The entity is the subject or above it. -/
abbrev Reaches (graph : Graph n) : Entity n → Entity n → Prop :=
  Relation.ReflTransGen (Edge graph)

/-- A cycle of two or more entities: edges lead from `start` over the others, which are all
different, and back to `start`. -/
structure CycleAt (graph : Graph n) (start : Entity n) (others : List (Entity n)) : Prop where
  long : others ≠ []
  distinct : (start :: others).Nodup
  closed : (start :: others ++ [start]).IsChain (Edge graph)

/-- A cycle of two or more entities is at the subject or above it. -/
def ReachesCycle (graph : Graph n) (subject : Entity n) : Prop :=
  ∃ start others, Reaches graph subject start ∧ CycleAt graph start others

/-- Without its detours a path back to `start` passes different entities. -/
theorem exists_distinct_of_reaches {graph : Graph n} {start next : Entity n}
    (back : Reaches graph next start) (away : next ≠ start) :
    ∃ others, others.head? = some next ∧ (start :: others).Nodup ∧
      (others ++ [start]).IsChain (Edge graph) := by
  induction back using Relation.ReflTransGen.head_induction_on with
  | refl => exact absurd rfl away
  | @head next further edge _ ih =>
      by_cases last : further = start
      · subst last
        exact ⟨[next], rfl, by simp [Ne.symm away], by simpa using edge⟩
      · obtain ⟨others, first, distinct, chain⟩ := ih last
        by_cases passed : next ∈ others
        · -- The path comes back to `next`, so the detour before that is left out.
          obtain ⟨before, after, split⟩ := List.append_of_mem passed
          subst split
          refine ⟨next :: after, rfl, ?_, ?_⟩
          · exact distinct.sublist ((List.sublist_append_right before _).cons_cons start)
          · rw [List.append_assoc] at chain
            exact chain.right_of_append
        · refine ⟨next :: others, rfl, ?_, ?_⟩
          · simp only [List.nodup_cons, List.mem_cons, not_or] at distinct ⊢
            exact ⟨⟨Ne.symm away, distinct.1⟩, passed, distinct.2⟩
          · obtain ⟨rest, split⟩ : ∃ rest, others = further :: rest := by
              cases others with
              | nil => cases first
              | cons _ rest => cases first; exact ⟨rest, rfl⟩
            subst split
            exact .cons_cons edge chain

/-- A cycle is an edge to another entity, and a path back from there. -/
theorem exists_cycleAt_iff (graph : Graph n) (start : Entity n) :
    (∃ others, CycleAt graph start others) ↔
      ∃ next, Edge graph start next ∧ next ≠ start ∧ Reaches graph next start := by
  constructor
  · rintro ⟨others, long, distinct, closed⟩
    cases others with
    | nil => exact absurd rfl long
    | cons next rest =>
        obtain ⟨edge, chain⟩ := List.isChain_cons_cons.mp closed
        refine ⟨next, edge, ?_, ?_⟩
        · intro same
          subst same
          simp at distinct
        · apply List.relationReflTransGen_of_exists_isChain_cons (rest ++ [start]) chain
          simp
  · rintro ⟨next, edge, away, back⟩
    obtain ⟨others, first, distinct, chain⟩ := exists_distinct_of_reaches back away
    cases others with
    | nil => cases first
    | cons _ rest =>
        cases first
        exact ⟨next :: rest, List.cons_ne_nil next rest, distinct, .cons_cons edge chain⟩

/-- Below a cycle there is always an edge that leads on and stays below it. -/
theorem ReachesCycle.step {graph : Graph n} {subject : Entity n}
    (reaches : ReachesCycle graph subject) :
    ∃ value, Edge graph subject value ∧ value ≠ subject ∧ ReachesCycle graph value := by
  obtain ⟨start, others, path, cycle⟩ := reaches
  induction path using Relation.ReflTransGen.head_induction_on with
  | refl =>
      obtain ⟨next, edge, away, back⟩ := (exists_cycleAt_iff graph start).mp ⟨others, cycle⟩
      exact ⟨next, edge, away, start, others, back, cycle⟩
  | @head subject value edge further ih =>
      -- An edge from the subject to itself is not followed; the rest of the path still leads
      -- to the cycle.
      by_cases again : value = subject
      · subst again
        exact ih
      · exact ⟨value, edge, again, start, others, further, cycle⟩

theorem ReachesCycle.of_edge {graph : Graph n} {subject value : Entity n}
    (edge : Edge graph subject value) (reaches : ReachesCycle graph value) :
    ReachesCycle graph subject := by
  obtain ⟨start, others, path, cycle⟩ := reaches
  exact ⟨start, others, .head edge path, cycle⟩

/-! ## Searches that can fail by their depth only -/

/-- Wherever the search comes from the subject, values are known or unresolved, and names
can be told. -/
structure Searchable (graph : Graph n) (subject : Entity n) : Prop where
  evaluated : ∀ entity, Reaches graph subject entity →
    ∀ fault, .error fault ∈ graph.bases entity → fault.isUnresolved = true
  called : ∀ entity, Above graph subject entity →
    ∃ qualifiedName, graph.qualifiedName entity = .ok qualifiedName

theorem Searchable.of_edge {graph : Graph n} {subject value : Entity n}
    (searchable : Searchable graph subject) (edge : Edge graph subject value) :
    Searchable graph value where
  evaluated entity path := searchable.evaluated entity (.head edge path)
  called entity path := searchable.called entity (.head edge path)

theorem someBase_error {examine : Entity n → Except Fault Bool}
    {bases : List (Except Fault (List (Entity n)))} {fault : Fault}
    (failed : someBase examine bases = .error fault) :
    (.error fault ∈ bases ∧ fault.isUnresolved = false) ∨
      ∃ values, .ok values ∈ bases ∧ ∃ value ∈ values, examine value = .error fault := by
  obtain ⟨base, listed, settled⟩ := exists_of_anyM_error failed
  obtain ⟨faulty, other⟩ := (settle_eq_error_iff _ fault).mp settled
  cases base with
  | error cause =>
      cases faulty
      exact Or.inl ⟨listed, other⟩
  | ok values => exact Or.inr ⟨values, listed, exists_of_anyM_error faulty⟩

theorem leadsTo_error {graph : Graph n} {names : List String} {subject value : Entity n}
    {search : Entity n → Except Fault Bool} {fault : Fault}
    (failed : leadsTo graph names subject search value = .error fault) :
    graph.qualifiedName value = .error fault ∨
      (value ≠ subject ∧ search value = .error fault) := by
  unfold leadsTo at failed
  cases called : graph.qualifiedName value with
  | error cause =>
      rw [called] at failed
      cases failed
      exact Or.inl rfl
  | ok qualifiedName =>
      rw [called] at failed
      dsimp only [Except.bind] at failed
      split at failed
      · cases failed
      · split at failed
        · cases failed
        · next away => exact Or.inr ⟨away, failed⟩

/-- One level of a search that fails: the fault comes from a search further up. -/
theorem Searchable.step {graph : Graph n} {subject : Entity n}
    (searchable : Searchable graph subject) {names : List String} {depth : Nat} {fault : Fault}
    (failed : derivesFrom graph names (depth + 1) subject = .error fault) :
    ∃ value, Edge graph subject value ∧ value ≠ subject ∧
      derivesFrom graph names depth value = .error fault := by
  rcases someBase_error failed with ⟨listed, other⟩ | ⟨values, listed, value, member, faulty⟩
  · have unresolved := searchable.evaluated subject .refl fault listed
    rw [other] at unresolved
    cases unresolved
  · have edge := (edge_iff graph subject value).mpr ⟨values, listed, member⟩
    rcases leadsTo_error faulty with uncalled | ⟨away, further⟩
    · obtain ⟨qualifiedName, called⟩ := searchable.called value (.single edge)
      cases uncalled.symm.trans called
    · exact ⟨value, edge, away, further⟩

theorem Searchable.eq_tooDeep {graph : Graph n} {subject : Entity n}
    (searchable : Searchable graph subject) {names : List String} {depth : Nat} {fault : Fault}
    (failed : derivesFrom graph names depth subject = .error fault) : fault = .tooDeep := by
  induction depth generalizing subject with
  | zero => exact (Except.error.inj failed).symm
  | succ depth ih =>
      obtain ⟨value, edge, _, further⟩ := searchable.step failed
      exact ih (searchable.of_edge edge) further

/-! ## Enough depth -/

/-- The entities above the subject. -/
def ancestors (graph : Graph n) (subject : Entity n) : Set (Entity n) :=
  {entity | Above graph subject entity}

/-- Without cycles an ancestor has fewer ancestors besides itself.  A class that is its own
base is among its ancestors, so the whole sets can be equal. -/
theorem ncard_ancestors_lt {graph : Graph n} {subject value : Entity n}
    (noCycle : ¬ ReachesCycle graph subject) (edge : Edge graph subject value)
    (away : value ≠ subject) :
    (ancestors graph value \ {value}).ncard < (ancestors graph subject \ {subject}).ncard := by
  refine Set.ncard_lt_ncard ⟨?_, ?_⟩ (Set.toFinite _)
  · rintro entity ⟨path, _⟩
    refine ⟨.head edge path, ?_⟩
    rintro rfl
    obtain ⟨others, cycle⟩ :=
      (exists_cycleAt_iff graph entity).mpr ⟨value, edge, away, path.to_reflTransGen⟩
    exact noCycle ⟨entity, others, .refl, cycle⟩
  · intro contained
    exact (contained ⟨.single edge, away⟩).2 rfl

theorem Searchable.exists_answer {graph : Graph n} {subject : Entity n}
    (searchable : Searchable graph subject) (noCycle : ¬ ReachesCycle graph subject)
    (names : List String) {depth : Nat}
    (enough : (ancestors graph subject \ {subject}).ncard < depth) :
    ∃ answer, derivesFrom graph names depth subject = .ok answer := by
  -- With each level the depth goes down by one, and the number of other ancestors by at least
  -- one.
  induction depth generalizing subject with
  | zero => exact absurd enough (Nat.not_lt_zero _)
  | succ depth ih =>
      cases outcome : derivesFrom graph names (depth + 1) subject with
      | ok answer => exact ⟨answer, rfl⟩
      | error fault =>
          obtain ⟨value, edge, away, failed⟩ := searchable.step outcome
          have fewer := ncard_ancestors_lt noCycle edge away
          obtain ⟨answer, returned⟩ := ih (searchable.of_edge edge)
            (fun reaches => noCycle (reaches.of_edge edge))
            (Nat.lt_of_lt_of_le fewer (Nat.le_of_lt_succ enough))
          cases failed.symm.trans returned

/-! ## No depth is enough -/

/-- A search that answers no has not met a cycle: it enters every edge that leads on, and
from below a cycle some edge leads on without end. -/
theorem not_reachesCycle_of_derivesFrom_false {graph : Graph n} {names : List String}
    {depth : Nat} {subject : Entity n}
    (missed : derivesFrom graph names depth subject = .ok false) :
    ¬ ReachesCycle graph subject := by
  induction depth generalizing subject with
  | zero => cases missed
  | succ depth ih =>
      intro reaches
      obtain ⟨value, edge, away, further⟩ := reaches.step
      rcases (edge_of_derivesFrom_false missed edge).2 with again | above
      · exact away again
      · exact ih above further

/-! ## Hierarchies that can be listed -/

/-- A list of entities has everything that its members reach, their names can be told, and
the values of their bases are known or unresolved. -/
def covers (graph : Graph n) (entities : List (Entity n)) : Bool :=
  entities.all fun entity =>
    (graph.qualifiedName entity).isOk && (graph.bases entity).all fun base =>
      match base with
      | .ok values => values.all entities.contains
      | .error fault => fault.isUnresolved

theorem covers_iff (graph : Graph n) (entities : List (Entity n)) :
    covers graph entities = true ↔ ∀ entity ∈ entities,
      (∃ qualifiedName, graph.qualifiedName entity = .ok qualifiedName) ∧
      (∀ value, Edge graph entity value → value ∈ entities) ∧
      (∀ fault, .error fault ∈ graph.bases entity → fault.isUnresolved = true) := by
  unfold covers
  rw [List.all_eq_true]
  refine forall₂_congr fun entity _ => ?_
  rw [Bool.and_eq_true, List.all_eq_true]
  refine and_congr ?_ ?_
  · cases graph.qualifiedName entity with
    | error fault => simp [Except.isOk, Except.toBool]
    | ok qualifiedName => simp [Except.isOk, Except.toBool]
  · constructor
    · intro each
      refine ⟨?_, fun fault listed => each _ listed⟩
      intro value edge
      obtain ⟨values, listed, found⟩ := (edge_iff graph entity value).mp edge
      exact List.contains_iff_mem.mp (List.all_eq_true.mp (each _ listed) value found)
    · rintro ⟨upward, unresolved⟩ base listed
      cases base with
      | error fault => exact unresolved fault listed
      | ok values =>
          refine List.all_eq_true.mpr fun value found => List.contains_iff_mem.mpr ?_
          exact upward value ((edge_iff graph entity value).mpr ⟨values, listed, found⟩)

theorem mem_of_covers {graph : Graph n} {entities : List (Entity n)} {subject entity : Entity n}
    (covered : covers graph entities = true) (member : subject ∈ entities)
    (path : Reaches graph subject entity) : entity ∈ entities := by
  induction path with
  | refl => exact member
  | tail _ edge ih => exact ((covers_iff graph entities).mp covered _ ih).2.1 _ edge

theorem searchable_of_covers {graph : Graph n} {entities : List (Entity n)} {subject : Entity n}
    (covered : covers graph entities = true) (member : subject ∈ entities) :
    Searchable graph subject where
  evaluated entity path :=
    ((covers_iff graph entities).mp covered entity (mem_of_covers covered member path)).2.2
  called entity path :=
    ((covers_iff graph entities).mp covered entity
      (mem_of_covers covered member path.to_reflTransGen)).1

theorem ncard_ancestors_le {graph : Graph n} {entities : List (Entity n)} {subject : Entity n}
    (covered : covers graph entities = true) (member : subject ∈ entities) :
    (ancestors graph subject).ncard ≤ entities.length := by
  have contained : ancestors graph subject ⊆ entities.toFinset := by
    intro entity path
    rw [List.coe_toFinset]
    exact mem_of_covers covered member path.to_reflTransGen
  calc (ancestors graph subject).ncard
      ≤ (entities.toFinset : Set (Entity n)).ncard := Set.ncard_le_ncard contained
    _ = entities.toFinset.card := Set.ncard_coe_finset _
    _ ≤ entities.length := List.toFinset_card_le entities

/-! ## When the search ends -/

/-- The search comes to an answer if no cycle of two or more entities can be reached and the
depth exceeds the number of ancestors.  If such a cycle can be reached, but no entity with
a wanted name, it ends at the limit, whatever the depth. -/
theorem derivesFrom_ends (graph : Graph n) (subject : Entity n)
    (searchable : Searchable graph subject) :
    (¬ ReachesCycle graph subject → ∀ (names : List String) (depth : Nat),
      (ancestors graph subject).ncard + 1 ≤ depth →
        ∃ answer, derivesFrom graph names depth subject = .ok answer) ∧
    (ReachesCycle graph subject → ∀ names : List String,
      (∀ entity ∈ ancestors graph subject, ¬ Named graph names entity) →
        ∀ depth, derivesFrom graph names depth subject = .error .tooDeep) := by
  constructor
  · intro noCycle names depth enough
    apply searchable.exists_answer noCycle names
    have others : (ancestors graph subject \ {subject}).ncard ≤ (ancestors graph subject).ncard :=
      Set.ncard_le_ncard Set.sdiff_subset
    omega
  · intro reaches names unnamed depth
    cases outcome : derivesFrom graph names depth subject with
    | error fault => rw [searchable.eq_tooDeep outcome]
    | ok answer =>
        cases answer with
        | true =>
            obtain ⟨ancestor, path, named⟩ := exists_above_of_derivesFrom outcome
            exact absurd named (unnamed ancestor path)
        | false => exact absurd reaches (not_reachesCycle_of_derivesFrom_false outcome)

/-- A class below a class that has itself as a base and, through a third class, itself once
more. -/
def circularPage : Graph 9 where
  node
    | 0 => { shape := .classDef { name := "Article", bases := some [1, 2] } }
    | 1 => { shape := .usedName "Missing" }
    | 2 => { shape := .usedName "Page", inference := { values := [3], fault := none } }
    | 3 => { shape := .classDef { name := "Page", bases := some [4, 5] } }
    | 4 => { shape := .usedName "Page", inference := { values := [3], fault := none } }
    | 5 => { shape := .usedName "Base", inference := { values := [6], fault := none } }
    | 6 => { shape := .classDef { name := "Base", bases := some [7] } }
    | 7 => { shape := .usedName "Mixed", inference := { values := [8, 3], fault := none } }
    | 8 => { shape := .classDef { name := "Mixin", qualifiedName := some ".Mixin" } }

theorem circularPage_cycle : CycleAt circularPage (.node 3) [.node 6] where
  long := by decide
  distinct := by decide
  closed := by
    have upward : Edge circularPage (.node 3) (.node 6) :=
      .stated rfl rfl (List.mem_cons_of_mem 4 List.mem_cons_self) rfl List.mem_cons_self
    have back : Edge circularPage (.node 6) (.node 3) :=
      .stated rfl rfl List.mem_cons_self rfl (List.mem_cons_of_mem 8 List.mem_cons_self)
    exact .cons_cons upward (.cons_cons back (.singleton _))

/-- A base that is the class itself does no harm, a base that leads back to the class does. -/
theorem pageHierarchy_ends :
    (Searchable pageHierarchy (.node 0) ∧ ¬ ReachesCycle pageHierarchy (.node 0) ∧
      ∃ answer, derivesFrom pageHierarchy [".View"] 4 (.node 0) = .ok answer) ∧
    (Searchable circularPage (.node 0) ∧ ReachesCycle circularPage (.node 0) ∧
      ∀ depth, derivesFrom circularPage [".View"] depth (.node 0) = .error .tooDeep) := by
  have pages : covers pageHierarchy [.node 0, .node 4, .node 6] = true := by decide
  have circle : covers circularPage [.node 0, .node 3, .node 6, .node 8] = true := by decide
  have pagesSearchable := searchable_of_covers pages List.mem_cons_self
  have circleSearchable := searchable_of_covers circle List.mem_cons_self
  have missed : derivesFrom pageHierarchy [".View"] 3 (.node 0) = .ok false := rfl
  have noCycle := not_reachesCycle_of_derivesFrom_false missed
  have upward : Edge circularPage (.node 0) (.node 3) :=
    .stated rfl rfl (List.mem_cons_of_mem 1 List.mem_cons_self) rfl List.mem_cons_self
  have cycle : ReachesCycle circularPage (.node 0) :=
    ⟨_, _, .single upward, circularPage_cycle⟩
  have unnamed : ∀ entity ∈ ancestors circularPage (.node 0),
      ¬ Named circularPage [".View"] entity := by
    rintro entity path ⟨name, sought, called⟩
    have others : ∀ entity ∈ [.node 0, .node 3, .node 6, .node 8],
        circularPage.qualifiedName entity ≠ .ok (some ".View") := by decide
    rw [List.mem_singleton.mp sought] at called
    exact others entity (mem_of_covers circle List.mem_cons_self path.to_reflTransGen) called
  refine ⟨⟨pagesSearchable, noCycle, ?_⟩, circleSearchable, cycle, ?_⟩
  · exact (derivesFrom_ends _ _ pagesSearchable).1 noCycle [".View"] 4
      (Nat.succ_le_succ (ncard_ancestors_le pages List.mem_cons_self))
  · exact (derivesFrom_ends _ _ circleSearchable).2 cycle [".View"] unnamed

end Hierarchy

end FrameworkLint
