import FrameworkLint.Hierarchy
import FrameworkLint.Proofs.Graph.Settled
import Mathlib.Logic.Relation

/-!
# The search finds the ancestors

The search through a hierarchy follows edges depth first.  It remembers nothing of what
it saw, it does not follow an edge from an entity to itself, and it ends at the first
hit.  Nevertheless a yes means that an ancestor with a wanted name exists, and a no means
that there is none.  The remaining outcome is a fault.
-/

namespace FrameworkLint.Hierarchy

open Fault

variable {n : Nat}

/-- The entity goes by one of the names. -/
def Named (graph : Graph n) (names : List String) (entity : Entity n) : Prop :=
  ∃ name ∈ names, graph.qualifiedName entity = .ok (some name)

/-- One entity is above another one, by at least one edge. -/
def Above (graph : Graph n) : Entity n → Entity n → Prop :=
  Relation.TransGen (Edge graph)

/-! ## Edges and the values of bases -/

theorem mem_builtinBases_iff (type : Builtin) (values : List (Entity n)) :
    .ok values ∈ Graph.builtinBases (n := n) type ↔
      ∃ base, type.base? = some base ∧ values = [.builtin base] := by
  unfold Graph.builtinBases
  cases type.base? with
  | none => simp
  | some base => simp

theorem mem_classBases_iff (graph : Graph n) (info : ClassInfo n) (values : List (Entity n)) :
    .ok values ∈ graph.classBases info ↔
      ∃ bases, info.bases = some bases ∧ ∃ base ∈ bases, ∃ refs,
        graph.inferred base = .ok refs ∧ values = refs.map .node := by
  unfold Graph.classBases
  cases info.bases with
  | none => simp
  | some bases =>
      rw [Option.getD_some, List.mem_map]
      constructor
      · rintro ⟨base, member, evaluated⟩
        cases known : graph.inferred base with
        | error fault => rw [known] at evaluated; cases evaluated
        | ok refs =>
            rw [known] at evaluated
            cases evaluated
            exact ⟨bases, rfl, base, member, refs, known, rfl⟩
      · rintro ⟨_, same, base, member, refs, known, shape⟩
        cases same
        refine ⟨base, member, ?_⟩
        rw [known, shape]
        rfl

/-- An edge leads to each value of each base whose values are known, and nowhere else. -/
theorem edge_iff (graph : Graph n) (lower upper : Entity n) :
    Edge graph lower upper ↔ ∃ values, .ok values ∈ graph.bases lower ∧ upper ∈ values := by
  constructor
  · intro edge
    cases edge with
    | stated isClass listed member known found =>
        refine ⟨_, ?_, List.mem_map_of_mem found⟩
        unfold Graph.bases
        dsimp only
        rw [isClass]
        exact (mem_classBases_iff graph _ _).mpr ⟨_, listed, _, member, _, known, rfl⟩
    | @display lower type base isDisplay direct =>
        have noClass : graph.classInfo? lower = none := by
          unfold Graph.classInfo?
          split
          · next isClass => rw [isClass] at isDisplay; cases isDisplay
          · next isInstance => rw [isInstance] at isDisplay; cases isDisplay
          · rfl
        refine ⟨[.builtin base], ?_, List.mem_singleton_self _⟩
        unfold Graph.bases
        dsimp only
        rw [noClass, isDisplay]
        exact (mem_builtinBases_iff type _).mpr ⟨base, direct, rfl⟩
    | @builtin type base direct =>
        refine ⟨[.builtin base], ?_, List.mem_singleton_self _⟩
        exact (mem_builtinBases_iff type _).mpr ⟨base, direct, rfl⟩
  · rintro ⟨values, listed, found⟩
    cases lower with
    | builtin type =>
        obtain ⟨base, direct, shape⟩ := (mem_builtinBases_iff type values).mp listed
        rw [shape, List.mem_singleton] at found
        rw [found]
        exact .builtin direct
    | node lower =>
        unfold Graph.bases at listed
        dsimp only at listed
        split at listed
        · next info isClass =>
            obtain ⟨bases, known, base, member, refs, evaluated, shape⟩ :=
              (mem_classBases_iff graph info values).mp listed
            rw [shape, List.mem_map] at found
            obtain ⟨ref, present, same⟩ := found
            rw [← same]
            exact .stated isClass known member evaluated present
        · next type _ isDisplay =>
            obtain ⟨base, direct, shape⟩ := (mem_builtinBases_iff type values).mp listed
            rw [shape, List.mem_singleton] at found
            rw [found]
            exact .display isDisplay direct
        · cases listed

/-! ## One step of the search -/

theorem someBase_settled (examine : Entity n → Except Fault Bool)
    (bases : List (Except Fault (List (Entity n)))) : Settled (someBase examine bases) :=
  Settled.anyM (fun _ => settled_settle _) bases

theorem someBase_true {examine : Entity n → Except Fault Bool}
    {bases : List (Except Fault (List (Entity n)))} (found : someBase examine bases = .ok true) :
    ∃ values, .ok values ∈ bases ∧ ∃ value ∈ values, examine value = .ok true := by
  obtain ⟨base, listed, settled⟩ := exists_of_anyM_true found
  have yes := (settle_eq_true_iff _).mp settled
  cases base with
  | error fault => cases yes
  | ok values => exact ⟨values, listed, exists_of_anyM_true yes⟩

/-- A search that is never ended by an unknown value has examined every value of every
base when it answers no. -/
theorem someBase_false {examine : Entity n → Except Fault Bool}
    (settled : ∀ value, Settled (examine value))
    {bases : List (Except Fault (List (Entity n)))} (missed : someBase examine bases = .ok false)
    {values : List (Entity n)} (listed : .ok values ∈ bases) {value : Entity n}
    (member : value ∈ values) : examine value = .ok false := by
  have each := (anyM_false_iff _ bases).mp missed (.ok values) listed
  change settle (values.anyM examine) = .ok false at each
  rw [settle_eq_self (Settled.anyM settled values)] at each
  exact (anyM_false_iff examine values).mp each value member

/-- What an answer about one value of a base says: the value has a wanted name, or it does
not and the answer comes from above it, where the subject itself is not entered again. -/
theorem leadsTo_ok {graph : Graph n} {names : List String} {subject value : Entity n}
    {search : Entity n → Except Fault Bool} {answer : Bool}
    (reached : leadsTo graph names subject search value = .ok answer) :
    (Named graph names value ∧ answer = true) ∨
      (¬ Named graph names value ∧
        ((value = subject ∧ answer = false) ∨
          (value ≠ subject ∧ search value = .ok answer))) := by
  unfold leadsTo at reached
  cases called : graph.qualifiedName value with
  | error fault => rw [called] at reached; cases reached
  | ok qualifiedName =>
      rw [called] at reached
      dsimp only [Except.bind] at reached
      split at reached
      · next hit =>
          obtain ⟨name, member, same⟩ := (wanted_iff names qualifiedName).mp hit
          exact Or.inl ⟨⟨name, member, by rw [called, same]⟩, (Except.ok.inj reached).symm⟩
      · next noHit =>
          have unnamed : ¬ Named graph names value := by
            rintro ⟨name, member, named⟩
            rw [called] at named
            cases named
            exact noHit ((wanted_iff names (some name)).mpr ⟨name, member, rfl⟩)
          refine Or.inr ⟨unnamed, ?_⟩
          split at reached
          · next again => exact Or.inl ⟨again, (Except.ok.inj reached).symm⟩
          · next away => exact Or.inr ⟨away, reached⟩

theorem leadsTo_settled (graph : Graph n) (names : List String) (subject : Entity n)
    {search : Entity n → Except Fault Bool} (settled : ∀ value, Settled (search value))
    (value : Entity n) : Settled (leadsTo graph names subject search value) := by
  apply (graph.qualifiedName_settled value).bind
  intro qualifiedName
  split
  · exact settled_ok true
  · split
    · exact settled_ok false
    · exact settled value

/-! ## The whole search -/

theorem derivesFrom_settled (graph : Graph n) (names : List String) (depth : Nat)
    (subject : Entity n) : Settled (derivesFrom graph names depth subject) := by
  cases depth with
  | zero => exact settled_error rfl
  | succ depth => exact someBase_settled _ _

theorem exists_above_of_derivesFrom {graph : Graph n} {names : List String} {depth : Nat}
    {subject : Entity n} (found : derivesFrom graph names depth subject = .ok true) :
    ∃ ancestor, Above graph subject ancestor ∧ Named graph names ancestor := by
  induction depth generalizing subject with
  | zero => cases found
  | succ depth ih =>
      obtain ⟨values, listed, value, member, hit⟩ := someBase_true found
      have edge := (edge_iff graph subject value).mpr ⟨values, listed, member⟩
      rcases leadsTo_ok hit with ⟨named, _⟩ | ⟨_, ⟨_, impossible⟩ | ⟨_, further⟩⟩
      · exact ⟨value, .single edge, named⟩
      · cases impossible
      · obtain ⟨ancestor, path, named⟩ := ih further
        exact ⟨ancestor, .head edge path, named⟩

/-- What one level of a search that answers no says about the direct bases. -/
theorem edge_of_derivesFrom_false {graph : Graph n} {names : List String} {depth : Nat}
    {subject value : Entity n} (missed : derivesFrom graph names (depth + 1) subject = .ok false)
    (edge : Edge graph subject value) :
    ¬ Named graph names value ∧
      (value = subject ∨ derivesFrom graph names depth value = .ok false) := by
  obtain ⟨values, listed, member⟩ := (edge_iff graph subject value).mp edge
  have settled := leadsTo_settled graph names subject (derivesFrom_settled graph names depth)
  rcases leadsTo_ok (someBase_false settled missed listed member) with
    ⟨_, impossible⟩ | ⟨unnamed, ⟨again, _⟩ | ⟨_, above⟩⟩
  · cases impossible
  · exact ⟨unnamed, Or.inl again⟩
  · exact ⟨unnamed, Or.inr above⟩

theorem not_named_of_derivesFrom_false {graph : Graph n} {names : List String} {depth : Nat}
    {subject ancestor : Entity n} (missed : derivesFrom graph names depth subject = .ok false)
    (path : Above graph subject ancestor) : ¬ Named graph names ancestor := by
  induction depth generalizing subject with
  | zero => cases missed
  | succ depth ih =>
      -- A path may pass the edge from the subject to itself any number of times before it
      -- leaves; the inner induction strips these passes one by one.
      suffices stripped : ∀ start, Above graph start ancestor → start = subject →
          ¬ Named graph names ancestor from stripped subject path rfl
      intro start way
      induction way using Relation.TransGen.head_induction_on with
      | single edge =>
          intro same
          cases same
          exact (edge_of_derivesFrom_false missed edge).1
      | head edge further again =>
          intro same
          cases same
          rcases (edge_of_derivesFrom_false missed edge).2 with back | above
          · exact again back
          · exact ih above further

/-! ## Answers about ancestors -/

/-- The entity has a proper ancestor with one of the names. -/
def HasAncestor (graph : Graph n) (names : List String) (subject : Entity n) : Prop :=
  ∃ ancestor, Above graph subject ancestor ∧ Named graph names ancestor

theorem hasAncestor_iff {graph : Graph n} {names : List String} {depth : Nat} {subject : Entity n}
    {answer : Bool} (answered : derivesFrom graph names depth subject = .ok answer) :
    HasAncestor graph names subject ↔ answer = true := by
  cases answer with
  | true => exact ⟨fun _ => rfl, fun _ => exists_above_of_derivesFrom answered⟩
  | false =>
      constructor
      · rintro ⟨ancestor, path, named⟩
        exact absurd named (not_named_of_derivesFrom_false answered path)
      · intro impossible; cases impossible

theorem HasAncestor.mono {graph : Graph n} {fewer more : List String} {subject : Entity n}
    (has : HasAncestor graph fewer subject) (contained : fewer ⊆ more) :
    HasAncestor graph more subject := by
  obtain ⟨ancestor, path, name, member, called⟩ := has
  exact ⟨ancestor, path, name, contained member, called⟩

theorem hasAncestor_cons_iff (graph : Graph n) (first : String) (rest : List String)
    (subject : Entity n) :
    HasAncestor graph (first :: rest) subject ↔
      HasAncestor graph [first] subject ∨ HasAncestor graph rest subject := by
  constructor
  · rintro ⟨ancestor, path, name, member, called⟩
    rcases List.mem_cons.mp member with same | further
    · exact Or.inl ⟨ancestor, path, name, List.mem_singleton.mpr same, called⟩
    · exact Or.inr ⟨ancestor, path, name, further, called⟩
  · rintro (here | further)
    · exact here.mono (List.cons_subset_cons first (List.nil_subset rest))
    · exact further.mono (List.subset_cons_self first rest)

/-! ## The decision -/

/-- The search decides whether an entity with one of the names is above the subject.  The
name of the subject itself counts only if a path leads back to it. -/
theorem derivesFrom_iff_exists_above (graph : Graph n) (names : List String) (depth : Nat)
    (subject : Entity n) (answer : Bool)
    (returned : derivesFrom graph names depth subject = .ok answer) :
    answer = true ↔
      ∃ ancestor, Relation.TransGen (Edge graph) subject ancestor ∧
        ∃ name ∈ names, graph.qualifiedName ancestor = .ok (some name) :=
  (hasAncestor_iff returned).symm

/-- A class with an unknown base, with itself as a base, and with a model as the base of
its last base. -/
def pageHierarchy : Graph 7 where
  node
    | 0 => { shape := .classDef { name := "Article", bases := some [1, 2, 3] } }
    | 1 => { shape := .usedName "Missing" }
    | 2 => { shape := .usedName "Article", inference := { values := [0], fault := none } }
    | 3 => { shape := .usedName "Page", inference := { values := [4], fault := none } }
    | 4 => { shape := .classDef { name := "Page", bases := some [5] } }
    | 5 => { shape := .usedName "Model", inference := { values := [6], fault := none } }
    | 6 => { shape := .classDef { name := "Model", qualifiedName := some ".Model" } }

theorem pageHierarchy_decided :
    (derivesFrom pageHierarchy [".Model"] 3 (.node 0) = .ok true ∧
      ∃ ancestor, Relation.TransGen (Edge pageHierarchy) (.node 0) ancestor ∧
        ∃ name ∈ [".Model"], pageHierarchy.qualifiedName ancestor = .ok (some name)) ∧
    (derivesFrom pageHierarchy [".View"] 3 (.node 0) = .ok false ∧
      ¬ ∃ ancestor, Relation.TransGen (Edge pageHierarchy) (.node 0) ancestor ∧
        ∃ name ∈ [".View"], pageHierarchy.qualifiedName ancestor = .ok (some name)) := by
  have found : derivesFrom pageHierarchy [".Model"] 3 (.node 0) = .ok true := rfl
  have missed : derivesFrom pageHierarchy [".View"] 3 (.node 0) = .ok false := rfl
  refine ⟨⟨found, ?_⟩, missed, ?_⟩
  · exact (derivesFrom_iff_exists_above _ _ _ _ _ found).mp rfl
  · intro reached
    have yes := (derivesFrom_iff_exists_above _ _ _ _ _ missed).mpr reached
    cases yes

end FrameworkLint.Hierarchy
