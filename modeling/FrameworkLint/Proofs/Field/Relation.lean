import FrameworkLint.Field.StandIn
import FrameworkLint.Proofs.Outcome

/-!
# The target of a relation

The declaration of a relation names the model it refers to, usually in its first argument.  The
arguments are read from left to right, and only names and members count.  An argument whose
evaluation ends without a value is passed over, if no other fault ended it.  The first one that
is not passed over decides alone: the relation holds an object of its first value.
-/

namespace FrameworkLint.Field

open Fault

variable {n : Nat}

/-! ## Arguments that are passed over -/

/-- An argument that can refer to a class: a name or a member that is read. -/
inductive Reference (graph : Graph n) (argument : Ref n) : Prop
  | name {label : String} (used : graph.shape argument = .usedName label)
  | member {label : String} {object : Option (Ref n)}
      (read : graph.shape argument = .member label object)

theorem isReference_iff (graph : Graph n) (argument : Ref n) :
    isReference graph argument = true ↔ Reference graph argument := by
  simp only [isReference]
  constructor
  · intro isReference
    split at isReference
    · next used => exact .name used
    · next read => exact .member read
    · cases isReference
  · intro reference
    cases reference with
    | name used => rw [used]
    | member read => rw [read]

/-- A reference that is not passed over: its evaluation finds a value, or a fault ends it before
that and says more than that the value is unknown. -/
inductive Fruitful (graph : Graph n) (argument : Ref n) : Prop
  | value {value : Ref n} {rest : List (Ref n)} (reference : Reference graph argument)
      (found : (graph.node argument).inference.values = value :: rest)
  | fault {fault : Fault} (reference : Reference graph argument)
      (empty : (graph.node argument).inference.values = [])
      (failed : (graph.node argument).inference.fault = some fault)
      (other : fault.isUnresolved = false)

/-- The first argument that is not passed over. -/
def FirstFruitful (graph : Graph n) (arguments : List (Ref n)) (argument : Ref n) : Prop :=
  ∃ before after, arguments = before ++ argument :: after ∧
    (∀ earlier ∈ before, ¬ Fruitful graph earlier) ∧ Fruitful graph argument

/-! ## One argument -/

/-- What an argument says about the target; nothing if it is passed over. -/
def argumentTarget (graph : Graph n) (argument : Ref n) : Except Fault (Option (StandIn n)) :=
  if isReference graph argument then
    match (graph.node argument).inference.first with
    | .ok value => .ok (value.map (StandIn.instantiate graph))
    | .error fault => if fault.isUnresolved then .ok none else .error fault
  else .ok none

/-- The target is what the first argument that is not passed over says. -/
theorem relationTarget_eq (graph : Graph n) (arguments : List (Ref n)) :
    relationTarget graph arguments =
      (arguments.findSomeM? (argumentTarget graph)).bind fun target =>
        target.elim (.error .noSpecialValue) .ok := by
  induction arguments with
  | nil => rfl
  | cons argument rest ih =>
      rw [findSomeM_cons_eq]
      simp only [relationTarget, argumentTarget, ih]
      split
      · cases (graph.node argument).inference.first with
        | ok value => cases value <;> rfl
        | error fault =>
            dsimp only
            split <;> rfl
      · rfl

/-- What an argument says if it is not passed over. -/
theorem Fruitful.target {graph : Graph n} {argument : Ref n} (fruitful : Fruitful graph argument) :
    (∃ value rest, (graph.node argument).inference.values = value :: rest ∧
      argumentTarget graph argument = .ok (some (.instantiate graph value))) ∨
    (∃ fault, (graph.node argument).inference.values = [] ∧
      (graph.node argument).inference.fault = some fault ∧
      argumentTarget graph argument = .error fault) := by
  cases fruitful with
  | @value value rest reference found =>
      refine Or.inl ⟨value, rest, found, ?_⟩
      simp only [argumentTarget, (isReference_iff graph argument).mpr reference, if_true,
        Inference.first, found, Option.map_some]
  | @fault fault reference empty failed other =>
      refine Or.inr ⟨fault, empty, failed, ?_⟩
      simp only [argumentTarget, (isReference_iff graph argument).mpr reference, if_true,
        Inference.first, empty, failed, other, Bool.false_eq_true, if_false]

theorem argumentTarget_of_not_fruitful {graph : Graph n} {argument : Ref n}
    (passed : ¬ Fruitful graph argument) : argumentTarget graph argument = .ok none := by
  simp only [argumentTarget]
  split
  · next isReference =>
      have reference := (isReference_iff graph argument).mp isReference
      cases found : (graph.node argument).inference.values with
      | cons value rest => exact absurd (.value reference found) passed
      | nil =>
          cases ended : (graph.node argument).inference.fault with
          | none => simp only [Inference.first, found, ended, Option.map_none]
          | some fault =>
              cases known : fault.isUnresolved with
              | true => simp only [Inference.first, found, ended, known, if_true]
              | false => exact absurd (.fault reference found ended known) passed
  · rfl

theorem argumentTarget_none_iff (graph : Graph n) (argument : Ref n) :
    argumentTarget graph argument = .ok none ↔ ¬ Fruitful graph argument := by
  constructor
  · intro silent fruitful
    rcases fruitful.target with ⟨_, _, _, said⟩ | ⟨_, _, _, said⟩
    · cases silent.symm.trans said
    · cases silent.symm.trans said
  · exact argumentTarget_of_not_fruitful

/-! ## The run over the arguments -/

theorem FirstFruitful.fruitful {graph : Graph n} {arguments : List (Ref n)} {argument : Ref n}
    (first : FirstFruitful graph arguments argument) : Fruitful graph argument := by
  obtain ⟨_, _, _, _, fruitful⟩ := first
  exact fruitful

/-- Whatever the run over the arguments comes to, the first argument that is not passed over
says it. -/
theorem findSomeM_argumentTarget_iff {graph : Graph n} {outcome : Except Fault (Option (StandIn n))}
    (decided : outcome ≠ .ok none) (arguments : List (Ref n)) :
    arguments.findSomeM? (argumentTarget graph) = outcome ↔
      ∃ argument, FirstFruitful graph arguments argument ∧
        argumentTarget graph argument = outcome := by
  rw [(stopsAtFirst_findSomeM _).eq_iff decided]
  simp only [argumentTarget_none_iff]
  constructor
  · rintro ⟨before, argument, after, split, clean, reached⟩
    have fruitful : Fruitful graph argument := by
      refine Classical.byContradiction fun passed => decided ?_
      rw [← reached, argumentTarget_of_not_fruitful passed]
    exact ⟨argument, ⟨before, after, split, clean, fruitful⟩, reached⟩
  · rintro ⟨argument, ⟨before, after, split, clean, _⟩, reached⟩
    exact ⟨before, argument, after, split, clean, reached⟩

theorem relationTarget_ok_iff (graph : Graph n) (arguments : List (Ref n)) (target : StandIn n) :
    relationTarget graph arguments = .ok target ↔
      ∃ argument value rest, FirstFruitful graph arguments argument ∧
        (graph.node argument).inference.values = value :: rest ∧
        target = .instantiate graph value := by
  have run : relationTarget graph arguments = .ok target ↔
      arguments.findSomeM? (argumentTarget graph) = .ok (some target) := by
    rw [relationTarget_eq]
    cases arguments.findSomeM? (argumentTarget graph) with
    | error fault => simp [Except.bind]
    | ok found => cases found <;> simp [Except.bind]
  rw [run, findSomeM_argumentTarget_iff (by nofun)]
  constructor
  · rintro ⟨argument, first, reached⟩
    rcases first.fruitful.target with ⟨value, rest, found, said⟩ | ⟨_, _, _, said⟩
    · rw [said] at reached
      cases reached
      exact ⟨argument, value, rest, first, found, rfl⟩
    · cases said.symm.trans reached
  · rintro ⟨argument, value, rest, first, found, rfl⟩
    refine ⟨argument, first, ?_⟩
    rcases first.fruitful.target with ⟨_, _, again, said⟩ | ⟨_, empty, _⟩
    · cases found.symm.trans again
      exact said
    · cases found.symm.trans empty

theorem relationTarget_error_iff (graph : Graph n) (arguments : List (Ref n)) (fault : Fault) :
    relationTarget graph arguments = .error fault ↔
      (∃ argument, FirstFruitful graph arguments argument ∧
        (graph.node argument).inference.values = [] ∧
        (graph.node argument).inference.fault = some fault) ∨
      ((∀ argument ∈ arguments, ¬ Fruitful graph argument) ∧ fault = .noSpecialValue) := by
  have run : relationTarget graph arguments = .error fault ↔
      arguments.findSomeM? (argumentTarget graph) = .error fault ∨
        (arguments.findSomeM? (argumentTarget graph) = .ok none ∧ fault = .noSpecialValue) := by
    rw [relationTarget_eq]
    cases arguments.findSomeM? (argumentTarget graph) with
    | error cause => simp [Except.bind]
    | ok found => cases found <;> simp [Except.bind, eq_comm]
  rw [run, findSomeM_argumentTarget_iff (by nofun), (stopsAtFirst_findSomeM _).eq_idle_iff]
  simp only [argumentTarget_none_iff]
  refine or_congr (exists_congr fun argument => and_congr_right fun first => ?_) Iff.rfl
  rcases first.fruitful.target with ⟨value, rest, found, said⟩ | ⟨cause, empty, failed, said⟩
  · simp [said, found]
  · simp [said, empty, failed]

/-- The values of a relation.  If the first argument that is not passed over has a value, the
relation holds one object of its first value; if it fails before that, the relation fails the
same way.  If all arguments are passed over, there is no special value. -/
theorem relationValues_iff_firstFruitful (graph : Graph n) (ref : Ref n) (callee : Option (Ref n))
    (arguments : List (Ref n)) (isCall : graph.shape ref = .call callee arguments) :
    (∀ targets, relationValues graph ref = .ok targets ↔
      ∃ argument value rest, FirstFruitful graph arguments argument ∧
        (graph.node argument).inference.values = value :: rest ∧
        targets = [.instantiate graph value]) ∧
    (∀ fault, relationValues graph ref = .error fault ↔
      (∃ argument, FirstFruitful graph arguments argument ∧
        (graph.node argument).inference.values = [] ∧
        (graph.node argument).inference.fault = some fault) ∨
      ((∀ argument ∈ arguments, ¬ Fruitful graph argument) ∧ fault = .noSpecialValue)) := by
  have values : relationValues graph ref = (relationTarget graph arguments).map ([·]) := by
    simp only [relationValues, Field.arguments, Graph.definition, isCall, Except.bind]
  rw [values]
  constructor
  · intro targets
    constructor
    · intro listed
      obtain ⟨target, said, same⟩ := exists_of_map_ok listed
      obtain ⟨argument, value, rest, first, found, rfl⟩ :=
        (relationTarget_ok_iff graph arguments target).mp said
      exact ⟨argument, value, rest, first, found, same.symm⟩
    · rintro ⟨argument, value, rest, first, found, rfl⟩
      have said : relationTarget graph arguments = .ok (.instantiate graph value) :=
        (relationTarget_ok_iff graph arguments _).mpr ⟨argument, value, rest, first, found, rfl⟩
      rw [said]
      rfl
  · intro fault
    rw [← relationTarget_error_iff]
    cases relationTarget graph arguments with
    | error cause => simp [Except.map]
    | ok target => simp [Except.map]

/-- Three declarations of relations.  The first argument of each is a text, which is not
evaluated, and the second an unknown name. -/
def articleRelations : Graph 13 where
  node
    | 0 => { shape := .call (some 11) [3, 4, 5, 6, 7] }
    | 1 => { shape := .call (some 11) [3, 4, 7, 6] }
    | 2 => { shape := .call (some 11) [3, 4, 5] }
    | 3 => { shape := .constant (.text "author"), inference := { fault := some .analysis } }
    | 4 => { shape := .usedName "Missing" }
    | 5 => { shape := .usedName "nothing", inference := { fault := none } }
    | 6 =>
      { shape := .member "User" (some 8)
        inference := { values := [9], fault := some .unresolvedMember } }
    | 7 => { shape := .usedName "broken", inference := { fault := some .analysis } }
    | 8 => { shape := .usedName "accounts", inference := { values := [10], fault := none } }
    | 9 => { shape := .classDef { name := "User", bases := some [] } }
    | 10 => { shape := .moduleDef "shop.accounts" }
    | 11 => { shape := .member "ForeignKey" (some 12) }
    | 12 => { shape := .usedName "models" }

/-- The first relation refers to the class that one of its later arguments names, the second
fails with an argument before that one, and the third has no special value. -/
theorem articleRelations_decided :
    relationValues articleRelations 0 = .ok [.instanceOf 9] ∧
    relationValues articleRelations 1 = .error .analysis ∧
    relationValues articleRelations 2 = .error .noSpecialValue := by
  have passed : ∀ argument ∈ [3, 4, 5], ¬ Fruitful articleRelations argument := by
    intro argument member
    rw [← argumentTarget_none_iff]
    simp only [List.mem_cons, List.not_mem_nil, or_false] at member
    rcases member with rfl | rfl | rfl <;> rfl
  have user : FirstFruitful articleRelations [3, 4, 5, 6, 7] 6 :=
    ⟨[3, 4, 5], [7], rfl, passed, .value (.member rfl) rfl⟩
  have broken : FirstFruitful articleRelations [3, 4, 7, 6] 7 := by
    refine ⟨[3, 4], [6], rfl, ?_, .fault (.name rfl) rfl rfl rfl⟩
    exact fun argument member => passed argument (List.mem_append_left [5] member)
  obtain ⟨holds, _⟩ := relationValues_iff_firstFruitful articleRelations 0 _ _ rfl
  obtain ⟨_, fails⟩ := relationValues_iff_firstFruitful articleRelations 1 _ _ rfl
  obtain ⟨_, lacks⟩ := relationValues_iff_firstFruitful articleRelations 2 _ _ rfl
  refine ⟨?_, ?_, ?_⟩
  · exact (holds _).mpr ⟨6, 9, [], user, rfl, rfl⟩
  · exact (fails _).mpr (Or.inl ⟨7, broken, rfl, rfl⟩)
  · exact (lacks _).mpr (Or.inr ⟨passed, rfl⟩)

end FrameworkLint.Field
