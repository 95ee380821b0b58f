import FrameworkLint.Graph.Enclosure
import Mathlib.Data.Fintype.Card

/-!
# Chains of parents

The nodes around a node are its parent, the parent of that one, and so on.  If this chain ends,
no node is on it twice, for a chain that comes back to a node goes round for ever.  So it has at
most as many members as the graph has nodes, and the bounded walk sees all of it.  The nearest
class and the nearest module are the first ones on the chain.  What is further out has no part
in finding them, and there the chain need not even end.
-/

namespace FrameworkLint.Graph

variable {n : Nat} {α : Type}

/-! ## Going from parent to parent -/

/-- Going from parent to parent, `start` leads over the nodes `passed`, in this order, to `stop`.
A chain of parents that ends leads to `none`. -/
inductive Climb (graph : Graph n) : Option (Ref n) → List (Ref n) → Option (Ref n) → Prop
  | stay (place : Option (Ref n)) : Climb graph place [] place
  | up {ref : Ref n} {passed : List (Ref n)} {stop : Option (Ref n)}
      (further : Climb graph (graph.parent ref) passed stop) :
      Climb graph (some ref) (ref :: passed) stop

namespace Climb

variable {graph : Graph n} {start stop middle : Option (Ref n)} {chain before after : List (Ref n)}

theorem split (climb : Climb graph start (before ++ after) stop) :
    ∃ middle, Climb graph start before middle ∧ Climb graph middle after stop := by
  induction before generalizing start with
  | nil => exact ⟨start, .stay start, climb⟩
  | cons first before ih =>
      rw [List.cons_append] at climb
      cases climb with
      | up further =>
          obtain ⟨middle, lower, upper⟩ := ih further
          exact ⟨middle, .up lower, upper⟩

/-- Every climb from the same start is the beginning of the chain that ends. -/
theorem exists_rest (ends : Climb graph start chain none) (climb : Climb graph start before middle) :
    ∃ after, chain = before ++ after ∧ Climb graph middle after none := by
  induction climb generalizing chain with
  | stay place => exact ⟨chain, rfl, ends⟩
  | @up ref passed middle _ ih =>
      cases ends with
      | up further =>
          obtain ⟨after, split, upper⟩ := ih further
          exact ⟨after, by rw [split, List.cons_append], upper⟩

theorem eq_of_ends (first : Climb graph start chain none) (second : Climb graph start before none) :
    chain = before := by
  obtain ⟨after, split, upper⟩ := first.exists_rest second
  cases upper
  rw [split, List.append_nil]

/-- A chain that ends does not come back to one of its nodes: what follows the node then would be
as long as what follows it now. -/
theorem nodup (ends : Climb graph start chain none) : chain.Nodup := by
  induction chain generalizing start with
  | nil => exact List.nodup_nil
  | cons ref rest ih =>
      cases ends with
      | up further =>
          refine List.nodup_cons.mpr ⟨?_, ih further⟩
          intro again
          obtain ⟨before, after, split⟩ := List.append_of_mem again
          rw [split] at further
          obtain ⟨middle, _, upper⟩ := further.split
          cases upper with
          | up beyond =>
              -- The same parent leads to the end over `after` and over a longer list.
              have lengths := congrArg List.length (beyond.eq_of_ends further)
              rw [List.length_append, List.length_cons] at lengths
              omega

theorem length_le (ends : Climb graph start chain none) : chain.length ≤ n := by
  calc chain.length
      ≤ Fintype.card (Ref n) := ends.nodup.length_le_card
    _ = n := Fintype.card_fin n

/-! ## The bounded walk -/

theorem lineage_eq (climb : Climb graph start before stop) (steps : Nat) :
    graph.lineage (before.length + steps) start = before ++ graph.lineage steps stop := by
  induction climb with
  | stay place => rw [List.length_nil, Nat.zero_add, List.nil_append]
  | up _ ih => rw [List.length_cons, Nat.add_right_comm, lineage, ih, List.cons_append]

/-- As many steps as there are nodes take in the whole chain, and more steps find nothing more. -/
theorem lineage_of_ends (ends : Climb graph start chain none) {steps : Nat} (enough : n ≤ steps) :
    graph.lineage steps start = chain := by
  obtain ⟨more, rfl⟩ := Nat.exists_eq_add_of_le (ends.length_le.trans enough)
  rw [ends.lineage_eq, lineage_none, List.append_nil]

theorem enclosing_eq {ref : Ref n} (ends : Climb graph (graph.parent ref) chain none) :
    graph.enclosing ref = chain :=
  ends.lineage_of_ends le_rfl

/-- The walk comes past `outer` if fewer nodes than there are stand before it. -/
theorem exists_enclosing {ref outer : Ref n}
    (climb : Climb graph (graph.parent ref) before (some outer)) (short : before.length < n) :
    ∃ after, graph.enclosing ref = before ++ outer :: after := by
  obtain ⟨steps, total⟩ := Nat.exists_eq_add_of_lt short
  have walked := climb.lineage_eq (steps + 1)
  rw [← Nat.add_assoc, ← total] at walked
  exact ⟨graph.lineage steps (graph.parent outer), walked⟩

end Climb

/-! ## The nearest node with an answer -/

/-- `outer` is the first node of the chain that has an answer, and `value` is this answer. -/
def Nearest (ask : Ref n → Option α) (chain : List (Ref n)) (outer : Ref n) (value : α) : Prop :=
  ∃ before after, chain = before ++ outer :: after ∧ (∀ inner ∈ before, ask inner = none) ∧
    ask outer = some value

theorem Nearest.answers {ask : Ref n → Option α} {chain : List (Ref n)} {outer : Ref n} {value : α}
    (nearest : Nearest ask chain outer value) : ask outer ≠ none := by
  obtain ⟨_, _, _, _, answer⟩ := nearest
  rw [answer]
  exact Option.some_ne_none value

section

variable {graph : Graph n} {ref : Ref n} {chain : List (Ref n)}

theorem enclosingClass_eq_some_iff (ends : Climb graph (graph.parent ref) chain none)
    (outer : Ref n) (info : ClassInfo n) :
    graph.enclosingClass? ref = some (outer, info) ↔ Nearest graph.classDef? chain outer info := by
  unfold enclosingClass?
  rw [ends.enclosing_eq, List.findSome?_eq_some_iff]
  simp only [Option.map_eq_some_iff, Option.map_eq_none_iff, Prod.mk.injEq]
  constructor
  · rintro ⟨before, _, after, split, ⟨_, isClass, rfl, rfl⟩, clean⟩
    exact ⟨before, after, split, clean, isClass⟩
  · rintro ⟨before, after, split, clean, isClass⟩
    exact ⟨before, outer, after, split, ⟨info, isClass, rfl, rfl⟩, clean⟩

theorem enclosingModule_eq_some_iff (ends : Climb graph (graph.parent ref) chain none)
    (label : String) :
    graph.enclosingModule? ref = some label ↔
      ∃ home, Nearest graph.moduleName? chain home label := by
  unfold enclosingModule?
  rw [ends.enclosing_eq, List.findSome?_eq_some_iff]
  constructor
  · rintro ⟨before, home, after, split, isModule, clean⟩
    exact ⟨home, before, after, split, clean, isModule⟩
  · rintro ⟨home, before, after, split, clean, isModule⟩
    exact ⟨before, home, after, split, isModule, clean⟩

theorem enclosingModule_eq_none_iff (ends : Climb graph (graph.parent ref) chain none) :
    graph.enclosingModule? ref = none ↔ ∀ outer ∈ chain, graph.moduleName? outer = none := by
  unfold enclosingModule?
  rw [ends.enclosing_eq, List.findSome?_eq_none_iff]

end

/-! ## What is further out -/

/-- In both graphs the node `ref` has the same name and stands inside the nodes `before`, and
these inside `outer`, and all of them are of the same shape.  What is around `outer` is left
open. -/
structure AgreeUpTo (graph other : Graph n) (ref : Ref n) (before : List (Ref n)) (outer : Ref n) :
    Prop where
  name : other.name ref = graph.name ref
  here : Climb graph (graph.parent ref) before (some outer)
  there : Climb other (other.parent ref) before (some outer)
  shape : ∀ inner ∈ before ++ [outer], other.shape inner = graph.shape inner

/-- A search that has an answer at `outer` sees nothing behind it. -/
theorem findSome_of_agree {ask askOther : Ref n → Option α} {before : List (Ref n)} {outer : Ref n}
    (same : ∀ inner ∈ before ++ [outer], askOther inner = ask inner) (answers : ask outer ≠ none)
    (after afterOther : List (Ref n)) :
    (before ++ outer :: afterOther).findSome? askOther =
      (before ++ outer :: after).findSome? ask := by
  induction before with
  | nil =>
      obtain ⟨value, answer⟩ := Option.ne_none_iff_exists'.mp answers
      have answerOther : askOther outer = some value := by rw [same outer (by simp), answer]
      rw [List.nil_append, List.nil_append, List.findSome?_cons, List.findSome?_cons, answer,
        answerOther]
  | cons first before ih =>
      rw [List.cons_append, List.forall_mem_cons] at same
      rw [List.cons_append, List.cons_append, List.findSome?_cons, List.findSome?_cons, same.1,
        ih same.2]

namespace AgreeUpTo

variable {graph other : Graph n} {ref outer : Ref n} {before chain : List (Ref n)}

/-- A question to the shape of a node has the same first answer around `ref` in both graphs, if
`outer` or something inside it answers. -/
theorem findSome_eq (agree : AgreeUpTo graph other ref before outer)
    (ends : Climb graph (graph.parent ref) chain none) {ask askOther : Ref n → Option α}
    (same : ∀ inner, other.shape inner = graph.shape inner → askOther inner = ask inner)
    (answers : ask outer ≠ none) :
    (other.enclosing ref).findSome? askOther = (graph.enclosing ref).findSome? ask := by
  -- Only the chain of `graph` is known to end, so the bound on the way to `outer` comes from it.
  obtain ⟨rest, split, upper⟩ := ends.exists_rest agree.here
  cases upper with
  | @up _ after _ =>
      have short : before.length < n := by
        have bounded := ends.length_le
        rw [split, List.length_append, List.length_cons] at bounded
        omega
      obtain ⟨afterOther, walked⟩ := agree.there.exists_enclosing short
      rw [ends.enclosing_eq, split, walked]
      exact findSome_of_agree (fun inner member => same inner (agree.shape inner member)) answers
        after afterOther

theorem enclosingClass_eq (agree : AgreeUpTo graph other ref before outer)
    (ends : Climb graph (graph.parent ref) chain none) (isClass : graph.classDef? outer ≠ none) :
    other.enclosingClass? ref = graph.enclosingClass? ref := by
  refine agree.findSome_eq ends ?_ (by simpa using isClass)
  intro inner same
  simp only [classDef?, same]

theorem enclosingModule_eq (agree : AgreeUpTo graph other ref before outer)
    (ends : Climb graph (graph.parent ref) chain none) (isModule : graph.moduleName? outer ≠ none) :
    other.enclosingModule? ref = graph.enclosingModule? ref := by
  refine agree.findSome_eq ends ?_ isModule
  intro inner same
  simp only [moduleName?, same]

end AgreeUpTo

end FrameworkLint.Graph
