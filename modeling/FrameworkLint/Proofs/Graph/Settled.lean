import FrameworkLint.Graph.Enclosure
import FrameworkLint.Proofs.Outcome

/-!
# Settled questions to a node

Only the values of expressions can be unknown.  The questions for a name, for the name
of a member and for a qualified name can fail, but never because of an unknown value.
-/

namespace FrameworkLint.Graph

open Fault

variable {n : Nat}

theorem missing_settled (graph : Graph n) (ref : Ref n) (member : String) :
    (graph.missing ref member).isUnresolved = false := rfl

theorem frame_settled (graph : Graph n) (steps : Nat) (ref : Ref n) :
    Settled (graph.frame steps ref) := by
  induction steps generalizing ref with
  | zero => exact settled_error rfl
  | succ steps ih =>
      unfold frame
      dsimp only
      split
      · exact settled_ok _
      · split
        · exact settled_ok _
        · split
          · exact settled_error rfl
          · next parent _ => exact ih parent

theorem scopeName_settled (graph : Graph n) (steps : Nat) (ref : Ref n) :
    Settled (graph.scopeName steps ref) := by
  induction steps generalizing ref with
  | zero => exact settled_error rfl
  | succ steps ih =>
      unfold scopeName
      split
      · exact settled_ok _
      · split
        · exact settled_error (graph.missing_settled ref "qname")
        · exact settled_ok _
        · split
          · exact settled_ok _
          · next parent _ =>
              apply (graph.frame_settled n parent).bind
              intro scope
              exact (ih scope).map _

theorem qualifiedName_settled (graph : Graph n) (entity : Entity n) :
    Settled (graph.qualifiedName entity) := by
  cases entity with
  | builtin type => exact settled_ok _
  | node ref =>
      unfold qualifiedName
      dsimp only
      split
      · exact settled_ok _
      · exact settled_ok _
      · split
        · exact settled_ok _
        · exact (graph.scopeName_settled n _).map some

theorem name_settled (graph : Graph n) (ref : Ref n) : Settled (graph.name ref) := by
  unfold name
  split
  · exact settled_ok _
  · exact settled_ok _
  · exact settled_ok _
  · split
    · exact settled_ok _
    · exact settled_ok _
    · exact settled_error (graph.missing_settled ref "name")

theorem memberName_settled (graph : Graph n) (ref : Ref n) : Settled (graph.memberName ref) := by
  unfold memberName
  split
  · exact settled_ok _
  · exact settled_ok _
  · exact settled_ok _
  · exact settled_error (graph.missing_settled ref "attrname")

end FrameworkLint.Graph
