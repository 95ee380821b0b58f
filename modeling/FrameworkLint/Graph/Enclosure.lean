import FrameworkLint.Graph.Basic

/-!
# Enclosing nodes and qualified names

The nodes around a node are found by going from parent to parent.  In a graph with
`n` nodes a chain of parents that ends has at most `n` members, so a walk of `n`
steps sees all of it.
-/

namespace FrameworkLint.Graph

variable {n : Nat}

/-- The first `steps` nodes of the chain of parents that begins at `start`. -/
def lineage (graph : Graph n) : Nat → Option (Ref n) → List (Ref n)
  | 0, _ => []
  | _ + 1, none => []
  | steps + 1, some ref => ref :: lineage graph steps (graph.parent ref)

@[simp]
theorem lineage_none (graph : Graph n) (steps : Nat) : graph.lineage steps none = [] := by
  cases steps <;> rfl

/-- The nodes around a node, the nearest first. -/
def enclosing (graph : Graph n) (ref : Ref n) : List (Ref n) :=
  graph.lineage n (graph.parent ref)

/-- The nearest class around a node. -/
def enclosingClass? (graph : Graph n) (ref : Ref n) : Option (Ref n × ClassInfo n) :=
  (graph.enclosing ref).findSome? fun outer => (graph.classDef? outer).map (outer, ·)

/-- The name of the nearest module around a node. -/
def enclosingModule? (graph : Graph n) (ref : Ref n) : Option String :=
  (graph.enclosing ref).findSome? graph.moduleName?

/-- The nearest scope among a node and the nodes around it, at most `steps` nodes away.
An instance and a bound method stand in the scope of the definition that answers for
them, and nothing is known of what is around the unknown value. -/
def frame (graph : Graph n) : Nat → Ref n → Except Fault (Ref n)
  | 0, _ => .error .tooDeep
  | steps + 1, ref =>
      let definition := graph.definition ref
      match graph.shape definition with
      | .unknown => .ok definition
      | shape =>
          if shape.scope?.isSome then .ok definition
          else
            match graph.parent ref with
            | none => .error .noScope
            | some parent => frame graph steps parent

/-- The qualified name of a scope: the stated one if there is one, and otherwise the
qualified name of the scope around it, a dot and its own name.  A scope without a
parent is known by its name alone. -/
def scopeName (graph : Graph n) : Nat → Ref n → Except Fault String
  | 0, _ => .error .tooDeep
  | steps + 1, ref =>
      match graph.shape ref with
      | .unknown => .ok (graph.shape ref).kind
      | shape =>
          match shape.scope? with
          | none => .error (graph.missing ref "qname")
          | some (_, some stated) => .ok stated
          | some (name, none) =>
              match graph.parent ref with
              | none => .ok name
              | some parent =>
                  (graph.frame n parent).bind fun scope =>
                    (scopeName graph steps scope).map (· ++ "." ++ name)

/-- The qualified name of an entity.  The unknown value answers `none`, which equals no
text. -/
def qualifiedName (graph : Graph n) : Entity n → Except Fault (Option String)
  | .builtin type => .ok (some type.qualifiedName)
  | .node ref =>
      match graph.shape ref with
      | .unknown => .ok none
      | .superOf _ => .ok (some "super")
      | shape =>
          match shape.builtin? with
          | some type => .ok (some type.qualifiedName)
          | none => (graph.scopeName n (graph.definition ref)).map some

end FrameworkLint.Graph
