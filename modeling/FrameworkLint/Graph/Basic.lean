import FrameworkLint.Graph.Node

/-!
# Questions to a node

What the rules ask of a node: its parent, its name, the member it reads, its
children, its bases and whether it can be called.  An instance answers most of
these through its class, and a bound method through its function.
-/

namespace FrameworkLint.Graph

variable {n : Nat}

def shape (graph : Graph n) (ref : Ref n) : Shape n :=
  (graph.node ref).shape

/-- The definition that answers for a node: an instance answers through its class, and
a bound method through its function. -/
def definition (graph : Graph n) (ref : Ref n) : Ref n :=
  match graph.shape ref with
  | .instanceOf type _ => type
  | .boundMethod function => function
  | _ => ref

/-- All values of an expression.  The object that reaches the bases of a class stands
for itself, and the unknown value has no list of values. -/
def inferred (graph : Graph n) (ref : Ref n) : Except Fault (List (Ref n)) :=
  match graph.shape ref with
  | .superOf _ => .ok [ref]
  | .unknown => .error .notASequence
  | _ => (graph.node (graph.definition ref)).inference.all

/-- The parent of a node.  The unknown value answers with itself. -/
def parent (graph : Graph n) (ref : Ref n) : Option (Ref n) :=
  match graph.shape (graph.definition ref) with
  | .unknown => some (graph.definition ref)
  | _ => (graph.node (graph.definition ref)).parent

/-- The kind of node that is named when a member is missing.  A display of a value
answers through its builtin class. -/
def answeringKind (graph : Graph n) (ref : Ref n) : String :=
  match (graph.shape ref).builtin? with
  | some _ => "ClassDef"
  | none => (graph.shape (graph.definition ref)).kind

/-- The fault of a node that does not answer `member`. -/
def missing (graph : Graph n) (ref : Ref n) (member : String) : Fault :=
  .noMember (graph.answeringKind ref) member

/-- The definition of a class node; instances have none of their own. -/
def classDef? (graph : Graph n) (ref : Ref n) : Option (ClassInfo n) :=
  match graph.shape ref with
  | .classDef info => some info
  | _ => none

def isClass (graph : Graph n) (ref : Ref n) : Bool :=
  (graph.classDef? ref).isSome

/-- The definition behind a class node or behind an instance. -/
def classInfo? (graph : Graph n) (ref : Ref n) : Option (ClassInfo n) :=
  match graph.shape ref with
  | .classDef info => some info
  | .instanceOf type _ => graph.classDef? type
  | _ => none

/-- The name of a module node. -/
def moduleName? (graph : Graph n) (ref : Ref n) : Option String :=
  match graph.shape ref with
  | .moduleDef name => some name
  | _ => none

/-- The parent is a class. -/
def parentIsClass (graph : Graph n) (ref : Ref n) : Bool :=
  (graph.parent ref).any graph.isClass

/-- The name of a node.  A display of a value has the name of its builtin class.  The
name of the unknown value is `none`, which equals no text. -/
def name (graph : Graph n) (ref : Ref n) : Except Fault (Option String) :=
  match graph.shape (graph.definition ref) with
  | .assignedName name => .ok (some name)
  | .usedName name => .ok (some name)
  | .unknown => .ok none
  | shape =>
      match shape.scope?, shape.builtin? with
      | some (name, _), _ => .ok (some name)
      | none, some type => .ok (some type.name)
      | none, none => .error (graph.missing ref "name")

/-- The name of the member that a node reads or assigns.  That of the unknown value is
`none`, which equals no text. -/
def memberName (graph : Graph n) (ref : Ref n) : Except Fault (Option String) :=
  match graph.shape ref with
  | .member name _ => .ok (some name)
  | .assignedMember name _ => .ok (some name)
  | .unknown => .ok none
  | _ => .error (graph.missing ref "attrname")

/-- The expression whose member a node reads or assigns. -/
def object? (graph : Graph n) (ref : Ref n) : Option (Ref n) :=
  match graph.shape ref with
  | .member _ object => object
  | .assignedMember _ object => object
  | _ => none

/-- The expression whose member is read, unless it is the unknown value. -/
def receiver? (graph : Graph n) (ref : Ref n) : Option (Ref n) :=
  (graph.object? ref).filter fun object =>
    match graph.shape object with
    | .unknown => false
    | _ => true

/-- The nodes directly inside a class: its bases, then its body.  They cannot be listed
if the bases cannot be determined. -/
def classChildren (info : ClassInfo n) : Except Fault (List (Ref n)) :=
  match info.bases with
  | some bases => .ok (bases ++ info.body)
  | none => .error .notASequence

/-- Whether a value can be called. -/
def callable (graph : Graph n) (ref : Ref n) : Bool :=
  match graph.shape ref with
  | .classDef _ => true
  | .function _ => true
  | .lambda _ => true
  | .boundMethod _ => true
  | .instanceOf _ callable => callable
  | _ => false

/-- The values of each base expression of a class, in order. -/
def classBases (graph : Graph n) (info : ClassInfo n) :
    List (Except Fault (List (Entity n))) :=
  (info.bases.getD []).map fun base => (graph.inferred base).map (·.map .node)

/-- A builtin class has its base directly, without an expression that could fail. -/
def builtinBases (type : Builtin) : List (Except Fault (List (Entity n))) :=
  type.base?.toList.map fun base => .ok [.builtin base]

/-- What each base of an entity evaluates to.  Instances have the bases of their
class.  Nodes that are neither class nor instance have none, and neither has a class
whose bases cannot be determined. -/
def bases (graph : Graph n) : Entity n → List (Except Fault (List (Entity n)))
  | .builtin type => builtinBases type
  | .node ref =>
      match graph.classInfo? ref, (graph.shape ref).builtin? with
      | some info, _ => graph.classBases info
      | none, some type => builtinBases type
      | none, none => []

end FrameworkLint.Graph
