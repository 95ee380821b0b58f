import FrameworkLint.Fault

/-!
# Nodes of a program

A program under analysis is a finite graph of nodes.  A node has a shape, may have
a parent, and states what it evaluates to.  A graph with `n` nodes refers to them by
the numbers below `n`, so no reference is ever dangling, and two references are the
same node exactly when the numbers are equal.
-/

namespace FrameworkLint

/-- The constants that a program can hold. -/
inductive Literal
  | text (value : String)
  | integer (value : Int)
  | real (value : Float)
  | boolean (value : Bool)
  | null

namespace Literal

/-- Whether a constant counts as true in a condition.  Of the real numbers only the two
zeros do not; one that is not a number does. -/
def truthy : Literal → Bool
  | .text value => value ≠ ""
  | .integer value => value ≠ 0
  | .real value => value != 0
  | .boolean value => value
  | .null => false

end Literal

/-- The classes of the language itself that nodes can be instances of. -/
inductive Builtin
  | object
  | int
  | bool
  | float
  | str
  | noneType
  | tuple
  | list
  | dict
  deriving DecidableEq

namespace Builtin

def name : Builtin → String
  | .object => "object"
  | .int => "int"
  | .bool => "bool"
  | .float => "float"
  | .str => "str"
  | .noneType => "NoneType"
  | .tuple => "tuple"
  | .list => "list"
  | .dict => "dict"

def qualifiedName (type : Builtin) : String :=
  "builtins." ++ type.name

/-- The direct base of a builtin class, if it has one. -/
def base? : Builtin → Option Builtin
  | .object => none
  | .noneType => none
  | .bool => some .int
  | _ => some .object

/-- The class of a constant. -/
def ofLiteral : Literal → Builtin
  | .text _ => .str
  | .integer _ => .int
  | .real _ => .float
  | .boolean _ => .bool
  | .null => .noneType

end Builtin

/-- A reference to a node of a graph with `n` nodes. -/
abbrev Ref (n : Nat) := Fin n

/-- The values an expression takes, in the order in which they are found, and the
fault that ends the search, if one does.  An expression of which nothing is stated
is unresolved. -/
structure Inference (n : Nat) where
  values : List (Ref n) := []
  fault : Option Fault := some .unresolved

namespace Inference

variable {n : Nat}

/-- All values; a fault hides even the values found before it. -/
def all (inference : Inference n) : Except Fault (List (Ref n)) :=
  match inference.fault with
  | some fault => .error fault
  | none => .ok inference.values

/-- The first value; a fault counts only if it comes before every value. -/
def first (inference : Inference n) : Except Fault (Option (Ref n)) :=
  match inference.values, inference.fault with
  | value :: _, _ => .ok (some value)
  | [], some fault => .error fault
  | [], none => .ok none

end Inference

/-- The bases are `none` when they cannot be determined. -/
structure ClassInfo (n : Nat) where
  name : String
  qualifiedName : Option String := none
  bases : Option (List (Ref n)) := some []
  body : List (Ref n) := []
  decorators : List (Ref n) := []
  /-- The names of all methods, inherited ones included. -/
  methods : List String := []

structure FunctionInfo where
  name : String
  qualifiedName : Option String := none
  isAsync : Bool := false
  positionalOnly : List String := []
  positional : List String := []
  variadic : Option String := none
  keywordOnly : List String := []
  keywords : Option String := none

/-- All parameters in the order of the signature. -/
def FunctionInfo.parameters (function : FunctionInfo) : List String :=
  function.positionalOnly ++ function.positional ++ function.variadic.toList ++
    function.keywordOnly ++ function.keywords.toList

/-- One name of an import statement and the name it is bound to, if that differs. -/
structure ImportedName where
  name : String
  renamed : Option String

/-- The name an import binds in the importing module. -/
def ImportedName.bound (imported : ImportedName) : String :=
  imported.renamed.getD imported.name

/-- Kinds of nodes that are only ever asked for their parent and their value. -/
inductive PlainKind
  | annotatedAssignment
  | importStatement
  | subscript
  | slice
  | expression
  | conditional
  | returnStatement
  | binaryOperation
  | pass
  deriving DecidableEq

def PlainKind.name : PlainKind → String
  | .annotatedAssignment => "AnnAssign"
  | .importStatement => "Import"
  | .subscript => "Subscript"
  | .slice => "Slice"
  | .expression => "Expr"
  | .conditional => "If"
  | .returnStatement => "Return"
  | .binaryOperation => "BinOp"
  | .pass => "Pass"

inductive Shape (n : Nat)
  | moduleDef (name : String)
  | classDef (info : ClassInfo n)
  | function (info : FunctionInfo)
  | lambda (qualifiedName : Option String)
  | assign (targets : List (Ref n)) (value : Option (Ref n))
  /-- A name that is assigned to. -/
  | assignedName (name : String)
  /-- A name that is read. -/
  | usedName (name : String)
  /-- A member that is read from the value of `object`. -/
  | member (name : String) (object : Option (Ref n))
  /-- A member that is assigned to. -/
  | assignedMember (name : String) (object : Option (Ref n))
  | call (callee : Option (Ref n)) (arguments : List (Ref n))
  | constant (value : Literal)
  | importFrom (origin : String) (names : List ImportedName)
  | tuple
  | list
  | dict
  | plain (kind : PlainKind)
  /-- An instance of the class at `type`. -/
  | instanceOf (type : Ref n) (callable : Bool)
  | boundMethod (function : Ref n)
  /-- The object through which the class at `type` reaches its bases. -/
  | superOf (type : Ref n)
  /-- The marker for a value that cannot be determined. -/
  | unknown

namespace Shape

variable {n : Nat}

/-- The name of the kind of a node, as it stands in descriptions of faults. -/
def kind : Shape n → String
  | .moduleDef _ => "Module"
  | .classDef _ => "ClassDef"
  | .function info => if info.isAsync then "AsyncFunctionDef" else "FunctionDef"
  | .lambda _ => "Lambda"
  | .assign _ _ => "Assign"
  | .assignedName _ => "AssignName"
  | .usedName _ => "Name"
  | .member _ _ => "Attribute"
  | .assignedMember _ _ => "AssignAttr"
  | .call _ _ => "Call"
  | .constant _ => "Const"
  | .importFrom _ _ => "ImportFrom"
  | .tuple => "Tuple"
  | .list => "List"
  | .dict => "Dict"
  | .plain kind => kind.name
  | .instanceOf _ _ => "Instance"
  | .boundMethod _ => "BoundMethod"
  | .superOf _ => "Super"
  | .unknown => "Uninferable"

/-- The builtin class that a display of a value is an instance of. -/
def builtin? : Shape n → Option Builtin
  | .constant value => some (.ofLiteral value)
  | .tuple => some .tuple
  | .list => some .list
  | .dict => some .dict
  | _ => none

/-- For a node that opens a scope: its name and its stated qualified name.  A module
is qualified by its own name. -/
def scope? : Shape n → Option (String × Option String)
  | .moduleDef name => some (name, some name)
  | .classDef info => some (info.name, info.qualifiedName)
  | .function info => some (info.name, info.qualifiedName)
  | .lambda qualifiedName => some ("<lambda>", qualifiedName)
  | _ => none

end Shape

structure Node (n : Nat) where
  shape : Shape n
  parent : Option (Ref n) := none
  inference : Inference n := {}

/-- A program with `n` nodes. -/
structure Graph (n : Nat) where
  node : Ref n → Node n

/-- What a class can descend from: a node of the program, or a builtin class, which
has no node. -/
inductive Entity (n : Nat)
  | node (ref : Ref n)
  | builtin (type : Builtin)
  deriving DecidableEq

end FrameworkLint
