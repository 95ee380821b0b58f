import FrameworkLint.Graph.Basic
import FrameworkLint.Table

/-!
# Scopes of names that are not used yet

At the end of a module its unused imports are reported.  A relation field is taken
for the object that it holds, so nothing seems to use the import of its class.  Names
that come from such an import are taken out before the report.
-/

namespace FrameworkLint

/-- The names of a scope that are not used yet, in the order in which they were bound,
each with the statements that bind it, and whatever else belongs to the scope. -/
structure ImportScope (n : Nat) (α : Type) where
  names : Table (List (Ref n))
  rest : List α

namespace ImportScope

variable {n : Nat} {α β : Type}

/-- Binds a name in the first scope. -/
def bindFirst (name : String) (statements : List (Ref n)) :
    List (ImportScope n α) → Except Fault (List (ImportScope n α))
  | [] => .error .noElement
  | first :: rest => .ok ({ first with names := first.names.set name statements } :: rest)

/-- Classes of fields that are taken for the object that they hold. -/
def relationNames : List String :=
  ["ForeignKey", "OneToOneField"]

/-- The statement imports a relation field, whatever name it binds. -/
def importsRelation (graph : Graph n) (ref : Ref n) : Bool :=
  match graph.shape ref with
  | .importFrom _ names => names.any (relationNames.contains ·.name)
  | _ => false

/-- An entry stays unless its first statement imports a relation field. -/
def keeps (graph : Graph n) (entry : String × List (Ref n)) : Bool :=
  !entry.2.head?.any (importsRelation graph)

/-- Every name has a statement that binds it. -/
def isBound (scope : ImportScope n α) : Bool :=
  scope.names.all fun entry => !entry.2.isEmpty

/-- The first scope alone, without the names that come from the import of a relation
field. -/
def withoutRelations (graph : Graph n) :
    List (ImportScope n α) → Except Fault (List (ImportScope n α))
  | [] => .error .noElement
  | first :: _ =>
      if first.isBound then .ok [{ first with names := first.names.filter (keeps graph) }]
      else .error .noElement

/-- What happens at the end of a module: the scopes afterwards, the scopes that the
method of the checker saw at each of its runs, and what it returned. -/
structure Departure (n : Nat) (α β : Type) where
  scopes : List (ImportScope n α)
  seen : List (List (ImportScope n α))
  reply : Except Fault (Option β)

/-- A method that runs at the end of a module. -/
abbrev Handler (n : Nat) (α β : Type) := List (ImportScope n α) → Departure n α β

/-- A method that looks at the scopes and leaves them as they are. -/
def observe (reply : β) : Handler n α β :=
  fun scopes => ⟨scopes, [scopes], .ok (some reply)⟩

/-- Takes the relation fields out first.  If that fails, nothing changes and the method
does not run. -/
def filtered (graph : Graph n) (method : Handler n α β) : Handler n α β :=
  fun scopes =>
    match withoutRelations graph scopes with
    | .ok kept => method kept
    | .error fault => ⟨scopes, [], .error fault⟩

/-- The filtered method in place of the method itself.  It returns nothing. -/
def wrapped (graph : Graph n) (method : Handler n α β) : Handler n α β :=
  fun scopes =>
    let departure := filtered graph method scopes
    { departure with reply := departure.reply.map fun _ => none }

end ImportScope

end FrameworkLint
