import FrameworkLint.Graph.Enclosure

/-!
# Class hierarchies

One entity is a direct base of another when some base expression of the latter has
it among its values and the values of that expression are known.  The search below
follows these edges depth first, in the order of the bases and of their values, and
stops at the first entity with one of the wanted names.

An entity that is its own direct base is not entered again.  Longer cycles are
entered, and end at the depth limit.
-/

namespace FrameworkLint.Hierarchy

variable {n : Nat}

/-- The second entity is a direct base of the first. -/
inductive Edge (graph : Graph n) : Entity n → Entity n → Prop
  /-- A class, or the class of an instance, has the values of its base expressions as
  bases, as far as the list of expressions and the values are known. -/
  | stated {lower upper base : Ref n} {info : ClassInfo n} {bases values : List (Ref n)}
      (isClass : graph.classInfo? lower = some info) (listed : info.bases = some bases)
      (member : base ∈ bases) (known : graph.inferred base = .ok values)
      (found : upper ∈ values) : Edge graph (.node lower) (.node upper)
  /-- A display of a value has the base of its builtin class. -/
  | display {lower : Ref n} {type base : Builtin}
      (isDisplay : (graph.shape lower).builtin? = some type) (direct : type.base? = some base) :
      Edge graph (.node lower) (.builtin base)
  | builtin {type base : Builtin} (direct : type.base? = some base) :
      Edge graph (.builtin type) (.builtin base)

/-- A qualified name is one of the wanted ones. -/
def wanted (names : List String) (qualifiedName : Option String) : Bool :=
  qualifiedName.any names.contains

theorem wanted_iff (names : List String) (qualifiedName : Option String) :
    wanted names qualifiedName = true ↔ ∃ name ∈ names, qualifiedName = some name := by
  cases qualifiedName with
  | none => simp [wanted]
  | some name => simp [wanted]

theorem wanted_append (first second : List String) (qualifiedName : Option String) :
    wanted (first ++ second) qualifiedName =
      (wanted first qualifiedName || wanted second qualifiedName) := by
  cases qualifiedName with
  | none => rfl
  | some name => simp [wanted]

/-- Examines the values of each base in turn.  A base without a known value is passed
over. -/
def someBase (examine : Entity n → Except Fault Bool)
    (bases : List (Except Fault (List (Entity n)))) : Except Fault Bool :=
  bases.anyM fun base => Fault.settle (base.bind fun values => values.anyM examine)

/-- Examines a value of a base of `subject`: its own name first, and then what is above
it, unless it is `subject` again. -/
def leadsTo (graph : Graph n) (names : List String) (subject : Entity n)
    (search : Entity n → Except Fault Bool) (value : Entity n) : Except Fault Bool :=
  (graph.qualifiedName value).bind fun qualifiedName =>
    if wanted names qualifiedName then .ok true
    else if value = subject then .ok false
    else search value

/-- Whether an entity has a proper ancestor with one of the names.  The first argument
after the names bounds how many entities deep the search goes. -/
def derivesFrom (graph : Graph n) (names : List String) : Nat → Entity n → Except Fault Bool
  | 0, _ => .error .tooDeep
  | depth + 1, subject =>
      someBase (leadsTo graph names subject (derivesFrom graph names depth)) (graph.bases subject)

end FrameworkLint.Hierarchy
