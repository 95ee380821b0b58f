import FrameworkLint.Graph.Enclosure
import FrameworkLint.Settings
import FrameworkLint.Text.Affix

/-!
# Values of fields

A field is declared in a class but holds a plain value in an object.  A field that
refers to another model holds an object of that model, and a field class stands for
itself and for the type of its values.
-/

namespace FrameworkLint.Field

variable {n : Nat}

/-- A definition outside of the program, known by its name. -/
inductive Outside
  | classDef (qualifiedName : String)
  | importFrom (origin : String)
  deriving DecidableEq

def Outside.isImport : Outside → Bool
  | .classDef _ => false
  | .importFrom _ => true

/-- What a field is taken to evaluate to. -/
inductive StandIn (n : Nat)
  | unknown
  | node (ref : Ref n)
  /-- A new instance of a class. -/
  | instanceOf (type : Ref n)
  | outside (definition : Outside)
  deriving DecidableEq

namespace StandIn

/-- A node as it is. -/
def ofNode (graph : Graph n) (ref : Ref n) : StandIn n :=
  match graph.shape ref with
  | .unknown => .unknown
  | _ => .node ref

/-- What the call of a value gives, as far as its class is concerned. -/
def instantiate (graph : Graph n) (value : Ref n) : StandIn n :=
  match graph.shape value with
  | .classDef _ => .instanceOf value
  | .instanceOf type _ => .instanceOf type
  | .boundMethod function => .node function
  | .unknown => .unknown
  | _ => .node value

end StandIn

/-! ## Fields that refer to one object -/

/-- The classes of fields that hold one object of another model. -/
def relationFields : List String :=
  ["OneToOneField", "ForeignKey"]

/-- The name by which a function is called. -/
def calleeName? (graph : Graph n) (callee : Ref n) : Option String :=
  match graph.shape callee with
  | .member name _ => some name
  | .usedName name => some name
  | _ => none

def isAssignment (graph : Graph n) (ref : Ref n) : Bool :=
  match graph.shape ref with
  | .assign _ _ => true
  | _ => false

/-- The node stands on the right side of an assignment in the body of a class. -/
def isClassAssignment (graph : Graph n) (ref : Ref n) : Bool :=
  (graph.parent ref).any fun assignment =>
    isAssignment graph assignment && graph.parentIsClass assignment

/-- The node declares a relation field of a class. -/
def isRelation (graph : Graph n) (ref : Ref n) : Except Fault Bool :=
  if isClassAssignment graph ref then
    match graph.shape ref with
    | .call callee _ =>
        .ok ((callee.bind (calleeName? graph)).any relationFields.contains)
    | _ => .error (graph.missing ref "func")
  else .ok false

/-- An argument that can refer to a class: a name or a member. -/
def isReference (graph : Graph n) (ref : Ref n) : Bool :=
  match graph.shape ref with
  | .usedName _ => true
  | .member _ _ => true
  | _ => false

/-- The object that a relation holds, by the arguments of its declaration.  The first
argument that refers to something known decides. -/
def relationTarget (graph : Graph n) : List (Ref n) → Except Fault (StandIn n)
  | [] => .error .noSpecialValue
  | argument :: rest =>
      if isReference graph argument then
        match (graph.node argument).inference.first with
        | .ok (some value) => .ok (.instantiate graph value)
        | .ok none => relationTarget graph rest
        | .error fault =>
            if fault.isUnresolved then relationTarget graph rest else .error fault
      else relationTarget graph rest

/-- The arguments of a call.  A function has a signature in their place, which cannot be
read one by one. -/
def arguments (graph : Graph n) (ref : Ref n) : Except Fault (List (Ref n)) :=
  match graph.shape (graph.definition ref) with
  | .call _ arguments => .ok arguments
  | .function _ => .error .notASequence
  | .lambda _ => .error .notASequence
  | .unknown => .error .notASequence
  | _ => .error (graph.missing ref "args")

/-- The values of a relation field. -/
def relationValues (graph : Graph n) (ref : Ref n) : Except Fault (List (StandIn n)) :=
  (arguments graph ref).bind fun arguments => (relationTarget graph arguments).map ([·])

/-! ## Field classes -/

def hasHome (home : String) (graph : Graph n) (ref : Ref n) : Except Fault Bool :=
  (graph.qualifiedName (.node ref)).map (·.any (Text.begins home))

def isModelField (graph : Graph n) (ref : Ref n) : Except Fault Bool :=
  hasHome "django.db.models.fields" graph ref

def isFormField (graph : Graph n) (ref : Ref n) : Except Fault Bool :=
  hasHome "django.forms.fields" graph ref

def isModelOrFormField (graph : Graph n) (ref : Ref n) : Except Fault Bool :=
  (isModelField graph ref).bind fun isModel =>
    if isModel then .ok true else isFormField graph ref

/-- Fields whose values are texts. -/
def textFields : List String :=
  ["CharField", "SlugField", "URLField", "TextField", "EmailField", "CommaSeparatedIntegerField",
   "FilePathField", "GenericIPAddressField", "IPAddressField", "RegexField", "SlugField"]

/-- Fields whose values are whole numbers. -/
def integerFields : List String :=
  ["IntegerField", "SmallIntegerField", "BigIntegerField", "PositiveIntegerField",
   "PositiveSmallIntegerField"]

/-- Fields whose values are truth values. -/
def booleanFields : List String :=
  ["BooleanField", "NullBooleanField"]

/-- A class of the standard dates, which is imported from a faster module if there is
one. -/
def dateType (name : String) : List Outside :=
  [.classDef ("datetime." ++ name), .importFrom "_datetime"]

/-- The decimal class, which has a module of its own since version 3.5. -/
def decimalType (settings : Settings) : Except Fault (List Outside) :=
  (settings.pythonVersion.atLeast [3, 5]).map fun own =>
    if own then [.classDef "_decimal.Decimal"]
    else [.importFrom "_decimal", .importFrom "_pydecimal"]

/-- The types of the values of a field, by the name of its class. -/
def valueTypes (settings : Settings) (field : String) : Except Fault (List Outside) :=
  if textFields.contains field then .ok [.classDef Builtin.str.qualifiedName]
  else if integerFields.contains field then .ok [.classDef Builtin.int.qualifiedName]
  else if booleanFields.contains field then .ok [.classDef Builtin.bool.qualifiedName]
  else if field = "FloatField" then .ok [.classDef Builtin.float.qualifiedName]
  else if field = "DecimalField" then decimalType settings
  else if ["SplitDateTimeField", "DateTimeField"].contains field then .ok (dateType "datetime")
  else if field = "TimeField" then .ok (dateType "time")
  else if field = "DateField" then .ok (dateType "date")
  else if field = "ManyToManyField" then .ok [.classDef "django.db.models.query.QuerySet"]
  else if ["ImageField", "FileField"].contains field then
    .ok [.classDef "django.core.files.base.File"]
  else .ok []

/-- A field class stands for itself and for the types of its values.  In Python 3 only
definitions count, not imports. -/
def fieldValues (settings : Settings) (graph : Graph n) (ref : Ref n) :
    Except Fault (List (StandIn n)) :=
  (graph.name ref).bind fun name =>
    (name.elim (.ok []) (valueTypes settings)).map fun types =>
      .ofNode graph ref ::
        (types.filter fun type => !(settings.python3 && type.isImport)).map .outside

/-- The rule for the special values of a node, if it is a relation field or a field
class. -/
def specialRule (settings : Settings) (graph : Graph n) (ref : Ref n) :
    Except Fault (Option (Except Fault (List (StandIn n)))) :=
  match graph.shape ref with
  | .call _ _ =>
      (isRelation graph ref).map fun relation =>
        if relation then some (relationValues graph ref) else none
  | .classDef _ =>
      (isModelOrFormField graph ref).map fun field =>
        if field then some (fieldValues settings graph ref) else none
  | _ => .ok none

end FrameworkLint.Field
