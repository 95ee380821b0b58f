import FrameworkLint.Member.Access
import FrameworkLint.Model.Complaint

/-!
# The check of a model class

The children of a model class are read in order, and the first one that decides the
matter ends the check: an inner class that makes the model abstract, an assignment to
the name of the text method, or a definition of it.  If no child decides, the class
itself does, by its methods and its decorators.
-/

namespace FrameworkLint.Model

variable {n : Nat}

/-- The name of the checker and the message that switches it on. -/
def checkerName : String := "django-model-checker"

def enabledBy : List String := [Complaint.missing.declaration.symbol]

/-- What the decision is. -/
inductive Verdict
  | quiet
  | complain (complaint : Complaint)
  deriving DecidableEq

def Verdict.complaint? : Verdict → Option Complaint
  | .quiet => none
  | .complain complaint => some complaint

/-- The name of the text method. -/
def textMethod : String := "__unicode__"

/-- The decorator that derives the text method from another one. -/
def textDecorator : String := "python_2_unicode_compatible"

/-- A constant that counts as true. -/
def isTrueConstant (graph : Graph n) (ref : Ref n) : Bool :=
  match graph.shape ref with
  | .constant value => value.truthy
  | _ => false

/-- An assignment of a true constant whose first target is `abstract`. -/
def setsAbstract (graph : Graph n) (ref : Ref n) : Except Fault Bool :=
  match graph.shape ref with
  | .assign [] _ => .error .noElement
  | .assign (target :: _) value =>
      (graph.name target).map fun name =>
        name = some "abstract" && value.any (isTrueConstant graph)
  | _ => .ok false

/-- An inner class of options that makes the class around it abstract. -/
def isAbstractMeta (graph : Graph n) (ref : Ref n) : Except Fault Bool :=
  match graph.classDef? ref with
  | some info =>
      if info.name = "Meta" then
        (Graph.classChildren info).bind fun children => children.anyM (setsAbstract graph)
      else .ok false
  | none => .ok false

/-- An assigned name that is the name of the text method. -/
def isTextTarget (graph : Graph n) (ref : Ref n) : Bool :=
  match graph.shape ref with
  | .assignedName name => name == textMethod
  | _ => false

/-- The verdict on the value of the text method, which has to be callable.  Only the
first value counts. -/
def valueVerdict (graph : Graph n) : Option (Ref n) → Except Fault Verdict
  | none => .error (.noMember "NoneType" "infered")
  | some ref =>
      (graph.inferred ref).bind fun values =>
        match values with
        | [] => .error .noElement
        | value :: _ =>
            .ok (if graph.callable value then .quiet else .complain .notCallable)

/-- The verdict of an assignment, whose parts are its targets and then its value.  It
decides if the first part is the name of the text method, and then by the second
part. -/
def assignVerdict (graph : Graph n) (parts : List (Option (Ref n))) :
    Except Fault (Option Verdict) :=
  match parts with
  | some first :: rest =>
      if isTextTarget graph first then
        match rest with
        | [] => .error .noElement
        | second :: _ => (valueVerdict graph second).map some
      else .ok none
  | _ => .ok none

/-- The verdict of a child of a model class, if it decides. -/
def childVerdict (settings : Settings) (graph : Graph n) (child : Ref n) :
    Except Fault (Option Verdict) :=
  (isAbstractMeta graph child).bind fun abstract =>
    if abstract then .ok (some .quiet)
    else
      match graph.shape child with
      | .assign targets value => assignVerdict graph (targets.map some ++ [value])
      | .function info =>
          .ok (if info.name = textMethod then
            some (if settings.python3 then .complain .outdated else .quiet) else none)
      | _ => .ok none

/-- A decorator that goes by the name of the text decorator. -/
def isTextDecorator (graph : Graph n) (ref : Ref n) : Bool :=
  match graph.name ref with
  | .ok name => name == some textDecorator
  | .error _ => false

/-- The verdict on a class none of whose children decides. -/
def classVerdict (settings : Settings) (graph : Graph n) (info : ClassInfo n) : Verdict :=
  if settings.python3 then .quiet
  else if info.methods.contains textMethod then .complain .inherited
  else if info.decorators.any (isTextDecorator graph) then .quiet
  else .complain .missing

/-- The verdict of the first child that decides, and otherwise that of the class. -/
def verdict (settings : Settings) (graph : Graph n) (info : ClassInfo n) :
    Except Fault Verdict :=
  (Graph.classChildren info).bind fun children =>
    (children.findSomeM? (childVerdict settings graph)).map
      (·.getD (classVerdict settings graph info))

/-- The class descends from the model base class. -/
def isModel (settings : Settings) (graph : Graph n) (ref : Ref n) : Except Fault Bool :=
  Hierarchy.derivesFrom graph Member.modelNames settings.depth (.node ref)

/-- A complaint about a class. -/
structure Finding (n : Nat) where
  complaint : Complaint
  className : String
  node : Ref n

/-- The finding about a node, if there is one.  Only models are checked. -/
def check (settings : Settings) (graph : Graph n) (ref : Ref n) :
    Except Fault (Option (Finding n)) :=
  (isModel settings graph ref).bind fun model =>
    match model, graph.classInfo? ref with
    | true, some info =>
        (verdict settings graph info).map fun verdict =>
          verdict.complaint?.map fun complaint => ⟨complaint, info.name, ref⟩
    | _, _ => .ok none

end FrameworkLint.Model
