import FrameworkLint.Hierarchy
import FrameworkLint.Member.Family
import FrameworkLint.Settings
import FrameworkLint.Text.Affix

/-!
# Access to members

The tests on a node that reads a member of an object: whether the framework provides
the member, and whether the access goes to objects that are related through a key.
The object is known by the values of its expression.
-/

namespace FrameworkLint.Member

variable {n : Nat}

/-- The names of the model base class. -/
def modelNames : List String :=
  ["django.db.models.base.Model", ".Model"]

/-- The entity that a value stands for: the object that reaches the bases of a class
stands for that class. -/
def subject (graph : Graph n) (value : Ref n) : Entity n :=
  match graph.shape value with
  | .superOf type => .node type
  | _ => .node value

/-- A value belongs to a family if it is one of the owners or descends from one. -/
def belongs (settings : Settings) (graph : Graph n) (owners : List String) (value : Ref n) :
    Except Fault Bool :=
  (Hierarchy.derivesFrom graph owners settings.depth (subject graph value)).bind fun derives =>
    if derives then .ok true
    else (graph.qualifiedName (subject graph value)).map (Hierarchy.wanted owners)

/-- Some value of an expression belongs to a family.  If the values are not known, none
does. -/
def someBelongs (settings : Settings) (graph : Graph n) (owners : List String)
    (expression : Ref n) : Except Fault Bool :=
  Fault.settle
    ((graph.inferred expression).bind fun values => values.anyM (belongs settings graph owners))

/-- The node reads a member of the family from a value that belongs to the family. -/
def provided (settings : Settings) (graph : Graph n) (family : Family) (ref : Ref n) :
    Except Fault Bool :=
  (graph.memberName ref).bind fun name =>
    if name.any family.members.contains then
      match graph.receiver? ref with
      | none => .ok false
      | some receiver => someBelongs settings graph family.owners receiver
    else .ok false

/-- Some value descends from one of the names. -/
def someDerives (settings : Settings) (graph : Graph n) (names : List String)
    (values : List (Ref n)) : Except Fault Bool :=
  values.anyM fun value => Hierarchy.derivesFrom graph names settings.depth (.node value)

/-- The name of an accessor of the displayed text of a choice. -/
def isDisplayName (name : String) : Bool :=
  Text.ends "_display" name && Text.begins "get_" name

/-- The node reads the accessor of the displayed text of a choice from a model.  There
is no answer for a member that does not have the name of such an accessor. -/
def displayAccessor (settings : Settings) (graph : Graph n) (ref : Ref n) :
    Except Fault (Option Bool) :=
  (graph.memberName ref).bind fun name =>
    if name.any isDisplayName then
      match graph.receiver? ref with
      | none => .ok (some false)
      | some receiver =>
          (Fault.settle
            ((graph.inferred receiver).bind (someDerives settings graph modelNames))).map some
    else .ok none

/-- The parent reads a member that managers have. -/
def usedAsManager (graph : Graph n) (ref : Ref n) : Bool :=
  match (graph.parent ref).map graph.shape with
  | some (.member name _) => Names.manager.contains name
  | _ => false

/-- The access looks like one to a set of related objects: by the name of the member,
or by what is done with it. -/
def looksRelated (graph : Graph n) (ref : Ref n) (name : Option String) : Bool :=
  name.any (fun name => Names.manager.contains name || Text.ends "_set" name) ||
    usedAsManager graph ref

/-- Names of the classes whose objects have sets of related objects. -/
def relatedOwners : List String :=
  "django.db.models.manager.Manager" :: modelNames

/-- Whether the check of a member access goes on: it does unless the access looks like
one to a set of related objects and some value of the object is a model or a
manager. -/
def relatedSetPasses (settings : Settings) (graph : Graph n) (ref : Ref n) :
    Except Fault Bool :=
  (graph.memberName ref).bind fun name =>
    if looksRelated graph ref name then
      match graph.object? ref with
      | none => .error (.noMember "NoneType" "infered")
      | some object =>
          match graph.inferred object with
          | .error fault => if fault.isUnresolved then .ok true else .error fault
          | .ok values => (someDerives settings graph relatedOwners values).map (!·)
    else .ok true

/-- Whether the check of a member access goes on: it does unless the member is named
like the column of a key. -/
def relatedKeyPasses (graph : Graph n) (ref : Ref n) : Except Fault Bool :=
  (graph.memberName ref).map fun name => !name.any (Text.ends "_id")

/-- The node reads the description of a model, which is public since version 1.8. -/
def publicMeta (settings : Settings) (graph : Graph n) (ref : Ref n) : Except Fault Bool :=
  (settings.frameworkVersion.atLeast [1, 8]).bind fun isPublic =>
    if isPublic then (graph.memberName ref).map (· == some "_meta") else .ok false

end FrameworkLint.Member
