import FrameworkLint.Hierarchy
import FrameworkLint.Settings
import FrameworkLint.Text.Affix

/-!
# Roles of classes, methods and names

The framework gives a role to a class by its bases, its name and the place where it
stands, to a method by the class around it, and to a constant by the module around
it.
-/

namespace FrameworkLint.Role

variable {n : Nat}

/-- The node descends from one of the names. -/
def derives (settings : Settings) (graph : Graph n) (names : List String) (ref : Ref n) :
    Except Fault Bool :=
  Hierarchy.derivesFrom graph names settings.depth (.node ref)

/-- An administration page: a class outside of other classes whose name says so.  The
unknown name has no end that could be read. -/
def adminPage (settings : Settings) (graph : Graph n) (ref : Ref n) : Except Fault Bool :=
  (graph.name ref).bind fun
    | none => .error .notASequence
    | some name =>
        if Text.ends "Admin" name && !graph.parentIsClass ref then
          derives settings graph ["django.contrib.admin.options.ModelAdmin"] ref
        else .ok false

/-- A class named `label` directly inside a class that descends from one of the
names. -/
def innerClass (settings : Settings) (graph : Graph n) (label : String) (names : List String)
    (ref : Ref n) : Except Fault Bool :=
  (graph.name ref).bind fun name =>
    if name = some label then
      match (graph.parent ref).filter graph.isClass with
      | some outer => derives settings graph names outer
      | none => .ok false
    else .ok false

/-- Classes with media definitions. -/
def mediaOwners : List String :=
  ["django.contrib.admin.options.ModelAdmin", "django.forms.widgets.Media",
   "django.db.models.base.Model", ".Model", "django.forms.forms.Form", ".Form",
   "django.forms.widgets.Widget", ".Widget", "django.forms.models.ModelForm", ".ModelForm"]

def mediaClass (settings : Settings) (graph : Graph n) (ref : Ref n) : Except Fault Bool :=
  innerClass settings graph "Media" mediaOwners ref

/-- Classes with options in an inner class. -/
def metaOwners : List String :=
  [".Model", "django.db.models.base.Model", ".Form", "django.forms.forms.Form", ".ModelForm",
   "django.forms.models.ModelForm", "rest_framework.serializers.ModelSerializer",
   "rest_framework.generics.GenericAPIView", "rest_framework.viewsets.ReadOnlyModelViewSet",
   "rest_framework.viewsets.ModelViewSet", "django_filters.filterset.FilterSet"]

def metaClass (settings : Settings) (graph : Graph n) (ref : Ref n) : Except Fault Bool :=
  innerClass settings graph "Meta" metaOwners ref

/-- Classes with options for their place in a tree. -/
def treeMetaOwners : List String :=
  ["django.db.models.base.Model", ".Model", "django.forms.forms.Form", ".Form",
   "django.forms.models.ModelForm", ".ModelForm"]

def treeMetaClass (settings : Settings) (graph : Graph n) (ref : Ref n) : Except Fault Bool :=
  innerClass settings graph "MPTTMeta" treeMetaOwners ref

/-- A test case: its name says so, or it stands inside another class. -/
def testCase (settings : Settings) (graph : Graph n) (ref : Ref n) : Except Fault Bool :=
  (graph.name ref).bind fun name =>
    if name.any (Text.ends "Test") || graph.parentIsClass ref then
      derives settings graph ["django.test.testcases.TestCase"] ref
    else .ok false

/-- The node has one of the names. -/
def isNamed (names : List String) (name : Option String) : Bool :=
  name.any names.contains

theorem isNamed_iff (names : List String) (name : String) :
    isNamed names (some name) = true ↔ name ∈ names :=
  List.contains_iff_mem

theorem isNamed_iff_exists (names : List String) (name : Option String) :
    isNamed names name = true ↔ ∃ label ∈ names, name = some label := by
  cases name with
  | none => simp [isNamed]
  | some label => simp [isNamed_iff]

/-- A method of a view that answers requests. -/
def requestHandler (settings : Settings) (graph : Graph n) (ref : Ref n) : Except Fault Bool :=
  (graph.name ref).bind fun name =>
    if isNamed ["get", "post"] name then
      match graph.enclosingClass? ref with
      | some (outer, info) =>
          if Text.ends "View" info.name then derives settings graph [".View"] outer else .ok false
      | none => .ok false
    else .ok false

/-- The parameters of a function. -/
def parameters (graph : Graph n) (ref : Ref n) : Except Fault (List String) :=
  match graph.shape (graph.definition ref) with
  | .function info => .ok info.parameters
  | _ => .error (graph.missing ref "argnames")

/-- A method of a view that answers requests and takes the request. -/
def requestParameter (settings : Settings) (graph : Graph n) (ref : Ref n) :
    Except Fault Bool :=
  (requestHandler settings graph ref).bind fun handler =>
    if handler then (parameters graph ref).map (·.contains "request") else .ok false

/-- A name assigned in a media definition. -/
def mediaConstant (graph : Graph n) (ref : Ref n) : Except Fault Bool :=
  (graph.name ref).map fun name =>
    isNamed ["js"] name && (graph.enclosingClass? ref).any fun (_, info) => info.name == "Media"

/-- One of the names, in a module whose name passes the test.  It is a fault if there
is no module around the name. -/
def moduleConstant (names : List String) (test : String → Bool) (graph : Graph n) (ref : Ref n) :
    Except Fault Bool :=
  (graph.name ref).bind fun name =>
    if isNamed names name then
      match graph.enclosingModule? ref with
      | some home => .ok (test home)
      | none => .error (.noMember "NoneType" "parent")
    else .ok false

/-- The registry of a module of template tags. -/
def tagRegistry (graph : Graph n) (ref : Ref n) : Except Fault Bool :=
  moduleConstant ["register"] (Text.contains "templatetags.") graph ref

/-- The constants of a module of addresses. -/
def addressConstant (graph : Graph n) (ref : Ref n) : Except Fault Bool :=
  moduleConstant ["urlpatterns", "app_name"] (Text.ends "urls") graph ref

end FrameworkLint.Role
