import FrameworkLint.Stub.Graft
import FrameworkLint.Stub.Statement
import FrameworkLint.Text.Fields

/-!
# The stubs and their grafts

One stub for each package of which the framework hides the definitions, and the
grafts that are always applied.
-/

namespace FrameworkLint.Stub

/-- A name of the fields that the framework defines. -/
def framework (name : String) : Expression :=
  .member (.variable "django_fields") name

/-- A name bound to nothing. -/
def blank (name : String) : Statement :=
  .assign [.variable name] .nothing

/-- A field class that adds nothing to the type of its values and the field of the
framework. -/
def fieldClass (name type : String) : Statement :=
  .classDef name [.variable type, framework name] [.pass]

/-- Requests, whose answer is not part of their class. -/
def request : Stub where
  statements :=
    [.importFrom "django.core.handlers.wsgi" [⟨"WSGIRequest", some "WSGIRequestOriginal"⟩],
     .classDef "WSGIRequest" [.variable "WSGIRequestOriginal"]
       [blank "status_code",
        .assign [.variable "content"] (.text "")]]

/-- Models and managers. -/
def models : Stub where
  statements :=
    [.importFrom "django.core.exceptions"
       [⟨"MultipleObjectsReturned", none⟩, ⟨"ObjectDoesNotExist", none⟩],
     .classDef "Model" [.variable "object"]
       [blank "_meta",
        blank "objects",
        blank "id",
        blank "pk",
        .assign [.variable "MultipleObjectsReturned"] (.variable "MultipleObjectsReturned"),
        .assign [.variable "DoesNotExist"] (.variable "ObjectDoesNotExist")],
     .classDef "Manager" [.variable "object"] [.pass]]

/-- Fields of models. -/
def modelFields : Stub where
  statements :=
    [.importFrom "django.db.models" [⟨"fields", some "django_fields"⟩],
     .importModules [⟨"datetime", none⟩],
     .importFrom "decimal" [⟨"Decimal", none⟩],
     .importFrom "utils" [⟨"PY3", none⟩],
     fieldClass "BooleanField" "bool",
     fieldClass "NullBooleanField" "bool",
     fieldClass "CharField" "str",
     fieldClass "SlugField" "CharField",
     fieldClass "URLField" "CharField",
     fieldClass "TextField" "str",
     fieldClass "EmailField" "CharField",
     fieldClass "CommaSeparatedIntegerField" "CharField",
     fieldClass "FilePathField" "CharField",
     fieldClass "IntegerField" "int",
     fieldClass "BigIntegerField" "IntegerField",
     fieldClass "SmallIntegerField" "IntegerField",
     fieldClass "PositiveIntegerField" "IntegerField",
     fieldClass "PositiveSmallIntegerField" "IntegerField",
     fieldClass "FloatField" "float",
     .classDef "DecimalField" [.variable "Decimal", framework "DecimalField"]
       [.function "__new__"
          [.required "cls", .optional "verbose_name" .nothing, .optional "name" .nothing,
           .optional "max_digits" .nothing, .optional "decimal_places" .nothing,
           .keywords "kwargs"]
          [.pass]],
     .classDef "DateField"
       [.member (.variable "datetime") "date", framework "DateField"]
       [.conditional (.variable "PY3")
          [.function "__new__"
             [.required "cls", .optional "verbose_name" .nothing, .optional "name" .nothing,
              .optional "auto_now" .false, .optional "auto_now_add" .false, .keywords "kwargs"]
             [.pass]]],
     .classDef "DateTimeField"
       [.member (.variable "datetime") "datetime", framework "DateTimeField"]
       [.conditional (.variable "PY3")
          [.function "__new__"
             [.required "cls", .optional "verbose_name" .nothing, .optional "name" .nothing,
              .optional "auto_now" .false, .optional "auto_now_add" .false, .keywords "kwargs"]
             [.pass]]],
     .classDef "TimeField"
       [.member (.variable "datetime") "time", framework "TimeField"]
       [.conditional (.variable "PY3")
          [.function "__new__"
             [.required "cls", .optional "verbose_name" .nothing, .optional "name" .nothing,
              .optional "auto_now" .false, .optional "auto_now_add" .false, .keywords "kwargs"]
             [.pass]]],
     fieldClass "GenericIPAddressField" "str",
     fieldClass "IPAddressField" "str"]

/-- Fields of models that hold files. -/
def fileFields : Stub where
  statements :=
    [.importFrom "django.db.models.fields" [⟨"files", some "django_fields"⟩],
     .classDef "FileField" [framework "FieldFile", framework "FileField"]
       [.function "__init__"
          [.required "self", .optional "verbose_name" .nothing, .optional "name" .nothing,
           .optional "upload_to" (.text ""), .optional "storage" .nothing, .keywords "kwargs"]
          [.evaluate
             (.call (.member (framework "FileField") "__init__")
               [.variable "verbose_name", .variable "name", .variable "upload_to",
                .variable "storage", .entries (.variable "kwargs")])]],
     .classDef "ImageField" [framework "ImageFieldFile", framework "ImageField"]
       [.function "__init__"
          [.required "self", .optional "verbose_name" .nothing, .optional "name" .nothing,
           .optional "width_field" .nothing, .optional "height_field" .nothing, .keywords "kwargs"]
          [.evaluate
             (.call (.member (framework "ImageField") "__init__")
               [.variable "verbose_name", .variable "name", .variable "width_field",
                .variable "height_field", .entries (.variable "kwargs")])]]]

/-- Forms. -/
def forms : Stub where
  statements :=
    [.importFrom "django.forms" [⟨"BaseForm", none⟩, ⟨"BaseModelForm", none⟩],
     .classDef "Form" [.variable "BaseForm"]
       [blank "cleaned_data",
        blank "fields",
        blank "instance",
        blank "data",
        blank "_errors",
        blank "base_fields"],
     .classDef "ModelForm" [.variable "BaseModelForm"]
       [.assign [.variable "save_m2m"] (.lambda [] .nothing),
        blank "cleaned_data",
        blank "fields",
        blank "instance",
        blank "data",
        blank "_errors",
        blank "base_fields"]]

/-- Fields of forms. -/
def formFields : Stub where
  statements :=
    [.importModules [⟨"datetime", none⟩],
     .importFrom "decimal" [⟨"Decimal", none⟩],
     .importFrom "django.forms" [⟨"fields", some "django_fields"⟩],
     .importFrom "utils" [⟨"PY3", none⟩],
     fieldClass "BooleanField" "bool",
     fieldClass "NullBooleanField" "bool",
     fieldClass "CharField" "str",
     fieldClass "EmailField" "CharField",
     fieldClass "GenericIPAddressField" "CharField",
     fieldClass "IPAddressField" "CharField",
     fieldClass "SlugField" "CharField",
     fieldClass "URLField" "CharField",
     fieldClass "RegexField" "CharField",
     fieldClass "FilePathField" "CharField",
     fieldClass "IntegerField" "int",
     .classDef "DecimalField" [.variable "Decimal", framework "DecimalField"]
       [.function "__new__"
          [.required "cls", .optional "max_value" .nothing, .optional "min_value" .nothing,
           .optional "max_digits" .nothing, .optional "decimal_places" .nothing,
           .positional "args", .keywords "kwargs"]
          [.pass]],
     fieldClass "FloatField" "float",
     .classDef "DateField"
       [.member (.variable "datetime") "date", framework "DateField"]
       [.conditional (.variable "PY3")
          [.function "__new__"
             [.required "cls", .optional "input_formats" .nothing, .positional "args",
              .keywords "kwargs"]
             [.pass]]],
     .classDef "DateTimeField"
       [.member (.variable "datetime") "datetime", framework "DateTimeField"]
       [.conditional (.variable "PY3")
          [.function "__new__"
             [.required "cls", .optional "input_formats" .nothing, .positional "args",
              .keywords "kwargs"]
             [.pass]]],
     .classDef "SplitDateTimeField"
       [.member (.variable "datetime") "datetime", framework "SplitDateTimeField"]
       [.conditional (.variable "PY3")
          [.function "__new__"
             [.required "cls", .optional "input_date_formats" .nothing,
              .optional "input_time_formats" .nothing, .positional "args", .keywords "kwargs"]
             [.pass]]],
     .classDef "TimeField"
       [.member (.variable "datetime") "time", framework "TimeField"]
       [.conditional (.variable "PY3")
          [.function "__new__"
             [.required "cls", .optional "input_formats" .nothing, .positional "args",
              .keywords "kwargs"]
             [.pass]]],
     fieldClass "ChoiceField" "object",
     fieldClass "MultipleChoiceField" "ChoiceField",
     fieldClass "TypedChoiceField" "ChoiceField",
     fieldClass "TypedMultipleChoiceField" "ChoiceField"]

/-- Texts in the language of the reader. -/
def messages : Stub where
  statements :=
    [.assign [.variable "ugettext_lazy"] (.lambda ["x"] .nothing)]

/-- Views. -/
def views : Stub where
  statements :=
    [.classDef "View" [.variable "object"]
       [blank "request",
        .assign [.variable "args"] .emptyTuple,
        .assign [.variable "kwargs"] .emptyDict,
        .function "as_view"
          [.positional "args", .keywords "kwargs"]
          [.pass]]]

/-- Documents of a document store. -/
def documents : Stub where
  statements :=
    [.importFrom "mongoengine.errors"
       [⟨"DoesNotExist", none⟩, ⟨"MultipleObjectsReturned", none⟩],
     .importFrom "mongoengine.queryset.manager" [⟨"QuerySetManager", none⟩],
     .classDef "Document" [.variable "object"]
       [blank "_meta",
        .assign [.variable "objects"] (.call (.variable "QuerySetManager") []),
        blank "id",
        blank "pk",
        .assign [.variable "MultipleObjectsReturned"] (.variable "MultipleObjectsReturned"),
        .assign [.variable "DoesNotExist"] (.variable "DoesNotExist"),
        .assign [.variable "save"] (.lambda [] .nothing)]]

/-- Every stub with the name of its file. -/
def catalog : Table Stub :=
  [("django_core_handlers_wsgi", request),
   ("django_db_models", models),
   ("django_db_models_fields", modelFields),
   ("django_db_models_fields_files", fileFields),
   ("django_forms", forms),
   ("django_forms_fields", formFields),
   ("django_utils_translation", messages),
   ("django_views_generic_base", views),
   ("mongoengine", documents)]

/-- The name of the stub of a package: its dots become underscores. -/
def fileName (package : String) : String :=
  String.ofList (package.toList.map fun character => if character = '.' then '_' else character)

/-- The part of a path that is looked up first. -/
def firstStep (path : String) : String :=
  String.ofList (((Text.fields (· == '/') path.toList).find? (!·.isEmpty)).getD [])

/-- The fault of a package without a stub, by the path at which the stub was looked for.
A null character cannot stand in a path, and a step of a path has at most 255 bytes. -/
def lookupFault (path : String) : Fault :=
  if path.toList.contains '\x00' then .notAFileName
  else if 255 < (firstStep path).utf8ByteSize then .longFileName
  else .noStub

/-- The stub of a package. -/
def ofPackage (package : String) : Except Fault Stub :=
  match catalog.lookup (fileName package) with
  | some stub => .ok stub
  | none => .error (lookupFault (fileName package ++ ".py"))

/-- The graft of some names of the stub of a package. -/
def graft (package : String) (names : List String) : Except Fault (Graft Definition) :=
  (ofPackage package).map fun stub => ⟨package, names, stub.locals⟩

/-- The grafts that are always applied. -/
def standardGrafts : List (Graft Definition) :=
  [⟨"django.core.handlers.wsgi", ["WSGIRequest"], request.locals⟩,
   ⟨"django.views.generic.base", ["View"], views.locals⟩,
   ⟨"django.forms", ["Form"], forms.locals⟩,
   ⟨"django.forms", ["ModelForm"], forms.locals⟩,
   ⟨"django.db.models", ["Model", "Manager"], models.locals⟩,
   ⟨"django.utils.translation", ["ugettext_lazy"], messages.locals⟩,
   ⟨"mongoengine", ["Document"], documents.locals⟩]

end FrameworkLint.Stub
