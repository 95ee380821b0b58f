import FrameworkLint.Member.Names

/-!
# Families of members

A family says which members the framework adds to which classes.  A class belongs to
its framework module, and again to a stub of that module without a name; so it goes
by its qualified name and by the bare name after a dot.
-/

namespace FrameworkLint.Member

structure Family where
  /-- Qualified names of the classes that own the members. -/
  owners : List String
  members : List String
  deriving DecidableEq

namespace Family

def manager : Family :=
  { owners :=
      ["django.db.models.manager.Manager", ".Manager", "django.db.models.query.QuerySet",
       ".QuerySet"]
    members := Names.manager ++ Names.querySet }

def modelAdmin : Family :=
  { owners := ["django.contrib.admin.options.BaseModelAdmin", ".BaseModelAdmin"]
    members := Names.modelAdmin }

def model : Family :=
  { owners := ["django.db.models.base.Model", ".Model"]
    members := Names.model }

def field : Family :=
  { owners := ["django.db.models.fields.Field", ".Field"]
    members := Names.field }

def charField : Family :=
  { owners := ["django.db.models.fields.CharField", ".CharField"]
    members := Names.charField }

def dateField : Family :=
  { owners := ["django.db.models.fields.DateField", ".DateField"]
    members := Names.dateField }

def decimalField : Family :=
  { owners := ["django.db.models.fields.DecimalField", ".DecimalField"]
    members := Names.decimalField }

def fileField : Family :=
  { owners := ["django.db.models.fields.files.FileField", ".FileField"]
    members := Names.fileField }

def imageField : Family :=
  { owners := ["django.db.models.fields.files.ImageField", ".ImageField"]
    members := Names.imageField }

def addressField : Family :=
  { owners := ["django.db.models.fields.GenericIPAddressField", ".GenericIPAddressField"]
    members := Names.addressField }

def slugField : Family :=
  { owners := ["django.db.models.fields.SlugField", ".SlugField"]
    members := Names.slugField }

def foreignKey : Family :=
  { owners := ["django.db.models.fields.related.ForeignKey", ".ForeignKey"]
    members := Names.foreignKey }

def manyToMany : Family :=
  { owners := ["django.db.models.fields.related.ManyToManyField", ".ManyToManyField"]
    members := Names.manyToMany }

def oneToOne : Family :=
  { owners := ["django.db.models.fields.related.OneToOneField", ".OneToOneField"]
    members := Names.oneToOne }

/-- The families of the database layer and of the administration pages. -/
def core : List Family :=
  [manager, modelAdmin, model, field, charField, dateField, decimalField, fileField, imageField,
   addressField, slugField, foreignKey, manyToMany, oneToOne]

end Family

end FrameworkLint.Member
