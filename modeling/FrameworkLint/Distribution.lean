import FrameworkLint.Stub.Catalog
import FrameworkLint.Version

/-!
# The distribution

The description under which the rules are published.
-/

namespace FrameworkLint

structure Distribution where
  name : String
  url : String
  author : String
  authorEmail : String
  description : String
  version : String
  packages : List String
  /-- The data files of each package. -/
  packageData : List (String × List String)
  requirements : List String
  license : String
  classifiers : List String
  keywords : String
  zipSafe : Bool

namespace Distribution

/-- The required packages, some of which no longer support Python 2.6. -/
def requirementsFor (python : Version) : Except Fault (List String) :=
  (python.atLeast [2, 7]).map fun supported =>
    "pylint-plugin-utils>=0.2.1" ::
      (if supported then ["pylint>=1.0"]
       else ["pylint>=1.0,<1.4", "astroid>=1.0,<1.3.0", "logilab-common>=0.60.0,<0.63"])

/-- The files of the stubs. -/
def stubFiles : List String :=
  Stub.catalog.map fun entry => "transforms/transforms/" ++ entry.1 ++ ".py"

/-- The description for a version of the language. -/
def forPython (python : Version) : Except Fault Distribution :=
  (requirementsFor python).map fun requirements =>
    { name := "pylint-django"
      url := "https://github.com/landscapeio/pylint-django"
      author := "landscape.io"
      authorEmail := "code@landscape.io"
      description :=
        "pylint-django is a Pylint plugin to aid Pylint in recognising and understanding " ++
          "errors caused when using the Django framework"
      version := "0.7.3"
      packages :=
        ["pylint_django", "pylint_django.augmentations", "pylint_django.checkers",
         "pylint_django.transforms"]
      packageData := [("pylint_django", stubFiles)]
      requirements := requirements
      license := "GPLv2"
      classifiers :=
        ["Development Status :: 4 - Beta",
         "Environment :: Console",
         "Intended Audience :: Developers",
         "Operating System :: Unix",
         "Topic :: Software Development :: Quality Assurance",
         "Programming Language :: Python :: 2.7",
         "Programming Language :: Python :: 3.3",
         "Programming Language :: Python :: 3.4",
         "Programming Language :: Python :: 3.5"]
      keywords := "pylint django plugin"
      zipSafe := false }

end Distribution

end FrameworkLint
