import FrameworkLint.Member.Access
import FrameworkLint.Role

/-!
# Tests and gates

The tests that decide whether messages about a node are dropped, and the gates that
decide whether a node is checked at all.  Both are data, so that a list of rules can
be inspected, permuted and repeated.
-/

namespace FrameworkLint.Rule

variable {n : Nat}

inductive Test
  /-- The node descends from one of the names. -/
  | derives (names : List String)
  /-- The node reads a member that the framework provides. -/
  | provided (family : Member.Family)
  | displayAccessor
  | publicMeta
  | adminPage
  | mediaClass
  | metaClass
  | treeMetaClass
  | testCase
  | requestHandler
  | requestParameter
  | mediaConstant
  | tagRegistry
  | addressConstant
  deriving DecidableEq

namespace Test

/-- The answer of a test; `none` where a test has nothing to say about the node. -/
def answer (settings : Settings) (graph : Graph n) (ref : Ref n) :
    Test → Except Fault (Option Bool)
  | .derives names => (Role.derives settings graph names ref).map some
  | .provided family => (Member.provided settings graph family ref).map some
  | .displayAccessor => Member.displayAccessor settings graph ref
  | .publicMeta => (Member.publicMeta settings graph ref).map some
  | .adminPage => (Role.adminPage settings graph ref).map some
  | .mediaClass => (Role.mediaClass settings graph ref).map some
  | .metaClass => (Role.metaClass settings graph ref).map some
  | .treeMetaClass => (Role.treeMetaClass settings graph ref).map some
  | .testCase => (Role.testCase settings graph ref).map some
  | .requestHandler => (Role.requestHandler settings graph ref).map some
  | .requestParameter => (Role.requestParameter settings graph ref).map some
  | .mediaConstant => (Role.mediaConstant graph ref).map some
  | .tagRegistry => (Role.tagRegistry graph ref).map some
  | .addressConstant => (Role.addressConstant graph ref).map some

/-- A test holds if it answers yes; having nothing to say counts as no. -/
def holds (settings : Settings) (graph : Graph n) (ref : Ref n) (test : Test) :
    Except Fault Bool :=
  (test.answer settings graph ref).map (·.getD false)

end Test

inductive Gate
  /-- Keeps accesses to sets of related objects out. -/
  | relatedSet
  /-- Keeps accesses to the columns of keys out. -/
  | relatedKey
  deriving DecidableEq

/-- The node is let through and gets checked. -/
def Gate.passes (settings : Settings) (graph : Graph n) (ref : Ref n) :
    Gate → Except Fault Bool
  | .relatedSet => Member.relatedSetPasses settings graph ref
  | .relatedKey => Member.relatedKeyPasses graph ref

end FrameworkLint.Rule
