import FrameworkLint.Proofs.Graph.Chain
import FrameworkLint.Role
import Mathlib.Data.Fin.VecNotation

/-!
# Roles given by the nearest scope

A handler of requests and the scripts of a media definition have their role from the nearest
class around them, the constants of a module from the nearest module.  Whatever stands between
a name and that scope is passed over: a function, a condition, and for the module a class too.
If no module is around a constant, the question for it is a fault, while a name without a class
around it just has no role.  Nothing outside of the nearest scope matters, except for what the
class descends from.
-/

namespace FrameworkLint.Role

open FrameworkLint.Graph

variable {n : Nat} {graph other : Graph n} {ref outer : Ref n} {chain before : List (Ref n)}
  {name : Option String}

/-! ## Roles given by a class -/

/-- The test for a handler comes to anything but a no exactly if it gets as far as the search for
views and the search comes to that. -/
theorem requestHandler_eq_iff {settings : Settings} (called : graph.name ref = .ok name)
    (ends : Climb graph (graph.parent ref) chain none) {outcome : Except Fault Bool}
    (decided : outcome ≠ .ok false) :
    requestHandler settings graph ref = outcome ↔
      (name = some "get" ∨ name = some "post") ∧
        ∃ outer info, Nearest graph.classDef? chain outer info ∧
          "View".toList <:+ info.name.toList ∧
          derives settings graph [".View"] outer = outcome := by
  have named : isNamed ["get", "post"] name = true ↔ name = some "get" ∨ name = some "post" := by
    simp [isNamed_iff_exists]
  simp only [← enclosingClass_eq_some_iff ends, ← Text.ends_iff, ← named]
  unfold requestHandler
  rw [called]
  dsimp only [Except.bind]
  split
  · next isHandler =>
      cases graph.enclosingClass? ref with
      | none => simp [decided.symm]
      | some scope =>
          obtain ⟨outer, info⟩ := scope
          by_cases isView : Text.ends "View" info.name = true
          · simp [isHandler, isView]
          · simp [isView, decided.symm]
  · next unnamed => simp [unnamed, decided.symm]

/-- The test for scripts always has an answer. -/
theorem mediaConstant_decided (called : graph.name ref = .ok name)
    (ends : Climb graph (graph.parent ref) chain none) :
    ∃ answer, mediaConstant graph ref = .ok answer ∧
      (answer = true ↔ name = some "js" ∧
        ∃ outer info, Nearest graph.classDef? chain outer info ∧ info.name = "Media") := by
  refine ⟨_, by unfold mediaConstant; rw [called]; rfl, ?_⟩
  have named : isNamed ["js"] name = true ↔ name = some "js" := by simp [isNamed_iff_exists]
  simp only [← enclosingClass_eq_some_iff ends, ← named, Bool.and_eq_true]
  refine and_congr_right fun _ => ?_
  cases graph.enclosingClass? ref with
  | none => simp
  | some scope =>
      obtain ⟨outer, info⟩ := scope
      simp

/-! ## Roles given by a module -/

/-- The outcome is a yes exactly if the name qualifies and the nearest module fits.  It is a fault
exactly if the name qualifies and there is no module. -/
def DecidedByModule (graph : Graph n) (chain : List (Ref n)) (Qualifies : Prop)
    (Fits : String → Prop) (outcome : Except Fault Bool) : Prop :=
  (outcome = .ok true ↔
    Qualifies ∧ ∃ home label, Nearest graph.moduleName? chain home label ∧ Fits label) ∧
  ∀ fault, outcome = .error fault ↔
    Qualifies ∧ (∀ outer ∈ chain, graph.moduleName? outer = none) ∧
      fault = .noMember "NoneType" "parent"

theorem moduleConstant_decided {names : List String} {test : String → Bool} {Qualifies : Prop}
    {Fits : String → Prop} (named : isNamed names name = true ↔ Qualifies)
    (tested : ∀ label, test label = true ↔ Fits label) (called : graph.name ref = .ok name)
    (ends : Climb graph (graph.parent ref) chain none) :
    DecidedByModule graph chain Qualifies Fits (moduleConstant names test graph ref) := by
  have found : (∃ home label, Nearest graph.moduleName? chain home label ∧ Fits label) ↔
      ∃ label, graph.enclosingModule? ref = some label ∧ test label = true := by
    simp only [enclosingModule_eq_some_iff ends, tested]
    rw [exists_comm]
    simp only [exists_and_right]
  unfold DecidedByModule moduleConstant
  rw [called, found, ← enclosingModule_eq_none_iff ends]
  simp only [← named]
  dsimp only [Except.bind]
  split
  · next qualifies =>
      cases graph.enclosingModule? ref with
      | none =>
          refine ⟨by simp, fun fault => ?_⟩
          rw [Except.error.injEq, eq_comm]
          simp [qualifies]
      | some label => simp [qualifies]
  · next unnamed => simp [unnamed]

/-! ## What is further out -/

theorem mediaConstant_eq_of_agree (agree : AgreeUpTo graph other ref before outer)
    (ends : Climb graph (graph.parent ref) chain none) (isClass : graph.classDef? outer ≠ none) :
    mediaConstant other ref = mediaConstant graph ref := by
  unfold mediaConstant
  rw [agree.name, agree.enclosingClass_eq ends isClass]

theorem moduleConstant_eq_of_agree (agree : AgreeUpTo graph other ref before outer)
    (ends : Climb graph (graph.parent ref) chain none) (isModule : graph.moduleName? outer ≠ none)
    (names : List String) (test : String → Bool) :
    moduleConstant names test other ref = moduleConstant names test graph ref := by
  unfold moduleConstant
  rw [agree.name, agree.enclosingModule_eq ends isModule]

/-- What is around the nearest class can matter only by what the class descends from. -/
theorem requestHandler_eq_of_agree {settings : Settings} {info : ClassInfo n}
    (agree : AgreeUpTo graph other ref before outer)
    (ends : Climb graph (graph.parent ref) chain none)
    (nearest : Nearest graph.classDef? chain outer info)
    (same : derives settings other [".View"] outer = derives settings graph [".View"] outer) :
    requestHandler settings other ref = requestHandler settings graph ref := by
  have found := (enclosingClass_eq_some_iff ends outer info).mpr nearest
  unfold requestHandler
  rw [agree.name, agree.enclosingClass_eq ends nearest.answers, found]
  simp only [same]

/-! ## The nearest scope decides -/

/-- The four roles of a node whose chain of parents ends.  The walk over the chain ends too, after
at most as many steps as there are nodes.  A handler is in the end a matter of the search for
views above the nearest class, and fails only with this search; the scripts of a media definition
are a matter of the name of that class; the two kinds of constants are a matter of the nearest
module, and fail if there is none.  In a graph that agrees up to the nearest scope, and whose
chain of parents may go on without end, the answers are the same. -/
theorem nearestScope_decides (settings : Settings) (graph : Graph n) (ref : Ref n)
    (name : Option String) (chain : List (Ref n)) (called : graph.name ref = .ok name)
    (ends : Climb graph (graph.parent ref) chain none) :
    (∀ steps, n ≤ steps → graph.lineage steps (graph.parent ref) = chain) ∧
    (∀ outcome, outcome ≠ .ok false →
      (requestHandler settings graph ref = outcome ↔
        (name = some "get" ∨ name = some "post") ∧
          ∃ outer info, Nearest graph.classDef? chain outer info ∧
            "View".toList <:+ info.name.toList ∧
            derives settings graph [".View"] outer = outcome)) ∧
    (∃ answer, mediaConstant graph ref = .ok answer ∧
      (answer = true ↔ name = some "js" ∧
        ∃ outer info, Nearest graph.classDef? chain outer info ∧ info.name = "Media")) ∧
    DecidedByModule graph chain (name = some "urlpatterns" ∨ name = some "app_name")
      (fun label => "urls".toList <:+ label.toList) (addressConstant graph ref) ∧
    DecidedByModule graph chain (name = some "register")
      (fun label => "templatetags.".toList <:+: label.toList) (tagRegistry graph ref) ∧
    (∀ other before outer, AgreeUpTo graph other ref before outer →
      (∀ info, Nearest graph.classDef? chain outer info →
        mediaConstant other ref = mediaConstant graph ref ∧
        (derives settings other [".View"] outer = derives settings graph [".View"] outer →
          requestHandler settings other ref = requestHandler settings graph ref)) ∧
      (∀ label, Nearest graph.moduleName? chain outer label →
        addressConstant other ref = addressConstant graph ref ∧
        tagRegistry other ref = tagRegistry graph ref)) := by
  refine ⟨fun steps => ends.lineage_of_ends, fun outcome => requestHandler_eq_iff called ends,
    mediaConstant_decided called ends, ?_, ?_, ?_⟩
  · exact moduleConstant_decided (by simp [isNamed_iff_exists]) (Text.ends_iff "urls") called ends
  · exact moduleConstant_decided (by simp [isNamed_iff_exists])
      (Text.contains_iff "templatetags.") called ends
  · intro other before outer agree
    constructor
    · intro info nearest
      refine ⟨mediaConstant_eq_of_agree agree ends nearest.answers, ?_⟩
      exact requestHandler_eq_of_agree agree ends nearest
    · intro label nearest
      exact ⟨moduleConstant_eq_of_agree agree ends nearest.answers _ _,
        moduleConstant_eq_of_agree agree ends nearest.answers _ _⟩

/-- A view of a shop.  One of its methods has a handler and a media definition inside, and a
registry stands beside the scripts.  The addresses of the module are given under a condition, and
one name is outside of everything, as is a view whose base cannot be evaluated. -/
def nestedShop : Graph 16 where
  node := ![
    { shape := .moduleDef "shop.templatetags.urls" },
    { shape := .classDef { name := "PageView", bases := some [2] }, parent := some 0 },
    { shape := .usedName "View", inference := { values := [3], fault := none } },
    { shape := .classDef { name := "View", qualifiedName := some ".View" } },
    { shape := .function { name := "dispatch" }, parent := some 1 },
    { shape := .function { name := "get" }, parent := some 4 },
    { shape := .classDef { name := "Media" }, parent := some 4 },
    { shape := .assign [8, 9] none, parent := some 6 },
    { shape := .assignedName "js", parent := some 7 },
    { shape := .assignedName "register", parent := some 7 },
    { shape := .assignedName "urlpatterns", parent := some 11 },
    { shape := .plain .conditional, parent := some 0 },
    { shape := .assignedName "app_name" },
    { shape := .classDef { name := "BrokenView", bases := some [14] } },
    { shape := .usedName "Broken", inference := { fault := some .analysis } },
    { shape := .function { name := "get" }, parent := some 13 }]

/-- The same shop, but the chain of parents goes from the media definition back into it. -/
def circularShop : Graph 16 where
  node := Function.update nestedShop.node 6
    { shape := .classDef { name := "Media" }, parent := some 7 }

theorem circularShop_agrees : AgreeUpTo nestedShop circularShop 8 [7] 6 where
  name := rfl
  here := .up (.stay _)
  there := .up (.stay _)
  shape inner member := by
    rcases List.mem_cons.mp member with rfl | member
    · rfl
    · rw [List.mem_singleton.mp member]
      rfl

/-- Each name has its role from the nearest scope, however deep it is inside of it.  The handler
whose view cannot be searched and the name outside of everything fail. -/
theorem nestedShop_decided :
    (nestedShop.name 5 = .ok (some "get") ∧
      Climb nestedShop (nestedShop.parent 5) [4, 1, 0] none ∧
      requestHandler {} nestedShop 5 = .ok true) ∧
    requestHandler {} nestedShop 15 = .error .analysis ∧
    (nestedShop.name 8 = .ok (some "js") ∧
      Climb nestedShop (nestedShop.parent 8) [7, 6, 4, 1, 0] none ∧
      mediaConstant nestedShop 8 = .ok true ∧ mediaConstant circularShop 8 = .ok true) ∧
    tagRegistry nestedShop 9 = .ok true ∧
    addressConstant nestedShop 10 = .ok true ∧
    addressConstant nestedShop 12 = .error (.noMember "NoneType" "parent") := by
  have method : Climb nestedShop (some 4) [4, 1, 0] none := .up (.up (.up (.stay none)))
  have media : Climb nestedShop (some 7) [7, 6, 4, 1, 0] none := .up (.up method)
  have inView : Nearest nestedShop.classDef? [4, 1, 0] 1 { name := "PageView", bases := some [2] } :=
    ⟨[4], [0], rfl, by decide, rfl⟩
  have inBroken :
      Nearest nestedShop.classDef? [13] 13 { name := "BrokenView", bases := some [14] } :=
    ⟨[], [], rfl, nofun, rfl⟩
  have inMedia : Nearest nestedShop.classDef? [7, 6, 4, 1, 0] 6 { name := "Media" } :=
    ⟨[7], [4, 1, 0], rfl, by decide, rfl⟩
  have aroundMedia : Nearest nestedShop.moduleName? [7, 6, 4, 1, 0] 0 "shop.templatetags.urls" :=
    ⟨[7, 6, 4, 1], [], rfl, by decide, rfl⟩
  have aroundCondition : Nearest nestedShop.moduleName? [11, 0] 0 "shop.templatetags.urls" :=
    ⟨[11], [], rfl, by decide, rfl⟩
  obtain ⟨_, handler, _⟩ := nearestScope_decides {} nestedShop 5 _ _ rfl method
  obtain ⟨_, broken, _⟩ := nearestScope_decides {} nestedShop 15 _ [13] rfl (.up (.stay none))
  obtain ⟨_, _, ⟨_, asked, accepts⟩, _, _, unaffected⟩ :=
    nearestScope_decides {} nestedShop 8 _ _ rfl media
  obtain ⟨_, _, _, _, registry, _⟩ := nearestScope_decides {} nestedShop 9 _ _ rfl media
  obtain ⟨_, _, _, addresses, _⟩ :=
    nearestScope_decides {} nestedShop 10 _ [11, 0] rfl (.up (.up (.stay none)))
  obtain ⟨_, _, _, outside, _⟩ := nearestScope_decides {} nestedShop 12 _ [] rfl (.stay none)
  rw [accepts.mpr ⟨rfl, 6, _, inMedia, rfl⟩] at asked
  refine ⟨⟨rfl, method, ?_⟩, ?_, ⟨rfl, media, asked, ?_⟩, ?_, ?_, ?_⟩
  · exact (handler (.ok true) (by nofun)).mpr
      ⟨Or.inl rfl, 1, _, inView, (Text.ends_iff _ _).mp rfl, rfl⟩
  · exact (broken (.error .analysis) (by nofun)).mpr
      ⟨Or.inl rfl, 13, _, inBroken, (Text.ends_iff _ _).mp rfl, rfl⟩
  · exact ((unaffected _ _ _ circularShop_agrees).1 _ inMedia).1.trans asked
  · exact registry.1.mpr ⟨rfl, 0, _, aroundMedia, (Text.contains_iff _ _).mp rfl⟩
  · exact addresses.1.mpr ⟨Or.inl rfl, 0, _, aroundCondition, (Text.ends_iff _ _).mp rfl⟩
  · exact (outside.2 _).mpr ⟨Or.inr rfl, nofun, rfl⟩

end FrameworkLint.Role
