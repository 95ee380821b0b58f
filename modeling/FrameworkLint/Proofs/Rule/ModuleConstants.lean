import FrameworkLint.Proofs.Rule.Order

/-!
# Constants of modules

Two tests know the constants that the framework expects in a module: the registry of a
module of template tags, and the addresses of a module of addresses with their name.  No rule
asks these tests.  The one rule for assigned names asks for the scripts of a media
definition, and none of the constants is named like them.  So every complaint about the name
of such a constant comes out.  Two more rules would keep exactly these complaints in.
-/

namespace FrameworkLint

variable {n : Nat}

/-! ## Names of constants -/

namespace Role

/-- A constant of a module that a test accepts has one of the names the test asks for. -/
theorem exists_name_of_moduleConstant {names : List String} {test : String → Bool}
    {graph : Graph n} {ref : Ref n} (accepted : moduleConstant names test graph ref = .ok true) :
    ∃ name ∈ names, graph.name ref = .ok (some name) := by
  obtain ⟨label, called, tested⟩ := Fault.exists_of_bind_ok accepted
  split at tested
  · next named =>
      cases label with
      | none => cases named
      | some name => exact ⟨name, (isNamed_iff names name).mp named, called⟩
  · cases tested

theorem moduleConstant_of_not_mem {names : List String} {test : String → Bool} {graph : Graph n}
    {ref : Ref n} {name : String} (called : graph.name ref = .ok (some name))
    (other : name ∉ names) : moduleConstant names test graph ref = .ok false := by
  unfold moduleConstant
  rw [called]
  exact if_neg fun named => other ((isNamed_iff names name).mp named)

theorem mediaConstant_of_ne {graph : Graph n} {ref : Ref n} {name : String}
    (called : graph.name ref = .ok (some name)) (other : name ≠ "js") :
    mediaConstant graph ref = .ok false := by
  have unnamed : isNamed ["js"] (some name) = false := by
    rw [← Bool.not_eq_true, isNamed_iff, List.mem_singleton]
    exact other
  unfold mediaConstant
  rw [called, Except.map, unnamed]
  rfl

/-- No two of the three tests for constants accept the same name. -/
theorem constantTests_of_accepted {graph : Graph n} {ref : Ref n}
    (accepted : tagRegistry graph ref = .ok true ∨ addressConstant graph ref = .ok true) :
    mediaConstant graph ref = .ok false ∧
      ((tagRegistry graph ref = .ok true ∧ addressConstant graph ref = .ok false) ∨
        (tagRegistry graph ref = .ok false ∧ addressConstant graph ref = .ok true)) := by
  rcases accepted with tag | address
  · obtain ⟨name, member, called⟩ := exists_name_of_moduleConstant tag
    rw [List.mem_singleton.mp member] at called
    exact ⟨mediaConstant_of_ne called (by decide),
      Or.inl ⟨tag, moduleConstant_of_not_mem called (by decide)⟩⟩
  · obtain ⟨name, member, called⟩ := exists_name_of_moduleConstant address
    have apart : ∀ name ∈ ["urlpatterns", "app_name"], name ≠ "js" ∧ name ∉ ["register"] := by
      decide
    exact ⟨mediaConstant_of_ne called (apart name member).1,
      Or.inr ⟨moduleConstant_of_not_mem called (apart name member).2, address⟩⟩

end Role

namespace Rule

/-! ## The rules for assigned names -/

/-- The site where names that are assigned to are checked. -/
def nameCheck : Site := ⟨.name, .assignedName⟩

/-- Rules that ask the two tests.  Registration does not add them. -/
def constantRules : List Rule :=
  [⟨nameCheck, .suppress "C0103" .tagRegistry⟩,
   ⟨nameCheck, .suppress "C0103" .addressConstant⟩]

theorem layers_nameCheck (families : List Member.Family) :
    layers (registeredFor families) nameCheck = [Test.mediaConstant].map (.suppress "C0103") := by
  rw [layers_of_ne (by decide)]
  decide

theorem layers_nameCheck_constantRules (families : List Member.Family) :
    layers (registeredFor families ++ constantRules) nameCheck =
      [Test.addressConstant, .tagRegistry, .mediaConstant].map (.suppress "C0103") := by
  rw [layers_append, layers_nameCheck]
  decide

/-- Suppressors of one message alone let everything else out, in its order. -/
theorem run_suppressors_nil (settings : Settings) (graph : Graph n) (ref : Ref n)
    (raised : List String) (identifier : String) {tests : List Test} {holds : Bool}
    (asked : askAll settings graph ref tests = .ok holds) :
    run settings graph ref raised (tests.map (.suppress identifier)) =
      .ok (if holds then Report.without (settings.messageNames identifier) ⟨1, raised⟩
        else ⟨1, raised⟩) := by
  have block := run_suppressors settings graph ref raised identifier tests []
  rw [List.append_nil, asked] at block
  exact block

theorem askAll_of_accepted {settings : Settings} {graph : Graph n} {ref : Ref n}
    (accepted : Role.tagRegistry graph ref = .ok true ∨ Role.addressConstant graph ref = .ok true) :
    askAll settings graph ref [.mediaConstant] = .ok false ∧
      askAll settings graph ref [.addressConstant, .tagRegistry, .mediaConstant] = .ok true := by
  have media : Test.mediaConstant.holds settings graph ref = Role.mediaConstant graph ref :=
    Test.holds_of_answer rfl
  have tag : Test.tagRegistry.holds settings graph ref = Role.tagRegistry graph ref :=
    Test.holds_of_answer rfl
  have address : Test.addressConstant.holds settings graph ref = Role.addressConstant graph ref :=
    Test.holds_of_answer rfl
  simp only [askAll, media, tag, address]
  obtain ⟨noMedia, ⟨isTag, noAddress⟩ | ⟨noTag, isAddress⟩⟩ :=
    Role.constantTests_of_accepted accepted
  · rw [noMedia, isTag, noAddress]
    exact ⟨rfl, rfl⟩
  · rw [noMedia, noTag, isAddress]
    exact ⟨rfl, rfl⟩

/-- A constant that one of the two tests accepts is reported all the same: whatever the check
of its name raises comes out.  With a rule for each test, the complaint about the name would
not, and all else would. -/
theorem moduleConstant_reported (settings : Settings) (graph : Graph n)
    (families : List Member.Family) (linter : Linter) (fresh : linter.rules = [])
    (complete : (linter.augment families).fault = none) (ref : Ref n)
    (accepted : Role.tagRegistry graph ref = .ok true ∨ Role.addressConstant graph ref = .ok true)
    (raised : List String) :
    check settings graph (linter.augment families).result.rules nameCheck ref raised =
        .ok ⟨1, raised⟩ ∧
      check settings graph ((linter.augment families).result.rules ++ constantRules) nameCheck ref
          raised =
        .ok ⟨1, raised.filter (!(settings.messageNames "C0103").contains ·)⟩ := by
  have rules := Linter.augment_rules complete
  rw [fresh, List.nil_append] at rules
  obtain ⟨present, repaired⟩ := askAll_of_accepted accepted
  unfold check
  rw [rules, layers_nameCheck, layers_nameCheck_constantRules]
  constructor
  · exact run_suppressors_nil settings graph ref raised "C0103" present
  · exact run_suppressors_nil settings graph ref raised "C0103" repaired

/-- The name of the addresses of a shop, under a condition, and the registry of the shop's
template tags. -/
def shopConstants : Graph 11 where
  node
    | 0 => { shape := .assignedName "app_name", parent := some 1 }
    | 1 => { shape := .assign [0] (some 2), parent := some 3 }
    | 2 => { shape := .constant (.text "shop"), parent := some 1 }
    | 3 => { shape := .plain .conditional, parent := some 4 }
    | 4 => { shape := .moduleDef "shop.urls" }
    | 5 => { shape := .assignedName "register", parent := some 6 }
    | 6 => { shape := .assign [5] (some 7), parent := some 10 }
    | 7 => { shape := .call (some 8) [], parent := some 6 }
    | 8 => { shape := .member "Library" (some 9), parent := some 7 }
    | 9 => { shape := .usedName "template", parent := some 8 }
    | 10 => { shape := .moduleDef "shop.templatetags.prices" }

theorem shopConstants_reported :
    (Role.addressConstant shopConstants 0 = .ok true ∧
      check {} shopConstants (bareLinter.augment installedFamilies).result.rules nameCheck 0
        ["C0103", "C0112"] = .ok ⟨1, ["C0103", "C0112"]⟩) ∧
    (Role.tagRegistry shopConstants 5 = .ok true ∧
      check {} shopConstants
        ((bareLinter.augment installedFamilies).result.rules ++ constantRules) nameCheck 5
        ["C0103", "C0112"] = .ok ⟨1, ["C0112"]⟩) := by
  have address : Role.addressConstant shopConstants 0 = .ok true := rfl
  have tag : Role.tagRegistry shopConstants 5 = .ok true := rfl
  refine ⟨⟨address, ?_⟩, tag, ?_⟩
  · exact (moduleConstant_reported {} shopConstants installedFamilies bareLinter rfl rfl 0
      (Or.inr address) _).1
  · exact (moduleConstant_reported {} shopConstants installedFamilies bareLinter rfl rfl 5
      (Or.inl tag) _).2

/-- The name of the addresses is accepted, and the complaint about it is not dropped. -/
theorem addressName_blamed :
    bareLinter.rules = [] ∧ (bareLinter.augment installedFamilies).fault = none ∧
    Role.addressConstant shopConstants 0 = .ok true ∧
    check {} shopConstants (bareLinter.augment installedFamilies).result.rules nameCheck 0
      ["C0103"] = .ok ⟨1, ["C0103"]⟩ :=
  ⟨rfl, rfl, rfl, rfl⟩

end Rule

end FrameworkLint
