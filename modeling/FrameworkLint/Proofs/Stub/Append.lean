import FrameworkLint.Stub.Graft
import Mathlib.Data.List.TakeWhile

/-!
# Grafts only append

A graft changes a module in one way: behind the definitions that a name has, it puts those
that the stub has for the name, once for each time the graft lists the name.  It stops at
the first listed name that the module or the stub does not define, and what it did up to
there stays.  Since a graft neither adds nor removes names, whether a sequence of grafts comes
to its end can be seen from the module as it is before the first of them.
-/

namespace FrameworkLint.Graft

variable {δ : Type}

/-- The locals and the stub both define the name. -/
def defined (stub locals : Locals δ) (name : String) : Bool :=
  (locals.lookup name).isSome && (stub.lookup name).isSome

/-- What a list of names adds to one of them: the definitions of the stub, once for each
time the name is listed. -/
def added (stub : Locals δ) (names : List String) (name : String) : List δ :=
  (names.filter (· = name)).flatMap fun listed => (stub.lookup listed).getD []

/-- What the grafts of a package add to a name, in the order of the grafts. -/
def addedBy (package : String) (grafts : List (Graft δ)) (name : String) : List δ :=
  (grafts.filter (·.package = package)).flatMap fun graft => added graft.stub graft.names name

/-! ## What is added -/

theorem added_cons (stub : Locals δ) (listed : String) (rest : List String) (name : String) :
    added stub (listed :: rest) name =
      (if listed = name then (stub.lookup listed).getD [] else []) ++ added stub rest name := by
  unfold added
  by_cases same : listed = name
  · rw [List.filter_cons_of_pos (by simpa using same), if_pos same, List.flatMap_cons]
  · rw [List.filter_cons_of_neg (by simpa using same), if_neg same, List.nil_append]

theorem added_eq_nil {stub : Locals δ} {names : List String} {name : String}
    (absent : name ∉ names) : added stub names name = [] := by
  have none : names.filter (· = name) = [] := by
    rw [List.filter_eq_nil_iff]
    intro listed member same
    exact absent (of_decide_eq_true same ▸ member)
  unfold added
  rw [none, List.flatMap_nil]

theorem addedBy_cons_of_ne {package : String} {graft : Graft δ} (other : graft.package ≠ package)
    (rest : List (Graft δ)) (name : String) :
    addedBy package (graft :: rest) name = addedBy package rest name := by
  unfold addedBy
  rw [List.filter_cons_of_neg (by simpa using other)]

theorem addedBy_cons_of_eq {package : String} {graft : Graft δ} (own : graft.package = package)
    (rest : List (Graft δ)) (name : String) :
    addedBy package (graft :: rest) name =
      added graft.stub graft.names name ++ addedBy package rest name := by
  unfold addedBy
  rw [List.filter_cons_of_pos (by simpa using own), List.flatMap_cons]

/-! ## One graft, name by name -/

theorem defined_extend (stub locals : Locals δ) (extended : String) (definitions : List δ) :
    defined stub (locals.extend extended definitions) = defined stub locals := by
  funext name
  unfold defined
  rw [Locals.lookup_extend]
  split
  · rw [Option.isSome_map]
  · rfl

/-- What one name in the list of a graft does: it extends a name that is defined on both
sides, and at any other name the graft stops. -/
theorem extendAll_cons (stub : Locals δ) (listed : String) (rest : List String)
    (locals : Locals δ) :
    extendAll stub (listed :: rest) locals =
      if defined stub locals listed then
        extendAll stub rest (locals.extend listed ((stub.lookup listed).getD []))
      else ⟨locals, some (.noKey listed)⟩ := by
  unfold defined
  rw [extendAll]
  cases locals.lookup listed with
  | none => rfl
  | some definitions => cases stub.lookup listed <;> rfl

/-- A graft stops at the first name that is not defined on both sides. -/
theorem fault_extendAll (stub : Locals δ) (names : List String) (locals : Locals δ) :
    (extendAll stub names locals).fault =
      (names.find? (!defined stub locals ·)).map .noKey := by
  induction names generalizing locals with
  | nil => rfl
  | cons listed rest ih =>
      rw [extendAll_cons, List.find?_cons]
      cases reached : defined stub locals listed with
      | false => rfl
      | true =>
          rw [if_pos rfl, ih, defined_extend]
          rfl

/-- The names in front of the first missing one are extended, each as often as it is
listed there. -/
theorem lookup_extendAll (stub : Locals δ) (names : List String) (locals : Locals δ)
    (name : String) :
    (extendAll stub names locals).result.lookup name =
      (locals.lookup name).map (· ++ added stub (names.takeWhile (defined stub locals)) name) := by
  induction names generalizing locals with
  | nil => simp [extendAll, added]
  | cons listed rest ih =>
      rw [extendAll_cons, List.takeWhile_cons]
      cases reached : defined stub locals listed with
      | false => simp [added]
      | true =>
          rw [if_pos rfl, if_pos rfl, ih, defined_extend, Locals.lookup_extend, added_cons]
          by_cases same : name = listed
          · rw [if_pos same, if_pos same.symm, Option.map_map]
            congr 1
            funext definitions
            exact List.append_assoc _ _ _
          · rw [if_neg same, if_neg (Ne.symm same), List.nil_append]

theorem map_fst_extendAll (stub : Locals δ) (names : List String) (locals : Locals δ) :
    (extendAll stub names locals).result.map Prod.fst = locals.map Prod.fst := by
  induction names generalizing locals with
  | nil => rfl
  | cons listed rest ih =>
      rw [extendAll_cons]
      split
      · rw [ih, Locals.map_fst_extend]
      · rfl

/-! ## One graft on a module -/

theorem apply_of_ne {graft : Graft δ} {target : Module δ} (other : graft.package ≠ target.name) :
    graft.apply target = ⟨target, none⟩ := by
  unfold apply
  rw [if_neg (Ne.symm other)]

theorem apply_of_eq {graft : Graft δ} {target : Module δ} (own : graft.package = target.name) :
    graft.apply target =
      ⟨{ target with locals := (extendAll graft.stub graft.names target.locals).result },
        (extendAll graft.stub graft.names target.locals).fault⟩ := by
  unfold apply
  rw [if_pos own.symm]

theorem apply_name (graft : Graft δ) (target : Module δ) :
    (graft.apply target).result.name = target.name := by
  by_cases own : graft.package = target.name
  · rw [apply_of_eq own]
  · rw [apply_of_ne own]

theorem map_fst_apply (graft : Graft δ) (target : Module δ) :
    (graft.apply target).result.locals.map Prod.fst = target.locals.map Prod.fst := by
  by_cases own : graft.package = target.name
  · rw [apply_of_eq own]
    exact map_fst_extendAll graft.stub graft.names target.locals
  · rw [apply_of_ne own]

/-- A module defines the same names after a graft, whether it came to its end or not. -/
theorem isSome_lookup_apply (graft : Graft δ) (target : Module δ) (name : String) :
    ((graft.apply target).result.locals.lookup name).isSome =
      (target.locals.lookup name).isSome := by
  by_cases own : graft.package = target.name
  · rw [apply_of_eq own]
    dsimp only
    rw [lookup_extendAll, Option.isSome_map]
  · rw [apply_of_ne own]

/-- The graft is about the module, and `missing`, which stands behind the names `served`
and in front of the names `later`, is the first of its names that the module or the stub
does not define. -/
structure StopsAt (graft : Graft δ) (target : Module δ) (served : List String) (missing : String)
    (later : List String) : Prop where
  own : graft.package = target.name
  listed : graft.names = served ++ missing :: later
  present : ∀ name ∈ served, (target.locals.lookup name).isSome ∧ (graft.stub.lookup name).isSome
  absent : target.locals.lookup missing = none ∨ graft.stub.lookup missing = none

theorem defined_iff (stub locals : Locals δ) (name : String) :
    defined stub locals name = true ↔ (locals.lookup name).isSome ∧ (stub.lookup name).isSome := by
  unfold defined
  rw [Bool.and_eq_true]

theorem defined_eq_false_iff (stub locals : Locals δ) (name : String) :
    defined stub locals name = false ↔ locals.lookup name = none ∨ stub.lookup name = none := by
  unfold defined
  rw [Bool.and_eq_false_iff, Option.isSome_eq_false_iff, Option.isSome_eq_false_iff,
    Option.isNone_iff_eq_none, Option.isNone_iff_eq_none]

theorem fault_apply_iff (graft : Graft δ) (target : Module δ) (fault : Fault) :
    (graft.apply target).fault = some fault ↔
      ∃ served missing later, StopsAt graft target served missing later ∧
        fault = .noKey missing := by
  by_cases own : graft.package = target.name
  · rw [apply_of_eq own]
    dsimp only
    rw [fault_extendAll, Option.map_eq_some_iff]
    constructor
    · rintro ⟨missing, found, same⟩
      rw [List.find?_eq_some_iff_append] at found
      obtain ⟨stopped, served, later, listed, before⟩ := found
      refine ⟨served, missing, later, ⟨own, listed, ?_, ?_⟩, same.symm⟩
      · intro name member
        have reached := before name member
        rw [Bool.not_not] at reached
        exact (defined_iff _ _ name).mp reached
      · rw [Bool.not_eq_true'] at stopped
        exact (defined_eq_false_iff _ _ missing).mp stopped
    · rintro ⟨served, missing, later, stops, same⟩
      refine ⟨missing, ?_, same.symm⟩
      rw [List.find?_eq_some_iff_append]
      refine ⟨?_, served, later, stops.listed, ?_⟩
      · rw [Bool.not_eq_true']
        exact (defined_eq_false_iff _ _ missing).mpr stops.absent
      · intro name member
        rw [Bool.not_not]
        exact (defined_iff _ _ name).mpr (stops.present name member)
  · rw [apply_of_ne own]
    constructor
    · intro impossible; cases impossible
    · rintro ⟨_, _, _, stops, _⟩
      exact absurd stops.own own

theorem lookup_apply_of_stopsAt {graft : Graft δ} {target : Module δ} {served later : List String}
    {missing : String} (stops : StopsAt graft target served missing later) (name : String) :
    (graft.apply target).result.locals.lookup name =
      (target.locals.lookup name).map (· ++ added graft.stub served name) := by
  have reached : ∀ listed ∈ served, defined graft.stub target.locals listed = true :=
    fun listed member => (defined_iff _ _ listed).mpr (stops.present listed member)
  have stopped : defined graft.stub target.locals missing = false :=
    (defined_eq_false_iff _ _ missing).mpr stops.absent
  have front : graft.names.takeWhile (defined graft.stub target.locals) = served := by
    rw [stops.listed, List.takeWhile_append_of_pos reached,
      List.takeWhile_cons_of_neg (by simp [stopped]), List.append_nil]
  rw [apply_of_eq stops.own]
  dsimp only
  rw [lookup_extendAll, front]

theorem missing_not_mem_served {graft : Graft δ} {target : Module δ} {served later : List String}
    {missing : String} (stops : StopsAt graft target served missing later) : missing ∉ served := by
  intro member
  obtain ⟨inModule, inStub⟩ := stops.present missing member
  rcases stops.absent with none | none
  · rw [none] at inModule; cases inModule
  · rw [none] at inStub; cases inStub

/-- If a graft is about the module, then the module and the stub define all its names. -/
def Fits (graft : Graft δ) (target : Module δ) : Prop :=
  graft.package = target.name → ∀ name ∈ graft.names,
    (target.locals.lookup name).isSome ∧ (graft.stub.lookup name).isSome

theorem fault_apply_eq_none_iff (graft : Graft δ) (target : Module δ) :
    (graft.apply target).fault = none ↔ Fits graft target := by
  unfold Fits
  by_cases own : graft.package = target.name
  · rw [apply_of_eq own]
    dsimp only
    rw [fault_extendAll, Option.map_eq_none_iff, List.find?_eq_none]
    simp only [Bool.not_eq_true', Bool.not_eq_false, defined_iff, own, true_imp_iff]
  · rw [apply_of_ne own]
    exact ⟨fun _ same => absurd same own, fun _ => rfl⟩

/-- A graft that comes to its end has served all its names. -/
theorem lookup_apply_of_complete {graft : Graft δ} {target : Module δ}
    (own : graft.package = target.name) (complete : (graft.apply target).fault = none)
    (name : String) :
    (graft.apply target).result.locals.lookup name =
      (target.locals.lookup name).map (· ++ added graft.stub graft.names name) := by
  have fits := (fault_apply_eq_none_iff graft target).mp complete own
  have all : graft.names.takeWhile (defined graft.stub target.locals) = graft.names := by
    rw [List.takeWhile_eq_self_iff]
    intro listed member
    exact (defined_iff _ _ listed).mpr (fits listed member)
  rw [apply_of_eq own]
  dsimp only
  rw [lookup_extendAll, all]

/-! ## A sequence of grafts -/

theorem applyAll_cons_of_complete {graft : Graft δ} {target : Module δ}
    (complete : (graft.apply target).fault = none) (rest : List (Graft δ)) :
    applyAll (graft :: rest) target = applyAll rest (graft.apply target).result := by
  rw [applyAll]
  split
  · next reached => rw [reached]
  · next reached =>
      rw [reached] at complete
      cases complete

theorem applyAll_cons_of_fault {graft : Graft δ} {target : Module δ} {fault : Fault}
    (fails : (graft.apply target).fault = some fault) (rest : List (Graft δ)) :
    applyAll (graft :: rest) target = graft.apply target := by
  rw [applyAll]
  split
  · next reached =>
      rw [reached] at fails
      cases fails
  · next reached => exact reached.symm

/-- The first graft that fails ends the sequence. -/
theorem applyAll_append_cons {before : List (Graft δ)} {target : Module δ}
    (complete : (applyAll before target).fault = none) {graft : Graft δ} {fault : Fault}
    (fails : (graft.apply (applyAll before target).result).fault = some fault)
    (after : List (Graft δ)) :
    applyAll (before ++ graft :: after) target = graft.apply (applyAll before target).result := by
  induction before generalizing target with
  | nil => exact applyAll_cons_of_fault fails after
  | cons first before ih =>
      cases outcome : (first.apply target).fault with
      | some other =>
          rw [applyAll_cons_of_fault outcome, outcome] at complete
          cases complete
      | none =>
          rw [applyAll_cons_of_complete outcome] at complete fails ⊢
          rw [List.cons_append, applyAll_cons_of_complete outcome, ih complete fails]

/-- A sequence keeps the name of the module, and the names it defines in their order. -/
theorem applyAll_names (grafts : List (Graft δ)) (target : Module δ) :
    (applyAll grafts target).result.name = target.name ∧
      (applyAll grafts target).result.locals.map Prod.fst = target.locals.map Prod.fst := by
  induction grafts generalizing target with
  | nil => exact ⟨rfl, rfl⟩
  | cons graft rest ih =>
      cases outcome : (graft.apply target).fault with
      | some fault =>
          rw [applyAll_cons_of_fault outcome]
          exact ⟨apply_name graft target, map_fst_apply graft target⟩
      | none =>
          rw [applyAll_cons_of_complete outcome, (ih _).1, (ih _).2]
          exact ⟨apply_name graft target, map_fst_apply graft target⟩

/-- A graft fits a module after another graft if it did so before. -/
theorem fits_apply_iff (graft other : Graft δ) (target : Module δ) :
    Fits graft (other.apply target).result ↔ Fits graft target := by
  unfold Fits
  simp only [apply_name, isSome_lookup_apply]

/-- A sequence comes to its end exactly if every graft fits the module as it is at first. -/
theorem fault_applyAll_eq_none_iff (grafts : List (Graft δ)) (target : Module δ) :
    (applyAll grafts target).fault = none ↔ ∀ graft ∈ grafts, Fits graft target := by
  induction grafts generalizing target with
  | nil => simp [applyAll]
  | cons graft rest ih =>
      rw [List.forall_mem_cons, ← fault_apply_eq_none_iff]
      cases outcome : (graft.apply target).fault with
      | some fault => simp [applyAll_cons_of_fault outcome, outcome]
      | none => simp [applyAll_cons_of_complete outcome, ih, fits_apply_iff]

theorem lookup_applyAll {grafts : List (Graft δ)} {target : Module δ}
    (complete : (applyAll grafts target).fault = none) (name : String) :
    (applyAll grafts target).result.locals.lookup name =
      (target.locals.lookup name).map (· ++ addedBy target.name grafts name) := by
  induction grafts generalizing target with
  | nil => simp [applyAll, addedBy]
  | cons graft rest ih =>
      cases outcome : (graft.apply target).fault with
      | some fault =>
          rw [applyAll_cons_of_fault outcome, outcome] at complete
          cases complete
      | none =>
          -- The rest of the grafts meets a module of the same name, so the same grafts of the
          -- rest are about it.
          rw [applyAll_cons_of_complete outcome] at complete ⊢
          rw [ih complete, apply_name]
          by_cases own : graft.package = target.name
          · rw [lookup_apply_of_complete own outcome, addedBy_cons_of_eq own, Option.map_map]
            congr 1
            funext definitions
            exact List.append_assoc _ _ _
          · rw [apply_of_ne own, addedBy_cons_of_ne own]

/-- Grafts of other packages change nothing.  No sequence of grafts changes which names a module
has, or their order.  A sequence comes to its end exactly if the module and the stubs define all
names of the grafts that are about the module.  Then the definitions of the stubs stand behind
those of the module, in the order of the grafts and once for each time a name is listed; no other
name changes.  A graft fails exactly at the first of its names that the module or the stub does
not define, with that name as the missing key; then the names in front of it are extended, and it
and the names behind it are not.  The first graft that fails ends the sequence. -/
theorem grafts_only_append (target : Module δ) :
    (∀ graft : Graft δ, graft.package ≠ target.name → graft.apply target = ⟨target, none⟩) ∧
    (∀ grafts : List (Graft δ), (applyAll grafts target).result.name = target.name ∧
      (applyAll grafts target).result.locals.map Prod.fst = target.locals.map Prod.fst) ∧
    (∀ grafts : List (Graft δ), (applyAll grafts target).fault = none ↔
      ∀ graft ∈ grafts, graft.package = target.name → ∀ name ∈ graft.names,
        (target.locals.lookup name).isSome ∧ (graft.stub.lookup name).isSome) ∧
    (∀ grafts : List (Graft δ), (applyAll grafts target).fault = none → ∀ name,
      (applyAll grafts target).result.locals.lookup name =
          (target.locals.lookup name).map (· ++ addedBy target.name grafts name) ∧
        ((∀ graft ∈ grafts, name ∉ graft.names) →
          (applyAll grafts target).result.locals.lookup name = target.locals.lookup name)) ∧
    (∀ (graft : Graft δ) fault, (graft.apply target).fault = some fault ↔
      ∃ served missing later, StopsAt graft target served missing later ∧
        fault = .noKey missing) ∧
    (∀ (graft : Graft δ) served missing later, StopsAt graft target served missing later →
      (∀ name, (graft.apply target).result.locals.lookup name =
        (target.locals.lookup name).map (· ++ added graft.stub served name)) ∧
      (graft.apply target).result.locals.lookup missing = target.locals.lookup missing ∧
      ∀ name ∈ later, name ∉ served →
        (graft.apply target).result.locals.lookup name = target.locals.lookup name) ∧
    (∀ (before after : List (Graft δ)) (graft : Graft δ) fault,
      (applyAll before target).fault = none →
      (graft.apply (applyAll before target).result).fault = some fault →
      applyAll (before ++ graft :: after) target =
        graft.apply (applyAll before target).result) := by
  refine ⟨?_, fun grafts => applyAll_names grafts target,
    fun grafts => fault_applyAll_eq_none_iff grafts target, ?_, ?_, ?_, ?_⟩
  · intro graft other
    exact apply_of_ne other
  · intro grafts complete name
    refine ⟨lookup_applyAll complete name, ?_⟩
    intro unlisted
    have nothing : addedBy target.name grafts name = [] := by
      unfold addedBy
      rw [List.flatMap_eq_nil_iff]
      intro graft member
      exact added_eq_nil (unlisted graft (List.mem_filter.mp member).1)
    rw [lookup_applyAll complete, nothing]
    simp
  · intro graft fault
    exact fault_apply_iff graft target fault
  · intro graft served missing later stops
    have unchanged (name : String) (unserved : name ∉ served) :
        (graft.apply target).result.locals.lookup name = target.locals.lookup name := by
      rw [lookup_apply_of_stopsAt stops, added_eq_nil unserved]
      simp
    refine ⟨lookup_apply_of_stopsAt stops, ?_, ?_⟩
    · exact unchanged missing (missing_not_mem_served stops)
    · intro name _ unserved
      exact unchanged name unserved
  · intro before after graft fault complete fails
    exact applyAll_append_cons complete fails after

/-- A module of forms that lacks one of the classes. -/
def partialForms : Module String where
  name := "django.forms"
  locals := [("Form", ["original"]), ("Field", ["original"])]

/-- A graft with a repeated name, with a name that the module lacks, and with further names
behind it. -/
def formGraft : Graft String where
  package := "django.forms"
  names := ["Form", "Form", "ModelForm", "Field", "Form"]
  stub := [("Form", ["stub"]), ("ModelForm", ["stub"]), ("Field", ["stub"])]

/-- A graft of the same package that lists a name twice, which is there. -/
def repeatedGraft : Graft String :=
  { formGraft with names := ["Form", "Form"] }

/-- A further graft of the package, all of whose names are there. -/
def fieldGraft : Graft String where
  package := "django.forms"
  names := ["Field", "Form"]
  stub := [("Form", ["later stub"]), ("Field", ["later stub"])]

/-- One graft stops in the middle.  Two of the package that list only what is there come to their
end, one after the other.  The graft that stops ends a sequence, and what stands behind it is not
applied. -/
theorem formGraft_stops :
    (StopsAt formGraft partialForms ["Form", "Form"] "ModelForm" ["Field", "Form"] ∧
      (formGraft.apply partialForms).fault = some (.noKey "ModelForm") ∧
      (formGraft.apply partialForms).result.locals.lookup "Form" =
        some ["original", "stub", "stub"] ∧
      (formGraft.apply partialForms).result.locals.lookup "Field" = some ["original"]) ∧
    ((applyAll [repeatedGraft, fieldGraft] partialForms).fault = none ∧
      (applyAll [repeatedGraft, fieldGraft] partialForms).result.locals.lookup "Form" =
        some ["original", "stub", "stub", "later stub"] ∧
      (applyAll [repeatedGraft, fieldGraft] partialForms).result.locals.map Prod.fst =
        ["Form", "Field"]) ∧
    applyAll [fieldGraft, formGraft, fieldGraft] partialForms =
      formGraft.apply (applyAll [fieldGraft] partialForms).result := by
  have stops : StopsAt formGraft partialForms ["Form", "Form"] "ModelForm" ["Field", "Form"] := by
    refine ⟨rfl, rfl, ?_, Or.inl (by decide)⟩
    decide
  obtain ⟨_, names, complete, ends, fails, leaves, first⟩ := grafts_only_append partialForms
  obtain ⟨extended, _, unchanged⟩ := leaves formGraft _ _ _ stops
  have reached := (complete [repeatedGraft, fieldGraft]).mpr (by decide)
  refine ⟨⟨stops, (fails formGraft _).mpr ⟨_, _, _, stops, rfl⟩, ?_, ?_⟩,
    ⟨reached, ?_, (names _).2⟩, ?_⟩
  · rw [extended "Form"]
    decide
  · rw [unchanged "Field" (by decide) (by decide)]
    decide
  · rw [(ends _ reached "Form").1]
    decide
  · exact first [fieldGraft] [fieldGraft] formGraft (.noKey "ModelForm") rfl rfl

end FrameworkLint.Graft
