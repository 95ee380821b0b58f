import FrameworkLint.Fault
import FrameworkLint.Table

/-!
# Grafts

A graft adds the definitions of a stub to a module.  It names the package it belongs
to and the names it is about; all other modules and all other names stay as they are.
Definitions are added behind those that the module has.
-/

namespace FrameworkLint

/-- The definitions of each name, in the order in which the names were bound. -/
abbrev Locals (δ : Type) := Table (List δ)

namespace Locals

variable {δ : Type}

/-- Adds definitions behind those of a name. -/
def extend (name : String) (added : List δ) (locals : Locals δ) : Locals δ :=
  locals.map fun entry => if entry.1 = name then (entry.1, entry.2 ++ added) else entry

/-- A name has its own definitions and, if it is the one extended, the added ones
behind them. -/
theorem lookup_extend (name other : String) (added : List δ) (locals : Locals δ) :
    (locals.extend name added).lookup other =
      if other = name then (locals.lookup other).map (· ++ added) else locals.lookup other := by
  induction locals with
  | nil => simp [extend]
  | cons entry rest ih =>
      obtain ⟨key, definitions⟩ := entry
      change List.lookup other
        ((if key = name then (key, definitions ++ added) else (key, definitions)) ::
          extend name added rest) = _
      by_cases same : other = key
      · subst same
        split <;> simp
      · have away : (other == key) = false := by simpa using same
        split <;> simpa [List.lookup_cons, away] using ih

/-- Extending a name changes no names and no order. -/
theorem map_fst_extend (name : String) (added : List δ) (locals : Locals δ) :
    (locals.extend name added).map Prod.fst = locals.map Prod.fst := by
  rw [extend, List.map_map]
  apply List.map_congr_left
  intro entry _
  by_cases same : entry.1 = name <;> simp [same]

end Locals

/-- A module with a name and local definitions. -/
structure Module (δ : Type) where
  name : String
  locals : Locals δ

structure Graft (δ : Type) where
  package : String
  names : List String
  /-- The definitions of the stub. -/
  stub : Locals δ

namespace Graft

variable {δ ε : Type}

/-- Adds the definitions of each name in turn.  It stops at the first name that the
locals or the stub do not have. -/
def extendAll (stub : Locals δ) : List String → Locals δ → Outcome (Locals δ)
  | [], locals => ⟨locals, none⟩
  | name :: rest, locals =>
      match locals.lookup name, stub.lookup name with
      | some _, some added => extendAll stub rest (locals.extend name added)
      | _, _ => ⟨locals, some (.noKey name)⟩

/-- Applies a graft to a module.  Modules of other packages do not change. -/
def apply (graft : Graft δ) (target : Module δ) : Outcome (Module δ) :=
  if target.name = graft.package then
    let outcome := extendAll graft.stub graft.names target.locals
    ⟨{ target with locals := outcome.result }, outcome.fault⟩
  else ⟨target, none⟩

/-- Applies grafts in order, up to the first that stops with a fault. -/
def applyAll : List (Graft δ) → Module δ → Outcome (Module δ)
  | [], target => ⟨target, none⟩
  | graft :: rest, target =>
      match graft.apply target with
      | ⟨result, none⟩ => applyAll rest result
      | ⟨result, some fault⟩ => ⟨result, some fault⟩

/-- Applies grafts in order, `times` times over. -/
def applyTimes (times : Nat) (grafts : List (Graft δ)) (target : Module δ) :
    Outcome (Module δ) :=
  applyAll (List.replicate times grafts).flatten target

/-- The graft with definitions of another kind. -/
def map (f : δ → ε) (graft : Graft δ) : Graft ε where
  package := graft.package
  names := graft.names
  stub := graft.stub.map fun entry => (entry.1, entry.2.map f)

end Graft

end FrameworkLint
