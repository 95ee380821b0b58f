import FrameworkLint.Proofs.Names
import FrameworkLint.Proofs.Rule.Augmented

/-!
# The order of the families

Nothing fixes the order in which the families of provided members are added.  It cannot
be observed: suppressors of one message can change places, since they all drop the same
messages, and since no two of them can fail differently.
-/

namespace FrameworkLint.Rule

variable {n : Nat}

/-! ## Suppressors of one message -/

/-- Whether one of the tests holds.  All of them are asked, and the first fault counts. -/
def askAll (settings : Settings) (graph : Graph n) (ref : Ref n) : List Test → Except Fault Bool
  | [] => .ok false
  | test :: rest =>
      (test.holds settings graph ref).bind fun holds =>
        (askAll settings graph ref rest).map (holds || ·)

theorem without_without (names : List String) (report : Report) :
    (report.without names).without names = report.without names := by
  unfold Report.without
  rw [List.filter_filter]
  simp only [Bool.and_self]

/-- A block of suppressors of one message acts like one suppressor. -/
theorem run_suppressors (settings : Settings) (graph : Graph n) (ref : Ref n)
    (raised : List String) (identifier : String) (tests : List Test) (inner : List Layer) :
    run settings graph ref raised (tests.map (.suppress identifier) ++ inner) =
      (askAll settings graph ref tests).bind fun holds =>
        (run settings graph ref raised inner).map fun report =>
          if holds then report.without (settings.messageNames identifier) else report := by
  induction tests with
  | nil =>
      change run settings graph ref raised inner =
        (run settings graph ref raised inner).map fun report => report
      cases run settings graph ref raised inner <;> rfl
  | cons test rest ih =>
      change (test.holds settings graph ref).bind (fun holds =>
        (run settings graph ref raised (rest.map (.suppress identifier) ++ inner)).map fun report =>
          if holds then report.without (settings.messageNames identifier) else report) = _
      rw [ih, askAll]
      cases test.holds settings graph ref with
      | error fault => rfl
      | ok holds =>
          cases askAll settings graph ref rest with
          | error fault => rfl
          | ok others =>
              cases run settings graph ref raised inner with
              | error fault => rfl
              | ok report =>
                  cases holds with
                  | false => rfl
                  | true =>
                      cases others with
                      | false => rfl
                      | true => exact congrArg Except.ok (without_without _ report)

/-! ## Tests that fail alike -/

/-- The two tests do not fail with different faults. -/
def FailAlike (settings : Settings) (graph : Graph n) (ref : Ref n) (first second : Test) : Prop :=
  ∀ left right, first.holds settings graph ref = .error left →
    second.holds settings graph ref = .error right → left = right

theorem askAll_swap {settings : Settings} {graph : Graph n} {ref : Ref n} {first second : Test}
    (alike : FailAlike settings graph ref first second) (rest : List Test) :
    askAll settings graph ref (first :: second :: rest) =
      askAll settings graph ref (second :: first :: rest) := by
  unfold askAll askAll
  cases asked : first.holds settings graph ref with
  | error left =>
      cases other : second.holds settings graph ref with
      | error right => exact congrArg Except.error (alike left right asked other)
      | ok holds => rfl
  | ok holds =>
      cases second.holds settings graph ref with
      | error right => rfl
      | ok also =>
          cases askAll settings graph ref rest with
          | error fault => rfl
          | ok others => exact congrArg Except.ok (Bool.or_left_comm holds also others)

theorem askAll_eq_of_perm {settings : Settings} {graph : Graph n} {ref : Ref n}
    {first second : List Test} (permutation : first.Perm second)
    (alike : ∀ left ∈ first, ∀ right ∈ first, FailAlike settings graph ref left right) :
    askAll settings graph ref first = askAll settings graph ref second := by
  induction permutation with
  | nil => rfl
  | cons test _ ih =>
      have inner := ih fun left leftMember right rightMember =>
        alike left (List.mem_cons_of_mem test leftMember) right
          (List.mem_cons_of_mem test rightMember)
      rw [askAll, inner, askAll]
  | swap second first rest =>
      apply askAll_swap
      exact alike first List.mem_cons_self second (List.mem_cons_of_mem first List.mem_cons_self)
  | trans before _ ihBefore ihAfter =>
      have moved := ihAfter fun left leftMember right rightMember =>
        alike left (before.mem_iff.mpr leftMember) right (before.mem_iff.mpr rightMember)
      exact (ihBefore alike).trans moved

theorem provided_holds (settings : Settings) (graph : Graph n) (ref : Ref n)
    (family : Member.Family) :
    (Test.provided family).holds settings graph ref =
      Member.provided settings graph family ref :=
  Test.holds_of_answer rfl

theorem provided_failAlike (settings : Settings) (graph : Graph n) (ref : Ref n)
    (first second : Member.Family) :
    FailAlike settings graph ref (.provided first) (.provided second) := by
  intro left right firstFails secondFails
  rw [provided_holds] at firstFails secondFails
  exact Member.provided_fault_eq firstFails secondFails

/-- The tests for families have one outcome together, in whatever order they are asked. -/
theorem askAll_provided_perm (settings : Settings) (graph : Graph n) (ref : Ref n)
    {first second : List Member.Family} (permutation : first.Perm second) :
    askAll settings graph ref (first.map .provided) =
      askAll settings graph ref (second.map .provided) := by
  apply askAll_eq_of_perm (permutation.map .provided)
  intro left leftMember right rightMember
  obtain ⟨family, _, same⟩ := List.mem_map.mp leftMember
  obtain ⟨other, _, also⟩ := List.mem_map.mp rightMember
  rw [← same, ← also]
  exact provided_failAlike settings graph ref family other

/-! ## Orders of registration -/

/-- However the families of the database layer and any further families are ordered, a
member access has the same outcome: the same messages in the same order, or the same
fault. -/
theorem check_memberAccess_of_perm (settings : Settings) (graph : Graph n)
    (views first second : List Member.Family)
    (firstOrder : first.Perm (Member.Family.core ++ views))
    (secondOrder : second.Perm (Member.Family.core ++ views)) (ref : Ref n)
    (raised : List String) :
    check settings graph (registeredFor first) .memberAccess ref raised =
      check settings graph (registeredFor second) .memberAccess ref raised := by
  have permutation : first.Perm second := firstOrder.trans secondOrder.symm
  -- The layers stand in the reverse order of registration.
  have reversed : first.reverse.Perm second.reverse :=
    (first.reverse_perm.trans permutation).trans second.reverse_perm.symm
  have asked := askAll_provided_perm settings graph ref reversed
  unfold check
  rw [layers_memberAccess, layers_memberAccess, run_suppressors, run_suppressors, asked]

/-- A view below a mixin and below a class that has the view among its own ancestors. -/
def circularView : Graph 8 where
  node
    | 0 => { shape := .member "get_context_data" (some 1) }
    | 1 => { shape := .usedName "Page", inference := { values := [2], fault := none } }
    | 2 => { shape := .classDef { name := "Page", bases := some [3, 5] } }
    | 3 => { shape := .usedName "ContextMixin", inference := { values := [4], fault := none } }
    | 4 => { shape := .classDef { name := "Mixin", qualifiedName := some ".ContextMixin" } }
    | 5 => { shape := .usedName "Base", inference := { values := [6], fault := none } }
    | 6 => { shape := .classDef { name := "Base", bases := some [7] } }
    | 7 => { shape := .usedName "Page", inference := { values := [2], fault := none } }

/-- One family accepts the access and others run into the circle; the fault counts in both
orders. -/
theorem circularView_order :
    Member.provided { depth := 6 } circularView .contextMixin 0 = .ok true ∧
      check { depth := 6 } circularView
          (registeredFor (Member.Family.core ++ Member.Family.genericViews)) .memberAccess 0
          ["E1101"] = .error .tooDeep ∧
      check { depth := 6 } circularView
          (registeredFor (Member.Family.genericViews ++ Member.Family.core)) .memberAccess 0
          ["E1101"] = .error .tooDeep := by
  have listed : check { depth := 6 } circularView
      (registeredFor (Member.Family.core ++ Member.Family.genericViews)) .memberAccess 0
      ["E1101"] = .error .tooDeep := rfl
  refine ⟨rfl, listed, ?_⟩
  rw [← listed]
  exact check_memberAccess_of_perm _ _ Member.Family.genericViews _ _ List.perm_append_comm
    (List.Perm.refl _) _ _

end FrameworkLint.Rule
