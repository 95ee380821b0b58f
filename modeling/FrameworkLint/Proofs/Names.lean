import FrameworkLint.Member.Access
import FrameworkLint.Proofs.Hierarchy.Reachability

/-!
# Searches for two lists of names

A search ends at its first hit, so searches for different names see different parts of a
program.  Still they can differ only by their hits: where two searches both end without
one, they end alike, and if they end with a fault it is the same fault.
-/

namespace FrameworkLint

open Fault

variable {n : Nat}

namespace Hierarchy

theorem wanted_joins (first second : List String) (qualifiedName : Option String) :
    Joins (.ok (wanted (first ++ second) qualifiedName)) (.ok (wanted first qualifiedName))
      (.ok (wanted second qualifiedName)) := by
  rw [wanted_append]
  cases wanted first qualifiedName with
  | true => exact .left _
  | false =>
      cases wanted second qualifiedName with
      | true => exact .right _
      | false => exact .same _

theorem leadsTo_append (graph : Graph n) (first second : List String) (subject : Entity n)
    {whole left right : Entity n → Except Fault Bool}
    (above : ∀ value, Joins (whole value) (left value) (right value)) (value : Entity n) :
    Joins (leadsTo graph (first ++ second) subject whole value)
      (leadsTo graph first subject left value) (leadsTo graph second subject right value) := by
  apply Joins.bind
  intro qualifiedName
  have further : Joins (if value = subject then .ok false else whole value)
      (if value = subject then .ok false else left value)
      (if value = subject then .ok false else right value) := by
    split
    · exact .same _
    · exact above value
  exact (wanted_joins first second qualifiedName).orElse further

theorem someBase_joins {whole left right : Entity n → Except Fault Bool}
    (each : ∀ value, Joins (whole value) (left value) (right value))
    (bases : List (Except Fault (List (Entity n)))) :
    Joins (someBase whole bases) (someBase left bases) (someBase right bases) := by
  apply Joins.anyM
  intro base
  exact (Joins.bind base (Joins.anyM each)).settle

theorem derivesFrom_append (graph : Graph n) (first second : List String) (depth : Nat)
    (subject : Entity n) :
    Joins (derivesFrom graph (first ++ second) depth subject)
      (derivesFrom graph first depth subject) (derivesFrom graph second depth subject) := by
  induction depth generalizing subject with
  | zero => exact .same _
  | succ depth ih =>
      exact someBase_joins (leadsTo_append graph first second subject ih) (graph.bases subject)

/-- Order and repetition of the names have no part in the search. -/
theorem derivesFrom_congr {first second : List String} (same : ∀ name, name ∈ first ↔ name ∈ second)
    (graph : Graph n) (depth : Nat) (subject : Entity n) :
    derivesFrom graph first depth subject = derivesFrom graph second depth subject := by
  have alike : wanted first = wanted second := by
    funext qualifiedName
    rw [Bool.eq_iff_iff, wanted_iff, wanted_iff]
    simp only [same]
  induction depth generalizing subject with
  | zero => rfl
  | succ depth ih =>
      unfold derivesFrom leadsTo
      rw [alike, funext ih]

theorem derivesFrom_mono {fewer more : List String} (contained : fewer ⊆ more) {graph : Graph n}
    {depth : Nat} {subject : Entity n} (found : derivesFrom graph fewer depth subject = .ok true) :
    derivesFrom graph more depth subject = .ok true := by
  have joined := (derivesFrom_append graph fewer more depth subject).true_iff.mpr (Or.inl found)
  have same (name : String) : name ∈ fewer ++ more ↔ name ∈ more := by
    rw [List.mem_append]
    exact or_iff_right_of_imp fun member => contained member
  rwa [derivesFrom_congr same] at joined

/-- A search for the names of two lists finds something exactly if a search for one of the
lists does, and if neither does, all three end alike.  So more names never lose a hit, and
where some names are missed without a fault, no names lead to one. -/
theorem derivesFrom_append_eq (graph : Graph n) (first second : List String) (depth : Nat)
    (subject : Entity n) :
    (derivesFrom graph (first ++ second) depth subject = .ok true ↔
      derivesFrom graph first depth subject = .ok true ∨
        derivesFrom graph second depth subject = .ok true) ∧
    (derivesFrom graph first depth subject ≠ .ok true →
      derivesFrom graph second depth subject ≠ .ok true →
        derivesFrom graph first depth subject = derivesFrom graph (first ++ second) depth subject ∧
        derivesFrom graph second depth subject =
          derivesFrom graph (first ++ second) depth subject) ∧
    (derivesFrom graph first depth subject = .ok true → ∀ more, first ⊆ more →
      derivesFrom graph more depth subject = .ok true) ∧
    (derivesFrom graph first depth subject = .ok false → ∀ names,
      ∃ answer, derivesFrom graph names depth subject = .ok answer) := by
  have joins := derivesFrom_append graph first second depth subject
  refine ⟨joins.true_iff, joins.eq_of_ne_true, ?_, ?_⟩
  · intro found more contained
    exact derivesFrom_mono contained found
  · intro missed names
    have others := derivesFrom_append graph first names depth subject
    rw [missed] at others
    exact others.exists_answer

/-- With a depth of two only the base class is found, and whoever looks for something else
gets the same fault.  With a depth of three there is an answer for all names. -/
theorem pageHierarchy_names :
    derivesFrom pageHierarchy [".Form", ".Model"] 2 (.node 0) = .ok true ∧
    derivesFrom pageHierarchy [".Form", ".View"] 2 (.node 0) = .error .tooDeep ∧
    derivesFrom pageHierarchy [".View"] 2 (.node 0) = .error .tooDeep ∧
    ∀ names, ∃ answer, derivesFrom pageHierarchy names 3 (.node 0) = .ok answer := by
  have found : derivesFrom pageHierarchy [".Model"] 2 (.node 0) = .ok true := rfl
  have failed : derivesFrom pageHierarchy [".Form"] 2 (.node 0) = .error .tooDeep := rfl
  have failedToo : derivesFrom pageHierarchy [".View"] 2 (.node 0) = .error .tooDeep := rfl
  have missed : derivesFrom pageHierarchy [".View"] 3 (.node 0) = .ok false := rfl
  obtain ⟨hit, _⟩ := derivesFrom_append_eq pageHierarchy [".Form"] [".Model"] 2 (.node 0)
  obtain ⟨_, alike, _⟩ := derivesFrom_append_eq pageHierarchy [".Form"] [".View"] 2 (.node 0)
  obtain ⟨_, _, _, answered⟩ := derivesFrom_append_eq pageHierarchy [".View"] [] 3 (.node 0)
  refine ⟨hit.mpr (Or.inr found), ?_, failedToo, answered missed⟩
  rw [failed, failedToo] at alike
  exact (alike nofun nofun).1.symm

end Hierarchy

namespace Member

theorem belongs_append (settings : Settings) (graph : Graph n) (first second : List String)
    (value : Ref n) :
    Joins (belongs settings graph (first ++ second) value) (belongs settings graph first value)
      (belongs settings graph second value) := by
  apply (Hierarchy.derivesFrom_append graph first second settings.depth _).orElse
  cases graph.qualifiedName (subject graph value) with
  | error fault => exact .same _
  | ok qualifiedName => exact Hierarchy.wanted_joins first second qualifiedName

theorem someBelongs_append (settings : Settings) (graph : Graph n) (first second : List String)
    (expression : Ref n) :
    Joins (someBelongs settings graph (first ++ second) expression)
      (someBelongs settings graph first expression)
      (someBelongs settings graph second expression) :=
  (Joins.bind _ (Joins.anyM (belongs_append settings graph first second))).settle

/-- If the test for a family fails, it is either because the node reads no member, or
because the search through the values of its object fails. -/
theorem provided_error {settings : Settings} {graph : Graph n} {family : Family} {ref : Ref n}
    {fault : Fault} (failed : provided settings graph family ref = .error fault) :
    graph.memberName ref = .error fault ∨
      ∃ name receiver, graph.memberName ref = .ok name ∧ graph.receiver? ref = some receiver ∧
        someBelongs settings graph family.owners receiver = .error fault := by
  unfold provided at failed
  cases named : graph.memberName ref with
  | error cause =>
      rw [named] at failed
      cases failed
      exact Or.inl rfl
  | ok name =>
      rw [named] at failed
      dsimp only [Except.bind] at failed
      split at failed
      · split at failed
        · cases failed
        · next receiver received => exact Or.inr ⟨name, receiver, rfl, received, failed⟩
      · cases failed

/-- Two families cannot fail differently on one node. -/
theorem provided_fault_eq {settings : Settings} {graph : Graph n} {first second : Family}
    {ref : Ref n} {left right : Fault}
    (firstFails : provided settings graph first ref = .error left)
    (secondFails : provided settings graph second ref = .error right) : left = right := by
  rcases provided_error firstFails with unnamed | ⟨name, receiver, named, received, failed⟩
  · rcases provided_error secondFails with again | ⟨_, _, named, _⟩
    · exact Except.error.inj (unnamed.symm.trans again)
    · cases unnamed.symm.trans named
  · rcases provided_error secondFails with unnamed | ⟨_, other, _, receivedOther, failedOther⟩
    · cases unnamed.symm.trans named
    · have same : receiver = other := Option.some.inj (received.symm.trans receivedOther)
      have joins := someBelongs_append settings graph first.owners second.owners receiver
      rw [failed, same, failedOther] at joins
      exact joins.fault_eq

end Member

end FrameworkLint
