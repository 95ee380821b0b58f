import FrameworkLint.ImportScope
import FrameworkLint.Proofs.Rule.Order
import Mathlib.Logic.Function.Iterate

/-!
# Repeated registration

A linter can be augmented more than once, and the filter of imports can be put around the
end of a module more than once.  Each time doubles the layers, and nothing comes of it.  A
stack of layers that stands around itself asks the same questions again, has the same
answers, and takes out messages that are already gone.
-/

namespace FrameworkLint

variable {n : Nat}

/-! ## A stack around itself -/

namespace Rule

/-- What a stack does to whatever is inside it.  It fails, or it keeps the inside from
running, or it takes out the messages with the given names. -/
def sieve (settings : Settings) (graph : Graph n) (ref : Ref n) :
    List Layer → Except Fault (Option (List String))
  | [] => .ok (some [])
  | .gate gate :: inner =>
      (gate.passes settings graph ref).bind fun passes =>
        if passes then sieve settings graph ref inner else .ok none
  | .suppress identifier test :: inner =>
      (test.holds settings graph ref).bind fun holds =>
        (sieve settings graph ref inner).map fun names =>
          if holds then names.map (settings.messageNames identifier ++ ·) else names

/-- The outcome of a check inside a stack that does the given things. -/
def sifted (taken : Except Fault (Option (List String))) (inside : Except Fault Report) :
    Except Fault Report :=
  taken.bind fun
    | none => .ok ⟨0, []⟩
    | some names => inside.map (·.without names)

theorem without_append (first second : List String) (report : Report) :
    report.without (first ++ second) = (report.without second).without first := by
  unfold Report.without
  rw [List.filter_filter]
  simp only [List.contains_append, Bool.not_or]

theorem without_nil (report : Report) : report.without [] = report := by
  have all : report.messages.filter (!([] : List String).contains ·) = report.messages :=
    List.filter_eq_self.mpr fun _ _ => rfl
  unfold Report.without
  rw [all]

/-- One more suppressor takes out more names. -/
theorem sifted_append (names : List String) (taken : Except Fault (Option (List String)))
    (inside : Except Fault Report) :
    sifted (taken.map (Option.map (names ++ ·))) inside =
      (sifted taken inside).map (·.without names) := by
  cases taken with
  | error fault => rfl
  | ok inner =>
      cases inner with
      | none => rfl
      | some inner =>
          cases inside with
          | error fault => rfl
          | ok report => exact congrArg Except.ok (without_append names inner report)

theorem sifted_sifted (taken : Except Fault (Option (List String)))
    (inside : Except Fault Report) : sifted taken (sifted taken inside) = sifted taken inside := by
  cases taken with
  | error fault => rfl
  | ok names =>
      cases names with
      | none => rfl
      | some names =>
          cases inside with
          | error fault => rfl
          | ok report => exact congrArg Except.ok (without_without names report)

/-- A run meets the outer layers first, and these do not depend on what is inside. -/
theorem run_append (settings : Settings) (graph : Graph n) (ref : Ref n) (raised : List String)
    (outer inner : List Layer) :
    run settings graph ref raised (outer ++ inner) =
      sifted (sieve settings graph ref outer) (run settings graph ref raised inner) := by
  -- Each layer of a run asks its question before the layers inside it are met, and so does the
  -- sieve, so the faults of both come in the same order.
  induction outer with
  | nil =>
      change run settings graph ref raised inner =
        (run settings graph ref raised inner).map (·.without [])
      cases run settings graph ref raised inner with
      | error fault => rfl
      | ok report => exact congrArg Except.ok (without_nil report).symm
  | cons layer rest ih =>
      cases layer with
      | gate gate =>
          rw [List.cons_append, run, ih, sieve]
          cases gate.passes settings graph ref with
          | error fault => rfl
          | ok passes => cases passes <;> rfl
      | suppress identifier test =>
          rw [List.cons_append, run, ih, sieve]
          cases test.holds settings graph ref with
          | error fault => rfl
          | ok holds =>
              cases holds with
              | true => exact (sifted_append (settings.messageNames identifier) _ _).symm
              | false =>
                  change (sifted (sieve settings graph ref rest) _).map id =
                    sifted ((sieve settings graph ref rest).map id) _
                  rw [Except.map_id, Except.map_id]
                  rfl

theorem run_append_self (settings : Settings) (graph : Graph n) (ref : Ref n)
    (raised : List String) (stack inner : List Layer) :
    run settings graph ref raised (stack ++ (stack ++ inner)) =
      run settings graph ref raised (stack ++ inner) := by
  rw [run_append, run_append, sifted_sifted]

end Rule

/-! ## Linters that are augmented again -/

namespace Linter

def augmented (families : List Member.Family) (linter : Linter) : Linter :=
  (linter.augment families).result

/-- The second time puts the same layers around those of the first time. -/
theorem check_augmented_again (settings : Settings) (graph : Graph n)
    (families : List Member.Family) (linter : Linter) (site : Rule.Site) (ref : Ref n)
    (raised : List String) :
    Rule.check settings graph ((linter.augmented families).augmented families).rules site ref
        raised =
      Rule.check settings graph (linter.augmented families).rules site ref raised := by
  -- What is added depends on the checkers, and these are the same the second time.
  obtain ⟨once, checkers, _⟩ := linter.augment_result families
  obtain ⟨twice, _, _⟩ := (linter.augment families).result.augment_result families
  unfold Rule.check augmented
  rw [twice, checkers, once, Rule.layers_append, Rule.layers_append, Rule.run_append_self]

end Linter

/-! ## The filter of imports around itself -/

namespace ImportScope

variable {α β : Type}

/-- Scopes without relation fields have none to take out. -/
theorem withoutRelations_again {graph : Graph n} {scopes kept : List (ImportScope n α)}
    (filtered : withoutRelations graph scopes = .ok kept) :
    withoutRelations graph kept = .ok kept := by
  cases scopes with
  | nil => cases filtered
  | cons first rest =>
      unfold withoutRelations at filtered
      dsimp only at filtered
      split at filtered
      · next bound =>
          cases filtered
          have stillBound : isBound { first with names := first.names.filter (keeps graph) } := by
            unfold isBound at bound ⊢
            rw [List.all_eq_true] at bound ⊢
            intro entry member
            exact bound entry (List.mem_filter.mp member).1
          unfold withoutRelations
          dsimp only
          rw [if_pos stillBound, List.filter_filter]
          simp only [Bool.and_self]
      · cases filtered

theorem wrapped_wrapped (graph : Graph n) (method : Handler n α β) :
    wrapped graph (wrapped graph method) = wrapped graph method := by
  funext scopes
  unfold wrapped filtered
  cases reached : withoutRelations graph scopes with
  | error fault => rfl
  | ok kept =>
      dsimp only
      rw [withoutRelations_again reached]
      dsimp only
      cases (method kept).reply <;> rfl

end ImportScope

/-- A linter that was augmented any number of times checks like one that was augmented
once: each check has the same messages in the same order, or the same fault.  And the
filter of imports does the same however often it stands around a method: the method sees
the same scopes as often, and scopes and faults are the same afterwards. -/
theorem repeated_augmentation (settings : Settings) (graph : Graph n)
    (families : List Member.Family) (linter : Linter) (times : Nat) :
    (∀ site ref raised,
      Rule.check settings graph ((Linter.augmented families)^[times + 1] linter).rules site ref
          raised =
        Rule.check settings graph (linter.augment families).result.rules site ref raised) ∧
      ∀ (α β : Type) (method : ImportScope.Handler n α β),
        (ImportScope.wrapped graph)^[times + 1] method = ImportScope.wrapped graph method := by
  constructor
  · intro site ref raised
    induction times with
    | zero => rfl
    | succ times ih =>
        rw [Function.iterate_succ_apply'] at ih
        rw [Function.iterate_succ_apply', Function.iterate_succ_apply',
          Linter.check_augmented_again, ih]
  · intro α β method
    induction times with
    | zero => rfl
    | succ times ih => rw [Function.iterate_succ_apply', ih, ImportScope.wrapped_wrapped]

end FrameworkLint
