import FrameworkLint.Proofs.Rule.Stack

/-!
# The registered stacks

The layers that registration puts around each site, and what comes out of them.  Only the
check of a member access has gates, and these are innermost.  Everywhere else the messages
of a check come out in their order, less those that a rule of the same site names and whose
test holds.  Nothing is assumed of the families of members that the framework provides, nor of
what the linter takes the identifiers of messages to stand for.
-/

namespace FrameworkLint

variable {n : Nat}

/-! ## The rules of an augmented linter -/

namespace Linter

/-- The rules whose checker is present, up to the first whose checker is not. -/
def accepted (checkers : List Rule.Checker) (rules : List Rule) : List Rule :=
  rules.takeWhile fun rule => checkers.contains rule.site.checker

/-- The accepted rules are added and the checkers stay, and without a fault every rule is
accepted. -/
theorem addRules_result (rules : List Rule) (linter : Linter) :
    (addRules rules linter).result.rules = linter.rules ++ accepted linter.checkers rules ∧
      (addRules rules linter).result.checkers = linter.checkers ∧
      ((addRules rules linter).fault = none → accepted linter.checkers rules = rules) := by
  induction rules generalizing linter with
  | nil => exact ⟨(List.append_nil linter.rules).symm, rfl, fun _ => rfl⟩
  | cons rule rest ih =>
      unfold addRules accepted
      rw [List.takeWhile_cons]
      split
      · obtain ⟨rules, checkers, all⟩ := ih { linter with rules := linter.rules ++ [rule] }
        refine ⟨?_, checkers, fun complete => congrArg (rule :: ·) (all complete)⟩
        rw [rules]
        exact List.append_assoc linter.rules [rule] _
      · exact ⟨(List.append_nil linter.rules).symm, rfl, nofun⟩

/-- Augmenting adds a list of rules that depends on the families and the checkers only, and
leaves the checkers alone. -/
theorem augment_result (families : List Member.Family) (linter : Linter) :
    (linter.augment families).result.rules =
        linter.rules ++ accepted linter.checkers (Rule.registeredFor families) ∧
      (linter.augment families).result.checkers = linter.checkers ∧
      ((linter.augment families).fault = none →
        accepted linter.checkers (Rule.registeredFor families) = Rule.registeredFor families) := by
  have added := addRules_result (Rule.registeredFor families) linter
  unfold augment
  split
  · next reached =>
      rw [reached] at added
      exact added
  · exact added

theorem augment_rules {families : List Member.Family} {linter : Linter}
    (complete : (linter.augment families).fault = none) :
    (linter.augment families).result.rules = linter.rules ++ Rule.registeredFor families := by
  obtain ⟨rules, _, all⟩ := linter.augment_result families
  rw [rules, all complete]

end Linter

/-! ## The layers of each site -/

namespace Rule

/-- No other rule is about member accesses, and none of them is a gate. -/
theorem otherRules_apart :
    ∀ rule ∈ otherRules, rule.site ≠ .memberAccess ∧ rule.layer.gate? = none := by
  decide

theorem memberRules_site (families : List Member.Family) :
    ∀ rule ∈ memberRules families, rule.site = .memberAccess := by
  intro rule member
  unfold memberRules at member
  rw [List.mem_append, List.mem_append] at member
  rcases member with (gate | display) | provided
  · exact (by decide : ∀ rule ∈ gates, rule.site = .memberAccess) rule gate
  · rw [List.mem_singleton] at display
    rw [display]
    rfl
  · obtain ⟨family, _, same⟩ := List.mem_map.mp provided
    rw [← same]
    rfl

theorem layers_eq_nil {rules : List Rule} {site : Site} (away : ∀ rule ∈ rules, rule.site ≠ site) :
    layers rules site = [] := by
  rw [List.eq_nil_iff_forall_not_mem]
  intro layer member
  exact away _ ((mem_layers_iff rules site layer).mp member) rfl

/-- The suppressors of provided members, those that were added first inside. -/
theorem layers_providedMembers (families : List Member.Family) :
    layers (providedMembers families) .memberAccess =
      (families.reverse.map .provided).map (.suppress "E1101") := by
  have all : (providedMembers families).filter (·.site = .memberAccess) =
      providedMembers families := by
    rw [List.filter_eq_self]
    intro rule member
    obtain ⟨family, _, same⟩ := List.mem_map.mp member
    rw [← same]
    rfl
  unfold layers
  rw [all, List.map_reverse, List.map_reverse, List.map_map, providedMembers, List.map_map]
  rfl

theorem layers_memberAccess (families : List Member.Family) :
    layers (registeredFor families) .memberAccess =
      (families.reverse.map .provided).map (.suppress "E1101") ++
        [.suppress "E1101" .displayAccessor, .gate .relatedKey, .gate .relatedSet] := by
  have outer : layers otherRules .memberAccess = [] :=
    layers_eq_nil fun rule member => (otherRules_apart rule member).1
  unfold registeredFor memberRules
  rw [layers_append, outer, List.nil_append, layers_append, layers_providedMembers]
  rfl

theorem layers_of_ne {site : Site} (different : site ≠ .memberAccess)
    (families : List Member.Family) :
    layers (registeredFor families) site = layers otherRules site := by
  have inner : layers (memberRules families) site = [] := by
    apply layers_eq_nil
    intro rule member same
    exact different (same.symm.trans (memberRules_site families rule member))
  unfold registeredFor
  rw [layers_append, inner, List.append_nil]

/-! ## What comes out -/

/-- The test of a rule of the site holds, and a message that the rule is about goes by the
name. -/
def Suppressed (settings : Settings) (graph : Graph n) (rules : List Rule) (site : Site)
    (ref : Ref n) (name : String) : Prop :=
  ∃ identifier test, ⟨site, .suppress identifier test⟩ ∈ rules ∧
    test.holds settings graph ref = .ok true ∧ name ∈ settings.messageNames identifier

theorem any_drops_iff (settings : Settings) (graph : Graph n) (rules : List Rule) (site : Site)
    (ref : Ref n) (name : String) :
    (layers rules site).any (Layer.drops settings graph ref name) = true ↔
      Suppressed settings graph rules site ref name := by
  rw [List.any_eq_true]
  constructor
  · rintro ⟨layer, member, drops⟩
    cases layer with
    | gate gate => cases drops
    | suppress identifier test =>
        obtain ⟨named, accepted⟩ := (Bool.and_eq_true _ _).mp drops
        exact ⟨identifier, test, (mem_layers_iff rules site _).mp member,
          (test.accepts_iff settings graph ref).mp accepted, List.contains_iff_mem.mp named⟩
  · rintro ⟨identifier, test, member, holds, named⟩
    refine ⟨_, (mem_layers_iff rules site _).mpr member, ?_⟩
    exact (Bool.and_eq_true _ _).mpr
      ⟨List.contains_iff_mem.mpr named, (test.accepts_iff settings graph ref).mpr holds⟩

instance (settings : Settings) (graph : Graph n) (rules : List Rule) (site : Site) (ref : Ref n) :
    DecidablePred (Suppressed settings graph rules site ref) :=
  fun name => decidable_of_iff _ (any_drops_iff settings graph rules site ref name)

/-- The check at a site is left out: the member that is read is named like the column of a
key, or it is a set of related objects. -/
inductive LeftOut (settings : Settings) (graph : Graph n) (ref : Ref n) : Site → Prop
  | key {name : String} (read : graph.memberName ref = .ok (some name))
      (column : Text.ends "_id" name = true) : LeftOut settings graph ref .memberAccess
  | set (related : Member.relatedSetPasses settings graph ref = .ok false) :
      LeftOut settings graph ref .memberAccess

theorem relatedKeyPasses_false_iff (graph : Graph n) (ref : Ref n) :
    Member.relatedKeyPasses graph ref = .ok false ↔
      ∃ name, graph.memberName ref = .ok (some name) ∧ Text.ends "_id" name = true := by
  unfold Member.relatedKeyPasses
  cases graph.memberName ref with
  | error fault => simp [Except.map]
  | ok name => cases name <;> simp [Except.map]

/-- A display test that has an answer has read the name of the member. -/
theorem memberName_of_displayAccessor {settings : Settings} {graph : Graph n} {ref : Ref n}
    {answer : Bool} (answered : Test.displayAccessor.holds settings graph ref = .ok answer) :
    ∃ name, graph.memberName ref = .ok name := by
  cases read : graph.memberName ref with
  | ok name => exact ⟨name, rfl⟩
  | error fault =>
      unfold Test.holds Test.answer Member.displayAccessor at answered
      rw [read] at answered
      cases answered

theorem opens_memberAccess (settings : Settings) (graph : Graph n) (ref : Ref n)
    (families : List Member.Family) :
    opens settings graph ref (layers (registeredFor families) .memberAccess) =
      (Member.relatedKeyPasses graph ref).bind fun passes =>
        if passes then Member.relatedSetPasses settings graph ref else .ok false := by
  rw [layers_memberAccess, opens_suppressors, opens_suppress, opens_gate]
  congr 1
  funext passes
  cases passes with
  | false => rfl
  | true =>
      change opens settings graph ref [.gate .relatedSet] =
        Member.relatedSetPasses settings graph ref
      rw [opens_gate]
      change (Member.relatedSetPasses settings graph ref).bind _ = _
      cases Member.relatedSetPasses settings graph ref with
      | error fault => rfl
      | ok passes => cases passes <;> rfl

theorem opens_of_ne {site : Site} (different : site ≠ .memberAccess) (settings : Settings)
    (graph : Graph n) (ref : Ref n) (families : List Member.Family) :
    opens settings graph ref (layers (registeredFor families) site) = .ok true := by
  have noGate : (layers otherRules site).filterMap Layer.gate? = [] := by
    rw [List.filterMap_eq_nil_iff]
    intro layer member
    exact (otherRules_apart _ ((mem_layers_iff otherRules site layer).mp member)).2
  rw [layers_of_ne different, opens, noGate]
  rfl

theorem displayAccessor_registered (families : List Member.Family) :
    ⟨.memberAccess, .suppress "E1101" .displayAccessor⟩ ∈ registeredFor families := by
  rw [← mem_layers_iff, layers_memberAccess]
  exact List.mem_append_right _ List.mem_cons_self

theorem opens_eq_false_of_leftOut {settings : Settings} {graph : Graph n} {ref : Ref n}
    {site : Site} {name : Option String} (read : graph.memberName ref = .ok name)
    (leftOut : LeftOut settings graph ref site) (families : List Member.Family) :
    opens settings graph ref (layers (registeredFor families) site) = .ok false := by
  cases leftOut with
  | key named column =>
      have closed := (relatedKeyPasses_false_iff graph ref).mpr ⟨_, named, column⟩
      rw [opens_memberAccess, closed]
      rfl
  | set related =>
      rw [opens_memberAccess, related, Member.relatedKeyPasses, read]
      dsimp only [Except.map, Except.bind]
      split <;> rfl

theorem opens_eq_true_of_not_leftOut {settings : Settings} {graph : Graph n} {ref : Ref n}
    {name : Option String} (read : graph.memberName ref = .ok name)
    (setAnswered : Member.relatedKeyPasses graph ref = .ok true →
      ∃ answer, Member.relatedSetPasses settings graph ref = .ok answer)
    (takesPlace : ¬ LeftOut settings graph ref .memberAccess) (families : List Member.Family) :
    opens settings graph ref (layers (registeredFor families) .memberAccess) = .ok true := by
  have keyOpen : Member.relatedKeyPasses graph ref = .ok true := by
    cases passes : !name.any (Text.ends "_id") with
    | true => rw [Member.relatedKeyPasses, read, Except.map, passes]
    | false =>
        have closed : Member.relatedKeyPasses graph ref = .ok false := by
          rw [Member.relatedKeyPasses, read, Except.map, passes]
        obtain ⟨_, named, column⟩ := (relatedKeyPasses_false_iff graph ref).mp closed
        exact absurd (.key named column) takesPlace
  obtain ⟨answer, asked⟩ := setAnswered keyOpen
  rw [opens_memberAccess, keyOpen]
  cases answer with
  | true => exact asked
  | false => exact absurd (.set asked) takesPlace

section

variable {settings : Settings} {graph : Graph n} {families : List Member.Family} {linter : Linter}
  {site : Site} {ref : Ref n}

/-- If every test of a site has an answer, the gates alone decide whether the check takes place,
and the tests alone which of its messages come out. -/
theorem check_augmented (fresh : linter.rules = [])
    (complete : (linter.augment families).fault = none)
    (answered : ∀ identifier test, ⟨site, .suppress identifier test⟩ ∈ registeredFor families →
      ∃ answer, test.holds settings graph ref = .ok answer) (raised : List String) :
    check settings graph (linter.augment families).result.rules site ref raised =
      (opens settings graph ref (layers (registeredFor families) site)).map fun isOpen =>
        if isOpen then
          Report.mk 1 (raised.filter fun name =>
            ¬ Suppressed settings graph (registeredFor families) site ref name)
        else Report.mk 0 [] := by
  have kept : (raised.filter fun name =>
      !(layers (registeredFor families) site).any (Layer.drops settings graph ref name)) =
      raised.filter fun name =>
        ¬ Suppressed settings graph (registeredFor families) site ref name := by
    apply List.filter_congr
    intro name _
    rw [Bool.eq_iff_iff, Bool.not_eq_true', ← Bool.not_eq_true, any_drops_iff, decide_eq_true_iff]
  rw [check, Linter.augment_rules complete, fresh, List.nil_append, ← kept]
  apply run_of_answered
  intro identifier test member
  exact answered identifier test ((mem_layers_iff _ _ _).mp member)

/-- Away from member accesses there are no gates, so the check takes place. -/
theorem check_augmented_of_ne (fresh : linter.rules = [])
    (complete : (linter.augment families).fault = none) (different : site ≠ .memberAccess)
    (answered : ∀ identifier test, ⟨site, .suppress identifier test⟩ ∈ registeredFor families →
      ∃ answer, test.holds settings graph ref = .ok answer) (raised : List String) :
    check settings graph (linter.augment families).result.rules site ref raised =
      .ok ⟨1, raised.filter fun name =>
        ¬ Suppressed settings graph (registeredFor families) site ref name⟩ := by
  rw [check_augmented fresh complete answered, opens_of_ne different]
  rfl

end

/-- What comes out of a check after registration, whatever an identifier stands for and whichever
families of members the framework provides.  Nothing does if the check is left out.  Otherwise
the method of the checker runs once, and its messages come out in their order, less those that a
rule of this site is about and whose test holds. -/
theorem augmented_check_eq (settings : Settings) (graph : Graph n)
    (families : List Member.Family) (linter : Linter) (fresh : linter.rules = [])
    (complete : (linter.augment families).fault = none) (site : Site) (ref : Ref n)
    (raised : List String)
    (answered : ∀ identifier test, ⟨site, .suppress identifier test⟩ ∈ registeredFor families →
      ∃ answer, test.holds settings graph ref = .ok answer)
    (setAnswered : site = .memberAccess → Member.relatedKeyPasses graph ref = .ok true →
      ∃ answer, Member.relatedSetPasses settings graph ref = .ok answer) :
    (LeftOut settings graph ref site →
      check settings graph (linter.augment families).result.rules site ref raised =
        .ok ⟨0, []⟩) ∧
    (¬ LeftOut settings graph ref site →
      check settings graph (linter.augment families).result.rules site ref raised =
        .ok ⟨1, raised.filter fun name =>
          ¬ Suppressed settings graph (registeredFor families) site ref name⟩) := by
  by_cases here : site = .memberAccess
  · subst here
    obtain ⟨answer, asked⟩ := answered _ _ (displayAccessor_registered families)
    obtain ⟨name, read⟩ := memberName_of_displayAccessor asked
    rw [check_augmented fresh complete answered]
    constructor
    · intro leftOut
      rw [opens_eq_false_of_leftOut read leftOut]
      rfl
    · intro takesPlace
      rw [opens_eq_true_of_not_leftOut read (setAnswered rfl) takesPlace]
      rfl
  · constructor
    · intro leftOut
      cases leftOut <;> exact absurd rfl here
    · intro _
      exact check_augmented_of_ne fresh complete here answered raised

/-- A linter with every checker and without rules. -/
def bareLinter : Linter :=
  { goodNames := []
    constantPattern := ""
    ignored := []
    checkers := [.type, .design, .classes, .docString, .newStyle, .name, .variables] }

/-- The access to a member that every model class has. -/
def modelAccess : Graph 5 where
  node
    | 0 => { shape := .member "DoesNotExist" (some 1) }
    | 1 => { shape := .usedName "Article", inference := { values := [2], fault := none } }
    | 2 => { shape := .classDef { name := "Article", bases := some [3] } }
    | 3 => { shape := .usedName "Model", inference := { values := [4], fault := none } }
    | 4 => { shape := .classDef { name := "Model", qualifiedName := some ".Model" } }

/-- A model with its options, and a class of the same name that stands alone. -/
def modelOptions : Graph 5 where
  node
    | 0 => { shape := .classDef { name := "Meta" }, parent := some 1 }
    | 1 => { shape := .classDef { name := "Article", bases := some [2] } }
    | 2 => { shape := .usedName "Model", inference := { values := [3], fault := none } }
    | 3 => { shape := .classDef { name := "Model", qualifiedName := some ".Model" } }
    | 4 => { shape := .classDef { name := "Meta" } }

def Layer.answers (settings : Settings) (graph : Graph n) (ref : Ref n) : Layer → Bool
  | .gate _ => true
  | .suppress _ test =>
      match test.holds settings graph ref with
      | .ok _ => true
      | .error _ => false

theorem answered_of_all {settings : Settings} {graph : Graph n} {ref : Ref n} {rules : List Rule}
    {site : Site} (all : (layers rules site).all (Layer.answers settings graph ref) = true)
    (identifier : String) (test : Test) (member : ⟨site, .suppress identifier test⟩ ∈ rules) :
    ∃ answer, test.holds settings graph ref = .ok answer := by
  have answers : (Layer.suppress identifier test).answers settings graph ref = true :=
    List.all_eq_true.mp all _ ((mem_layers_iff rules site _).mpr member)
  unfold Layer.answers at answers
  dsimp only at answers
  cases asked : test.holds settings graph ref with
  | ok answer => exact ⟨answer, rfl⟩
  | error fault => rw [asked] at answers; cases answers

/-- Checks at four sites.  The member of the model is known.  The options of a model may go without
documentation, whether the linter knows the message by its present names or by the identifier
alone; a class that merely has their name may not.  The options need no initialiser, and the model
needs no methods. -/
theorem modelAccess_checked :
    (¬ LeftOut {} modelAccess 0 .memberAccess ∧
      check {} modelAccess (bareLinter.augment installedFamilies).result.rules .memberAccess 0
        ["E1101", "W0212", "no-member"] = .ok ⟨1, ["W0212"]⟩) ∧
    check {} modelOptions (bareLinter.augment installedFamilies).result.rules
      ⟨.docString, .classStart⟩ 0 ["C0115", "C0103"] = .ok ⟨1, ["C0103"]⟩ ∧
    check { messageNames := fun identifier => [identifier] } modelOptions
      (bareLinter.augment installedFamilies).result.rules ⟨.docString, .classStart⟩ 0
      ["missing-docstring", "C0103"] = .ok ⟨1, ["C0103"]⟩ ∧
    check {} modelOptions (bareLinter.augment installedFamilies).result.rules
      ⟨.docString, .classStart⟩ 4 ["C0115", "C0103"] = .ok ⟨1, ["C0115", "C0103"]⟩ ∧
    check {} modelOptions (bareLinter.augment installedFamilies).result.rules
      ⟨.classes, .classStart⟩ 0 ["W0232", "E0213"] = .ok ⟨1, ["E0213"]⟩ ∧
    check {} modelOptions (bareLinter.augment installedFamilies).result.rules
      ⟨.design, .classEnd⟩ 1 ["R0903", "R0904"] = .ok ⟨1, ["R0904"]⟩ := by
  have setAnswered : Member.relatedSetPasses {} modelAccess 0 = .ok true := rfl
  have takesPlace : ¬ LeftOut {} modelAccess 0 .memberAccess := by
    intro leftOut
    cases leftOut with
    | key read column =>
        cases read
        exact absurd column (by decide)
    | set related => rw [setAnswered] at related; cases related
  have elsewhere (settings : Settings) (site : Site) (ref : Ref 5) (raised : List String)
      (different : site ≠ .memberAccess)
      (all : (layers (registeredFor installedFamilies) site).all
        (Layer.answers settings modelOptions ref) = true) :=
    (augmented_check_eq settings modelOptions installedFamilies bareLinter rfl rfl site ref raised
      (answered_of_all all) fun same => absurd same different).2 fun leftOut => by
        cases leftOut <;> exact different rfl
  constructor
  · refine ⟨takesPlace, ?_⟩
    rw [(augmented_check_eq {} modelAccess installedFamilies bareLinter rfl rfl .memberAccess 0 _
      (answered_of_all (by decide +kernel)) fun _ _ => ⟨true, setAnswered⟩).2 takesPlace]
    rfl
  · refine ⟨?_, ?_, ?_, ?_, ?_⟩ <;>
      exact (elsewhere _ _ _ _ (by decide) (by decide +kernel)).trans rfl

end Rule

end FrameworkLint
