import FrameworkLint.Linter

/-!
# What a stack of layers lets through

Layers are nested, and each suppressor works on what the layers inside it let through.
If every suppressor of a stack has an answer, the nesting does not matter: a message
comes out exactly if the gates are open and no suppressor that holds names it, and the
messages that come out keep their order.
-/

namespace FrameworkLint.Rule

variable {n : Nat}

/-! ## Layers of a list of rules -/

theorem mem_layers_iff (rules : List Rule) (site : Site) (layer : Layer) :
    layer ∈ layers rules site ↔ ⟨site, layer⟩ ∈ rules := by
  unfold layers
  rw [List.mem_reverse, List.mem_map]
  constructor
  · rintro ⟨rule, member, same⟩
    rw [List.mem_filter, decide_eq_true_iff] at member
    obtain ⟨present, there⟩ := member
    rw [← there, ← same]
    exact present
  · intro present
    exact ⟨⟨site, layer⟩, List.mem_filter.mpr ⟨present, decide_eq_true rfl⟩, rfl⟩

/-- Rules that are added later are farther out. -/
theorem layers_append (first second : List Rule) (site : Site) :
    layers (first ++ second) site = layers second site ++ layers first site := by
  unfold layers
  rw [List.filter_append, List.map_append, List.reverse_append]

/-! ## Parts of a stack -/

def Layer.gate? : Layer → Option Gate
  | .gate barrier => some barrier
  | .suppress _ _ => none

/-- Whether the check inside a stack takes place: all gates are passed, the outermost
first. -/
def opens (settings : Settings) (graph : Graph n) (ref : Ref n) (stack : List Layer) :
    Except Fault Bool :=
  (stack.filterMap Layer.gate?).allM (Gate.passes settings graph ref)

theorem Test.holds_of_answer {settings : Settings} {graph : Graph n} {ref : Ref n} {test : Test}
    {outcome : Except Fault Bool} (said : test.answer settings graph ref = outcome.map some) :
    test.holds settings graph ref = outcome := by
  unfold Test.holds
  rw [said]
  cases outcome <;> rfl

/-- The test holds; a test that fails does not. -/
def Test.accepts (settings : Settings) (graph : Graph n) (ref : Ref n) (test : Test) : Bool :=
  match test.holds settings graph ref with
  | .ok answer => answer
  | .error _ => false

theorem Test.accepts_iff (settings : Settings) (graph : Graph n) (ref : Ref n) (test : Test) :
    test.accepts settings graph ref = true ↔ test.holds settings graph ref = .ok true := by
  unfold Test.accepts
  cases test.holds settings graph ref with
  | error fault =>
      constructor
      · intro impossible; cases impossible
      · intro impossible; cases impossible
  | ok answer => exact ⟨congrArg Except.ok, Except.ok.inj⟩

/-- The layer takes out the messages raised under the name. -/
def Layer.drops (settings : Settings) (graph : Graph n) (ref : Ref n) (name : String) :
    Layer → Bool
  | .gate _ => false
  | .suppress identifier test =>
      (settings.messageNames identifier).contains name && test.accepts settings graph ref

/-! ## The run of a stack -/

theorem opens_gate (settings : Settings) (graph : Graph n) (ref : Ref n) (gate : Gate)
    (inner : List Layer) :
    opens settings graph ref (.gate gate :: inner) =
      (gate.passes settings graph ref).bind fun passes =>
        if passes then opens settings graph ref inner else .ok false := by
  unfold opens
  have listed : (Layer.gate gate :: inner).filterMap Layer.gate? =
      gate :: inner.filterMap Layer.gate? := rfl
  rw [listed, List.allM_cons]
  cases gate.passes settings graph ref with
  | error fault => rfl
  | ok passes => rfl

theorem opens_suppress (settings : Settings) (graph : Graph n) (ref : Ref n) (identifier : String)
    (test : Test) (inner : List Layer) :
    opens settings graph ref (.suppress identifier test :: inner) =
      opens settings graph ref inner := rfl

/-- Suppressors do not keep a check from taking place. -/
theorem opens_suppressors (settings : Settings) (graph : Graph n) (ref : Ref n)
    (identifier : String) (tests : List Test) (inner : List Layer) :
    opens settings graph ref (tests.map (.suppress identifier) ++ inner) =
      opens settings graph ref inner := by
  induction tests with
  | nil => rfl
  | cons test rest ih => exact ih

/-- One more suppressor filters what the suppressors inside it have left. -/
theorem without_filter (raised names : List String) (keep : String → Bool) :
    Report.without names ⟨1, raised.filter keep⟩ =
      ⟨1, raised.filter fun name => !names.contains name && keep name⟩ := by
  unfold Report.without
  rw [List.filter_filter]

theorem run_of_answered (settings : Settings) (graph : Graph n) (ref : Ref n)
    (raised : List String) (stack : List Layer)
    (answered : ∀ identifier test, .suppress identifier test ∈ stack →
      ∃ answer, test.holds settings graph ref = .ok answer) :
    run settings graph ref raised stack =
      (opens settings graph ref stack).map fun isOpen =>
        if isOpen then
          Report.mk 1 (raised.filter fun name => !stack.any (Layer.drops settings graph ref name))
        else Report.mk 0 [] := by
  induction stack with
  | nil =>
      change Except.ok (Report.mk 1 raised) = .ok (.mk 1 (raised.filter fun _ => true))
      rw [List.filter_eq_self.mpr fun _ _ => rfl]
  | cons layer inner ih =>
      have innerRun := ih fun identifier test member =>
        answered identifier test (List.mem_cons_of_mem layer member)
      cases layer with
      | gate gate =>
          rw [opens_gate]
          unfold run
          cases gate.passes settings graph ref with
          | error fault => rfl
          | ok passes =>
              cases passes with
              | true => exact innerRun
              | false => rfl
      | suppress identifier test =>
          obtain ⟨answer, asked⟩ := answered identifier test List.mem_cons_self
          have accepted : test.accepts settings graph ref = answer := by
            unfold Test.accepts
            rw [asked]
          rw [opens_suppress]
          unfold run
          rw [asked, innerRun]
          cases opens settings graph ref inner with
          | error fault => rfl
          | ok isOpen =>
              cases isOpen with
              | false => cases answer <;> rfl
              | true =>
                  simp only [List.any_cons, Layer.drops, accepted]
                  cases answer with
                  | false => simp [Except.bind, Except.map]
                  | true => simp [Except.bind, Except.map, without_filter, Bool.not_or]

end FrameworkLint.Rule
