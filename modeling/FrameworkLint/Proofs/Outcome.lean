import FrameworkLint.Fault

/-!
# Outcomes of questions

A question ends with an answer or with a fault.  This module says what the outcome of
a composed question tells about its parts.  A search through a list stops at the first
yes and at the first fault, and a search for a result passes over the values that have
none: both end at the first value that does not leave the matter open.  An outcome is
settled if it does not say that a value is unknown; settled questions compose to settled
questions.  Last, the search for either of two aims is compared with the searches for
each of them.
-/

namespace FrameworkLint.Fault

variable {α β γ : Type}

/-! ## Questions that build on each other -/

theorem exists_of_bind_ok {outcome : Except Fault α} {next : α → Except Fault β} {answer : β}
    (asked : outcome.bind next = .ok answer) :
    ∃ first, outcome = .ok first ∧ next first = .ok answer := by
  cases outcome with
  | error fault => cases asked
  | ok first => exact ⟨first, rfl, asked⟩

theorem exists_of_map_ok {outcome : Except Fault α} {f : α → β} {answer : β}
    (asked : outcome.map f = .ok answer) : ∃ first, outcome = .ok first ∧ f first = answer := by
  cases outcome with
  | error fault => cases asked
  | ok first => exact ⟨first, rfl, Except.ok.inj asked⟩

/-! ## Searches -/

/-- A search through a list ends at the first value whose examination does not come to the idle
outcome, and comes to what that examination comes to. -/
structure StopsAtFirst (search : List α → γ) (examine : α → γ) (idle : γ) : Prop where
  nil : search [] = idle
  pass : ∀ {value : α} {rest : List α}, examine value = idle →
    search (value :: rest) = search rest
  stop : ∀ {value : α} {rest : List α}, examine value ≠ idle →
    search (value :: rest) = examine value

namespace StopsAtFirst

variable {search : List α → γ} {examine : α → γ} {idle : γ}

/-- Values that come to the idle outcome have no part in the search. -/
theorem append_eq (stops : StopsAtFirst search examine idle) {before : List α}
    (idles : ∀ earlier ∈ before, examine earlier = idle) (rest : List α) :
    search (before ++ rest) = search rest := by
  induction before with
  | nil => rfl
  | cons first before ih =>
      rw [List.cons_append, stops.pass (idles first List.mem_cons_self)]
      exact ih fun earlier member => idles earlier (List.mem_cons_of_mem first member)

theorem eq_idle_iff (stops : StopsAtFirst search examine idle) (values : List α) :
    search values = idle ↔ ∀ value ∈ values, examine value = idle := by
  induction values with
  | nil => simp [stops.nil]
  | cons first rest ih =>
      rw [List.forall_mem_cons, ← ih]
      by_cases idles : examine first = idle
      · simp [stops.pass idles, idles]
      · simp [stops.stop idles, idles]

/-- Any other outcome is that of one value, and all values before it come to the idle one. -/
theorem eq_iff (stops : StopsAtFirst search examine idle) {outcome : γ} (decided : outcome ≠ idle)
    (values : List α) :
    search values = outcome ↔ ∃ before value after, values = before ++ value :: after ∧
      (∀ earlier ∈ before, examine earlier = idle) ∧ examine value = outcome := by
  constructor
  · intro ended
    induction values with
    | nil => exact absurd (ended.symm.trans stops.nil) decided
    | cons first rest ih =>
        by_cases idles : examine first = idle
        · rw [stops.pass idles] at ended
          obtain ⟨before, value, after, split, clean, reached⟩ := ih ended
          refine ⟨first :: before, value, after, ?_, ?_, reached⟩
          · rw [split, List.cons_append]
          · exact List.forall_mem_cons.mpr ⟨idles, clean⟩
        · rw [stops.stop idles] at ended
          exact ⟨[], first, rest, rfl, nofun, ended⟩
  · rintro ⟨before, value, after, split, clean, reached⟩
    have stopped : examine value ≠ idle := by rwa [reached]
    rw [split, stops.append_eq clean, stops.stop stopped, reached]

/-- The values before that one may as well come to the same outcome: then one of them ends the
search with it. -/
theorem eq_iff_of_open (stops : StopsAtFirst search examine idle) {outcome : γ}
    (decided : outcome ≠ idle) (values : List α) :
    search values = outcome ↔ ∃ before value after, values = before ++ value :: after ∧
      (∀ earlier ∈ before, examine earlier = idle ∨ examine earlier = outcome) ∧
      examine value = outcome := by
  constructor
  · intro ended
    obtain ⟨before, value, after, split, clean, reached⟩ := (stops.eq_iff decided values).mp ended
    refine ⟨before, value, after, split, ?_, reached⟩
    exact fun earlier member => Or.inl (clean earlier member)
  · rintro ⟨before, value, after, rfl, clean, reached⟩
    induction before with
    | nil => rw [List.nil_append, stops.stop (by rwa [reached]), reached]
    | cons first before ih =>
        obtain ⟨here, later⟩ := List.forall_mem_cons.mp clean
        rcases here with idles | ended
        · rw [List.cons_append, stops.pass idles, ih later]
        · rw [List.cons_append, stops.stop (by rwa [ended]), ended]

/-- Nothing behind a value that ends the search has a part in it. -/
theorem append_cons_congr (stops : StopsAtFirst search examine idle) {value : α}
    (ends : examine value ≠ idle) (before after other : List α) :
    search (before ++ value :: after) = search (before ++ value :: other) := by
  induction before with
  | nil => rw [List.nil_append, List.nil_append, stops.stop ends, stops.stop ends]
  | cons first before ih =>
      rw [List.cons_append, List.cons_append]
      by_cases idles : examine first = idle
      · rw [stops.pass idles, stops.pass idles, ih]
      · rw [stops.stop idles, stops.stop idles]

theorem exists_mem (stops : StopsAtFirst search examine idle) {values : List α} {outcome : γ}
    (ended : search values = outcome) (decided : outcome ≠ idle) :
    ∃ value ∈ values, examine value = outcome := by
  obtain ⟨before, value, after, split, _, reached⟩ := (stops.eq_iff decided values).mp ended
  refine ⟨value, ?_, reached⟩
  rw [split]
  exact List.mem_append_right before List.mem_cons_self

end StopsAtFirst

theorem anyM_cons_eq (examine : α → Except Fault Bool) (first : α) (rest : List α) :
    (first :: rest).anyM examine =
      (examine first).bind fun found => if found then .ok true else rest.anyM examine := by
  rw [List.anyM_cons]
  cases examine first with
  | error fault => rfl
  | ok found => rfl

theorem stopsAtFirst_anyM (examine : α → Except Fault Bool) :
    StopsAtFirst (List.anyM examine) examine (.ok false) where
  nil := rfl
  pass idles := by rw [anyM_cons_eq, idles]; rfl
  stop {value rest} stops := by
    rw [anyM_cons_eq]
    cases examined : examine value with
    | error fault => rfl
    | ok found =>
        cases found with
        | true => rfl
        | false => exact absurd examined stops

theorem exists_of_anyM_true {examine : α → Except Fault Bool} {values : List α}
    (found : values.anyM examine = .ok true) :
    ∃ value ∈ values, examine value = .ok true :=
  (stopsAtFirst_anyM examine).exists_mem found nofun

theorem anyM_false_iff (examine : α → Except Fault Bool) (values : List α) :
    values.anyM examine = .ok false ↔ ∀ value ∈ values, examine value = .ok false :=
  (stopsAtFirst_anyM examine).eq_idle_iff values

/-- If every examination that has an answer decides whether a value has a property, a search
that has an answer decides whether some value has it. -/
theorem exists_iff_of_anyM_ok {examine : α → Except Fault Bool} {Holds : α → Prop}
    (decides : ∀ {value answer}, examine value = .ok answer → (Holds value ↔ answer = true))
    {values : List α} {answer : Bool} (asked : values.anyM examine = .ok answer) :
    (∃ value ∈ values, Holds value) ↔ answer = true := by
  cases answer with
  | true =>
      obtain ⟨value, member, yes⟩ := exists_of_anyM_true asked
      exact iff_of_true ⟨value, member, (decides yes).mpr rfl⟩ rfl
  | false =>
      have each := (anyM_false_iff examine values).mp asked
      refine iff_of_false ?_ Bool.false_ne_true
      rintro ⟨value, member, holds⟩
      exact Bool.false_ne_true ((decides (each value member)).mp holds)

/-- A fault that ends a search comes from one of the values. -/
theorem exists_of_anyM_error {examine : α → Except Fault Bool} {values : List α} {fault : Fault}
    (failed : values.anyM examine = .error fault) :
    ∃ value ∈ values, examine value = .error fault :=
  (stopsAtFirst_anyM examine).exists_mem failed nofun

/-- A search fails with the first value that does not come to a no. -/
theorem anyM_error_iff (examine : α → Except Fault Bool) (values : List α) (fault : Fault) :
    values.anyM examine = .error fault ↔ ∃ before value after, values = before ++ value :: after ∧
      (∀ earlier ∈ before, examine earlier = .ok false) ∧ examine value = .error fault :=
  (stopsAtFirst_anyM examine).eq_iff (by nofun) values

theorem findSomeM_cons_eq (examine : α → Except Fault (Option β)) (first : α) (rest : List α) :
    (first :: rest).findSomeM? examine =
      (examine first).bind fun found =>
        match found with
        | some value => .ok (some value)
        | none => rest.findSomeM? examine := by
  rw [List.findSomeM?_cons]
  cases examine first with
  | error fault => rfl
  | ok found => cases found <;> rfl

theorem stopsAtFirst_findSomeM (examine : α → Except Fault (Option β)) :
    StopsAtFirst (List.findSomeM? examine) examine (.ok none) where
  nil := rfl
  pass idles := by rw [findSomeM_cons_eq, idles]; rfl
  stop {value rest} stops := by
    rw [findSomeM_cons_eq]
    cases examined : examine value with
    | error fault => rfl
    | ok found =>
        cases found with
        | some result => rfl
        | none => exact absurd examined stops

/-- A search for a result fails with the first value that does not come to having none. -/
theorem findSomeM_error_iff (examine : α → Except Fault (Option β)) (values : List α)
    (fault : Fault) :
    values.findSomeM? examine = .error fault ↔
      ∃ before value after, values = before ++ value :: after ∧
        (∀ earlier ∈ before, examine earlier = .ok none) ∧ examine value = .error fault :=
  (stopsAtFirst_findSomeM examine).eq_iff (by nofun) values

/-- Values without a result have no part in what a search for a result comes to. -/
theorem findSomeM_of_idle {examine : α → Except Fault (Option β)} {before rest : List α}
    {outcome : Option β} (asked : (before ++ rest).findSomeM? examine = .ok outcome)
    (idle : ∀ value ∈ before, ∀ answer, examine value = .ok answer → answer = none) :
    rest.findSomeM? examine = .ok outcome := by
  induction before with
  | nil => exact asked
  | cons first before ih =>
      rw [List.cons_append, findSomeM_cons_eq] at asked
      obtain ⟨answer, examined, further⟩ := exists_of_bind_ok asked
      rw [idle first List.mem_cons_self answer examined] at further
      exact ih further fun value member => idle value (List.mem_cons_of_mem first member)

/-! ## Settled outcomes -/

/-- The outcome does not say that a value is unknown. -/
def Settled (outcome : Except Fault α) : Prop :=
  ∀ fault, outcome = .error fault → fault.isUnresolved = false

theorem settled_ok (answer : α) : Settled (.ok answer) := by
  intro fault failed
  cases failed

theorem settled_error {fault : Fault} (other : fault.isUnresolved = false) :
    Settled (.error fault : Except Fault α) := by
  intro cause failed
  cases failed
  exact other

theorem settled_settle (outcome : Except Fault Bool) : Settled (settle outcome) :=
  fun _ failed => isUnresolved_of_settle failed

theorem Settled.bind {outcome : Except Fault α} {next : α → Except Fault β}
    (first : Settled outcome) (rest : ∀ answer, Settled (next answer)) :
    Settled (outcome.bind next) := by
  intro fault failed
  cases reached : outcome with
  | error cause =>
      rw [reached] at failed
      cases failed
      exact first fault reached
  | ok answer =>
      rw [reached] at failed
      exact rest answer fault failed

theorem Settled.map {outcome : Except Fault α} (settled : Settled outcome) (f : α → β) :
    Settled (outcome.map f) := by
  intro fault failed
  cases reached : outcome with
  | error cause =>
      rw [reached] at failed
      cases failed
      exact settled fault reached
  | ok answer => rw [reached] at failed; cases failed

theorem Settled.anyM {examine : α → Except Fault Bool} (each : ∀ value, Settled (examine value))
    (values : List α) : Settled (values.anyM examine) := by
  intro fault failed
  obtain ⟨value, _, faulty⟩ := exists_of_anyM_error failed
  exact each value fault faulty

/-- Nothing is left to settle in a settled outcome. -/
theorem settle_eq_self {outcome : Except Fault Bool} (settled : Settled outcome) :
    settle outcome = outcome := by
  cases outcome with
  | ok answer => rfl
  | error fault => rw [settle_error, settled fault rfl]; rfl

theorem settle_eq_true_iff (outcome : Except Fault Bool) :
    settle outcome = .ok true ↔ outcome = .ok true := by
  cases outcome with
  | ok answer => rfl
  | error fault =>
      rw [settle_error]
      constructor
      · intro yes
        split at yes <;> cases yes
      · intro impossible; cases impossible

theorem settle_eq_error_iff (outcome : Except Fault Bool) (fault : Fault) :
    settle outcome = .error fault ↔ outcome = .error fault ∧ fault.isUnresolved = false := by
  constructor
  · intro failed
    refine ⟨?_, isUnresolved_of_settle failed⟩
    cases outcome with
    | ok answer => cases failed
    | error cause =>
        rw [settle_error] at failed
        split at failed
        · cases failed
        · exact failed
  · rintro ⟨failed, other⟩
    rw [failed, settle_error, other]
    rfl

/-- If the answer to a question is settled, only a fault before the question can be taken for a
no. -/
theorem settle_bind_ok {outcome : Except Fault α} {next : α → Except Fault Bool}
    (settled : ∀ first, Settled (next first)) {answer : Bool}
    (asked : settle (outcome.bind next) = .ok answer) :
    (∃ first, outcome = .ok first ∧ next first = .ok answer) ∨
      (answer = false ∧ ∃ fault, outcome = .error fault) := by
  cases outcome with
  | ok first =>
      change settle (next first) = .ok answer at asked
      rw [settle_eq_self (settled first)] at asked
      exact Or.inl ⟨first, rfl, asked⟩
  | error fault =>
      cases answer with
      | true => cases (settle_eq_true_iff _).mp asked
      | false => exact Or.inr ⟨rfl, fault, rfl⟩

/-! ## Searches for two aims -/

/-- The first outcome is that of a search for either of two aims, and the others are those
of the searches for one of them.  A hit of one search is a hit of the whole, and without a
hit all three end alike. -/
inductive Joins : Except Fault Bool → Except Fault Bool → Except Fault Bool → Prop
  | left (second : Except Fault Bool) : Joins (.ok true) (.ok true) second
  | right (first : Except Fault Bool) : Joins (.ok true) first (.ok true)
  | same (outcome : Except Fault Bool) : Joins outcome outcome outcome

namespace Joins

theorem orElse {whole first second whole' first' second' : Except Fault Bool}
    (now : Joins whole first second) (later : Joins whole' first' second') :
    Joins (whole.bind fun found => if found then .ok true else whole')
      (first.bind fun found => if found then .ok true else first')
      (second.bind fun found => if found then .ok true else second') := by
  cases now with
  | left => exact .left _
  | right => exact .right _
  | same =>
      cases whole with
      | error fault => exact .same _
      | ok found =>
          cases found with
          | true => exact .same _
          | false => exact later

theorem bind (outcome : Except Fault α) {whole first second : α → Except Fault Bool}
    (each : ∀ answer, Joins (whole answer) (first answer) (second answer)) :
    Joins (outcome.bind whole) (outcome.bind first) (outcome.bind second) := by
  cases outcome with
  | error fault => exact .same _
  | ok answer => exact each answer

theorem anyM {whole first second : α → Except Fault Bool}
    (each : ∀ value, Joins (whole value) (first value) (second value)) (values : List α) :
    Joins (values.anyM whole) (values.anyM first) (values.anyM second) := by
  induction values with
  | nil => exact .same _
  | cons value rest ih =>
      rw [anyM_cons_eq, anyM_cons_eq, anyM_cons_eq]
      exact (each value).orElse ih

theorem settle {whole first second : Except Fault Bool} (joins : Joins whole first second) :
    Joins (settle whole) (settle first) (settle second) := by
  cases joins with
  | left => exact .left _
  | right => exact .right _
  | same => exact .same _

theorem true_iff {whole first second : Except Fault Bool} (joins : Joins whole first second) :
    whole = .ok true ↔ first = .ok true ∨ second = .ok true := by
  cases joins with
  | left => exact ⟨fun _ => Or.inl rfl, fun _ => rfl⟩
  | right => exact ⟨fun _ => Or.inr rfl, fun _ => rfl⟩
  | same => exact (or_self_iff).symm

/-- Without a hit all three searches end alike. -/
theorem eq_of_ne_true {whole first second : Except Fault Bool} (joins : Joins whole first second)
    (firstMisses : first ≠ .ok true) (secondMisses : second ≠ .ok true) :
    first = whole ∧ second = whole := by
  cases joins with
  | left => exact absurd rfl firstMisses
  | right => exact absurd rfl secondMisses
  | same => exact ⟨rfl, rfl⟩

/-- If one aim is missed without a fault, the search for the other one has an answer. -/
theorem exists_answer {whole second : Except Fault Bool} (joins : Joins whole (.ok false) second) :
    ∃ answer, second = .ok answer := by
  cases joins with
  | right => exact ⟨true, rfl⟩
  | same => exact ⟨false, rfl⟩

/-- If neither aim is reached because of a fault, it is the same fault. -/
theorem fault_eq {whole : Except Fault Bool} {left right : Fault}
    (joins : Joins whole (.error left) (.error right)) : left = right := by
  cases joins
  rfl

end Joins

end FrameworkLint.Fault
