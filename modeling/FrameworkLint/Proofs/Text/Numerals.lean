import FrameworkLint.Text.Integer
import FrameworkLint.Proofs.Text.Words
import Mathlib.Data.List.Forall2
import Mathlib.Data.List.Pairwise
import Mathlib.Data.Nat.Digits.Defs

/-!
# Numerals

What a number looks like: one or more groups of digits with an underscore between two groups,
and a sign in front or none.  The digits may be those of any script, because no character is a
digit of two scripts.  Reading gives a number for exactly these texts, and it is the number that
the digits stand for in base ten.
-/

namespace FrameworkLint.Text

/-! ## Digits -/

/-- A digit of some script, and its value. -/
inductive Digit (character : Char) (value : Nat) : Prop
  | intro (start : Nat) (script : start ∈ zeros) (small : value < 10)
      (place : character.toNat = start + value)

theorem zeros_ascending : zeros.Pairwise fun earlier later => earlier + 10 ≤ later := by
  decide

/-- The ten digits of a script are digits of no other one. -/
theorem Digit.value_eq {character : Char} {first second : Nat} (one : Digit character first)
    (other : Digit character second) : first = second := by
  obtain ⟨start, script, small, place⟩ := one
  obtain ⟨start', script', small', place'⟩ := other
  have symmetric : Std.Symm fun start other : Nat => start + 10 ≤ other ∨ other + 10 ≤ start :=
    ⟨fun _ _ => Or.symm⟩
  have apart : zeros.Pairwise fun start other => start + 10 ≤ other ∨ other + 10 ≤ start :=
    zeros_ascending.imp Or.inl
  have same : start = start' := by
    by_contra different
    rcases apart.forall script script' different with below | above <;> omega
  omega

theorem digit_of_eq_some {character : Char} {value : Nat} (read : digit? character = some value) :
    Digit character value := by
  obtain ⟨start, script, here⟩ := List.exists_of_findSome?_eq_some read
  split at here
  · next inside =>
      cases here
      exact ⟨start, script, by omega, by omega⟩
  · cases here

theorem digit_eq_some_iff (character : Char) (value : Nat) :
    digit? character = some value ↔ Digit character value := by
  refine ⟨digit_of_eq_some, ?_⟩
  intro digit
  cases read : digit? character with
  | some found => rw [digit.value_eq (digit_of_eq_some read)]
  | none =>
      obtain ⟨start, script, small, place⟩ := digit
      have missed := List.findSome?_eq_none_iff.mp read start script
      rw [if_pos (by omega)] at missed
      cases missed

theorem mapM_eq_some_iff {α β : Type} (read : α → Option β) (texts : List α) (values : List β) :
    texts.mapM read = some values ↔
      List.Forall₂ (fun text value => read text = some value) texts values := by
  induction texts generalizing values with
  | nil => simp [eq_comm]
  | cons first rest ih =>
      rw [List.mapM_cons, List.forall₂_cons_left_iff]
      cases firstRead : read first with
      | none => simp
      | some value =>
          cases restRead : rest.mapM read with
          | none => simp [← ih, restRead]
          | some others => simp [← ih, restRead, eq_comm]

/-! ## Numbers without a sign -/

/-- Groups of digits with underscores between them, and the number they stand for. -/
inductive Natural (text : List Char) (value : Nat) : Prop
  | intro (groups : List (List Char)) (digits : List Nat) (grouped : Parts '_' text groups)
      (filled : ∀ group ∈ groups, group ≠ []) (read : List.Forall₂ Digit groups.flatten digits)
      (limited : digits.length ≤ digitLimit) (worth : value = Nat.ofDigits 10 digits.reverse)

theorem ofDigits_eq (digits : List Nat) : ofDigits digits = Nat.ofDigits 10 digits.reverse := by
  rw [ofDigits, List.foldl_eq_foldr_reverse, Nat.ofDigits_eq_foldr]
  congr 1
  funext digit value
  exact Nat.add_comm _ _

theorem natural_eq_some_iff (text : List Char) (value : Nat) :
    natural? text = some value ↔ Natural text value := by
  have groupsRead {groups : List (List Char)} {digits : List Nat} :
      groups.flatten.mapM digit? = some digits ↔ List.Forall₂ Digit groups.flatten digits := by
    rw [mapM_eq_some_iff]
    simp only [digit_eq_some_iff]
  constructor
  · intro read
    unfold natural? at read
    dsimp only at read
    split at read
    · cases read
    · next sound =>
        simp only [Bool.or_eq_true, List.any_eq_true, List.isEmpty_iff, decide_eq_true_eq,
          not_or, not_exists, not_and, not_lt] at sound
        obtain ⟨digits, known, worth⟩ := Option.map_eq_some_iff.mp read
        have digitsRead := groupsRead.mp known
        refine ⟨_, digits, (fields_eq_iff '_' text _).mp rfl, sound.1, digitsRead, ?_, ?_⟩
        · exact digitsRead.length_eq ▸ sound.2
        · rw [← worth, ofDigits_eq]
  · rintro ⟨groups, digits, grouped, filled, read, limited, rfl⟩
    have noneEmpty : groups.any List.isEmpty = false := by
      simpa [List.isEmpty_iff] using filled
    have few : ¬ digitLimit < groups.flatten.length := by
      rw [read.length_eq]
      exact Nat.not_lt.mpr limited
    unfold natural?
    rw [(fields_eq_iff '_' text groups).mpr grouped]
    dsimp only
    rw [noneEmpty, Bool.false_or, if_neg (by simpa using few), groupsRead.mpr read,
      Option.map_some, ofDigits_eq]

theorem Natural.exists_head {text : List Char} {value : Nat} (number : Natural text value) :
    ∃ first rest digit, text = first :: rest ∧ Digit first digit := by
  obtain ⟨groups, digits, ⟨inhabited, _, joined⟩, filled, read, _, _⟩ := number
  cases groups with
  | nil => exact absurd rfl inhabited
  | cons group others =>
      cases group with
      | nil => exact absurd rfl (filled [] List.mem_cons_self)
      | cons first group =>
          rw [List.flatten_cons, List.cons_append] at read
          obtain ⟨digit, _, here, _, _⟩ := List.forall₂_cons_left_iff.mp read
          cases others with
          | nil => exact ⟨first, _, digit, joined.symm, here⟩
          | cons next others => exact ⟨first, _, digit, joined.symm, here⟩

/-! ## Numbers with or without a sign -/

inductive Numeral : List Char → Int → Prop
  | unsigned {text : List Char} {value : Nat} (number : Natural text value) : Numeral text value
  | positive {text : List Char} {value : Nat} (number : Natural text value) :
      Numeral ('+' :: text) value
  | negative {text : List Char} {value : Nat} (number : Natural text value) :
      Numeral ('-' :: text) (-value)

theorem integer_of_natural {text : List Char} {value : Nat} (number : Natural text value) :
    integer? text = some (value : Int) := by
  obtain ⟨first, rest, digit, rfl, here⟩ := number.exists_head
  have read := (digit_eq_some_iff first digit).mpr here
  unfold integer?
  split
  · next same =>
      cases same
      cases read.symm.trans (rfl : digit? '+' = none)
  · next same =>
      cases same
      cases read.symm.trans (rfl : digit? '-' = none)
  · rw [(natural_eq_some_iff _ _).mpr number]
    rfl

theorem integer_eq_some_iff (text : List Char) (value : Int) :
    integer? text = some value ↔ Numeral text value := by
  constructor
  · intro read
    unfold integer? at read
    split at read
    · obtain ⟨number, known, rfl⟩ := Option.map_eq_some_iff.mp read
      exact .positive ((natural_eq_some_iff _ _).mp known)
    · obtain ⟨number, known, rfl⟩ := Option.map_eq_some_iff.mp read
      exact .negative ((natural_eq_some_iff _ _).mp known)
    · obtain ⟨number, known, rfl⟩ := Option.map_eq_some_iff.mp read
      exact .unsigned ((natural_eq_some_iff _ _).mp known)
  · intro numeral
    cases numeral with
    | unsigned number => exact integer_of_natural number
    | positive number =>
        rw [integer?, (natural_eq_some_iff _ _).mpr number]
        rfl
    | negative number =>
        rw [integer?, (natural_eq_some_iff _ _).mpr number]
        rfl

end FrameworkLint.Text
