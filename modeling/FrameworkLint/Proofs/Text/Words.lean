import FrameworkLint.Text.Fields

/-!
# Parts and words of a text

A text that is split at a separator falls into the parts that give it back when they are
joined, and into no others.  Its words are its longest runs without a blank: a blank stands
before and behind each of them, or an end of the text, and between two words there are only
blanks.
-/

namespace FrameworkLint.Text

/-! ## Parts -/

theorem fields_eq_splitOnP (isSeparator : Char → Bool) (text : List Char) :
    fields isSeparator text = text.splitOnP isSeparator := by
  induction text with
  | nil => simp [fields]
  | cons first rest ih =>
      rw [List.splitOnP_cons_eq_if_modifyHead, fields, ih]
      split
      · rfl
      · cases parts : rest.splitOnP isSeparator with
        | nil => exact absurd parts (List.splitOnP_ne_nil isSeparator rest)
        | cons part others => rfl

theorem fields_eq_splitOn (separator : Char) (text : List Char) :
    fields (· == separator) text = text.splitOn separator := by
  rw [fields_eq_splitOnP, List.splitOn_eq_splitOnP]

theorem separator_not_mem_of_mem_fields {isSeparator : Char → Bool} {text part : List Char}
    (member : part ∈ fields isSeparator text) :
    ∀ character ∈ part, isSeparator character = false := by
  induction text generalizing part with
  | nil =>
      rw [List.mem_singleton.mp member]
      nofun
  | cons first rest ih =>
      unfold fields at member
      split at member
      · rcases List.mem_cons.mp member with rfl | further
        · nofun
        · exact ih further
      · next solid =>
          have here : isSeparator first = false := Bool.of_not_eq_true solid
          split at member
          · rw [List.mem_singleton.mp member]
            simpa using here
          · next field others known =>
              rcases List.mem_cons.mp member with rfl | further
              · exact List.forall_mem_cons.mpr ⟨here, ih (by rw [known]; exact List.mem_cons_self)⟩
              · exact ih (by rw [known]; exact List.mem_cons_of_mem field further)

/-- The parts of a text between its separators. -/
structure Parts (separator : Char) (text : List Char) (parts : List (List Char)) : Prop where
  inhabited : parts ≠ []
  apart : ∀ part ∈ parts, separator ∉ part
  joined : [separator].intercalate parts = text

theorem fields_eq_iff (separator : Char) (text : List Char) (parts : List (List Char)) :
    fields (· == separator) text = parts ↔ Parts separator text parts := by
  constructor
  · rintro rfl
    refine ⟨fields_ne_nil _ text, ?_, ?_⟩
    · intro part member inside
      simpa using separator_not_mem_of_mem_fields member separator inside
    · rw [fields_eq_splitOn, List.intercalate_splitOn]
  · rintro ⟨inhabited, apart, joined⟩
    rw [fields_eq_splitOn, ← joined, List.splitOn_intercalate separator apart inhabited]

/-! ## Words -/

/-- The words of a text, in order. -/
inductive Words : List Char → List (List Char) → Prop
  | none {text : List Char} (blank : ∀ character ∈ text, isBlank character = true) : Words text []
  | word {gap word rest : List Char} {words : List (List Char)}
      (blank : ∀ character ∈ gap, isBlank character = true) (inhabited : word ≠ [])
      (solid : ∀ character ∈ word, isBlank character = false)
      (ends : ∀ character ∈ rest.head?, isBlank character = true) (further : Words rest words) :
      Words (gap ++ (word ++ rest)) (word :: words)

/-- The fields between blanks that are not empty. -/
def solidFields (text : List Char) : List (List Char) :=
  (fields isBlank text).filter (!·.isEmpty)

theorem solidFields_append_blank (before : List Char) {blank : Char} (is : isBlank blank = true)
    (after : List Char) :
    solidFields (before ++ blank :: after) = solidFields before ++ solidFields after := by
  unfold solidFields
  rw [fields_eq_splitOnP, List.splitOnP_append_cons before after is, List.filter_append,
    fields_eq_splitOnP, fields_eq_splitOnP]

theorem solidFields_gap {gap : List Char} (blank : ∀ character ∈ gap, isBlank character = true)
    (text : List Char) : solidFields (gap ++ text) = solidFields text := by
  induction gap with
  | nil => rfl
  | cons first gap ih =>
      have firstBlank := blank first List.mem_cons_self
      calc solidFields (first :: (gap ++ text))
          = solidFields [] ++ solidFields (gap ++ text) := solidFields_append_blank [] firstBlank _
        _ = solidFields text := ih fun character member =>
            blank character (List.mem_cons_of_mem first member)

theorem solidFields_of_solid {word : List Char} (inhabited : word ≠ [])
    (solid : ∀ character ∈ word, isBlank character = false) : solidFields word = [word] := by
  unfold solidFields
  rw [fields_eq_splitOnP, List.splitOnP_eq_singleton solid]
  simpa using inhabited

theorem solidFields_of_words {text : List Char} {words : List (List Char)}
    (split : Words text words) : solidFields text = words := by
  induction split with
  | @none text blank =>
      rw [← List.append_nil text, solidFields_gap blank]
      rfl
  | @word gap word rest words blank inhabited solid ends further ih =>
      rw [solidFields_gap blank]
      cases rest with
      | nil =>
          rw [List.append_nil, solidFields_of_solid inhabited solid, ← ih]
          rfl
      | cons first rest =>
          have firstBlank := ends first rfl
          have restWords : solidFields rest = words := by
            rw [← ih]
            exact (solidFields_append_blank [] firstBlank rest).symm
          rw [solidFields_append_blank word firstBlank, solidFields_of_solid inhabited solid,
            restWords]
          rfl

theorem exists_words (text : List Char) : ∃ words, Words text words := by
  -- A further character in front is a blank, or begins a word, or belongs to the first word of
  -- the rest if no blank stands before that.
  induction text with
  | nil => exact ⟨[], .none nofun⟩
  | cons first rest ih =>
      obtain ⟨words, split⟩ := ih
      by_cases blank : isBlank first = true
      · cases split with
        | none others => exact ⟨[], .none (List.forall_mem_cons.mpr ⟨blank, others⟩)⟩
        | word others inhabited solid ends further =>
            exact ⟨_, .word (List.forall_mem_cons.mpr ⟨blank, others⟩) inhabited solid ends further⟩
      · have solid : isBlank first = false := Bool.of_not_eq_true blank
        have alone : ∀ character ∈ [first], isBlank character = false := by simpa using solid
        have start (before : ∀ character ∈ rest.head?, isBlank character = true) :
            Words ([] ++ ([first] ++ rest)) ([first] :: words) :=
          .word nofun (List.cons_ne_nil first []) alone before split
        cases split with
        | none others =>
            exact ⟨_, start fun character head => others character (List.mem_of_mem_head? head)⟩
        | @word gap word further words others inhabited solids ends more =>
            cases gap with
            | nil =>
                have longer : Words ([] ++ (first :: word ++ further)) ((first :: word) :: words) :=
                  .word nofun (List.cons_ne_nil first word)
                    (List.forall_mem_cons.mpr ⟨solid, solids⟩) ends more
                exact ⟨_, longer⟩
            | cons next gap =>
                refine ⟨_, start ?_⟩
                rintro character ⟨⟩
                exact others next List.mem_cons_self

theorem words_eq_iff (text : String) (tokens : List (List Char)) :
    words text = tokens ↔ Words text.toList tokens := by
  constructor
  · rintro rfl
    obtain ⟨tokens, split⟩ := exists_words text.toList
    have same : words text = tokens := solidFields_of_words split
    rwa [same]
  · exact solidFields_of_words

end FrameworkLint.Text
