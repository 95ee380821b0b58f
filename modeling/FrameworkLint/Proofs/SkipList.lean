import FrameworkLint.SkipList
import FrameworkLint.Proofs.Outcome
import FrameworkLint.Proofs.Text.Numerals

/-!
# The word that decides about a skip list

The words of a skip list are read in order.  A word that names the beginning of the version ends
the reading with a yes, and a word that names no version at all ends it with a fault.  The first
word of either kind decides alone: what stands behind it is not read.
-/

namespace FrameworkLint.SkipList

open Fault

/-! ## Words of a list -/

/-- The word consists of the numerals of the numbers, with dots between them. -/
inductive Names (word : List Char) (numbers : List Int) : Prop
  | intro (parts : List (List Char)) (split : Text.Parts '.' word parts)
      (read : List.Forall₂ Text.Numeral parts numbers)

def WellFormed (word : List Char) : Prop :=
  ∃ numbers, Names word numbers

/-- The word names the beginning of the version. -/
def Fits (version : Version) (word : List Char) : Prop :=
  ∃ numbers, Names word numbers ∧ Version.ofNumbers numbers <+: version

theorem Fits.wellFormed {version : Version} {word : List Char} (fits : Fits version word) :
    WellFormed word := by
  obtain ⟨numbers, names, _⟩ := fits
  exact ⟨numbers, names⟩

theorem entry_ok_iff (word : List Char) (numbers : List Int) :
    entry word = .ok numbers ↔ Names word numbers := by
  have read (parts : List (List Char)) :
      parts.mapM Text.integer? = some numbers ↔ List.Forall₂ Text.Numeral parts numbers := by
    rw [Text.mapM_eq_some_iff]
    simp only [Text.integer_eq_some_iff]
  have listed : entry word = .ok numbers ↔
      (Text.fields (· == '.') word).mapM Text.integer? = some numbers := by
    unfold entry
    cases (Text.fields (· == '.') word).mapM Text.integer? <;> simp
  rw [listed, read]
  constructor
  · exact fun numerals => ⟨_, (Text.fields_eq_iff '.' word _).mp rfl, numerals⟩
  · rintro ⟨parts, split, numerals⟩
    rwa [(Text.fields_eq_iff '.' word parts).mpr split]

theorem Names.numbers_eq {word : List Char} {numbers others : List Int}
    (names : Names word numbers) (again : Names word others) : numbers = others :=
  Except.ok.inj (((entry_ok_iff word numbers).mpr names).symm.trans
    ((entry_ok_iff word others).mpr again))

theorem Names.not_fits_of_longer {version : Version} {word : List Char} {numbers : List Int}
    (names : Names word numbers) (longer : version.length < numbers.length) :
    ¬ Fits version word := by
  rintro ⟨others, again, starts⟩
  cases names.numbers_eq again
  have short : numbers.length ≤ version.length :=
    Version.length_le_of_startsWith ((Version.startsWith_iff version numbers).mpr starts)
  exact Nat.not_lt.mpr short longer

theorem entry_error_iff (word : List Char) (fault : Fault) :
    entry word = .error fault ↔ ¬ WellFormed word ∧ fault = .notANumber := by
  unfold WellFormed
  simp only [← entry_ok_iff]
  unfold entry
  cases (Text.fields (· == '.') word).mapM Text.integer? <;> simp [eq_comm]

/-! ## Reading one word -/

/-- Whether the version begins as the word says. -/
def examine (version : Version) (word : List Char) : Except Fault Bool :=
  (entry word).map version.startsWith

theorem examine_true_iff (version : Version) (word : List Char) :
    examine version word = .ok true ↔ Fits version word := by
  unfold Fits
  simp only [← entry_ok_iff, ← Version.startsWith_iff, examine]
  cases entry word <;> simp [Except.map]

theorem examine_error_iff (version : Version) (word : List Char) (fault : Fault) :
    examine version word = .error fault ↔ ¬ WellFormed word ∧ fault = .notANumber := by
  rw [← entry_error_iff, examine]
  cases entry word <;> simp [Except.map]

theorem examine_false_iff (version : Version) (word : List Char) :
    examine version word = .ok false ↔ WellFormed word ∧ ¬ Fits version word := by
  rw [← examine_true_iff]
  unfold WellFormed
  simp only [← entry_ok_iff, examine]
  cases entry word <;> simp [Except.map]

/-- A word that leaves the matter open or says yes is one that names a version. -/
theorem examine_false_or_true_iff (version : Version) (word : List Char) :
    examine version word = .ok false ∨ examine version word = .ok true ↔ WellFormed word := by
  rw [examine_false_iff, examine_true_iff]
  constructor
  · rintro (⟨formed, _⟩ | fits)
    · exact formed
    · exact fits.wellFormed
  · intro formed
    by_cases fits : Fits version word
    · exact Or.inr fits
    · exact Or.inl ⟨formed, fits⟩

/-- A word that leaves the matter open or is at fault is one that does not fit. -/
theorem examine_false_or_error_iff (version : Version) (word : List Char) :
    examine version word = .ok false ∨ examine version word = .error .notANumber ↔
      ¬ Fits version word := by
  rw [examine_false_iff, examine_error_iff]
  constructor
  · rintro (⟨_, misses⟩ | ⟨malformed, _⟩) fits
    · exact misses fits
    · exact malformed fits.wellFormed
  · intro misses
    by_cases formed : WellFormed word
    · exact Or.inl ⟨formed, misses⟩
    · exact Or.inr ⟨formed, rfl⟩

theorem stopsAtFirst_skipsWords (version : Version) :
    StopsAtFirst (skipsWords version) (examine version) (.ok false) :=
  stopsAtFirst_anyM (examine version)

/-! ## Reading the list -/

theorem skips_eq {list : Option String} {words : List (List Char)}
    (split : Text.Words (list.getD "").toList words) (version : Version) :
    skips list version = skipsWords version words := by
  unfold skips
  rw [(Text.words_eq_iff (list.getD "") words).mpr split]

theorem skipsWords_true_iff (version : Version) (words : List (List Char)) :
    skipsWords version words = .ok true ↔ ∃ before word after, words = before ++ word :: after ∧
      (∀ earlier ∈ before, WellFormed earlier) ∧ Fits version word := by
  rw [(stopsAtFirst_skipsWords version).eq_iff_of_open (by nofun)]
  simp only [examine_false_or_true_iff]
  simp only [examine_true_iff]

theorem skipsWords_error_iff (version : Version) (words : List (List Char)) (fault : Fault) :
    skipsWords version words = .error fault ↔ fault = .notANumber ∧
      ∃ before word after, words = before ++ word :: after ∧
        (∀ earlier ∈ before, ¬ Fits version earlier) ∧ ¬ WellFormed word := by
  have found : skipsWords version words = .error .notANumber ↔
      ∃ before word after, words = before ++ word :: after ∧
        (∀ earlier ∈ before, ¬ Fits version earlier) ∧ ¬ WellFormed word := by
    rw [(stopsAtFirst_skipsWords version).eq_iff_of_open (by nofun)]
    simp only [examine_false_or_error_iff]
    simp only [examine_error_iff, and_true]
  constructor
  · intro failed
    obtain ⟨word, _, faulty⟩ := (stopsAtFirst_skipsWords version).exists_mem failed nofun
    obtain ⟨_, rfl⟩ := (examine_error_iff version word fault).mp faulty
    exact ⟨rfl, found.mp failed⟩
  · rintro ⟨rfl, decided⟩
    exact found.mpr decided

theorem skipsWords_false_iff (version : Version) (words : List (List Char)) :
    skipsWords version words = .ok false ↔
      ∀ word ∈ words, WellFormed word ∧ ¬ Fits version word := by
  rw [(stopsAtFirst_skipsWords version).eq_idle_iff]
  simp only [examine_false_iff]

/-- The first word of a list that fits the version or is malformed decides: a version is skipped
if a word fits it before which all words are well formed, the list is at fault if a word is
malformed before which none fits, and the version is not skipped if all words are well formed and
none fits.  The words behind the one that decides have no influence, and a word with more numbers
than the version has parts never fits. -/
theorem skips_decided_by_first (list : Option String) (version : Version)
    (words : List (List Char)) (split : Text.Words (list.getD "").toList words) :
    (skips list version = .ok true ↔ ∃ before word after, words = before ++ word :: after ∧
      (∀ earlier ∈ before, WellFormed earlier) ∧ Fits version word) ∧
    (∀ fault, skips list version = .error fault ↔ fault = .notANumber ∧
      ∃ before word after, words = before ++ word :: after ∧
        (∀ earlier ∈ before, ¬ Fits version earlier) ∧ ¬ WellFormed word) ∧
    (skips list version = .ok false ↔ ∀ word ∈ words, WellFormed word ∧ ¬ Fits version word) ∧
    (∀ before word after, words = before ++ word :: after →
      Fits version word ∨ ¬ WellFormed word →
      ∀ other behind, Text.Words (Option.getD other "").toList (before ++ word :: behind) →
        skips other version = skips list version) ∧
    (∀ word numbers, Names word numbers → version.length < numbers.length →
      ¬ Fits version word) := by
  rw [skips_eq split]
  refine ⟨skipsWords_true_iff version words, skipsWords_error_iff version words,
    skipsWords_false_iff version words, ?_, fun _ _ => Names.not_fits_of_longer⟩
  rintro before word after rfl decides other behind split'
  have ends : examine version word ≠ .ok false := by
    rw [Ne, examine_false_iff]
    rintro ⟨formed, misses⟩
    exact decides.elim misses fun malformed => malformed formed
  rw [skips_eq split', (stopsAtFirst_skipsWords version).append_cons_congr ends before behind after]

/-- A release of a version, whose level is a word. -/
def finalRelease : Version := [.number 3, .number 11, .number 4, .word "final", .number 0]

/-- The same three words decide by their order: a word that fits stands before the malformed one,
or behind it.  A word that goes on with a number where the release has its level does not fit. -/
theorem finalRelease_decided :
    skips (some "2.6\t+3.1_1 3.x") finalRelease = .ok true ∧
    skips (some "2.6 3.x +3.1_1") finalRelease = .error .notANumber ∧
    skips (some " 2.6 3.11.4.0\n") finalRelease = .ok false := by
  have early : Text.Words "2.6\t+3.1_1 3.x".toList
      ["2.6".toList, "+3.1_1".toList, "3.x".toList] := (Text.words_eq_iff _ _).mp rfl
  have late : Text.Words "2.6 3.x +3.1_1".toList
      ["2.6".toList, "3.x".toList, "+3.1_1".toList] := (Text.words_eq_iff _ _).mp rfl
  have never : Text.Words " 2.6 3.11.4.0\n".toList ["2.6".toList, "3.11.4.0".toList] :=
    (Text.words_eq_iff _ _).mp rfl
  have old : WellFormed "2.6".toList ∧ ¬ Fits finalRelease "2.6".toList :=
    (examine_false_iff finalRelease _).mp rfl
  have fits : Fits finalRelease "+3.1_1".toList := (examine_true_iff finalRelease _).mp rfl
  have malformed : ¬ WellFormed "3.x".toList := ((examine_error_iff finalRelease _ _).mp rfl).1
  have level : WellFormed "3.11.4.0".toList ∧ ¬ Fits finalRelease "3.11.4.0".toList :=
    (examine_false_iff finalRelease _).mp rfl
  obtain ⟨skipped, _⟩ := skips_decided_by_first (some _) finalRelease _ early
  obtain ⟨_, failed, _⟩ := skips_decided_by_first (some _) finalRelease _ late
  obtain ⟨_, _, passed, _⟩ := skips_decided_by_first (some _) finalRelease _ never
  refine ⟨skipped.mpr ⟨[_], _, [_], rfl, ?_, fits⟩,
    (failed _).mpr ⟨rfl, [_], _, [_], rfl, ?_, malformed⟩, passed.mpr ?_⟩
  · simpa using old.1
  · simpa using old.2
  · simpa using ⟨old, level⟩

end FrameworkLint.SkipList
