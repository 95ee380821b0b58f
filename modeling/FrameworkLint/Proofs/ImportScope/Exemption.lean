import FrameworkLint.Proofs.ImportScope.Restriction

/-!
# Names that are exempt from the report

Names that are bound to a relation field should not be reported as unused.  What is exempt is
more: every name whose first statement imports a relation field is, also if the statement binds
that name to something else.
-/

namespace FrameworkLint.ImportScope

variable {n : Nat} {α β : Type}

/-- The name is bound to a relation field by the first of its statements. -/
inductive BindsRelation (graph : Graph n) (entry : String × List (Ref n)) : Prop
  | intro {statement : Ref n} {further : List (Ref n)} {origin : String}
      {names : List ImportedName} {imported : ImportedName}
      (first : entry.2 = statement :: further)
      (isImport : graph.shape statement = .importFrom origin names) (member : imported ∈ names)
      (relation : IsRelation imported) (named : imported.bound = entry.1)

/-- The first statement of the name imports a relation field, but whatever it binds to this name
is something else. -/
inductive BesideRelation (graph : Graph n) (entry : String × List (Ref n)) : Prop
  | intro {statement : Ref n} {further : List (Ref n)} {origin : String}
      {names : List ImportedName} {neighbour : ImportedName}
      (first : entry.2 = statement :: further)
      (isImport : graph.shape statement = .importFrom origin names) (member : neighbour ∈ names)
      (relation : IsRelation neighbour)
      (other : ∀ imported ∈ names, imported.bound = entry.1 → ¬ IsRelation imported)

theorem BesideRelation.not_bindsRelation {graph : Graph n} {entry : String × List (Ref n)}
    (beside : BesideRelation graph entry) : ¬ BindsRelation graph entry := by
  obtain ⟨first, isImport, _, _, other⟩ := beside
  rintro ⟨first', isImport', member, relation, named⟩
  cases first.symm.trans first'
  cases isImport.symm.trans isImport'
  exact other _ member named relation

theorem imports_iff (graph : Graph n) (entry : String × List (Ref n)) :
    (∃ statement further, entry.2 = statement :: further ∧ ImportsRelation graph statement) ↔
      BindsRelation graph entry ∨ BesideRelation graph entry := by
  constructor
  · rintro ⟨statement, further, first, isImport, member, relation⟩
    by_cases binds : BindsRelation graph entry
    · exact Or.inl binds
    · refine Or.inr ⟨first, isImport, member, relation, ?_⟩
      intro imported member' named relation'
      exact binds ⟨first, isImport, member', relation', named⟩
  · rintro (⟨first, isImport, member, relation, _⟩ | ⟨first, isImport, member, relation, _⟩)
    · exact ⟨_, _, first, isImport, member, relation⟩
    · exact ⟨_, _, first, isImport, member, relation⟩

theorem mem_restricted_iff (graph : Graph n) (scope : ImportScope n α)
    {entry : String × List (Ref n)} (listed : entry ∈ scope.names) :
    entry ∈ (scope.restricted graph).names ↔ Stays graph entry := by
  simp [restricted, listed]

/-- A name of a scope is left out exactly if its first statement imports a relation field. -/
theorem not_mem_restricted_iff (graph : Graph n) (scope : ImportScope n α)
    {entry : String × List (Ref n)} (listed : entry ∈ scope.names) :
    entry ∉ (scope.restricted graph).names ↔
      ∃ statement further, entry.2 = statement :: further ∧ ImportsRelation graph statement := by
  rw [mem_restricted_iff graph scope listed, Stays]
  cases entry.2 with
  | nil => simp
  | cons statement further => simp

/-- Of the names of a scope, those that the method does not get to see are the names that are bound
to a relation field and those that are imported beside one: what a statement binds is exempt as a
whole or not at all.  So only names of relation fields are exempt exactly if no name is imported
beside one. -/
theorem exempt_iff_bound_or_beside (graph : Graph n) (first : ImportScope n α)
    (others : List (ImportScope n α)) (bound : first.Bound)
    (run : List (ImportScope n α) → List (ImportScope n α) × Except Fault β) :
    ∃ kept : ImportScope n α, filtered graph (plain run) (first :: others) = plain run [kept] ∧
      (∀ entry ∈ first.names, entry ∉ kept.names ↔
        BindsRelation graph entry ∨ BesideRelation graph entry) ∧
      (∀ entry ∈ first.names, ∀ other ∈ first.names, entry.2.head? = other.2.head? →
        (entry ∉ kept.names ↔ other ∉ kept.names)) ∧
      ((∀ entry ∈ first.names, entry ∉ kept.names → BindsRelation graph entry) ↔
        ∀ entry ∈ first.names, ¬ BesideRelation graph entry) := by
  have exempt : ∀ entry ∈ first.names, entry ∉ (first.restricted graph).names ↔
      BindsRelation graph entry ∨ BesideRelation graph entry := by
    intro entry listed
    rw [not_mem_restricted_iff graph first listed, imports_iff]
  refine ⟨first.restricted graph, filtered_of_bound graph (plain run) bound others, exempt, ?_, ?_⟩
  · intro entry listed other listed' same
    rw [mem_restricted_iff graph first listed, mem_restricted_iff graph first listed', Stays, Stays,
      same]
  · refine forall_congr' fun entry => forall_congr' fun listed => ?_
    rw [exempt entry listed]
    constructor
    · intro only beside
      exact beside.not_bindsRelation (only (Or.inr beside))
    · rintro alone (binds | beside)
      · exact binds
      · exact absurd beside alone

theorem charField_beside : BesideRelation fieldImports ("CharField", [0]) := by
  refine ⟨rfl, rfl, List.mem_cons_self, Or.inl rfl, ?_⟩
  intro imported member named
  simp only [List.mem_cons, List.not_mem_nil, or_false] at member
  rcases member with rfl | rfl
  · exact absurd named (by decide)
  · simp [IsRelation]

/-- Of the three names, one is bound to a relation field and one stands beside it.  The third has
the name of a relation field and is none. -/
theorem fieldNames_exempt :
    BindsRelation fieldImports ("Key", [0]) ∧ BesideRelation fieldImports ("CharField", [0]) ∧
    ∃ kept : ImportScope 2 String,
      filtered fieldImports (observe "reported") [fieldNames] = observe "reported" [kept] ∧
      ("Key", [0]) ∉ kept.names ∧ ("CharField", [0]) ∉ kept.names ∧
      ("ForeignKey", [1, 0]) ∈ kept.names := by
  have bound : fieldNames.Bound := by simp [Bound, fieldNames]
  have key : BindsRelation fieldImports ("Key", [0]) :=
    ⟨rfl, rfl, List.mem_cons_self, Or.inl rfl, rfl⟩
  have price : ¬ (BindsRelation fieldImports ("ForeignKey", [1, 0]) ∨
      BesideRelation fieldImports ("ForeignKey", [1, 0])) := by
    rw [← imports_iff]
    rintro ⟨statement, further, first, imports⟩
    cases first
    cases (importsRelation_iff fieldImports 1).mpr imports
  obtain ⟨kept, seen, exempt, _⟩ := exempt_iff_bound_or_beside fieldImports fieldNames [] bound
    fun scopes => (scopes, .ok "reported")
  refine ⟨key, charField_beside, kept, seen, ?_, ?_, ?_⟩
  · exact (exempt _ (by simp [fieldNames])).mpr (Or.inl key)
  · exact (exempt _ (by simp [fieldNames])).mpr (Or.inr charField_beside)
  · exact Classical.byContradiction fun left => price ((exempt _ (by simp [fieldNames])).mp left)

/-- An unused name that is bound to no relation field and still never reaches the report. -/
theorem charField_unreported :
    fieldNames.Bound ∧ ("CharField", [0]) ∈ fieldNames.names ∧
      ¬ BindsRelation fieldImports ("CharField", [0]) ∧
      (filtered fieldImports (observe "reported") [fieldNames]).seen =
        [[⟨[("ForeignKey", [1, 0])], ["module"]⟩]] := by
  refine ⟨?_, ?_, charField_beside.not_bindsRelation, rfl⟩
  · simp [Bound, fieldNames]
  · simp [fieldNames]

end FrameworkLint.ImportScope
