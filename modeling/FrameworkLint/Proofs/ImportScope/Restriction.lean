import FrameworkLint.ImportScope
import Mathlib.Data.List.Nodup

/-!
# The scope that is left at the end of a module

The method that reports unused imports sees one scope: the first, without the names that come
from the import of a relation field.  Nothing else of the scope is touched.  If there is no scope
to look at, or a name in it without a statement, the method does not run and all scopes stay as
they are.
-/

namespace FrameworkLint

variable {n : Nat} {α β : Type}

/-- A name that is new in a table comes last. -/
theorem Table.set_of_not_mem {name : String} {table : Table α} (value : α)
    (new : name ∉ table.map Prod.fst) : table.set name value = table ++ [(name, value)] := by
  induction table with
  | nil => rfl
  | cons entry rest ih =>
      rw [List.map_cons, List.mem_cons, not_or] at new
      obtain ⟨here, later⟩ := new
      rw [set, if_neg (Ne.symm here), ih later]
      rfl

namespace ImportScope

/-! ## Names that stay -/

/-- A relation field is imported, whatever name it is bound to. -/
def IsRelation (imported : ImportedName) : Prop :=
  imported.name = "ForeignKey" ∨ imported.name = "OneToOneField"

/-- A statement that imports a relation field, perhaps among others. -/
inductive ImportsRelation (graph : Graph n) (statement : Ref n) : Prop
  | intro {origin : String} {names : List ImportedName} {imported : ImportedName}
      (isImport : graph.shape statement = .importFrom origin names) (member : imported ∈ names)
      (relation : IsRelation imported)

/-- The first statement behind a name does not import a relation field. -/
def Stays (graph : Graph n) (entry : String × List (Ref n)) : Prop :=
  ∀ statement ∈ entry.2.head?, ¬ ImportsRelation graph statement

/-- Every name has a statement that binds it. -/
def Bound (scope : ImportScope n α) : Prop :=
  ∀ entry ∈ scope.names, entry.2 ≠ []

theorem relationNames_contains_iff (imported : ImportedName) :
    relationNames.contains imported.name = true ↔ IsRelation imported := by
  simp [relationNames, IsRelation]

theorem importsRelation_iff (graph : Graph n) (statement : Ref n) :
    importsRelation graph statement = true ↔ ImportsRelation graph statement := by
  unfold importsRelation
  split
  · next origin names isImport =>
      simp only [List.any_eq_true, relationNames_contains_iff]
      constructor
      · rintro ⟨imported, member, relation⟩
        exact ⟨isImport, member, relation⟩
      · rintro ⟨again, member, relation⟩
        cases isImport.symm.trans again
        exact ⟨_, member, relation⟩
  · next other =>
      refine iff_of_false Bool.false_ne_true ?_
      rintro ⟨isImport, _, _⟩
      exact other _ _ isImport

theorem keeps_iff (graph : Graph n) (entry : String × List (Ref n)) :
    keeps graph entry = true ↔ Stays graph entry := by
  unfold keeps Stays
  simp only [← importsRelation_iff]
  cases entry.2.head? <;> simp

theorem isBound_iff (scope : ImportScope n α) : scope.isBound = true ↔ scope.Bound := by
  unfold isBound Bound
  simp

instance (graph : Graph n) : DecidablePred (Stays graph) :=
  fun entry => decidable_of_iff _ (keeps_iff graph entry)

/-! ## The scope without relation fields -/

/-- The scope with only the names that stay. -/
def restricted (graph : Graph n) (scope : ImportScope n α) : ImportScope n α :=
  { scope with names := scope.names.filter (Stays graph ·) }

theorem filter_keeps (graph : Graph n) (names : Table (List (Ref n))) :
    names.filter (keeps graph) = names.filter (Stays graph ·) := by
  refine List.filter_congr fun entry _ => ?_
  rw [← Bool.coe_iff_coe, keeps_iff, decide_eq_true_iff]

theorem withoutRelations_of_bound (graph : Graph n) {first : ImportScope n α} (bound : first.Bound)
    (others : List (ImportScope n α)) :
    withoutRelations graph (first :: others) = .ok [first.restricted graph] := by
  rw [withoutRelations, if_pos ((isBound_iff first).mpr bound), filter_keeps]
  rfl

theorem withoutRelations_of_not_bound (graph : Graph n) {scopes : List (ImportScope n α)}
    (unbound : ¬ ∃ first others, scopes = first :: others ∧ first.Bound) :
    withoutRelations graph scopes = .error .noElement := by
  cases scopes with
  | nil => rfl
  | cons first others =>
      have gap : ¬ first.isBound = true := fun bound =>
        unbound ⟨first, others, rfl, (isBound_iff first).mp bound⟩
      rw [withoutRelations, if_neg gap]

/-! ## One name after the other -/

/-- Reads the names one after the other into a new table.  A name is looked at by its first
statement, and the first name without one ends the reading. -/
def sift (graph : Graph n) (kept : Table (List (Ref n))) :
    Table (List (Ref n)) → Except Fault (Table (List (Ref n)))
  | [] => .ok kept
  | (_, []) :: _ => .error .noElement
  | (name, first :: further) :: rest =>
      if importsRelation graph first then sift graph kept rest
      else sift graph (kept.set name (first :: further)) rest

theorem sift_of_bound (graph : Graph n) (kept names : Table (List (Ref n)))
    (distinct : ((kept ++ names).map Prod.fst).Nodup) (bound : ∀ entry ∈ names, entry.2 ≠ []) :
    sift graph kept names = .ok (kept ++ names.filter (keeps graph)) := by
  -- Each step drops an entry or moves it to the end of the table that is kept, so the names ahead
  -- are always new in that table.
  induction names generalizing kept with
  | nil => simp [sift]
  | cons entry rest ih =>
      obtain ⟨name, statements⟩ := entry
      obtain ⟨here, later⟩ := List.forall_mem_cons.mp bound
      cases statements with
      | nil => exact absurd rfl here
      | cons first further =>
          cases relation : importsRelation graph first with
          | true =>
              have ahead : ((kept ++ rest).map Prod.fst).Nodup := by
                refine distinct.sublist (List.Sublist.map Prod.fst ?_)
                exact (List.sublist_cons_self _ rest).append_left kept
              simp [sift, keeps, relation, ih kept ahead later]
          | false =>
              have new : name ∉ kept.map Prod.fst := by
                rw [List.map_append, List.nodup_append'] at distinct
                exact fun old => distinct.2.2 old List.mem_cons_self
              have ahead : ((kept ++ [(name, first :: further)] ++ rest).map Prod.fst).Nodup := by
                rwa [List.append_assoc]
              simp [sift, keeps, relation, Table.set_of_not_mem _ new, ih _ ahead later]

/-- A name without a statement ends the reading, wherever it stands. -/
theorem sift_of_not_bound (graph : Graph n) (kept names : Table (List (Ref n)))
    (gap : ∃ entry ∈ names, entry.2 = []) : sift graph kept names = .error .noElement := by
  induction names generalizing kept with
  | nil =>
      obtain ⟨_, member, _⟩ := gap
      cases member
  | cons entry rest ih =>
      obtain ⟨name, statements⟩ := entry
      cases statements with
      | nil => rfl
      | cons first further =>
          have later : ∃ entry ∈ rest, entry.2 = [] := by simpa using gap
          rw [sift, ih kept later, ih _ later, ite_self]

/-- In a table without repeated names, taking the names out all at once and reading them one by
one come to the same. -/
theorem withoutRelations_eq_sift (graph : Graph n) (first : ImportScope n α)
    (others : List (ImportScope n α)) (distinct : (first.names.map Prod.fst).Nodup) :
    withoutRelations graph (first :: others) =
      (sift graph [] first.names).map fun names => [{ first with names := names }] := by
  by_cases bound : first.Bound
  · rw [sift_of_bound graph [] first.names distinct bound,
      withoutRelations_of_bound graph bound others, List.nil_append, filter_keeps]
    rfl
  · have gap : ∃ entry ∈ first.names, entry.2 = [] := by simpa [Bound] using bound
    rw [sift_of_not_bound graph [] first.names gap, withoutRelations_of_not_bound]
    · rfl
    · rintro ⟨_, _, same, boundFirst⟩
      cases same
      exact bound boundFirst

/-! ## The end of a module -/

/-- A method that runs once each time and does with the scopes what it is said to do. -/
def plain (run : List (ImportScope n α) → List (ImportScope n α) × Except Fault β) :
    Handler n α β :=
  fun scopes => ⟨(run scopes).1, [scopes], (run scopes).2.map some⟩

theorem filtered_of_bound (graph : Graph n) (method : Handler n α β) {first : ImportScope n α}
    (bound : first.Bound) (others : List (ImportScope n α)) :
    filtered graph method (first :: others) = method [first.restricted graph] := by
  simp only [filtered, withoutRelations_of_bound graph bound others]

theorem filtered_of_not_bound (graph : Graph n) (method : Handler n α β)
    {scopes : List (ImportScope n α)}
    (unbound : ¬ ∃ first others, scopes = first :: others ∧ first.Bound) :
    filtered graph method scopes = ⟨scopes, [], .error .noElement⟩ := by
  simp only [filtered, withoutRelations_of_not_bound graph unbound]

/-- If all names of the first scope are bound, the method runs once, and what it sees is the first
scope alone with the names that stay, in their order and with their statements.  Otherwise it does
not run, and the scopes stay as they are. -/
theorem departure_restricted (graph : Graph n) (scopes : List (ImportScope n α))
    (run : List (ImportScope n α) → List (ImportScope n α) × Except Fault β) :
    (∀ first others, scopes = first :: others → first.Bound →
      filtered graph (plain run) scopes =
        ⟨(run [first.restricted graph]).1, [[first.restricted graph]],
          (run [first.restricted graph]).2.map some⟩ ∧
      wrapped graph (plain run) scopes =
        ⟨(run [first.restricted graph]).1, [[first.restricted graph]],
          (run [first.restricted graph]).2.map fun _ => none⟩) ∧
    ((¬ ∃ first others, scopes = first :: others ∧ first.Bound) →
      filtered graph (plain run) scopes = ⟨scopes, [], .error .noElement⟩ ∧
      wrapped graph (plain run) scopes = ⟨scopes, [], .error .noElement⟩) ∧
    (∀ first others, scopes = first :: others → (first.names.map Prod.fst).Nodup →
      withoutRelations graph scopes =
        (sift graph [] first.names).map fun names => [{ first with names := names }]) := by
  refine ⟨?_, ?_, ?_⟩
  · rintro first others rfl bound
    unfold wrapped
    rw [filtered_of_bound graph (plain run) bound others]
    refine ⟨rfl, ?_⟩
    unfold plain
    cases (run [first.restricted graph]).2 <;> rfl
  · intro unbound
    unfold wrapped
    rw [filtered_of_not_bound graph (plain run) unbound]
    exact ⟨rfl, rfl⟩
  · rintro first others rfl distinct
    exact withoutRelations_eq_sift graph first others distinct

/-- An import of a relation field under another name together with another field, and an import
under the name of a relation field. -/
def fieldImports : Graph 2 where
  node
    | 0 =>
      { shape := .importFrom "django.db.models" [⟨"ForeignKey", some "Key"⟩, ⟨"CharField", none⟩] }
    | 1 => { shape := .importFrom "shop.fields" [⟨"PriceField", some "ForeignKey"⟩] }

/-- The names that the two imports bind. -/
def fieldNames : ImportScope 2 String :=
  { names := [("Key", [0]), ("ForeignKey", [1, 0]), ("CharField", [0])], rest := ["module"] }

/-- A scope with a name between others that has no statement. -/
def gappedNames : ImportScope 2 String :=
  { names := [("Key", [0]), ("late", []), ("CharField", [0])], rest := ["function"] }

/-- A name without a statement counts in the first scope only. -/
theorem fieldNames_departure :
    wrapped fieldImports (observe "reported") [fieldNames, gappedNames] =
      ⟨[⟨[("ForeignKey", [1, 0])], ["module"]⟩], [[⟨[("ForeignKey", [1, 0])], ["module"]⟩]],
        .ok none⟩ ∧
    wrapped fieldImports (observe "reported") [gappedNames, fieldNames] =
      ⟨[gappedNames, fieldNames], [], .error .noElement⟩ := by
  have bound : fieldNames.Bound := by simp [Bound, fieldNames]
  have gapped : ¬ gappedNames.Bound := by simp [Bound, gappedNames]
  obtain ⟨runs, _⟩ := departure_restricted fieldImports [fieldNames, gappedNames]
    fun scopes => (scopes, .ok "reported")
  obtain ⟨_, fails, _⟩ := departure_restricted fieldImports [gappedNames, fieldNames]
    fun scopes => (scopes, .ok "reported")
  refine ⟨(runs fieldNames [gappedNames] rfl bound).2, (fails ?_).2⟩
  rintro ⟨_, _, same, boundFirst⟩
  cases same
  exact gapped boundFirst

end ImportScope

end FrameworkLint
