import Cadence.Database.Table
import Cadence.Proofs.Maps
import Mathlib.Algebra.Group.Int.Defs

/-!
# Rows that fit a table

A row fits a table if its scope names what the table is keyed by, its fields are the declared ones,
and every value is null or of the declared type (`TableDescriptor.Fits`). A row that does not fit
has a first fault (`TableDescriptor.FirstFault`): the scope comes before the fields, a field that is
not declared before those that are, of several undeclared ones the smallest, and the declared ones
come in the order of their declaration. A table that has been built accepts exactly the rows that
fit it, and of any other row it reports exactly the first fault (`validates_up_to_first_fault`).
-/

namespace Cadence

/-! ## Types and their values -/

namespace FieldType

/-- The values of a type. -/
inductive Holds : FieldType → Value → Prop where
  | integer {n : Int} (fits : -2 ^ 63 ≤ n ∧ n < 2 ^ 63 ∨ 0 ≤ n ∧ n < 2 ^ 64) :
    Holds integer (.number (.int n))
  | float (n : Number) : Holds float (.number n)
  | text (s : String) : Holds text (.string s)
  | boolean (b : Bool) : Holds boolean (.bool b)
  | json (v : Value) : Holds json v

/-- Integers are those that one of the two words can hold. -/
lemma holds_integer_iff {n : Int} :
    integer.Holds (.number (.int n)) ↔ minInt64 ≤ n ∧ n ≤ maxUInt64 := by
  rw [minInt64, maxUInt64]
  constructor
  · rintro ⟨fits⟩
    omega
  · intro bounds
    exact .integer (by omega)

/-- A field takes null and the values of its type. -/
theorem accepts_iff {t : FieldType} {v : Value} : t.accepts v = true ↔ v = .null ∨ t.Holds v := by
  constructor
  · intro accepted
    -- what is accepted is null, or the value of a constructor of its own
    unfold accepts at accepted
    split at accepted
    · exact .inl rfl
    · exact .inr (holds_integer_iff.2 (by simpa using accepted))
    · exact .inr (.float _)
    · exact .inr (.text _)
    · exact .inr (.boolean _)
    · exact .inr (.json _)
    · cases accepted
  · rintro (rfl | holds)
    · cases t <;> rfl
    · cases holds with
      | integer fits =>
        have bounds := holds_integer_iff.1 (.integer fits)
        simpa [accepts] using bounds
      | json v => cases v <;> simp [accepts]
      | float | text | boolean => simp [accepts]

end FieldType

/-! ## Tables that can be built -/

namespace TableDescriptor

/-- No name of a list stands twice if none is found that does. -/
lemma firstRepeated?_eq_none_iff {seen names : List String} :
    firstRepeated? seen names = none ↔ names.Nodup ∧ ∀ name ∈ names, name ∉ seen := by
  induction names generalizing seen with
  | nil => simp [firstRepeated?]
  | cons name rest ih =>
    rw [firstRepeated?, List.nodup_cons, List.forall_mem_cons]
    split
    · next again => simp [again]
    · next new =>
      simp only [ih, List.mem_cons, not_or]
      constructor
      · rintro ⟨nodup, others⟩
        exact ⟨⟨fun mem => (others name mem).1 rfl, nodup⟩, new, fun n mem => (others n mem).2⟩
      · rintro ⟨⟨once, nodup⟩, -, others⟩
        exact ⟨nodup, fun n mem => ⟨fun same => once (same ▸ mem), others n mem⟩⟩

variable {d t : TableDescriptor}

/-- A description makes a table exactly if it has a name and fields, and no two of these share a
name; then it is carried over as it is. -/
theorem build_eq_ok_iff :
    d.build = .ok t ↔ t = d ∧ Text.blank d.name = false ∧ d.fields ≠ [] ∧
      (d.fields.map FieldSpec.name).Nodup := by
  rw [build, fault?]
  cases Text.blank d.name with
  | true => simp
  | false =>
    cases fields : d.fields with
    | nil => simp
    | cons f rest =>
      have nodup := @firstRepeated?_eq_none_iff [] ((f :: rest).map FieldSpec.name)
      cases repeated : firstRepeated? [] ((f :: rest).map FieldSpec.name) with
      | none => simp_all [eq_comm]
      | some name => simp_all

/-! ## What a row must be like -/

variable (d)

/-- The scope names a participant exactly if the table is keyed per participant, and a tick exactly
if it is keyed per time step. -/
structure ScopeFits (scope : RowScope) : Prop where
  participant : scope.participant.isSome = d.perParticipant
  tick : scope.tick.isSome = d.perTimestep

/-- The row fits the table: it has the declared fields and no others, and every value is null or of
the declared type. -/
structure Fits (scope : RowScope) (row : Row) : Prop extends d.ScopeFits scope where
  fields : row.values.keys.Perm (d.fields.map FieldSpec.name)
  values : ∀ f ∈ d.fields, ∀ v, row.get? f.name = some v → v = .null ∨ f.fieldType.Holds v

/-- The first fault of a scope. -/
inductive ScopeFaulty (scope : RowScope) : ScopeFault → Prop where
  | needsParticipant (keyed : d.perParticipant = true) (unnamed : scope.participant = none) :
    ScopeFaulty scope .needsParticipant
  | hasParticipant (unkeyed : d.perParticipant = false) (named : scope.participant ≠ none) :
    ScopeFaulty scope .hasParticipant
  | needsTick (participant : scope.participant.isSome = d.perParticipant)
      (keyed : d.perTimestep = true) (unnamed : scope.tick = none) : ScopeFaulty scope .needsTick
  | hasTick (participant : scope.participant.isSome = d.perParticipant)
      (unkeyed : d.perTimestep = false) (named : scope.tick ≠ none) : ScopeFaulty scope .hasTick

end TableDescriptor

/-- The row has a value for the field that the field takes. -/
def Row.Fills (row : Row) (f : FieldSpec) : Prop :=
  ∃ v, row.get? f.name = some v ∧ (v = .null ∨ f.fieldType.Holds v)

/-- What is wrong with the value that a row has for a field. -/
inductive Row.Misfills (row : Row) (table : String) (f : FieldSpec) : DbError → Prop where
  | missing (absent : row.get? f.name = none) : Misfills row table f (.missingField table f.name)
  | mistyped {v : Value} (found : row.get? f.name = some v) (filled : v ≠ .null)
      (foreign : ¬f.fieldType.Holds v) :
    Misfills row table f (.typeMismatch table f.name f.fieldType v)

/-- The first fault of a row. -/
inductive TableDescriptor.FirstFault (d : TableDescriptor) (scope : RowScope) (row : Row) :
    DbError → Prop where
  | scope {fault : ScopeFault} (faulty : d.ScopeFaulty scope fault) :
    FirstFault d scope row (.scope d.name fault)
  | unknownField (fits : d.ScopeFits scope) {field : String} (there : field ∈ row.values.keys)
      (undeclared : field ∉ d.fields.map FieldSpec.name)
      (least : ∀ other ∈ row.values.keys, other ∉ d.fields.map FieldSpec.name → field ≤ other) :
    FirstFault d scope row (.unknownField d.name field)
  | declaredField (fits : d.ScopeFits scope)
      (declared : ∀ field ∈ row.values.keys, field ∈ d.fields.map FieldSpec.name)
      {before after : List FieldSpec} {f : FieldSpec} (split : d.fields = before ++ f :: after)
      (filled : ∀ f' ∈ before, row.Fills f') {e : DbError} (misfills : row.Misfills d.name f e) :
    FirstFault d scope row e

/-! ## What is checked -/

namespace OrderedMap.Sorted

variable {β : Type} {m : OrderedMap String β} {p : String → Bool} {k : String}

/-- The first key with a property is the least. -/
lemma find?_keys_least (sorted : m.Sorted) (found : m.keys.find? p = some k) :
    k ∈ m.keys ∧ p k = true ∧ ∀ j ∈ m.keys, p j = true → k ≤ j := by
  have order : m.keys.Pairwise (· < ·) :=
    List.pairwise_map.2 (sorted.imp compareOfLessAndEq_eq_lt.1)
  obtain ⟨holds, before, after, split, fail⟩ := List.find?_eq_some_iff_append.1 found
  rw [split] at order ⊢
  refine ⟨by simp, holds, fun j mem holds' => ?_⟩
  rcases List.mem_append.1 mem with earlier | here
  · have fails := fail j earlier
    rw [holds'] at fails
    cases fails
  · rcases List.mem_cons.1 here with rfl | later
    · exact String.le_refl j
    · have less : k < j := (List.pairwise_cons.1 (List.pairwise_append.1 order).2.1).1 j later
      exact String.not_lt.1 (String.lt_asymm less)

/-- The key that is found first is the least one. -/
lemma find?_keys_eq_some_iff (sorted : m.Sorted) :
    m.keys.find? p = some k ↔ k ∈ m.keys ∧ p k = true ∧ ∀ j ∈ m.keys, p j = true → k ≤ j := by
  refine ⟨sorted.find?_keys_least, fun ⟨mem, holds, least⟩ => ?_⟩
  cases found : m.keys.find? p with
  | none => exact absurd holds (List.find?_eq_none.1 found k mem)
  | some k' =>
    obtain ⟨mem', holds', least'⟩ := sorted.find?_keys_least found
    exact congrArg some (String.le_antisymm (least' k mem holds) (least k' mem' holds'))

end OrderedMap.Sorted

namespace Row

variable {row : Row} {table : String} {f : FieldSpec} {specs : List FieldSpec}

/-- The keys of a row are those of its values. -/
lemma mem_keys_iff {field : String} : field ∈ row.values.keys ↔ ∃ v, row.get? field = some v := by
  rw [OrderedMap.mem_keys_iff, get?, Option.ne_none_iff_exists']

/-- A field that is filled has no fault. -/
lemma Fills.not_misfills (h : row.Fills f) {e : DbError} : ¬row.Misfills table f e := by
  obtain ⟨v, found, fits⟩ := h
  rintro (absent | ⟨found', filled, foreign⟩)
  · rw [found] at absent
    cases absent
  · obtain rfl := Option.some.inj (found.symm.trans found')
    exact fits.elim filled foreign

/-- There is one thing wrong with a field at most. -/
lemma Misfills.unique {e e' : DbError} (h : row.Misfills table f e) (h' : row.Misfills table f e') :
    e = e' := by
  cases h with
  | missing absent =>
    cases h' with
    | missing => rfl
    | mistyped found => rw [absent] at found; cases found
  | mistyped found =>
    cases h' with
    | missing absent => rw [absent] at found; cases found
    | mistyped found' =>
      obtain rfl := Option.some.inj (found.symm.trans found')
      rfl

/-- A field is filled or not, and the check goes on or ends with what is wrong. -/
lemma checkFields_cons (row : Row) (table : String) (f : FieldSpec) (rest : List FieldSpec) :
    row.Fills f ∧
        TableDescriptor.checkFields table row (f :: rest) =
          TableDescriptor.checkFields table row rest ∨
      ∃ e, row.Misfills table f e ∧
        TableDescriptor.checkFields table row (f :: rest) = .error e := by
  rw [TableDescriptor.checkFields]
  cases found : row.get? f.name with
  | none => exact .inr ⟨_, .missing found, rfl⟩
  | some v =>
    cases accepted : f.fieldType.accepts v with
    | true =>
      simp only [accepted]
      exact .inl ⟨⟨v, found, FieldType.accepts_iff.1 accepted⟩, rfl⟩
    | false =>
      have refused : ¬(v = .null ∨ f.fieldType.Holds v) := fun fits => by
        rw [FieldType.accepts_iff.2 fits] at accepted
        cases accepted
      rw [not_or] at refused
      simp only [accepted]
      exact .inr ⟨_, .mistyped found refused.1 refused.2, rfl⟩

/-- The check of the declared fields succeeds if all of them are filled. -/
theorem checkFields_eq_ok_iff :
    TableDescriptor.checkFields table row specs = .ok () ↔ ∀ f ∈ specs, row.Fills f := by
  induction specs with
  | nil => simp [TableDescriptor.checkFields]
  | cons f rest ih =>
    rw [List.forall_mem_cons]
    obtain ⟨fills, same⟩ | ⟨e, misfills, eq⟩ := row.checkFields_cons table f rest
    · rw [same, ih, and_iff_right fills]
    · rw [eq]
      exact ⟨nofun, fun h => absurd misfills h.1.not_misfills⟩

/-- Else it ends with what is wrong with the first of them that is not filled. -/
theorem checkFields_eq_error_iff {e : DbError} :
    TableDescriptor.checkFields table row specs = .error e ↔
      ∃ before f after, specs = before ++ f :: after ∧ (∀ f' ∈ before, row.Fills f') ∧
        row.Misfills table f e := by
  induction specs with
  | nil => simp [TableDescriptor.checkFields]
  | cons f rest ih =>
    obtain ⟨fills, same⟩ | ⟨e', misfills, eq⟩ := row.checkFields_cons table f rest
    · rw [same, ih]
      constructor
      · rintro ⟨before, f', after, rfl, filled, misfills⟩
        exact ⟨f :: before, f', after, rfl, List.forall_mem_cons.2 ⟨fills, filled⟩, misfills⟩
      · rintro ⟨_ | ⟨_, before⟩, f', after, split, filled, misfills⟩
        · obtain ⟨rfl, rfl⟩ := List.cons.inj split
          exact absurd misfills fills.not_misfills
        · obtain ⟨rfl, rfl⟩ := List.cons.inj split
          exact ⟨before, f', after, rfl, (List.forall_mem_cons.1 filled).2, misfills⟩
    · rw [eq]
      constructor
      · rintro ⟨⟩
        exact ⟨[], f, rest, rfl, nofun, misfills⟩
      · rintro ⟨_ | ⟨_, before⟩, f', after, split, filled, misfills'⟩
        · obtain ⟨rfl, rfl⟩ := List.cons.inj split
          exact congrArg _ (misfills.unique misfills')
        · obtain ⟨rfl, rfl⟩ := List.cons.inj split
          exact absurd misfills (List.forall_mem_cons.1 filled).1.not_misfills

end Row

namespace TableDescriptor

variable {d t : TableDescriptor} {scope : RowScope} {row : Row}

/-- A scope without fault is one that fits. -/
lemma scopeFault?_eq_none_iff : d.scopeFault? scope = none ↔ d.ScopeFits scope := by
  have fits : d.ScopeFits scope ↔
      scope.participant.isSome = d.perParticipant ∧ scope.tick.isSome = d.perTimestep :=
    ⟨fun h => ⟨h.participant, h.tick⟩, fun h => ⟨h.1, h.2⟩⟩
  rw [fits, scopeFault?]
  cases d.perParticipant <;> cases d.perTimestep <;> cases scope.participant <;>
    cases scope.tick <;> simp

/-- A fault of the scope is the first one: that of the participant before that of the tick. -/
lemma scopeFault?_eq_some_iff {fault : ScopeFault} :
    d.scopeFault? scope = some fault ↔ d.ScopeFaulty scope fault := by
  rw [scopeFault?]
  constructor
  · intro found
    split at found
    · next h =>
      obtain rfl := Option.some.inj found
      exact .needsParticipant (by simp_all) (by simp_all)
    split at found
    · next h =>
      obtain rfl := Option.some.inj found
      exact .hasParticipant (by simp_all) (by rintro none; simp [none] at h)
    have participant : scope.participant.isSome = d.perParticipant := by
      cases keyed : d.perParticipant <;> cases named : scope.participant <;> simp_all
    split at found
    · next h =>
      obtain rfl := Option.some.inj found
      exact .needsTick participant (by simp_all) (by simp_all)
    split at found
    · next h =>
      obtain rfl := Option.some.inj found
      exact .hasTick participant (by simp_all) (by rintro none; simp [none] at h)
    · cases found
  · intro faulty
    cases faulty with
    | needsParticipant keyed unnamed => simp [keyed, unnamed]
    | hasParticipant unkeyed named => simp [unkeyed, Option.isSome_iff_ne_none, named]
    | needsTick participant keyed unnamed =>
      cases named : scope.participant <;> simp_all
    | hasTick participant unkeyed present =>
      cases named : scope.participant <;> simp_all [Option.isSome_iff_ne_none]

/-- A table declares the fields that it lists. -/
lemma declares_iff {field : String} :
    d.declares field = true ↔ field ∈ d.fields.map FieldSpec.name := by
  simp [declares]

/-- A row fits if its scope does, it has no field but the declared ones, and it fills all of these.
No name stands twice on either side, so that the fields are then the same in number. -/
lemma fits_iff (nodup : (d.fields.map FieldSpec.name).Nodup) (sorted : row.values.Sorted) :
    d.Fits scope row ↔ d.ScopeFits scope ∧
      (∀ field ∈ row.values.keys, field ∈ d.fields.map FieldSpec.name) ∧
      ∀ f ∈ d.fields, row.Fills f := by
  constructor
  · intro ⟨fits, fields, values⟩
    refine ⟨fits, fun field mem => fields.mem_iff.1 mem, fun f mem => ?_⟩
    obtain ⟨v, found⟩ := Row.mem_keys_iff.1 (fields.mem_iff.2 (List.mem_map_of_mem mem))
    exact ⟨v, found, values f mem v found⟩
  · rintro ⟨fits, declared, filled⟩
    refine ⟨fits, ?_, fun f mem v found => ?_⟩
    · refine (List.perm_ext_iff_of_nodup sorted.nodup_keys nodup).2 fun field =>
        ⟨declared field, fun mem => ?_⟩
      obtain ⟨f, listed, rfl⟩ := List.mem_map.1 mem
      obtain ⟨v, found, -⟩ := filled f listed
      exact Row.mem_keys_iff.2 ⟨v, found⟩
    · obtain ⟨v', found', fits⟩ := filled f mem
      obtain rfl := Option.some.inj (found.symm.trans found')
      exact fits

/-- The checks in their order: the scope, then undeclared fields, then the declared ones. -/
lemma validate_of_faulty {fault : ScopeFault} (faulty : d.ScopeFaulty scope fault) (row : Row) :
    d.validate scope row = .error (.scope d.name fault) := by
  rw [validate, scopeFault?_eq_some_iff.2 faulty]

/-- A field that is not declared is reported. -/
lemma validate_of_undeclared (fits : d.ScopeFits scope) {field : String}
    (found : row.values.keys.find? (fun field => !d.declares field) = some field) :
    d.validate scope row = .error (.unknownField d.name field) := by
  rw [validate, scopeFault?_eq_none_iff.2 fits]
  dsimp only
  rw [found]

/-- If all fields are declared it is the declared ones that are checked. -/
lemma validate_of_declared (fits : d.ScopeFits scope)
    (declared : ∀ field ∈ row.values.keys, field ∈ d.fields.map FieldSpec.name) :
    d.validate scope row = checkFields d.name row d.fields := by
  have none : row.values.keys.find? (fun field => !d.declares field) = none :=
    List.find?_eq_none.2 fun field mem => by simp [declares_iff.2 (declared field mem)]
  rw [validate, scopeFault?_eq_none_iff.2 fits]
  dsimp only
  rw [none]

/-- A row fits, and is accepted, or its first fault is reported. -/
lemma validate_cases (nodup : (d.fields.map FieldSpec.name).Nodup) (sorted : row.values.Sorted)
    (scope : RowScope) :
    d.Fits scope row ∧ d.validate scope row = .ok () ∨
      ¬d.Fits scope row ∧ ∃ e, d.FirstFault scope row e ∧ d.validate scope row = .error e := by
  rw [fits_iff nodup sorted]
  cases faulty : d.scopeFault? scope with
  | some fault =>
    have fault := scopeFault?_eq_some_iff.1 faulty
    refine .inr ⟨fun fits => ?_, _, .scope fault, validate_of_faulty fault row⟩
    rw [scopeFault?_eq_none_iff.2 fits.1] at faulty
    cases faulty
  | none =>
    have fits := scopeFault?_eq_none_iff.1 faulty
    cases found : row.values.keys.find? fun field => !d.declares field with
    | some field =>
      obtain ⟨there, undeclared, least⟩ := sorted.find?_keys_least found
      simp only [Bool.not_eq_true', ← Bool.not_eq_true, declares_iff] at undeclared least
      exact .inr ⟨fun all => undeclared (all.2.1 field there), _,
        .unknownField fits there undeclared least, validate_of_undeclared fits found⟩
    | none =>
      have declared : ∀ field ∈ row.values.keys, field ∈ d.fields.map FieldSpec.name := by
        intro field mem
        have known := List.find?_eq_none.1 found field mem
        exact declares_iff.1 (by simpa using known)
      rw [validate_of_declared fits declared]
      cases checked : checkFields d.name row d.fields with
      | ok u => exact .inl ⟨⟨fits, declared, Row.checkFields_eq_ok_iff.1 checked⟩, rfl⟩
      | error e =>
        obtain ⟨before, f, after, split, filled, misfills⟩ := Row.checkFields_eq_error_iff.1 checked
        refine .inr ⟨fun all => ?_, e, .declaredField fits declared split filled misfills, rfl⟩
        have mem : f ∈ d.fields := split ▸ List.mem_append_right _ List.mem_cons_self
        exact (all.2.2 f mem).not_misfills misfills

/-- A fault that is the first one is what is reported. -/
lemma FirstFault.validate_eq {e : DbError} (sorted : row.values.Sorted)
    (h : d.FirstFault scope row e) : d.validate scope row = .error e := by
  cases h with
  | scope faulty => exact validate_of_faulty faulty row
  | unknownField fits there undeclared least =>
    refine validate_of_undeclared fits (sorted.find?_keys_eq_some_iff.2 ⟨there, ?_, ?_⟩)
    · rwa [Bool.not_eq_true', ← Bool.not_eq_true, declares_iff]
    · intro other mem unknown
      rw [Bool.not_eq_true', ← Bool.not_eq_true, declares_iff] at unknown
      exact least other mem unknown
  | declaredField fits declared split filled misfills =>
    rw [validate_of_declared fits declared]
    exact Row.checkFields_eq_error_iff.2 ⟨_, _, _, split, filled, misfills⟩

end TableDescriptor

/-- A table that has been built accepts exactly the rows that fit it, whatever their scope, and of
any other row it reports exactly the first fault. The text of a fault in the value of a field names
the declared type and the kind of the value. -/
theorem validates_up_to_first_fault {d t : TableDescriptor} (built : d.build = .ok t)
    (scope : RowScope) {row : Row} (sorted : row.values.Sorted) :
    (t.validate scope row = .ok () ↔ t.Fits scope row) ∧
    (∀ e, t.validate scope row = .error e ↔ t.FirstFault scope row e) ∧
    (∀ field expected v, (DbError.typeMismatch t.name field expected v).message =
      "field `" ++ field ++ "` of `" ++ t.name ++ "` expects " ++ expected.name ++ ", got " ++
        v.kind) := by
  obtain ⟨rfl, -, -, nodup⟩ := TableDescriptor.build_eq_ok_iff.1 built
  refine ⟨?_, fun e => ⟨fun reported => ?_, fun first => first.validate_eq sorted⟩,
    fun _ _ _ => rfl⟩
  · obtain ⟨fits, accepted⟩ | ⟨misfit, e, -, reported⟩ :=
      TableDescriptor.validate_cases nodup sorted scope
    · exact iff_of_true accepted fits
    · exact iff_of_false (by rw [reported]; nofun) misfit
  · obtain ⟨-, accepted⟩ | ⟨-, e', first, reported'⟩ :=
      TableDescriptor.validate_cases nodup sorted scope
    · rw [accepted] at reported
      cases reported
    · obtain rfl := Except.error.inj (reported'.symm.trans reported)
      exact first

section Whereabouts

/-- A table of who stands where and when. -/
def whereabouts : TableDescriptor where
  name := "whereabouts"
  fields := [⟨"label", .text⟩, ⟨"cell", .integer⟩]
  perParticipant := true
  perTimestep := true

/-- A row with two fields too many, and one of the wrong type. -/
def overfull : Row :=
  ⟨⟨[("age", .nat 7), ("cell", .string "one"), ("colour", .string "red"), ("label", .null)]⟩⟩

/-- Without these two fields. -/
def mislaid : Row := ⟨⟨[("cell", .string "one"), ("label", .null)]⟩⟩

/-- The lesser of two undeclared fields is reported, and without them the field that is not of its
type, although the one declared before it is null. -/
theorem validates_up_to_first_fault_whereabouts :
    let scope : RowScope := ⟨some ⟨1⟩, some 4⟩
    whereabouts.build = .ok whereabouts ∧ overfull.values.Sorted ∧ mislaid.values.Sorted ∧
      whereabouts.validate scope overfull = .error (.unknownField "whereabouts" "age") ∧
      whereabouts.validate scope mislaid =
        .error (.typeMismatch "whereabouts" "cell" .integer (.string "one")) := by
  intro scope
  have built : whereabouts.build = .ok whereabouts := by decide
  have sorted : overfull.values.Sorted := by unfold OrderedMap.Sorted; decide
  have sorted' : mislaid.values.Sorted := by unfold OrderedMap.Sorted; decide
  have fits : whereabouts.ScopeFits scope := ⟨rfl, rfl⟩
  refine ⟨built, sorted, sorted', ?_, ?_⟩
  · refine ((validates_up_to_first_fault built scope sorted).2.1 _).2
      (.unknownField fits (by decide) (by decide) (by decide))
  · have foreign : ¬FieldType.integer.Holds (.string "one") := nofun
    have misfills : mislaid.Misfills "whereabouts" ⟨"cell", .integer⟩
        (.typeMismatch "whereabouts" "cell" .integer (.string "one")) := .mistyped rfl nofun foreign
    exact ((validates_up_to_first_fault built scope sorted').2.1 _).2
      (.declaredField fits (by decide) rfl (List.forall_mem_singleton.2 ⟨_, rfl, .inl rfl⟩)
        misfills)

end Whereabouts

end Cadence
