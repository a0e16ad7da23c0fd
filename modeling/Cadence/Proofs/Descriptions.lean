import Cadence.Proofs.Codec
import Cadence.Proofs.Validation

/-!
# Descriptions, built and read

A description is sound if it has a name and fields, and no two of its fields share a name
(`TableDescriptor.Sound`). Building a table checks exactly this, and reading a description checks
nothing of it: every description is read from the value that it is written as, and what is read is a
table that could have been built if it happens to be sound. A description that is sound accepts a
row without null; of any other it depends on the types of the fields that share a name
(`TableDescriptor.Coherent`), for the row has one value for all of them.
-/

namespace Cadence

/-! ## Values that types have in common -/

namespace FieldType

/-- Two types have a value in common that is not null. -/
def Overlaps (t t' : FieldType) : Prop := ∃ v, v ≠ .null ∧ t.Holds v ∧ t'.Holds v

/-- A value of the type that is not null. -/
def sample : FieldType → Value
  | integer | float => .nat 0
  | text => .string ""
  | boolean | json => .bool false

/-- A value that is not null and of all types among some, if any two of these overlap. -/
def common (ts : List FieldType) : Value := ((ts.find? (· ≠ json)).getD json).sample

variable {t t' : FieldType} {ts : List FieldType}

/-- A sample is never null. -/
lemma sample_ne_null (t : FieldType) : t.sample ≠ .null := by
  cases t <;> nofun

/-- A sample is of its type. -/
lemma holds_sample (t : FieldType) : t.Holds t.sample := by
  cases t with
  | integer => exact .integer (by omega)
  | float => exact .float _
  | text => exact .text _
  | boolean => exact .boolean _
  | json => exact .json _

/-- Every type overlaps with itself. -/
lemma overlaps_self (t : FieldType) : t.Overlaps t :=
  ⟨t.sample, t.sample_ne_null, t.holds_sample, t.holds_sample⟩

/-- Whatever overlaps a type that does not take every value takes its sample. -/
lemma Overlaps.holds_sample (h : t.Overlaps t') (narrow : t ≠ json) : t'.Holds t.sample := by
  obtain ⟨v, -, holds, holds'⟩ := h
  cases holds with
  | json => exact absurd rfl narrow
  | integer | float =>
    cases holds' with
    | integer => exact .integer (by omega)
    | float => exact .float _
    | json => exact .json _
  | text =>
    cases holds' with
    | text => exact .text _
    | json => exact .json _
  | boolean =>
    cases holds' with
    | boolean => exact .boolean _
    | json => exact .json _

/-- Types that overlap all have a value in common. -/
lemma holds_common (overlap : ∀ t ∈ ts, t'.Overlaps t ∧ t.Overlaps t') (mem : t' ∈ ts) :
    t'.Holds (common ts) := by
  rw [common]
  cases found : ts.find? (· ≠ json) with
  | none =>
    -- then all of them take every value
    have wide := List.find?_eq_none.1 found t' mem
    obtain rfl : t' = json := by simpa using wide
    exact .json _
  | some t =>
    have narrow : t ≠ json := by simpa using List.find?_some found
    exact (overlap t (List.mem_of_find?_eq_some found)).2.holds_sample narrow

end FieldType

/-! ## Rows without null -/

/-- No value of the row is null. -/
def Row.Full (row : Row) : Prop := ∀ field v, row.get? field = some v → v ≠ .null

namespace TableDescriptor

/-- The description has a name and fields, and no two of its fields share a name. -/
structure Sound (d : TableDescriptor) : Prop where
  named : ∃ c ∈ d.name.toList, Text.isBlank c = false
  fielded : d.fields ≠ []
  distinct : (d.fields.map FieldSpec.name).Nodup

/-- Fields that share a name have types that overlap. -/
def Coherent (d : TableDescriptor) : Prop :=
  ∀ f ∈ d.fields, ∀ g ∈ d.fields, f.name = g.name → f.fieldType.Overlaps g.fieldType

/-- The row is one without null, in the order of its fields, that the table accepts. -/
structure AcceptsFull (d : TableDescriptor) (scope : RowScope) (row : Row) : Prop where
  sorted : row.values.Sorted
  full : row.Full
  accepted : d.validate scope row = .ok ()

variable {d t : TableDescriptor} {scope : RowScope} {row : Row}

/-- A description is built if and only if it is sound. -/
lemma build_eq_ok_iff_sound : d.build = .ok t ↔ t = d ∧ d.Sound := by
  have named : Text.blank d.name = false ↔ ∃ c ∈ d.name.toList, Text.isBlank c = false := by
    simp [Text.blank]
  rw [build_eq_ok_iff, named]
  exact and_congr_right fun _ => ⟨fun h => ⟨h.1, h.2.1, h.2.2⟩, fun h => ⟨h.1, h.2, h.3⟩⟩

/-- A sound description is coherent. -/
lemma Sound.coherent (h : d.Sound) : d.Coherent := by
  intro f mem g mem' same
  obtain rfl := List.inj_on_of_nodup_map h.distinct mem mem' same
  exact f.fieldType.overlaps_self

/-- What a table accepts fills every declared field, also where several share a name. -/
lemma fills_of_accepted (accepted : d.validate scope row = .ok ()) :
    ∀ f ∈ d.fields, row.Fills f := by
  rw [validate] at accepted
  split at accepted
  · cases accepted
  · split at accepted
    · cases accepted
    · exact Row.checkFields_eq_ok_iff.1 accepted

/-- The types of the fields that have the name. -/
def typesOf (d : TableDescriptor) (name : String) : List FieldType :=
  (d.fields.filter fun f => f.name = name).map FieldSpec.fieldType

/-- A row with a value for every declared field, the same for those that share a name. -/
def fullRow (d : TableDescriptor) : Row :=
  ⟨.ofList ((d.fields.map FieldSpec.name).map fun name =>
    (name, FieldType.common (d.typesOf name)))⟩

/-- A scope that names what the table is keyed by. -/
def someScope (d : TableDescriptor) : RowScope where
  participant := if d.perParticipant then some ⟨0⟩ else none
  tick := if d.perTimestep then some 0 else none

/-- There is a scope that fits. -/
lemma scopeFits_someScope (d : TableDescriptor) : d.ScopeFits d.someScope where
  participant := by rw [someScope]; cases d.perParticipant <;> rfl
  tick := by rw [someScope]; cases d.perTimestep <;> rfl

/-- The row that fills each field once. -/
lemma get?_fullRow (d : TableDescriptor) (field : String) :
    d.fullRow.get? field =
      if field ∈ d.fields.map FieldSpec.name then some (FieldType.common (d.typesOf field))
      else none := by
  have found (names : List String) (value : String → Value) :
      OrderedMap.find? field (names.map fun name => (name, value name)) =
        if field ∈ names then some (value field) else none := by
    induction names with
    | nil => rfl
    | cons name rest ih =>
      rw [List.map_cons, OrderedMap.find?, ih]
      by_cases here : field = name
      · rw [if_pos here, if_pos (List.mem_cons.2 (.inl here)), here]
      · rw [if_neg here]
        simp only [List.mem_cons, here, false_or]
  rw [Row.get?, fullRow, OrderedMap.get?, OrderedMap.find?_ofList, ← List.map_reverse, found]
  simp only [List.mem_reverse]

/-- Where fields that share a name overlap there is a value for all of them. -/
theorem Coherent.acceptsFull (h : d.Coherent) : d.AcceptsFull d.someScope d.fullRow := by
  refine ⟨OrderedMap.sorted_ofList _, fun field v found => ?_, ?_⟩
  · rw [get?_fullRow] at found
    split at found
    · obtain rfl := Option.some.inj found
      exact FieldType.sample_ne_null _
    · cases found
  · have declared : ∀ field ∈ d.fullRow.values.keys, field ∈ d.fields.map FieldSpec.name := by
      intro field mem
      obtain ⟨v, found⟩ := Row.mem_keys_iff.1 mem
      rw [get?_fullRow] at found
      split at found
      · next known => exact known
      · cases found
    rw [validate_of_declared d.scopeFits_someScope declared]
    refine Row.checkFields_eq_ok_iff.2 fun f mem => ?_
    refine ⟨_, (get?_fullRow d _).trans (if_pos (List.mem_map_of_mem mem)), .inr ?_⟩
    refine FieldType.holds_common (fun t listed => ?_) ?_
    · obtain ⟨g, there, rfl⟩ := List.mem_map.1 listed
      obtain ⟨mem', same⟩ := List.mem_filter.1 there
      have same := of_decide_eq_true same
      exact ⟨h f mem g mem' same.symm, h g mem' f mem same⟩
    · exact List.mem_map_of_mem (List.mem_filter.2 ⟨mem, decide_eq_true rfl⟩)

/-- In a row without null the one value for several fields is of all their types. -/
lemma AcceptsFull.coherent (h : d.AcceptsFull scope row) : d.Coherent := by
  intro f mem g mem' same
  obtain ⟨v, found, fits⟩ := fills_of_accepted h.accepted f mem
  obtain ⟨v', found', fits'⟩ := fills_of_accepted h.accepted g mem'
  rw [← same, found] at found'
  obtain rfl := Option.some.inj found'
  have filled := h.full _ _ found
  exact ⟨v, filled, fits.resolve_left filled, fits'.resolve_left filled⟩

end TableDescriptor

/-! ## Where descriptions come from -/

open TableDescriptor

/-- A table is built of a description exactly if it is sound, and is what was described. Reading
checks nothing: every description can be read, and what is read of a value could have been built
exactly if it is sound. If it is, there is a row without null that it accepts; in general there is
one exactly if the types of fields that share a name overlap. -/
theorem descriptions_are_checked_when_built (d : TableDescriptor) :
    (∀ t, d.build = .ok t ↔ t = d ∧ d.Sound) ∧
    decode d.encode = .ok d ∧
    ∀ v, decode v = .ok d →
      ((∃ b : TableDescriptor, b.build = .ok d) ↔ d.Sound) ∧
      (d.Sound → ∃ scope row, d.AcceptsFull scope row) ∧
      ((∃ scope row, d.AcceptsFull scope row) ↔ d.Coherent) := by
  refine ⟨fun t => build_eq_ok_iff_sound, d.decode_encode, fun v _ => ⟨?_, ?_, ?_⟩⟩
  · constructor
    · rintro ⟨b, built⟩
      obtain ⟨rfl, sound⟩ := build_eq_ok_iff_sound.1 built
      exact sound
    · exact fun sound => ⟨d, build_eq_ok_iff_sound.2 ⟨rfl, sound⟩⟩
  · exact fun sound => ⟨_, _, sound.coherent.acceptsFull⟩
  · exact ⟨fun ⟨_, _, accepts⟩ => accepts.coherent, fun coherent => ⟨_, _, coherent.acceptsFull⟩⟩

/-- A value that is read as a description of a table although two fields share a name. No table is
built of that, and since their types do not overlap it accepts no row without null. -/
theorem twofold_description_is_read :
    let v : Value := .ofFields
      [("name", .string "census"),
        ("fields", .array
          [.ofFields [("name", .string "age"), ("field_type", .string "integer")],
            .ofFields [("name", .string "age"), ("field_type", .string "text")]]),
        ("per_participant", .bool false), ("per_timestep", .bool false)]
    ∃ d, decode v = .ok d ∧ (∀ b : TableDescriptor, b.build ≠ .ok d) ∧
      ∀ scope row, row.Full → d.validate scope row ≠ .ok () := by
  intro v
  refine ⟨⟨"census", [⟨"age", .integer⟩, ⟨"age", .text⟩], false, false⟩, by decide, ?_, ?_⟩
  · intro b built
    obtain ⟨rfl, sound⟩ := build_eq_ok_iff_sound.1 built
    have twice : ¬(["age", "age"] : List String).Nodup := by decide
    exact twice sound.distinct
  · intro scope row full accepted
    obtain ⟨v, found, fits⟩ := fills_of_accepted accepted _ List.mem_cons_self
    obtain ⟨v', found', fits'⟩ :=
      fills_of_accepted accepted _ (List.mem_cons_of_mem _ List.mem_cons_self)
    obtain rfl := Option.some.inj (found.symm.trans found')
    have filled := full _ _ found
    cases fits.resolve_left filled
    cases fits'.resolve_left filled

end Cadence
