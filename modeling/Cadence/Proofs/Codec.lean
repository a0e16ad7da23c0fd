import Cadence.Clock
import Cadence.Database.Table
import Cadence.Operator
import Cadence.Proofs.Ring
import Cadence.Proofs.Settings

/-!
# Values read back

Every type that has a reader and a writer of values reads back what it writes. A record is written
as an object with a field for every one of its own, a choice as its name, an identifier as its text,
and a map as an object with a field for every entry. Maps are in order, as they are wherever they
are built by insertion.
-/

namespace Cadence

/-! ## Texts, numbers and choices -/

/-- A tag is read back. -/
lemma ActionTag.decode_encode (t : ActionTag) : decode t.encode = .ok t := rfl

/-- A key of the shared state is read back. -/
lemma StateKey.decode_encode (k : StateKey) : decode k.encode = .ok k := rfl

/-- An identifier is read back from its text. -/
lemma ParticipantId.decode_encode (id : ParticipantId) : decode id.encode = .ok id := ofText_text id

/-- A time is read back. -/
lemma IntegerTime.decode_encode (t : IntegerTime) : decode (Time.encode t) = .ok t := by
  show (Decode.uint64 (.nat t.value.toNat)).map IntegerTime.mk = .ok t
  rw [Decode.uint64_nat]
  rfl

/-- A type of fields is read back. -/
lemma FieldType.decode_encode (t : FieldType) : decode t.encode = .ok t := by
  cases t <;> rfl

/-- A reason is read back. -/
lemma EndReason.decode_encode (r : EndReason) : decode r.encode = .ok r := by
  cases r <;> rfl

/-! ## Actions -/

/-- An action is read back. -/
lemma Action.decode_encode (a : Action) : decode a.encode = .ok a := by
  rw [encode, decode, Record.ofValue_ofFields, DecodeError.ok_bind,
    Record.required_of_reads rfl a.tag.decode_encode, DecodeError.ok_bind,
    Record.orElse_of_reads rfl (Decode.any_eq a.payload), DecodeError.ok_bind,
    Record.done_ofObject]

namespace ActionOutcome

/-- An outcome is read by its status. -/
lemma decode_ofFields {status : String} {l : List (String × Value)}
    (first : OrderedMap.find? "status" l.reverse = some (.string status)) :
    decode (.ofFields l) = decodeFields (.string status) (.ofFields l) := by
  rw [← OrderedMap.find?_ofList] at first
  rw [Value.ofFields, decode, first]

/-- An outcome is read back. -/
lemma decode_encode (o : ActionOutcome) : decode o.encode = .ok o := by
  cases o with
  | applied response =>
    have accepted : Decode.choice [("applied", true), ("rejected", false)] (.string "applied") =
        .ok true := rfl
    rw [encode, decode_ofFields rfl, decodeFields, accepted, DecodeError.ok_bind, if_pos rfl,
      Record.ofValue_ofFields, DecodeError.ok_bind,
      Record.orElse_of_reads rfl (Decode.any_eq response), DecodeError.ok_bind,
      Record.done_ofObject]
  | rejected reason =>
    have accepted : Decode.choice [("applied", true), ("rejected", false)] (.string "rejected") =
        .ok false := rfl
    rw [encode, decode_ofFields rfl, decodeFields, accepted, DecodeError.ok_bind,
      if_neg Bool.false_ne_true, Record.ofValue_ofFields, DecodeError.ok_bind,
      Record.required_of_reads rfl (Decode.text_string reason), DecodeError.ok_bind,
      Record.done_ofObject]

end ActionOutcome

/-! ## Configurations -/

/-- An object gives everything that is in it. -/
lemma Value.gives_ofFields (names : List String) (l : List (String × Value)) :
    (ofFields l).Gives names (fun _ => true) (ofFields l) :=
  ⟨_, rfl, fun _ _ => rfl⟩

/-- The driver's settings are read back. -/
lemma DriverConfig.decode_encode (c : DriverConfig) : decode c.encode = .ok c :=
  decode_of_gives (Value.gives_ofFields names _)

/-- A configuration is read back. -/
lemma Config.decode_encode (c : Config) : decode c.encode = .ok c := by
  let all : String → Chosen := fun _ => some fun _ => true
  show decode c.encode = .ok (c.only all)
  refine decode_of_gives fun s known => ?_
  simp only [names, List.mem_cons, List.not_mem_nil, or_false] at known
  rcases known with rfl | rfl | rfl | rfl
  all_goals exact ⟨_, _, Value.field?_ofFields _, Value.field?_ofFields _, Value.gives_ofFields _ _⟩

/-! ## Reports -/

/-- A reason does not look like none. -/
lemma EndReason.encode_ne_null (r : EndReason) : r.encode ≠ .null := by
  cases r <;> nofun

/-- The status of a run is read back, with or without a reason to have ended. -/
lemma RunStatus.decode_encode (s : RunStatus) : decode s.encode = .ok s := by
  rw [encode, decode, Record.ofValue_ofFields, DecodeError.ok_bind,
    Record.required_of_reads rfl (Decode.uint64_nat s.tick), DecodeError.ok_bind,
    Record.required_of_reads rfl (Decode.bool_bool s.paused), DecodeError.ok_bind,
    Record.required_of_reads rfl (Decode.bool_bool s.stopRequested), DecodeError.ok_bind,
    Record.required_of_reads rfl (Decode.uint64_nat s.tickIntervalMs), DecodeError.ok_bind,
    Record.required_of_reads rfl (Decode.uint64_nat s.elapsedSeconds), DecodeError.ok_bind,
    Record.required_of_reads rfl (Decode.uint64_nat s.maxTicks), DecodeError.ok_bind,
    Record.required_of_reads rfl (Decode.uint64_nat s.maxRealTimeSeconds), DecodeError.ok_bind,
    Record.required_of_reads rfl (Decode.uint64_nat s.participants), DecodeError.ok_bind,
    Record.nullable_of_reads rfl
      (Decode.optional_ofOption EndReason.decode_encode EndReason.encode_ne_null s.endReason),
    DecodeError.ok_bind,
    Record.required_of_reads rfl (Decode.text_string s.startedAt), DecodeError.ok_bind,
    Record.done_ofObject]

/-! ## Tables -/

/-- A field is read back. -/
lemma FieldSpec.decode_encode (f : FieldSpec) : decode f.encode = .ok f := by
  rw [encode, decode, Record.ofValue_ofFields, DecodeError.ok_bind,
    Record.required_of_reads rfl (Decode.text_string f.name), DecodeError.ok_bind,
    Record.required_of_reads rfl f.fieldType.decode_encode, DecodeError.ok_bind,
    Record.done_ofObject]

/-- The description of a table is read back. -/
lemma TableDescriptor.decode_encode (d : TableDescriptor) : decode d.encode = .ok d := by
  have fields := Decode.list_map fun f (_ : f ∈ d.fields) => f.decode_encode
  rw [encode, decode, Record.ofValue_ofFields, DecodeError.ok_bind,
    Record.required_of_reads rfl (Decode.text_string d.name), DecodeError.ok_bind,
    Record.required_of_reads rfl fields, DecodeError.ok_bind,
    Record.required_of_reads rfl (Decode.bool_bool d.perParticipant), DecodeError.ok_bind,
    Record.required_of_reads rfl (Decode.bool_bool d.perTimestep), DecodeError.ok_bind,
    Record.done_ofObject]

/-- A scope is read back. -/
lemma RowScope.decode_encode (s : RowScope) : decode s.encode = .ok s := by
  have participant := Decode.optional_ofOption ParticipantId.decode_encode (fun _ => nofun)
    s.participant
  have tick := Decode.optional_ofOption Decode.uint64_nat (fun _ => nofun) s.tick
  rw [encode, decode, Record.ofValue_ofFields, DecodeError.ok_bind,
    Record.nullable_of_reads rfl participant, DecodeError.ok_bind,
    Record.nullable_of_reads rfl tick, DecodeError.ok_bind, Record.done_ofObject]

/-- A row is read back if its values are in order. -/
lemma Row.decode_encode {r : Row} (sorted : r.values.Sorted) : decode r.encode = .ok r := by
  have values : Decode.map .ok Decode.any (.ofMap r.values) = .ok r.values := by
    have all : Decode.entries .ok Decode.any (r.values.entries.map id) = .ok r.values.entries :=
      Decode.entries_map fun e _ => ⟨rfl, rfl⟩
    rw [List.map_id] at all
    rw [Value.ofMap, Decode.map, all]
    exact congrArg Except.ok (OrderedMap.ofList_of_perm sorted (.refl _))
  rw [encode, decode, Record.ofValue_ofFields, DecodeError.ok_bind,
    Record.required_of_reads rfl values, DecodeError.ok_bind, Record.done_ofObject]

end Cadence
