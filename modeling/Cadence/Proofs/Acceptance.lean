import Cadence.Proofs.Maps
import Cadence.Proofs.Registry

/-!
# Acceptance

Which of the handlers offered are accepted is told here without a registry: each that takes a tag,
claims nothing that one accepted before claims, and finds room (`accepted`). The registry has these
handlers and no others, in that order (`Keeps`), and whatever handler is offered to it next is
accepted exactly if it fits, and refused for the first cause there is (`registers_if_fits`).
-/

namespace Cadence

namespace Handler

/-- The two handlers claim a tag in common, or a key. -/
def Overlaps (h o : Handler) : Prop :=
  (∃ t ∈ h.tags, t ∈ o.tags) ∨ ∃ k ∈ h.keys, k ∈ o.keys

instance (h o : Handler) : Decidable (h.Overlaps o) := inferInstanceAs (Decidable (_ ∨ _))

/-- The handler can be accepted beside others: it takes a tag, overlaps with none of them, and there
is room. -/
def Fits (taken : List Handler) (h : Handler) : Prop :=
  h.tags ≠ [] ∧ (∀ o ∈ taken, ¬h.Overlaps o) ∧ taken.length < Registry.capacity

instance (taken : List Handler) (h : Handler) : Decidable (h.Fits taken) :=
  inferInstanceAs (Decidable (_ ∧ _ ∧ _))

/-- Why a handler is not accepted beside others. Without tags nothing else is looked at; of the tags
that others take the least is reported, and if there is none the least of the keys. -/
inductive Refused (taken : List Handler) (h : Handler) : EnvironmentError → Prop where
  | untagged (untagged : h.tags = []) : Refused taken h (.configuration (.noTags h.name))
  | tagTaken {t : ActionTag} {o : Handler} (claimed : t ∈ h.tags) (accepted : o ∈ taken)
      (takes : t ∈ o.tags)
      (least : ∀ t' ∈ h.tags, compare t' t = .lt → ∀ o' ∈ taken, t' ∉ o'.tags) :
      Refused taken h (.conflictingOwnership (.tag t) o.name h.name)
  | keyOwned {k : StateKey} {o : Handler} (tagged : h.tags ≠ [])
      (free : ∀ t ∈ h.tags, ∀ o' ∈ taken, t ∉ o'.tags) (claimed : k ∈ h.keys)
      (accepted : o ∈ taken) (owns : k ∈ o.keys)
      (least : ∀ k' ∈ h.keys, compare k' k = .lt → ∀ o' ∈ taken, k' ∉ o'.keys) :
      Refused taken h (.conflictingOwnership (.key k) o.name h.name)
  | full (tagged : h.tags ≠ []) (apart : ∀ o ∈ taken, ¬h.Overlaps o)
      (full : Registry.capacity ≤ taken.length) : Refused taken h (.configuration .tooManyHandlers)

/-- A handler overlaps with none of those taken exactly if none of these has one of its tags or
keys. -/
lemma not_overlaps_iff {taken : List Handler} {h : Handler} :
    (∀ o ∈ taken, ¬h.Overlaps o) ↔
      (∀ t ∈ h.tags, ∀ o ∈ taken, t ∉ o.tags) ∧ ∀ k ∈ h.keys, ∀ o ∈ taken, k ∉ o.keys := by
  constructor
  · intro apart
    exact ⟨fun t claimed o accepted takes => apart o accepted (.inl ⟨t, claimed, takes⟩),
      fun k claimed o accepted owns => apart o accepted (.inr ⟨k, claimed, owns⟩)⟩
  · rintro ⟨tags, keys⟩ o accepted (⟨t, claimed, takes⟩ | ⟨k, claimed, owns⟩)
    · exact tags t claimed o accepted takes
    · exact keys k claimed o accepted owns

end Handler

/-! ## The least of some keys -/

namespace OrderedMap

variable {κ β : Type} [Ord κ] [Std.LawfulEqOrd κ]

/-- Keys are listed once each, in ascending order. -/
lemma pairwise_distinct [Std.TransOrd κ] (ks : List κ) :
    (distinct ks).Pairwise fun a b => compare a b = .lt :=
  List.pairwise_map.2 (sorted_ofList _)

variable [DecidableEq κ] {ks : List κ} {f : κ → Option β} {b : β}

/-- What is found first among the distinct members of a list is found at the least of them at which
there is anything. -/
lemma findSome?_distinct_eq_some_iff [Std.TransOrd κ] :
    (distinct ks).findSome? f = some b ↔
      ∃ k ∈ ks, f k = some b ∧ ∀ k' ∈ ks, compare k' k = .lt → f k' = none := by
  have order := pairwise_distinct ks
  have mem (k : κ) : k ∈ distinct ks ↔ k ∈ ks := mem_distinct
  generalize distinct ks = sorted at order mem
  rw [List.findSome?_eq_some_iff]
  constructor
  · rintro ⟨before, k, after, rfl, found, nothing⟩
    refine ⟨k, (mem k).1 (by simp), found, fun k' mem' less => ?_⟩
    rcases List.mem_append.1 ((mem k').2 mem') with earlier | later
    · exact nothing k' earlier
    · -- what stands behind is not less
      exfalso
      have behind := (List.pairwise_cons.1 (List.pairwise_append.1 order).2.1).1
      rcases List.mem_cons.1 later with rfl | later
      · exact not_lt_self _ less
      · exact not_lt_self _ (Std.TransCmp.lt_trans less (behind k' later))
  · rintro ⟨k, mem', found, least⟩
    obtain ⟨before, after, rfl⟩ := List.append_of_mem ((mem k).2 mem')
    refine ⟨before, k, after, rfl, found, fun k' earlier => ?_⟩
    refine least k' ((mem k').1 (List.mem_append_left _ earlier)) ?_
    exact (List.pairwise_append.1 order).2.2 k' earlier k List.mem_cons_self

/-- Nothing is found among distinct keys exactly if nothing is found among the keys. -/
lemma findSome?_distinct_eq_none_iff :
    (distinct ks).findSome? f = none ↔ ∀ k ∈ ks, f k = none := by
  rw [List.findSome?_eq_none_iff]
  simp only [mem_distinct]

end OrderedMap

namespace Registry

/-! ## The accepted handlers -/

/-- The accepted handlers after one more was offered. -/
def accept (taken : List Handler) (h : Handler) : List Handler :=
  if h.Fits taken then taken ++ [h] else taken

/-- The handlers among those offered that are accepted. -/
def accepted (offers : List Handler) : List Handler := offers.foldl accept []

/-- Handlers with their numbers. -/
def numbered (hs : List Handler) : List RegisteredHandler := hs.mapIdx fun i h => ⟨⟨i⟩, h⟩

/-- Handlers that are numbered are of the list. -/
lemma mem_of_mem_numbered {hs : List Handler} {a : RegisteredHandler} (mem : a ∈ numbered hs) :
    a.handler ∈ hs := by
  obtain ⟨i, bound, rfl⟩ := List.mem_mapIdx.1 mem
  exact List.getElem_mem bound

/-- Every handler of the list is numbered. -/
lemma exists_numbered_of_mem {hs : List Handler} {h : Handler} (mem : h ∈ hs) :
    ∃ a ∈ numbered hs, a.handler = h := by
  obtain ⟨i, bound, rfl⟩ := List.mem_iff_getElem.1 mem
  exact ⟨_, List.mem_mapIdx.2 ⟨i, bound, rfl⟩, rfl⟩

/-- A registry has the given handlers, and its tables are in order. -/
structure Keeps (r : Registry) (taken : List Handler) : Prop where
  sound : r.Sound
  handlers : r.handlers = numbered taken
  tagOrder : r.byTag.Sorted
  keyOrder : r.keyOwners.Sorted

variable {r : Registry} {taken : List Handler} {h : Handler} {t : ActionTag} {k : StateKey}
  {name : String}

namespace Keeps

/-- The size is the number of those taken. -/
lemma size_eq (keeps : r.Keeps taken) : r.size = taken.length := by
  rw [size, keeps.handlers, numbered, List.length_mapIdx]

/-- Something holds of a registered handler exactly if it holds of one of those taken. -/
lemma exists_iff (keeps : r.Keeps taken) {P : Handler → Prop} :
    (∃ a ∈ r.handlers, P a.handler) ↔ ∃ o ∈ taken, P o := by
  rw [keeps.handlers]
  constructor
  · rintro ⟨a, mem, holds⟩
    exact ⟨a.handler, mem_of_mem_numbered mem, holds⟩
  · rintro ⟨o, mem, holds⟩
    obtain ⟨a, listed, rfl⟩ := exists_numbered_of_mem mem
    exact ⟨a, listed, holds⟩

/-! ## Who has what -/

/-- The owner of a tag is the one of those taken that has it. -/
lemma tagOwner?_eq_some_iff (keeps : r.Keeps taken) :
    r.tagOwner? t = some name ↔ ∃ o ∈ taken, t ∈ o.tags ∧ o.name = name := by
  rw [tagOwner?, Option.map_eq_some_iff, ← keeps.exists_iff (P := fun o => t ∈ o.tags ∧ _)]
  simp only [keeps.sound.handlerOf?_eq_some_iff, and_assoc]
  rfl

/-- A tag has no owner exactly if none of those taken has it. -/
lemma tagOwner?_eq_none_iff (keeps : r.Keeps taken) :
    r.tagOwner? t = none ↔ ∀ o ∈ taken, t ∉ o.tags := by
  rw [Option.eq_none_iff_forall_ne_some]
  simp only [Ne, keeps.tagOwner?_eq_some_iff]
  constructor
  · exact fun unknown o mem takes => unknown o.name ⟨o, mem, takes, rfl⟩
  · rintro free name ⟨o, mem, takes, -⟩
    exact free o mem takes

/-- The owner of a key goes by the name of the handler that declares it. -/
lemma keyOwner?_eq_some_iff (keeps : r.Keeps taken) :
    r.keyOwner? k = some name ↔ ∃ o ∈ taken, k ∈ o.keys ∧ o.name = name := by
  have named (a : RegisteredHandler) (mem : a ∈ r.handlers) :
      r.handlers.find? (fun h => h.id == a.id) = some a := by
    cases found : r.handlers.find? fun h => h.id == a.id with
    | none => exact absurd (beq_self_eq_true a.id) (List.find?_eq_none.1 found a mem)
    | some b =>
      have same := List.find?_some found
      exact congrArg some
        (keeps.sound.eq_of_id_eq (List.mem_of_find?_eq_some found) mem (beq_iff_eq.1 same))
  rw [keyOwner?, Option.map_eq_some_iff, ← keeps.exists_iff (P := fun o => k ∈ o.keys ∧ _)]
  constructor
  · rintro ⟨id, owned, rfl⟩
    obtain ⟨a, mem, rfl, owns⟩ := keeps.sound.keyOwners_eq_some_iff.1 owned
    exact ⟨a, mem, owns, by rw [named a mem]; rfl⟩
  · rintro ⟨a, mem, owns, rfl⟩
    refine ⟨a.id, keeps.sound.keyOwners_eq_some_iff.2 ⟨a, mem, rfl, owns⟩, ?_⟩
    rw [named a mem]
    rfl

/-- A key has no owner exactly if none of those taken has it. -/
lemma keyOwner?_eq_none_iff (keeps : r.Keeps taken) :
    r.keyOwner? k = none ↔ ∀ o ∈ taken, k ∉ o.keys := by
  rw [Option.eq_none_iff_forall_ne_some]
  simp only [Ne, keeps.keyOwner?_eq_some_iff]
  constructor
  · exact fun unknown o mem owns => unknown o.name ⟨o, mem, owns, rfl⟩
  · rintro free name ⟨o, mem, owns, -⟩
    exact free o mem owns

/-! ## Conflicts -/

/-- There is no conflict exactly if there is no overlap. -/
lemma conflict?_eq_none_iff (keeps : r.Keeps taken) :
    r.conflict? h = none ↔ ∀ o ∈ taken, ¬h.Overlaps o := by
  rw [conflict?, Option.orElse_eq_orElse, Option.orElse_eq_or, Option.or_eq_none_iff,
    OrderedMap.findSome?_distinct_eq_none_iff, OrderedMap.findSome?_distinct_eq_none_iff,
    Handler.not_overlaps_iff]
  simp only [Option.map_eq_none_iff, keeps.tagOwner?_eq_none_iff, keeps.keyOwner?_eq_none_iff]

/-- The conflict that is found is the one to be reported. -/
lemma conflict?_eq_some_iff (keeps : r.Keeps taken) (tagged : h.tags ≠ []) {claim : Claim}
    {owner : String} :
    r.conflict? h = some (claim, owner) ↔
      h.Refused taken (.conflictingOwnership claim owner h.name) := by
  rw [conflict?, Option.orElse_eq_orElse, Option.orElse_eq_or, Option.or_eq_some_iff,
    OrderedMap.findSome?_distinct_eq_some_iff, OrderedMap.findSome?_distinct_eq_some_iff,
    OrderedMap.findSome?_distinct_eq_none_iff]
  simp only [Option.map_eq_some_iff, Option.map_eq_none_iff, keeps.tagOwner?_eq_some_iff,
    keeps.keyOwner?_eq_some_iff, keeps.tagOwner?_eq_none_iff, keeps.keyOwner?_eq_none_iff]
  constructor
  · rintro (⟨t, claimed, ⟨name, ⟨o, mem, takes, rfl⟩, same⟩, least⟩ |
      ⟨free, k, claimed, ⟨name, ⟨o, mem, owns, rfl⟩, same⟩, least⟩)
    · obtain ⟨rfl, rfl⟩ := Prod.mk.inj same
      exact .tagTaken claimed mem takes least
    · obtain ⟨rfl, rfl⟩ := Prod.mk.inj same
      exact .keyOwned tagged free claimed mem owns least
  · intro refused
    cases refused with
    | tagTaken claimed mem takes least =>
      exact .inl ⟨_, claimed, ⟨_, ⟨_, mem, takes, rfl⟩, rfl⟩, least⟩
    | keyOwned tagged free claimed mem owns least =>
      exact .inr ⟨free, _, claimed, ⟨_, ⟨_, mem, owns, rfl⟩, rfl⟩, least⟩

/-! ## Attempts -/

/-- A handler is registered exactly if it fits, under the next number. -/
lemma register_eq_ok_iff (keeps : r.Keeps taken) {id : HandlerId} {r' : Registry} :
    r.register h = .ok (id, r') ↔ h.Fits taken ∧ id = ⟨taken.length⟩ ∧ r' = r.add h := by
  rw [Registry.register_eq_ok_iff, keeps.conflict?_eq_none_iff, keeps.size_eq, Handler.Fits,
    Ne, ← List.isEmpty_iff, Bool.not_eq_true]
  simp only [and_assoc]

/-- It is refused exactly for what keeps it from fitting. -/
lemma register_eq_error_iff (keeps : r.Keeps taken) {e : EnvironmentError} :
    r.register h = .error e ↔ h.Refused taken e := by
  rw [register]
  by_cases untagged : h.tags = []
  · rw [if_pos (List.isEmpty_iff.2 untagged), Except.error.injEq]
    constructor
    · rintro rfl
      exact .untagged untagged
    · intro refused
      cases refused with
      | untagged => rfl
      | tagTaken claimed =>
        rw [untagged] at claimed
        cases claimed
      | keyOwned tagged => exact absurd untagged tagged
      | full tagged => exact absurd untagged tagged
  · rw [if_neg fun empty => untagged (List.isEmpty_iff.1 empty)]
    cases conflict : r.conflict? h with
    | some found =>
      obtain ⟨claim, owner⟩ := found
      have reported := (keeps.conflict?_eq_some_iff untagged).1 conflict
      simp only [Except.error.injEq]
      constructor
      · rintro rfl
        exact reported
      · intro refused
        have clash : ¬∀ o ∈ taken, ¬h.Overlaps o := by
          rw [← keeps.conflict?_eq_none_iff, conflict]
          exact Option.some_ne_none _
        cases refused with
        | untagged empty => exact absurd empty untagged
        | full tagged apart => exact absurd apart clash
        | tagTaken claimed mem takes least =>
          have same := (keeps.conflict?_eq_some_iff untagged).2 (.tagTaken claimed mem takes least)
          obtain ⟨rfl, rfl⟩ := Prod.mk.inj (Option.some.inj (conflict.symm.trans same))
          rfl
        | keyOwned tagged free claimed mem owns least =>
          have same := (keeps.conflict?_eq_some_iff untagged).2
            (.keyOwned tagged free claimed mem owns least)
          obtain ⟨rfl, rfl⟩ := Prod.mk.inj (Option.some.inj (conflict.symm.trans same))
          rfl
    | none =>
      have apart := keeps.conflict?_eq_none_iff.1 conflict
      simp only [keeps.size_eq]
      constructor
      · intro refused
        split at refused
        · cases refused
        · next full =>
          obtain rfl := Except.error.inj refused
          exact .full untagged apart (Nat.le_of_not_lt full)
      · intro refused
        have unclaimed (claim owner) : e ≠ .conflictingOwnership claim owner h.name := by
          rintro rfl
          rw [(keeps.conflict?_eq_some_iff untagged).2 refused] at conflict
          cases conflict
        cases refused with
        | untagged empty => exact absurd empty untagged
        | tagTaken => exact absurd rfl (unclaimed _ _)
        | keyOwned => exact absurd rfl (unclaimed _ _)
        | full tagged apart full => rw [if_neg (Nat.not_lt.2 full)]

/-- A handler that fits is kept beside the others. -/
lemma add (keeps : r.Keeps taken) (fits : h.Fits taken) : (r.add h).Keeps (taken ++ [h]) := by
  obtain ⟨tags, keys⟩ :=
    free_of_conflict?_eq_none keeps.sound (keeps.conflict?_eq_none_iff.2 fits.2.1)
  refine ⟨keeps.sound.add tags keys, ?_, ?_, ?_⟩
  · rw [numbered, List.mapIdx_concat, ← numbered, ← keeps.handlers, ← keeps.size_eq]
    rfl
  · exact OrderedMap.sorted_insertAll keeps.tagOrder _
  · exact OrderedMap.sorted_insertAll keeps.keyOrder _

/-- To offer a handler that fits is to add it. -/
lemma offer_of_fits (keeps : r.Keeps taken) (fits : h.Fits taken) : r.offer h = r.add h := by
  rw [Registry.offer, keeps.register_eq_ok_iff.2 ⟨fits, rfl, rfl⟩]

/-- To offer one that does not fit changes nothing. -/
lemma offer_of_not_fits (keeps : r.Keeps taken) (unfit : ¬h.Fits taken) : r.offer h = r := by
  rw [Registry.offer]
  split
  · next accepted => exact absurd (keeps.register_eq_ok_iff.1 accepted).1 unfit
  · rfl

/-- What is offered is taken exactly if it is accepted. -/
lemma offer (keeps : r.Keeps taken) (h : Handler) : (r.offer h).Keeps (accept taken h) := by
  rw [accept]
  split
  · next fits =>
    rw [keeps.offer_of_fits fits]
    exact keeps.add fits
  · next unfit =>
    rw [keeps.offer_of_not_fits unfit]
    exact keeps

end Keeps

/-- Whatever handlers are offered, the registry has those that are accepted. -/
theorem keeps_ofOffers (offers : List Handler) : (ofOffers offers).Keeps (accepted offers) := by
  -- on the offers, from any registry and the handlers that it has
  have run : ∀ (r : Registry) taken, r.Keeps taken →
      (offers.foldl Registry.offer r).Keeps (offers.foldl accept taken) := by
    induction offers with
    | nil => exact fun _ _ keeps => keeps
    | cons h rest ih => exact fun _ _ keeps => ih _ _ (keeps.offer h)
  exact run {} [] ⟨sound_empty, rfl, OrderedMap.sorted_empty, OrderedMap.sorted_empty⟩

/-- The last of several offers is made to the registry that the others leave. -/
lemma ofOffers_concat (offers : List Handler) (h : Handler) :
    ofOffers (offers ++ [h]) = (ofOffers offers).offer h :=
  List.foldl_concat ..

/-- Whatever handlers have been offered before, the registry has the accepted ones, numbered in the
order in which they came. The next one is accepted exactly if it fits beside them, under the next
number; otherwise it is refused for the first cause there is, in the name of the handler that has
what it claims, and the registry stays as it was. A tag goes to the one handler that takes it, a key
belongs to the one handler that declares it, and the tags are listed in order, each once. -/
theorem registers_if_fits (offers : List Handler) :
    let r := ofOffers offers
    let taken := accepted offers
    r.handlers = numbered taken ∧
    (∀ h id r', r.register h = .ok (id, r') ↔
      h.Fits taken ∧ id = ⟨taken.length⟩ ∧ r' = ofOffers (offers ++ [h])) ∧
    (∀ h e, r.register h = .error e ↔ h.Refused taken e) ∧
    (∀ h, ¬h.Fits taken → ofOffers (offers ++ [h]) = r) ∧
    (∀ t a, r.resolve t = .ok a ↔ a ∈ r.handlers ∧ t ∈ a.handler.tags) ∧
    (∀ t e, r.resolve t = .error e ↔ e = .noHandlerFound t ∧ ∀ o ∈ taken, t ∉ o.tags) ∧
    (∀ k id, r.keyOwners.get? k = some id ↔ ∃ a ∈ r.handlers, a.id = id ∧ k ∈ a.handler.keys) ∧
    r.keyOwners.Sorted ∧
    r.tags.Pairwise (fun a b => compare a b = .lt) ∧
    ∀ t, t ∈ r.tags ↔ ∃ o ∈ taken, t ∈ o.tags := by
  intro r taken
  have keeps : r.Keeps taken := keeps_ofOffers offers
  refine ⟨keeps.handlers, fun h id r' => ?_, fun h e => keeps.register_eq_error_iff,
    fun h unfit => ?_, fun t a => ?_, fun t e => ?_, fun k id => keeps.sound.keyOwners_eq_some_iff,
    keeps.keyOrder, List.pairwise_map.2 keeps.tagOrder, fun t => ?_⟩
  · rw [keeps.register_eq_ok_iff, ofOffers_concat]
    refine and_congr_right fun fits => ?_
    rw [keeps.offer_of_fits fits]
  · rw [ofOffers_concat]
    exact keeps.offer_of_not_fits unfit
  · rw [← keeps.sound.handlerOf?_eq_some_iff, resolve]
    cases r.handlerOf? t <;> simp
  · rw [← keeps.tagOwner?_eq_none_iff, tagOwner?, Option.map_eq_none_iff, resolve]
    cases r.handlerOf? t <;> simp [eq_comm]
  · rw [tags, OrderedMap.mem_keys_iff, ← keeps.exists_iff (P := fun o => t ∈ o.tags)]
    cases listed : r.byTag.get? t with
    | none =>
      refine iff_of_false (fun ne => ne rfl) ?_
      rintro ⟨a, mem, takes⟩
      obtain ⟨i, at_i⟩ := List.mem_iff_getElem?.1 mem
      rw [(keeps.sound.tags t i).2 ⟨a, at_i, takes⟩] at listed
      cases listed
    | some i =>
      obtain ⟨a, at_i, takes⟩ := (keeps.sound.tags t i).1 listed
      exact iff_of_true (Option.some_ne_none i) ⟨a, List.mem_of_getElem? at_i, takes⟩

example :
    let handle : HandlerId → Action → ParticipantId → HandlerProgram :=
      fun _ _ _ => .stop (.finished (.applied .null))
    (accepted [⟨"ring", [⟨"enter"⟩, ⟨"move"⟩, ⟨"enter"⟩], [⟨"cells"⟩], handle⟩,
      ⟨"gate", [⟨"move"⟩], [], handle⟩, ⟨"silent", [], [], handle⟩,
      ⟨"tally", [⟨"count"⟩], [⟨"sum"⟩], handle⟩]).map Handler.name = ["ring", "tally"] := by
  decide

end Registry

end Cadence
