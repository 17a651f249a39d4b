import Th2Common.Proto.Roundtrip

/-! Decoding undoes encoding for `Message` and `Value`, which hold each other.
The fuel of reading is counted down along the nesting; the keys of a map
field stand once each, as they do in the map of the generated class. -/

namespace Th2
open Wire ProtoMessage

theorem roundtrips_eventID (e : EventID) : Roundtrips e := by
  refine roundtrips_of_fold ?_ fun _ => foldlM_scalar rfl fun h => ?_
  · intro f hf
    rw [mem_scalar hf]
    exact regular_len (by decide) _
  · obtain ⟨id⟩ := e
    exact congrArg EventID.mk (beq_iff_eq.mp h)

theorem foldlM_stringMap {α : Type} [ProtoMessage α] {a : α} {number : Nat} {m : UMap Bytes Bytes}
    (put : UMap Bytes Bytes → α)
    (hmerge : ∀ p bs, mergeField (put p) ⟨number, .len bs⟩ = (mergeStringMap p bs).map put)
    (hfields : ∀ f ∈ stringMap number m, f ∈ fields a) (hlen : (encode a).length < 2 ^ 64) :
    (stringMap number m).foldlM mergeField (put ∅) = some (put m) := by
  let assigned (es : List (Sigma fun _ : Bytes => Bytes)) : UMap Bytes Bytes :=
    es.foldl (fun p e => p.assign e.1 e.2) ∅
  have hread : (stringMap number m).foldlM mergeField (put (assigned [])) =
      some (put (assigned m.entries)) := by
    apply foldlM_snoc (fun e => message number (⟨e.1, e.2⟩ : StringEntry)) (put ∘ assigned)
    intro ys e zs hes
    have hmem : message number (⟨e.1, e.2⟩ : StringEntry) ∈ fields a :=
      hfields _ (List.mem_map_of_mem (by simp [hes]))
    have hentry : mergeStringMap (assigned ys) (encode (⟨e.1, e.2⟩ : StringEntry)) =
        some ((assigned ys).assign e.1 e.2) := by
      rw [mergeStringMap, decode_of_mem (roundtrips_stringEntry _) hmem hlen]
      rfl
    rw [Function.comp_apply, message, hmerge, hentry, Function.comp_apply]
    simp only [assigned, List.foldl_append, List.foldl_cons, List.foldl_nil, Option.map_some]
  rwa [show assigned m.entries = m from AList.foldl_assign_empty m] at hread

theorem roundtrips_messageMetadata (m : MessageMetadata) : Roundtrips m := by
  apply roundtrips_of_fold
  · intro f hf
    simp only [fields, List.mem_append] at hf
    rcases hf with (((hf | hf) | hf) | hf) | hf
    · exact regular_singular (by decide) hf
    · exact regular_singular (by decide) hf
    · rw [mem_scalar hf]
      exact regular_len (by decide) _
    · exact regular_stringMap (by decide) hf
    · rw [mem_scalar hf]
      exact regular_len (by decide) _
  · intro hlen
    refine foldlM_append_some (b := { m with protocol := [] })
      (foldlM_append_some
        (b := { id := m.id, timestamp := m.timestamp, messageType := m.messageType })
        (foldlM_append_some (b := { id := m.id, timestamp := m.timestamp })
          (foldlM_append_some (b := { id := m.id }) ?_ ?_) (foldlM_scalar rfl fun h => ?_)) ?_)
      (foldlM_scalar rfl fun h => ?_)
    · apply foldlM_singular_unset (fun x => ({ id := x } : MessageMetadata)) (fun _ => rfl)
        (fun x _ => roundtrips_messageID x) _ hlen
      intro f hf
      simp [fields, hf]
    · apply foldlM_singular_unset (fun x => ({ id := m.id, timestamp := x } : MessageMetadata))
        (fun _ => rfl) (fun x _ => roundtrips_timestamp x) _ hlen
      intro f hf
      simp [fields, hf]
    · rw [beq_iff_eq.mp h]
    · apply foldlM_stringMap (fun p => { m with properties := p, protocol := [] }) (fun _ _ => rfl)
        _ hlen
      intro f hf
      simp [fields, hf]
    · rw [← beq_iff_eq.mp h]

mutual
def Value.keyed : Value → Bool
  | .messageValue m => m.keyed
  | .listValue values => keyedValues values
  | _ => true

def keyedValues : List Value → Bool
  | [] => true
  | v :: vs => v.keyed && keyedValues vs

def keyedEntries : List (Bytes × Value) → Bool
  | [] => true
  | e :: es => e.2.keyed && keyedEntries es

def Message.keyed : Message → Bool
  | .mk _ fields _ => decide (fields.map Prod.fst).Nodup && keyedEntries fields
end

theorem keyedValues_iff {vs : List Value} :
    keyedValues vs = true ↔ ∀ v ∈ vs, v.keyed = true := by
  induction vs with
  | nil => simp [keyedValues]
  | cons v vs ih => simp [keyedValues, ih]

theorem keyedEntries_iff {es : List (Bytes × Value)} :
    keyedEntries es = true ↔ ∀ e ∈ es, e.2.keyed = true := by
  induction es with
  | nil => simp [keyedEntries]
  | cons e es ih => simp [keyedEntries, ih]

theorem Message.keyed_mk {metadata : Option MessageMetadata} {fields : List (Bytes × Value)}
    {parentEventId : Option EventID} : (Message.mk metadata fields parentEventId).keyed = true ↔
      (fields.map Prod.fst).Nodup ∧ ∀ e ∈ fields, e.2.keyed = true := by
  rw [Message.keyed, Bool.and_eq_true, decide_eq_true_iff, keyedEntries_iff]

theorem assignField_of_notMem {fields : List (Bytes × Value)} {key : Bytes}
    (h : key ∉ fields.map Prod.fst) (value : Value) :
    assignField fields key value = fields ++ [(key, value)] := if_neg h

def entryFields (e : Bytes × Value) : List Field :=
  [⟨1, .len e.1⟩, ⟨2, .len (writeFields e.2.wire)⟩]

theorem wireValues_eq (vs : List Value) :
    wireValues vs = vs.map fun v => ⟨1, .len (writeFields v.wire)⟩ := by
  induction vs with
  | nil => simp [wireValues]
  | cons v vs ih => rw [wireValues, ih, List.map_cons]

theorem wireEntries_eq (es : List (Bytes × Value)) :
    wireEntries es = es.map fun e => ⟨2, .len (writeFields (entryFields e))⟩ := by
  induction es with
  | nil => simp [wireEntries]
  | cons e es ih =>
    rw [wireEntries, ih, List.map_cons]
    rfl

theorem regular_valueWire (v : Value) : ∀ f ∈ v.wire, f.Regular := by
  intro f hf
  cases v with
  | notSet =>
    rw [Value.wire] at hf
    cases hf
  | nullValue v =>
    rw [Value.wire] at hf
    rw [List.mem_singleton.mp hf]
    exact regular_varint (by decide) (int32_lt v)
  | _ =>
    rw [Value.wire] at hf
    rw [List.mem_singleton.mp hf]
    exact regular_len (by decide) _

theorem regular_wireValues (vs : List Value) : ∀ f ∈ wireValues vs, f.Regular := by
  intro f hf
  rw [wireValues_eq] at hf
  obtain ⟨v, _, rfl⟩ := List.mem_map.mp hf
  exact regular_len (by decide) _

theorem regular_entryFields (e : Bytes × Value) : ∀ f ∈ entryFields e, f.Regular := by
  intro f hf
  simp only [entryFields, List.mem_cons, List.not_mem_nil, or_false] at hf
  rcases hf with rfl | rfl <;> exact regular_len (by decide) _

theorem Message.wire_mk (metadata : Option MessageMetadata) (fields : List (Bytes × Value))
    (parentEventId : Option EventID) : (Message.mk metadata fields parentEventId).wire =
      singular 1 metadata ++ (fields.map fun e => ⟨2, .len (writeFields (entryFields e))⟩) ++
        singular 3 parentEventId := by
  rw [Message.wire, wireEntries_eq]

theorem regular_messageWire (m : Message) : ∀ f ∈ m.wire, f.Regular := by
  intro f hf
  obtain ⟨metadata, fields, parentEventId⟩ := m
  rw [Message.wire_mk] at hf
  simp only [List.mem_append] at hf
  rcases hf with (hf | hf) | hf
  · exact regular_singular (by decide) hf
  · obtain ⟨e, _, rfl⟩ := List.mem_map.mp hf
    exact regular_len (by decide) _
  · exact regular_singular (by decide) hf

theorem foldlM_messageWire {entry : Bytes → Option (Bytes × Value)} {m : Message}
    (hm : m.keyed = true) (hlen : (encode m).length < 2 ^ 64)
    (hentry : ∀ e : Bytes × Value, e.2.keyed = true →
      ⟨2, .len (writeFields (entryFields e))⟩ ∈ m.wire →
        entry (writeFields (entryFields e)) = some e) :
    m.wire.foldlM (Message.mergeFieldWith entry) Message.empty = some m := by
  obtain ⟨metadata, es, parentEventId⟩ := m
  obtain ⟨hkeys, hvalues⟩ := Message.keyed_mk.mp hm
  have hfields : fields (Message.mk metadata es parentEventId) = _ := Message.wire_mk _ _ _
  have hmetadata : (singular 1 metadata).foldlM (Message.mergeFieldWith entry) Message.empty =
      some (.mk metadata [] none) := by
    rcases metadata with _ | x
    · rfl
    · have hmem : message 1 x ∈ fields (Message.mk (some x) es parentEventId) := by
        simp [hfields, singular]
      have hread : mergeOptional none (encode x) = some (some x) :=
        mergeOptional_none (roundtrips_messageMetadata x) hmem hlen
      simp only [singular, Option.toList_some, List.map_cons, List.map_nil, List.foldlM_cons,
        message, Message.empty, Message.mergeFieldWith, hread, Option.map_some]
      rfl
  have hentries : (es.map fun e => (⟨2, .len (writeFields (entryFields e))⟩ : Field)).foldlM
      (Message.mergeFieldWith entry) (.mk metadata [] none) = some (.mk metadata es none) := by
    apply foldlM_snoc _ fun es => Message.mk metadata es none
    intro ys e zs hes
    have he : e ∈ es := by simp [hes]
    have hmem : ⟨2, .len (writeFields (entryFields e))⟩ ∈
        fields (Message.mk metadata es parentEventId) := by
      rw [hfields]
      exact List.mem_append_left _ (List.mem_append_right _ (List.mem_map_of_mem he))
    -- the key of this entry does not stand among those already read
    have hfresh : e.1 ∉ ys.map Prod.fst := by
      intro hy
      rw [hes, List.map_append, List.map_cons] at hkeys
      exact List.disjoint_of_nodup_append hkeys hy List.mem_cons_self
    rw [Message.mergeFieldWith, hentry e (hvalues e he) hmem, Option.map_some,
      assignField_of_notMem hfresh]
  have hparent : (singular 3 parentEventId).foldlM (Message.mergeFieldWith entry)
      (.mk metadata es none) = some (.mk metadata es parentEventId) := by
    rcases parentEventId with _ | x
    · rfl
    · have hmem : message 3 x ∈ fields (Message.mk metadata es (some x)) := by
        simp [hfields, singular]
      have hread : mergeOptional none (encode x) = some (some x) :=
        mergeOptional_none (roundtrips_eventID x) hmem hlen
      simp only [singular, Option.toList_some, List.map_cons, List.map_nil, List.foldlM_cons,
        message, Message.mergeFieldWith, hread, Option.map_some]
      rfl
  rw [Message.wire_mk, List.foldlM_append, List.foldlM_append, hmetadata, Option.bind_eq_bind,
    Option.bind_some, hentries, Option.bind_some, hparent]

def Within (fuel : Nat) (bs : Bytes) : Prop := bs.length ≤ fuel ∧ bs.length < 2 ^ 64

theorem Within.of_mem {fuel number : Nat} {fs : List Field} {bs : Bytes}
    (h : Within (fuel + 1) (writeFields fs)) (hmem : (⟨number, .len bs⟩ : Field) ∈ fs) :
    Within fuel bs := by
  have hlt : bs.length < (writeFields fs).length := length_lt_of_mem number hmem
  exact ⟨Nat.le_of_lt_succ (Nat.lt_of_lt_of_le hlt h.1), Nat.lt_trans hlt h.2⟩

theorem Within.fields_nil {fs : List Field} (h : Within 0 (writeFields fs)) : fs = [] := by
  have hlen : fs.length ≤ 0 := Nat.le_trans (length_le_writeFields fs) h.1
  exact List.length_eq_zero_iff.mp (Nat.le_zero.mp hlen)

structure Reads (fuel : Nat) : Prop where
  value : ∀ v : Value, v.keyed = true → Within fuel (writeFields v.wire) →
    Value.merge fuel .notSet (writeFields v.wire) = some v
  values : ∀ vs : List Value, keyedValues vs = true → Within fuel (writeFields (wireValues vs)) →
    mergeValues fuel [] (writeFields (wireValues vs)) = some vs
  entry : ∀ e : Bytes × Value, e.2.keyed = true → Within fuel (writeFields (entryFields e)) →
    mergeEntry fuel ([], .notSet) (writeFields (entryFields e)) = some e
  message : ∀ m : Message, m.keyed = true → Within fuel (writeFields m.wire) →
    Message.merge fuel Message.empty (writeFields m.wire) = some m

theorem reads_zero : Reads 0 where
  value v _ h := by
    have hnil := h.fields_nil
    cases v with
    | notSet => simp [Value.wire, Value.merge, writeFields]
    | _ =>
      rw [Value.wire] at hnil
      cases hnil
  values vs _ h := by
    have hnil := h.fields_nil
    cases vs with
    | nil => simp [wireValues, mergeValues, writeFields]
    | cons v vs =>
      rw [wireValues] at hnil
      cases hnil
  entry e _ h := by cases h.fields_nil
  message m _ h := by
    have hnil := h.fields_nil
    obtain ⟨metadata, es, parentEventId⟩ := m
    rw [Message.wire_mk] at hnil
    simp only [List.append_eq_nil_iff, singular, List.map_eq_nil_iff, Option.toList_eq_nil_iff]
      at hnil
    obtain ⟨⟨rfl, rfl⟩, rfl⟩ := hnil
    simp [Message.wire_mk, singular, Message.merge, writeFields, Message.empty]

namespace Reads
variable {fuel : Nat} (ih : Reads fuel)
include ih

theorem value_succ (v : Value) (hv : v.keyed = true) (h : Within (fuel + 1) (writeFields v.wire)) :
    Value.merge (fuel + 1) .notSet (writeFields v.wire) = some v := by
  rw [Value.merge, parse_writeFields (fits_of_regular (regular_valueWire v) h.2), Option.bind_some]
  cases v with
  | notSet => simp [Value.wire]
  | nullValue v => simp [Value.wire, int32Payload, toInt32_int32]
  | simpleValue s => simp [Value.wire]
  | messageValue m =>
    rw [Value.wire] at h ⊢
    have hread := ih.message m (by rwa [Value.keyed] at hv) (h.of_mem (List.mem_singleton.mpr rfl))
    simp [hread]
  | listValue vs =>
    rw [Value.wire] at h ⊢
    have hread := ih.values vs (by rwa [Value.keyed] at hv) (h.of_mem (List.mem_singleton.mpr rfl))
    simp [hread]

theorem values_succ (vs : List Value) (hvs : keyedValues vs = true)
    (h : Within (fuel + 1) (writeFields (wireValues vs))) :
    mergeValues (fuel + 1) [] (writeFields (wireValues vs)) = some vs := by
  rw [mergeValues, parse_writeFields (fits_of_regular (regular_wireValues vs) h.2),
    Option.bind_some]
  rw [wireValues_eq] at h ⊢
  apply foldlM_snoc _ id
  intro ys v zs hsplit
  have hv : v ∈ vs := by simp [hsplit]
  have hread := ih.value v (keyedValues_iff.mp hvs v hv) (h.of_mem (List.mem_map_of_mem hv))
  simp only [id, hread, Option.map_some]

theorem entry_succ (e : Bytes × Value) (he : e.2.keyed = true)
    (h : Within (fuel + 1) (writeFields (entryFields e))) :
    mergeEntry (fuel + 1) ([], .notSet) (writeFields (entryFields e)) = some e := by
  have hmem : ⟨2, .len (writeFields e.2.wire)⟩ ∈ entryFields e := by simp [entryFields]
  have hread := ih.value e.2 he (h.of_mem hmem)
  rw [mergeEntry, parse_writeFields (fits_of_regular (regular_entryFields e) h.2), Option.bind_some]
  simp [entryFields, hread]

theorem message_succ (m : Message) (hm : m.keyed = true)
    (h : Within (fuel + 1) (writeFields m.wire)) :
    Message.merge (fuel + 1) Message.empty (writeFields m.wire) = some m := by
  rw [Message.merge, parse_writeFields (fits_of_regular (regular_messageWire m) h.2),
    Option.bind_some]
  exact foldlM_messageWire hm h.2 fun e he hmem => ih.entry e he (h.of_mem hmem)

end Reads

theorem reads (fuel : Nat) : Reads fuel := by
  induction fuel with
  | zero => exact reads_zero
  | succ fuel ih => exact ⟨ih.value_succ, ih.values_succ, ih.entry_succ, ih.message_succ⟩

theorem roundtrips_message (m : Message) (h : m.keyed = true) : Roundtrips m := by
  refine roundtrips_of_fold (regular_messageWire m) fun hlen => ?_
  refine foldlM_messageWire h hlen fun e he hmem => ?_
  have hlt : (writeFields (entryFields e)).length < 2 ^ 64 :=
    Nat.lt_of_le_of_lt (length_le_of_mem 2 hmem) hlen
  exact (reads _).entry e he ⟨Nat.le_refl _, hlt⟩

end Th2
