import Th2Common.Proto.Common

/-! Decoding undoes encoding for raw messages, at every level up to a batch of groups. -/

namespace Th2
open Wire ProtoMessage

theorem int32_lt (x : Int32) : x.toInt64.toUInt64.toNat < 2 ^ 64 := x.toInt64.toUInt64.toNat_lt

theorem int64_lt (x : Int64) : x.toUInt64.toNat < 2 ^ 64 := x.toUInt64.toNat_lt

theorem roundtrips_timestamp (t : Timestamp) : Roundtrips t := by
  apply roundtrips_of_fold
  · intro f hf
    rcases List.mem_append.mp hf with hf | hf <;> rw [mem_scalar hf]
    · exact regular_varint (by decide) (int64_lt t.seconds)
    · exact regular_varint (by decide) (int32_lt t.nanos)
  · intro _
    refine foldlM_append_some (b := { seconds := t.seconds }) (foldlM_scalar ?_ fun h => ?_)
      (foldlM_scalar ?_ fun h => ?_)
    · exact congrArg (fun s => some ({ seconds := s } : Timestamp)) (toInt64_int64 t.seconds)
    · rw [beq_iff_eq.mp h]
      rfl
    · exact congrArg (fun n => some ({ t with nanos := n } : Timestamp)) (toInt32_int32 t.nanos)
    · rw [← beq_iff_eq.mp h]

theorem roundtrips_connectionID (c : ConnectionID) : Roundtrips c := by
  refine roundtrips_of_fold ?_ fun _ => foldlM_scalar rfl fun h => ?_
  · intro f hf
    rw [mem_scalar hf]
    exact regular_len (by decide) _
  · obtain ⟨sessionAlias⟩ := c
    exact congrArg ConnectionID.mk (beq_iff_eq.mp h)

theorem roundtrips_messageID (m : MessageID) : Roundtrips m := by
  apply roundtrips_of_fold
  · intro f hf
    simp only [fields, List.mem_append] at hf
    rcases hf with ((hf | hf) | hf) | hf
    · exact regular_singular (by decide) hf
    · rw [mem_scalar hf]
      exact regular_varint (by decide) (int32_lt m.direction)
    · rw [mem_scalar hf]
      exact regular_varint (by decide) (int64_lt m.sequence)
    · rw [mem_scalar hf]
      exact regular_len (by decide) _
  · intro hlen
    refine foldlM_append_some (b := { m with subsequence := [] })
      (foldlM_append_some (b := { connectionId := m.connectionId, direction := m.direction })
        (foldlM_append_some (b := { connectionId := m.connectionId })
          ?_ (foldlM_scalar ?_ fun h => ?_))
        (foldlM_scalar ?_ fun h => ?_))
      (foldlM_scalar ?_ fun h => ?_)
    · apply foldlM_singular_unset (fun c => ({ connectionId := c } : MessageID)) (fun _ => rfl)
        (fun c _ => roundtrips_connectionID c) _ hlen
      intro f hf
      simp [fields, hf]
    · exact congrArg (fun d => some ({ connectionId := m.connectionId, direction := d } : MessageID))
        (toInt32_int32 m.direction)
    · rw [beq_iff_eq.mp h]
    · exact congrArg (fun s => some ({ m with sequence := s, subsequence := [] } : MessageID))
        (toInt64_int64 m.sequence)
    · rw [beq_iff_eq.mp h]
    · change (readPacked _ (writePacked m.subsequence)).map _ = _
      rw [readPacked_writePacked _ (length_le_writePacked _)]
      rfl
    · rw [← beq_iff_eq.mp h]

theorem regular_stringMap {number : Nat} (h : 0 < number ∧ number < 2 ^ 29) {m : UMap Bytes Bytes}
    {f : Field} (hf : f ∈ stringMap number m) : f.Regular := by
  obtain ⟨e, _, rfl⟩ := List.mem_map.mp hf
  exact regular_message h _

theorem roundtrips_rawMessageMetadata (m : RawMessageMetadata) : Roundtrips m := by
  apply roundtrips_of_fold
  · intro f hf
    simp only [fields, List.mem_append] at hf
    rcases hf with ((hf | hf) | hf) | hf
    · exact regular_singular (by decide) hf
    · exact regular_singular (by decide) hf
    · exact regular_stringMap (by decide) hf
    · rw [mem_scalar hf]
      exact regular_len (by decide) _
  · intro hlen
    refine foldlM_append_some (b := { m with protocol := [] })
      (foldlM_append_some (b := { id := m.id, timestamp := m.timestamp })
        (foldlM_append_some (b := { id := m.id }) ?_ ?_) ?_)
      (foldlM_scalar rfl fun h => ?_)
    · apply foldlM_singular_unset (fun x => ({ id := x } : RawMessageMetadata)) (fun _ => rfl)
        (fun x _ => roundtrips_messageID x) _ hlen
      intro f hf
      simp [fields, hf]
    · apply foldlM_singular_unset (fun x => ({ id := m.id, timestamp := x } : RawMessageMetadata))
        (fun _ => rfl) (fun x _ => roundtrips_timestamp x) _ hlen
      intro f hf
      simp [fields, hf]
    · -- the entries are assigned one after the other
      let push (a : RawMessageMetadata) (e : Sigma fun _ : Bytes => Bytes) : RawMessageMetadata :=
        { a with properties := a.properties.assign e.1 e.2 }
      have hpush (l : List (Sigma fun _ : Bytes => Bytes)) (a : RawMessageMetadata) :
          l.foldl push a = { a with properties := l.foldl (fun p e => p.assign e.1 e.2) a.properties } := by
        induction l generalizing a with
        | nil => rfl
        | cons e l ih => rw [List.foldl_cons, ih, List.foldl_cons]
      rw [stringMap, foldlM_map _ push, hpush, AList.foldl_assign_empty]
      intro e he a
      have hmem : message 3 (⟨e.1, e.2⟩ : StringEntry) ∈ fields m := by
        simp only [fields, List.mem_append, stringMap]
        exact .inl (.inr (List.mem_map_of_mem he))
      change (mergeStringMap a.properties (encode _)).map _ = _
      rw [mergeStringMap, decode_of_mem (roundtrips_stringEntry _) hmem hlen]
      rfl
    · rw [← beq_iff_eq.mp h]

theorem roundtrips_rawMessage (m : RawMessage) : Roundtrips m := by
  apply roundtrips_of_fold
  · intro f hf
    rcases List.mem_append.mp hf with hf | hf
    · exact regular_singular (by decide) hf
    · rw [mem_scalar hf]
      exact regular_len (by decide) _
  · intro hlen
    refine foldlM_append_some (b := { metadata := m.metadata })
      ?_ (foldlM_scalar rfl fun h => ?_)
    · apply foldlM_singular_unset (fun x => ({ metadata := x } : RawMessage)) (fun _ => rfl)
        (fun x _ => roundtrips_rawMessageMetadata x) _ hlen
      intro f hf
      simp [fields, hf]
    · rw [← beq_iff_eq.mp h]

theorem roundtrips_anyMessage_raw (m : RawMessage) : Roundtrips (AnyMessage.rawMessage m) := by
  apply roundtrips_of_fold
  · intro f hf
    rw [List.mem_singleton.mp hf]
    exact regular_message (by decide) m
  · intro hlen
    have hd := decode_of_mem (roundtrips_rawMessage m) (List.mem_singleton.mpr rfl) hlen
    change (mergeFrom blank (encode m)).map AnyMessage.rawMessage >>= pure = _
    rw [decode] at hd
    rw [hd]
    rfl

theorem foldlM_repeated {α β : Type} [ProtoMessage α] [ProtoMessage β] {a : α} (put : List β → α)
    {bs : List β} (hfields : fields a = repeated 1 bs)
    (hmerge : ∀ xs b, decode (encode b) = some b →
      mergeField (put xs) (message 1 b) = some (put (xs ++ [b])))
    (hbs : ∀ b ∈ bs, Roundtrips b) (hlen : (encode a).length < 2 ^ 64) :
    (fields a).foldlM mergeField (put []) = some (put bs) := by
  have hstep (xs ys : List β) (hys : ∀ b ∈ ys, b ∈ bs) :
      (repeated 1 ys).foldlM mergeField (put xs) = some (put (xs ++ ys)) := by
    induction ys generalizing xs with
    | nil =>
      rw [List.append_nil]
      rfl
    | cons y ys ih =>
      have hy : y ∈ bs := hys y (by simp)
      have hmem : message 1 y ∈ fields a := by
        rw [hfields]
        exact List.mem_map_of_mem hy
      rw [repeated, List.map_cons, List.foldlM_cons,
        hmerge xs y (decode_of_mem (hbs y hy) hmem hlen), ← repeated, Option.bind_eq_bind,
        Option.bind_some, ih _ fun b hb => hys b (by simp [hb]), List.append_assoc,
        List.singleton_append]
  rw [hfields]
  exact hstep [] bs fun _ hb => hb

theorem roundtrips_messageGroup (g : MessageGroup) (h : ∀ m ∈ g.messages, Roundtrips m) :
    Roundtrips g := by
  apply roundtrips_of_fold fun f hf => regular_repeated (by decide) hf
  intro hlen
  apply foldlM_repeated MessageGroup.mk rfl _ h hlen
  intro xs m hm
  change (decode (encode m)).map _ = _
  rw [hm]
  rfl

theorem roundtrips_messageGroupBatch (b : MessageGroupBatch) (h : ∀ g ∈ b.groups, Roundtrips g) :
    Roundtrips b := by
  apply roundtrips_of_fold fun f hf => regular_repeated (by decide) hf
  intro hlen
  apply foldlM_repeated MessageGroupBatch.mk rfl _ h hlen
  intro xs g hg
  change (decode (encode g)).map _ = _
  rw [hg]
  rfl

end Th2
