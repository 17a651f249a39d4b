import Th2Common.Lib.TwoPass
import Th2Common.Proto.Common

/-! `ByteSizeLong` and `_InternalSerialize` of the generated classes, for messages without
unknown fields and for map fields in the order in which they are written. The sizes are
added up in the order of the generated code, which is not that of the field numbers. -/

namespace Th2
open Wire ProtoMessage TwoPass

def stringEntries (m : UMap Bytes Bytes) : List StringEntry := m.entries.map fun e => ⟨e.1, e.2⟩

theorem repeated_stringEntries (number : Nat) (m : UMap Bytes Bytes) :
    repeated number (stringEntries m) = stringMap number m := List.map_map

instance : Generated Timestamp where
  byteSizeLong r t := r.timestampSize t.seconds t.nanos
  internalSerialize r t := r.serializeTimestamp t.seconds t.nanos

instance : LawfulGenerated Timestamp where
  writes r t := by
    have hsize : (writeFields (fields t)).length = r.timestampSize t.seconds t.nanos :=
      (r.timestampSize_eq t.seconds t.nanos).symm
    exact ⟨hsize ▸ .of_eq rfl, fun _ => r.serializeTimestamp_eq t.seconds t.nanos⟩

instance : Generated ConnectionID where
  byteSizeLong r c := stringFieldSize r c.sessionAlias
  internalSerialize r c := stringField r 1 c.sessionAlias

instance : LawfulGenerated ConnectionID where
  writes r c := Writes.stringField r (by decide) c.sessionAlias

instance : Generated MessageID where
  byteSizeLong r m := packedFieldSize r m.subsequence + optionalFieldSize r m.connectionId +
    int64FieldSize r m.sequence + int32FieldSize r m.direction
  internalSerialize r m := optionalField r 1 m.connectionId ++ int32Field r 2 m.direction ++
    int64Field r 3 m.sequence ++ packedField r 4 m.subsequence

instance : LawfulGenerated MessageID where
  writes r m := by
    have hsize : byteSizeLong r m = optionalFieldSize r m.connectionId +
        int32FieldSize r m.direction + int64FieldSize r m.sequence +
        packedFieldSize r m.subsequence := by
      simp only [byteSizeLong]
      omega
    rw [hsize]
    exact (((Writes.optionalField r (by decide) m.connectionId).append
      (Writes.int32Field r (by decide) m.direction)).append
      (Writes.int64Field r (by decide) m.sequence)).append
      (Writes.packedField r (by decide) m.subsequence)

instance : Generated EventID where
  byteSizeLong r e := stringFieldSize r e.id
  internalSerialize r e := stringField r 1 e.id

instance : LawfulGenerated EventID where
  writes r e := Writes.stringField r (by decide) e.id

instance : Generated MessageMetadata where
  byteSizeLong r m := stringMapSize r (stringEntries m.properties) +
    stringFieldSize r m.messageType + stringFieldSize r m.protocol + optionalFieldSize r m.id +
    optionalFieldSize r m.timestamp
  internalSerialize r m := optionalField r 1 m.id ++ optionalField r 2 m.timestamp ++
    stringField r 3 m.messageType ++ stringMapField r 4 (stringEntries m.properties) ++
    stringField r 5 m.protocol

instance : LawfulGenerated MessageMetadata where
  writes r m := by
    have hsize : byteSizeLong r m = optionalFieldSize r m.id + optionalFieldSize r m.timestamp +
        stringFieldSize r m.messageType + stringMapSize r (stringEntries m.properties) +
        stringFieldSize r m.protocol := by
      simp only [byteSizeLong]
      omega
    have hproperties : Writes (stringMapSize r (stringEntries m.properties))
        (stringMapField r 4 (stringEntries m.properties)) (stringMap 4 m.properties) := by
      rw [← repeated_stringEntries]
      exact Writes.stringMapField r (by decide) _
    rw [hsize]
    exact ((((Writes.optionalField r (by decide) m.id).append
      (Writes.optionalField r (by decide) m.timestamp)).append
      (Writes.stringField r (by decide) m.messageType)).append hproperties).append
      (Writes.stringField r (by decide) m.protocol)

instance : Generated RawMessageMetadata where
  byteSizeLong r m := stringMapSize r (stringEntries m.properties) +
    stringFieldSize r m.protocol + optionalFieldSize r m.id + optionalFieldSize r m.timestamp
  internalSerialize r m := optionalField r 1 m.id ++ optionalField r 2 m.timestamp ++
    stringMapField r 3 (stringEntries m.properties) ++ stringField r 4 m.protocol

instance : LawfulGenerated RawMessageMetadata where
  writes r m := by
    have hsize : byteSizeLong r m = optionalFieldSize r m.id + optionalFieldSize r m.timestamp +
        stringMapSize r (stringEntries m.properties) + stringFieldSize r m.protocol := by
      simp only [byteSizeLong]
      omega
    have hproperties : Writes (stringMapSize r (stringEntries m.properties))
        (stringMapField r 3 (stringEntries m.properties)) (stringMap 3 m.properties) := by
      rw [← repeated_stringEntries]
      exact Writes.stringMapField r (by decide) _
    rw [hsize]
    exact (((Writes.optionalField r (by decide) m.id).append
      (Writes.optionalField r (by decide) m.timestamp)).append hproperties).append
      (Writes.stringField r (by decide) m.protocol)

mutual
def Value.byteSizeLong (r : Runtime) : Value → Nat
  | .notSet => 0
  | .nullValue v => 1 + r.int32Size v
  | .simpleValue s => 1 + r.lengthDelimitedSize s.length
  | .messageValue m => 1 + r.lengthDelimitedSize (m.byteSizeLong r)
  | .listValue values => 1 + r.lengthDelimitedSize (1 * values.length + valuesSize r values)

def valuesSize (r : Runtime) : List Value → Nat
  | [] => 0
  | v :: vs => r.lengthDelimitedSize (v.byteSizeLong r) + valuesSize r vs

def entriesSize (r : Runtime) : List (Bytes × Value) → Nat
  | [] => 0
  | e :: es => r.messageEntrySize e.1 (e.2.byteSizeLong r) + entriesSize r es

def Message.byteSizeLong (r : Runtime) : Message → Nat
  | .mk metadata fields parentEventId => 1 * fields.length + entriesSize r fields +
    optionalFieldSize r metadata + optionalFieldSize r parentEventId
end

mutual
def Value.internalSerialize (r : Runtime) : Value → Bytes
  | .notSet => []
  | .nullValue v => r.writeInt32ToArray 1 v
  | .simpleValue s => r.writeString 2 s
  | .messageValue m => r.writeMessage 3 (r.toCachedSize (m.byteSizeLong r)) (m.internalSerialize r)
  | .listValue values =>
    r.writeMessage 4 (r.toCachedSize (1 * values.length + valuesSize r values))
      (serializeValues r values)

def serializeValues (r : Runtime) : List Value → Bytes
  | [] => []
  | v :: vs =>
    r.writeMessage 1 (r.toCachedSize (v.byteSizeLong r)) (v.internalSerialize r) ++
      serializeValues r vs

def serializeEntries (r : Runtime) : List (Bytes × Value) → Bytes
  | [] => []
  | e :: es =>
    r.writeMessageEntry 2 e.1 (r.toCachedSize (e.2.byteSizeLong r)) (e.2.internalSerialize r) ++
      serializeEntries r es

def Message.internalSerialize (r : Runtime) : Message → Bytes
  | .mk metadata fields parentEventId => optionalField r 1 metadata ++
    serializeEntries r fields ++ optionalField r 3 parentEventId
end

mutual
theorem Value.writes (r : Runtime) : ∀ v : Value,
    Writes (v.byteSizeLong r) (v.internalSerialize r) v.wire
  | .notSet => .nil
  | .nullValue v => Writes.int32 r (by decide) v
  | .simpleValue s => Writes.string r (by decide) s
  | .messageValue m => (m.writes r).nested r (by decide)
  | .listValue values => (writes_values r values).nested r (by decide)

theorem writes_values (r : Runtime) : ∀ vs : List Value,
    Writes (1 * vs.length + valuesSize r vs) (serializeValues r vs) (wireValues vs)
  | [] => .nil
  | v :: vs => by
    have hsize : 1 * (v :: vs).length + valuesSize r (v :: vs) =
        1 + r.lengthDelimitedSize (v.byteSizeLong r) + (1 * vs.length + valuesSize r vs) := by
      simp only [valuesSize, List.length_cons]
      omega
    rw [hsize]
    exact ((v.writes r).nested r (by decide)).append (writes_values r vs)

theorem writes_entries (r : Runtime) : ∀ es : List (Bytes × Value),
    Writes (1 * es.length + entriesSize r es) (serializeEntries r es) (wireEntries es)
  | [] => .nil
  | e :: es => by
    have hsize : 1 * (e :: es).length + entriesSize r (e :: es) =
        1 + r.messageEntrySize e.1 (e.2.byteSizeLong r) +
          (1 * es.length + entriesSize r es) := by
      simp only [entriesSize, List.length_cons]
      omega
    rw [hsize]
    exact (Writes.messageEntry r (by decide) e.1 (e.2.writes r)).append (writes_entries r es)

theorem Message.writes (r : Runtime) : ∀ m : Message,
    Writes (m.byteSizeLong r) (m.internalSerialize r) m.wire
  | .mk metadata fields parentEventId => by
    have hsize : (Message.mk metadata fields parentEventId).byteSizeLong r =
        optionalFieldSize r metadata + (1 * fields.length + entriesSize r fields) +
          optionalFieldSize r parentEventId := by
      simp only [Message.byteSizeLong]
      omega
    rw [hsize]
    exact ((Writes.optionalField r (by decide) metadata).append (writes_entries r fields)).append
      (Writes.optionalField r (by decide) parentEventId)
end

instance : Generated Message where
  byteSizeLong := fun r m => m.byteSizeLong r
  internalSerialize := fun r m => m.internalSerialize r

instance : LawfulGenerated Message where
  writes := Message.writes

instance : Generated RawMessage where
  byteSizeLong r m := stringFieldSize r m.body + optionalFieldSize r m.metadata
  internalSerialize r m := optionalField r 1 m.metadata ++ stringField r 2 m.body

instance : LawfulGenerated RawMessage where
  writes r m := by
    have hsize : byteSizeLong r m = optionalFieldSize r m.metadata + stringFieldSize r m.body :=
      Nat.add_comm _ _
    rw [hsize]
    exact (Writes.optionalField r (by decide) m.metadata).append
      (Writes.stringField r (by decide) m.body)

instance : Generated AnyMessage where
  byteSizeLong r a := match a with
    | .notSet => 0
    | .message m => 1 + messageSize r m
    | .rawMessage m => 1 + messageSize r m
  internalSerialize r a := match a with
    | .notSet => []
    | .message m => internalWriteMessage r 1 m
    | .rawMessage m => internalWriteMessage r 2 m

instance : LawfulGenerated AnyMessage where
  writes r a := match a with
    | .notSet => .nil
    | .message m => Writes.message r (by decide) m
    | .rawMessage m => Writes.message r (by decide) m

instance : Generated MessageGroup where
  byteSizeLong r g := repeatedFieldSize r g.messages
  internalSerialize r g := repeatedField r 1 g.messages

instance : LawfulGenerated MessageGroup where
  writes r g := Writes.repeatedField r (by decide) g.messages

instance : Generated MessageBatch where
  byteSizeLong r b := repeatedFieldSize r b.messages
  internalSerialize r b := repeatedField r 1 b.messages

instance : LawfulGenerated MessageBatch where
  writes r b := Writes.repeatedField r (by decide) b.messages

instance : Generated MessageGroupBatch where
  byteSizeLong r b := repeatedFieldSize r b.groups
  internalSerialize r b := repeatedField r 1 b.groups

instance : LawfulGenerated MessageGroupBatch where
  writes r b := Writes.repeatedField r (by decide) b.groups

instance : Generated Event where
  byteSizeLong r e := repeatedFieldSize r e.attachedMessageIds + stringFieldSize r e.name +
    stringFieldSize r e.type + stringFieldSize r e.body + optionalFieldSize r e.id +
    optionalFieldSize r e.parentId + optionalFieldSize r e.startTimestamp +
    optionalFieldSize r e.endTimestamp + int32FieldSize r e.status
  internalSerialize r e := optionalField r 1 e.id ++ optionalField r 2 e.parentId ++
    optionalField r 3 e.startTimestamp ++ optionalField r 4 e.endTimestamp ++
    int32Field r 5 e.status ++ stringField r 6 e.name ++ stringField r 7 e.type ++
    stringField r 8 e.body ++ repeatedField r 9 e.attachedMessageIds

instance : LawfulGenerated Event where
  writes r e := by
    have hsize : byteSizeLong r e = optionalFieldSize r e.id + optionalFieldSize r e.parentId +
        optionalFieldSize r e.startTimestamp + optionalFieldSize r e.endTimestamp +
        int32FieldSize r e.status + stringFieldSize r e.name + stringFieldSize r e.type +
        stringFieldSize r e.body + repeatedFieldSize r e.attachedMessageIds := by
      simp only [byteSizeLong]
      omega
    rw [hsize]
    exact (((((((Writes.optionalField r (by decide) e.id).append
      (Writes.optionalField r (by decide) e.parentId)).append
      (Writes.optionalField r (by decide) e.startTimestamp)).append
      (Writes.optionalField r (by decide) e.endTimestamp)).append
      (Writes.int32Field r (by decide) e.status)).append
      (Writes.stringField r (by decide) e.name)).append
      (Writes.stringField r (by decide) e.type)).append
      (Writes.stringField r (by decide) e.body) |>.append
      (Writes.repeatedField r (by decide) e.attachedMessageIds)

instance : Generated EventBatch where
  byteSizeLong r b := repeatedFieldSize r b.events + optionalFieldSize r b.parentEventId
  internalSerialize r b := optionalField r 1 b.parentEventId ++ repeatedField r 2 b.events

instance : LawfulGenerated EventBatch where
  writes r b := by
    have hsize : byteSizeLong r b =
        optionalFieldSize r b.parentEventId + repeatedFieldSize r b.events := Nat.add_comm _ _
    rw [hsize]
    exact (Writes.optionalField r (by decide) b.parentEventId).append
      (Writes.repeatedField r (by decide) b.events)

end Th2
