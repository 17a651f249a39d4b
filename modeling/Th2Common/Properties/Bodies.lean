import Th2Common.Properties.Encoding
import Th2Common.Proto.Batches

/-! Bodies read back by the wire format of `common.proto`. Only a batch that is too
long for the serialiser is lost. -/

namespace Th2
open Text Wire ProtoMessage

theorem decode_groupsOf {b : RawMessageBatch} (hlen : (encode (groupsOf b)).length < 2 ^ 64) :
    (decode (encode (groupsOf b)) : Option MessageGroupBatch).map rawBatchOf = some b := by
  rw [roundtrips_groupsOf b hlen, Option.map_some, rawBatchOf_groupsOf]

theorem rawBatchSender_of_lt (pb : Protobuf) {b : RawMessageBatch}
    (h : INT_MAX < (encode (groupsOf b)).length) :
    RabbitRawBatchSender.valueToBytes pb b = List.replicate (encode (groupsOf b)).length 0 := by
  rw [RabbitRawBatchSender.valueToBytes, toGroupBatch_eq]
  exact serializeToBytes_of_lt pb.messageGroupBatch h

namespace RouterKind

def readBack : (k : RouterKind) → Bytes → Option k.Batch
  | parsedBatch, bs => (decode bs : Option MessageBatch)
  | rawBatch, bs => (decode bs : Option MessageGroupBatch).map rawBatchOf
  | eventBatch, bs => (decode bs : Option EventBatch)
  | groupBatch, bs => (decode bs : Option MessageGroupBatch)

def keyed : (k : RouterKind) → k.Batch → Bool
  | parsedBatch, b => MessageBatch.keyed b
  | rawBatch, _ => true
  | eventBatch, _ => true
  | groupBatch, b => MessageGroupBatch.keyed b

theorem readBack_encoding (k : RouterKind) (b : k.Batch) (hkeyed : k.keyed b = true)
    (hlen : (k.encoding b).length < 2 ^ 64) : k.readBack (k.encoding b) = some b := by
  cases k with
  | parsedBatch => exact roundtrips_messageBatch b hkeyed hlen
  | rawBatch => exact decode_groupsOf hlen
  | eventBatch => exact roundtrips_eventBatch b hlen
  | groupBatch => exact roundtrips_groupBatch b hkeyed hlen

theorem valueToBytes_of_lt (pb : Protobuf) (k : RouterKind) (b : k.Batch)
    (h : INT_MAX < (k.encoding b).length) :
    k.valueToBytes pb b = List.replicate (k.encoding b).length 0 := by
  cases k with
  | parsedBatch => exact serializeToBytes_of_lt pb.messageBatch h
  | rawBatch => exact rawBatchSender_of_lt pb h
  | eventBatch => exact serializeToBytes_of_lt pb.eventBatch h
  | groupBatch => exact serializeToBytes_of_lt pb.messageGroupBatch h

theorem readBack_zeros (k : RouterKind) (n : Nat) : k.readBack (List.replicate (n + 1) 0) = none := by
  cases k with
  | rawBatch =>
    change ((parse _).bind _).map rawBatchOf = none
    rw [parse_zeros]
    rfl
  | _ =>
    change (parse _).bind _ = none
    rw [parse_zeros]
    rfl

end RouterKind

theorem readBack_valueToBytes_iff (pb : Protobuf) (k : RouterKind) (b : k.Batch)
    (hkeyed : k.keyed b = true) :
    k.readBack (k.valueToBytes pb b) = some b ↔ (k.encoding b).length ≤ INT_MAX := by
  constructor
  · intro h
    by_contra hlen
    have hlt : INT_MAX < (k.encoding b).length := Nat.lt_of_not_le hlen
    obtain ⟨n, hn⟩ : ∃ n, (k.encoding b).length = n + 1 :=
      Nat.exists_eq_add_one.mpr (Nat.lt_of_le_of_lt (Nat.zero_le _) hlt)
    rw [k.valueToBytes_of_lt pb b hlt, hn, k.readBack_zeros] at h
    cases h
  · intro hlen
    rw [(k.valueToBytes_eq_encoding_iff pb b).mpr hlen]
    exact k.readBack_encoding b hkeyed (Nat.lt_of_le_of_lt hlen (by decide))

end Th2
