import Th2Common.Connection.ConnectionManager
import Th2Common.Proto.Common

/-! The senders: a batch becomes bytes, and the bytes go to `basic_publish`. -/

namespace Th2
open ProtoMessage

def INT_MAX : Nat := 2 ^ 31 - 1

/-- The serialiser that is generated for a message type. `serializePartialToArray`
returns the array it leaves behind and its return value. -/
structure Serializer (α : Type) [ProtoMessage α] where
  byteSizeLong : α → Nat
  serializePartialToArray : α → Bytes → Int → Bytes × Bool
  byteSizeLong_eq : ∀ a, byteSizeLong a = (encode a).length
  writes : ∀ a data size, (encode a).length ≤ INT_MAX → ((encode a).length : Int) ≤ size →
    serializePartialToArray a data size = (encode a ++ data.drop (encode a).length, true)
  refuses : ∀ a data size, INT_MAX < (encode a).length →
    serializePartialToArray a data size = (data, false)

def Serializer.reference (α : Type) [ProtoMessage α] : Serializer α where
  byteSizeLong a := (encode a).length
  serializePartialToArray a data size :=
    if INT_MAX < (encode a).length ∨ size < ((encode a).length : Int) then (data, false)
    else (encode a ++ data.drop (encode a).length, true)
  byteSizeLong_eq _ := rfl
  writes _ _ _ h hs := if_neg (not_or.mpr ⟨Nat.not_lt.mpr h, Int.not_lt.mpr hs⟩)
  refuses _ _ _ h := if_pos (.inl h)

structure Protobuf where
  messageBatch : Serializer MessageBatch
  messageGroupBatch : Serializer MessageGroupBatch
  eventBatch : Serializer EventBatch

def Protobuf.reference : Protobuf := ⟨.reference _, .reference _, .reference _⟩

section
variable {α : Type} [ProtoMessage α] (pb : Serializer α)

/-- The body that the four `value_to_bytes` share. The size is narrowed from
`size_t` to `int` at the call, whose result is dropped. -/
def serializeToBytes (message : α) : Bytes :=
  let size := pb.byteSizeLong message
  let bv := List.replicate size 0
  (pb.serializePartialToArray message bv (Int.bmod size (2 ^ 32))).1

theorem serializeToBytes_def (message : α) :
    serializeToBytes pb message = (pb.serializePartialToArray message
      (List.replicate (encode message).length 0) (Int.bmod (encode message).length (2 ^ 32))).1 := by
  unfold serializeToBytes
  simp only [pb.byteSizeLong_eq]

theorem serializeToBytes_of_le {message : α} (h : (encode message).length ≤ INT_MAX) :
    serializeToBytes pb message = encode message := by
  have hs : Int.bmod (encode message).length (2 ^ 32) = (encode message).length := by
    unfold INT_MAX at h
    rw [Int.bmod_def]
    omega
  rw [serializeToBytes_def, hs, pb.writes message _ _ h (Int.le_refl _)]
  simp

theorem serializeToBytes_of_lt {message : α} (h : INT_MAX < (encode message).length) :
    serializeToBytes pb message = List.replicate (encode message).length 0 := by
  rw [serializeToBytes_def, pb.refuses message _ _ h]

theorem serializeToBytes_eq_encode_iff {message : α} (hpos : ∀ f ∈ fields message, 0 < f.number) :
    serializeToBytes pb message = encode message ↔ (encode message).length ≤ INT_MAX := by
  refine ⟨fun h => Nat.le_of_not_lt fun hlt => ?_, serializeToBytes_of_le pb⟩
  -- past the limit the body is zero bytes, and no encoding begins with one
  have hz := serializeToBytes_of_lt pb hlt
  have hhead : (encode message).head? = some 0 := by
    rw [← h, hz, List.head?_replicate, if_neg (Nat.ne_of_gt (Nat.zero_lt_of_lt hlt))]
  exact Wire.writeFields_head_ne_zero hpos hhead

end

def RabbitParsedBatchSender.valueToBytes (pb : Protobuf) : MessageBatch → Bytes :=
  serializeToBytes pb.messageBatch

def RabbitRawBatchSender.toGroupBatch (batch : RawMessageBatch) : MessageGroupBatch :=
  batch.messages.foldl (fun groupBatch rawMsg =>
    let anyMsg := AnyMessage.rawMessage rawMsg
    let groupMsg : MessageGroup := { messages := [anyMsg] }
    { groupBatch with groups := groupBatch.groups ++ [groupMsg] }) {}

def RabbitRawBatchSender.valueToBytes (pb : Protobuf) (batch : RawMessageBatch) : Bytes :=
  serializeToBytes pb.messageGroupBatch (RabbitRawBatchSender.toGroupBatch batch)

def RabbitMessageGroupBatchSender.valueToBytes (pb : Protobuf) : MessageGroupBatch → Bytes :=
  serializeToBytes pb.messageGroupBatch

def EventBatchSender.valueToBytes (pb : Protobuf) : EventBatch → Bytes :=
  serializeToBytes pb.eventBatch

structure AbstractRabbitSender (β : Type) where
  valueToBytes : β → Bytes
  sendQueue : Bytes := []
  exchangeName : Bytes := []
  connectionManager : SharedPtr ConnectionManager := none

namespace AbstractRabbitSender
variable {β : Type}

def init (sender : AbstractRabbitSender β) (connectionManager : SharedPtr ConnectionManager)
    (exchangeName sendQueue : Bytes) : AbstractRabbitSender β :=
  { sender with
    connectionManager := connectionManager
    exchangeName := exchangeName
    sendQueue := sendQueue }

def send (amqp : Amqp) (sender : AbstractRabbitSender β) (message : β) : Prog Trace Fault Unit := do
  let cm ← Prog.lift (deref sender.connectionManager)
  cm.val.basicPublish amqp sender.exchangeName sender.sendQueue (sender.valueToBytes message)

end AbstractRabbitSender

end Th2
