import Th2Common.Message.Shipping
import Th2Common.Proto.Roundtrip

/-! What the bodies of the publishes are: encodings up to the limit of the
serialiser, and the same bytes for a raw batch as for its groups. -/

namespace Th2
open Text Wire ProtoMessage

def groupsOf (b : RawMessageBatch) : MessageGroupBatch where
  groups := b.messages.map fun m => { messages := [.rawMessage m] }

def rawMessages (g : MessageGroup) : List RawMessage :=
  g.messages.filterMap fun m => match m with
    | .rawMessage m => some m
    | _ => none

def rawBatchOf (b : MessageGroupBatch) : RawMessageBatch where
  messages := b.groups.flatMap rawMessages

theorem rawBatchOf_groupsOf (b : RawMessageBatch) : rawBatchOf (groupsOf b) = b := by
  obtain ⟨messages⟩ := b
  have h : (messages.map fun m => ({ messages := [.rawMessage m] } : MessageGroup)).flatMap
      rawMessages = messages := by
    induction messages with
    | nil => rfl
    | cons m ms ih => exact congrArg (m :: ·) ih
  exact congrArg RawMessageBatch.mk h

theorem toGroupBatch_eq (b : RawMessageBatch) :
    RabbitRawBatchSender.toGroupBatch b = groupsOf b := by
  have key : ∀ (ms : List RawMessage) (groups : List MessageGroup),
      ms.foldl (fun (groupBatch : MessageGroupBatch) rawMsg =>
        { groupBatch with groups := groupBatch.groups ++ [{ messages := [.rawMessage rawMsg] }] })
        ⟨groups⟩ = ⟨groups ++ ms.map fun m => { messages := [.rawMessage m] }⟩ := by
    intro ms
    induction ms with
    | nil =>
      intro groups
      rw [List.map_nil, List.append_nil]
      rfl
    | cons m ms ih =>
      intro groups
      rw [List.foldl_cons, ih, List.append_assoc]
      rfl
  exact key b.messages []

theorem roundtrips_groupsOf (b : RawMessageBatch) : Roundtrips (groupsOf b) := by
  apply roundtrips_messageGroupBatch
  intro g hg
  obtain ⟨m, _, rfl⟩ := List.mem_map.mp hg
  apply roundtrips_messageGroup
  intro x hx
  rw [List.mem_singleton.mp hx]
  exact roundtrips_anyMessage_raw m

def RouterKind.encoding : (k : RouterKind) → k.Batch → Bytes
  | parsedBatch, b => encode (α := MessageBatch) b
  | rawBatch, b => encode (groupsOf b)
  | eventBatch, b => encode (α := EventBatch) b
  | groupBatch, b => encode (α := MessageGroupBatch) b

theorem number_pos_repeated {β : Type} [ProtoMessage β] {number : Nat} (h : 0 < number) (bs : List β) :
    ∀ f ∈ repeated number bs, 0 < f.number := by
  intro f hf
  obtain ⟨b, _, rfl⟩ := List.mem_map.mp hf
  exact h

theorem number_pos_eventBatch (b : EventBatch) : ∀ f ∈ fields b, 0 < f.number := by
  intro f hf
  rcases List.mem_append.mp hf with hf | hf
  · obtain ⟨x, _, rfl⟩ := List.mem_map.mp hf
    exact Nat.one_pos
  · exact number_pos_repeated Nat.two_pos b.events f hf

namespace RouterKind

theorem valueToBytes_eq_encoding_iff (pb : Protobuf) (k : RouterKind) (b : k.Batch) :
    k.valueToBytes pb b = k.encoding b ↔ (k.encoding b).length ≤ INT_MAX := by
  cases k with
  | parsedBatch =>
    exact serializeToBytes_eq_encode_iff pb.messageBatch
      (number_pos_repeated Nat.one_pos (MessageBatch.messages b))
  | rawBatch =>
    have hb : valueToBytes pb rawBatch b = serializeToBytes pb.messageGroupBatch (groupsOf b) :=
      congrArg (serializeToBytes pb.messageGroupBatch) (toGroupBatch_eq b)
    rw [hb]
    exact serializeToBytes_eq_encode_iff pb.messageGroupBatch
      (number_pos_repeated Nat.one_pos (groupsOf b).groups)
  | eventBatch => exact serializeToBytes_eq_encode_iff pb.eventBatch (number_pos_eventBatch b)
  | groupBatch =>
    exact serializeToBytes_eq_encode_iff pb.messageGroupBatch
      (number_pos_repeated Nat.one_pos (MessageGroupBatch.groups b))

end RouterKind

theorem length_encoding_raw (body : Bytes) (h : body ≠ []) :
    body.length ≤ (RouterKind.encoding .rawBatch ⟨[⟨none, body⟩]⟩).length := by
  have hbody : (⟨2, .len body⟩ : Field) ∈ fields (⟨none, body⟩ : RawMessage) := by
    have hne : (body == []) = false := by simpa using h
    simp only [fields, scalar, hne, Bool.false_eq_true, if_false]
    exact List.mem_append_right _ (List.mem_singleton.mpr rfl)
  have hany : (encode (⟨none, body⟩ : RawMessage)).length ≤
      (encode (AnyMessage.rawMessage ⟨none, body⟩)).length :=
    length_le_of_mem 2 (List.mem_singleton.mpr rfl)
  have hgroup : (encode (AnyMessage.rawMessage ⟨none, body⟩)).length ≤
      (encode (⟨[.rawMessage ⟨none, body⟩]⟩ : MessageGroup)).length :=
    length_le_of_mem 1 (List.mem_singleton.mpr rfl)
  have hbatch : (encode (⟨[.rawMessage ⟨none, body⟩]⟩ : MessageGroup)).length ≤
      (encode (groupsOf ⟨[⟨none, body⟩]⟩)).length :=
    length_le_of_mem 1 (List.mem_singleton.mpr rfl)
  calc body.length ≤ (encode (⟨none, body⟩ : RawMessage)).length := length_le_of_mem _ hbody
    _ ≤ (encode (AnyMessage.rawMessage ⟨none, body⟩)).length := hany
    _ ≤ (encode (⟨[.rawMessage ⟨none, body⟩]⟩ : MessageGroup)).length := hgroup
    _ ≤ (encode (groupsOf ⟨[⟨none, body⟩]⟩)).length := hbatch

theorem length_encoding_large :
    INT_MAX < (RouterKind.encoding .rawBatch ⟨[⟨none, List.replicate (2 ^ 31) 0⟩]⟩).length := by
  have hne : List.replicate (2 ^ 31) (0 : UInt8) ≠ [] := by
    rw [Ne, List.replicate_eq_nil_iff]
    exact Nat.ne_of_gt (Nat.two_pow_pos 31)
  have hle := length_encoding_raw _ hne
  rw [List.length_replicate] at hle
  exact Nat.lt_of_lt_of_le (by decide) hle

/-- Raw batches and batches of groups are one format on the wire, and no raw
batch is lost in it. -/
theorem raw_bytes_are_group_bytes (pb : Protobuf) (b : RawMessageBatch)
    (hlen : (encode (RabbitRawBatchSender.toGroupBatch b)).length ≤ INT_MAX) :
    RabbitRawBatchSender.valueToBytes pb b =
        RabbitMessageGroupBatchSender.valueToBytes pb (groupsOf b) ∧
      decode (RabbitRawBatchSender.valueToBytes pb b) = some (groupsOf b) ∧
      rawBatchOf (groupsOf b) = b ∧
      ∀ b', RabbitRawBatchSender.valueToBytes pb b' = RabbitRawBatchSender.valueToBytes pb b →
        b' = b := by
  rw [toGroupBatch_eq] at hlen
  have hbytes : RabbitRawBatchSender.valueToBytes pb b = encode (groupsOf b) := by
    rw [RabbitRawBatchSender.valueToBytes, toGroupBatch_eq, serializeToBytes_of_le _ hlen]
  have hlt : (encode (groupsOf b)).length < 2 ^ 64 :=
    Nat.lt_of_le_of_lt hlen (by decide)
  refine ⟨?_, ?_, rawBatchOf_groupsOf b, fun b' h => ?_⟩
  · rw [RabbitRawBatchSender.valueToBytes, toGroupBatch_eq]
    rfl
  · rw [hbytes]
    exact roundtrips_groupsOf b hlt
  · rw [hbytes, RabbitRawBatchSender.valueToBytes, toGroupBatch_eq] at h
    by_cases hle : (encode (groupsOf b')).length ≤ INT_MAX
    · rw [serializeToBytes_of_le _ hle] at h
      have hgroups := encode_injective_of_roundtrips (roundtrips_groupsOf b') (roundtrips_groupsOf b)
        (Nat.lt_of_le_of_lt hle (by decide)) h
      rw [← rawBatchOf_groupsOf b', hgroups, rawBatchOf_groupsOf]
    · -- too long to be serialised, so too long to be the bytes of `b`
      rw [serializeToBytes_of_lt _ (Nat.lt_of_not_le hle)] at h
      have hlength := congrArg List.length h
      rw [List.length_replicate] at hlength
      exact absurd (hlength ▸ hlen) hle

def twoMessages : RawMessageBatch where
  messages := [
    { metadata := some {
        id := some { connectionId := some { sessionAlias := "session" }, direction := 1, sequence := 7 }
        timestamp := some { seconds := 1234, nanos := 5678 }
        properties := ((∅ : UMap Bytes Bytes).assign "requestId" "0").assign "requestRef" "1"
        protocol := "fix" }
      body := "8=FIX.4.4" },
    {}]

theorem raw_bytes_are_group_bytes_twoMessages :
    RabbitRawBatchSender.valueToBytes .reference twoMessages =
        RabbitMessageGroupBatchSender.valueToBytes .reference (groupsOf twoMessages) ∧
      decode (RabbitRawBatchSender.valueToBytes .reference twoMessages) =
        some (groupsOf twoMessages) ∧
      rawBatchOf (groupsOf twoMessages) = twoMessages ∧
      ∀ b', RabbitRawBatchSender.valueToBytes .reference b' =
        RabbitRawBatchSender.valueToBytes .reference twoMessages → b' = twoMessages :=
  raw_bytes_are_group_bytes .reference twoMessages (by decide)

def senderOf (pb : Protobuf) (k : RouterKind) (cm : Obj ConnectionManager)
    (exchange routingKey : Bytes) : AbstractRabbitSender k.Batch :=
  AbstractRabbitSender.init { valueToBytes := k.valueToBytes pb } (some cm) exchange routingKey

def SendsEncoding (pb : Protobuf) (k : RouterKind) (b : k.Batch) : Prop :=
  ∀ (amqp : Amqp) (cm : Obj ConnectionManager) (exchange routingKey : Bytes) (τ : Trace),
    ∃ out υ, ((senderOf pb k cm exchange routingKey).send amqp b).exec τ = (out, τ ++ υ) ∧
      (basicPublishes υ = [(exchange, routingKey, k.encoding b)] ∨
        (∃ x, out = .error (.thrown x)) ∧ basicPublishes υ = [])

theorem exec_send (pb : Protobuf) (k : RouterKind) (b : k.Batch) (amqp : Amqp)
    (cm : Obj ConnectionManager) (exchange routingKey : Bytes) (τ : Trace) :
    ∃ out υ, ((senderOf pb k cm exchange routingKey).send amqp b).exec τ = (out, τ ++ υ) ∧
      basicPublishes υ = [(exchange, routingKey, k.valueToBytes pb b)] := by
  have hrun : ((senderOf pb k cm exchange routingKey).send amqp b).exec τ =
      (cm.val.basicPublish amqp exchange routingKey (k.valueToBytes pb b)).exec τ := rfl
  rw [hrun, ConnectionManager.exec_basicPublish]
  split
  · exact ⟨_, _, rfl, rfl⟩
  · refine ⟨_, _, rfl, ?_⟩
    unfold ConnectionManager.publishReport
    split <;> rfl

theorem SendsEncoding.length_le {pb : Protobuf} {k : RouterKind} {b : k.Batch}
    (h : SendsEncoding pb k b) : (k.encoding b).length ≤ INT_MAX := by
  rw [← k.valueToBytes_eq_encoding_iff pb b]
  let cm : Obj ConnectionManager := ⟨0, { rmqConfiguration := none }⟩
  obtain ⟨out, υ, hrun, hpub⟩ := h .accepting cm [] [] []
  obtain ⟨out', υ', hrun', hpub'⟩ := exec_send pb k b .accepting cm [] [] []
  rw [hrun] at hrun'
  injection hrun' with _ hυ
  rw [List.nil_append, List.nil_append] at hυ
  rw [← hυ] at hpub'
  rcases hpub with hpub | ⟨_, hpub⟩
  · rw [hpub'] at hpub
    injection hpub with hpub
    injection hpub with _ hpub
    injection hpub
  · rw [hpub'] at hpub
    cases hpub

/-- Only what the serialiser can write is sent as it should be. -/
theorem sendsEncoding_iff (pb : Protobuf) (k : RouterKind) (b : k.Batch) :
    SendsEncoding pb k b ↔ (k.encoding b).length ≤ INT_MAX := by
  refine ⟨SendsEncoding.length_le, fun h amqp cm exchange routingKey τ => ?_⟩
  obtain ⟨out, υ, hrun, hpub⟩ := exec_send pb k b amqp cm exchange routingKey τ
  rw [(k.valueToBytes_eq_encoding_iff pb b).mpr h] at hpub
  exact ⟨out, υ, hrun, .inl hpub⟩

theorem not_sendsEncoding_large :
    ¬SendsEncoding .reference .rawBatch ⟨[⟨none, List.replicate (2 ^ 31) 0⟩]⟩ :=
  fun h => absurd h.length_le (Nat.not_le.mpr length_encoding_large)

end Th2
