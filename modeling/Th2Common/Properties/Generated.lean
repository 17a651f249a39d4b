import Th2Common.Properties.Bodies
import Th2Common.Proto.Generated

/-! The bodies that `value_to_bytes` makes with the generated passes, over any runtime. -/

namespace Th2
open Wire ProtoMessage TwoPass

section
variable {α : Type} [ProtoMessage α] [Generated α] (r : Runtime)

/-- The body that the four `value_to_bytes` share, with the generated passes. -/
def generatedToBytes (message : α) : Bytes :=
  let size := byteSizeLong r message
  let bv := List.replicate size 0
  (serializePartialToArray r message bv (Int.bmod size (2 ^ 32))).1

variable [LawfulGenerated α] {message : α}

theorem generatedToBytes_of_le (h : (encode message).length ≤ INT_MAX) :
    generatedToBytes r message = encode message := by
  have hlt : (encode message).length < 2 ^ 31 := by
    unfold INT_MAX at h
    omega
  have hsize : Int.bmod (encode message).length (2 ^ 32) = (encode message).length := by
    rw [Int.bmod_def]
    omega
  rw [generatedToBytes]
  simp only [byteSizeLong_eq r hlt, hsize]
  rw [serializePartialToArray_writes r _ hlt (Int.le_refl _)]
  simp

theorem generatedToBytes_of_lt (h : INT_MAX < (encode message).length) :
    ∃ n, INT_MAX < n ∧ generatedToBytes r message = List.replicate n 0 := by
  have hle : 2 ^ 31 ≤ (encode message).length := by
    unfold INT_MAX at h
    omega
  have hlarge : INT_MAX < byteSizeLong r message := by
    have hsize := le_byteSizeLong r hle
    unfold INT_MAX
    omega
  refine ⟨byteSizeLong r message, hlarge, ?_⟩
  rw [generatedToBytes, serializePartialToArray_refuses r _ _ hle]

end

namespace RouterKind

def generatedToBytes (r : Runtime) : (k : RouterKind) → k.Batch → Bytes
  | parsedBatch, b => Th2.generatedToBytes (α := MessageBatch) r b
  | rawBatch, b => Th2.generatedToBytes r (RabbitRawBatchSender.toGroupBatch b)
  | eventBatch, b => Th2.generatedToBytes (α := EventBatch) r b
  | groupBatch, b => Th2.generatedToBytes (α := MessageGroupBatch) r b

variable (r : Runtime) {k : RouterKind} {b : k.Batch}

theorem generatedToBytes_raw (b : rawBatch.Batch) :
    rawBatch.generatedToBytes r b = Th2.generatedToBytes r (groupsOf b) :=
  congrArg (Th2.generatedToBytes r) (toGroupBatch_eq b)

theorem generatedToBytes_of_le (h : (k.encoding b).length ≤ INT_MAX) :
    k.generatedToBytes r b = k.encoding b := by
  cases k with
  | rawBatch =>
    rw [generatedToBytes_raw]
    exact Th2.generatedToBytes_of_le r h
  | _ => exact Th2.generatedToBytes_of_le r h

theorem generatedToBytes_of_lt (h : INT_MAX < (k.encoding b).length) :
    ∃ n, INT_MAX < n ∧ k.generatedToBytes r b = List.replicate n 0 := by
  cases k with
  | rawBatch =>
    rw [generatedToBytes_raw]
    exact Th2.generatedToBytes_of_lt r h
  | _ => exact Th2.generatedToBytes_of_lt r h

theorem encoding_ne_zeros (k : RouterKind) (b : k.Batch) {n : Nat} (hn : 0 < n) :
    k.encoding b ≠ List.replicate n 0 := by
  have hhead : (k.encoding b).head? ≠ some 0 := by
    cases k with
    | eventBatch => exact writeFields_head_ne_zero (number_pos_eventBatch b)
    | _ => exact writeFields_head_ne_zero (number_pos_repeated Nat.one_pos _)
  intro h
  rw [h, List.head?_replicate, if_neg (Nat.ne_of_gt hn)] at hhead
  exact hhead rfl

end RouterKind

/-- The two passes of the generated code, with sizes found beforehand, write the nested
encoding exactly up to the limit, and there they are the serialiser that the senders rely
on. Past it the body is zero bytes. -/
theorem generated_passes_encode (r : Runtime) (k : RouterKind) (b : k.Batch) :
    (k.generatedToBytes r b = k.encoding b ↔ (k.encoding b).length ≤ INT_MAX) ∧
    ((k.encoding b).length ≤ INT_MAX → ∀ pb, k.valueToBytes pb b = k.generatedToBytes r b) ∧
    (INT_MAX < (k.encoding b).length →
      ∃ n, INT_MAX < n ∧ k.generatedToBytes r b = List.replicate n 0) := by
  refine ⟨⟨fun h => ?_, RouterKind.generatedToBytes_of_le r⟩, fun hlen pb => ?_,
    RouterKind.generatedToBytes_of_lt r⟩
  · by_contra hlen
    obtain ⟨n, hn, hzeros⟩ := RouterKind.generatedToBytes_of_lt r (Nat.lt_of_not_le hlen)
    exact k.encoding_ne_zeros b (Nat.zero_lt_of_lt hn) (h.symm.trans hzeros)
  · rw [RouterKind.generatedToBytes_of_le r hlen]
    exact (k.valueToBytes_eq_encoding_iff pb b).mpr hlen

end Th2
