import Th2Common.Proto.Nested

/-! The three messages that go into the body of a publish: decoding undoes their
encoding. -/

namespace Th2
open Wire ProtoMessage

theorem regular_event (e : Event) : ∀ f ∈ fields e, f.Regular := by
  intro f hf
  simp only [fields, List.mem_append] at hf
  rcases hf with (((((((hf | hf) | hf) | hf) | hf) | hf) | hf) | hf) | hf
  · exact regular_singular (by decide) hf
  · exact regular_singular (by decide) hf
  · exact regular_singular (by decide) hf
  · exact regular_singular (by decide) hf
  · rw [mem_scalar hf]
    exact regular_varint (by decide) (int32_lt e.status)
  · rw [mem_scalar hf]
    exact regular_len (by decide) _
  · rw [mem_scalar hf]
    exact regular_len (by decide) _
  · rw [mem_scalar hf]
    exact regular_len (by decide) _
  · exact regular_repeated (by decide) hf

theorem roundtrips_event (e : Event) : Roundtrips e := by
  refine roundtrips_of_fold (regular_event e) fun hlen => ?_
  refine foldlM_append_some (b := { e with attachedMessageIds := [] })
    (foldlM_append_some (b := { e with body := [], attachedMessageIds := [] })
      (foldlM_append_some (b := { e with type := [], body := [], attachedMessageIds := [] })
        (foldlM_append_some
          (b := { e with name := [], type := [], body := [], attachedMessageIds := [] })
          (foldlM_append_some
            (b := { id := e.id, parentId := e.parentId, startTimestamp := e.startTimestamp,
                    endTimestamp := e.endTimestamp })
            (foldlM_append_some
              (b := { id := e.id, parentId := e.parentId, startTimestamp := e.startTimestamp })
              (foldlM_append_some (b := { id := e.id, parentId := e.parentId })
                (foldlM_append_some (b := { id := e.id }) ?_ ?_) ?_) ?_)
            (foldlM_scalar ?_ fun h => ?_))
          (foldlM_scalar rfl fun h => ?_))
        (foldlM_scalar rfl fun h => ?_))
      (foldlM_scalar rfl fun h => ?_)) ?_
  · refine foldlM_singular_unset (fun x => ({ id := x } : Event)) (fun _ => rfl)
      (fun x _ => roundtrips_eventID x) (fun f hf => ?_) hlen
    simp [fields, hf]
  · refine foldlM_singular_unset (fun x => ({ id := e.id, parentId := x } : Event)) (fun _ => rfl)
      (fun x _ => roundtrips_eventID x) (fun f hf => ?_) hlen
    simp [fields, hf]
  · refine foldlM_singular_unset
      (fun x => ({ id := e.id, parentId := e.parentId, startTimestamp := x } : Event))
      (fun _ => rfl) (fun x _ => roundtrips_timestamp x) (fun f hf => ?_) hlen
    simp [fields, hf]
  · refine foldlM_singular_unset
      (fun x => ({ id := e.id, parentId := e.parentId, startTimestamp := e.startTimestamp,
                   endTimestamp := x } : Event))
      (fun _ => rfl) (fun x _ => roundtrips_timestamp x) (fun f hf => ?_) hlen
    simp [fields, hf]
  · exact congrArg (fun s => some { e with
      status := s, name := [], type := [], body := [], attachedMessageIds := [] })
      (toInt32_int32 e.status)
  · rw [beq_iff_eq.mp h]
  · rw [beq_iff_eq.mp h]
  · rw [beq_iff_eq.mp h]
  · rw [beq_iff_eq.mp h]
  · refine foldlM_repeated_unset (fun ms => { e with attachedMessageIds := ms }) ?_
      (fun m _ => roundtrips_messageID m) (fun f hf => ?_) hlen
    · exact fun _ _ => rfl
    · simp [fields, hf]

theorem roundtrips_eventBatch (b : EventBatch) : Roundtrips b := by
  apply roundtrips_of_fold
  · intro f hf
    rcases List.mem_append.mp hf with hf | hf
    · exact regular_singular (by decide) hf
    · exact regular_repeated (by decide) hf
  · intro hlen
    refine foldlM_append_some (b := { parentEventId := b.parentEventId }) ?_ ?_
    · exact foldlM_singular_unset (fun x => ({ parentEventId := x } : EventBatch)) (fun _ => rfl)
        (fun x _ => roundtrips_eventID x) (fun f hf => List.mem_append_left _ hf) hlen
    · exact foldlM_repeated_unset (fun es => { b with events := es }) (fun _ _ => rfl)
        (fun e _ => roundtrips_event e) (fun f hf => List.mem_append_right _ hf) hlen

namespace AnyMessage

def keyed : AnyMessage → Bool
  | message m => m.keyed
  | _ => true

end AnyMessage

namespace MessageBatch

def keyed (b : MessageBatch) : Bool := b.messages.all Message.keyed

end MessageBatch

namespace MessageGroup

def keyed (g : MessageGroup) : Bool := g.messages.all AnyMessage.keyed

end MessageGroup

namespace MessageGroupBatch

def keyed (b : MessageGroupBatch) : Bool := b.groups.all MessageGroup.keyed

end MessageGroupBatch

theorem roundtrips_messageBatch (b : MessageBatch) (h : b.keyed = true) : Roundtrips b := by
  refine roundtrips_of_fold (fun f hf => regular_repeated (by decide) hf) fun hlen => ?_
  exact foldlM_repeated_unset MessageBatch.mk (fun _ _ => rfl)
    (fun m hm => roundtrips_message m (List.all_eq_true.mp h m hm)) (fun _ hf => hf) hlen

theorem roundtrips_anyMessage (a : AnyMessage) (h : a.keyed = true) : Roundtrips a := by
  cases a with
  | notSet =>
    intro _
    rfl
  | message m =>
    refine roundtrips_of_fold ?_ fun hlen => ?_
    · intro f hf
      rw [List.mem_singleton.mp hf]
      exact regular_message (by decide) m
    · have hd : mergeFrom blank (encode m) = some m :=
        decode_of_mem (roundtrips_message m h) (List.mem_singleton.mpr rfl) hlen
      change (mergeFrom blank (encode m)).map AnyMessage.message >>= pure = _
      rw [hd]
      rfl
  | rawMessage m => exact roundtrips_anyMessage_raw m

theorem roundtrips_groupBatch (b : MessageGroupBatch) (h : b.keyed = true) : Roundtrips b := by
  apply roundtrips_messageGroupBatch
  intro g hg
  apply roundtrips_messageGroup
  intro m hm
  exact roundtrips_anyMessage m (List.all_eq_true.mp (List.all_eq_true.mp h g hg) m hm)

end Th2
