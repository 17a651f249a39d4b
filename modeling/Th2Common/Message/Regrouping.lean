import Th2Common.Message.Selection

/-! The loop of `find_by_filter` for any outcome of `filter`, which may differ
from message to message. -/

namespace Th2

namespace AbstractRabbitBatchMessageRouter
variable {μ β : Type}

/-- The loop of `find_by_filter`; `filter` is given the place of the message in the batch. -/
def regroupBy (access : BatchAccess μ β) (o : WalkOrder Walk)
    (filter : Nat → μ → Except Fault (USet Bytes)) (result : AliasAndMessageToSend β) :
    Nat → List μ → Except Fault (AliasAndMessageToSend β)
  | _, [] => .ok result
  | i, msg :: msgs => do
    let aliases ← filter i msg
    regroupBy access o filter (Regroup.placeAll access.emptyBatch access.addMessages result msg
      (aliases.walkKeys o (.aliases i))) (i + 1) msgs

theorem regroupFrom_eq_regroupBy (access : BatchAccess μ β) (o : WalkOrder Walk) (m : QueuesMap)
    (result : AliasAndMessageToSend β) (i : Nat) (msgs : List μ) :
    regroupFrom access o m result i msgs =
      regroupBy access o (fun i msg => filter o i m msg) result i msgs := by
  induction msgs generalizing result i with
  | nil => rfl
  | cons msg msgs ih =>
    unfold regroupFrom regroupBy
    congr 1
    funext aliases
    exact ih _ _

theorem findByFilter_eq_regroupBy (access : BatchAccess μ β) (o : WalkOrder Walk) (m : QueuesMap)
    (batch : β) : findByFilter access o m batch =
      regroupBy access o (fun i msg => filter o i m msg) ∅ 0 (access.getMessages batch) :=
  regroupFrom_eq_regroupBy access o m ∅ 0 (access.getMessages batch)

section
variable (o : WalkOrder Walk) (aliases : Nat → μ → USet Bytes)

def assigned (i : Nat) (msgs : List μ) : List (μ × List Bytes) :=
  (msgs.zipIdx i).map fun p => (p.1, (aliases p.2 p.1).walkKeys o (.aliases p.2))

def messagesFor (i : Nat) (msgs : List μ) (queueAlias : Bytes) : List μ :=
  ((msgs.zipIdx i).filter fun p => queueAlias ∈ aliases p.2 p.1).map Prod.fst

theorem regroupBy_eq (access : BatchAccess μ β) (result : AliasAndMessageToSend β) (i : Nat)
    (msgs : List μ) :
    regroupBy access o (fun i msg => .ok (aliases i msg)) result i msgs =
      .ok (Regroup.regroup access.emptyBatch access.addMessages result
        (assigned o aliases i msgs)) := by
  induction msgs generalizing result i with
  | nil => rfl
  | cons msg msgs ih => exact ih _ _

theorem mem_walkKeys_iff (s : USet Bytes) (i : Walk) (a : Bytes) :
    a ∈ s.walkKeys o i ↔ a ∈ s := by
  rw [(AList.walkKeys_perm s o i).mem_iff, AList.mem_keys]

theorem nodup_of_mem_assigned {i : Nat} {msgs : List μ} {p : μ × List Bytes}
    (hp : p ∈ assigned o aliases i msgs) : p.2.Nodup := by
  obtain ⟨x, -, rfl⟩ := List.mem_map.mp hp
  have hperm := AList.walkKeys_perm (aliases x.2 x.1) o (.aliases x.2)
  exact hperm.nodup_iff.mpr (aliases x.2 x.1).keys_nodup

theorem mine_assigned (i : Nat) (msgs : List μ) (a : Bytes) :
    Regroup.mine a (assigned o aliases i msgs) = messagesFor aliases i msgs a := by
  unfold Regroup.mine assigned messagesFor
  rw [List.filter_map, List.map_map]
  congr 1
  apply List.filter_congr
  intro p _
  exact decide_eq_decide.mpr (mem_walkKeys_iff o _ _ a)

theorem lookup_regroupBy (access : BatchAccess μ β) (msgs : List μ) (a : Bytes) :
    (Regroup.regroup access.emptyBatch access.addMessages ∅ (assigned o aliases 0 msgs)).lookup a =
      if messagesFor aliases 0 msgs a = [] then none
      else some ((messagesFor aliases 0 msgs a).foldl access.addMessages access.emptyBatch) := by
  rw [Regroup.lookup_regroup _ _ _ _ fun p hp => nodup_of_mem_assigned o aliases hp,
    mine_assigned, AList.lookup_empty, Option.getD_none]

end

end AbstractRabbitBatchMessageRouter

namespace BatchAccess
variable {μ β : Type}

structure Lawful (access : BatchAccess μ β) : Prop where
  empty : access.getMessages access.emptyBatch = []
  add : ∀ batch msg, access.getMessages (access.addMessages batch msg) =
    access.getMessages batch ++ [msg]

theorem Lawful.foldl {access : BatchAccess μ β} (h : access.Lawful) (msgs : List μ) (batch : β) :
    access.getMessages (msgs.foldl access.addMessages batch) = access.getMessages batch ++ msgs := by
  induction msgs generalizing batch with
  | nil => rw [List.foldl_nil, List.append_nil]
  | cons msg msgs ih => rw [List.foldl_cons, ih, h.add, List.append_assoc, List.singleton_append]

end BatchAccess

inductive BatchRouter
  | parsed
  | raw
  | group
  deriving DecidableEq, Repr

namespace BatchRouter

def kind : BatchRouter → RouterKind
  | parsed => .parsedBatch
  | raw => .rawBatch
  | group => .groupBatch

def Item : BatchRouter → Type
  | parsed => Message
  | raw => RawMessage
  | group => MessageGroup

def access : (b : BatchRouter) → BatchAccess b.Item b.kind.Batch
  | parsed => parsedBatchAccess
  | raw => rawBatchAccess
  | group => groupBatchAccess

theorem findByFilter_eq (pb : Protobuf) (b : BatchRouter) (o : WalkOrder Walk) (m : QueuesMap)
    (batch : b.kind.Batch) : (b.kind.routerClass pb).findByFilter o m batch =
      AbstractRabbitBatchMessageRouter.regroupBy b.access o
        (fun i msg => AbstractRabbitBatchMessageRouter.filter o i m msg) ∅ 0
        (b.access.getMessages batch) := by
  rw [← AbstractRabbitBatchMessageRouter.findByFilter_eq_regroupBy]
  cases b <;> rfl

theorem access_lawful (b : BatchRouter) : b.access.Lawful := by
  cases b <;> exact ⟨rfl, fun _ _ => rfl⟩

end BatchRouter

end Th2
