import Th2Common.Message.Selection

/-! `subscribe`: the search for the one queue to subscribe to. -/

namespace Th2
open Text QueueEntry

namespace AbstractRabbitMessageRouter
variable {β : Type}

/-- `subscribe(queue_alias, callback)`, on the list of the aliases it was given so far.
Nothing of it runs behind its `throw`. -/
def subscribeTo (queueAlias : Bytes) : Prog (List Bytes) Fault Unit := do
  Prog.update (· ++ [queueAlias])
  Prog.raise (.thrown (.logicError "Method subscribe() not yet implemented!"))

def subscribe (c : RouterClass β) (o : WalkOrder Walk) (router : AbstractRabbitMessageRouter)
    (_queueAttributes : List Bytes) : Prog (List Bytes) Fault Unit := do
  let cfg ← Prog.lift router.getConfiguration
  let queues ← Prog.lift (cfg.findQueuesByAttr o c.requiredSubscribeAttributes)
  throwIf (queues.entries.length ≠ 1)
    (utf8 "Wrong amount of queues for subscribe. Found " ++ decimal queues.entries.length ++
      utf8 " queues, but must not be more than 1. Search was done by " ++ utf8 " attributes")
  let queueAlias ← Prog.lift (deref c.requiredSubscribeAttributes[1]?)
  subscribeTo queueAlias

end AbstractRabbitMessageRouter

namespace MessageRouterConfiguration

theorem collectByAttr_null (attr : List Bytes) (m : QueuesMap) {es : List QueueEntry}
    (h : ¬NonNull es) : collectByAttr attr m es = .error .nullDereference := by
  induction es generalizing m with
  | nil => exact absurd (fun e he => absurd he List.not_mem_nil) h
  | cons e es ih =>
    unfold collectByAttr
    rcases hq : e.2 with _ | q
    · rfl
    · have hes : ¬NonNull es := by
        intro hnn
        apply h
        intro f hf
        rcases List.mem_cons.mp hf with rfl | hf
        · exact ⟨q, hq⟩
        · exact hnn f hf
      simp only [deref]
      change (if _ then _ else _) = _
      rw [ih _ hes, ih _ hes, ite_self]

theorem findQueuesByAttr_null (o : WalkOrder Walk) {cfg : MessageRouterConfiguration}
    (h : ¬NonNull cfg.queues.entries) (attr : List Bytes) :
    cfg.findQueuesByAttr o attr = .error .nullDereference :=
  collectByAttr_null attr ∅ fun hnn => h (hnn.perm (AList.walk_perm cfg.queues o .queues).symm)

end MessageRouterConfiguration

namespace AbstractRabbitMessageRouter
variable {β : Type} {c : RouterClass β} (o : WalkOrder Walk) (cm : SharedPtr ConnectionManager)
  {cfg : Obj MessageRouterConfiguration} (attrs s : List Bytes)

theorem exec_getConfiguration :
    (Prog.lift (getConfiguration ⟨cm, some cfg⟩)).exec s = (.ok cfg.val, s) := rfl

theorem exec_subscribe_null (h : ¬NonNull cfg.val.queues.entries) :
    (subscribe c o ⟨cm, some cfg⟩ attrs).exec s = (.error .nullDereference, s) := by
  unfold subscribe
  rw [Prog.exec_bind_ok (exec_getConfiguration cm s)]
  apply Prog.exec_bind_error
  rw [MessageRouterConfiguration.findQueuesByAttr_null o h, Prog.exec_lift]

/-- The alias handed over is the second required attribute, if the search for the
required ones finds one queue; either way the call ends in an exception. -/
theorem exec_subscribe (h : NonNull cfg.val.queues.entries) {a : Bytes}
    (ha : c.requiredSubscribeAttributes[1]? = some a) :
    ∃ x, (subscribe c o ⟨cm, some cfg⟩ attrs).exec s = (.error (.thrown x),
      if (cfg.val.queues.entries.filter (carries c.requiredSubscribeAttributes)).length = 1 then
        s ++ [a] else s) := by
  obtain ⟨m, hm, hp⟩ :=
    MessageRouterConfiguration.findQueuesByAttr_spec o h c.requiredSubscribeAttributes
  unfold subscribe
  rw [Prog.exec_bind_ok (exec_getConfiguration cm s), hm, Prog.exec_bind_ok (Prog.exec_lift _ _),
    ← hp.length_eq]
  by_cases hone : m.entries.length = 1
  · rw [if_pos hone, throwIf, Prog.exec_bind_ok (Prog.exec_raiseIf_neg (not_not.mpr hone) _ _), ha]
    exact ⟨_, rfl⟩
  · rw [if_neg hone]
    exact ⟨_, Prog.exec_bind_error (Prog.exec_raiseIf_pos hone _ _)⟩

end AbstractRabbitMessageRouter

end Th2
