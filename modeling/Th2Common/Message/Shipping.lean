import Th2Common.Message.Selection

/-! What the loop of `send(alias_and_message_to_send)` leaves in the trace. -/

namespace Th2
open Text ConnectionManager

structure Shipment where
  queueAlias : Bytes
  exchange : Bytes
  routingKey : Bytes
  message : Bytes
  deriving DecidableEq

namespace Shipment

def publish (s : Shipment) : Bytes × Bytes × Bytes := (s.exchange, s.routingKey, s.message)

def attempt (cm : ConnectionManager) (s : Shipment) (res : Int) : Trace :=
  .getMessageQueue s.queueAlias :: cm.publishAttempt s.exchange s.routingKey s.message res

def report (cm : ConnectionManager) (s : Shipment) : Trace :=
  cm.publishReport s.exchange s.routingKey s.message

end Shipment

def ship (amqp : Amqp) (cm : ConnectionManager) (s : Shipment) : Prog Trace Fault Unit := do
  emit (.getMessageQueue s.queueAlias)
  cm.basicPublish amqp s.exchange s.routingKey s.message

theorem exec_ship (amqp : Amqp) (cm : ConnectionManager) (s : Shipment) (τ : Trace) :
    (ship amqp cm s).exec τ =
      if amqp.basicPublish (τ.length + 2) < 0 then
        (.error (.thrown (publishFail (amqp.basicPublish (τ.length + 2)))),
          τ ++ s.attempt cm (amqp.basicPublish (τ.length + 2)))
      else (.ok (), τ ++ (s.attempt cm (amqp.basicPublish (τ.length + 2)) ++ s.report cm)) := by
  have hlen : (τ ++ [Observation.getMessageQueue s.queueAlias]).length + 1 = τ.length + 2 := by
    rw [List.length_append, List.length_singleton]
  unfold ship
  rw [Prog.exec_bind_ok (exec_emit _ τ), exec_basicPublish, hlen]
  simp only [Shipment.attempt, Shipment.report, List.append_assoc, List.cons_append,
    List.nil_append]

/-- The rounds of the loop, as far as they come, and how the loop ends. -/
inductive Shipped (amqp : Amqp) (cm : ConnectionManager) :
    List Shipment → Except Fault Unit → Trace → Prop
  | done : Shipped amqp cm [] (.ok ()) []
  | accepted {s : Shipment} {l : List Shipment} {out : Except Fault Unit} {υ : Trace} (n : Nat) :
    0 ≤ amqp.basicPublish n → Shipped amqp cm l out υ →
      Shipped amqp cm (s :: l) out (s.attempt cm (amqp.basicPublish n) ++ s.report cm ++ υ)
  | refused {s : Shipment} {l : List Shipment} (n : Nat) :
    amqp.basicPublish n < 0 →
      Shipped amqp cm (s :: l) (.error (.thrown (publishFail (amqp.basicPublish n))))
        (s.attempt cm (amqp.basicPublish n))

theorem shipped_forEach (amqp : Amqp) (cm : ConnectionManager) (l : List Shipment) (τ : Trace) :
    ∃ out υ, (Prog.forEach l (ship amqp cm)).exec τ = (out, τ ++ υ) ∧ Shipped amqp cm l out υ := by
  induction l generalizing τ with
  | nil => exact ⟨.ok (), [], by rw [List.append_nil]; rfl, .done⟩
  | cons s l ih =>
    rw [Prog.forEach_cons]
    by_cases hres : amqp.basicPublish (τ.length + 2) < 0
    · have hs := exec_ship amqp cm s τ
      rw [if_pos hres] at hs
      exact ⟨_, _, Prog.exec_bind_error hs, .refused _ hres⟩
    · have hs := exec_ship amqp cm s τ
      rw [if_neg hres] at hs
      obtain ⟨out, υ, hrun, hshipped⟩ := ih (τ ++ (s.attempt cm (amqp.basicPublish (τ.length + 2)) ++
        s.report cm))
      refine ⟨out, _, ?_, .accepted _ (Int.not_lt.mp hres) hshipped⟩
      rw [Prog.exec_bind_ok hs, hrun, List.append_assoc]

namespace RouterKind

def valueToBytes (pb : Protobuf) : (k : RouterKind) → k.Batch → Bytes
  | parsedBatch => RabbitParsedBatchSender.valueToBytes pb
  | rawBatch => RabbitRawBatchSender.valueToBytes pb
  | eventBatch => EventBatchSender.valueToBytes pb
  | groupBatch => RabbitMessageGroupBatchSender.valueToBytes pb

theorem queueClass_eq (pb : Protobuf) (k : RouterKind) :
    (k.routerClass pb).queueClass = { senderClass := { valueToBytes := k.valueToBytes pb } } := by
  cases k <;> rfl

end RouterKind

namespace QueueEntry

def shipment (message : Bytes) (e : QueueEntry) : Shipment where
  queueAlias := e.1
  exchange := (e.2.map fun q => q.val.exchange).getD []
  routingKey := (e.2.map fun q => q.val.routingKey).getD []
  message := message

end QueueEntry

namespace AbstractRabbitMessageRouter
variable {β : Type} {c : RouterClass β} {valueToBytes : β → Bytes}

theorem exec_getMessageQueue
    (hc : c.queueClass = { senderClass := { valueToBytes := valueToBytes } })
    (cm : Obj ConnectionManager) {cfg : Obj MessageRouterConfiguration} {e : QueueEntry}
    (he : e ∈ cfg.val.queues.entries) (τ : Trace) :
    (getMessageQueue c ⟨some cm, some cfg⟩ e.1).exec τ =
      (.ok (.initialised { valueToBytes := valueToBytes } cm e.2, 0),
        τ ++ [.getMessageQueue e.1]) := by
  have hl : cfg.val.getQueueByAlias e.1 = .ok e.2 := by
    unfold MessageRouterConfiguration.getQueueByAlias
    rw [AList.mem_lookup_iff.mpr he]
  have hinit := AbstractRabbitQueue.exec_init (β := β) { valueToBytes := valueToBytes } cm e.2 0
  have hcm : ¬(some cm : SharedPtr ConnectionManager).isNone = true := Bool.false_ne_true
  unfold getMessageQueue createQueue
  rw [Prog.exec_bind_ok (exec_emit _ τ), throwIf,
    Prog.exec_bind_ok (Prog.exec_raiseIf_neg hcm _ _)]
  change (Prog.lift (cfg.val.getQueueByAlias e.1) >>= _).exec _ = _
  rw [hl, hc, Prog.exec_bind_ok (Prog.exec_lift (Except.ok e.2) _),
    Prog.exec_bind_ok (Prog.exec_onLocal_ok hinit _)]
  rfl

theorem exec_sendTo (hc : c.queueClass = { senderClass := { valueToBytes := valueToBytes } })
    (amqp : Amqp) {cm : Obj ConnectionManager} {cfg : Obj MessageRouterConfiguration}
    {e : QueueEntry} (he : e ∈ cfg.val.queues.entries) {q : Obj QueueConfiguration}
    (hq : e.2 = some q) (hw : q.val.isWritable = true) (b : β) (τ : Trace) :
    (sendTo c amqp ⟨some cm, some cfg⟩ ⟨e.1, b⟩).exec τ =
      (ship amqp cm.val (QueueEntry.shipment (valueToBytes b) e)).exec τ := by
  have hmq := exec_getMessageQueue hc cm he τ
  rw [hq] at hmq
  have hsend := AbstractRabbitQueue.exec_getSender { valueToBytes := valueToBytes } cm hw 0
  unfold sendTo ship QueueEntry.shipment
  rw [Prog.exec_bind_ok hmq, Prog.exec_bind_ok (Prog.exec_onLocal_ok hsend _),
    Prog.exec_bind_ok (exec_emit _ τ)]
  simp only [hq, Option.map_some, Option.getD_some]
  rfl

theorem sendMap_eq (hc : c.queueClass = { senderClass := { valueToBytes := valueToBytes } })
    (w : Surroundings) {cm : Obj ConnectionManager} {cfg : Obj MessageRouterConfiguration}
    (hw : ∀ e ∈ cfg.val.queues.entries, ∃ q, e.2 = some q ∧ q.val.isWritable = true) {b : β}
    {es : List QueueEntry} (hes : ∀ e ∈ es, e ∈ cfg.val.queues.entries)
    {m : AliasAndMessageToSend β} (hm : m.entries.Perm (es.map fun e => ⟨e.1, b⟩)) :
    ∃ fs : List QueueEntry, fs.Perm es ∧ sendMap c w ⟨some cm, some cfg⟩ m =
      Prog.forEach (fs.map (QueueEntry.shipment (valueToBytes b))) (ship w.amqp cm.val) := by
  have hp : (m.walk w.order .result).Perm (es.map fun e => ⟨e.1, b⟩) :=
    (AList.walk_perm m w.order .result).trans hm
  obtain ⟨fs, hwalk, hfs⟩ := exists_perm_of_perm_map hp
  refine ⟨fs, hfs, ?_⟩
  unfold sendMap
  rw [hwalk]
  have hmem : ∀ e ∈ fs, e ∈ cfg.val.queues.entries := fun e he => hes e (hfs.mem_iff.mp he)
  -- the order of the walk is any list of entries from here on
  clear hwalk hfs
  induction fs with
  | nil => rfl
  | cons e fs ih =>
    obtain ⟨q, hq, hqw⟩ := hw e (hmem e (by simp))
    have he : sendTo c w.amqp ⟨some cm, some cfg⟩ ⟨e.1, b⟩ =
        ship w.amqp cm.val (QueueEntry.shipment (valueToBytes b) e) := by
      funext τ
      exact exec_sendTo hc w.amqp (hmem e (by simp)) hq hqw b τ
    rw [List.map_cons, List.map_cons, Prog.forEach_cons, Prog.forEach_cons, he,
      ih fun f hf => hmem f (by simp [hf])]

end AbstractRabbitMessageRouter

end Th2
