import Th2Common.Message.Deliveries

/-! Runs of `send(batch, queue_attributes)` on the four routers. -/

namespace Th2
open RouterKind

structure Call where
  kind : RouterKind
  batch : kind.Batch
  queueAttributes : List Bytes
  order : WalkOrder Walk

namespace Call

def perform (pb : Protobuf) (amqp : Amqp) (routers : RouterKind → AbstractRabbitMessageRouter)
    (c : Call) : Prog Trace Fault Unit :=
  (routers c.kind).sendByAttributes (c.kind.routerClass pb) ⟨amqp, c.order⟩ c.batch c.queueAttributes

def effect (pb : Protobuf) (j : Json) (c : Call) : List (Bytes × Bytes × Bytes) :=
  match matching j c.queueAttributes with
  | [r] =>
    if c.kind.Sendable c.batch then [(r.exchange, r.name, c.kind.valueToBytes pb c.batch)] else []
  | _ => []

theorem effect_of_addressed (pb : Protobuf) (j : Json) (c : Call) {r : Route}
    (h : addressed c.kind j c.batch c.queueAttributes = [r]) :
    c.effect pb j = [(r.exchange, r.name, c.kind.valueToBytes pb c.batch)] := by
  unfold addressed at h
  split at h
  · next hs => rw [effect, h]; exact if_pos hs
  · cases h

theorem effect_of_length_ne (pb : Protobuf) (j : Json) (c : Call)
    (h : (addressed c.kind j c.batch c.queueAttributes).length ≠ 1) : c.effect pb j = [] := by
  unfold addressed at h
  unfold effect
  split
  · next r hr =>
    rw [hr] at h
    split
    · next hs =>
      rw [if_pos hs] at h
      exact absurd rfl h
    · rfl
  · rfl

variable (pb : Protobuf) {doc : Document} {amqp : Amqp}
  (routers : RouterKind → AbstractRabbitMessageRouter)

theorem exec_perform (haccept : ∀ n, 0 ≤ amqp.basicPublish n) (c : Call)
    {cm : Obj ConnectionManager} {cfg : Obj MessageRouterConfiguration}
    (hrouter : routers c.kind = ⟨some cm, some cfg⟩) (hcfg : cfg.val.DecodedFrom doc) (τ : Trace) :
    ∃ out υ, (c.perform pb amqp routers).exec τ = (out, τ ++ υ) ∧ isFatal out = false ∧
      basicPublishes υ = c.effect pb doc.root ∧
      (out.isOk = true ↔ c.effect pb doc.root ≠ []) := by
  have hperform : c.perform pb amqp routers = (Operation.sendByAttributes c.queueAttributes).perform
      (c.kind.routerClass pb) ⟨amqp, c.order⟩ ⟨some cm, some cfg⟩ c.batch := by
    rw [perform, hrouter]
    rfl
  obtain ⟨out, υ, hrun, hgo, hpub, hdone⟩ := perform_accepted pb cm hcfg ⟨amqp, c.order⟩
    (.sendByAttributes c.queueAttributes) c.batch τ haccept
  refine ⟨out, υ, hperform ▸ hrun, hgo, ?_⟩
  by_cases hone : (addressed c.kind doc.root c.batch c.queueAttributes).length = 1
  · obtain ⟨r, hr⟩ := List.length_eq_one_iff.mp hone
    simp only [Operation.attributes, hr] at hdone
    obtain ⟨hout, hdel⟩ := hdone
    rw [effect_of_addressed pb doc.root c hr, hpub, hout, List.perm_singleton.mp hdel]
    exact ⟨rfl, fun _ => List.cons_ne_nil _ _, fun _ => rfl⟩
  · have hallows : ¬(Operation.sendByAttributes c.queueAttributes).allows
        (addressed c.kind doc.root c.batch c.queueAttributes).length = true := by
      simpa [Operation.allows] using hone
    rw [effect_of_length_ne pb doc.root c hone]
    obtain ⟨hout, hυ⟩ := (if_neg hallows).mp hdone
    rw [hυ, hout]
    exact ⟨rfl, fun h => absurd h Bool.false_ne_true, fun h => absurd rfl h⟩

end Call

/-- A run of sends publishes what its calls are to publish, in their order; the
calls that throw are those that have nothing to publish. -/
theorem basicPublishes_of_sends (pb : Protobuf) (doc : Document) (cfg : Obj MessageRouterConfiguration)
    (hcfg : cfg.val.DecodedFrom doc) (cm : RouterKind → Obj ConnectionManager) (amqp : Amqp)
    (haccept : ∀ n, 0 ≤ amqp.basicPublish n) (calls : List Call) (τ : Trace) :
    let run := Prog.attempts isFatal
      (calls.map (Call.perform pb amqp fun k => ⟨some (cm k), some cfg⟩)) τ
    basicPublishes run.2 = basicPublishes τ ++ calls.flatMap (Call.effect pb doc.root) ∧
      run.1.map Except.isOk = calls.map fun c => decide (c.effect pb doc.root ≠ []) := by
  induction calls generalizing τ with
  | nil => exact ⟨(List.append_nil _).symm, rfl⟩
  | cons c calls ih =>
    obtain ⟨out, υ, hrun, hgo, hpub, hok⟩ := Call.exec_perform pb
      (fun k => ⟨some (cm k), some cfg⟩) haccept c rfl hcfg τ
    obtain ⟨hpubs, hoks⟩ := ih (τ ++ υ)
    have hisOk : out.isOk = decide (c.effect pb doc.root ≠ []) := by
      rw [Bool.eq_iff_iff, hok, decide_eq_true_iff]
    simp only [List.map_cons, List.flatMap_cons, Prog.attempts_cons hrun hgo]
    constructor
    · rw [hpubs, basicPublishes_append, hpub, List.append_assoc]
    · rw [hoks, hisOk]

def mqCalls : List Call :=
  [⟨.rawBatch, (⟨[{}]⟩ : RawMessageBatch), [Text.utf8 "raw", Text.utf8 "publish"], .backward _⟩,
    ⟨.groupBatch, (⟨[{}]⟩ : MessageGroupBatch), [Text.utf8 "raw"], .stored _⟩]

theorem basicPublishes_of_sends_mq :
    let run := Prog.attempts isFatal (mqCalls.map (Call.perform .reference .accepting fun _ =>
      ⟨some ⟨0, { rmqConfiguration := none }⟩, some ⟨0, mqConfiguration⟩⟩)) []
    basicPublishes run.2 = basicPublishes [] ++ mqCalls.flatMap (Call.effect .reference mqDocument.root) ∧
      run.1.map Except.isOk =
        mqCalls.map fun c => decide (c.effect .reference mqDocument.root ≠ []) :=
  basicPublishes_of_sends .reference mqDocument ⟨0, mqConfiguration⟩ mqConfiguration_decoded
    (fun _ => ⟨0, { rmqConfiguration := none }⟩) .accepting (fun _ => Int.le_refl 0) mqCalls []

end Th2
