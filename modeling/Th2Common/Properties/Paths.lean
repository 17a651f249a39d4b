import Th2Common.Message.Operation

/-! The three ways to send choose the same queues. -/

namespace Th2
open Text AbstractRabbitMessageRouter

theorem sendMap_single {β : Type} (c : RouterClass β) (w : Surroundings)
    (router : AbstractRabbitMessageRouter) {m : AliasAndMessageToSend β}
    {x : Sigma fun _ : Bytes => β} (h : m.entries = [x]) :
    sendMap c w router m = Prog.forEach [x] (router.sendTo c w.amqp) := by
  have hwalk : m.walk w.order .result = [x] := by
    apply List.perm_singleton.mp
    rw [← h]
    exact AList.walk_perm m w.order .result
  rw [sendMap, hwalk]

theorem Operation.allows_one (op : Operation) : op.allows 1 = true := by
  cases op <;> rfl

section
variable {pb : Protobuf} {k : RouterKind} {c : RouterClass k.Batch}
  (hfind : c.findByFilter = (k.routerClass pb).findByFilter) (cm : SharedPtr ConnectionManager)
  {cfg : Obj MessageRouterConfiguration} (hcfg : NonNull cfg.val.queues.entries) (b : k.Batch)
  (amqp : Amqp) (o o₁ o₂ : WalkOrder Walk)
include hfind hcfg

theorem exec_perform_single (op₁ op₂ : Operation) (hattrs : op₁.attributes c = op₂.attributes c)
    (hone : (selected k cfg.val.queues.entries b (op₂.attributes c)).length = 1) (τ : Trace) :
    (op₁.perform c ⟨amqp, o₁⟩ ⟨cm, some cfg⟩ b).exec τ =
      (op₂.perform c ⟨amqp, o₂⟩ ⟨cm, some cfg⟩ b).exec τ := by
  obtain ⟨e, he⟩ := List.length_eq_one_iff.mp hone
  have hrun (op : Operation) (o : WalkOrder Walk) (h : op.attributes c = op₂.attributes c) :
      (op.perform c ⟨amqp, o⟩ ⟨cm, some cfg⟩ b).exec τ =
        (Prog.forEach [⟨e.1, b⟩] (sendTo c amqp ⟨cm, some cfg⟩)).exec τ := by
    obtain ⟨m, hm, hrun⟩ := exec_perform hfind cm hcfg b ⟨amqp, o⟩ op
    rw [h, he] at hm
    have hm : m.entries = [⟨e.1, b⟩] := List.perm_singleton.mp hm
    rw [hrun, hm, List.length_singleton, if_pos op.allows_one, sendMap_single c _ _ hm]
  rw [hrun op₁ o₁ hattrs, hrun op₂ o₂ rfl]

theorem exec_perform_refused (op : Operation) {n : Nat}
    (hn : (selected k cfg.val.queues.entries b (op.attributes c)).length = n)
    (hnot : op.allows n = false) (τ : Trace) :
    (op.perform c ⟨amqp, o⟩ ⟨cm, some cfg⟩ b).exec τ = (.error (.thrown (op.refusal n)), τ) := by
  obtain ⟨m, hm, hrun⟩ := exec_perform hfind cm hcfg b ⟨amqp, o⟩ op
  have hlen : m.entries.length = n := by
    rw [hm.length_eq, List.length_map, hn]
  rw [hrun, hlen, if_neg (by rw [hnot]; exact Bool.false_ne_true)]

theorem length_of_findByAttrAndFilter {attrs : List Bytes} {m : AliasAndMessageToSend k.Batch}
    (h : findByAttrAndFilter c o ⟨cm, some cfg⟩ b attrs = .ok m) :
    m.entries.length = (selected k cfg.val.queues.entries b attrs).length := by
  obtain ⟨r, hr, hp⟩ := findByAttrAndFilter_spec hfind o cm hcfg b attrs
  rw [h] at hr
  injection hr with hr
  rw [hr, hp.length_eq, List.length_map]

end

/-- `send(batch)` does what `send(batch, A)` does when `A` is what the router
requires, be it nothing; and `sendAll` does what `send` does, or finds no queue, or several. -/
theorem send_paths_agree (pb : Protobuf) (k : RouterKind) (A : List Bytes)
    (router : AbstractRabbitMessageRouter)
    (hcfg : ∀ cfg, router.messageRouterConfiguration = some cfg → NonNull cfg.val.queues.entries)
    (amqp : Amqp) (o₁ o₂ : WalkOrder Walk) (b : k.Batch) (τ : Trace) :
    let c : RouterClass k.Batch := { k.routerClass pb with requiredSendAttributes := A }
    let run (op : Operation) (o : WalkOrder Walk) := (op.perform c ⟨amqp, o⟩ router b).exec τ
    ((run .send o₁).1.isOk = (run (.sendByAttributes A) o₂).1.isOk ∧
      (run .send o₁).2 = (run (.sendByAttributes A) o₂).2) ∧
    ∀ B m, findByAttrAndFilter c o₁ router b B = .ok m →
      (m.entries.length = 1 → run (.sendAll B) o₂ = run (.sendByAttributes B) o₁) ∧
      (m.entries.length ≠ 1 → (run (.sendAll B) o₂).2 = τ ∨
        ∃ m', findByAttrAndFilter c o₂ router b B = .ok m' ∧ 2 ≤ m'.entries.length) := by
  intro c run
  obtain ⟨cm, cfg⟩ := router
  rcases cfg with _ | cfg
  · refine ⟨⟨rfl, rfl⟩, fun B m hm => ?_⟩
    cases hm
  have hnn := hcfg cfg rfl
  have hfind : c.findByFilter = (k.routerClass pb).findByFilter := rfl
  constructor
  · by_cases hone : (selected k cfg.val.queues.entries b A).length = 1
    · have h := exec_perform_single hfind cm hnn b amqp o₁ o₂ .send (.sendByAttributes A) rfl hone τ
      change run _ _ = run _ _ at h
      rw [h]
      exact ⟨rfl, rfl⟩
    · have hnot : (selected k cfg.val.queues.entries b A).length ≠ 1 := hone
      have h₁ := exec_perform_refused hfind cm hnn b amqp o₁ .send rfl (beq_false_of_ne hnot) τ
      have h₂ := exec_perform_refused hfind cm hnn b amqp o₂ (.sendByAttributes A) rfl
        (beq_false_of_ne hnot) τ
      change run _ _ = _ at h₁ h₂
      rw [h₁, h₂]
      exact ⟨rfl, rfl⟩
  · intro B m hm
    have hlen := length_of_findByAttrAndFilter hfind cm hnn b o₁ hm
    constructor
    · intro hone
      exact exec_perform_single hfind cm hnn b amqp o₂ o₁ (.sendAll B) (.sendByAttributes B) rfl
        (hlen ▸ hone) τ
    · intro hne
      by_cases hzero : m.entries.length = 0
      · have h := exec_perform_refused hfind cm hnn b amqp o₂ (.sendAll B) rfl
          (by rw [Operation.attributes, ← hlen, hzero]; rfl) τ
        change run _ _ = _ at h
        rw [h]
        exact .inl rfl
      · obtain ⟨m', hm', hp⟩ := findByAttrAndFilter_spec hfind o₂ cm hnn b B
        have hlen' : m'.entries.length = m.entries.length := by
          rw [hp.length_eq, List.length_map, hlen]
        exact .inr ⟨m', hm', by omega⟩

theorem send_paths_agree_mq :
    let c : RouterClass RawMessageBatch := { RouterKind.routerClass .reference .rawBatch with
      requiredSendAttributes := [] }
    let run (op : Operation) (o : WalkOrder Walk) :=
      (op.perform c ⟨.accepting, o⟩ mqRouter (⟨[{}]⟩ : RawMessageBatch)).exec []
    ((run .send (.stored _)).1.isOk = (run (.sendByAttributes []) (.backward _)).1.isOk ∧
      (run .send (.stored _)).2 = (run (.sendByAttributes []) (.backward _)).2) ∧
    ∀ B m, findByAttrAndFilter c (.stored _) mqRouter (⟨[{}]⟩ : RawMessageBatch) B = .ok m →
      (m.entries.length = 1 → run (.sendAll B) (.backward _) = run (.sendByAttributes B) (.stored _)) ∧
      (m.entries.length ≠ 1 → (run (.sendAll B) (.backward _)).2 = [] ∨
        ∃ m', findByAttrAndFilter c (.backward _) mqRouter (⟨[{}]⟩ : RawMessageBatch) B = .ok m' ∧
          2 ≤ m'.entries.length) :=
  send_paths_agree .reference .rawBatch [] mqRouter
    (fun _ h => Option.some.inj h ▸ mqConfiguration_decoded.nonNull) .accepting (.stored _)
    (.backward _) ⟨[{}]⟩ []

end Th2
