import Th2Common.Message.Routes
import Th2Common.Message.Shipping

/-! The three ways to send, brought to one form: some queues are selected, their
number is tested, and the loop ships to them. -/

namespace Th2
open Text AbstractRabbitMessageRouter

/-- `send(batch)`, `send(batch, queue_attributes)` or `sendAll(batch, queue_attributes)`. -/
inductive Operation
  | send
  | sendByAttributes (queueAttributes : List Bytes)
  | sendAll (queueAttributes : List Bytes)

def notInitialised : Exn := .runtimeError "Router is not initialized"

namespace Operation

def attributes {β : Type} (c : RouterClass β) : Operation → List Bytes
  | send => c.requiredSendAttributes
  | sendByAttributes queueAttributes => queueAttributes
  | sendAll queueAttributes => queueAttributes

def allows : Operation → Nat → Bool
  | sendAll _, n => n != 0
  | _, n => n == 1

def refusal : Operation → Nat → Exn
  | send, n => .runtimeError
    (utf8 "Wrong count of queues for send. Should be equal to 1. Find queues = " ++ decimal n)
  | sendByAttributes _, _ => .runtimeError "Wrong size of queues for send. Should be equal to 1"
  | sendAll _, _ => .runtimeError "Wrong size of queues for send. Can't be equal to 0"

def perform {β : Type} (c : RouterClass β) (w : Surroundings) (router : AbstractRabbitMessageRouter)
    (op : Operation) (b : β) : Prog Trace Fault Unit :=
  match op with
  | send => router.send c w b
  | sendByAttributes queueAttributes => router.sendByAttributes c w b queueAttributes
  | sendAll queueAttributes => router.sendAll c w b queueAttributes

end Operation

def selected (k : RouterKind) (es : List QueueEntry) (b : k.Batch) (attrs : List Bytes) :
    List QueueEntry :=
  if k.Sendable b then es.filter fun e => k.admits e && QueueEntry.carries attrs e else []

theorem exec_tested {α : Type} {found : Except Fault α} {m : α} (hfound : found = .ok m)
    {bad : α → Prop} [∀ m, Decidable (bad m)] {error : α → Fault}
    {loop : α → Prog Trace Fault Unit} {allowed : Bool} (hallowed : allowed = true ↔ ¬bad m)
    (τ : Trace) :
    (Prog.lift found >>= fun m => Prog.raiseIf (bad m) (error m) >>= fun _ => loop m).exec τ =
      if allowed then (loop m).exec τ else (.error (error m), τ) := by
  have hlift : (Prog.lift found).exec τ = (.ok m, τ) := by rw [Prog.exec_lift, hfound]
  rw [Prog.exec_bind_ok hlift]
  by_cases hbad : bad m
  · rw [Prog.exec_bind_error (Prog.exec_raiseIf_pos hbad _ _), if_neg fun h => hallowed.mp h hbad]
  · rw [Prog.exec_bind_ok (Prog.exec_raiseIf_neg hbad _ _), if_pos (hallowed.mpr hbad)]

section
variable {pb : Protobuf} {k : RouterKind} {c : RouterClass k.Batch}
  (hfind : c.findByFilter = (k.routerClass pb).findByFilter) (o : WalkOrder Walk)
  (cm : SharedPtr ConnectionManager) {cfg : Obj MessageRouterConfiguration}
  (hcfg : NonNull cfg.val.queues.entries) (b : k.Batch)
include hfind hcfg

theorem findByFilter_carrying (attrs : List Bytes) {m : QueuesMap}
    (hm : m.entries.Perm (cfg.val.queues.entries.filter (QueueEntry.carries attrs))) :
    ∃ r, c.findByFilter o m b = .ok r ∧ r.entries.Perm
      ((selected k cfg.val.queues.entries b attrs).map fun e => ⟨e.1, b⟩) := by
  have hnn : NonNull m.entries := (hcfg.filter _).perm hm
  obtain ⟨r, hr, hp⟩ := RouterKind.findByFilter_spec pb k o hnn b
  refine ⟨r, by rw [hfind, hr], hp.trans ?_⟩
  unfold selected
  split
  · rw [← List.filter_filter]
    exact (hm.filter _).map _
  · rfl

theorem findByAttrAndFilter_spec (attrs : List Bytes) :
    ∃ r, findByAttrAndFilter c o ⟨cm, some cfg⟩ b attrs = .ok r ∧ r.entries.Perm
      ((selected k cfg.val.queues.entries b attrs).map fun e => ⟨e.1, b⟩) := by
  obtain ⟨m, hm, hp⟩ := MessageRouterConfiguration.findQueuesByAttr_spec o hcfg attrs
  obtain ⟨r, hr, hrp⟩ := findByFilter_carrying hfind o hcfg b attrs hp
  refine ⟨r, ?_, hrp⟩
  unfold findByAttrAndFilter
  simp only [getConfiguration, hm, bind, Except.bind]
  exact hr

theorem findRequired_spec :
    ∃ r, findRequired c o ⟨cm, some cfg⟩ b = .ok r ∧ r.entries.Perm
      ((selected k cfg.val.queues.entries b c.requiredSendAttributes).map fun e => ⟨e.1, b⟩) := by
  obtain ⟨m, hm, hp⟩ : ∃ m, requiredQueues c o cfg.val = .ok m ∧ m.entries.Perm
      (cfg.val.queues.entries.filter (QueueEntry.carries c.requiredSendAttributes)) := by
    unfold requiredQueues
    split
    · exact MessageRouterConfiguration.findQueuesByAttr_spec o hcfg _
    · next h =>
      -- without attributes the search finds all queues
      rw [not_not] at h
      rw [h, QueueEntry.carries_nil hcfg]
      exact ⟨_, rfl, List.Perm.refl _⟩
  obtain ⟨r, hr, hrp⟩ := findByFilter_carrying hfind o hcfg b c.requiredSendAttributes hp
  refine ⟨r, ?_, hrp⟩
  unfold findRequired
  simp only [getConfiguration, bind, Except.bind, hm]
  exact hr

theorem exec_perform (w : Surroundings) (op : Operation) :
    ∃ m : AliasAndMessageToSend k.Batch,
      m.entries.Perm ((selected k cfg.val.queues.entries b (op.attributes c)).map fun e => ⟨e.1, b⟩) ∧
      ∀ τ, (op.perform c w ⟨cm, some cfg⟩ b).exec τ =
        if op.allows m.entries.length then (sendMap c w ⟨cm, some cfg⟩ m).exec τ
        else (.error (.thrown (op.refusal m.entries.length)), τ) := by
  cases op with
  | send =>
    obtain ⟨m, hm, hp⟩ := findRequired_spec hfind w.order cm hcfg b
    exact ⟨m, hp, exec_tested hm (by simp [Operation.allows])⟩
  | sendByAttributes attrs =>
    obtain ⟨m, hm, hp⟩ := findByAttrAndFilter_spec hfind w.order cm hcfg b attrs
    exact ⟨m, hp, exec_tested hm (by simp [Operation.allows])⟩
  | sendAll attrs =>
    obtain ⟨m, hm, hp⟩ := findByAttrAndFilter_spec hfind w.order cm hcfg b attrs
    exact ⟨m, hp, exec_tested hm (by simp [Operation.allows])⟩

end

theorem perform_ships (pb : Protobuf) {k : RouterKind} {c : RouterClass k.Batch}
    (cm : Obj ConnectionManager) (hfind : c.findByFilter = (k.routerClass pb).findByFilter)
    (hqueue : c.queueClass = (k.routerClass pb).queueClass)
    {cfg : Obj MessageRouterConfiguration}
    (hcfg : ∀ e ∈ cfg.val.queues.entries, ∃ q, e.2 = some q ∧ q.val.isWritable = true)
    (w : Surroundings) (op : Operation) (b : k.Batch) :
    ∃ es : List QueueEntry, es.Perm (selected k cfg.val.queues.entries b (op.attributes c)) ∧
      ∀ τ, (op.perform c w ⟨some cm, some cfg⟩ b).exec τ =
        if op.allows es.length then
          (Prog.forEach (es.map (QueueEntry.shipment (k.valueToBytes pb b)))
            (ship w.amqp cm.val)).exec τ
        else (.error (.thrown (op.refusal es.length)), τ) := by
  have hnn : NonNull cfg.val.queues.entries := fun e he =>
    (hcfg e he).imp fun _ h => h.1
  obtain ⟨m, hm, hrun⟩ := exec_perform hfind (some cm) hnn b w op
  have hsub : ∀ e ∈ selected k cfg.val.queues.entries b (op.attributes c),
      e ∈ cfg.val.queues.entries := by
    intro e he
    unfold selected at he
    split at he
    · exact List.mem_of_mem_filter he
    · cases he
  obtain ⟨es, hes, hsend⟩ := sendMap_eq (hqueue.trans (k.queueClass_eq pb)) w hcfg hsub hm
  have hlen : m.entries.length = es.length := by
    rw [hm.length_eq, List.length_map, hes.length_eq]
  refine ⟨es, hes, fun τ => ?_⟩
  rw [hrun, hsend, hlen]

theorem perform_unconfigured {β : Type} (c : RouterClass β) (w : Surroundings)
    (cm : SharedPtr ConnectionManager) (op : Operation) (b : β) (τ : Trace) :
    (op.perform c w ⟨cm, none⟩ b).exec τ = (.error (.thrown notInitialised), τ) := by
  cases op <;> rfl

theorem perform_unconnected (pb : Protobuf) {k : RouterKind} {c : RouterClass k.Batch}
    (hfind : c.findByFilter = (k.routerClass pb).findByFilter) {cfg : Obj MessageRouterConfiguration}
    (hcfg : NonNull cfg.val.queues.entries) (w : Surroundings) (op : Operation) (b : k.Batch)
    (τ : Trace) :
    ∃ e υ, (op.perform c w ⟨none, some cfg⟩ b).exec τ = (.error (.thrown e), τ ++ υ) ∧
      (υ = [] ∨ ∃ a, υ = [.getMessageQueue a]) := by
  obtain ⟨m, hm, hrun⟩ := exec_perform hfind none hcfg b w op
  rw [hrun]
  by_cases hallows : op.allows m.entries.length = true
  · rw [if_pos hallows, sendMap]
    have hlen : (m.walk w.order .result).length = m.entries.length :=
      (AList.walk_perm m w.order .result).length_eq
    rcases hwalk : m.walk w.order .result with _ | ⟨e, es⟩
    · rw [← hlen, hwalk] at hallows
      cases op <;> cases hallows
    · exact ⟨_, _, rfl, .inr ⟨e.1, rfl⟩⟩
  · rw [if_neg hallows]
    exact ⟨_, [], by rw [List.append_nil], .inl rfl⟩

def Route.shipment (message : Bytes) (r : Route) : Shipment where
  queueAlias := r.queueAlias
  exchange := r.exchange
  routingKey := r.name
  message := message

def addressed (k : RouterKind) (j : Json) (b : k.Batch) (attrs : List Bytes) : List Route :=
  if k.Sendable b then matching j attrs else []

theorem selected_shipments {cfg : MessageRouterConfiguration} {doc : Document}
    (hcfg : cfg.DecodedFrom doc) (k : RouterKind) (b : k.Batch) (attrs : List Bytes)
    (message : Bytes) :
    ((selected k cfg.queues.entries b attrs).map (QueueEntry.shipment message)).Perm
      ((addressed k doc.root b attrs).map (Route.shipment message)) := by
  obtain ⟨rs, hview, hrs⟩ := hcfg.aligned
  -- entries and routes are compared by their views, which have no addresses
  let passes (v : View) : Bool := (k == .eventBatch || v.2.any fun q => q.filters.isEmpty) &&
    v.2.any fun q => q.containsAllAttributes attrs
  let round (v : View) : Shipment := ⟨v.1, (v.2.map fun q => q.exchange).getD [],
    (v.2.map fun q => q.routingKey).getD [], message⟩
  have hentry : (fun e => k.admits e && QueueEntry.carries attrs e) = passes ∘ View.ofEntry := by
    funext e
    rcases e with ⟨a, _ | q⟩ <;> rfl
  have hround : QueueEntry.shipment message = round ∘ View.ofEntry := by
    funext e
    rcases e with ⟨a, _ | q⟩ <;> rfl
  have hroute : passes ∘ View.ofRoute = Route.carries attrs := by
    funext r
    have hc : r.configuration.containsAllAttributes attrs = r.carries attrs := by
      rw [Bool.eq_iff_iff, QueueConfiguration.containsAllAttributes_iff, Route.carries,
        decide_eq_true_iff]
      rfl
    have hf : (k == .eventBatch || true) = true := Bool.or_true _
    exact (congrArg₂ (· && ·) hf hc).trans (Bool.true_and _)
  unfold selected addressed matching
  split
  · rw [hentry, hround, ← List.map_map, ← List.filter_map, hview, List.filter_map, hroute,
      List.map_map]
    exact (hrs.filter _).map _
  · rfl

theorem perform_routes (pb : Protobuf) {k : RouterKind} {doc : Document} (cm : Obj ConnectionManager)
    {cfg : Obj MessageRouterConfiguration} (hcfg : cfg.val.DecodedFrom doc) (w : Surroundings)
    (op : Operation) (b : k.Batch) :
    ∃ rs : List Route, rs.Perm (addressed k doc.root b (op.attributes (k.routerClass pb))) ∧
      ∀ τ, (op.perform (k.routerClass pb) w ⟨some cm, some cfg⟩ b).exec τ =
        if op.allows rs.length then
          (Prog.forEach (rs.map (Route.shipment (k.valueToBytes pb b))) (ship w.amqp cm.val)).exec τ
        else (.error (.thrown (op.refusal rs.length)), τ) := by
  obtain ⟨es, hes, hrun⟩ := perform_ships pb cm rfl rfl hcfg.writable w op b
  obtain ⟨rs, hmap, hrs⟩ := exists_perm_of_perm_map
    ((hes.map _).trans (selected_shipments hcfg k b _ (k.valueToBytes pb b)))
  have hlen : es.length = rs.length := by
    have := congrArg List.length hmap
    rwa [List.length_map, List.length_map] at this
  refine ⟨rs, hrs, fun τ => ?_⟩
  rw [hrun, hmap, hlen]

theorem perform_shipped (pb : Protobuf) {k : RouterKind} {doc : Document}
    (cm : Obj ConnectionManager) {cfg : Obj MessageRouterConfiguration}
    (hcfg : cfg.val.DecodedFrom doc) (w : Surroundings) (op : Operation) (b : k.Batch) (τ : Trace) :
    ∃ rs : List Route, rs.Perm (addressed k doc.root b (op.attributes (k.routerClass pb))) ∧
      ((op.allows rs.length = true ∧
          ∃ out υ, (op.perform (k.routerClass pb) w ⟨some cm, some cfg⟩ b).exec τ = (out, τ ++ υ) ∧
            Shipped w.amqp cm.val (rs.map (Route.shipment (k.valueToBytes pb b))) out υ) ∨
        (op.allows rs.length = false ∧
          (op.perform (k.routerClass pb) w ⟨some cm, some cfg⟩ b).exec τ =
            (.error (.thrown (op.refusal rs.length)), τ))) := by
  obtain ⟨rs, hrs, hrun⟩ := perform_routes pb cm hcfg w op b
  refine ⟨rs, hrs, ?_⟩
  rw [hrun]
  rcases hallows : op.allows rs.length
  · exact .inr ⟨rfl, if_neg Bool.false_ne_true⟩
  · obtain ⟨out, υ, hloop, hshipped⟩ := shipped_forEach w.amqp cm.val
      (rs.map (Route.shipment (k.valueToBytes pb b))) τ
    exact .inl ⟨rfl, out, υ, (if_pos rfl).trans hloop, hshipped⟩

theorem shipped_of_perform (pb : Protobuf) {k : RouterKind} {doc : Document}
    (cm : Obj ConnectionManager) {cfg : Obj MessageRouterConfiguration}
    (hcfg : cfg.val.DecodedFrom doc) (w : Surroundings) (op : Operation) (b : k.Batch) (τ : Trace)
    {out : Except Fault Unit} {υ : Trace}
    (hrun : (op.perform (k.routerClass pb) w ⟨some cm, some cfg⟩ b).exec τ = (out, τ ++ υ)) :
    υ = [] ∨
      ∃ rs : List Route, rs.Perm (addressed k doc.root b (op.attributes (k.routerClass pb))) ∧
        op.allows rs.length = true ∧
        Shipped w.amqp cm.val (rs.map (Route.shipment (k.valueToBytes pb b))) out υ := by
  obtain ⟨rs, hrs, ⟨hallows, out', υ', hloop, hshipped⟩ | ⟨-, hrefused⟩⟩ :=
    perform_shipped pb cm hcfg w op b τ
  · rw [hloop] at hrun
    injection hrun with hout hυ
    rw [hout, List.append_cancel_left hυ] at hshipped
    exact .inr ⟨rs, hrs, hallows, hshipped⟩
  · rw [hrefused] at hrun
    injection hrun with _ hυ
    exact .inl (List.append_right_eq_self.mp hυ.symm)

end Th2
