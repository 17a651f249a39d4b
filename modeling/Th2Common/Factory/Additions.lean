import Th2Common.Factory.Effects
import Th2Common.Properties.Destinations

/-! What each call adds to the trace of a run: no publish and no report of one, or the
rounds of one loop over the queues that its batch is addressed to. -/

namespace Th2
open Text

def reports (τ : Trace) : List Bytes :=
  τ.filterMap fun e => match e with
    | .log .debug text => if reportPrefix.isPrefixOf text then some text else none
    | _ => none

@[simp] theorem reports_append (τ υ : Trace) : reports (τ ++ υ) = reports τ ++ reports υ :=
  List.filterMap_append

def Uneventful (υ : Trace) : Prop := amqpPublishes υ = [] ∧ reports υ = []

namespace Uneventful
variable {υ ω : Trace}

theorem append (hυ : Uneventful υ) (hω : Uneventful ω) : Uneventful (υ ++ ω) := by
  refine ⟨?_, ?_⟩
  · rw [amqpPublishes_append, hυ.1, hω.1, List.append_nil]
  · rw [reports_append, hυ.2, hω.2, List.append_nil]

theorem nil : Uneventful [] := ⟨rfl, rfl⟩

end Uneventful

theorem Chatter.uneventful {υ : Trace} (h : Chatter υ) : Uneventful υ := by
  refine ⟨h.output.quiet.1, List.filterMap_eq_nil_iff.mpr fun e he => ?_⟩
  have hchatter := h e he
  cases e with
  | log level text =>
    cases level with
    | debug =>
      have hprefix : reportPrefix.isPrefixOf text = false := by
        simpa only [Observation.isChatter, bne_self_eq_false, Bool.false_or,
          Bool.not_eq_true'] using hchatter
      exact if_neg (Bool.eq_false_iff.mp hprefix)
    | _ => rfl
  | _ => rfl

theorem Handshake.uneventful {cfg : RabbitMQConfiguration} {a : Answers} {out : Except Fault Unit}
    {υ : Trace} (h : Handshake cfg a out υ) : Uneventful υ := by
  have hopening : reports (a.opening cfg) = [] := by
    unfold Answers.opening
    cases a.socket <;> split <;> rfl
  refine ⟨h.amqpPublishes, ?_⟩
  cases h <;> simp only [reports_append, hopening] <;> rfl

theorem Dial.uneventful {d : Deployment} {rmqCfg : Option RabbitMQConfiguration}
    {cm cm' : SharedPtr ConnectionManager} {υ : Trace} (h : Dial d rmqCfg cm cm' υ) :
    Uneventful υ := by
  cases h with
  | stored cm => exact .nil
  | unconfigured hrmq hυ => exact hυ.uneventful
  | failed n hrmq hbefore hshake => exact hbefore.uneventful.append hshake.uneventful
  | connected n hrmq hbefore hshake hafter hconn hchannel =>
    exact (hbefore.uneventful.append hshake.uneventful).append hafter.uneventful

theorem Move.uneventful {d : Deployment} {s t : Process} (h : Move d s t) :
    ∃ υ, t.trace = s.trace ++ υ ∧ Uneventful υ := by
  cases h with
  | said free hυ => exact ⟨_, rfl, hυ.uneventful⟩
  | loadedRmq rmq hnone hread => exact ⟨[], (List.append_nil _).symm, .nil⟩
  | loadedRouter cfg hnone hread hdoc => exact ⟨[], (List.append_nil _).symm, .nil⟩
  | made k free hnone hdial => exact ⟨_, rfl, hdial.uneventful⟩
  | returned k hsome => exact ⟨_, rfl, rfl, rfl⟩

theorem Reaches.uneventful {d : Deployment} {s t : Process} (h : Reaches d s t) :
    ∃ υ, t.trace = s.trace ++ υ ∧ Uneventful υ := by
  induction h with
  | refl => exact ⟨[], (List.append_nil _).symm, .nil⟩
  | tail _ hmove ih =>
    obtain ⟨υ, hυ, huneventful⟩ := ih
    obtain ⟨ω, hω, hrest⟩ := hmove.uneventful
    exact ⟨υ ++ ω, by rw [hω, hυ, List.append_assoc], huneventful.append hrest⟩

inductive Adds (d : Deployment) (doc : Document) :
    FactoryCall → Except Fault Unit → Trace → Prop
  | nothing {call : FactoryCall} {out : Except Fault Unit} {υ : Trace} (h : Uneventful υ)
      (hreturned : out = .ok () → ∀ k number order op b, call ≠ .send k number order op b) :
    Adds d doc call out υ
  | rounds {k : RouterKind} {number : Nat} {order : WalkOrder Walk} {op : Operation} {b : k.Batch}
      {cm : ConnectionManager} {l : List Shipment} {out : Except Fault Unit} {υ : Trace}
      (hl : l.Perm ((addressed k doc.root b (op.attributes (k.routerClass d.protobuf))).map
        (Route.shipment (k.valueToBytes d.protobuf b))))
      (hallows : op.allows l.length = true) (h : Shipped d.amqp cm l out υ) :
    Adds d doc (.send k number order op b) out υ

theorem shipments_perm {cfg : MessageRouterConfiguration} {doc doc' : Document}
    (h : cfg.DecodedFrom doc) (h' : cfg.DecodedFrom doc') (k : RouterKind) (b : k.Batch)
    (attrs : List Bytes) (message : Bytes) :
    ((addressed k doc.root b attrs).map (Route.shipment message)).Perm
      ((addressed k doc'.root b attrs).map (Route.shipment message)) :=
  (selected_shipments h k b attrs message).symm.trans (selected_shipments h' k b attrs message)

theorem Sending.adds {d : Deployment} {doc : Document} {k : RouterKind}
    {router : AbstractRabbitMessageRouter} {op : Operation} {b : k.Batch} {out : Except Fault Unit}
    {υ : Trace} (h : Sending d k router op b out υ)
    (hdoc : ∀ cfg, router.messageRouterConfiguration = some cfg → cfg.val.DecodedFrom doc)
    (number : Nat) (order : WalkOrder Walk) : Adds d doc (.send k number order op b) out υ := by
  cases h with
  | nowhere => exact .nothing .nil nofun
  | misdirected queueAlias => exact .nothing ⟨rfl, rfl⟩ nofun
  | refused => exact .nothing .nil nofun
  | @shipped cm cfg doc' rs _ _ hcm hcfg hdoc' hroutes hallows hshipped =>
    refine .rounds ?_ ?_ hshipped
    · exact (hroutes.map _).trans (shipments_perm hdoc' (hdoc cfg hcfg) k b _ _)
    · rwa [List.length_map]

theorem FactoryCall.Effect.adds {d : Deployment} {doc : Document} {call : FactoryCall}
    {s t : Process} {out : Except Fault Unit} (h : call.Effect d s out t) (hs : Shared s)
    (hdoc : ∀ cfg, s.factory.messageRouterCfg = some cfg → cfg.val.DecodedFrom doc) :
    ∃ υ, t.trace = s.trace ++ υ ∧ Adds d doc call out υ := by
  cases call with
  | init order =>
    obtain ⟨υ, hυ, huneventful⟩ := Reaches.uneventful h
    exact ⟨υ, hυ, .nothing huneventful fun _ => nofun⟩
  | initWith routers =>
    rcases h with h | ⟨u, hu, ht⟩
    · obtain ⟨υ, hυ, huneventful⟩ := Reaches.uneventful h
      exact ⟨υ, hυ, .nothing huneventful fun _ => nofun⟩
    · obtain ⟨υ, hυ, hfirst⟩ := hu.uneventful
      obtain ⟨ω, hω, hsecond⟩ := ht.uneventful
      refine ⟨υ ++ ω, ?_, .nothing (hfirst.append hsecond) fun _ => nofun⟩
      rw [hω, ← List.append_assoc, ← hυ]
      rfl
  | getter k =>
    obtain ⟨υ, hυ, huneventful⟩ := Reaches.uneventful h
    exact ⟨υ, hυ, .nothing huneventful fun _ => nofun⟩
  | send k number order op b =>
    obtain ⟨router, hrouter, υ, hsending, rfl⟩ | ⟨-, rfl, rfl⟩ := h
    · refine ⟨υ, rfl, hsending.adds (fun cfg hcfg => ?_) number order⟩
      have hshared := hs.configuration k router (List.mem_of_getElem? hrouter)
      rw [hcfg] at hshared
      exact hdoc cfg (hshared.resolve_left nofun).symm
    · exact ⟨[], (List.append_nil _).symm, .nothing .nil nofun⟩

theorem Process.run_adds (d : Deployment) (calls : List FactoryCall) :
    ∃ doc : Document,
      (∀ cfg, (({} : Process).run d calls).factory.messageRouterCfg = some cfg →
        cfg.val.DecodedFrom doc) ∧
      Run (fun (call : FactoryCall) (s : Process) out t =>
          ∃ υ, t.trace = s.trace ++ υ ∧ Adds d doc call out υ)
        calls {} (({} : Process).outcomes d calls) (({} : Process).run d calls) := by
  obtain ⟨doc, hdoc, hrun⟩ := Process.run_document d calls
  refine ⟨doc, hdoc, ?_⟩
  exact hrun.refine (I := fun _ => True) (fun _ _ _ _ _ _ => trivial)
    (fun call s out t _ ⟨h, hs, hcfg⟩ => h.adds hs hcfg) trivial

theorem Sending.amqpPublishes_of_unconfigured {d : Deployment} {k : RouterKind}
    {router : AbstractRabbitMessageRouter} {op : Operation} {b : k.Batch} {out : Except Fault Unit}
    {υ : Trace} (h : Sending d k router op b out υ)
    (hnone : router.messageRouterConfiguration = none) : amqpPublishes υ = [] := by
  cases h with
  | nowhere => rfl
  | misdirected queueAlias => rfl
  | refused => rfl
  | shipped hcm hcfg =>
    rw [hnone] at hcfg
    cases hcfg

def Unsent (s : Process) : Prop :=
  s.factory.messageRouterCfg = none → amqpPublishes s.trace = []

theorem unsent_invariant (d : Deployment) (calls : List FactoryCall) :
    Invariant d calls fun s => Shared s ∧ Unsent s where
  initial := ⟨(shared_invariant d calls).initial, fun _ => rfl⟩
  move {s t} h hmove := by
    refine ⟨h.1.move hmove, fun hnone => ?_⟩
    have hbefore : s.factory.messageRouterCfg = none := by
      rcases hcfg : s.factory.messageRouterCfg with _ | cfg
      · rfl
      · rw [(Grown.ofMove hmove).messageRouterCfg cfg hcfg] at hnone
        cases hnone
    obtain ⟨υ, hυ, huneventful⟩ := hmove.uneventful
    rw [hυ, amqpPublishes_append, h.2 hbefore, huneventful.1, List.append_nil]
  replaced routers hcall h := ⟨(shared_invariant d calls).replaced routers hcall h.1, h.2⟩
  sent {s k _ _ _ _ router _ _} hcall h hrouter hsending := by
    refine ⟨(shared_invariant d calls).sent hcall h.1 hrouter hsending, fun hnone => ?_⟩
    have hshared := h.1.configuration k router (List.mem_of_getElem? hrouter)
    rw [show s.factory.messageRouterCfg = none from hnone, or_self] at hshared
    rw [amqpPublishes_append, h.2 hnone, hsending.amqpPublishes_of_unconfigured hshared,
      List.append_nil]

theorem Process.unsent_run (d : Deployment) (calls : List FactoryCall) :
    Unsent (({} : Process).run d calls) := (unsent_invariant d calls).run.2

def roundFrom (s : Shipment) : Trace → Shipment
  | [] => s
  | .getMessageQueue queueAlias :: τ => roundFrom { s with queueAlias := queueAlias } τ
  | .basicPublish exchange routingKey message :: τ =>
    roundFrom ⟨s.queueAlias, exchange, routingKey, message⟩ τ
  | _ :: τ => roundFrom s τ

theorem deliveriesFrom_append (s : Shipment) (τ υ : Trace) :
    deliveriesFrom s (τ ++ υ) = deliveriesFrom s τ ++ deliveriesFrom (roundFrom s τ) υ := by
  induction τ generalizing s with
  | nil => rfl
  | cons e τ ih =>
    cases e with
    | amqpBasicPublish frame result => exact congrArg ((s, result) :: ·) (ih s)
    | getMessageQueue queueAlias => exact ih _
    | basicPublish exchange routingKey message => exact ih _
    | _ => exact ih s

theorem Uneventful.no_deliveries {υ : Trace} (h : Uneventful υ) (s : Shipment) :
    deliveriesFrom s υ = [] := by
  have hresults := deliveriesFrom_results s υ
  rw [h.1, List.map_nil] at hresults
  exact List.map_eq_nil_iff.mp hresults

theorem Shipped.deliveriesFrom_eq {amqp : Amqp} {cm : ConnectionManager} {l : List Shipment}
    {out : Except Fault Unit} {υ : Trace} (h : Shipped amqp cm l out υ) (s t : Shipment) :
    deliveriesFrom s υ = deliveriesFrom t υ := by
  cases h with
  | done => rfl
  | accepted n _ _ =>
    rw [List.append_assoc, Shipment.deliveriesFrom_attempt, Shipment.deliveriesFrom_attempt]
  | refused n _ => rfl

theorem Shipped.deliveries_append {amqp : Amqp} {cm : ConnectionManager} {l : List Shipment}
    {out : Except Fault Unit} {υ : Trace} (h : Shipped amqp cm l out υ) (τ : Trace) :
    deliveries (τ ++ υ) = deliveries τ ++ deliveries υ := by
  rw [deliveries, deliveriesFrom_append]
  exact congrArg (deliveries τ ++ ·) (h.deliveriesFrom_eq _ _)

theorem Uneventful.deliveries_append {υ : Trace} (h : Uneventful υ) (τ : Trace) :
    deliveries (τ ++ υ) = deliveries τ := by
  rw [deliveries, deliveriesFrom_append, h.no_deliveries, List.append_nil]
  rfl

theorem Adds.deliveries_append {d : Deployment} {doc : Document} {call : FactoryCall}
    {out : Except Fault Unit} {υ : Trace} (h : Adds d doc call out υ) (τ : Trace) :
    deliveries (τ ++ υ) = deliveries τ ++ deliveries υ := by
  cases h with
  | nothing h =>
    have hnone : deliveries υ = [] := h.no_deliveries _
    rw [h.deliveries_append, hnone, List.append_nil]
  | rounds hl hallows h => exact h.deliveries_append τ

theorem framesFrom_frames (a : Bytes) (τ : Trace) :
    (framesFrom a τ).map Prod.snd = (amqpPublishes τ).map Prod.fst := by
  induction τ generalizing a with
  | nil => rfl
  | cons e τ ih =>
    cases e with
    | amqpBasicPublish frame result => exact congrArg (frame :: ·) (ih a)
    | getMessageQueue queueAlias => exact ih _
    | _ => exact ih a

theorem mem_framesFrom_append {a : Bytes} {τ υ : Trace} {p : Bytes × PublishFrame}
    (h : p ∈ framesFrom a (τ ++ υ)) : p ∈ framesFrom a τ ∨ ∃ a', p ∈ framesFrom a' υ := by
  induction τ generalizing a with
  | nil => exact .inr ⟨a, h⟩
  | cons e τ ih =>
    cases e with
    | amqpBasicPublish frame result =>
      rcases List.mem_cons.mp h with rfl | h
      · exact .inl List.mem_cons_self
      · exact (ih h).imp (List.mem_cons_of_mem _) id
    | getMessageQueue queueAlias => exact ih h
    | _ => exact ih h

theorem Uneventful.no_frames {υ : Trace} (h : Uneventful υ) (a : Bytes) :
    framesFrom a υ = [] := by
  have hframes := framesFrom_frames a υ
  rw [h.1, List.map_nil] at hframes
  exact List.map_eq_nil_iff.mp hframes

end Th2
