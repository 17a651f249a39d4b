import Th2Common.Properties.Retry

/-! `init()` and the four getters of a factory in any order. -/

namespace Th2
open Text AbstractCommonFactory
open ConnectionManager (logDebug)

structure Accepting (d : Deployment) : Prop where
  rmqFile : ∀ n, ∃ text doc cfg port, d.rmqFile n = some text ∧ d.env.parse text = .ok doc ∧
    RabbitMQConfiguration.fromJson d.env.getenv doc.root {} = .ok cfg ∧ stoi cfg.port = .ok port
  routerFile : ∀ n, ∃ text doc cfg, d.routerFile n = some text ∧ d.env.parse text = .ok doc ∧
    ((MessageRouterConfiguration.fromJson doc.root {}).exec 0).1 = .ok cfg
  broker : ∀ n, (d.amqp.answers n).Good

structure OrderFree (d : Deployment) (calls : List FactoryCall) : Prop where
  returns : ∀ out ∈ ({} : Process).outcomes d calls, out = .ok ()
  routers : ∀ x ∈ gotRouters (({} : Process).run d calls).trace, ∃ n cm cfg,
    x.2 = some (.own n) ∧
    (({} : Process).run d calls).factory.rmqConnectionManager = some cm ∧
    (({} : Process).run d calls).factory.messageRouterCfg = some cfg ∧
    ((({} : Process).run d calls).heap x.1)[n]? = some ⟨some cm, some cfg⟩
  same : ∀ x ∈ gotRouters (({} : Process).run d calls).trace,
    ∀ y ∈ gotRouters (({} : Process).run d calls).trace, x.1 = y.1 → x.2 = y.2

namespace Accepting
variable {d : Deployment} (hd : Accepting d)
include hd

theorem exec_loadRabbitMqConfiguration (τ : Trace) :
    ∃ cfg port τ', (loadRabbitMqConfiguration d).exec τ = (.ok cfg, τ') ∧
      stoi cfg.port = .ok port := by
  unfold loadRabbitMqConfiguration
  rw [Prog.exec_bind_ok (ConnectionManager.exec_logDebug _ τ), Prog.exec_bind_ok (Prog.exec_read _)]
  obtain ⟨text, doc, cfg, port, hfile, hparse, hcfg, hport⟩ := hd.rmqFile (τ ++
    [Observation.log .debug "get_path_to_rmq_configuration() is successful"]).length
  refine ⟨cfg, port, ?_⟩
  simp only [hfile]
  rw [Prog.exec_bind_ok (ConnectionManager.exec_logDebug _ _), RabbitMQConfiguration.read,
    Prog.exec_bind_ok (exec_emit _ _), hparse, ofJson, Prog.exec_bind_ok (Prog.exec_lift _ _), hcfg]
  exact ⟨_, Prog.exec_lift _ _, hport⟩

theorem exec_loadMessageRouterConfiguration (τ : Trace) :
    ∃ cfg τ', (loadMessageRouterConfiguration d).exec τ = (.ok cfg, τ') := by
  unfold loadMessageRouterConfiguration
  rw [Prog.exec_bind_ok (ConnectionManager.exec_logDebug _ τ), Prog.exec_bind_ok (Prog.exec_read _)]
  obtain ⟨text, doc, cfg, hfile, hparse, hcfg⟩ := hd.routerFile (τ ++
    [Observation.log .debug "get_path_to_message_router_configuration() is successful"]).length
  simp only [hfile]
  rw [MessageRouterConfiguration.read, Prog.exec_bind_ok (exec_emit _ _), hparse, ofJson,
    Prog.exec_bind_ok (Prog.exec_lift _ _), hcfg]
  exact ⟨cfg, _, Prog.exec_lift _ _⟩

theorem exec_requireConfigurations (before : Trace) :
    ∃ s rmq port, (requireConfigurations d).exec { trace := before } = (.ok (), s) ∧
      s.factory.rmqCfg = some rmq ∧ stoi rmq.port = .ok port := by
  obtain ⟨rmq, port, τ, hload, hport⟩ := hd.exec_loadRabbitMqConfiguration before
  have hrmq : ∃ s, (requireRmqCfg d).exec { trace := before } = (.ok (), s) ∧
      s.factory.rmqCfg = some rmq ∧ s.factory.messageRouterCfg = none := by
    have hact : (act (loadRabbitMqConfiguration d)).exec { trace := before } =
        (.ok rmq, { trace := τ }) := by
      rw [exec_act, hload]
    have hfresh : ({ trace := before } : Process).factory.rmqCfg.isNone = true := rfl
    unfold requireRmqCfg
    rw [Prog.exec_bind_ok (Prog.exec_read _), Prog.exec_when_pos hfresh, Prog.exec_bind_ok hact]
    exact ⟨_, rfl, rfl, rfl⟩
  obtain ⟨s, hrun, hrmq, hnone⟩ := hrmq
  obtain ⟨cfg, τ', hload'⟩ := hd.exec_loadMessageRouterConfiguration s.trace
  have hact : (act (loadMessageRouterConfiguration d)).exec s = (.ok cfg, { s with trace := τ' }) := by
    rw [exec_act, hload']
  have hisNone : s.factory.messageRouterCfg.isNone = true := by rw [hnone, Option.isNone_none]
  have hrest : ∃ s', (requireMessageRouterCfg d).exec s = (.ok (), s') ∧
      s'.factory.rmqCfg = some rmq := by
    unfold requireMessageRouterCfg
    rw [Prog.exec_bind_ok (Prog.exec_read _), Prog.exec_when_pos hisNone, Prog.exec_bind_ok hact]
    exact ⟨_, rfl, hrmq⟩
  obtain ⟨s', hrun', hrmq'⟩ := hrest
  unfold requireConfigurations
  rw [Prog.exec_bind_ok hrun]
  exact ⟨s', rmq, port, hrun', hrmq', hport⟩

theorem exec_init (order : ArgumentOrder) :
    ∃ cm cfg s, (init d order).exec {} = (.ok (), s) ∧ Idle cm cfg s := by
  obtain ⟨s, rmq, port, hload, hrmq, hport⟩ := hd.exec_requireConfigurations Process.started.trace
  rcases exec_init_first d order hload with ⟨-, cm, cfg, -, t, -, hrun, hidle⟩ | ⟨hfirst, -⟩
  · exact ⟨cm, cfg, t, hrun, hidle⟩
  · exact absurd ⟨rmq, hrmq, ⟨port, hport⟩, hd.broker _⟩ hfirst

end Accepting

theorem Idle.orderFree {d : Deployment} {calls : List FactoryCall} {cm : Obj ConnectionManager}
    {cfg : Obj MessageRouterConfiguration}
    (hreturns : ∀ out ∈ ({} : Process).outcomes d calls, out = .ok ())
    (h : Idle cm cfg (({} : Process).run d calls)) : OrderFree d calls := by
  refine ⟨hreturns, fun x hx => ?_, fun x hx y hy _ => ?_⟩
  · obtain ⟨hown, hstored⟩ := h.returned x hx
    refine ⟨0, cm, cfg, hown, h.manager, h.configuration, ?_⟩
    rw [h.heap_of_stored hstored]
    rfl
  · rw [(h.returned x hx).1, (h.returned y hy).1]

theorem orderFree_of_init {d : Deployment} (hd : Accepting d) (order : ArgumentOrder)
    {calls : List FactoryCall} (hcalls : ∀ call ∈ calls, call.gets = true) :
    OrderFree d (.init order :: calls) := by
  obtain ⟨cm, cfg, s, hrun, hidle⟩ := hd.exec_init order
  have hfirst : (FactoryCall.perform d (.init order)).exec {} = (.ok (), s) := hrun
  have hrest : ∀ p ∈ calls.map (FactoryCall.perform d),
      Prog.Triple (Idle cm cfg) p (fun _ => Idle cm cfg) fun _ _ => False := by
    intro p hp
    obtain ⟨call, hcall, rfl⟩ := List.mem_map.mp hp
    exact idle_perform d (hcalls call hcall)
  obtain ⟨houts, hend⟩ := Prog.attempts_ok isFatal (fun _ => rfl) hrest hidle
  refine Idle.orderFree (fun out hout => ?_) (?_ : Idle cm cfg _)
  · rw [Process.outcomes, List.map_cons, Prog.attempts_cons hfirst rfl] at hout
    rcases List.mem_cons.mp hout with rfl | hout
    · rfl
    · obtain ⟨⟨⟩, rfl⟩ := houts out hout
      rfl
  · rw [Process.run_cons hfirst rfl]
    exact hend

theorem exec_getter_fresh (d : Deployment) (k : RouterKind) :
    ∃ s, (FactoryCall.perform d (.getter k)).exec {} = (.error .nullDereference, s) := by
  obtain ⟨member, hmember⟩ := exists_getter_eq d k
  have hrun := exec_getRouter_error d k member {} rfl
    (exec_getRmqConnectionManager_none d (halfMade d k member {}) rfl rfl)
  rw [FactoryCall.perform, hmember]
  exact ⟨_, Prog.exec_bind_error hrun⟩

theorem outcomes_getter (d : Deployment) (k : RouterKind) (calls : List FactoryCall) :
    ({} : Process).outcomes d (.getter k :: calls) = [.error .nullDereference] := by
  obtain ⟨s, hrun⟩ := exec_getter_fresh d k
  change FactoryCall.perform d (.getter k) {} = _ at hrun
  rw [Process.outcomes, List.map_cons, Prog.attempts, hrun]
  rfl

theorem not_orderFree_of_getter (d : Deployment) (k : RouterKind) (calls : List FactoryCall) :
    ¬OrderFree d (.getter k :: calls) := by
  intro h
  have hout := h.returns (.error .nullDereference)
  rw [outcomes_getter] at hout
  cases hout List.mem_cons_self

/-- The operations can be called in this order if and only if the first is `init()`. -/
theorem orderFree_iff (d : Deployment) (hd : Accepting d) (calls : List FactoryCall)
    (hcalls : ∀ call ∈ calls, call.gets = true) :
    OrderFree d calls ↔ ∀ call ∈ calls.head?, ∃ order, call = .init order := by
  rcases calls with _ | ⟨call, calls⟩
  · refine iff_of_true ⟨?_, ?_, ?_⟩ ?_
    · intro out hout
      cases hout
    · intro x hx
      cases hx
    · intro x hx
      cases hx
    · intro call hcall
      cases hcall
  · have hgets := hcalls call List.mem_cons_self
    have hrest : ∀ call ∈ calls, call.gets = true := fun c hc => hcalls c (List.mem_cons_of_mem _ hc)
    rw [List.head?_cons]
    cases call with
    | init order =>
      refine iff_of_true (orderFree_of_init hd order hrest) ?_
      rintro _ ⟨⟩
      exact ⟨order, rfl⟩
    | getter k =>
      refine iff_of_false (not_orderFree_of_getter d k calls) fun h => ?_
      obtain ⟨order, horder⟩ := h (.getter k) rfl
      cases horder
    | initWith routers => cases hgets
    | send k number order op b => cases hgets

def accepted : Deployment := { refusedOnce with amqp := .accepting }

theorem accepted_accepting : Accepting accepted where
  rmqFile _ := by
    refine ⟨rabbitMqText "rabbitmq", rabbitMqDocument "rabbitmq", _, 5672, rfl, ?_, rfl, rfl⟩
    simp [accepted, refusedOnce, Environment.ofFiles]
  routerFile _ := by
    have hother : ¬rabbitMqText "rabbitmq" = mqText := by decide
    refine ⟨mqText, mqDocument, mqConfiguration, rfl, ?_, rfl⟩
    simp [accepted, refusedOnce, Environment.ofFiles, hother]
  broker _ := ⟨rfl, rfl, rfl⟩

theorem orderFree_iff_accepted :
    OrderFree accepted [.init .leftToRight, .getter .rawBatch, .init .leftToRight] ↔
      ∀ call ∈ [FactoryCall.init .leftToRight, .getter .rawBatch, .init .leftToRight].head?,
        ∃ order, call = .init order :=
  orderFree_iff accepted accepted_accepting _ (by simp [FactoryCall.gets])

/-- Asked for before `init()`, a router costs the process. -/
theorem not_orderFree_getter :
    Accepting accepted ∧
      ({} : Process).outcomes accepted [.getter .rawBatch, .init .leftToRight] =
        [.error .nullDereference] ∧
      ¬OrderFree accepted [.getter .rawBatch, .init .leftToRight] :=
  ⟨accepted_accepting, outcomes_getter accepted .rawBatch _,
    not_orderFree_of_getter accepted .rawBatch _⟩

end Th2
