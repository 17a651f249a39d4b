import Th2Common.Factory.Effects
import Th2Common.Factory.Steady
import Th2Common.Properties.Failure

/-! The routers that getters return when connecting may fail. -/

namespace Th2
open Text AbstractCommonFactory
open ConnectionManager (logDebug)

structure Usable (d : Deployment) (k : RouterKind) (router : AbstractRabbitMessageRouter) : Prop where
  connectionManager : router.connectionManager ≠ none
  configuration : router.messageRouterConfiguration ≠ none
  sends : ∀ (order : WalkOrder Walk) (op : Operation) (b : k.Batch) (τ : Trace),
    ((op.perform (k.routerClass d.protobuf) ⟨d.amqp, order⟩ router b).exec τ).1 ≠
      .error (.thrown notInitialised)

def Process.ReturnsUsable (d : Deployment) (s : Process) : Prop :=
  ∀ x ∈ gotRouters s.trace, ∃ n router, x.2 = some (.own n) ∧ (s.heap x.1)[n]? = some router ∧
    Usable d x.1 router

def Process.started : Process := { trace := [.log .debug "Start init()"] }

/-- The first attempt to connect succeeds: the port is a number, and the library's
answers are good from there on. Five entries lie between `s`, where the two files
have been loaded, and the attempt. -/
def FirstAttemptSucceeds (d : Deployment) (s : Process) : Prop :=
  ∃ rmq, s.factory.rmqCfg = some rmq ∧ (∃ port, stoi rmq.port = .ok port) ∧
    (d.amqp.answers (s.trace.length + 5)).Good

def FactoryCall.gets : FactoryCall → Bool
  | .init _ => true
  | .getter _ => true
  | _ => false

theorem refusal_ne_notInitialised (op : Operation) (n : Nat) : op.refusal n ≠ notInitialised := by
  intro h
  have hinitial := congrArg Exn.initial h
  cases op <;> exact absurd hinitial (by decide : some (87 : UInt8) ≠ some 82)

theorem usable_of_decoded (d : Deployment) (k : RouterKind) (cm : Obj ConnectionManager)
    {cfg : Obj MessageRouterConfiguration} {doc : Document} (hcfg : cfg.val.DecodedFrom doc) :
    Usable d k ⟨some cm, some cfg⟩ where
  connectionManager := nofun
  configuration := nofun
  sends order op b τ := by
    obtain ⟨rs, _, ⟨-, out, υ, hloop, hshipped⟩ | ⟨-, hrefused⟩⟩ :=
      perform_shipped d.protobuf cm hcfg ⟨d.amqp, order⟩ op b τ
    · rw [hloop]
      rintro rfl
      obtain ⟨_, p, _, _, _, he, _⟩ := hshipped.threw ⟨[], [], [], []⟩
      injection he with he
      exact publishFail_not_ownError p.2 (he ▸ .routerNotInitialised)
    · rw [hrefused]
      intro h
      injection h with h
      injection h with h
      exact refusal_ne_notInitialised op _ h

theorem Idle.returnsUsable {cm : Obj ConnectionManager} {cfg : Obj MessageRouterConfiguration}
    {s : Process} {doc : Document} (h : Idle cm cfg s) (hcfg : cfg.val.DecodedFrom doc)
    (d : Deployment) : s.ReturnsUsable d := by
  intro x hx
  obtain ⟨hown, hstored⟩ := h.returned x hx
  refine ⟨0, ⟨some cm, some cfg⟩, hown, ?_, usable_of_decoded d x.1 cm hcfg⟩
  rw [h.heap_of_stored hstored]
  rfl

theorem not_returnsUsable_of {d : Deployment} {s : Process} {k : RouterKind} {n : Nat}
    (hgot : (k, some (.own n)) ∈ gotRouters s.trace)
    (hrouter : (s.heap k)[n]?.map (fun router => router.connectionManager.isNone) = some true) :
    ¬s.ReturnsUsable d := by
  intro h
  obtain ⟨m, router, hm, hr, husable⟩ := h _ hgot
  cases hm
  rw [hr, Option.map_some, Option.some.injEq, Option.isNone_iff_eq_none] at hrouter
  exact husable.connectionManager hrouter

theorem idle_perform {cm : Obj ConnectionManager} {cfg : Obj MessageRouterConfiguration}
    (d : Deployment) {call : FactoryCall} (hcall : call.gets = true) :
    Prog.Triple (Idle cm cfg) (call.perform d) (fun _ => Idle cm cfg) fun _ _ => False := by
  cases call with
  | init order => exact returns_init d order
  | getter k => exact Prog.triple_bind (returns_getter d k) fun _ _ h => h
  | initWith routers => cases hcall
  | send k number order op b => cases hcall

theorem loaded_of_exec {d : Deployment} {s : Process}
    (hload : (requireConfigurations d).exec .started = (.ok (), s)) :
    ∃ rmq cfg doc, s.factory.rmqCfg = some rmq ∧ cfg.val.DecodedFrom doc ∧
      Loaded rmq cfg { s with trace := s.trace ++ [.log .debug "Start init() with params"] } := by
  have hreaches := (reaches_requireConfigurations d).exec (s := .started) .refl
  rw [hload] at hreaches
  have hstarted : Shared .started :=
    ⟨Shared.initial.manager, Shared.initial.configuration, Shared.initial.whole, nofun⟩
  have hshared := (shared_invariant d []).reaches hstarted hreaches
  obtain ⟨rmq, cfg, free, υ, hυ, rfl⟩ := requireConfigurations_ok d hload
  obtain ⟨doc, hdoc⟩ := hshared.decoded cfg rfl
  refine ⟨rmq, cfg, doc, rfl, hdoc, rfl, rfl, rfl, rfl, rfl, ?_⟩
  rw [gotRouters_append, gotRouters_append, hυ.output.gotRouters]
  rfl

theorem exec_init_loaded (d : Deployment) (order : ArgumentOrder) {s : Process}
    (hload : (requireConfigurations d).exec .started = (.ok (), s)) :
    (init d order).exec {} = (evaluateArguments d (fun _ => none) order.kinds >>= initWith d).exec
      { s with trace := s.trace ++ [.log .debug "Start init() with params"] } := by
  have hbegin : (act (logDebug "Start init()")).exec {} = (.ok (), .started) := rfl
  unfold init
  rw [Prog.exec_bind_ok hbegin, Prog.exec_bind_ok hload]
  rfl

theorem exec_init_first (d : Deployment) (order : ArgumentOrder) {s : Process}
    (hload : (requireConfigurations d).exec .started = (.ok (), s)) :
    (FirstAttemptSucceeds d s ∧ ∃ cm cfg doc t, cfg.val.DecodedFrom doc ∧
      (init d order).exec {} = (.ok (), t) ∧ Idle cm cfg t) ∨
    (¬FirstAttemptSucceeds d s ∧ ∃ k e t, (init d order).exec {} = (.error e, t) ∧
      isFatal (Except.error e : Except Fault Unit) = false ∧
      t.factory.routers k = some (.own 0) ∧ t.heap k = [{}]) := by
  obtain ⟨rmq, cfg, doc, hrmq, hdoc, hloaded⟩ := loaded_of_exec hload
  have hlen : (s.trace ++ [Observation.log .debug "Start init() with params"]).length + 4 =
      s.trace.length + 5 := by
    rw [List.length_append]
    rfl
  rw [exec_init_loaded d order hload]
  rcases hloaded.exec_arguments d order with
    ⟨hport, hgood, cm, t, hrun, hidle⟩ | ⟨hbad, hthrown⟩
  · rw [hlen] at hgood
    exact .inl ⟨⟨rmq, hrmq, hport, hgood⟩, cm, cfg, doc, t, hdoc, hrun, hidle⟩
  · rw [hlen] at hbad
    refine .inr ⟨?_, hthrown⟩
    rintro ⟨rmq', hrmq', hport, hgood⟩
    rw [hrmq] at hrmq'
    cases hrmq'
    exact hbad ⟨hport, hgood⟩

/-- The routers that getters return are usable in every run if and only if the
first attempt to connect succeeds. -/
theorem returnsUsable_iff (d : Deployment) (order : ArgumentOrder) (s : Process)
    (hload : (requireConfigurations d).exec .started = (.ok (), s)) :
    (∀ calls : List FactoryCall, (∀ call ∈ calls, call.gets = true) →
      (({} : Process).run d (.init order :: calls)).ReturnsUsable d) ↔ FirstAttemptSucceeds d s := by
  rcases exec_init_first d order hload with
    ⟨hfirst, cm, cfg, doc, t, hdoc, hrun, hidle⟩ | ⟨hfirst, k, e, s', hrun, hfatal, hrouter, hheap⟩
  · refine ⟨fun _ => hfirst, fun _ calls hcalls => ?_⟩
    have hinit : (FactoryCall.perform d (.init order)).exec {} = (.ok (), t) := hrun
    rw [Process.run_cons hinit rfl]
    have hperform : ∀ p ∈ calls.map (FactoryCall.perform d),
        Prog.Triple (Idle cm cfg) p (fun _ => Idle cm cfg) fun _ _ => False := by
      intro p hp
      obtain ⟨call, hcall, rfl⟩ := List.mem_map.mp hp
      exact idle_perform d (hcalls call hcall)
    exact Idle.returnsUsable (Prog.attempts_ok isFatal (fun _ => rfl) hperform hidle).2 hdoc d
  · refine ⟨fun h => absurd (h [.getter k] (by simp [FactoryCall.gets])) ?_, fun h => absurd h hfirst⟩
    -- the getter that threw in `init()` now finds the router it stored before it threw
    obtain ⟨member, hmember⟩ := exists_getter_eq d k
    have hinit : (FactoryCall.perform d (.init order)).exec {} = (.error e, s') := hrun
    have hget : (FactoryCall.perform d (.getter k)).exec s' = (.ok (), { s' with
        trace := s'.trace ++ [.log .debug (member ++ utf8 " init()"),
          .gotRouter k (some (.own 0))] }) := by
      rw [FactoryCall.perform, hmember, Prog.exec_bind_ok (exec_getRouter_stored d k member s' hrouter)]
      rfl
    rw [Process.run_cons hinit hfatal, Process.run_cons hget rfl, Process.run_nil]
    refine not_returnsUsable_of (k := k) (n := 0) ?_ ?_
    · rw [gotRouters_append]
      exact List.mem_append_right _ List.mem_cons_self
    · dsimp only
      rw [hheap]
      rfl

def refusedOnce : Deployment where
  env := .ofFiles (fun _ => none)
    [(rabbitMqText "rabbitmq", rabbitMqDocument "rabbitmq"), (mqText, mqDocument)]
  amqp := { Amqp.accepting with
    socketOpen := fun n socket => if socket = none ∨ n ≤ 20 then -1 else 0
    socketOpen_null := fun _ => by simp }
  protobuf := .reference
  rmqPath := "/var/th2/config/rabbitMQ.json"
  routerPath := "/var/th2/config/mq.json"
  rmqFile _ := some (rabbitMqText "rabbitmq")
  routerFile _ := some mqText
  address _ := "0x7ffd5e9c1a30"

def loadedOnce : Process := ((requireConfigurations refusedOnce).exec .started).2

theorem refusedOnce_loads :
    (requireConfigurations refusedOnce).exec .started = (.ok (), loadedOnce) := by
  have hok : ((requireConfigurations refusedOnce).exec .started).1.isOk = true := by decide +kernel
  unfold loadedOnce
  rcases hrun : (requireConfigurations refusedOnce).exec .started with ⟨e | ⟨⟩, s⟩
  · rw [hrun] at hok
    cases hok
  · rfl

theorem returnsUsable_iff_refusedOnce :
    (∀ calls : List FactoryCall, (∀ call ∈ calls, call.gets = true) →
      (({} : Process).run refusedOnce (.init .leftToRight :: calls)).ReturnsUsable refusedOnce) ↔
      FirstAttemptSucceeds refusedOnce loadedOnce :=
  returnsUsable_iff refusedOnce .leftToRight loadedOnce refusedOnce_loads

/-- A second `init()`, which connects and returns, is given the router that the
first one had left without a connection. -/
def initTwice : Process := ({} : Process).run refusedOnce [.init .leftToRight, .init .leftToRight]

theorem not_returnsUsable_refusedOnce :
    (requireConfigurations refusedOnce).exec .started = (.ok (), loadedOnce) ∧
      handshakes initTwice.trace = 1 ∧ ¬initTwice.ReturnsUsable refusedOnce := by
  have hrun : handshakes initTwice.trace = 1 ∧
      (RouterKind.parsedBatch, some (RouterRef.own 0)) ∈ gotRouters initTwice.trace ∧
      (initTwice.heap .parsedBatch)[0]?.map (fun router => router.connectionManager.isNone) =
        some true := by
    decide +kernel
  exact ⟨refusedOnce_loads, hrun.1, not_returnsUsable_of hrun.2.1 hrun.2.2⟩

end Th2
