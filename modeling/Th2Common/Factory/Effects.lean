import Th2Common.Factory.Moves
import Th2Common.Lib.Runs

/-! The effect of each call of a factory, runs as runs of effects, and the rule for
invariants: what every move and every send keeps holds after all calls. -/

namespace Th2

inductive Sending (d : Deployment) (k : RouterKind) (router : AbstractRabbitMessageRouter)
    (op : Operation) (b : k.Batch) : Except Fault Unit → Trace → Prop
  | nowhere {e : Exn} (hrouter : router.connectionManager = none ∨
      router.messageRouterConfiguration = none) : Sending d k router op b (.error (.thrown e)) []
  | misdirected {e : Exn} (queueAlias : Bytes) (hrouter : router.connectionManager = none) :
    Sending d k router op b (.error (.thrown e)) [.getMessageQueue queueAlias]
  | refused {cfg : Obj MessageRouterConfiguration} {doc : Document} {e : Exn}
      (hcfg : router.messageRouterConfiguration = some cfg) (hdoc : cfg.val.DecodedFrom doc)
      (hallows : op.allows (addressed k doc.root b
        (op.attributes (k.routerClass d.protobuf))).length = false) :
    Sending d k router op b (.error (.thrown e)) []
  | shipped {cm : Obj ConnectionManager} {cfg : Obj MessageRouterConfiguration} {doc : Document}
      {rs : List Route} {out : Except Fault Unit} {υ : Trace}
      (hcm : router.connectionManager = some cm)
      (hcfg : router.messageRouterConfiguration = some cfg) (hdoc : cfg.val.DecodedFrom doc)
      (hroutes : rs.Perm (addressed k doc.root b (op.attributes (k.routerClass d.protobuf))))
      (hallows : op.allows rs.length = true)
      (h : Shipped d.amqp cm.val (rs.map (Route.shipment (k.valueToBytes d.protobuf b))) out υ) :
    Sending d k router op b out υ

theorem sending_perform (d : Deployment) {k : RouterKind} {router : AbstractRabbitMessageRouter}
    (hcfg : ∀ cfg, router.messageRouterConfiguration = some cfg → ∃ doc, cfg.val.DecodedFrom doc)
    (order : WalkOrder Walk) (op : Operation) (b : k.Batch) (τ : Trace) :
    ∃ out υ, (op.perform (k.routerClass d.protobuf) ⟨d.amqp, order⟩ router b).exec τ =
      (out, τ ++ υ) ∧ Sending d k router op b out υ := by
  obtain ⟨cm, _ | cfg⟩ := router
  · rw [perform_unconfigured]
    exact ⟨_, [], by rw [List.append_nil], .nowhere (.inr rfl)⟩
  obtain ⟨doc, hdoc⟩ := hcfg cfg rfl
  rcases cm with _ | cm
  · obtain ⟨e, υ, hrun, rfl | ⟨a, rfl⟩⟩ :=
      perform_unconnected d.protobuf rfl hdoc.nonNull ⟨d.amqp, order⟩ op b τ
    · exact ⟨_, [], hrun, .nowhere (.inl rfl)⟩
    · exact ⟨_, _, hrun, .misdirected a rfl⟩
  obtain ⟨rs, hroutes, ⟨hallows, out, υ, hloop, hshipped⟩ | ⟨hallows, hrefused⟩⟩ :=
    perform_shipped d.protobuf cm hdoc ⟨d.amqp, order⟩ op b τ
  · exact ⟨out, υ, hloop, .shipped rfl rfl hdoc hroutes hallows hshipped⟩
  · rw [hroutes.length_eq] at hallows
    exact ⟨_, [], by rw [hrefused, List.append_nil], .refused rfl hdoc hallows⟩

namespace FactoryCall
open AbstractCommonFactory

def Effect (d : Deployment) : FactoryCall → Process → Except Fault Unit → Process → Prop
  | init _, s, _, t => Reaches d s t
  | initWith routers, s, _, t =>
    Reaches d s t ∨ ∃ u, Reaches d s u ∧ Reaches d (u.withRouters routers) t
  | getter _, s, _, t => Reaches d s t
  | send k number _ op b, s, out, t =>
    (∃ router, (s.heap k)[number]? = some router ∧
      ∃ υ, Sending d k router op b out υ ∧ t = { s with trace := s.trace ++ υ }) ∨
    ((s.heap k)[number]? = none ∧ out = .error .nullDereference ∧ t = s)

end FactoryCall

/-- What is to be shown of `I` for it to hold after all of the calls. -/
structure Invariant (d : Deployment) (calls : List FactoryCall) (I : Process → Prop) : Prop where
  initial : I {}
  move : ∀ {s t : Process}, I s → Move d s t → I t
  replaced : ∀ {s : Process} (routers : RouterKind → RouterPtr), .initWith routers ∈ calls → I s →
    I (s.withRouters routers)
  sent : ∀ {s : Process} {k : RouterKind} {number : Nat} {order : WalkOrder Walk} {op : Operation}
    {b : k.Batch} {router : AbstractRabbitMessageRouter} {out : Except Fault Unit} {υ : Trace},
    .send k number order op b ∈ calls → I s → (s.heap k)[number]? = some router →
    Sending d k router op b out υ → I { s with trace := s.trace ++ υ }

namespace Invariant
variable {d : Deployment} {calls : List FactoryCall} {I : Process → Prop}

theorem reaches (h : Invariant d calls I) {s t : Process} (hs : I s) (hst : Reaches d s t) : I t := by
  induction hst with
  | refl => exact hs
  | tail _ hmove ih => exact h.move ih hmove

theorem effect (h : Invariant d calls I) {call : FactoryCall} (hcall : call ∈ calls)
    {s t : Process} {out : Except Fault Unit} (hs : I s) (heffect : call.Effect d s out t) : I t := by
  cases call with
  | init order => exact h.reaches hs heffect
  | initWith routers =>
    rcases heffect with ht | ⟨u, hu, ht⟩
    · exact h.reaches hs ht
    · exact h.reaches (h.replaced routers hcall (h.reaches hs hu)) ht
  | getter k => exact h.reaches hs heffect
  | send k number order op b =>
    obtain ⟨router, hrouter, υ, hsending, rfl⟩ | ⟨-, -, rfl⟩ := heffect
    · exact h.sent hcall hs hrouter hsending
    · exact hs

end Invariant

structure Shared (s : Process) : Prop where
  manager : ∀ k, ∀ router ∈ s.heap k, router.connectionManager = none ∨
    router.connectionManager = s.factory.rmqConnectionManager
  configuration : ∀ k, ∀ router ∈ s.heap k, router.messageRouterConfiguration = none ∨
    router.messageRouterConfiguration = s.factory.messageRouterCfg
  whole : ∀ k, ∀ router ∈ s.heap k, router.connectionManager = none →
    router.messageRouterConfiguration = none
  decoded : ∀ cfg, s.factory.messageRouterCfg = some cfg → ∃ doc, cfg.val.DecodedFrom doc

theorem Shared.decoded_of_mem {s : Process} (hs : Shared s) {k : RouterKind}
    {router : AbstractRabbitMessageRouter} (hr : router ∈ s.heap k) :
    ∀ cfg, router.messageRouterConfiguration = some cfg → ∃ doc, cfg.val.DecodedFrom doc := by
  intro cfg hcfg
  have hshared := hs.configuration k router hr
  rw [hcfg] at hshared
  exact hs.decoded cfg (hshared.resolve_left nofun).symm

theorem mem_update_append {s : Process} {k k' : RouterKind} {new router : AbstractRabbitMessageRouter}
    (h : router ∈ Function.update s.heap k (s.heap k ++ [new]) k') :
    router ∈ s.heap k' ∨ router = new := by
  by_cases hk : k' = k
  · subst hk
    rw [Function.update_self] at h
    exact (List.mem_append.mp h).imp id List.mem_singleton.mp
  · rw [Function.update_of_ne hk] at h
    exact .inl h

theorem prefix_update_append (s : Process) (k k' : RouterKind) (new : AbstractRabbitMessageRouter) :
    s.heap k' <+: Function.update s.heap k (s.heap k ++ [new]) k' := by
  by_cases hk : k' = k
  · subst hk
    rw [Function.update_self]
    exact List.prefix_append _ _
  · have hsame : Function.update s.heap k (s.heap k ++ [new]) k' = s.heap k' :=
      Function.update_of_ne hk ..
    exact hsame ▸ List.prefix_rfl

theorem Dial.manager {d : Deployment} {rmqCfg : Option RabbitMQConfiguration}
    {cm cm' : SharedPtr ConnectionManager} {υ : Trace} (h : Dial d rmqCfg cm cm' υ) :
    cm = none ∨ cm = cm' := by
  cases h <;> first | exact .inl rfl | exact .inr rfl

theorem Shared.move {d : Deployment} {s t : Process} (hs : Shared s) (h : Move d s t) : Shared t := by
  cases h with
  | said free hυ => exact ⟨hs.manager, hs.configuration, hs.whole, hs.decoded⟩
  | loadedRmq rmq hnone hread => exact ⟨hs.manager, hs.configuration, hs.whole, hs.decoded⟩
  | loadedRouter cfg hnone hread hdoc =>
    refine ⟨hs.manager, fun k router hr => ?_, hs.whole, fun cfg' hcfg' => ?_⟩
    · have hcfg := hs.configuration k router hr
      rw [hnone, or_self] at hcfg
      exact .inl hcfg
    · rw [← Option.some.inj hcfg']
      exact ⟨_, hdoc⟩
  | @made k free cm υ hnone hdial =>
    refine ⟨fun k' router hr => ?_, fun k' router hr => ?_, fun k' router hr => ?_, hs.decoded⟩
    · rcases mem_update_append hr with hr | rfl
      · rcases hdial.manager with hold | hold
        · have hcm := hs.manager k' router hr
          rw [hold, or_self] at hcm
          exact .inl hcm
        · rw [← hold]
          exact hs.manager k' router hr
      · cases cm with
        | none => exact .inl rfl
        | some cm => exact .inr rfl
    · rcases mem_update_append hr with hr | rfl
      · exact hs.configuration k' router hr
      · cases cm with
        | none => exact .inl rfl
        | some cm => exact .inr rfl
    · rcases mem_update_append hr with hr | rfl
      · exact hs.whole k' router hr
      · cases cm with
        | none => exact fun _ => rfl
        | some cm => nofun
  | returned k hsome => exact ⟨hs.manager, hs.configuration, hs.whole, hs.decoded⟩

theorem Shared.initial : Shared {} :=
  ⟨fun _ _ hr => absurd hr List.not_mem_nil, fun _ _ hr => absurd hr List.not_mem_nil,
    fun _ _ hr => absurd hr List.not_mem_nil, nofun⟩

theorem shared_invariant (d : Deployment) (calls : List FactoryCall) : Invariant d calls Shared where
  initial := .initial
  move := Shared.move
  replaced _ _ hs := ⟨hs.manager, hs.configuration, hs.whole, hs.decoded⟩
  sent _ hs _ _ := ⟨hs.manager, hs.configuration, hs.whole, hs.decoded⟩

namespace FactoryCall
open AbstractCommonFactory

theorem effect_of_ends {P : Process → Prop} {α : Type} {r : Except Fault α × Process}
    (h : Prog.Ends (fun _ => P) (fun _ => P) r) : P r.2 := by
  obtain ⟨_ | _, t⟩ := r <;> exact h

theorem effect_perform (d : Deployment) (call : FactoryCall) {s t : Process}
    {out : Except Fault Unit} (hs : Shared s)
    (hrun : (call.perform d).exec s = (out, t)) : call.Effect d s out t := by
  cases call with
  | init order =>
    have hend := effect_of_ends (reaches_init d order s .refl)
    rw [show (AbstractCommonFactory.init d order).exec s = (out, t) from hrun] at hend
    exact hend
  | initWith routers =>
    have hend := replaces_initWith d routers s
    rw [show (AbstractCommonFactory.initWith d routers).exec s = (out, t) from hrun] at hend
    rcases out with e | ⟨⟩
    · exact .inl hend
    · exact .inr hend
  | getter k =>
    have hend := effect_of_ends ((Prog.keeps_bind (reaches_getter d k) fun _ =>
      Prog.keeps_pure ()) s .refl)
    rw [show ((AbstractCommonFactory.getter d k) >>= fun _ => pure ()).exec s = (out, t) from hrun]
      at hend
    exact hend
  | send k number order op b =>
    unfold perform at hrun
    rw [Prog.exec_bind_ok (Prog.exec_read s)] at hrun
    rcases hrouter : (s.heap k)[number]? with _ | router <;> rw [hrouter] at hrun
    · cases hrun
      exact .inr ⟨hrouter, rfl, rfl⟩
    · have hcfg := hs.decoded_of_mem (List.mem_of_getElem? hrouter)
      obtain ⟨out', υ, hperform, hsending⟩ := sending_perform d hcfg order op b s.trace
      have hact : (act (op.perform (k.routerClass d.protobuf) ⟨d.amqp, order⟩ router b)).exec s =
          (out', { s with trace := s.trace ++ υ }) := by
        rw [exec_act, hperform]
      have hlift : (Prog.lift (deref (some router)) : Method _).exec s = (.ok router, s) := rfl
      rw [Prog.exec_bind_ok hlift, hact] at hrun
      cases hrun
      exact .inl ⟨router, hrouter, υ, hsending, rfl⟩

end FactoryCall

def Process.outcomes (d : Deployment) (calls : List FactoryCall) (s : Process) :
    List (Except Fault Unit) :=
  (Prog.attempts isFatal (calls.map (FactoryCall.perform d)) s).1

theorem Process.run_effects (d : Deployment) (calls : List FactoryCall) {s : Process}
    (hs : Shared s) :
    Run (FactoryCall.Effect d) calls s (s.outcomes d calls) (s.run d calls) := by
  have hrun : Run (fun (call : FactoryCall) (s : Process) out t =>
      (call.perform d).exec s = (out, t)) calls s (s.outcomes d calls) (s.run d calls) :=
    Prog.run_attempts isFatal (FactoryCall.perform d) calls s
  refine hrun.refine (fun call s out t hs h => ?_)
    (fun call s out t hs h => call.effect_perform d hs h) hs
  exact (shared_invariant d [call]).effect List.mem_cons_self hs (call.effect_perform d hs h)

theorem Invariant.run {d : Deployment} {calls : List FactoryCall} {I : Process → Prop}
    (h : Invariant d calls I) : I (({} : Process).run d calls) :=
  (Process.run_effects d calls .initial).keeps (fun _ hcall _ _ _ hs heffect => h.effect hcall hs heffect)
    h.initial

structure Grown (s t : Process) : Prop where
  rmqCfg : ∀ cfg, s.factory.rmqCfg = some cfg → t.factory.rmqCfg = some cfg
  messageRouterCfg : ∀ cfg, s.factory.messageRouterCfg = some cfg →
    t.factory.messageRouterCfg = some cfg
  manager : ∀ cm, s.factory.rmqConnectionManager = some cm →
    t.factory.rmqConnectionManager = some cm
  heap : ∀ k, s.heap k <+: t.heap k
  trace : s.trace <+: t.trace

namespace Grown
variable {d : Deployment} {s t u : Process}

theorem refl (s : Process) : Grown s s :=
  ⟨fun _ h => h, fun _ h => h, fun _ h => h, fun _ => List.prefix_rfl, List.prefix_rfl⟩

theorem trans (h : Grown s t) (h' : Grown t u) : Grown s u where
  rmqCfg cfg hcfg := h'.rmqCfg cfg (h.rmqCfg cfg hcfg)
  messageRouterCfg cfg hcfg := h'.messageRouterCfg cfg (h.messageRouterCfg cfg hcfg)
  manager cm hcm := h'.manager cm (h.manager cm hcm)
  heap k := (h.heap k).trans (h'.heap k)
  trace := h.trace.trans h'.trace

theorem said (s : Process) (free : Nat) (υ : Trace) :
    Grown s { s with free := free, trace := s.trace ++ υ } :=
  ⟨fun _ h => h, fun _ h => h, fun _ h => h, fun _ => List.prefix_rfl, List.prefix_append _ _⟩

theorem ofMove (h : Move d s t) : Grown s t := by
  cases h with
  | said free hυ => exact .said s free _
  | loadedRmq rmq hnone hread =>
    refine ⟨fun cfg hcfg => ?_, fun _ h => h, fun _ h => h, fun _ => List.prefix_rfl,
      List.prefix_rfl⟩
    rw [hnone] at hcfg
    cases hcfg
  | loadedRouter cfg hnone hread hdoc =>
    refine ⟨fun _ h => h, fun cfg hcfg => ?_, fun _ h => h, fun _ => List.prefix_rfl,
      List.prefix_rfl⟩
    rw [hnone] at hcfg
    cases hcfg
  | @made k free cm υ hnone hdial =>
    refine ⟨fun _ h => h, fun _ h => h, fun m hm => ?_, fun k' => ?_, List.prefix_append _ _⟩
    · rw [hm] at hdial
      cases hdial
      rfl
    · exact prefix_update_append s k k' _
  | returned k hsome => exact .said s s.free _

theorem ofReaches (h : Reaches d s t) : Grown s t := by
  induction h with
  | refl => exact .refl s
  | tail _ hmove ih => exact ih.trans (.ofMove hmove)

theorem ofEffect {call : FactoryCall} {out : Except Fault Unit} (h : call.Effect d s out t) :
    Grown s t := by
  cases call with
  | init order => exact .ofReaches h
  | initWith routers =>
    rcases h with h | ⟨u, hu, ht⟩
    · exact .ofReaches h
    · have hreplaced : Grown u (u.withRouters routers) :=
        ⟨fun _ h => h, fun _ h => h, fun _ h => h, fun _ => List.prefix_rfl, List.prefix_rfl⟩
      exact ((Grown.ofReaches hu).trans hreplaced).trans (.ofReaches ht)
  | getter k => exact .ofReaches h
  | send k number order op b =>
    obtain ⟨router, -, υ, -, rfl⟩ | ⟨-, -, rfl⟩ := h
    · exact .said s s.free υ
    · exact .refl _

end Grown

theorem Process.run_append (d : Deployment) (calls more : List FactoryCall) (s : Process) :
    s.run d (calls ++ more) = s.run d calls ∨ s.run d (calls ++ more) = (s.run d calls).run d more := by
  unfold run
  rw [List.map_append]
  exact Prog.attempts_append isFatal _ _ s

theorem Process.grown_run (d : Deployment) (calls : List FactoryCall) {s : Process}
    (hs : Shared s) : Grown s (s.run d calls) :=
  (Process.run_effects d calls hs).relates Grown.refl (fun _ _ _ => Grown.trans)
    fun _ _ _ _ => Grown.ofEffect

theorem Process.grown_append (d : Deployment) (calls more : List FactoryCall) :
    Grown (({} : Process).run d calls) (({} : Process).run d (calls ++ more)) := by
  rcases Process.run_append d calls more {} with h | h <;> rw [h]
  · exact .refl _
  · exact Process.grown_run d more (shared_invariant d calls).run

/-- One document stands for everything that is ever sent in a run: the routers that
send hold the configuration which the factory loaded from it. -/
theorem Process.run_document (d : Deployment) (calls : List FactoryCall) :
    ∃ doc : Document,
      (∀ cfg, (({} : Process).run d calls).factory.messageRouterCfg = some cfg →
        cfg.val.DecodedFrom doc) ∧
      Run (fun (call : FactoryCall) s out t => call.Effect d s out t ∧ Shared s ∧
          ∀ cfg, s.factory.messageRouterCfg = some cfg → cfg.val.DecodedFrom doc)
        calls {} (({} : Process).outcomes d calls) (({} : Process).run d calls) := by
  have hrun := Process.run_effects d calls .initial
  obtain ⟨doc, hdoc⟩ : ∃ doc : Document,
      ∀ cfg, (({} : Process).run d calls).factory.messageRouterCfg = some cfg →
        cfg.val.DecodedFrom doc := by
    rcases hcfg : (({} : Process).run d calls).factory.messageRouterCfg with _ | cfg
    · exact ⟨⟨.null, rfl⟩, nofun⟩
    · obtain ⟨doc, hdoc⟩ := (shared_invariant d calls).run.decoded cfg hcfg
      exact ⟨doc, fun cfg' hcfg' => by rwa [← Option.some.inj hcfg']⟩
  refine ⟨doc, hdoc, ?_⟩
  have hbounded := hrun.bounded Grown.refl (fun _ _ _ => Grown.trans) fun _ _ _ _ => Grown.ofEffect
  refine hbounded.refine (I := Shared)
    (fun call s out t hs h => (shared_invariant d [call]).effect List.mem_cons_self hs h.1)
    (fun call s out t hs h => ⟨h.1, hs, fun cfg hcfg => hdoc cfg (h.2.messageRouterCfg cfg hcfg)⟩)
    (shared_invariant d calls).initial

end Th2
