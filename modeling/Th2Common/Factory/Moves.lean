import Mathlib.Logic.Relation
import Th2Common.Factory.Getting

/-! What `init()` and the getters can do to a process, said once: they go by moves
of five kinds. -/

namespace Th2
open Text
open ConnectionManager (logDebug logError)

def Deployment.RmqRead (d : Deployment) (rmq : RabbitMQConfiguration) : Prop :=
  ∃ n text doc, d.rmqFile n = some text ∧ d.env.parse text = .ok doc ∧
    RabbitMQConfiguration.fromJson d.env.getenv doc.root {} = .ok rmq

def Deployment.RouterRead (d : Deployment) (doc : Document) : Prop :=
  ∃ n text, d.routerFile n = some text ∧ d.env.parse text = .ok doc

/-- Asking for the connection: the manager that is stored before and after, and
what it adds to the trace. -/
inductive Dial (d : Deployment) (rmqCfg : Option RabbitMQConfiguration) :
    SharedPtr ConnectionManager → SharedPtr ConnectionManager → Trace → Prop
  | stored (cm : Obj ConnectionManager) : Dial d rmqCfg (some cm) (some cm) []
  | unconfigured {υ : Trace} (hrmq : rmqCfg = none) (h : Chatter υ) : Dial d rmqCfg none none υ
  | failed {rmq : RabbitMQConfiguration} {e : Fault} {before υ : Trace} (n : Nat)
      (hrmq : rmqCfg = some rmq) (hbefore : Chatter before)
      (hshake : Handshake rmq (d.amqp.answers n) (.error e) υ) :
      Dial d rmqCfg none none (before ++ υ)
  | connected {rmq : RabbitMQConfiguration} {cm : Obj ConnectionManager} {before υ after : Trace}
      (n : Nat) (hrmq : rmqCfg = some rmq) (hbefore : Chatter before)
      (hshake : Handshake rmq (d.amqp.answers n) (.ok ()) υ) (hafter : Chatter after)
      (hconn : cm.val.conn = (d.amqp.answers n).conn) (hchannel : cm.val.channel = 1) :
      Dial d rmqCfg none (some cm) (before ++ υ ++ after)

def routerOver (cfg : SharedPtr MessageRouterConfiguration) :
    SharedPtr ConnectionManager → AbstractRabbitMessageRouter
  | none => {}
  | some cm => ⟨some cm, cfg⟩

/-- One thing that `init()` and the getters do to a process. -/
inductive Move (d : Deployment) : Process → Process → Prop
  | said (s : Process) (free : Nat) {υ : Trace} (h : Chatter υ) :
    Move d s { s with free := free, trace := s.trace ++ υ }
  | loadedRmq (s : Process) (rmq : RabbitMQConfiguration) (hnone : s.factory.rmqCfg = none)
      (hread : d.RmqRead rmq) :
    Move d s { s with factory := { s.factory with rmqCfg := some rmq } }
  | loadedRouter (s : Process) (cfg : Obj MessageRouterConfiguration) {doc : Document}
      (hnone : s.factory.messageRouterCfg = none) (hread : d.RouterRead doc)
      (hdoc : cfg.val.DecodedFrom doc) :
    Move d s { s with factory := { s.factory with messageRouterCfg := some cfg } }
  | made (s : Process) (k : RouterKind) (free : Nat) {cm : SharedPtr ConnectionManager} {υ : Trace}
      (hnone : s.factory.routers k = none)
      (hdial : Dial d s.factory.rmqCfg s.factory.rmqConnectionManager cm υ) :
    Move d s { s with
      factory := { s.factory with
        routers := Function.update s.factory.routers k (some (.own (s.heap k).length))
        rmqConnectionManager := cm }
      heap := Function.update s.heap k (s.heap k ++ [routerOver s.factory.messageRouterCfg cm])
      free := free
      trace := s.trace ++ υ }
  | returned (s : Process) (k : RouterKind) (hsome : s.factory.routers k ≠ none) :
    Move d s { s with trace := s.trace ++ [.gotRouter k (s.factory.routers k)] }

abbrev Reaches (d : Deployment) : Process → Process → Prop := Relation.ReflTransGen (Move d)

namespace AbstractCommonFactory
variable (d : Deployment) {s₀ : Process}

theorem rmqRead_of_load {τ τ' : Trace} {rmq : RabbitMQConfiguration}
    (h : (loadRabbitMqConfiguration d).exec τ = (.ok rmq, τ')) : d.RmqRead rmq := by
  unfold loadRabbitMqConfiguration at h
  obtain ⟨_, _, -, h⟩ := Prog.exec_bind_eq_ok h
  obtain ⟨υ, _, -, h⟩ := Prog.exec_bind_eq_ok h
  split at h
  · obtain ⟨_, _, -, h⟩ := Prog.exec_bind_eq_ok h
    cases h
  · next text hfile =>
    obtain ⟨_, _, -, h⟩ := Prog.exec_bind_eq_ok h
    obtain ⟨_, _, -, h⟩ := Prog.exec_bind_eq_ok h
    obtain ⟨doc, _, hparse, h⟩ := Prog.exec_bind_eq_ok h
    exact ⟨υ.length, text, doc, hfile, ofJson_eq_ok (Prog.exec_lift_eq_ok hparse).1,
      (Prog.exec_lift_eq_ok h).1⟩

theorem routerRead_of_load {τ τ' : Trace} {cfg : MessageRouterConfiguration}
    (h : (loadMessageRouterConfiguration d).exec τ = (.ok cfg, τ')) :
    ∃ doc, d.RouterRead doc ∧ cfg.DecodedFrom doc := by
  unfold loadMessageRouterConfiguration at h
  obtain ⟨_, _, -, h⟩ := Prog.exec_bind_eq_ok h
  obtain ⟨υ, _, -, h⟩ := Prog.exec_bind_eq_ok h
  split at h
  · obtain ⟨_, _, -, h⟩ := Prog.exec_bind_eq_ok h
    cases h
  · next text hfile =>
    obtain ⟨_, _, -, h⟩ := Prog.exec_bind_eq_ok h
    obtain ⟨doc, _, hparse, h⟩ := Prog.exec_bind_eq_ok h
    exact ⟨doc, ⟨υ.length, text, hfile, ofJson_eq_ok (Prog.exec_lift_eq_ok hparse).1⟩, 0,
      (Prog.exec_lift_eq_ok h).1⟩

theorem reaches_act {α : Type} {p : Prog Trace Fault α} (hp : Chats p) :
    Prog.Keeps (Reaches d s₀) (act p) := by
  intro s h
  obtain ⟨υ, hυ, hchatter⟩ := hp s.trace
  have hmove : Reaches d s₀ { s with trace := s.trace ++ υ } := h.tail (.said s s.free hchatter)
  rw [exec_act, hυ]
  rcases p.exec s.trace with ⟨e | a, τ'⟩ <;> exact hmove

theorem reaches_requireRmqCfg : Prog.Keeps (Reaches d s₀) (requireRmqCfg d) := by
  refine Prog.triple_read_bind fun _ => Prog.triple_when (fun hnone => ?_) fun _ _ h => h.1
  rintro s ⟨h, rfl⟩
  obtain ⟨υ, hυ, hchatter⟩ := chats_loadRabbitMqConfiguration d s.trace
  have hsaid : Reaches d s₀ { s with trace := s.trace ++ υ } := h.tail (.said s s.free hchatter)
  rcases hload : (act (loadRabbitMqConfiguration d)).exec s with ⟨e | rmq, t⟩
  · rw [Prog.exec_bind_error hload]
    rw [exec_act, hυ] at hload
    injection hload with _ ht
    rwa [← ht]
  · rw [Prog.exec_bind_ok hload]
    rw [exec_act] at hload
    injection hload with hrmq ht
    have hread : d.RmqRead rmq := rmqRead_of_load d (Prod.ext hrmq rfl)
    rw [hυ] at ht
    rw [← ht]
    have hloaded := hsaid.tail (.loadedRmq _ rmq (Option.isNone_iff_eq_none.mp hnone) hread)
    exact reaches_act d (.emit rfl) _ hloaded

theorem reaches_requireMessageRouterCfg :
    Prog.Keeps (Reaches d s₀) (requireMessageRouterCfg d) := by
  refine Prog.triple_read_bind fun _ => Prog.triple_when (fun hnone => ?_) fun _ _ h => h.1
  rintro s ⟨h, rfl⟩
  obtain ⟨υ, hυ, hchatter⟩ := chats_loadMessageRouterConfiguration d s.trace
  rcases hload : (act (loadMessageRouterConfiguration d)).exec s with ⟨e | cfg, t⟩
  · have hsaid : Reaches d s₀ { s with trace := s.trace ++ υ } := h.tail (.said s s.free hchatter)
    rw [Prog.exec_bind_error hload]
    rw [exec_act, hυ] at hload
    injection hload with _ ht
    rwa [← ht]
  · have hsaid : Reaches d s₀ { s with free := s.free + 1, trace := s.trace ++ υ } :=
      h.tail (.said s (s.free + 1) hchatter)
    obtain ⟨doc, hread, hdoc⟩ : ∃ doc, d.RouterRead doc ∧ cfg.DecodedFrom doc := by
      rw [exec_act] at hload
      injection hload with hcfg
      exact routerRead_of_load d (Prod.ext hcfg rfl)
    rw [Prog.exec_bind_ok hload, Prog.exec_bind_ok (exec_make cfg t)]
    rw [exec_act, hυ] at hload
    injection hload with _ ht
    rw [← ht]
    have hloaded := hsaid.tail
      (.loadedRouter _ ⟨s.free, cfg⟩ (Option.isNone_iff_eq_none.mp hnone) hread hdoc)
    exact reaches_act d (.emit rfl) _ hloaded

theorem reaches_requireConfigurations : Prog.Keeps (Reaches d s₀) (requireConfigurations d) :=
  Prog.keeps_bind (reaches_requireRmqCfg d) fun _ => reaches_requireMessageRouterCfg d

theorem exec_getRmqConnectionManager_dial (s : Process) :
    ∃ out cm free υ, (getRmqConnectionManager d).exec s = (out, { s with
        factory := { s.factory with rmqConnectionManager := cm }
        free := free
        trace := s.trace ++ υ }) ∧
      Dial d s.factory.rmqCfg s.factory.rmqConnectionManager cm υ ∧
      ((∃ m, cm = some m ∧ out = .ok cm) ∨ ∃ e, cm = none ∧ out = .error e) := by
  rcases hcm : s.factory.rmqConnectionManager with _ | cm
  · have hsame : s.factory = { s.factory with rmqConnectionManager := none } := by rw [← hcm]
    rcases hrmq : s.factory.rmqCfg with _ | rmq
    · refine ⟨.error .nullDereference, none, s.free + 1, creating d s.trace.length, ?_,
        .unconfigured rfl (chatter_creating d s.trace.length), .inr ⟨_, rfl, rfl⟩⟩
      rw [exec_getRmqConnectionManager_none d s hcm hrmq, ← hsame]
    · obtain ⟨out, υ, hshake, ⟨e, rfl, hrun⟩ | ⟨m, rfl, hconn, hchannel, hrun⟩⟩ :=
        exec_getRmqConnectionManager_some d s hcm hrmq
      · refine ⟨.error e, none, s.free + 1, creating d s.trace.length ++ υ, ?_,
          .failed _ rfl (chatter_creating d s.trace.length) hshake, .inr ⟨e, rfl, rfl⟩⟩
        rw [hrun, ← hsame, List.append_assoc]
      · let after : Trace := [.log .debug "connection_manager_ptr init() successful",
          .log .debug "create_rmq_connection_manager() is successful"]
        have hafter : Chatter after := (Chatter.single rfl).append (.single rfl)
        refine ⟨.ok (some ⟨s.free, m⟩), some ⟨s.free, m⟩, s.free + 1,
          creating d s.trace.length ++ υ ++ after, ?_,
          .connected _ rfl (chatter_creating d s.trace.length) hshake hafter hconn hchannel,
          .inl ⟨_, rfl, rfl⟩⟩
        rw [hrun]
        simp only [List.append_assoc, after]
  · refine ⟨.ok (some cm), some cm, s.free, [], ?_, .stored cm, .inl ⟨cm, rfl, rfl⟩⟩
    rw [exec_getRmqConnectionManager_stored d s hcm, List.append_nil, ← hcm]

def Gets (k : RouterKind) (s : Process) : Except Fault RouterPtr × Process → Prop :=
  Prog.Ends (fun router t => Reaches d s t ∧ router = t.factory.routers k ∧ router ≠ none)
    fun _ t => Reaches d s t

theorem gets_stored {c : UInt8} (hc : c ≠ 69) (text : Bytes) {k : RouterKind} {s t : Process}
    (h : Reaches d s t) {router : RouterRef} (hrouter : t.factory.routers k = some router) :
    Gets d k s (.ok (some router), { t with
      trace := t.trace ++ [.log .debug (c :: text ++ utf8 " init()"), .gotRouter k (some router)] }) := by
  have hsaid := h.tail (.said t t.free (Chatter.single (isChatter_log hc (text ++ utf8 " init()"))))
  have hreturned := hsaid.tail (.returned _ k (by rw [hrouter]; nofun))
  refine ⟨?_, hrouter.symm, nofun⟩
  rw [hrouter, List.append_assoc] at hreturned
  exact hreturned

theorem gets_getRouter (k : RouterKind) {c : UInt8} (hc : c ≠ 69) (text : Bytes) (s : Process) :
    Gets d k s ((getRouter d k (c :: text)).exec s) := by
  rcases hrouter : s.factory.routers k with _ | router
  swap
  · rw [exec_getRouter_stored d k (c :: text) s hrouter]
    exact gets_stored d hc text .refl hrouter
  have hcreated : Reaches d s { s with trace := s.trace ++
      [.log .debug (c :: text ++ utf8 " is created " ++ d.address s.trace.length)] } :=
    .single (.said s s.free (Chatter.single (isChatter_log hc _)))
  obtain ⟨out, cm, free, υ, hrun, hdial, ⟨m, rfl, rfl⟩ | ⟨e, rfl, rfl⟩⟩ :=
    exec_getRmqConnectionManager_dial d (halfMade d k (c :: text) s)
  · have hmade := hcreated.tail (.made _ k free hrouter hdial)
    have hcreate := exec_createRouter_ok d k (c :: text) s hrun rfl rfl
    have hnone : (s.factory.routers k).isNone = true := by rw [hrouter, Option.isNone_none]
    rw [exec_getRouter_of d k (c :: text) s
      ((Prog.exec_when_pos hnone (createRouter d k (c :: text)) s).trans hcreate)
      (Function.update_self ..)]
    exact gets_stored d hc text hmade (Function.update_self ..)
  · have hmade := hcreated.tail (.made _ k free hrouter hdial)
    rw [exec_getRouter_error d k (c :: text) s hrouter hrun]
    exact hmade

theorem gets_getter (k : RouterKind) (s : Process) : Gets d k s ((getter d k).exec s) := by
  cases k <;> exact gets_getRouter d _ (by decide) _ s

theorem reaches_getter (k : RouterKind) : Prog.Keeps (Reaches d s₀) (getter d k) := by
  intro s h
  exact (gets_getter d k s).mono (fun _ _ ht => h.trans ht.1) fun _ _ ht => h.trans ht

end AbstractCommonFactory

def Process.withRouters (s : Process) (routers : RouterKind → RouterPtr) : Process :=
  { s with factory := { s.factory with routers := routers } }

theorem Move.routers {d : Deployment} {s t : Process} (h : Move d s t) {k : RouterKind}
    (hk : s.factory.routers k ≠ none) : t.factory.routers k = s.factory.routers k := by
  cases h with
  | made k' free hnone hdial =>
    have hne : k ≠ k' := fun heq => hk (heq ▸ hnone)
    exact Function.update_of_ne hne ..
  | _ => rfl

theorem Reaches.routers {d : Deployment} {s t : Process} (h : Reaches d s t) {k : RouterKind}
    (hk : s.factory.routers k ≠ none) : t.factory.routers k = s.factory.routers k := by
  induction h with
  | refl => rfl
  | tail _ hmove ih => rw [hmove.routers (ih ▸ hk), ih]

namespace AbstractCommonFactory
variable (d : Deployment) {s₀ : Process}

def Evaluated (routers : RouterKind → RouterPtr) (ks : List RouterKind) (s : Process) : Prop :=
  ∀ k ∈ ks, routers k = s.factory.routers k ∧ s.factory.routers k ≠ none

theorem reaches_evaluateArguments (pending ks : List RouterKind) (routers : RouterKind → RouterPtr) :
    Prog.Triple (fun s => Reaches d s₀ s ∧ Evaluated routers ks s)
      (evaluateArguments d routers pending)
      (fun routers s => Reaches d s₀ s ∧ Evaluated routers (ks ++ pending) s)
      fun _ => Reaches d s₀ := by
  induction pending generalizing ks routers with
  | nil =>
    rw [List.append_nil]
    exact fun _ h => h
  | cons k pending ih =>
    refine Prog.triple_bind (Q := fun router s => Reaches d s₀ s ∧
      Evaluated (Function.update routers k router) (ks ++ [k]) s) ?_ fun router => ?_
    · rintro s ⟨h, heval⟩
      refine (gets_getter d k s).mono ?_ fun _ _ ht => h.trans ht
      rintro router t ⟨ht, rfl, hsome⟩
      refine ⟨h.trans ht, fun k' hk' => ?_⟩
      by_cases hk : k' = k
      · subst hk
        exact ⟨Function.update_self .., hsome⟩
      · obtain ⟨hrouters, hne⟩ := heval k' ((List.mem_append.mp hk').resolve_right
          fun hmem => hk (List.mem_singleton.mp hmem))
        rw [Function.update_of_ne hk, Reaches.routers ht hne]
        exact ⟨hrouters, hne⟩
    · have hrest := ih (ks ++ [k]) (Function.update routers k router)
      rwa [List.append_assoc, List.singleton_append] at hrest

theorem replaces_initWith (routers : RouterKind → RouterPtr) (s : Process) :
    Prog.Ends (fun _ u => ∃ t, Reaches d s t ∧ Reaches d (t.withRouters routers) u)
      (fun _ u => Reaches d s u) ((initWith d routers).exec s) := by
  have hinit : Prog.Triple (Reaches d s) (initWith d routers)
      (fun _ u => ∃ t, Reaches d s t ∧ Reaches d (t.withRouters routers) u)
      fun _ u => Reaches d s u := by
    refine Prog.triple_bind (reaches_requireConfigurations d) fun _ =>
      Prog.triple_bind (reaches_act d (.emit rfl)) fun _ => ?_
    intro t ht
    have hend : Reaches d (t.withRouters routers) { t.withRouters routers with
        trace := t.trace ++ [.log .debug "end"] } :=
      .single (.said (t.withRouters routers) t.free (Chatter.single rfl))
    exact ⟨t, ht, hend⟩
  exact hinit s .refl

theorem reaches_finish (pending ks : List RouterKind) (routers : RouterKind → RouterPtr)
    (hall : ∀ k, k ∈ ks ++ pending) :
    Prog.Triple (fun s => Reaches d s₀ s ∧ Evaluated routers ks s)
      (evaluateArguments d routers pending >>= initWith d) (fun _ => Reaches d s₀)
      fun _ => Reaches d s₀ := by
  refine Prog.triple_bind (reaches_evaluateArguments d pending ks routers) fun routers => ?_
  rintro s ⟨h, heval⟩
  refine (replaces_initWith d routers s).mono (fun _ u => ?_) fun _ u hu => h.trans hu
  rintro ⟨t, ht, hu⟩
  -- the four arguments are the stored routers, so assigning them changes nothing
  have hsame : t.withRouters routers = t := by
    have hrouters : routers = t.factory.routers := by
      funext k
      obtain ⟨harg, hne⟩ := heval k (hall k)
      rw [harg, ht.routers hne]
    rw [Process.withRouters, hrouters]
  rw [hsame] at hu
  exact h.trans (ht.trans hu)

theorem reaches_init (order : ArgumentOrder) : Prog.Keeps (Reaches d s₀) (init d order) := by
  refine Prog.keeps_bind (reaches_act d (.emit rfl)) fun _ =>
    Prog.keeps_bind (reaches_requireConfigurations d) fun _ =>
    Prog.keeps_bind (reaches_act d (.emit rfl)) fun _ => ?_
  refine (reaches_finish d order.kinds [] _ order.mem_kinds).conseq ?_ (fun _ _ h => h)
    fun _ _ h => h
  exact fun s h => ⟨h, fun _ hk => absurd hk List.not_mem_nil⟩

end AbstractCommonFactory

end Th2
