import Th2Common.Factory.Moves

/-! A factory that has loaded its configurations and is connected: no operation
fails any more, and each kind has one router. -/

namespace Th2
open Text AbstractCommonFactory
open ConnectionManager (logDebug)

structure Idle (cm : Obj ConnectionManager) (cfg : Obj MessageRouterConfiguration) (s : Process) :
    Prop where
  rmqCfg : s.factory.rmqCfg ≠ none
  configuration : s.factory.messageRouterCfg = some cfg
  manager : s.factory.rmqConnectionManager = some cm
  routers : ∀ k, (s.factory.routers k = none ∧ s.heap k = []) ∨
    (s.factory.routers k = some (.own 0) ∧ s.heap k = [⟨some cm, some cfg⟩])
  returned : ∀ x ∈ gotRouters s.trace,
    x.2 = some (.own 0) ∧ s.factory.routers x.1 = some (.own 0)

namespace Idle
variable {d : Deployment} {cm : Obj ConnectionManager} {cfg : Obj MessageRouterConfiguration}
  {s t : Process}

theorem append (h : Idle cm cfg s) {υ : Trace}
    (hυ : ∀ x ∈ gotRouters υ, x.2 = some (.own 0) ∧ s.factory.routers x.1 = some (.own 0))
    (free : Nat) : Idle cm cfg { s with free := free, trace := s.trace ++ υ } where
  rmqCfg := h.rmqCfg
  configuration := h.configuration
  manager := h.manager
  routers := h.routers
  returned x hx := by
    rw [gotRouters_append] at hx
    exact (List.mem_append.mp hx).elim (h.returned x) (hυ x)

theorem quiet (h : Idle cm cfg s) {υ : Trace} (hυ : gotRouters υ = []) (free : Nat) :
    Idle cm cfg { s with free := free, trace := s.trace ++ υ } :=
  h.append (fun _ hx => absurd (hυ ▸ hx) List.not_mem_nil) free

theorem heap_of_stored (h : Idle cm cfg s) {k : RouterKind}
    (hk : s.factory.routers k = some (.own 0)) : s.heap k = [⟨some cm, some cfg⟩] := by
  rcases h.routers k with ⟨hnone, -⟩ | ⟨-, hheap⟩
  · rw [hnone] at hk
    cases hk
  · exact hheap

theorem heap_of_none (h : Idle cm cfg s) {k : RouterKind} (hk : s.factory.routers k = none) :
    s.heap k = [] := by
  rcases h.routers k with ⟨-, hheap⟩ | ⟨hstored, -⟩
  · exact hheap
  · rw [hk] at hstored
    cases hstored

theorem stored_of_some (h : Idle cm cfg s) {k : RouterKind} (hk : s.factory.routers k ≠ none) :
    s.factory.routers k = some (.own 0) :=
  (h.routers k).elim (fun hnone => absurd hnone.1 hk) And.left

theorem made (h : Idle cm cfg s) {k : RouterKind} (hnone : s.factory.routers k = none)
    (free : Nat) {υ : Trace} (hυ : gotRouters υ = []) :
    Idle cm cfg { s with
      factory := { s.factory with
        routers := Function.update s.factory.routers k (some (.own (s.heap k).length))
        rmqConnectionManager := some cm }
      heap := Function.update s.heap k (s.heap k ++ [⟨some cm, some cfg⟩])
      free := free
      trace := s.trace ++ υ } := by
  refine ⟨h.rmqCfg, h.configuration, rfl, fun k' => ?_, fun x hx => ?_⟩
  · dsimp only
    by_cases hk : k' = k
    · subst hk
      rw [Function.update_self, Function.update_self, h.heap_of_none hnone]
      exact .inr ⟨rfl, rfl⟩
    · rw [Function.update_of_ne hk, Function.update_of_ne hk]
      exact h.routers k'
  · rw [gotRouters_append, hυ, List.append_nil] at hx
    obtain ⟨hown, hstored⟩ := h.returned x hx
    have hne : x.1 ≠ k := fun heq => by
      rw [heq, hnone] at hstored
      cases hstored
    exact ⟨hown, (Function.update_of_ne hne ..).trans hstored⟩

theorem move (h : Idle cm cfg s) (hmove : Move d s t) : Idle cm cfg t := by
  cases hmove with
  | said free hchatter => exact h.quiet hchatter.output.gotRouters free
  | loadedRmq rmq hnone hread => exact absurd hnone h.rmqCfg
  | loadedRouter cfg' hnone hread hdoc =>
    rw [h.configuration] at hnone
    cases hnone
  | made k free hnone hdial =>
    rw [h.manager] at hdial
    cases hdial
    have hmade := h.made hnone free (υ := []) rfl
    rwa [← h.configuration] at hmade
  | returned k hsome =>
    refine h.append (fun _ hx => ?_) s.free
    rw [List.mem_singleton.mp hx]
    exact ⟨h.stored_of_some hsome, h.stored_of_some hsome⟩

theorem reaches (h : Idle cm cfg s) (hst : Reaches d s t) : Idle cm cfg t := by
  induction hst with
  | refl => exact h
  | tail _ hmove ih => exact ih.move hmove

theorem exec_getter (d : Deployment) (h : Idle cm cfg s) (k : RouterKind) :
    ∃ t, (getter d k).exec s = (.ok (some (.own 0)), t) ∧ Reaches d s t ∧
      t.factory.routers k = some (.own 0) := by
  obtain ⟨member, hmember⟩ := exists_getter_eq d k
  obtain ⟨router, t, hrun⟩ : ∃ router t, (getter d k).exec s = (.ok router, t) := by
    rw [hmember]
    rcases h.routers k with ⟨hnone, -⟩ | ⟨hstored, -⟩
    · obtain ⟨free, υ, -, hrun⟩ := exec_getRouter_made d k member s hnone h.configuration
        (connects_stored d k member s h.manager)
      exact ⟨_, _, hrun⟩
    · exact ⟨_, _, exec_getRouter_stored d k member s hstored⟩
  have hgets := gets_getter d k s
  rw [hrun] at hgets
  obtain ⟨hreaches, hrouter, hsome⟩ := hgets
  have hstored := (h.reaches hreaches).stored_of_some (hrouter ▸ hsome)
  exact ⟨t, by rw [hrun, hrouter, hstored], hreaches, hstored⟩

end Idle

namespace AbstractCommonFactory
variable {cm : Obj ConnectionManager} {cfg : Obj MessageRouterConfiguration} (d : Deployment)

theorem exec_requireConfigurations_loaded {s : Process} (hrmq : s.factory.rmqCfg ≠ none)
    (hcfg : s.factory.messageRouterCfg = some cfg) :
    (requireConfigurations d).exec s = (.ok (), s) := by
  have hrmq' : ¬s.factory.rmqCfg.isNone = true := by
    rw [Option.isNone_iff_eq_none]
    exact hrmq
  have hcfg' : ¬s.factory.messageRouterCfg.isNone = true := by
    rw [hcfg, Option.isNone_some]
    exact Bool.false_ne_true
  have hfirst : (requireRmqCfg d).exec s = (.ok (), s) := Prog.exec_when_neg hrmq' _ s
  have hsecond : (requireMessageRouterCfg d).exec s = (.ok (), s) := Prog.exec_when_neg hcfg' _ s
  unfold requireConfigurations
  rw [Prog.exec_bind_ok hfirst, hsecond]

theorem returns_getter (k : RouterKind) :
    Prog.Triple (Idle cm cfg) (getter d k) (fun _ => Idle cm cfg) fun _ _ => False := by
  intro s h
  obtain ⟨t, hrun, hreaches, -⟩ := h.exec_getter d k
  rw [hrun]
  exact h.reaches hreaches

theorem returns_evaluateArguments (ks : List RouterKind) (arguments : RouterKind → RouterPtr) :
    Prog.Triple (Idle cm cfg) (evaluateArguments d arguments ks) (fun _ => Idle cm cfg)
      fun _ _ => False := by
  induction ks generalizing arguments with
  | nil => exact fun _ h => h
  | cons k ks ih => exact Prog.triple_bind (returns_getter d k) fun _ => ih _

theorem returns_initWith (arguments : RouterKind → RouterPtr) :
    Prog.Triple (Idle cm cfg) (initWith d arguments) (fun _ _ => True) fun _ _ => False := by
  intro s h
  unfold initWith
  rw [Prog.exec_bind_ok (exec_requireConfigurations_loaded d h.rmqCfg h.configuration)]
  trivial

theorem returns_finish (ks : List RouterKind) (arguments : RouterKind → RouterPtr) :
    Prog.Triple (Idle cm cfg) (evaluateArguments d arguments ks >>= initWith d) (fun _ _ => True)
      fun _ _ => False :=
  Prog.triple_bind (returns_evaluateArguments d ks arguments) fun _ => returns_initWith d _

theorem Idle.exec_finish {s : Process} (h : Idle cm cfg s) (pending ks : List RouterKind)
    (arguments : RouterKind → RouterPtr) (hall : ∀ k, k ∈ ks ++ pending)
    (heval : Evaluated arguments ks s) :
    ∃ t, (evaluateArguments d arguments pending >>= initWith d).exec s = (.ok (), t) ∧
      Idle cm cfg t := by
  have hreturns := returns_finish d pending arguments s h
  have hreaches := reaches_finish d pending ks arguments hall s ⟨.refl, heval⟩
  rcases hrun : (evaluateArguments d arguments pending >>= initWith d).exec s with ⟨e | ⟨⟩, t⟩ <;>
    rw [hrun] at hreturns hreaches
  · exact absurd hreturns not_false
  · exact ⟨t, rfl, h.reaches hreaches⟩

theorem returns_init (order : ArgumentOrder) :
    Prog.Triple (Idle cm cfg) (init d order) (fun _ => Idle cm cfg) fun _ _ => False := by
  have hsaid {s : Process} (text : Bytes) (h : Idle cm cfg s) :
      Idle cm cfg { s with trace := s.trace ++ [.log .debug text] } := h.quiet rfl s.free
  intro s h
  have hbegin := hsaid "Start init()" h
  have hparams := hsaid "Start init() with params" hbegin
  obtain ⟨t, hrun, hidle⟩ := Idle.exec_finish d hparams order.kinds [] (fun _ => none) order.mem_kinds
    fun _ hk => absurd hk List.not_mem_nil
  have hinit : (init d order).exec s = (.ok (), t) := by
    rw [← hrun]
    exact Prog.exec_bind_ok (exec_requireConfigurations_loaded d hbegin.rmqCfg hbegin.configuration)
  rw [hinit]
  exact hidle

structure Loaded (rmq : RabbitMQConfiguration) (cfg : Obj MessageRouterConfiguration)
    (s : Process) : Prop where
  rmqCfg : s.factory.rmqCfg = some rmq
  messageRouterCfg : s.factory.messageRouterCfg = some cfg
  routers : s.factory.routers = fun _ => none
  manager : s.factory.rmqConnectionManager = none
  heap : s.heap = fun _ => []
  returned : gotRouters s.trace = []

theorem Loaded.connects {rmq : RabbitMQConfiguration} {s : Process} (h : Loaded rmq cfg s)
    (k : RouterKind) (member : Bytes) :
    ((∃ port, stoi rmq.port = .ok port) ∧ (d.amqp.answers (s.trace.length + 4)).Good ∧
      ∃ cm, Connects d k member s cm) ∨
    (¬((∃ port, stoi rmq.port = .ok port) ∧ (d.amqp.answers (s.trace.length + 4)).Good) ∧
      ∃ e s', (getRmqConnectionManager d).exec (halfMade d k member s) = (.error e, s') ∧
        isFatal (Except.error e : Except Fault Unit) = false ∧
        s'.factory.routers k = some (.own 0) ∧ s'.heap k = [{}]) := by
  have hlen : (halfMade d k member s).trace.length + 3 = s.trace.length + 4 := by
    rw [halfMade, List.length_append]
    rfl
  obtain ⟨out, υ, hshake, hcases⟩ := exec_getRmqConnectionManager_some d (halfMade d k member s)
    h.manager h.rmqCfg
  rw [hlen] at hshake hcases
  have hok := hshake.eq_ok_iff
  rcases hcases with ⟨e, rfl, hrun⟩ | ⟨cm, rfl, -, -, hrun⟩
  · have hbad : ¬((∃ port, stoi rmq.port = .ok port) ∧
        (d.amqp.answers (s.trace.length + 4)).Good) := by
      intro hgood
      cases hok.mpr hgood
    refine .inr ⟨hbad, e, _, hrun, hshake.not_fatal, ?_, ?_⟩
    · simp [halfMade, h.heap]
    · simp [halfMade, h.heap]
  · obtain ⟨hport, hgood⟩ := hok.mp rfl
    rw [List.append_assoc, List.append_assoc] at hrun
    refine .inl ⟨hport, hgood, _, _, _, ?_, hrun⟩
    rw [gotRouters_append, gotRouters_append, (chatter_creating d _).output.gotRouters, hshake.gotRouters]
    rfl

theorem Loaded.idle {rmq : RabbitMQConfiguration} {s : Process} (h : Loaded rmq cfg s)
    (k : RouterKind) {free : Nat} {υ : Trace}
    (hυ : gotRouters υ = [(k, some (.own (s.heap k).length))]) :
    Idle cm cfg (madeRouter k s cm cfg free υ) := by
  have hheap : (s.heap k).length = 0 := by
    rw [h.heap]
    rfl
  have hstored : (madeRouter k s cm cfg free υ).factory.routers k = some (.own 0) := by
    simp only [madeRouter, Function.update_self, hheap]
  refine ⟨?_, h.messageRouterCfg, rfl, fun k' => ?_, fun x hx => ?_⟩
  · simp only [madeRouter, h.rmqCfg]
    exact Option.some_ne_none _
  · by_cases hk : k' = k
    · subst hk
      refine .inr ⟨hstored, ?_⟩
      simp only [madeRouter, Function.update_self, List.length_eq_zero_iff.mp hheap,
        List.nil_append]
    · simp only [madeRouter, Function.update_of_ne hk, h.routers, h.heap]
      exact .inl ⟨trivial, trivial⟩
  · have htrace : gotRouters (madeRouter k s cm cfg free υ).trace = [(k, some (.own 0))] := by
      simp only [madeRouter, gotRouters_append, h.returned, hυ, hheap, List.nil_append]
    rw [htrace] at hx
    obtain rfl := List.mem_singleton.mp hx
    exact ⟨rfl, hstored⟩

/-- The first attempt to connect decides about everything: either it succeeds and nothing
fails any more, or a router is left stored and empty. -/
theorem Loaded.exec_arguments {rmq : RabbitMQConfiguration} {s : Process} (h : Loaded rmq cfg s)
    (order : ArgumentOrder) :
    ((∃ port, stoi rmq.port = .ok port) ∧ (d.amqp.answers (s.trace.length + 4)).Good ∧
      ∃ cm t, (evaluateArguments d (fun _ => none) order.kinds >>= initWith d).exec s =
        (.ok (), t) ∧ Idle cm cfg t) ∨
    (¬((∃ port, stoi rmq.port = .ok port) ∧ (d.amqp.answers (s.trace.length + 4)).Good) ∧
      ∃ k e t, (evaluateArguments d (fun _ => none) order.kinds >>= initWith d).exec s =
        (.error e, t) ∧ isFatal (Except.error e : Except Fault Unit) = false ∧
        t.factory.routers k = some (.own 0) ∧ t.heap k = [{}]) := by
  obtain ⟨k, ks, hks⟩ : ∃ k ks, order.kinds = k :: ks := by
    apply List.exists_cons_of_length_pos
    rw [order.perm.length_eq]
    decide
  obtain ⟨member, hmember⟩ := exists_getter_eq d k
  have hbegin : (evaluateArguments d (fun _ => none) order.kinds >>= initWith d).exec s =
      ((getRouter d k member >>= fun router =>
        evaluateArguments d (Function.update (fun _ => none) k router) ks) >>= initWith d).exec s := by
    rw [hks, ← hmember]
    rfl
  have hnone : s.factory.routers k = none := congrFun h.routers k
  rw [hbegin]
  rcases h.connects d k member with
    ⟨hport, hgood, cm, hconnects⟩ | ⟨hbad, e, t, hrun, hfatal, hstored, hheap⟩
  · obtain ⟨free, υ, hυ, hrun⟩ := exec_getRouter_made d k member s hnone h.messageRouterCfg hconnects
    have hidle : Idle cm cfg (madeRouter k s cm cfg free υ) := h.idle k hυ
    have heval : Evaluated (Function.update (fun _ => none) k (some (.own (s.heap k).length))) [k]
        (madeRouter k s cm cfg free υ) := by
      intro k' hk'
      rw [List.mem_singleton.mp hk']
      simp only [madeRouter, Function.update_self]
      exact ⟨trivial, Option.some_ne_none _⟩
    have hall : ∀ k', k' ∈ [k] ++ ks := by
      rw [List.singleton_append, ← hks]
      exact order.mem_kinds
    obtain ⟨t, hfinish, ht⟩ := Idle.exec_finish d hidle ks [k] _ hall heval
    rw [Prog.exec_bind_bind_ok hrun]
    exact .inl ⟨hport, hgood, cm, t, hfinish, ht⟩
  · have hget := exec_getRouter_error d k member s hnone hrun
    exact .inr ⟨hbad, k, e, t, Prog.exec_bind_error (Prog.exec_bind_error hget), hfatal, hstored,
      hheap⟩

end AbstractCommonFactory

end Th2
