import Th2Common.Factory.Connecting

/-! What a getter does to its router. -/

namespace Th2
open Text

theorem modify_append_length {α : Type} (l : List α) (x : α) (f : α → α) :
    (l ++ [x]).modify l.length f = l ++ [f x] := by
  induction l with
  | nil => rfl
  | cons y l ih => exact congrArg (y :: ·) ih

namespace AbstractCommonFactory
variable (d : Deployment) (k : RouterKind) (member : Bytes) (s : Process)

def halfMade : Process :=
  { s with
    factory := { s.factory with
      routers := Function.update s.factory.routers k (some (.own (s.heap k).length)) }
    heap := Function.update s.heap k (s.heap k ++ [{}])
    trace := s.trace ++
      [.log .debug (member ++ utf8 " is created " ++ d.address s.trace.length)] }

theorem exec_createRouter :
    (createRouter d k member).exec s = (getRmqConnectionManager d >>= fun cm =>
      Prog.read >>= fun s' =>
        initRouter k (s.heap k).length cm s'.factory.messageRouterCfg).exec (halfMade d k member s) :=
  rfl

theorem exec_createRouter_ok {cm : SharedPtr ConnectionManager}
    {cfg : SharedPtr MessageRouterConfiguration} {s' : Process}
    (h : (getRmqConnectionManager d).exec (halfMade d k member s) = (.ok cm, s'))
    (hheap : s'.heap = (halfMade d k member s).heap) (hcfg : s'.factory.messageRouterCfg = cfg) :
    (createRouter d k member).exec s = (.ok (), { s' with
      heap := Function.update s.heap k (s.heap k ++ [⟨cm, cfg⟩]) }) := by
  rw [exec_createRouter, Prog.exec_bind_ok h, Prog.exec_bind_ok (Prog.exec_read _), initRouter,
    Prog.exec_update, ← hcfg]
  simp only [hheap, halfMade, Function.update_self, Function.update_idem, modify_append_length]
  rfl

theorem exec_getRouter_of {s' : Process} {router : RouterPtr}
    (hwhen : (Prog.when (s.factory.routers k).isNone (createRouter d k member)).exec s =
      (.ok (), s')) (hrouter : s'.factory.routers k = router) :
    (getRouter d k member).exec s = (.ok router, { s' with
      trace := s'.trace ++ [.log .debug (member ++ utf8 " init()"), .gotRouter k router] }) := by
  unfold getRouter
  rw [Prog.exec_bind_ok (Prog.exec_read _), Prog.exec_bind_ok hwhen]
  simp only [Prog.exec_bind, exec_act, ConnectionManager.exec_logDebug, Prog.exec_read, exec_emit,
    Prog.exec_pure, hrouter, List.append_assoc, List.cons_append, List.nil_append]

theorem exec_getRouter_stored {router : RouterRef} (h : s.factory.routers k = some router) :
    (getRouter d k member).exec s = (.ok (some router), { s with
      trace := s.trace ++ [.log .debug (member ++ utf8 " init()"), .gotRouter k (some router)] }) :=
  exec_getRouter_of d k member s (Prog.exec_when_neg (by simp [h]) _ _) h

theorem exec_getRouter_error (h : s.factory.routers k = none) {e : Fault} {s' : Process}
    (hrun : (getRmqConnectionManager d).exec (halfMade d k member s) = (.error e, s')) :
    (getRouter d k member).exec s = (.error e, s') := by
  unfold getRouter
  rw [Prog.exec_bind_ok (Prog.exec_read _), Prog.exec_bind_error]
  rw [Prog.exec_when_pos (by simp [h]), exec_createRouter, Prog.exec_bind_error hrun]

theorem exists_getter_eq :
    ∃ member, getter d k = getRouter d k member := by
  cases k <;> exact ⟨_, rfl⟩

def Connects (cm : Obj ConnectionManager) : Prop :=
  ∃ free υ, gotRouters υ = [] ∧
    (getRmqConnectionManager d).exec (halfMade d k member s) = (.ok (some cm),
      { halfMade d k member s with
        factory := { (halfMade d k member s).factory with rmqConnectionManager := some cm }
        free := free
        trace := (halfMade d k member s).trace ++ υ })

theorem connects_stored {cm : Obj ConnectionManager}
    (h : s.factory.rmqConnectionManager = some cm) : Connects d k member s cm := by
  refine ⟨s.free, [], rfl, ?_⟩
  have hhalf : (halfMade d k member s).factory.rmqConnectionManager = some cm := h
  rw [exec_getRmqConnectionManager_stored d _ hhalf, List.append_nil, ← hhalf]
  rfl

def madeRouter (cm : Obj ConnectionManager) (cfg : Obj MessageRouterConfiguration) (free : Nat)
    (υ : Trace) : Process :=
  { s with
    factory := { s.factory with
      routers := Function.update s.factory.routers k (some (.own (s.heap k).length))
      rmqConnectionManager := some cm }
    heap := Function.update s.heap k (s.heap k ++ [⟨some cm, some cfg⟩])
    free := free
    trace := s.trace ++ υ }

theorem exec_getRouter_made {cm : Obj ConnectionManager} {cfg : Obj MessageRouterConfiguration}
    (hrouter : s.factory.routers k = none) (hcfg : s.factory.messageRouterCfg = some cfg)
    (hconnects : Connects d k member s cm) :
    ∃ free υ, gotRouters υ = [(k, some (.own (s.heap k).length))] ∧
      (getRouter d k member).exec s =
        (.ok (some (.own (s.heap k).length)), madeRouter k s cm cfg free υ) := by
  obtain ⟨free, υ, hυ, hrun⟩ := hconnects
  have hcreate := exec_createRouter_ok d k member s hrun rfl hcfg
  have hnone : (s.factory.routers k).isNone = true := by rw [hrouter, Option.isNone_none]
  have hwhen := (Prog.exec_when_pos hnone (createRouter d k member) s).trans hcreate
  let before : Trace := [.log .debug (member ++ utf8 " is created " ++ d.address s.trace.length)]
  let after : Trace :=
    [.log .debug (member ++ utf8 " init()"), .gotRouter k (some (.own (s.heap k).length))]
  have htrace : s.trace ++ (before ++ υ ++ after) = (halfMade d k member s).trace ++ υ ++ after := by
    show _ = s.trace ++ before ++ υ ++ after
    simp only [List.append_assoc]
  refine ⟨free, before ++ υ ++ after, ?_, ?_⟩
  · rw [gotRouters_append, gotRouters_append, hυ]
    rfl
  · rw [exec_getRouter_of d k member s hwhen (Function.update_self ..), madeRouter, htrace]
    rfl

end AbstractCommonFactory

end Th2
