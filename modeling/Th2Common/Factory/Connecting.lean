import Th2Common.Factory.AbstractCommonFactory

/-! What the operations of a factory do to its members and to the trace. -/

namespace Th2
open Text
open ConnectionManager (logDebug logError)

def Quiet (υ : Trace) : Prop := amqpPublishes υ = [] ∧ handshakes υ = 0

theorem Quiet.nil : Quiet [] := ⟨rfl, rfl⟩

theorem Quiet.append {υ ω : Trace} (hυ : Quiet υ) (hω : Quiet ω) : Quiet (υ ++ ω) := by
  refine ⟨?_, ?_⟩
  · rw [amqpPublishes_append, hυ.1, hω.1, List.append_nil]
  · rw [handshakes_append, hυ.2, hω.2]

def Output (υ : Trace) : Prop := ∀ e ∈ υ, e.isOutput = true

theorem Output.append {υ ω : Trace} (hυ : Output υ) (hω : Output ω) : Output (υ ++ ω) :=
  fun e he => (List.mem_append.mp he).elim (hυ e) (hω e)

theorem Output.log (level : Level) (text : Bytes) : Output [.log level text] := by
  intro e he
  rw [List.mem_singleton.mp he]
  rfl

theorem Output.quiet {υ : Trace} (h : Output υ) : Quiet υ := by
  constructor
  · apply List.filterMap_eq_nil_iff.mpr
    intro e he
    have houtput : e.isOutput = true := h e he
    cases e <;> first | rfl | cases houtput
  · apply List.countP_eq_zero.mpr
    intro e he
    have houtput : e.isOutput = true := h e he
    cases e <;> first | exact Bool.false_ne_true | cases houtput

theorem Output.gotRouters {υ : Trace} (h : Output υ) : gotRouters υ = [] := by
  apply List.filterMap_eq_nil_iff.mpr
  intro e he
  have houtput : e.isOutput = true := h e he
  cases e <;> first | rfl | cases houtput

def reportPrefix : Bytes := "Exchange: "

/-- Output other than the report that `basic_publish` makes of a publish. -/
def Observation.isChatter : Observation → Bool
  | .stdout _ => true
  | .log level text => level != .debug || !reportPrefix.isPrefixOf text
  | _ => false

def Chatter (υ : Trace) : Prop := ∀ e ∈ υ, e.isChatter = true

namespace Chatter
variable {υ ω : Trace}

theorem nil : Chatter [] := nofun

theorem append (hυ : Chatter υ) (hω : Chatter ω) : Chatter (υ ++ ω) :=
  fun e he => (List.mem_append.mp he).elim (hυ e) (hω e)

theorem single {e : Observation} (h : e.isChatter = true) : Chatter [e] := by
  intro f hf
  rwa [List.mem_singleton.mp hf]

theorem output (h : Chatter υ) : Output υ := by
  intro e he
  have hchatter := h e he
  cases e <;> first | rfl | cases hchatter

end Chatter

theorem isChatter_log {c : UInt8} (hc : c ≠ 69) (text : Bytes) :
    (Observation.log .debug (c :: text)).isChatter = true := by
  have hne : ((69 : UInt8) == c) = false := beq_eq_false_iff_ne.mpr hc.symm
  have hprefix : reportPrefix.isPrefixOf (c :: text) =
      ((69 : UInt8) == c && (reportPrefix.tail).isPrefixOf text) := rfl
  rw [Observation.isChatter, hprefix, hne]
  rfl

def Chats {α : Type} (p : Prog Trace Fault α) : Prop :=
  ∀ τ, ∃ υ, (p.exec τ).2 = τ ++ υ ∧ Chatter υ

namespace Chats
variable {α β : Type}

theorem lift (x : Except Fault α) : Chats (Prog.lift x) := by
  intro τ
  rw [Prog.exec_lift]
  exact ⟨[], (List.append_nil τ).symm, .nil⟩

theorem read : Chats (Prog.read : Prog Trace Fault Trace) :=
  fun τ => ⟨[], (List.append_nil τ).symm, .nil⟩

theorem bind {p : Prog Trace Fault α} {f : α → Prog Trace Fault β} (hp : Chats p)
    (hf : ∀ a, Chats (f a)) : Chats (p >>= f) := by
  intro τ
  obtain ⟨υ, hυ, hchatter⟩ := hp τ
  rcases hrun : p.exec τ with ⟨e | a, τ'⟩
  · rw [hrun] at hυ
    rw [Prog.exec_bind_error hrun]
    exact ⟨υ, hυ, hchatter⟩
  · rw [hrun] at hυ
    obtain ⟨ω, hω, hrest⟩ := hf a τ'
    have hτ : τ' = τ ++ υ := hυ
    rw [Prog.exec_bind_ok hrun, hω, hτ, List.append_assoc]
    exact ⟨υ ++ ω, rfl, hchatter.append hrest⟩

theorem emit {e : Observation} (h : e.isChatter = true) : Chats (emit e) :=
  fun _ => ⟨[e], rfl, .single h⟩

end Chats

namespace AbstractCommonFactory
variable (d : Deployment)

theorem chats_loadRabbitMqConfiguration : Chats (loadRabbitMqConfiguration d) := by
  refine .bind (.emit rfl) fun _ => .bind .read fun τ => ?_
  split
  · exact .bind (.emit rfl) fun _ => .lift _
  · exact .bind (.emit rfl) fun _ => .bind (.emit rfl) fun _ => .bind (.lift _) fun _ => .lift _

theorem chats_loadMessageRouterConfiguration : Chats (loadMessageRouterConfiguration d) := by
  refine .bind (.emit rfl) fun _ => .bind .read fun τ => ?_
  split
  · exact .bind (.emit rfl) fun _ => .lift _
  · exact .bind (.emit rfl) fun _ => .bind (.lift _) fun _ => .lift _

@[simp] theorem exec_act {α : Type} (p : Prog Trace Fault α) (s : Process) :
    (act p).exec s = ((p.exec s.trace).1, { s with trace := (p.exec s.trace).2 }) := rfl

@[simp] theorem exec_make {α : Type} (a : α) (s : Process) :
    (make a).exec s = (.ok ⟨s.free, a⟩, { s with free := s.free + 1 }) := rfl

@[simp] theorem exec_assign (f : AbstractCommonFactory → AbstractCommonFactory) (s : Process) :
    (assign f).exec s = (.ok (), { s with factory := f s.factory }) := rfl

theorem requireRmqCfg_ok {s s' : Process} (h : (requireRmqCfg d).exec s = (.ok (), s')) :
    ∃ rmq υ, Chatter υ ∧ s' = { s with
      factory := { s.factory with rmqCfg := some rmq }
      trace := s.trace ++ υ } := by
  unfold requireRmqCfg at h
  rw [Prog.exec_bind_ok (Prog.exec_read _)] at h
  rcases hcfg : s.factory.rmqCfg with _ | rmq
  · have hnone : s.factory.rmqCfg.isNone = true := by rw [hcfg, Option.isNone_none]
    rw [Prog.exec_when_pos hnone] at h
    obtain ⟨rmq, t, hload, h⟩ := Prog.exec_bind_eq_ok h
    obtain ⟨υ, hυ, hchatter⟩ := chats_loadRabbitMqConfiguration d s.trace
    rw [exec_act, hυ] at hload
    injection hload with _ ht
    subst ht
    injection h with _ hs'
    refine ⟨rmq, υ ++ [.log .debug "rmq_cfg is initialized"], hchatter.append (.single rfl), ?_⟩
    rw [← List.append_assoc]
    exact hs'.symm
  · rw [Prog.exec_when_neg (by simp [hcfg])] at h
    injection h with _ hs'
    refine ⟨rmq, [], nofun, ?_⟩
    rw [List.append_nil, ← hcfg]
    exact hs'.symm

theorem requireMessageRouterCfg_ok {s s' : Process}
    (h : (requireMessageRouterCfg d).exec s = (.ok (), s')) :
    ∃ cfg free υ, Chatter υ ∧ s' = { s with
      factory := { s.factory with messageRouterCfg := some cfg }
      free := free
      trace := s.trace ++ υ } := by
  unfold requireMessageRouterCfg at h
  rw [Prog.exec_bind_ok (Prog.exec_read _)] at h
  rcases hcfg : s.factory.messageRouterCfg with _ | cfg
  · have hnone : s.factory.messageRouterCfg.isNone = true := by rw [hcfg, Option.isNone_none]
    rw [Prog.exec_when_pos hnone] at h
    obtain ⟨cfg, t, hload, h⟩ := Prog.exec_bind_eq_ok h
    obtain ⟨υ, hυ, hchatter⟩ := chats_loadMessageRouterConfiguration d s.trace
    rw [exec_act, hυ] at hload
    injection hload with _ ht
    subst ht
    injection h with _ hs'
    refine ⟨⟨s.free, cfg⟩, s.free + 1, υ ++ [.log .debug "message_router_cfg is initialized"],
      hchatter.append (.single rfl), ?_⟩
    rw [← List.append_assoc]
    exact hs'.symm
  · rw [Prog.exec_when_neg (by simp [hcfg])] at h
    injection h with _ hs'
    refine ⟨cfg, s.free, [], nofun, ?_⟩
    rw [List.append_nil, ← hcfg]
    exact hs'.symm

theorem requireConfigurations_ok {s s' : Process}
    (h : (requireConfigurations d).exec s = (.ok (), s')) :
    ∃ rmq cfg free υ, Chatter υ ∧ s' = { s with
      factory := { s.factory with rmqCfg := some rmq, messageRouterCfg := some cfg }
      free := free
      trace := s.trace ++ υ } := by
  obtain ⟨⟨⟩, t, hrmq, hcfg⟩ := Prog.exec_bind_eq_ok h
  obtain ⟨rmq, υ, hυ, rfl⟩ := requireRmqCfg_ok d hrmq
  obtain ⟨cfg, free, ω, hω, rfl⟩ := requireMessageRouterCfg_ok d hcfg
  exact ⟨rmq, cfg, free, υ ++ ω, hυ.append hω, by rw [← List.append_assoc]⟩

def creating (n : Nat) : Trace :=
  [.log .debug "Start constructor",
    .log .info (utf8 "_debug = " ++
      utf8 (if (d.env.getenv "TH2_COMMON_CPP_DEBUG").isSome then "1" else "0")),
    .log .debug (utf8 "connection_manager_ptr is created " ++ d.address (n + 2))]

theorem chatter_creating (n : Nat) : Chatter (creating d n) :=
  (Chatter.single rfl).append ((Chatter.single rfl).append (.single (isChatter_log (by decide) _)))

theorem exec_creating {α : Type} (cfg : Option RabbitMQConfiguration) (s : Process)
    (p : Obj ConnectionManager → Method α) :
    ∃ cm : ConnectionManager, cm.rmqConfiguration = cfg ∧
      (act (ConnectionManager.construct d.env.getenv cfg) >>= fun cm => make cm >>= fun cm =>
        act (logAddress d "connection_manager_ptr is created ") >>= fun _ => p cm).exec s =
        (p ⟨s.free, cm⟩).exec { s with
          free := s.free + 1
          trace := s.trace ++ creating d s.trace.length } := by
  refine ⟨{ rmqConfiguration := cfg, debug := (d.env.getenv "TH2_COMMON_CPP_DEBUG").isSome }, rfl, ?_⟩
  have hlog (τ : Trace) : (logAddress d "connection_manager_ptr is created ").exec τ =
      (.ok (), τ ++ [.log .debug (utf8 "connection_manager_ptr is created " ++ d.address τ.length)]) :=
    rfl
  unfold ConnectionManager.construct creating
  simp only [Prog.exec_bind, exec_act, exec_make, hlog, ConnectionManager.exec_logDebug,
    ConnectionManager.exec_logInfo, Prog.exec_pure, List.length_append, List.append_assoc]
  rfl

variable (s : Process)

theorem exec_createRmqConnectionManager_none (h : s.factory.rmqCfg = none) :
    (createRmqConnectionManager d).exec s = (.error .nullDereference,
      { s with free := s.free + 1, trace := s.trace ++ creating d s.trace.length }) := by
  unfold createRmqConnectionManager
  rw [Prog.exec_bind_ok (Prog.exec_read _)]
  obtain ⟨cm, hcm, hrun⟩ := exec_creating d s.factory.rmqCfg s fun cm => do
    let done ← act (Prog.onObject (ConnectionManager.init d.amqp) cm.val)
    act (logDebug "connection_manager_ptr init() successful")
    return { cm with val := done.2 }
  rw [hrun, Prog.exec_bind_error]
  rw [exec_act, Prog.exec_onObject_error (ConnectionManager.exec_init_none _ _ _ (hcm.trans h))]

theorem exec_createRmqConnectionManager_some {cfg : RabbitMQConfiguration}
    (h : s.factory.rmqCfg = some cfg) :
    ∃ out cm υ, Handshake cfg (d.amqp.answers (s.trace.length + 3)) out υ ∧
      (out = .ok () → cm.conn = (d.amqp.answers (s.trace.length + 3)).conn ∧ cm.channel = 1) ∧
      (createRmqConnectionManager d).exec s = (out.map fun _ => ⟨s.free, cm⟩, { s with
        free := s.free + 1
        trace := s.trace ++ creating d s.trace.length ++ υ ++
          if out.isOk then [.log .debug "connection_manager_ptr init() successful"] else [] }) := by
  unfold createRmqConnectionManager
  rw [Prog.exec_bind_ok (Prog.exec_read _)]
  obtain ⟨cm, hcm, hrun⟩ := exec_creating d s.factory.rmqCfg s fun cm => do
    let done ← act (Prog.onObject (ConnectionManager.init d.amqp) cm.val)
    act (logDebug "connection_manager_ptr init() successful")
    return { cm with val := done.2 }
  have hlen : (s.trace ++ creating d s.trace.length).length = s.trace.length + 3 := List.length_append
  obtain ⟨out, cm', υ, hinit, hshake, hconn⟩ := ConnectionManager.exec_init d.amqp cfg cm
    (s.trace ++ creating d s.trace.length) (hcm.trans h)
  rw [hlen] at hshake hconn
  refine ⟨out, cm', υ, hshake, hconn, hrun.trans ?_⟩
  let p := Prog.onObject (ConnectionManager.init d.amqp) cm
  let s' : Process := { s with free := s.free + 1, trace := s.trace ++ creating d s.trace.length }
  rcases out with e | ⟨⟩
  · have hfail : (act p).exec s' = (.error e, { s' with trace := s'.trace ++ υ }) := by
      rw [exec_act, Prog.exec_onObject_error hinit]
    rw [Prog.exec_bind_error hfail]
    simp [Except.map, Except.isOk, Except.toBool, s']
  · have hdone : (act p).exec s' = (.ok ((), cm'), { s' with trace := s'.trace ++ υ }) := by
      rw [exec_act, Prog.exec_onObject_ok hinit]
    rw [Prog.exec_bind_ok hdone]
    rfl

theorem exec_getRmqConnectionManager_stored {cm : Obj ConnectionManager}
    (h : s.factory.rmqConnectionManager = some cm) :
    (getRmqConnectionManager d).exec s = (.ok (some cm), s) := by
  unfold getRmqConnectionManager
  rw [Prog.exec_bind_ok (Prog.exec_read _), Prog.exec_bind_ok (Prog.exec_when_neg (by simp [h]) _ _),
    Prog.exec_bind_ok (Prog.exec_read _), h]
  rfl

theorem exec_getRmqConnectionManager_none (h : s.factory.rmqConnectionManager = none)
    (hcfg : s.factory.rmqCfg = none) :
    (getRmqConnectionManager d).exec s = (.error .nullDereference,
      { s with free := s.free + 1, trace := s.trace ++ creating d s.trace.length }) := by
  unfold getRmqConnectionManager
  rw [Prog.exec_bind_ok (Prog.exec_read _), Prog.exec_bind_error]
  rw [Prog.exec_when_pos (by simp [h]),
    Prog.exec_bind_error (exec_createRmqConnectionManager_none d s hcfg)]

theorem exec_getRmqConnectionManager_some (h : s.factory.rmqConnectionManager = none)
    {cfg : RabbitMQConfiguration} (hcfg : s.factory.rmqCfg = some cfg) :
    ∃ out υ, Handshake cfg (d.amqp.answers (s.trace.length + 3)) out υ ∧
      ((∃ e, out = .error e ∧ (getRmqConnectionManager d).exec s = (.error e,
          { s with free := s.free + 1, trace := s.trace ++ creating d s.trace.length ++ υ })) ∨
        ∃ cm : ConnectionManager, out = .ok () ∧
          cm.conn = (d.amqp.answers (s.trace.length + 3)).conn ∧ cm.channel = 1 ∧
          (getRmqConnectionManager d).exec s = (.ok (some ⟨s.free, cm⟩),
            { s with
              factory := { s.factory with rmqConnectionManager := some ⟨s.free, cm⟩ }
              free := s.free + 1
              trace := s.trace ++ creating d s.trace.length ++ υ ++
                [.log .debug "connection_manager_ptr init() successful",
                  .log .debug "create_rmq_connection_manager() is successful"] })) := by
  obtain ⟨out, cm, υ, hshake, hconn, hrun⟩ := exec_createRmqConnectionManager_some d s hcfg
  unfold getRmqConnectionManager
  rw [Prog.exec_bind_ok (Prog.exec_read _)]
  rcases out with e | ⟨⟩
  · refine ⟨_, υ, hshake, .inl ⟨e, rfl, ?_⟩⟩
    rw [Prog.exec_bind_error]
    rw [Prog.exec_when_pos (by simp [h]), Prog.exec_bind_error hrun]
    simp [Except.isOk, Except.toBool]
  · obtain ⟨hc, hch⟩ := hconn rfl
    refine ⟨_, υ, hshake, .inr ⟨cm, rfl, hc, hch, ?_⟩⟩
    rw [Prog.exec_bind_ok (by rw [Prog.exec_when_pos (by simp [h]), Prog.exec_bind_ok hrun,
      Prog.exec_bind_ok (exec_assign _ _), exec_act, ConnectionManager.exec_logDebug]),
      Prog.exec_bind_ok (Prog.exec_read _)]
    simp [Except.isOk, Except.toBool]

end AbstractCommonFactory

end Th2
