import Th2Common.Connection.Handshake
import Th2Common.Lib.Hoare
import Th2Common.Message.Operation

/-! `AbstractCommonFactory`: loading the configurations, connecting to the broker
when a connection is first needed, and the four routers with their getters. -/

namespace Th2
open Text
open ConnectionManager (logDebug logError)

/-- What a factory runs on. A file may be another one, or missing, each time it
is looked for; `address` is how a pointer prints. -/
structure Deployment where
  env : Environment
  amqp : Amqp
  protobuf : Protobuf
  rmqPath : Bytes
  routerPath : Bytes
  rmqFile : Nat → Option Bytes
  routerFile : Nat → Option Bytes
  address : Nat → Bytes

structure AbstractCommonFactory where
  rmqCfg : Option RabbitMQConfiguration := none
  messageRouterCfg : SharedPtr MessageRouterConfiguration := none
  routers : RouterKind → RouterPtr := fun _ => none
  rmqConnectionManager : SharedPtr ConnectionManager := none

/-- A process with one factory: every router the factory has made, the next
free address, and the trace. -/
structure Process where
  factory : AbstractCommonFactory := {}
  heap : RouterKind → List AbstractRabbitMessageRouter := fun _ => []
  free : Nat := 0
  trace : Trace := []

namespace AbstractCommonFactory

abbrev Method (α : Type) : Type := Prog Process Fault α

def act {α : Type} (p : Prog Trace Fault α) : Method α :=
  Prog.zoom Process.trace (fun s τ => { s with trace := τ }) p

def assign (f : AbstractCommonFactory → AbstractCommonFactory) : Method Unit :=
  Prog.update fun s => { s with factory := f s.factory }

def make {α : Type} (a : α) : Method (Obj α) :=
  Prog.zoom Process.free (fun s n => { s with free := n }) (makeShared a)

def logAddress (d : Deployment) (text : Bytes) : Prog Trace Fault Unit := fun τ =>
  (logDebug (text ++ d.address τ.length)).exec τ

def loadRabbitMqConfiguration (d : Deployment) : Prog Trace Fault RabbitMQConfiguration := do
  logDebug "get_path_to_rmq_configuration() is successful"
  let τ ← Prog.read
  match d.rmqFile τ.length with
  | none =>
    logError "std::filesystem::exists(cfg_path) FALSE"
    Prog.lift (throwRuntimeError "Cannot read RabbitMQ configuration")
  | some text =>
    logDebug "load_rabbit_mq_configuration() is successful"
    RabbitMQConfiguration.read d.env d.rmqPath text

def loadMessageRouterConfiguration (d : Deployment) :
    Prog Trace Fault MessageRouterConfiguration := do
  logDebug "get_path_to_message_router_configuration() is successful"
  let τ ← Prog.read
  match d.routerFile τ.length with
  | none =>
    logError "std::filesystem::exists(cfg_path) FALSE"
    Prog.lift (throwRuntimeError "Cannot read MessageRouter configuration")
  | some text => MessageRouterConfiguration.read d.env d.routerPath text

def requireRmqCfg (d : Deployment) : Method Unit := do
  let s ← Prog.read
  Prog.when s.factory.rmqCfg.isNone do
    let cfg ← act (loadRabbitMqConfiguration d)
    assign fun f => { f with rmqCfg := some cfg }
    act (logDebug "rmq_cfg is initialized")

def requireMessageRouterCfg (d : Deployment) : Method Unit := do
  let s ← Prog.read
  Prog.when s.factory.messageRouterCfg.isNone do
    let cfg ← act (loadMessageRouterConfiguration d)
    let cfg ← make cfg
    assign fun f => { f with messageRouterCfg := some cfg }
    act (logDebug "message_router_cfg is initialized")

def requireConfigurations (d : Deployment) : Method Unit := do
  requireRmqCfg d
  requireMessageRouterCfg d

def createRmqConnectionManager (d : Deployment) : Method (Obj ConnectionManager) := do
  let s ← Prog.read
  let cm ← act (ConnectionManager.construct d.env.getenv s.factory.rmqCfg)
  let cm ← make cm
  act (logAddress d "connection_manager_ptr is created ")
  let done ← act (Prog.onObject (ConnectionManager.init d.amqp) cm.val)
  act (logDebug "connection_manager_ptr init() successful")
  return { cm with val := done.2 }

def getRmqConnectionManager (d : Deployment) : Method (SharedPtr ConnectionManager) := do
  let s ← Prog.read
  Prog.when s.factory.rmqConnectionManager.isNone do
    let cm ← createRmqConnectionManager d
    -- not reached when `init` of the manager throws
    assign fun f => { f with rmqConnectionManager := some cm }
    act (logDebug "create_rmq_connection_manager() is successful")
  let s ← Prog.read
  return s.factory.rmqConnectionManager

def makeRouter (k : RouterKind) : Method Nat := do
  let s ← Prog.read
  Prog.update fun s => { s with heap := Function.update s.heap k (s.heap k ++ [{}]) }
  return (s.heap k).length

def setRouter (k : RouterKind) (router : RouterPtr) : Method Unit :=
  assign fun f => { f with routers := Function.update f.routers k router }

def initRouter (k : RouterKind) (number : Nat) (cm : SharedPtr ConnectionManager)
    (cfg : SharedPtr MessageRouterConfiguration) : Method Unit :=
  Prog.update fun s => { s with
    heap := Function.update s.heap k ((s.heap k).modify number fun router => router.init cm cfg) }

def createRouter (d : Deployment) (k : RouterKind) (member : Bytes) : Method Unit := do
  let number ← makeRouter k
  -- the member is set before there is a connection for the router
  setRouter k (some (.own number))
  act (logAddress d (member ++ utf8 " is created "))
  let cm ← getRmqConnectionManager d
  let s ← Prog.read
  initRouter k number cm s.factory.messageRouterCfg

def getRouter (d : Deployment) (k : RouterKind) (member : Bytes) : Method RouterPtr := do
  let s ← Prog.read
  Prog.when (s.factory.routers k).isNone (createRouter d k member)
  act (logDebug (member ++ utf8 " init()"))
  let s ← Prog.read
  act (emit (.gotRouter k (s.factory.routers k)))
  return s.factory.routers k

def getMessageRouterParsedBatch (d : Deployment) : Method RouterPtr :=
  getRouter d .parsedBatch "message_router_parsed_batch"

def getMessageRouterRawBatch (d : Deployment) : Method RouterPtr :=
  getRouter d .rawBatch "message_router_raw_batch"

def getEventBatchRouter (d : Deployment) : Method RouterPtr :=
  getRouter d .eventBatch "event_batch_router"

def getMessageRouterMessageGroupBatch (d : Deployment) : Method RouterPtr :=
  getRouter d .groupBatch "message_router_group_batch"

def getter (d : Deployment) : RouterKind → Method RouterPtr
  | .parsedBatch => getMessageRouterParsedBatch d
  | .rawBatch => getMessageRouterRawBatch d
  | .eventBatch => getEventBatchRouter d
  | .groupBatch => getMessageRouterMessageGroupBatch d

def initWith (d : Deployment) (routers : RouterKind → RouterPtr) : Method Unit := do
  requireConfigurations d
  act (logDebug "init params")
  assign fun f => { f with routers := routers }
  act (logDebug "end")

/-- The order in which a compiler evaluates the four arguments inside `init()`. -/
structure ArgumentOrder where
  kinds : List RouterKind
  perm : kinds.Perm [.parsedBatch, .rawBatch, .eventBatch, .groupBatch]

def ArgumentOrder.leftToRight : ArgumentOrder := ⟨_, .refl _⟩

theorem ArgumentOrder.mem_kinds (order : ArgumentOrder) (k : RouterKind) : k ∈ order.kinds := by
  rw [order.perm.mem_iff]
  cases k <;> decide

def evaluateArguments (d : Deployment) (routers : RouterKind → RouterPtr) :
    List RouterKind → Method (RouterKind → RouterPtr)
  | [] => pure routers
  | k :: ks => do
    let router ← getter d k
    evaluateArguments d (Function.update routers k router) ks

def init (d : Deployment) (order : ArgumentOrder) : Method Unit := do
  act (logDebug "Start init()")
  requireConfigurations d
  act (logDebug "Start init() with params")
  let routers ← evaluateArguments d (fun _ => none) order.kinds
  initWith d routers

end AbstractCommonFactory

inductive FactoryCall
  | init (order : AbstractCommonFactory.ArgumentOrder)
  | initWith (routers : RouterKind → RouterPtr)
  | getter (k : RouterKind)
  | send (k : RouterKind) (number : Nat) (order : WalkOrder Walk) (op : Operation) (b : k.Batch)

namespace FactoryCall
open AbstractCommonFactory

def perform (d : Deployment) : FactoryCall → Method Unit
  | init order => AbstractCommonFactory.init d order
  | initWith routers => AbstractCommonFactory.initWith d routers
  | getter k => do
    let _ ← AbstractCommonFactory.getter d k
    return ()
  | send k number order op b => do
    let s ← Prog.read
    let router ← Prog.lift (deref (s.heap k)[number]?)
    act (op.perform (k.routerClass d.protobuf) ⟨d.amqp, order⟩ router b)

end FactoryCall

/-- The process after the calls: each is made whether or not the ones before it
threw, until one dereferences a null pointer. -/
def Process.run (d : Deployment) (calls : List FactoryCall) (s : Process) : Process :=
  (Prog.attempts isFatal (calls.map (FactoryCall.perform d)) s).2

@[simp] theorem Process.run_nil (d : Deployment) (s : Process) : s.run d [] = s := rfl

theorem Process.run_cons {d : Deployment} {call : FactoryCall} {s s' : Process}
    {out : Except Fault Unit} (h : (call.perform d).exec s = (out, s'))
    (hgo : isFatal out = false) (calls : List FactoryCall) :
    s.run d (call :: calls) = s'.run d calls := by
  rw [run, List.map_cons, Prog.attempts_cons h hgo]
  rfl

end Th2
