import Th2Common.Message.Queue

/-! The routers: choosing the queues for a batch, and the three ways to send it. -/

namespace Th2
open Text

abbrev AliasAndMessageToSend (β : Type) : Type := UMap Bytes β

structure BatchAccess (μ β : Type) where
  getMessages : β → List μ
  addMessages : β → μ → β
  emptyBatch : β

namespace AbstractRabbitBatchMessageRouter
variable {μ β : Type}

def filterFrom (aliases : USet Bytes) : List QueueEntry → Except Fault (USet Bytes)
  | [] => .ok aliases
  | e :: es => do
    let queue ← deref e.2
    if queue.val.filters = [] then filterFrom (aliases.emplace e.1 ()) es else filterFrom aliases es

def filter (o : WalkOrder Walk) (i : Nat) (queues : QueuesMap) (_message : μ) :
    Except Fault (USet Bytes) :=
  filterFrom ∅ (queues.walk o (.filter i))

def regroupFrom (access : BatchAccess μ β) (o : WalkOrder Walk) (queuesMap : QueuesMap)
    (result : AliasAndMessageToSend β) : Nat → List μ → Except Fault (AliasAndMessageToSend β)
  | _, [] => .ok result
  | i, msg :: msgs => do
    let aliases ← filter o i queuesMap msg
    regroupFrom access o queuesMap (Regroup.placeAll access.emptyBatch access.addMessages result msg
      (aliases.walkKeys o (.aliases i))) (i + 1) msgs

def findByFilter (access : BatchAccess μ β) (o : WalkOrder Walk) (queuesMap : QueuesMap)
    (batch : β) : Except Fault (AliasAndMessageToSend β) :=
  regroupFrom access o queuesMap ∅ 0 (access.getMessages batch)

end AbstractRabbitBatchMessageRouter

def EventBatchRouter.findByFilter (o : WalkOrder Walk) (queuesMap : QueuesMap) (msg : EventBatch) :
    Except Fault (AliasAndMessageToSend EventBatch) :=
  .ok ((∅ : AliasAndMessageToSend EventBatch).emplaceAll
    ((queuesMap.walk o .found).map fun e => ⟨e.1, msg⟩))

/-- What a class of routers defines for itself: its virtual functions, the last
of them by the class of the queues that `create_queue` makes. -/
structure RouterClass (β : Type) where
  findByFilter : WalkOrder Walk → QueuesMap → β → Except Fault (AliasAndMessageToSend β)
  requiredSubscribeAttributes : List Bytes
  requiredSendAttributes : List Bytes
  queueClass : AbstractRabbitQueue β

def parsedBatchAccess : BatchAccess Message MessageBatch where
  getMessages batch := batch.messages
  addMessages batch msg := { batch with messages := batch.messages ++ [msg] }
  emptyBatch := {}

def rawBatchAccess : BatchAccess RawMessage RawMessageBatch where
  getMessages batch := batch.messages
  addMessages batch msg := { batch with messages := batch.messages ++ [msg] }
  emptyBatch := {}

def groupBatchAccess : BatchAccess MessageGroup MessageGroupBatch where
  getMessages batch := batch.groups
  addMessages batch msg := { batch with groups := batch.groups ++ [msg] }
  emptyBatch := {}

/-- Its subscribe attributes ask for `raw`, as in the source. -/
def RabbitParsedBatchRouter (pb : Protobuf) : RouterClass MessageBatch where
  findByFilter := AbstractRabbitBatchMessageRouter.findByFilter parsedBatchAccess
  requiredSubscribeAttributes := [utf8 "raw", utf8 "subscribe"]
  requiredSendAttributes := [utf8 "parsed", utf8 "publish"]
  queueClass := RabbitParsedBatchQueue pb

def RabbitRawBatchRouter (pb : Protobuf) : RouterClass RawMessageBatch where
  findByFilter := AbstractRabbitBatchMessageRouter.findByFilter rawBatchAccess
  requiredSubscribeAttributes := [utf8 "raw", utf8 "subscribe"]
  requiredSendAttributes := [utf8 "raw", utf8 "publish"]
  queueClass := RabbitRawBatchQueue pb

def RabbitMessageGroupBatchRouter (pb : Protobuf) : RouterClass MessageGroupBatch where
  findByFilter := AbstractRabbitBatchMessageRouter.findByFilter groupBatchAccess
  requiredSubscribeAttributes := [utf8 "raw", utf8 "subscribe"]
  requiredSendAttributes := [utf8 "raw", utf8 "publish"]
  queueClass := RabbitMessageGroupBatchQueue pb

def EventBatchRouter (pb : Protobuf) : RouterClass EventBatch where
  findByFilter := EventBatchRouter.findByFilter
  requiredSubscribeAttributes := [utf8 "event", utf8 "subscribe"]
  requiredSendAttributes := [utf8 "event", utf8 "publish"]
  queueClass := EventBatchQueue pb

namespace RouterKind

def Batch : RouterKind → Type
  | parsedBatch => MessageBatch
  | rawBatch => RawMessageBatch
  | eventBatch => EventBatch
  | groupBatch => MessageGroupBatch

def routerClass (pb : Protobuf) : (k : RouterKind) → RouterClass k.Batch
  | parsedBatch => RabbitParsedBatchRouter pb
  | rawBatch => RabbitRawBatchRouter pb
  | eventBatch => EventBatchRouter pb
  | groupBatch => RabbitMessageGroupBatchRouter pb

end RouterKind

structure AbstractRabbitMessageRouter where
  connectionManager : SharedPtr ConnectionManager := none
  messageRouterConfiguration : SharedPtr MessageRouterConfiguration := none

structure Surroundings where
  amqp : Amqp
  order : WalkOrder Walk

namespace AbstractRabbitMessageRouter
variable {β : Type}

def init (_router : AbstractRabbitMessageRouter) (connectionManager : SharedPtr ConnectionManager)
    (messageRouterConfiguration : SharedPtr MessageRouterConfiguration) :
    AbstractRabbitMessageRouter :=
  { connectionManager := connectionManager
    messageRouterConfiguration := messageRouterConfiguration }

def getConfiguration (router : AbstractRabbitMessageRouter) :
    Except Fault MessageRouterConfiguration :=
  match router.messageRouterConfiguration with
  | none => throwRuntimeError "Router is not initialized"
  | some cfg => .ok cfg.val

def createQueue (c : RouterClass β) (connectionManager : SharedPtr ConnectionManager)
    (queueConfiguration : QueueConfigurationPtr) :
    Prog Trace Fault (AbstractRabbitQueue β × Nat) := do
  let made ← Prog.onLocal (AbstractRabbitQueue.init connectionManager queueConfiguration)
    (c.queueClass, 0)
  return made.2

def getMessageQueue (c : RouterClass β) (router : AbstractRabbitMessageRouter) (queueAlias : Bytes) :
    Prog Trace Fault (AbstractRabbitQueue β × Nat) := do
  emit (.getMessageQueue queueAlias)
  throwIf router.connectionManager.isNone "Router is not initialized"
  let cfg ← Prog.lift router.getConfiguration
  let queueByAlias ← Prog.lift (cfg.getQueueByAlias queueAlias)
  createQueue c router.connectionManager queueByAlias

def sendTo (c : RouterClass β) (amqp : Amqp) (router : AbstractRabbitMessageRouter)
    (e : Sigma fun _ : Bytes => β) : Prog Trace Fault Unit := do
  let queue ← router.getMessageQueue c e.1
  let sender ← Prog.onLocal AbstractRabbitQueue.getSender queue
  sender.1.val.send amqp e.2

def sendMap (c : RouterClass β) (w : Surroundings) (router : AbstractRabbitMessageRouter)
    (aliasAndMessageToSend : AliasAndMessageToSend β) : Prog Trace Fault Unit :=
  Prog.forEach (aliasAndMessageToSend.walk w.order .result) (router.sendTo c w.amqp)

def findByAttrAndFilter (c : RouterClass β) (o : WalkOrder Walk)
    (router : AbstractRabbitMessageRouter) (batch : β) (queueAttributes : List Bytes) :
    Except Fault (AliasAndMessageToSend β) := do
  let cfg ← router.getConfiguration
  let filteredByAttr ← cfg.findQueuesByAttr o queueAttributes
  c.findByFilter o filteredByAttr batch

/-- `!req_send_attributes.empty() ? find_queues_by_attr(req_send_attributes) : get_queues()` -/
def requiredQueues (c : RouterClass β) (o : WalkOrder Walk) (cfg : MessageRouterConfiguration) :
    Except Fault QueuesMap :=
  if c.requiredSendAttributes ≠ [] then cfg.findQueuesByAttr o c.requiredSendAttributes
  else .ok cfg.getQueues

def findRequired (c : RouterClass β) (o : WalkOrder Walk) (router : AbstractRabbitMessageRouter)
    (batch : β) : Except Fault (AliasAndMessageToSend β) := do
  let cfg ← router.getConfiguration
  let queues ← requiredQueues c o cfg
  c.findByFilter o queues batch

def send (c : RouterClass β) (w : Surroundings) (router : AbstractRabbitMessageRouter) (batch : β) :
    Prog Trace Fault Unit := do
  let found ← Prog.lift (router.findRequired c w.order batch)
  throwIf (found.entries.length ≠ 1)
    (utf8 "Wrong count of queues for send. Should be equal to 1. Find queues = " ++
      decimal found.entries.length)
  router.sendMap c w found

def sendByAttributes (c : RouterClass β) (w : Surroundings) (router : AbstractRabbitMessageRouter)
    (batch : β) (queueAttributes : List Bytes) : Prog Trace Fault Unit := do
  let found ← Prog.lift (router.findByAttrAndFilter c w.order batch queueAttributes)
  throwIf (found.entries.length ≠ 1) "Wrong size of queues for send. Should be equal to 1"
  router.sendMap c w found

def sendAll (c : RouterClass β) (w : Surroundings) (router : AbstractRabbitMessageRouter) (batch : β)
    (queueAttributes : List Bytes) : Prog Trace Fault Unit := do
  let found ← Prog.lift (router.findByAttrAndFilter c w.order batch queueAttributes)
  throwIf (found.entries = []) "Wrong size of queues for send. Can't be equal to 0"
  router.sendMap c w found

end AbstractRabbitMessageRouter

end Th2
