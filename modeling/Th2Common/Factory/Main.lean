import Th2Common.Factory.CommonFactory

/-! `main`: a factory, its `init()`, and ten batches through each of three routers. -/

namespace Th2
open Text AbstractCommonFactory
open ConnectionManager (logDebug logInfo)

/-- What a run of the program depends on besides its machine: the compiler's order of
arguments, the order of every walk, and what the banner says of the build. The copy of a
batch that a round writes has its own order of map entries. -/
structure Build where
  order : ArgumentOrder
  walks : Nat → WalkOrder Walk
  entries : RouterKind → Nat → WalkOrder Unit
  banner : Bytes

namespace Main

def batchTotal : Nat := 10

def second : Int32 := 1

def success : Int32 := 0

def properties : UMap Bytes Bytes :=
  ((∅ : UMap Bytes Bytes).assign "requestId" (decimal 0)).assign "requestRef" (decimal 1)

def metadata (o : WalkOrder Unit) : RawMessageMetadata where
  id := some { connectionId := some { sessionAlias := "session_alias" }, direction := second }
  timestamp := some { seconds := 1234, nanos := 5678 }
  properties := properties.arranged o ()

def rawBatch (o : WalkOrder Unit) : RawMessageBatch where
  messages := [{ metadata := some (metadata o), body := "Message body" }]

/-- The id goes to a copy of the event's, and so not into the event. -/
def eventBatch : EventBatch where
  events := [{ startTimestamp := some { seconds := 1234, nanos := 5678 }
               endTimestamp := some { seconds := 2345, nanos := 6789 }
               status := success
               name := "Demo_event"
               type := "Example"
               body := "Event body" }]

def groupBatch (o : WalkOrder Unit) : MessageGroupBatch where
  groups := [{ messages :=
    [.rawMessage { metadata := some (metadata o), body := "Group message body" }] }]

end Main

/-- `router->send(batch)`, through the pointer that a getter has returned. The program
gives the factory no router from outside. -/
def sendThrough (d : Deployment) (walks : Nat → WalkOrder Walk) (k : RouterKind) (router : RouterPtr)
    (batch : k.Batch) : Method Unit := do
  let s ← Prog.read
  match router with
  | some (.own number) =>
    FactoryCall.perform d (.send k number (walks s.trace.length) .send batch)
  | _ => Prog.lift (.error .nullDereference)

def sendBatches (d : Deployment) (walks : Nat → WalkOrder Walk) (k : RouterKind)
    (batch : Nat → k.Batch) (headline got sent : Bytes) : Method Unit := do
  act (emit (.stdout headline))
  let router ← getter d k
  act (logDebug got)
  Prog.forEach (List.range Main.batchTotal) fun i => do
    sendThrough d walks k router (batch i)
    act (logDebug sent)

def createFactory (m : Machine) (argv : List Bytes) : Prog Trace Fault CommonFactory :=
  if argv.length > 1 then Prog.lift (CommonFactory.createFromArguments m argv)
  else CommonFactory.construct m

def afterInit (d : Deployment) (build : Build) : Method Unit := do
  act (logInfo "factory->init() successful")
  sendBatches d build.walks .rawBatch (fun i => Main.rawBatch (build.entries .rawBatch i))
    "Sending raw messages\n"
    "auto raw_router = factory->get_message_router_raw_batch()" "raw_router->send(batch)"
  sendBatches d build.walks .eventBatch (fun _ => Main.eventBatch) "Sending events\n"
    "auto event_router = factory->get_event_batch_router()" "event_router->send(event_batch)"
  sendBatches d build.walks .groupBatch (fun i => Main.groupBatch (build.entries .groupBatch i))
    "Sending group messages\n"
    "auto group_router = factory->get_message_router_message_group_batch()" "group_router->send(batch)"
  act (emit (.stdout "Finished\n"))
  act (logInfo "---end main()---")

def main (m : Machine) (build : Build) (argv : List Bytes) : Method Unit := do
  act (logInfo (utf8 "---start main()---\nBuild time: " ++ build.banner))
  let factory ← act (createFactory m argv)
  act (logInfo (utf8 "auto factory is initialized. argc = " ++ decimal argv.length))
  let d := factory.deployment m
  init d build.order
  afterInit d build

theorem exec_createFactory (m : Machine) (argv : List Bytes) (τ : Trace) :
    ∃ υ, (createFactory m argv).exec τ = (CommonFactory.chosen m argv, τ ++ υ) ∧ Chatter υ := by
  unfold createFactory CommonFactory.chosen
  split
  · exact ⟨[], by rw [Prog.exec_lift, List.append_nil], .nil⟩
  · exact CommonFactory.exec_construct m τ

end Th2
