import Th2Common.World
import Th2Common.Lib.Unordered

/-! `QueueConfiguration` and `MessageRouterConfiguration`: the file that names
the queues, and the search for queues by their attributes. -/

namespace Th2
open Text

structure QueueConfiguration where
  routingKey : Bytes := []
  queue : Bytes := []
  exchange : Bytes := []
  attributes : List Bytes := []
  filters : List Json := []
  isReadable : Bool := true
  isWritable : Bool := true

abbrev QueueConfigurationPtr : Type := SharedPtr QueueConfiguration

abbrev QueuesMap : Type := UMap Bytes QueueConfigurationPtr

abbrev QueueEntry : Type := Sigma fun _ : Bytes => QueueConfigurationPtr

namespace QueueConfiguration

def containsAllAttributes (q : QueueConfiguration) : List Bytes → Bool
  | [] => true
  | attr :: attrs => if attr ∈ q.attributes then q.containsAllAttributes attrs else false

/-- `from_json` for a `QueueConfiguration`; the body of `if (j.contains("filters"))` is empty. -/
def fromJson (j : Json) (cfg : QueueConfiguration) : Except Fault QueueConfiguration := do
  let cfg := { cfg with queue := ← getAt j "queue" Json.getString }
  let cfg := { cfg with routingKey := ← getAt j "name" Json.getString }
  let cfg := { cfg with exchange := ← getAt j "exchange" Json.getString }
  let cfg := { cfg with attributes := ← getAt j "attributes" Json.getStrings }
  return cfg

def orMakeShared : QueueConfigurationPtr → Prog Nat Fault (Obj QueueConfiguration)
  | none => makeShared {}
  | some cfg => pure cfg

def fromJsonPtr (j : Json) (cfg : QueueConfigurationPtr) : Prog Nat Fault QueueConfigurationPtr := do
  let cfg ← orMakeShared cfg
  let cfg := { cfg with val.queue := ← Prog.lift (getAt j "queue" Json.getString) }
  let cfg := { cfg with val.routingKey := ← Prog.lift (getAt j "name" Json.getString) }
  let cfg := { cfg with val.exchange := ← Prog.lift (getAt j "exchange" Json.getString) }
  let cfg := { cfg with val.attributes := ← Prog.lift (getAt j "attributes" Json.getStrings) }
  return some cfg

theorem containsAllAttributes_iff (q : QueueConfiguration) (attrs : List Bytes) :
    q.containsAllAttributes attrs = true ↔ ∀ a ∈ attrs, a ∈ q.attributes := by
  induction attrs with
  | nil => simp [containsAllAttributes]
  | cons attr attrs ih =>
    unfold containsAllAttributes
    split
    · next h => simp [ih, h]
    · next h => simp [h]

end QueueConfiguration

structure MessageRouterConfiguration where
  queues : QueuesMap := ∅

/-- The places where a hash map or a hash set is walked. A walk inside the loop
over the messages of a batch may choose its order for each message anew. -/
inductive Walk
  | queues
  | found
  | filter (message : Nat)
  | aliases (message : Nat)
  | result

namespace MessageRouterConfiguration

def decodeQueues : List (Bytes × Json) → Prog Nat Fault (List QueueEntry)
  | [] => pure []
  | m :: ms => do
    let q ← QueueConfiguration.fromJsonPtr m.2 none
    let rest ← decodeQueues ms
    return ⟨m.1, q⟩ :: rest

def fromJson (j : Json) (cfg : MessageRouterConfiguration) :
    Prog Nat Fault MessageRouterConfiguration := do
  let queues ← Prog.lift (getAt j "queues" Json.getMembers)
  let entries ← decodeQueues queues
  return { cfg with queues := (∅ : QueuesMap).emplaceAll entries }

def read (env : Environment) (cfgFile text : Bytes) : Prog Trace Fault MessageRouterConfiguration := do
  emit (.stdout (dumpFile cfgFile text))
  let js ← Prog.lift (ofJson (env.parse text))
  Prog.lift ((fromJson js.root {}).exec 0).1

def getQueueByAlias (cfg : MessageRouterConfiguration) (queueAlias : Bytes) :
    Except Fault QueueConfigurationPtr :=
  match cfg.queues.lookup queueAlias with
  | some q => .ok q
  | none => throwRuntimeError (utf8 "Queue [" ++ queueAlias ++ utf8 "] is not exist")

def collectByAttr (attr : List Bytes) (queuesMap : QueuesMap) :
    List QueueEntry → Except Fault QueuesMap
  | [] => .ok queuesMap
  | e :: es => do
    let queue ← deref e.2
    if queue.val.containsAllAttributes attr then collectByAttr attr (queuesMap.emplace e.1 e.2) es
    else collectByAttr attr queuesMap es

def findQueuesByAttr (o : WalkOrder Walk) (cfg : MessageRouterConfiguration) (attr : List Bytes) :
    Except Fault QueuesMap :=
  collectByAttr attr ∅ (cfg.queues.walk o .queues)

def getQueues (cfg : MessageRouterConfiguration) : QueuesMap := cfg.queues

end MessageRouterConfiguration

end Th2
