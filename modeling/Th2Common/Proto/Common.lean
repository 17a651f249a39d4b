import Th2Common.Lib.ProtoMessage

/-! The messages of `common.proto` that the four routers carry, with the fields
they are written as and read back from. A map field stands in one fixed order of its
entries; unknown fields are not part of a value. -/

namespace Th2
open Wire ProtoMessage

structure Timestamp where
  seconds : Int64 := 0
  nanos : Int32 := 0

instance : ProtoMessage Timestamp where
  blank := {}
  fields t := scalar 1 (int64Payload t.seconds) (t.seconds == 0) ++
    scalar 2 (int32Payload t.nanos) (t.nanos == 0)
  mergeField t f := match f with
    | ⟨1, .varint n⟩ => some { t with seconds := toInt64 n }
    | ⟨2, .varint n⟩ => some { t with nanos := toInt32 n }
    | _ => some t

structure ConnectionID where
  sessionAlias : Bytes := []

instance : ProtoMessage ConnectionID where
  blank := {}
  fields c := scalar 1 (.len c.sessionAlias) (c.sessionAlias == [])
  mergeField c f := match f with
    | ⟨1, .len s⟩ => some { c with sessionAlias := s }
    | _ => some c

/-- `direction` is an open enumeration: any 32-bit number can be stored. -/
structure MessageID where
  connectionId : Option ConnectionID := none
  direction : Int32 := 0
  sequence : Int64 := 0
  subsequence : List UInt32 := []

instance : ProtoMessage MessageID where
  blank := {}
  fields m := singular 1 m.connectionId ++ scalar 2 (int32Payload m.direction) (m.direction == 0) ++
    scalar 3 (int64Payload m.sequence) (m.sequence == 0) ++
    scalar 4 (.len (writePacked m.subsequence)) (m.subsequence == [])
  mergeField m f := match f with
    | ⟨1, .len bs⟩ => (mergeOptional m.connectionId bs).map fun c => { m with connectionId := c }
    | ⟨2, .varint n⟩ => some { m with direction := toInt32 n }
    | ⟨3, .varint n⟩ => some { m with sequence := toInt64 n }
    | ⟨4, .len bs⟩ =>
      (readPacked bs.length bs).map fun ns => { m with subsequence := m.subsequence ++ ns }
    | ⟨4, .varint n⟩ => some { m with subsequence := m.subsequence ++ [UInt32.ofNat n] }
    | _ => some m

structure EventID where
  id : Bytes := []

instance : ProtoMessage EventID where
  blank := {}
  fields e := scalar 1 (.len e.id) (e.id == [])
  mergeField e f := match f with
    | ⟨1, .len s⟩ => some { e with id := s }
    | _ => some e

def stringMap (number : Nat) (m : UMap Bytes Bytes) : List Field :=
  m.entries.map fun e => message number (⟨e.1, e.2⟩ : StringEntry)

def mergeStringMap (m : UMap Bytes Bytes) (bs : Bytes) : Option (UMap Bytes Bytes) :=
  (decode bs : Option StringEntry).map fun e => m.assign e.key e.value

structure MessageMetadata where
  id : Option MessageID := none
  timestamp : Option Timestamp := none
  messageType : Bytes := []
  properties : UMap Bytes Bytes := ∅
  protocol : Bytes := []

instance : ProtoMessage MessageMetadata where
  blank := {}
  fields m := singular 1 m.id ++ singular 2 m.timestamp ++
    scalar 3 (.len m.messageType) (m.messageType == []) ++ stringMap 4 m.properties ++
    scalar 5 (.len m.protocol) (m.protocol == [])
  mergeField m f := match f with
    | ⟨1, .len bs⟩ => (mergeOptional m.id bs).map fun x => { m with id := x }
    | ⟨2, .len bs⟩ => (mergeOptional m.timestamp bs).map fun x => { m with timestamp := x }
    | ⟨3, .len s⟩ => some { m with messageType := s }
    | ⟨4, .len bs⟩ => (mergeStringMap m.properties bs).map fun x => { m with properties := x }
    | ⟨5, .len s⟩ => some { m with protocol := s }
    | _ => some m

structure RawMessageMetadata where
  id : Option MessageID := none
  timestamp : Option Timestamp := none
  properties : UMap Bytes Bytes := ∅
  protocol : Bytes := []

instance : ProtoMessage RawMessageMetadata where
  blank := {}
  fields m := singular 1 m.id ++ singular 2 m.timestamp ++ stringMap 3 m.properties ++
    scalar 4 (.len m.protocol) (m.protocol == [])
  mergeField m f := match f with
    | ⟨1, .len bs⟩ => (mergeOptional m.id bs).map fun x => { m with id := x }
    | ⟨2, .len bs⟩ => (mergeOptional m.timestamp bs).map fun x => { m with timestamp := x }
    | ⟨3, .len bs⟩ => (mergeStringMap m.properties bs).map fun x => { m with properties := x }
    | ⟨4, .len s⟩ => some { m with protocol := s }
    | _ => some m

structure RawMessage where
  metadata : Option RawMessageMetadata := none
  body : Bytes := []

instance : ProtoMessage RawMessage where
  blank := {}
  fields m := singular 1 m.metadata ++ scalar 2 (.len m.body) (m.body == [])
  mergeField m f := match f with
    | ⟨1, .len bs⟩ => (mergeOptional m.metadata bs).map fun x => { m with metadata := x }
    | ⟨2, .len s⟩ => some { m with body := s }
    | _ => some m

mutual
inductive Value
  | notSet
  | nullValue (v : Int32)
  | simpleValue (s : Bytes)
  | messageValue (m : Message)
  | listValue (values : List Value)

inductive Message
  | mk (metadata : Option MessageMetadata) (fields : List (Bytes × Value))
      (parentEventId : Option EventID)
end

def Message.empty : Message := .mk none [] none

mutual
/-- A member of a oneof is written even when it has its default. -/
def Value.wire : Value → List Field
  | .notSet => []
  | .nullValue v => [⟨1, int32Payload v⟩]
  | .simpleValue s => [⟨2, .len s⟩]
  | .messageValue m => [⟨3, .len (writeFields m.wire)⟩]
  | .listValue values => [⟨4, .len (writeFields (wireValues values))⟩]

def wireValues : List Value → List Field
  | [] => []
  | v :: vs => ⟨1, .len (writeFields v.wire)⟩ :: wireValues vs

def wireEntries : List (Bytes × Value) → List Field
  | [] => []
  | e :: es =>
    ⟨2, .len (writeFields [⟨1, .len e.1⟩, ⟨2, .len (writeFields e.2.wire)⟩])⟩ :: wireEntries es

def Message.wire : Message → List Field
  | .mk metadata fields parentEventId =>
    singular 1 metadata ++ wireEntries fields ++ singular 3 parentEventId
end

def assignField (fields : List (Bytes × Value)) (key : Bytes) (value : Value) :
    List (Bytes × Value) :=
  if key ∈ fields.map Prod.fst then fields.map fun e => if e.1 = key then (key, value) else e
  else fields ++ [(key, value)]

def Message.mergeFieldWith (entry : Bytes → Option (Bytes × Value)) (m : Message) (f : Field) :
    Option Message :=
  match m, f with
  | .mk metadata fields parentEventId, ⟨1, .len bs⟩ =>
    (mergeOptional metadata bs).map fun x => .mk x fields parentEventId
  | .mk metadata fields parentEventId, ⟨2, .len bs⟩ =>
    (entry bs).map fun e => .mk metadata (assignField fields e.1 e.2) parentEventId
  | .mk metadata fields parentEventId, ⟨3, .len bs⟩ =>
    (mergeOptional parentEventId bs).map fun x => .mk metadata fields x
  | m, _ => some m

mutual
/-- The recursive messages are read with fuel; a payload is shorter than what it is
part of, so the length of an encoding is fuel enough for it. -/
def Value.merge : Nat → Value → Bytes → Option Value
  | 0, v, bs => if bs = [] then some v else none
  | fuel + 1, v, bs => (parse bs).bind fun fs => fs.foldlM (fun v f => match f with
    | ⟨1, .varint n⟩ => some (.nullValue (toInt32 n))
    | ⟨2, .len s⟩ => some (.simpleValue s)
    | ⟨3, .len bs⟩ =>
      (Message.merge fuel (match v with | .messageValue m => m | _ => Message.empty) bs).map .messageValue
    | ⟨4, .len bs⟩ =>
      (mergeValues fuel (match v with | .listValue vs => vs | _ => []) bs).map .listValue
    | _ => some v) v

def mergeValues : Nat → List Value → Bytes → Option (List Value)
  | 0, vs, bs => if bs = [] then some vs else none
  | fuel + 1, vs, bs => (parse bs).bind fun fs => fs.foldlM (fun vs f => match f with
    | ⟨1, .len bs⟩ => (Value.merge fuel .notSet bs).map fun v => vs ++ [v]
    | _ => some vs) vs

def mergeEntry : Nat → Bytes × Value → Bytes → Option (Bytes × Value)
  | 0, e, bs => if bs = [] then some e else none
  | fuel + 1, e, bs => (parse bs).bind fun fs => fs.foldlM (fun e f => match f with
    | ⟨1, .len s⟩ => some (s, e.2)
    | ⟨2, .len bs⟩ => (Value.merge fuel e.2 bs).map fun v => (e.1, v)
    | _ => some e) e

def Message.merge : Nat → Message → Bytes → Option Message
  | 0, m, bs => if bs = [] then some m else none
  | fuel + 1, m, bs => (parse bs).bind fun fs =>
    fs.foldlM (Message.mergeFieldWith (mergeEntry fuel ([], .notSet))) m
end

instance : ProtoMessage Message where
  blank := Message.empty
  fields := Message.wire
  mergeField := Message.mergeFieldWith fun bs => mergeEntry bs.length ([], .notSet) bs

inductive AnyMessage
  | notSet
  | message (m : Message)
  | rawMessage (m : RawMessage)

instance : ProtoMessage AnyMessage where
  blank := .notSet
  fields a := match a with
    | .notSet => []
    | .message m => [ProtoMessage.message 1 m]
    | .rawMessage m => [ProtoMessage.message 2 m]
  mergeField a f := match f with
    | ⟨1, .len bs⟩ => (mergeFrom (match a with | .message m => m | _ => blank) bs).map .message
    | ⟨2, .len bs⟩ =>
      (mergeFrom (match a with | .rawMessage m => m | _ => blank) bs).map .rawMessage
    | _ => some a

structure MessageGroup where
  messages : List AnyMessage := []

instance : ProtoMessage MessageGroup where
  blank := {}
  fields g := repeated 1 g.messages
  mergeField g f := match f with
    | ⟨1, .len bs⟩ => (decode bs).map fun m => { g with messages := g.messages ++ [m] }
    | _ => some g

structure MessageBatch where
  messages : List Message := []

instance : ProtoMessage MessageBatch where
  blank := {}
  fields b := repeated 1 b.messages
  mergeField b f := match f with
    | ⟨1, .len bs⟩ => (decode bs).map fun m => { b with messages := b.messages ++ [m] }
    | _ => some b

structure RawMessageBatch where
  messages : List RawMessage := []

structure MessageGroupBatch where
  groups : List MessageGroup := []

instance : ProtoMessage MessageGroupBatch where
  blank := {}
  fields b := repeated 1 b.groups
  mergeField b f := match f with
    | ⟨1, .len bs⟩ => (decode bs).map fun g => { b with groups := b.groups ++ [g] }
    | _ => some b

structure Event where
  id : Option EventID := none
  parentId : Option EventID := none
  startTimestamp : Option Timestamp := none
  endTimestamp : Option Timestamp := none
  status : Int32 := 0
  name : Bytes := []
  type : Bytes := []
  body : Bytes := []
  attachedMessageIds : List MessageID := []

instance : ProtoMessage Event where
  blank := {}
  fields e := singular 1 e.id ++ singular 2 e.parentId ++ singular 3 e.startTimestamp ++
    singular 4 e.endTimestamp ++ scalar 5 (int32Payload e.status) (e.status == 0) ++
    scalar 6 (.len e.name) (e.name == []) ++ scalar 7 (.len e.type) (e.type == []) ++
    scalar 8 (.len e.body) (e.body == []) ++ repeated 9 e.attachedMessageIds
  mergeField e f := match f with
    | ⟨1, .len bs⟩ => (mergeOptional e.id bs).map fun x => { e with id := x }
    | ⟨2, .len bs⟩ => (mergeOptional e.parentId bs).map fun x => { e with parentId := x }
    | ⟨3, .len bs⟩ => (mergeOptional e.startTimestamp bs).map fun x => { e with startTimestamp := x }
    | ⟨4, .len bs⟩ => (mergeOptional e.endTimestamp bs).map fun x => { e with endTimestamp := x }
    | ⟨5, .varint n⟩ => some { e with status := toInt32 n }
    | ⟨6, .len s⟩ => some { e with name := s }
    | ⟨7, .len s⟩ => some { e with type := s }
    | ⟨8, .len s⟩ => some { e with body := s }
    | ⟨9, .len bs⟩ =>
      (decode bs).map fun m => { e with attachedMessageIds := e.attachedMessageIds ++ [m] }
    | _ => some e

structure EventBatch where
  parentEventId : Option EventID := none
  events : List Event := []

instance : ProtoMessage EventBatch where
  blank := {}
  fields b := singular 1 b.parentEventId ++ repeated 2 b.events
  mergeField b f := match f with
    | ⟨1, .len bs⟩ => (mergeOptional b.parentEventId bs).map fun x => { b with parentEventId := x }
    | ⟨2, .len bs⟩ => (decode bs).map fun e => { b with events := b.events ++ [e] }
    | _ => some b

end Th2
