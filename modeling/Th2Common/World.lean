import Th2Common.Lib.Json
import Th2Common.Lib.Prog

/-! What surrounds the program: how calls end, shared pointers, the calls into
the AMQP library with its answers, and the trace of everything observable. -/

namespace Th2
open Text

inductive Exn
  | runtimeError (what : Bytes)
  | logicError (what : Bytes)
  | json (e : Json.Error)
  | numeral (e : NumeralError)
  deriving DecidableEq, Repr

/-- How a call ends that does not return. Nothing is known after the dereference of a null pointer. -/
inductive Fault
  | thrown (e : Exn)
  | nullDereference
  deriving DecidableEq, Repr

def isFatal {α : Type} : Except Fault α → Bool
  | .error .nullDereference => true
  | _ => false

def throwRuntimeError {α : Type} (what : Bytes) : Except Fault α := .error (.thrown (.runtimeError what))

def throwIf {σ : Type} (c : Prop) [Decidable c] (what : Bytes) : Prog σ Fault Unit :=
  Prog.raiseIf c (.thrown (.runtimeError what))

structure Obj (α : Type) where
  addr : Nat
  val : α

abbrev SharedPtr (α : Type) : Type := Option (Obj α)

def makeShared {α : Type} (a : α) : Prog Nat Fault (Obj α) := fun n => (.ok ⟨n, a⟩, n + 1)

def deref {α : Type} : Option α → Except Fault α
  | some a => .ok a
  | none => .error .nullDereference

def ofJson {α : Type} : Except Json.Error α → Except Fault α
  | .ok a => .ok a
  | .error e => .error (.thrown (.json e))

def ofNumeral {α : Type} : Except NumeralError α → Except Fault α
  | .ok a => .ok a
  | .error e => .error (.thrown (.numeral e))

theorem ofJson_eq_ok {α : Type} {x : Except Json.Error α} {a : α} (h : ofJson x = .ok a) :
    x = .ok a := by
  cases x <;> cases h
  rfl

def getAt {α : Type} (j : Json) (key : Bytes) (get : Json → Except Json.Error α) : Except Fault α :=
  ofJson (j.valueAt key >>= get)

theorem getAt_eq_ok {α : Type} {j : Json} {key : Bytes} {get : Json → Except Json.Error α} {a : α}
    (h : getAt j key get = .ok a) : ∃ v, j.find? key = some v ∧ get v = .ok a := by
  rcases hv : j.valueAt key with e | v
  · rw [getAt, hv] at h
    cases h
  · refine ⟨v, Json.valueAt_eq_ok.mp hv, ?_⟩
    rw [getAt, hv] at h
    change ofJson (get v) = _ at h
    rcases hg : get v with e | x <;> rw [hg] at h <;> cases h
    rfl

theorem getAt_eq_ok_iff {α : Type} {j : Json} {key : Bytes} {get : Json → Except Json.Error α}
    {a : α} : getAt j key get = .ok a ↔ ∃ v, j.find? key = some v ∧ get v = .ok a := by
  refine ⟨getAt_eq_ok, fun ⟨v, hv, ha⟩ => ?_⟩
  have hbind : (j.valueAt key >>= get) = .ok a := by
    rw [Json.valueAt_eq_ok.mpr hv]
    exact ha
  rw [getAt, hbind]
  rfl

theorem getAt_getString {j : Json} {key s : Bytes} :
    getAt j key Json.getString = .ok s ↔ j.find? key = some (.string s) := by
  rw [getAt_eq_ok_iff]
  constructor
  · rintro ⟨v, hv, hs⟩
    rw [hv, Json.getString_eq_ok.mp hs]
  · exact fun h => ⟨_, h, rfl⟩

theorem getAt_getStrings {j : Json} {key : Bytes} {ss : List Bytes} :
    getAt j key Json.getStrings = .ok ss ↔ j.find? key = some (.array (ss.map .string)) := by
  rw [getAt_eq_ok_iff]
  constructor
  · rintro ⟨v, hv, hs⟩
    rw [hv, Json.getStrings_eq_ok_iff.mp hs]
  · exact fun h => ⟨_, h, Json.getStrings_eq_ok_iff.mpr rfl⟩

theorem getAt_congr {α : Type} {j j' : Json} {key : Bytes} (h : j'.valueAt key = j.valueAt key)
    (get : Json → Except Json.Error α) : getAt j' key get = getAt j key get := by
  rw [getAt, getAt, h]

theorem bind_eq_ok {α β : Type} {x : Except Fault α} {f : α → Except Fault β} {b : β} :
    (x >>= f) = .ok b ↔ ∃ a, x = .ok a ∧ f a = .ok b := by
  constructor
  · intro h
    rcases x with e | a
    · cases h
    · exact ⟨a, rfl, h⟩
  · rintro ⟨a, rfl, h⟩
    exact h

theorem isFatal_bind {α β : Type} {x : Except Fault α} {f : α → Except Fault β}
    (hx : isFatal x = false) (hf : ∀ a, isFatal (f a) = false) : isFatal (x >>= f) = false := by
  rcases x with e | a
  · cases e with
    | thrown e => rfl
    | nullDereference => cases hx
  · exact hf a

theorem isFatal_getAt {α : Type} (j : Json) (key : Bytes) (get : Json → Except Json.Error α) :
    isFatal (getAt j key get) = false := by
  unfold getAt ofJson
  split <;> rfl

theorem thrown_of_not_fatal {α : Type} {x : Except Fault α} (hok : ∀ a, x ≠ .ok a)
    (hgo : isFatal x = false) : ∃ e, x = .error (.thrown e) := by
  rcases x with e | a
  · cases e with
    | thrown e => exact ⟨e, rfl⟩
    | nullDereference => cases hgo
  · exact absurd rfl (hok a)

abbrev Connection : Type := Nat

inductive ReplyType
  | none
  | normal
  | libraryException
  | serverException
  deriving DecidableEq, Repr

structure BasicProperties where
  contentType : Bytes
  deliveryMode : Nat
  headers : Nat
  deriving DecidableEq, Repr

structure PublishFrame where
  conn : Connection
  channel : Int
  exchange : Bytes
  routingKey : Bytes
  mandatory : Nat
  immediate : Nat
  properties : BasicProperties
  body : Bytes
  deriving DecidableEq, Repr

inductive Level
  | debug
  | info
  | error
  deriving DecidableEq, Repr

inductive RouterKind
  | parsedBatch
  | rawBatch
  | eventBatch
  | groupBatch
  deriving DecidableEq, Repr

/-- A router object: one that the factory made, by its number, or one from outside. -/
inductive RouterRef
  | own (number : Nat)
  | outside (number : Nat)
  deriving DecidableEq, Repr

abbrev RouterPtr : Type := Option RouterRef

/-- Output, calls into the AMQP library with their answers, the calls of
`get_message_queue` and `basic_publish` that lead to them, and what a getter of
the factory returns. -/
inductive Observation
  | stdout (text : Bytes)
  | log (level : Level) (text : Bytes)
  | amqpNewConnection (conn : Connection)
  | amqpTcpSocketNew (conn : Connection) (socket : Option Connection)
  | amqpSocketOpen (socket : Option Connection) (host : Bytes) (port : Int) (status : Int)
  | amqpLogin (conn : Connection) (vhost user password : Bytes) (reply : ReplyType)
  | amqpChannelOpen (conn : Connection) (channel : Int)
  | amqpGetRpcReply (conn : Connection) (reply : ReplyType)
  | amqpBasicPublish (frame : PublishFrame) (result : Int)
  | getMessageQueue (queueAlias : Bytes)
  | basicPublish (exchange routingKey message : Bytes)
  | gotRouter (kind : RouterKind) (router : RouterPtr)
  deriving DecidableEq, Repr

abbrev Trace : Type := List Observation

def Observation.isOutput : Observation → Bool
  | .stdout _ => true
  | .log _ _ => true
  | _ => false

/-- The answers of the library: every call is answered by its place in the
trace, so any sequence of answers is possible. A socket is known by its connection. -/
structure Amqp where
  newConnection : Nat → Connection
  tcpSocketNew : Nat → Bool
  socketOpen : Nat → Option Connection → Int
  login : Nat → ReplyType
  getRpcReply : Nat → ReplyType
  basicPublish : Nat → Int
  socketOpen_null : ∀ n, socketOpen n none ≠ 0

def Amqp.accepting : Amqp where
  newConnection n := n + 1
  tcpSocketNew _ := true
  socketOpen _ socket := if socket = none then -1 else 0
  login _ := .normal
  getRpcReply _ := .normal
  basicPublish _ := 0
  socketOpen_null _ := by decide

def emit (e : Observation) : Prog Trace Fault Unit := Prog.update (· ++ [e])

def ask {ρ : Type} (answer : Nat → ρ) (event : ρ → Observation) : Prog Trace Fault ρ := fun τ =>
  (.ok (answer τ.length), τ ++ [event (answer τ.length)])

@[simp] theorem exec_emit (e : Observation) (τ : Trace) : Prog.exec (emit e) τ = (.ok (), τ ++ [e]) := rfl

@[simp] theorem exec_ask {ρ : Type} (answer : Nat → ρ) (event : ρ → Observation) (τ : Trace) :
    Prog.exec (ask answer event) τ = (.ok (answer τ.length), τ ++ [event (answer τ.length)]) := rfl

structure Environment where
  getenv : Bytes → Option Bytes
  parse : Bytes → Except Json.Error Document

/-- `std::cout << cfg_file.string() << ": \n" << stream.rdbuf() << std::endl;` An
empty file fails the stream before the end of the line. -/
def dumpFile (cfgFile text : Bytes) : Bytes :=
  cfgFile ++ utf8 ": \n" ++ text ++ if text = [] then [] else utf8 "\n"

theorem dumpFile_injective (cfgFile : Bytes) : Function.Injective (dumpFile cfgFile) := by
  intro text text' h
  unfold dumpFile at h
  rw [List.append_assoc, List.append_assoc _ text'] at h
  have hrest := List.append_cancel_left h
  by_cases htext : text = [] <;> by_cases htext' : text' = []
  · rw [htext, htext']
  · rw [if_pos htext, if_neg htext', htext] at hrest
    exact absurd (List.append_eq_nil_iff.mp hrest.symm).1 htext'
  · rw [if_neg htext, if_pos htext', htext'] at hrest
    exact absurd (List.append_eq_nil_iff.mp hrest).1 htext
  · rw [if_neg htext, if_neg htext'] at hrest
    exact List.append_cancel_right hrest

def basicPublishes (τ : Trace) : List (Bytes × Bytes × Bytes) :=
  τ.filterMap fun e => match e with
    | .basicPublish exchange routingKey message => some (exchange, routingKey, message)
    | _ => none

def amqpPublishes (τ : Trace) : List (PublishFrame × Int) :=
  τ.filterMap fun e => match e with
    | .amqpBasicPublish frame result => some (frame, result)
    | _ => none

def stdoutText (τ : Trace) : Bytes :=
  τ.flatMap fun e => match e with
    | .stdout text => text
    | _ => []

def logMessages (τ : Trace) : List (Level × Bytes) :=
  τ.filterMap fun e => match e with
    | .log level text => some (level, text)
    | _ => none

def gotRouters (τ : Trace) : List (RouterKind × RouterPtr) :=
  τ.filterMap fun e => match e with
    | .gotRouter kind router => some (kind, router)
    | _ => none

@[simp] theorem basicPublishes_append (τ υ : Trace) :
    basicPublishes (τ ++ υ) = basicPublishes τ ++ basicPublishes υ := List.filterMap_append

@[simp] theorem amqpPublishes_append (τ υ : Trace) :
    amqpPublishes (τ ++ υ) = amqpPublishes τ ++ amqpPublishes υ := List.filterMap_append

@[simp] theorem gotRouters_append (τ υ : Trace) :
    gotRouters (τ ++ υ) = gotRouters τ ++ gotRouters υ := List.filterMap_append

end Th2
