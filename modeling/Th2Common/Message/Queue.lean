import Th2Common.Message.Configuration
import Th2Common.Message.Sender

/-! `AbstractRabbitQueue`: a queue object makes its sender when it is first asked for it. -/

namespace Th2
open Text

/-- An `AbstractRabbitQueue`; the class of the object says which sender it makes. -/
structure AbstractRabbitQueue (β : Type) where
  senderClass : AbstractRabbitSender β
  connectionManager : SharedPtr ConnectionManager := none
  queueConfiguration : QueueConfigurationPtr := none
  sender : SharedPtr (AbstractRabbitSender β) := none

def RabbitParsedBatchQueue (pb : Protobuf) : AbstractRabbitQueue MessageBatch :=
  { senderClass := { valueToBytes := RabbitParsedBatchSender.valueToBytes pb } }

def RabbitRawBatchQueue (pb : Protobuf) : AbstractRabbitQueue RawMessageBatch :=
  { senderClass := { valueToBytes := RabbitRawBatchSender.valueToBytes pb } }

def RabbitMessageGroupBatchQueue (pb : Protobuf) : AbstractRabbitQueue MessageGroupBatch :=
  { senderClass := { valueToBytes := RabbitMessageGroupBatchSender.valueToBytes pb } }

def EventBatchQueue (pb : Protobuf) : AbstractRabbitQueue EventBatch :=
  { senderClass := { valueToBytes := EventBatchSender.valueToBytes pb } }

namespace AbstractRabbitQueue
variable {β : Type}

abbrev Method (β α : Type) : Type := Prog (AbstractRabbitQueue β × Nat) Fault α

def init (connectionManager : SharedPtr ConnectionManager)
    (queueConfiguration : QueueConfigurationPtr) : Method β Unit := do
  throwIf connectionManager.isNone "Connection can not be null"
  let s ← Prog.read
  throwIf s.1.connectionManager.isSome "Queue is already initialized"
  Prog.update fun s => ({ s.1 with
    connectionManager := connectionManager
    queueConfiguration := queueConfiguration }, s.2)

def createSender (queue : AbstractRabbitQueue β) (connectionManager : SharedPtr ConnectionManager)
    (queueConfiguration : Obj QueueConfiguration) : Prog Nat Fault (Obj (AbstractRabbitSender β)) :=
  makeShared (queue.senderClass.init connectionManager queueConfiguration.val.exchange
    queueConfiguration.val.routingKey)

def getSender : Method β (Obj (AbstractRabbitSender β)) := do
  let s ← Prog.read
  match s.1.connectionManager, s.1.queueConfiguration with
  | some cm, some cfg =>
    throwIf (cfg.val.isWritable = false) "Queue can not write"
    match s.1.sender with
    | some sender => return sender
    | none =>
      let sender ← Prog.zoom Prod.snd (fun s n => (s.1, n)) (s.1.createSender (some cm) cfg)
      Prog.update fun s => ({ s.1 with sender := some sender }, s.2)
      return sender
  | _, _ => Prog.lift (throwRuntimeError "Queue is not initialized")

def initialised (senderClass : AbstractRabbitSender β) (cm : Obj ConnectionManager)
    (queueConfiguration : QueueConfigurationPtr) : AbstractRabbitQueue β where
  senderClass := senderClass
  connectionManager := some cm
  queueConfiguration := queueConfiguration

theorem exec_init (senderClass : AbstractRabbitSender β) (cm : Obj ConnectionManager)
    (queueConfiguration : QueueConfigurationPtr) (n : Nat) :
    (init (some cm) queueConfiguration).exec ({ senderClass := senderClass }, n) =
      (.ok (), (initialised senderClass cm queueConfiguration, n)) := rfl

section
variable (senderClass : AbstractRabbitSender β) (cm : Obj ConnectionManager)
  {q : Obj QueueConfiguration}

theorem exec_getSender (hw : q.val.isWritable = true) (n : Nat) :
    getSender.exec (initialised senderClass cm (some q), n) =
      (.ok ⟨n, senderClass.init (some cm) q.val.exchange q.val.routingKey⟩,
        ({ initialised senderClass cm (some q) with
          sender := some ⟨n, senderClass.init (some cm) q.val.exchange q.val.routingKey⟩ },
        n + 1)) := by
  unfold getSender
  rw [Prog.exec_bind_ok (Prog.exec_read _)]
  simp only [initialised]
  rw [throwIf, Prog.exec_bind_ok (Prog.exec_raiseIf_neg (by simp [hw]) _ _)]
  rfl

theorem exec_getSender_again (hw : q.val.isWritable = true) (sender : Obj (AbstractRabbitSender β))
    (n : Nat) :
    getSender.exec ({ initialised senderClass cm (some q) with sender := some sender }, n) =
      (.ok sender, ({ initialised senderClass cm (some q) with sender := some sender }, n)) := by
  unfold getSender
  rw [Prog.exec_bind_ok (Prog.exec_read _)]
  simp only [initialised]
  rw [throwIf, Prog.exec_bind_ok (Prog.exec_raiseIf_neg (by simp [hw]) _ _)]
  rfl

theorem exec_getSender_unwritable (hw : ¬q.val.isWritable = true) (n : Nat) :
    getSender.exec (initialised senderClass cm (some q), n) =
      (.error (.thrown (.runtimeError "Queue can not write")),
        (initialised senderClass cm (some q), n)) := by
  unfold getSender
  rw [Prog.exec_bind_ok (Prog.exec_read _)]
  simp only [initialised]
  exact Prog.exec_bind_error (Prog.exec_raiseIf_pos (by simpa using hw) _ _)

end

end AbstractRabbitQueue

end Th2
