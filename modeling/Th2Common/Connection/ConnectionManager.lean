import Th2Common.Connection.RabbitMQConfiguration

/-! `ConnectionManager`: the handshake with the broker and the publish command. -/

namespace Th2
open Text

/-- The members other than `rmqConfiguration` and `debug` have no meaning before `init`. -/
structure ConnectionManager where
  rmqConfiguration : Option RabbitMQConfiguration
  subscriberName : Bytes := []
  socket : Option Connection := none
  conn : Connection := 0
  status : Int := 0
  channel : Int := 0
  type : Bytes := []
  debug : Bool := false
  deriving DecidableEq

namespace ConnectionManager

def logDebug (text : Bytes) : Prog Trace Fault Unit := emit (.log .debug text)

def logInfo (text : Bytes) : Prog Trace Fault Unit := emit (.log .info text)

def logError (text : Bytes) : Prog Trace Fault Unit := emit (.log .error text)

@[simp] theorem exec_logDebug (text : Bytes) (τ : Trace) :
    (logDebug text).exec τ = (.ok (), τ ++ [.log .debug text]) := rfl

@[simp] theorem exec_logInfo (text : Bytes) (τ : Trace) :
    (logInfo text).exec τ = (.ok (), τ ++ [.log .info text]) := rfl

@[simp] theorem exec_logError (text : Bytes) (τ : Trace) :
    (logError text).exec τ = (.ok (), τ ++ [.log .error text]) := rfl

def construct (getenv : Bytes → Option Bytes) (cfg : Option RabbitMQConfiguration) :
    Prog Trace Fault ConnectionManager := do
  logDebug "Start constructor"
  let debug := (getenv "TH2_COMMON_CPP_DEBUG").isSome
  logInfo (utf8 "_debug = " ++ utf8 (if debug then "1" else "0"))
  return { rmqConfiguration := cfg, debug := debug }

abbrev Method (α : Type) : Type := Prog (ConnectionManager × Trace) Fault α

def act {α : Type} (p : Prog Trace Fault α) : Method α :=
  Prog.zoom Prod.snd (fun s τ => (s.1, τ)) p

def assign (f : ConnectionManager → ConnectionManager) : Method Unit :=
  Prog.update fun s => (f s.1, s.2)

def chooseSubscriberName (cfg : RabbitMQConfiguration) : Method Unit :=
  if cfg.subscriberName = [] then do
    act (logDebug "rmq_configuration->get_subscriberName() is empty()")
    assign fun cm => { cm with subscriberName := cfg.subscriberName }
  else do
    act (logDebug "subscriber_name = 'rabbit_mq_subscriber.'")
    assign fun cm => { cm with subscriberName := "rabbit_mq_subscriber." }

def connectMessage (cfg : RabbitMQConfiguration) : Bytes :=
  utf8 "Connecting to amqp://" ++ cfg.username ++ utf8 ":" ++ utf8 "***" ++ utf8 "@" ++ cfg.host ++
    utf8 ":" ++ cfg.port ++ utf8 "/" ++ cfg.vHost

def logSocket (socket : Option Connection) : Prog Trace Fault Unit :=
  match socket with
  | none => logError "amqp_tcp_socket_new(_conn) failed"
  | some _ => logInfo "amqp_tcp_socket_new(_conn) successful"

def makeSocket (amqp : Amqp) (cfg : RabbitMQConfiguration) : Method (Option Connection) := do
  let conn ← act (ask amqp.newConnection .amqpNewConnection)
  assign fun cm => { cm with conn := conn }
  act (logDebug "amqp_new_connection() successful")
  let socket ← act (ask (fun n => if amqp.tcpSocketNew n then some conn else none)
    (.amqpTcpSocketNew conn))
  assign fun cm => { cm with socket := socket }
  act (logSocket socket)
  assign fun cm => { cm with channel := 0, type := "direct" }
  act (emit (.stdout (connectMessage cfg ++ utf8 "\n")))
  act (logInfo (connectMessage cfg))
  return socket

def openSocket (amqp : Amqp) (cfg : RabbitMQConfiguration) (socket : Option Connection) :
    Method Unit := do
  let port ← Prog.lift (ofNumeral (stoi cfg.port))
  let status ← act (ask (fun n => amqp.socketOpen n socket)
    (.amqpSocketOpen socket (cString cfg.host) port))
  assign fun cm => { cm with status := status }
  act (logInfo (utf8 "amqp_socket_open() returns _status " ++ decimal status))
  if status ≠ 0 then
    act (logError "RabbitMQ connection failed")
    Prog.lift (throwRuntimeError "RabbitMQ connection failed")

def login (amqp : Amqp) (cfg : RabbitMQConfiguration) (conn : Connection) : Method Unit := do
  let reply ← act (ask amqp.login
    (.amqpLogin conn (cString cfg.vHost) (cString cfg.username) (cString cfg.password)))
  act (logInfo "amqp_login() successful")
  if reply ≠ .normal then
    act (logError "RabbitMQ login failed")
    Prog.lift (throwRuntimeError "RabbitMQ login failed")

def openChannel (amqp : Amqp) (conn : Connection) : Method Unit := do
  assign fun cm => { cm with channel := cm.channel + 1 }
  let s ← Prog.read
  act (emit (.amqpChannelOpen conn s.1.channel))
  act (logInfo "amqp_channel_open(_conn, _channel) successful")
  let reply ← act (ask amqp.getRpcReply (.amqpGetRpcReply conn))
  act (logInfo "amqp_get_rpc_reply(_conn) successful")
  if reply ≠ .normal then
    act (logError "RabbitMQ channel open failed")
    Prog.lift (throwRuntimeError "RabbitMQ channel open failed")

def init (amqp : Amqp) : Method Unit := do
  let s ← Prog.read
  let cfg ← Prog.lift (deref s.1.rmqConfiguration)
  -- lines 64 to 70
  chooseSubscriberName cfg
  -- lines 72 to 86
  let socket ← makeSocket amqp cfg
  let s ← Prog.read
  -- lines 88 to 94
  openSocket amqp cfg socket
  -- lines 96 to 104
  login amqp cfg s.1.conn
  -- lines 106 to 116
  openChannel amqp s.1.conn

def publishFrame (conn : Connection) (channel : Int) (exchangeName messageByte key : Bytes) :
    PublishFrame where
  conn := conn
  channel := channel
  exchange := cString exchangeName
  routingKey := cString key
  mandatory := 0
  immediate := 0
  properties := { contentType := "text/plain", deliveryMode := 2, headers := 0 }
  body := messageByte

def publishFail (res : Int) : Exn :=
  .runtimeError (utf8 "AMQP Publish Fail. Error: " ++ decimal res)

def sendPublishCommand (amqp : Amqp) (conn : Connection) (channel : Int)
    (exchangeName messageByte key : Bytes) : Prog Trace Fault Unit := do
  let res ← ask amqp.basicPublish
    (.amqpBasicPublish (publishFrame conn channel exchangeName messageByte key))
  Prog.raiseIf (0 > res) (.thrown (publishFail res))

def publishMessage (exchange routingKey message : Bytes) : Bytes :=
  utf8 "Exchange: " ++ exchange ++ utf8 ", routing key: " ++ routingKey ++ utf8 ", send: " ++
    decimal message.length ++ utf8 " byte(s)"

def basicPublish (amqp : Amqp) (cm : ConnectionManager) (exchange routingKey message : Bytes) :
    Prog Trace Fault Unit := do
  emit (.basicPublish exchange routingKey message)
  sendPublishCommand amqp cm.conn cm.channel exchange message routingKey
  logDebug (publishMessage exchange routingKey message)
  if cm.debug then emit (.stdout (publishMessage exchange routingKey message ++ utf8 "\n"))

def publishAttempt (cm : ConnectionManager) (exchange routingKey message : Bytes) (res : Int) : Trace :=
  [.basicPublish exchange routingKey message,
    .amqpBasicPublish (publishFrame cm.conn cm.channel exchange message routingKey) res]

def publishReport (cm : ConnectionManager) (exchange routingKey message : Bytes) : Trace :=
  .log .debug (publishMessage exchange routingKey message) ::
    if cm.debug then [.stdout (publishMessage exchange routingKey message ++ utf8 "\n")] else []

theorem exec_basicPublish (amqp : Amqp) (cm : ConnectionManager) (exchange routingKey message : Bytes)
    (τ : Trace) :
    (cm.basicPublish amqp exchange routingKey message).exec τ =
      if amqp.basicPublish (τ.length + 1) < 0 then
        (.error (.thrown (publishFail (amqp.basicPublish (τ.length + 1)))),
          τ ++ cm.publishAttempt exchange routingKey message (amqp.basicPublish (τ.length + 1)))
      else
        (.ok (), τ ++ (cm.publishAttempt exchange routingKey message
          (amqp.basicPublish (τ.length + 1)) ++ cm.publishReport exchange routingKey message)) := by
  -- the answer is asked for right behind the entry of the call
  have hcmd (υ : Trace) : (sendPublishCommand amqp cm.conn cm.channel exchange message
      routingKey).exec υ = ((if amqp.basicPublish υ.length < 0 then
        .error (.thrown (publishFail (amqp.basicPublish υ.length))) else .ok ()),
        υ ++ [.amqpBasicPublish (publishFrame cm.conn cm.channel exchange message routingKey)
          (amqp.basicPublish υ.length)]) := by
    unfold sendPublishCommand
    rw [Prog.exec_bind_ok (exec_ask _ _ υ), Prog.exec_raiseIf]
  have hlen : (τ ++ [Observation.basicPublish exchange routingKey message]).length = τ.length + 1 := by
    rw [List.length_append, List.length_singleton]
  unfold basicPublish
  rw [Prog.exec_bind_ok (exec_emit _ τ)]
  have hsent := hcmd (τ ++ [.basicPublish exchange routingKey message])
  rw [hlen] at hsent
  by_cases hres : amqp.basicPublish (τ.length + 1) < 0
  · rw [if_pos hres] at hsent ⊢
    rw [Prog.exec_bind_error hsent, List.append_assoc]
    rfl
  · rw [if_neg hres] at hsent ⊢
    rw [Prog.exec_bind_ok hsent, Prog.exec_bind_ok (exec_logDebug _ _)]
    simp only [publishAttempt, publishReport]
    split <;> simp

end ConnectionManager

end Th2
