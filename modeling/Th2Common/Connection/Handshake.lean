import Th2Common.Connection.ConnectionManager

/-! The outcomes of `ConnectionManager::init`, with what each leaves in the trace. -/

namespace Th2
open Text ConnectionManager

structure Answers where
  conn : Connection
  socket : Option Connection
  status : Int
  login : ReplyType
  channel : ReplyType
  deriving DecidableEq

def Amqp.answers (amqp : Amqp) (n : Nat) : Answers :=
  let conn := amqp.newConnection (n + 1)
  let socket := if amqp.tcpSocketNew (n + 3) then some conn else none
  { conn := conn
    socket := socket
    status := amqp.socketOpen (n + 7) socket
    login := amqp.login (n + 9)
    channel := amqp.getRpcReply (n + 13) }

theorem Amqp.answers_socket (amqp : Amqp) {n : Nat} (h : (amqp.answers n).status = 0) :
    (amqp.answers n).socket = some (amqp.answers n).conn := by
  unfold answers at h ⊢
  dsimp only at h ⊢
  split
  · rfl
  · next hnull =>
    rw [if_neg hnull] at h
    exact absurd h (amqp.socketOpen_null _)

namespace Answers

def Good (a : Answers) : Prop := a.status = 0 ∧ a.login = .normal ∧ a.channel = .normal

instance (a : Answers) : Decidable a.Good := by
  unfold Good
  infer_instance

variable (cfg : RabbitMQConfiguration) (a : Answers)

def opening : Trace :=
  [.log .debug (if cfg.subscriberName = [] then "rmq_configuration->get_subscriberName() is empty()"
      else "subscriber_name = 'rabbit_mq_subscriber.'"),
    .amqpNewConnection a.conn,
    .log .debug "amqp_new_connection() successful",
    .amqpTcpSocketNew a.conn a.socket,
    if a.socket = none then .log .error "amqp_tcp_socket_new(_conn) failed"
      else .log .info "amqp_tcp_socket_new(_conn) successful",
    .stdout (connectMessage cfg ++ utf8 "\n"),
    .log .info (connectMessage cfg)]

def socketOpened (port : Int) : Trace :=
  [.amqpSocketOpen a.socket (cString cfg.host) port a.status,
    .log .info (utf8 "amqp_socket_open() returns _status " ++ decimal a.status)]

def loggedIn : Trace :=
  [.amqpLogin a.conn (cString cfg.vHost) (cString cfg.username) (cString cfg.password) a.login,
    .log .info "amqp_login() successful"]

def channelOpened : Trace :=
  [.amqpChannelOpen a.conn 1,
    .log .info "amqp_channel_open(_conn, _channel) successful",
    .amqpGetRpcReply a.conn a.channel,
    .log .info "amqp_get_rpc_reply(_conn) successful"]

end Answers

inductive Handshake (cfg : RabbitMQConfiguration) (a : Answers) : Except Fault Unit → Trace → Prop
  | badPort {e : NumeralError} (hport : stoi cfg.port = .error e) :
    Handshake cfg a (.error (.thrown (.numeral e))) (a.opening cfg)
  | notConnected {port : Int} (hport : stoi cfg.port = .ok port) (hstatus : a.status ≠ 0) :
    Handshake cfg a (throwRuntimeError "RabbitMQ connection failed")
      (a.opening cfg ++ a.socketOpened cfg port ++ [.log .error "RabbitMQ connection failed"])
  | notLoggedIn {port : Int} (hport : stoi cfg.port = .ok port) (hstatus : a.status = 0)
      (hlogin : a.login ≠ .normal) :
    Handshake cfg a (throwRuntimeError "RabbitMQ login failed")
      (a.opening cfg ++ a.socketOpened cfg port ++ a.loggedIn cfg ++
        [.log .error "RabbitMQ login failed"])
  | noChannel {port : Int} (hport : stoi cfg.port = .ok port) (hstatus : a.status = 0)
      (hlogin : a.login = .normal) (hchannel : a.channel ≠ .normal) :
    Handshake cfg a (throwRuntimeError "RabbitMQ channel open failed")
      (a.opening cfg ++ a.socketOpened cfg port ++ a.loggedIn cfg ++ a.channelOpened ++
        [.log .error "RabbitMQ channel open failed"])
  | completed {port : Int} (hport : stoi cfg.port = .ok port) (hgood : a.Good) :
    Handshake cfg a (.ok ())
      (a.opening cfg ++ a.socketOpened cfg port ++ a.loggedIn cfg ++ a.channelOpened)

namespace ConnectionManager
variable (amqp : Amqp) (cfg : RabbitMQConfiguration) (a : Answers) (cm : ConnectionManager) (τ : Trace)

@[simp] theorem exec_act {α : Type} (p : Prog Trace Fault α) :
    (act p).exec (cm, τ) = ((p.exec τ).1, (cm, (p.exec τ).2)) := rfl

@[simp] theorem exec_assign (f : ConnectionManager → ConnectionManager) :
    (assign f).exec (cm, τ) = (.ok (), (f cm, τ)) := rfl

theorem exec_chooseSubscriberName :
    ∃ name, (chooseSubscriberName cfg).exec (cm, τ) =
      (.ok (), ({ cm with subscriberName := name }, τ ++ (a.opening cfg).take 1)) := by
  unfold chooseSubscriberName Answers.opening
  split <;> exact ⟨_, rfl⟩

theorem exec_makeSocket (hconn : amqp.newConnection τ.length = a.conn)
    (hsocket : (if amqp.tcpSocketNew (τ.length + 2) then some a.conn else none) = a.socket) :
    (makeSocket amqp cfg).exec (cm, τ) =
      (.ok a.socket, ({ cm with conn := a.conn, socket := a.socket, channel := 0, type := "direct" },
        τ ++ (a.opening cfg).drop 1)) := by
  have hlog (υ : Trace) : (logSocket a.socket).exec υ = (.ok (), υ ++ [if a.socket = none then
      .log .error "amqp_tcp_socket_new(_conn) failed"
      else .log .info "amqp_tcp_socket_new(_conn) successful"]) := by
    cases a.socket <;> rfl
  unfold makeSocket Answers.opening
  simp only [Prog.exec_bind, exec_act, exec_assign, exec_ask, exec_logDebug, exec_logInfo, exec_emit,
    Prog.exec_pure, hconn, List.length_append, List.length_singleton, Nat.add_assoc, hsocket, hlog]
  simp

theorem exec_openSocket (hstatus : amqp.socketOpen τ.length a.socket = a.status) {port : Int}
    (hport : stoi cfg.port = .ok port) :
    (openSocket amqp cfg a.socket).exec (cm, τ) =
      if a.status = 0 then (.ok (), ({ cm with status := a.status }, τ ++ a.socketOpened cfg port))
      else (throwRuntimeError "RabbitMQ connection failed", ({ cm with status := a.status },
        τ ++ (a.socketOpened cfg port ++ [.log .error "RabbitMQ connection failed"]))) := by
  unfold openSocket Answers.socketOpened
  simp only [Prog.exec_bind, hport, ofNumeral, Prog.exec_lift, exec_act, exec_assign, exec_ask,
    exec_logInfo, hstatus, ne_eq]
  by_cases h : a.status = 0
  · simp [h]
  · simp [h, Prog.exec_bind]

theorem exec_openSocket_badPort (socket : Option Connection) {e : NumeralError}
    (hport : stoi cfg.port = .error e) :
    (openSocket amqp cfg socket).exec (cm, τ) = (.error (.thrown (.numeral e)), (cm, τ)) := by
  unfold openSocket
  rw [hport]
  rfl

theorem exec_login (hlogin : amqp.login τ.length = a.login) :
    (login amqp cfg a.conn).exec (cm, τ) =
      if a.login = .normal then (.ok (), (cm, τ ++ a.loggedIn cfg))
      else (throwRuntimeError "RabbitMQ login failed",
        (cm, τ ++ (a.loggedIn cfg ++ [.log .error "RabbitMQ login failed"]))) := by
  unfold login Answers.loggedIn
  simp only [Prog.exec_bind, exec_act, exec_ask, exec_logInfo, hlogin, ne_eq]
  by_cases h : a.login = .normal
  · simp [h]
  · simp [h, Prog.exec_bind]

theorem exec_openChannel (hzero : cm.channel = 0) (hchannel : amqp.getRpcReply (τ.length + 2) = a.channel) :
    (openChannel amqp a.conn).exec (cm, τ) =
      if a.channel = .normal then (.ok (), ({ cm with channel := 1 }, τ ++ a.channelOpened))
      else (throwRuntimeError "RabbitMQ channel open failed", ({ cm with channel := 1 },
        τ ++ (a.channelOpened ++ [.log .error "RabbitMQ channel open failed"]))) := by
  have hone : cm.channel + 1 = 1 := by
    rw [hzero]
    rfl
  unfold openChannel Answers.channelOpened
  simp only [Prog.exec_bind, Prog.exec_read, exec_act, exec_assign, exec_ask, exec_emit, exec_logInfo,
    hone, List.length_append, List.length_singleton, Nat.add_assoc, hchannel, ne_eq]
  by_cases h : a.channel = .normal
  · simp [h]
  · simp [h, Prog.exec_bind]

theorem exec_init_none (hcfg : cm.rmqConfiguration = none) :
    (init amqp).exec (cm, τ) = (.error .nullDereference, (cm, τ)) := by
  unfold init
  rw [Prog.exec_bind_ok (Prog.exec_read _), hcfg]
  rfl

theorem exec_init_opening (hcfg : cm.rmqConfiguration = some cfg)
    (ha : amqp.answers τ.length = a) :
    ∃ cm' : ConnectionManager, cm'.conn = a.conn ∧ cm'.channel = 0 ∧
      (init amqp).exec (cm, τ) = (openSocket amqp cfg a.socket >>= fun _ =>
        login amqp cfg a.conn >>= fun _ => openChannel amqp a.conn).exec
          (cm', τ ++ a.opening cfg) := by
  obtain ⟨name, hname⟩ := exec_chooseSubscriberName cfg a cm τ
  have hlen : (τ ++ (a.opening cfg).take 1).length = τ.length + 1 := List.length_append
  have hanswer : amqp.newConnection (τ ++ (a.opening cfg).take 1).length = a.conn := by
    rw [hlen, ← ha]
    rfl
  have hanswer' : (if amqp.tcpSocketNew ((τ ++ (a.opening cfg).take 1).length + 2) then some a.conn
      else none) = a.socket := by
    rw [hlen, ← ha]
    rfl
  have hsocket := exec_makeSocket amqp cfg a { cm with subscriberName := name }
    (τ ++ (a.opening cfg).take 1) hanswer hanswer'
  rw [List.append_assoc, List.take_append_drop] at hsocket
  refine ⟨{ cm with
    subscriberName := name, conn := a.conn, socket := a.socket, channel := 0, type := "direct" },
    rfl, rfl, ?_⟩
  have hderef : (Prog.lift (deref cm.rmqConfiguration)).exec (cm, τ) = (.ok cfg, (cm, τ)) := by
    rw [hcfg]
    rfl
  unfold init
  rw [Prog.exec_bind_ok (Prog.exec_read _), Prog.exec_bind_ok hderef, Prog.exec_bind_ok hname,
    Prog.exec_bind_ok hsocket, Prog.exec_bind_ok (Prog.exec_read _)]

theorem exec_init (hcfg : cm.rmqConfiguration = some cfg) :
    ∃ out cm' υ, (init amqp).exec (cm, τ) = (out, (cm', τ ++ υ)) ∧
      Handshake cfg (amqp.answers τ.length) out υ ∧
      (out = .ok () → cm'.conn = (amqp.answers τ.length).conn ∧ cm'.channel = 1) := by
  generalize ha : amqp.answers τ.length = a
  obtain ⟨cm', hconn, hzero, hrun⟩ := exec_init_opening amqp cfg a cm τ hcfg ha
  rw [hrun]
  clear hrun
  -- port, socket, login and channel: whatever fails first decides
  rcases hport : stoi cfg.port with e | port
  · exact ⟨_, _, _, Prog.exec_bind_error (exec_openSocket_badPort amqp cfg cm' _ _ hport),
      .badPort hport, nofun⟩
  have hlen : (τ ++ a.opening cfg).length = τ.length + 7 := List.length_append
  have hanswer : amqp.socketOpen (τ ++ a.opening cfg).length a.socket = a.status := by
    rw [hlen, ← ha]
    rfl
  have hopen := exec_openSocket amqp cfg a cm' (τ ++ a.opening cfg) hanswer hport
  by_cases hstatus : a.status = 0
  swap
  · rw [if_neg hstatus, List.append_assoc] at hopen
    refine ⟨_, _, _, Prog.exec_bind_error hopen, ?_, nofun⟩
    rw [← List.append_assoc]
    exact .notConnected hport hstatus
  rw [if_pos hstatus] at hopen
  rw [Prog.exec_bind_ok hopen]
  have hlen : (τ ++ a.opening cfg ++ a.socketOpened cfg port).length = τ.length + 9 := by
    rw [List.length_append, hlen]
    rfl
  have hanswer : amqp.login (τ ++ a.opening cfg ++ a.socketOpened cfg port).length = a.login := by
    rw [hlen, ← ha]
    rfl
  have hlogin := exec_login amqp cfg a { cm' with status := a.status }
    (τ ++ a.opening cfg ++ a.socketOpened cfg port) hanswer
  by_cases hnormal : a.login = .normal
  swap
  · rw [if_neg hnormal] at hlogin
    refine ⟨_, { cm' with status := a.status },
      a.opening cfg ++ a.socketOpened cfg port ++ a.loggedIn cfg ++ _, ?_,
      .notLoggedIn hport hstatus hnormal, nofun⟩
    rw [Prog.exec_bind_error hlogin]
    simp only [List.append_assoc]
    rfl
  rw [if_pos hnormal] at hlogin
  rw [Prog.exec_bind_ok hlogin]
  have hlen : (τ ++ a.opening cfg ++ a.socketOpened cfg port ++ a.loggedIn cfg).length =
      τ.length + 11 := by
    rw [List.length_append, hlen]
    rfl
  have hanswer : amqp.getRpcReply
      ((τ ++ a.opening cfg ++ a.socketOpened cfg port ++ a.loggedIn cfg).length + 2) = a.channel := by
    rw [hlen, ← ha]
    rfl
  have hchannel := exec_openChannel amqp a { cm' with status := a.status }
    (τ ++ a.opening cfg ++ a.socketOpened cfg port ++ a.loggedIn cfg) hzero hanswer
  rw [hchannel]
  by_cases hreply : a.channel = .normal
  · rw [if_pos hreply]
    refine ⟨_, { cm' with status := a.status, channel := 1 },
      a.opening cfg ++ a.socketOpened cfg port ++ a.loggedIn cfg ++ a.channelOpened, ?_,
      .completed hport ⟨hstatus, hnormal, hreply⟩, fun _ => ⟨hconn, rfl⟩⟩
    simp only [List.append_assoc]
  · rw [if_neg hreply]
    refine ⟨_, { cm' with status := a.status, channel := 1 },
      a.opening cfg ++ a.socketOpened cfg port ++ a.loggedIn cfg ++ a.channelOpened ++ _, ?_,
      .noChannel hport hstatus hnormal hreply, nofun⟩
    simp only [List.append_assoc]

end ConnectionManager

def handshakes (τ : Trace) : Nat :=
  τ.countP fun e => match e with
    | .amqpGetRpcReply _ .normal => true
    | _ => false

@[simp] theorem handshakes_append (τ υ : Trace) :
    handshakes (τ ++ υ) = handshakes τ + handshakes υ := List.countP_append

def Handshaken (τ : Trace) (conn : Connection) : Prop :=
  ∃ host port vhost user password,
    [.amqpSocketOpen (some conn) host port 0, .amqpLogin conn vhost user password .normal,
      .amqpChannelOpen conn 1, .amqpGetRpcReply conn .normal].Sublist τ

theorem Handshaken.mono {τ υ : Trace} {conn : Connection} (h : Handshaken τ conn)
    (hsub : τ.Sublist υ) : Handshaken υ conn := by
  obtain ⟨host, port, vhost, user, password, h⟩ := h
  exact ⟨host, port, vhost, user, password, h.trans hsub⟩

namespace Answers
variable (cfg : RabbitMQConfiguration) (a : Answers)

theorem amqpPublishes_opening : amqpPublishes (a.opening cfg) = [] := by
  unfold opening amqpPublishes
  cases a.socket <;> rfl

theorem gotRouters_opening : gotRouters (a.opening cfg) = [] := by
  unfold opening gotRouters
  cases a.socket <;> rfl

theorem handshakes_opening : handshakes (a.opening cfg) = 0 := by
  unfold opening handshakes
  cases a.socket <;> rfl

end Answers

namespace Handshake
variable {cfg : RabbitMQConfiguration} {a : Answers} {out : Except Fault Unit} {υ : Trace}

theorem amqpPublishes (h : Handshake cfg a out υ) : Th2.amqpPublishes υ = [] := by
  cases h <;> simp only [amqpPublishes_append, Answers.amqpPublishes_opening] <;> rfl

theorem gotRouters (h : Handshake cfg a out υ) : Th2.gotRouters υ = [] := by
  cases h <;> simp only [gotRouters_append, Answers.gotRouters_opening] <;> rfl

theorem not_fatal (h : Handshake cfg a out υ) : isFatal out = false := by
  cases h <;> rfl

theorem eq_ok_iff (h : Handshake cfg a out υ) :
    out = .ok () ↔ (∃ port, stoi cfg.port = .ok port) ∧ a.Good := by
  cases h with
  | badPort hport => exact ⟨nofun, fun ⟨⟨port, hok⟩, _⟩ => by rw [hport] at hok; cases hok⟩
  | notConnected hport hstatus => exact ⟨nofun, fun ⟨_, hgood⟩ => absurd hgood.1 hstatus⟩
  | notLoggedIn hport hstatus hlogin => exact ⟨nofun, fun ⟨_, hgood⟩ => absurd hgood.2.1 hlogin⟩
  | noChannel hport hstatus hlogin hchannel =>
    exact ⟨nofun, fun ⟨_, hgood⟩ => absurd hgood.2.2 hchannel⟩
  | completed hport hgood => exact ⟨fun _ => ⟨⟨_, hport⟩, hgood⟩, fun _ => rfl⟩

theorem handshakes_eq (h : Handshake cfg a out υ) :
    handshakes υ = if out.isOk then 1 else 0 := by
  cases h with
  | badPort => exact a.handshakes_opening cfg
  | notConnected => simp only [handshakes_append, Answers.handshakes_opening]; rfl
  | notLoggedIn => simp only [handshakes_append, Answers.handshakes_opening]; rfl
  | noChannel _ _ _ hchannel =>
    simp only [handshakes_append, Answers.handshakes_opening, Answers.channelOpened]
    revert hchannel
    cases a.channel <;> intro hchannel <;> first | rfl | exact absurd rfl hchannel
  | completed _ hgood =>
    simp only [handshakes_append, Answers.handshakes_opening, Answers.channelOpened, hgood.2.2]
    rfl

theorem handshaken {amqp : Amqp} {n : Nat} (h : Handshake cfg (amqp.answers n) (.ok ()) υ) :
    Handshaken υ (amqp.answers n).conn := by
  cases h with
  | @completed port hport hgood =>
    obtain ⟨hstatus, hlogin, hchannel⟩ := hgood
    -- a null socket cannot be opened, so this one is the connection's own
    have hsocket := amqp.answers_socket hstatus
    generalize amqp.answers n = a at hstatus hlogin hchannel hsocket ⊢
    refine ⟨cString cfg.host, port, cString cfg.vHost, cString cfg.username, cString cfg.password, ?_⟩
    rw [List.append_assoc, List.append_assoc]
    apply List.sublist_append_of_sublist_right
    simp only [Answers.socketOpened, Answers.loggedIn, Answers.channelOpened, hstatus, hlogin,
      hchannel, hsocket, List.cons_append, List.nil_append]
    exact .cons_cons _ (.cons _ (.cons_cons _ (.cons _ (.cons_cons _ (.cons _ (.cons_cons _ (.cons _ .slnil)))))))

end Handshake

end Th2
