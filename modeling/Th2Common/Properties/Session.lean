import Th2Common.Factory.Effects
import Th2Common.Lib.Monitor
import Th2Common.Properties.Destinations

/-! The protocol of an AMQP session, and that no run of a factory ever breaks it. -/

namespace Th2
open Text

inductive Session
  | offline
  | created (conn : Connection)
  | socketMade (conn : Connection) (socket : Option Connection)
  | socketOpened (conn : Connection)
  | loggedIn (conn : Connection)
  | channelAsked (conn : Connection)
  | ready (conn : Connection)
  deriving DecidableEq

namespace Session

/-- Each call into the library in its place: a socket is opened on the connection it
was made for, a login follows an open socket, a channel a login, and a publish goes
over the channel of a session that is ready. A new connection is made only where
there is none under way or the last attempt was given up. -/
def step : Monitor Session Observation
  | s, .stdout _ => some s
  | s, .log _ _ => some s
  | s, .getMessageQueue _ => some s
  | s, .gotRouter _ _ => some s
  | offline, .amqpNewConnection conn => some (created conn)
  | socketMade _ _, .amqpNewConnection conn => some (created conn)
  | created conn, .amqpTcpSocketNew conn' socket =>
    if conn' = conn ∧ (socket = none ∨ socket = some conn) then some (socketMade conn socket)
    else none
  | socketMade conn socket, .amqpSocketOpen socket' _ _ status =>
    if socket' = socket then
      if status = 0 then if socket = some conn then some (socketOpened conn) else none
      else some offline
    else none
  | socketOpened conn, .amqpLogin conn' _ _ _ reply =>
    if conn' = conn then some (if reply = .normal then loggedIn conn else offline) else none
  | loggedIn conn, .amqpChannelOpen conn' channel =>
    if conn' = conn ∧ channel = 1 then some (channelAsked conn) else none
  | channelAsked conn, .amqpGetRpcReply conn' reply =>
    if conn' = conn then some (if reply = .normal then ready conn else offline) else none
  | ready conn, .basicPublish _ _ _ => some (ready conn)
  | ready conn, .amqpBasicPublish frame _ =>
    if frame.conn = conn ∧ frame.channel = 1 then some (ready conn) else none
  | _, _ => none

def GivenUp (s : Session) : Prop := s = offline ∨ ∃ conn socket, s = socketMade conn socket

def Over (s : Session) : SharedPtr ConnectionManager → Prop
  | none => s.GivenUp
  | some cm => s = ready cm.val.conn ∧ cm.val.channel = 1

theorem step_output (s : Session) {e : Observation} (h : e.isOutput = true) : step s e = some s := by
  cases e <;> first | (cases s <;> rfl) | cases h

theorem after_output (s : Session) {υ : Trace} (h : Output υ) :
    Monitor.after step s υ = some s :=
  Monitor.after_stays fun e he => step_output s (h e he)

variable {s : Session} {rmq : RabbitMQConfiguration} {a : Answers}

theorem after_opening (hs : s.GivenUp) (hsocket : a.socket = none ∨ a.socket = some a.conn) :
    Monitor.after step s (a.opening rmq) = some (socketMade a.conn a.socket) := by
  have hnew : step s (.amqpNewConnection a.conn) = some (created a.conn) := by
    rcases hs with rfl | ⟨conn, socket, rfl⟩ <;> rfl
  have hmade : step (created a.conn) (.amqpTcpSocketNew a.conn a.socket) =
      some (socketMade a.conn a.socket) := if_pos ⟨rfl, hsocket⟩
  have hfirst (text : Bytes) : step s (.log .debug text) = some s := step_output s rfl
  have hlast : (if a.socket = none then .log .error "amqp_tcp_socket_new(_conn) failed"
      else .log .info "amqp_tcp_socket_new(_conn) successful" : Observation).isOutput = true := by
    split <;> rfl
  rw [Answers.opening, Monitor.after_cons, hfirst, Option.bind_some, Monitor.after_cons, hnew,
    Option.bind_some, Monitor.after_cons, step_output _ rfl, Option.bind_some, Monitor.after_cons,
    hmade, Option.bind_some, Monitor.after_cons, step_output _ hlast, Option.bind_some]
  rfl

theorem after_socketOpened (port : Int) (hgood : a.status = 0 → a.socket = some a.conn) :
    Monitor.after step (socketMade a.conn a.socket) (a.socketOpened rmq port) =
      some (if a.status = 0 then socketOpened a.conn else offline) := by
  have hopen : step (socketMade a.conn a.socket)
      (.amqpSocketOpen a.socket (cString rmq.host) port a.status) =
      some (if a.status = 0 then socketOpened a.conn else offline) := by
    by_cases hstatus : a.status = 0
    · simp only [step, if_pos hstatus, if_pos (hgood hstatus), if_true]
    · simp only [step, if_neg hstatus, if_true]
  rw [Answers.socketOpened, Monitor.after_cons, hopen, Option.bind_some]
  exact after_output _ (Output.log _ _)

theorem after_loggedIn :
    Monitor.after step (socketOpened a.conn) (a.loggedIn rmq) =
      some (if a.login = .normal then loggedIn a.conn else offline) := by
  have hlogin : step (socketOpened a.conn) (.amqpLogin a.conn (cString rmq.vHost)
      (cString rmq.username) (cString rmq.password) a.login) =
      some (if a.login = .normal then loggedIn a.conn else offline) := if_pos rfl
  rw [Answers.loggedIn, Monitor.after_cons, hlogin, Option.bind_some]
  exact after_output _ (Output.log _ _)

theorem after_channelOpened :
    Monitor.after step (loggedIn a.conn) a.channelOpened =
      some (if a.channel = .normal then ready a.conn else offline) := by
  have hopen : step (loggedIn a.conn) (.amqpChannelOpen a.conn 1) =
      some (channelAsked a.conn) := if_pos ⟨rfl, rfl⟩
  have hreply : step (channelAsked a.conn) (.amqpGetRpcReply a.conn a.channel) =
      some (if a.channel = .normal then ready a.conn else offline) := if_pos rfl
  rw [Answers.channelOpened, Monitor.after_cons, hopen, Option.bind_some, Monitor.after_cons,
    step_output _ rfl, Option.bind_some, Monitor.after_cons, hreply, Option.bind_some]
  exact after_output _ (Output.log _ _)

theorem after_handshake {amqp : Amqp} {n : Nat} {out : Except Fault Unit} {υ : Trace}
    (hs : s.GivenUp) (h : Handshake rmq (amqp.answers n) out υ) :
    ∃ t, Monitor.after step s υ = some t ∧
      if out.isOk then t = ready (amqp.answers n).conn else t.GivenUp := by
  have hstatus : (amqp.answers n).status = 0 → (amqp.answers n).socket = some (amqp.answers n).conn :=
    amqp.answers_socket
  have hsocket : (amqp.answers n).socket = none ∨
      (amqp.answers n).socket = some (amqp.answers n).conn := by
    unfold Amqp.answers
    dsimp only
    split
    · exact .inr rfl
    · exact .inl rfl
  generalize amqp.answers n = a at h hstatus hsocket ⊢
  have hopening : Monitor.after step s (a.opening rmq) = some (socketMade a.conn a.socket) :=
    after_opening hs hsocket
  have hsock (port : Int) : Monitor.after step s (a.opening rmq ++ a.socketOpened rmq port) =
      some (if a.status = 0 then socketOpened a.conn else offline) :=
    Monitor.after_trans hopening (after_socketOpened port hstatus)
  have hlog (t : Session) (level : Level) (text : Bytes) :
      Monitor.after step t [.log level text] = some t := after_output t (Output.log level text)
  cases h with
  | badPort hport => exact ⟨_, hopening, .inr ⟨_, _, rfl⟩⟩
  | @notConnected port hport hbad =>
    have hfailed := hsock port
    rw [if_neg hbad] at hfailed
    exact ⟨offline, Monitor.after_trans hfailed (hlog _ _ _), .inl rfl⟩
  | @notLoggedIn port hport hok hbad =>
    have hopened := hsock port
    have hfailed : Monitor.after step (socketOpened a.conn) (a.loggedIn rmq) = _ := after_loggedIn
    rw [if_pos hok] at hopened
    rw [if_neg hbad] at hfailed
    exact ⟨offline, Monitor.after_trans (Monitor.after_trans hopened hfailed) (hlog _ _ _), .inl rfl⟩
  | @noChannel port hport hok hlogin hbad =>
    have hopened := hsock port
    have hlogged : Monitor.after step (socketOpened a.conn) (a.loggedIn rmq) = _ := after_loggedIn
    have hfailed : Monitor.after step (loggedIn a.conn) a.channelOpened = _ := after_channelOpened
    rw [if_pos hok] at hopened
    rw [if_pos hlogin] at hlogged
    rw [if_neg hbad] at hfailed
    exact ⟨offline, Monitor.after_trans (Monitor.after_trans (Monitor.after_trans hopened hlogged)
      hfailed) (hlog _ _ _), .inl rfl⟩
  | @completed port hport hgood =>
    have hopened := hsock port
    have hlogged : Monitor.after step (socketOpened a.conn) (a.loggedIn rmq) = _ := after_loggedIn
    have hready : Monitor.after step (loggedIn a.conn) a.channelOpened = _ := after_channelOpened
    rw [if_pos hgood.1] at hopened
    rw [if_pos hgood.2.1] at hlogged
    rw [if_pos hgood.2.2] at hready
    exact ⟨ready a.conn, Monitor.after_trans (Monitor.after_trans hopened hlogged) hready, rfl⟩

theorem after_dial {d : Deployment} {rmqCfg : Option RabbitMQConfiguration}
    {cm : SharedPtr ConnectionManager} {υ : Trace} (hs : s.GivenUp) (h : Dial d rmqCfg none cm υ) :
    ∃ t, Monitor.after step s υ = some t ∧ t.Over cm := by
  cases h with
  | unconfigured hrmq hυ => exact ⟨s, after_output s hυ.output, hs⟩
  | failed n hrmq hbefore hshake =>
    obtain ⟨t, ht, hgiven⟩ := after_handshake hs hshake
    exact ⟨t, Monitor.after_trans (after_output s hbefore.output) ht, hgiven⟩
  | connected n hrmq hbefore hshake hafter hconn hchannel =>
    obtain ⟨t, ht, hready⟩ := after_handshake hs hshake
    refine ⟨t, Monitor.after_trans (Monitor.after_trans (after_output s hbefore.output) ht)
      (after_output t hafter.output), ?_, hchannel⟩
    rw [hconn]
    exact hready

theorem after_shipped {amqp : Amqp} {cm : ConnectionManager} {l : List Shipment}
    {out : Except Fault Unit} {υ : Trace} (hchannel : cm.channel = 1)
    (h : Shipped amqp cm l out υ) :
    Monitor.after step (ready cm.conn) υ = some (ready cm.conn) := by
  have hattempt (shipment : Shipment) (res : Int) :
      Monitor.after step (ready cm.conn) (shipment.attempt cm res) = some (ready cm.conn) := by
    have hpublish : step (ready cm.conn)
        (.amqpBasicPublish (shipment.frame cm) res) = some (ready cm.conn) :=
      if_pos ⟨rfl, hchannel⟩
    calc Monitor.after step (ready cm.conn) (shipment.attempt cm res)
        = Monitor.after step (ready cm.conn) [.amqpBasicPublish (shipment.frame cm) res] := rfl
      _ = some (ready cm.conn) := by
        rw [Monitor.after_cons, hpublish]
        rfl
  have hreport (shipment : Shipment) :
      Monitor.after step (ready cm.conn) (shipment.report cm) = some (ready cm.conn) := by
    unfold Shipment.report ConnectionManager.publishReport
    split <;> rfl
  induction h with
  | done => rfl
  | accepted n _ _ ih => exact Monitor.after_trans (Monitor.after_trans (hattempt _ _) (hreport _)) ih
  | refused n _ => exact hattempt _ _

def Agrees (p : Process) : Prop :=
  ∃ t, Monitor.after step offline p.trace = some t ∧ t.Over p.factory.rmqConnectionManager

theorem Agrees.stay {p : Process} (h : Agrees p) {υ : Trace}
    (hυ : ∀ t, Monitor.after step offline p.trace = some t → Monitor.after step t υ = some t)
    (free : Nat) : Agrees { p with free := free, trace := p.trace ++ υ } := by
  obtain ⟨t, ht, hmanager⟩ := h
  exact ⟨t, Monitor.after_trans ht (hυ t ht), hmanager⟩

theorem Agrees.move {d : Deployment} {p q : Process} (h : Agrees p) (hmove : Move d p q) :
    Agrees q := by
  cases hmove with
  | said free hυ => exact h.stay (fun t _ => after_output t hυ.output) free
  | loadedRmq rmq hnone hread => exact h
  | loadedRouter cfg hnone hread hdoc => exact h
  | @made k free cm υ hnone hdial =>
    obtain ⟨t, ht, hmanager⟩ := h
    rcases hcm : p.factory.rmqConnectionManager with _ | m <;> rw [hcm] at hdial hmanager
    · obtain ⟨u, hu, hnew⟩ := after_dial hmanager hdial
      exact ⟨u, Monitor.after_trans ht hu, hnew⟩
    · cases hdial
      exact ⟨t, Monitor.after_trans ht rfl, hmanager⟩
  | returned k hsome => exact h.stay (fun t _ => by cases t <;> rfl) p.free

theorem Agrees.sent {d : Deployment} {p : Process} {k : RouterKind}
    {router : AbstractRabbitMessageRouter} {op : Operation} {b : k.Batch} {out : Except Fault Unit}
    {υ : Trace} (h : Agrees p) (hshared : Shared p) (hr : router ∈ p.heap k)
    (hsending : Sending d k router op b out υ) : Agrees { p with trace := p.trace ++ υ } := by
  refine h.stay (fun t ht => ?_) p.free
  cases hsending with
  | nowhere => rfl
  | misdirected queueAlias => cases t <;> rfl
  | refused => rfl
  | @shipped cm cfg doc rs _ _ hcm hcfg hdoc hroutes hallows hshipped =>
    -- a router that ships holds the manager of the factory
    have hstored : p.factory.rmqConnectionManager = some cm := by
      have hmanager := hshared.manager k router hr
      rw [hcm] at hmanager
      exact (hmanager.resolve_left nofun).symm
    obtain ⟨u, hu, hready⟩ := h
    rw [hstored] at hready
    rw [ht] at hu
    obtain rfl := Option.some.inj hu
    rw [hready.1]
    exact after_shipped hready.2 hshipped

theorem agrees_invariant (d : Deployment) (calls : List FactoryCall) :
    Invariant d calls fun p => Shared p ∧ Agrees p where
  initial := ⟨(shared_invariant d calls).initial, offline, rfl, .inl rfl⟩
  move h hmove := ⟨(shared_invariant d calls).move h.1 hmove, h.2.move hmove⟩
  replaced routers hcall h := ⟨(shared_invariant d calls).replaced routers hcall h.1, h.2⟩
  sent hcall h hr hsending := ⟨(shared_invariant d calls).sent hcall h.1 hr hsending,
    h.2.sent h.1 (List.mem_of_getElem? hr) hsending⟩

end Session

/-- Whatever is called, whatever the files hold and the library answers: no run
breaks the protocol, and its session is ready exactly over the stored manager. -/
theorem session_of_run (d : Deployment) (calls : List FactoryCall) :
    ∃ t, Monitor.after Session.step .offline (({} : Process).run d calls).trace = some t ∧
      t.Over (({} : Process).run d calls).factory.rmqConnectionManager :=
  (Session.agrees_invariant d calls).run.2

end Th2
