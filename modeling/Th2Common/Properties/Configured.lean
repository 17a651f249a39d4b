import Th2Common.Connection.Handshake
import Th2Common.Connection.Settings
import Th2Common.Lib.Hoare
import Th2Common.Lib.Numeral

/-! What `ConnectionManager::init` does with the values of the configuration file. -/

namespace Th2
open Text ConnectionManager

def Substituted (getenv : Bytes → Option Bytes) (given password : Bytes) : Prop :=
  if given = RabbitMQConfiguration.placeholder then getenv "RABBITMQ_PASS" = some password
  else password = given

structure Honours (getenv : Bytes → Option Bytes) (j : Json) (out : Except Fault Unit)
    (cm : ConnectionManager) (υ : Trace) : Prop where
  opens : ∀ socket host port status, .amqpSocketOpen socket host port status ∈ υ →
    j.find? "host" = some (.string host) ∧
      ∃ numeral, j.find? "port" = some (.string numeral) ∧ Denotes numeral port
  logsIn : ∀ conn vhost user password reply, .amqpLogin conn vhost user password reply ∈ υ →
    j.find? "vHost" = some (.string vhost) ∧ j.find? "username" = some (.string user) ∧
      ∃ given, j.find? "password" = some (.string given) ∧ Substituted getenv given password
  connects : out = .ok () → ∃ conn, Handshaken υ conn
  subscriberName : out = .ok () → ∀ name, GivenOr j "subscriberName" Json.getString [] name →
    if name = [] then cm.subscriberName ≠ [] else cm.subscriberName = name

theorem substitutePassword_eq_ok {getenv : Bytes → Option Bytes} {given password : Bytes} :
    RabbitMQConfiguration.substitutePassword getenv given = .ok password ↔
      Substituted getenv given password := by
  unfold RabbitMQConfiguration.substitutePassword Substituted
  split
  · rcases getenv "RABBITMQ_PASS" with _ | value
    · exact ⟨nofun, nofun⟩
    · simp
  · simp [eq_comm]

namespace Answers
variable (cfg : RabbitMQConfiguration) (a : Answers)

theorem socketOpen_notMem_opening (socket : Option Connection) (host : Bytes) (port status : Int) :
    .amqpSocketOpen socket host port status ∉ a.opening cfg := by
  unfold opening
  cases a.socket <;> simp

theorem login_notMem_opening (conn : Connection) (vhost user password : Bytes) (reply : ReplyType) :
    .amqpLogin conn vhost user password reply ∉ a.opening cfg := by
  unfold opening
  cases a.socket <;> simp

end Answers

namespace Handshake
variable {cfg : RabbitMQConfiguration} {a : Answers} {out : Except Fault Unit} {υ : Trace}

theorem mem_socketOpen_iff (h : Handshake cfg a out υ) {port : Int} (hport : stoi cfg.port = .ok port)
    {socket : Option Connection} {host : Bytes} {port' status : Int} :
    .amqpSocketOpen socket host port' status ∈ υ ↔
      socket = a.socket ∧ host = cString cfg.host ∧ port' = port ∧ status = a.status := by
  have hopening := a.socketOpen_notMem_opening cfg socket host port' status
  cases h with
  | badPort hbad =>
    rw [hport] at hbad
    cases hbad
  | notConnected hp | notLoggedIn hp | noChannel hp | completed hp =>
    obtain rfl := Except.ok.inj (hp.symm.trans hport)
    simp [hopening, Answers.socketOpened, Answers.loggedIn, Answers.channelOpened]

theorem mem_login_iff (h : Handshake cfg a out υ) {port : Int} (hport : stoi cfg.port = .ok port)
    {conn : Connection} {vhost user password : Bytes} {reply : ReplyType} :
    .amqpLogin conn vhost user password reply ∈ υ ↔
      a.status = 0 ∧ conn = a.conn ∧ vhost = cString cfg.vHost ∧ user = cString cfg.username ∧
        password = cString cfg.password ∧ reply = a.login := by
  have hopening := a.login_notMem_opening cfg conn vhost user password reply
  cases h with
  | badPort hbad =>
    rw [hport] at hbad
    cases hbad
  | notConnected hp hstatus => simp [hopening, hstatus, Answers.socketOpened]
  | notLoggedIn hp hstatus | noChannel hp hstatus =>
    simp [hopening, hstatus, Answers.socketOpened, Answers.loggedIn, Answers.channelOpened]
  | completed hp hgood =>
    simp [hopening, hgood.1, Answers.socketOpened, Answers.loggedIn, Answers.channelOpened]

end Handshake

namespace ConnectionManager
variable {name : Bytes}

def Named (name : Bytes) (s : ConnectionManager × Trace) : Prop := s.1.subscriberName = name

theorem named_act {α : Type} (p : Prog Trace Fault α) : Prog.Keeps (Named name) (act p) := by
  rintro ⟨cm, τ⟩ h
  rw [exec_act]
  rcases (p.exec τ).1 with e | a <;> exact h

theorem named_assign {f : ConnectionManager → ConnectionManager}
    (hf : ∀ cm, (f cm).subscriberName = cm.subscriberName) : Prog.Keeps (Named name) (assign f) :=
  fun s h => (hf s.1).trans h

theorem named_lift {α : Type} (x : Except Fault α) :
    Prog.Keeps (Named name) (Prog.lift x : Method α) :=
  Prog.triple_lift (fun _ _ _ h => h) fun _ _ _ h => h

theorem named_makeSocket (amqp : Amqp) (cfg : RabbitMQConfiguration) :
    Prog.Keeps (Named name) (makeSocket amqp cfg) := by
  refine Prog.keeps_bind (named_act _) fun _ => Prog.keeps_bind (named_assign fun _ => rfl) fun _ =>
    Prog.keeps_bind (named_act _) fun _ => Prog.keeps_bind (named_act _) fun _ =>
    Prog.keeps_bind (named_assign fun _ => rfl) fun _ => Prog.keeps_bind (named_act _) fun _ =>
    Prog.keeps_bind (named_assign fun _ => rfl) fun _ => Prog.keeps_bind (named_act _) fun _ =>
    Prog.keeps_bind (named_act _) fun _ => Prog.keeps_pure _

theorem named_openSocket (amqp : Amqp) (cfg : RabbitMQConfiguration) (socket : Option Connection) :
    Prog.Keeps (Named name) (openSocket amqp cfg socket) := by
  refine Prog.keeps_bind (named_lift _) fun _ => Prog.keeps_bind (named_act _) fun _ =>
    Prog.keeps_bind (named_assign fun _ => rfl) fun _ => Prog.keeps_bind (named_act _) fun _ => ?_
  split
  · exact Prog.keeps_bind (named_act _) fun _ => named_lift _
  · exact Prog.keeps_pure _

theorem named_login (amqp : Amqp) (cfg : RabbitMQConfiguration) (conn : Connection) :
    Prog.Keeps (Named name) (login amqp cfg conn) := by
  refine Prog.keeps_bind (named_act _) fun _ => Prog.keeps_bind (named_act _) fun _ => ?_
  split
  · exact Prog.keeps_bind (named_act _) fun _ => named_lift _
  · exact Prog.keeps_pure _

theorem named_openChannel (amqp : Amqp) (conn : Connection) :
    Prog.Keeps (Named name) (openChannel amqp conn) := by
  refine Prog.keeps_bind (named_assign fun _ => rfl) fun _ => Prog.keeps_read_bind fun _ =>
    Prog.keeps_bind (named_act _) fun _ => Prog.keeps_bind (named_act _) fun _ =>
    Prog.keeps_bind (named_act _) fun _ => Prog.keeps_bind (named_act _) fun _ => ?_
  split
  · exact Prog.keeps_bind (named_act _) fun _ => named_lift _
  · exact Prog.keeps_pure _

/-- The name that `init` chooses: the default where a name is configured, and the
configured name where it is empty. -/
def chosenName (cfg : RabbitMQConfiguration) : Bytes :=
  if cfg.subscriberName = [] then [] else "rabbit_mq_subscriber."

theorem exec_chooseSubscriberName_named (cfg : RabbitMQConfiguration) (s : ConnectionManager × Trace) :
    ∃ s', (chooseSubscriberName cfg).exec s = (.ok (), s') ∧ Named (chosenName cfg) s' := by
  unfold chooseSubscriberName chosenName
  split
  · next hempty => exact ⟨_, rfl, hempty⟩
  · exact ⟨_, rfl, rfl⟩

theorem named_init (amqp : Amqp) {cfg : RabbitMQConfiguration} {cm : ConnectionManager}
    (hcfg : cm.rmqConfiguration = some cfg) (τ : Trace) :
    Named (chosenName cfg) ((init amqp).exec (cm, τ)).2 := by
  obtain ⟨s, hrun, hnamed⟩ := exec_chooseSubscriberName_named cfg (cm, τ)
  have hderef : (Prog.lift (deref cm.rmqConfiguration)).exec (cm, τ) = (.ok cfg, (cm, τ)) := by
    rw [hcfg]
    rfl
  unfold init
  rw [Prog.exec_bind_ok (Prog.exec_read _), Prog.exec_bind_ok hderef, Prog.exec_bind_ok hrun]
  refine Prog.Keeps.exec (Prog.keeps_bind (named_makeSocket amqp cfg) fun _ =>
    Prog.keeps_read_bind fun _ => Prog.keeps_bind (named_openSocket amqp cfg _) fun _ =>
    Prog.keeps_bind (named_login amqp cfg _) fun _ => named_openChannel amqp _) hnamed

end ConnectionManager

theorem Substituted.unique {getenv : Bytes → Option Bytes} {given p q : Bytes}
    (hp : Substituted getenv given p) (hq : Substituted getenv given q) : p = q := by
  rw [← substitutePassword_eq_ok] at hp hq
  exact Except.ok.inj (hp.symm.trans hq)

theorem honoursName_iff {cfg : RabbitMQConfiguration} :
    (if cfg.subscriberName = [] then chosenName cfg ≠ []
      else chosenName cfg = cfg.subscriberName) ↔
      cfg.subscriberName = "rabbit_mq_subscriber." := by
  unfold chosenName
  by_cases hempty : cfg.subscriberName = []
  · rw [if_pos hempty, if_pos hempty, hempty]
    decide
  · rw [if_neg hempty, if_neg hempty]
    exact eq_comm

section
variable {getenv : Bytes → Option Bytes} {j : Json} {cfg : RabbitMQConfiguration} {a : Answers}
  {out : Except Fault Unit} {υ : Trace} {port : Int}
  (hread : RabbitMQConfiguration.ReadFrom getenv j cfg) (hport : stoi cfg.port = .ok port)
  (h : Handshake cfg a out υ)
include hread hport h

theorem opens_iff (hdenotes : Denotes cfg.port port) :
    (∀ socket host port status, .amqpSocketOpen socket host port status ∈ υ →
      j.find? "host" = some (.string host) ∧
        ∃ numeral, j.find? "port" = some (.string numeral) ∧ Denotes numeral port) ↔
      0 ∉ cfg.host := by
  rw [← cString_eq_self_iff]
  constructor
  · intro hopens
    have hmem := (h.mem_socketOpen_iff hport).mpr ⟨rfl, rfl, rfl, rfl⟩
    have hhost := (hopens _ _ _ _ hmem).1
    rw [hread.host] at hhost
    exact (Json.string.inj (Option.some.inj hhost)).symm
  · intro hhost socket host port' status hmem
    obtain ⟨-, rfl, rfl, -⟩ := (h.mem_socketOpen_iff hport).mp hmem
    rw [hhost]
    exact ⟨hread.host, cfg.port, hread.port, hdenotes⟩

theorem logsIn_iff :
    (∀ conn vhost user password reply, .amqpLogin conn vhost user password reply ∈ υ →
      j.find? "vHost" = some (.string vhost) ∧ j.find? "username" = some (.string user) ∧
        ∃ given, j.find? "password" = some (.string given) ∧ Substituted getenv given password) ↔
      (a.status = 0 → 0 ∉ cfg.vHost ∧ 0 ∉ cfg.username ∧ 0 ∉ cfg.password) := by
  obtain ⟨given, hgiven, hpassword⟩ := hread.password
  rw [substitutePassword_eq_ok] at hpassword
  simp only [← cString_eq_self_iff]
  constructor
  · intro hlogsIn hstatus
    have hmem := (h.mem_login_iff hport).mpr ⟨hstatus, rfl, rfl, rfl, rfl, rfl⟩
    obtain ⟨hvHost, huser, given', hgiven', hpassword'⟩ := hlogsIn _ _ _ _ _ hmem
    rw [hread.vHost] at hvHost
    rw [hread.username] at huser
    rw [hgiven] at hgiven'
    cases hgiven'
    exact ⟨(Json.string.inj (Option.some.inj hvHost)).symm,
      (Json.string.inj (Option.some.inj huser)).symm, hpassword'.unique hpassword⟩
  · intro hcond conn vhost user password reply hmem
    obtain ⟨hstatus, -, rfl, rfl, rfl, -⟩ := (h.mem_login_iff hport).mp hmem
    obtain ⟨hvHost, huser, hpass⟩ := hcond hstatus
    rw [hvHost, huser, hpass]
    exact ⟨hread.vHost, hread.username, given, hgiven, hpassword⟩

end

/-- The strings of the document reach the library when no call cuts one short at a
zero byte; the name of the subscriber is honoured only where it is the default. -/
theorem honours_iff (getenv : Bytes → Option Bytes) (j : Json) (cfg : RabbitMQConfiguration)
    (hread : RabbitMQConfiguration.fromJson getenv j {} = .ok cfg) (port : Int)
    (hport : Denotes cfg.port port) (hlo : -2 ^ 31 ≤ port) (hhi : port < 2 ^ 31) (amqp : Amqp)
    (cm : ConnectionManager) (hcfg : cm.rmqConfiguration = some cfg) (τ : Trace) :
    ∃ out cm' υ, (init amqp).exec (cm, τ) = (out, (cm', τ ++ υ)) ∧
      (Honours getenv j out cm' υ ↔ 0 ∉ cfg.host ∧
        ((amqp.answers τ.length).status = 0 →
          0 ∉ cfg.vHost ∧ 0 ∉ cfg.username ∧ 0 ∉ cfg.password) ∧
        ((amqp.answers τ.length).Good → cfg.subscriberName = "rabbit_mq_subscriber.")) := by
  rw [RabbitMQConfiguration.fromJson_eq_ok] at hread
  have hstoi : stoi cfg.port = .ok port := stoi_of_denotes hport hlo hhi
  obtain ⟨out, cm', υ, hrun, hshake, -⟩ := exec_init amqp cfg cm τ hcfg
  have hname : cm'.subscriberName = chosenName cfg := by
    have hnamed := named_init amqp hcfg τ
    rw [hrun] at hnamed
    exact hnamed
  have hok : out = .ok () ↔ (amqp.answers τ.length).Good :=
    hshake.eq_ok_iff.trans (and_iff_right ⟨port, hstoi⟩)
  refine ⟨out, cm', υ, hrun, ?_⟩
  rw [← opens_iff hread hstoi hshake hport, ← logsIn_iff hread hstoi hshake, ← hok]
  constructor
  · intro h
    refine ⟨h.opens, h.logsIn, fun hout => ?_⟩
    have hhonoured := h.subscriberName hout cfg.subscriberName hread.subscriberName
    rw [hname] at hhonoured
    exact honoursName_iff.mp hhonoured
  · rintro ⟨hopens, hlogsIn, hsubscriber⟩
    refine ⟨hopens, hlogsIn, fun hout => ?_, fun hout name hgiven => ?_⟩
    · rw [hout] at hshake
      exact ⟨_, hshake.handshaken⟩
    · obtain rfl : name = cfg.subscriberName := hgiven.unique hread.subscriberName
      rw [hname]
      exact honoursName_iff.mpr (hsubscriber hout)

def rabbitMqConfiguration : RabbitMQConfiguration where
  host := "127.0.0.1"
  vHost := "/"
  port := "5672"
  username := "rabbitmq"
  password := "rabbitmq"
  subscriberName := "subscriber_name"

theorem rabbitMqConfiguration_read :
    RabbitMQConfiguration.fromJson (fun _ => none) (rabbitMqJson "rabbitmq") {} =
      .ok rabbitMqConfiguration := rfl

theorem honours_iff_rabbitMq :
    ∃ out cm' υ, (init .accepting).exec ({ rmqConfiguration := some rabbitMqConfiguration }, []) =
        (out, (cm', [] ++ υ)) ∧
      (Honours (fun _ => none) (rabbitMqJson "rabbitmq") out cm' υ ↔ 0 ∉ rabbitMqConfiguration.host ∧
        ((Amqp.accepting.answers 0).status = 0 → 0 ∉ rabbitMqConfiguration.vHost ∧
          0 ∉ rabbitMqConfiguration.username ∧ 0 ∉ rabbitMqConfiguration.password) ∧
        ((Amqp.accepting.answers 0).Good →
          rabbitMqConfiguration.subscriberName = "rabbit_mq_subscriber.")) := by
  have hport : Denotes rabbitMqConfiguration.port 5672 :=
    ⟨[5, 6, 7, 2], ⟨by decide, by decide⟩, .inl ⟨rfl, rfl⟩⟩
  exact honours_iff (fun _ => none) (rabbitMqJson "rabbitmq") rabbitMqConfiguration
    rabbitMqConfiguration_read 5672 hport (by decide) (by decide) .accepting _ rfl []

theorem not_honours_rabbitMq :
    let run := (init .accepting).exec ({ rmqConfiguration := some rabbitMqConfiguration }, [])
    run.1 = .ok () ∧ ¬Honours (fun _ => none) (rabbitMqJson "rabbitmq") run.1 run.2.1 run.2.2 := by
  intro run
  have hok : run.1 = .ok () := rfl
  refine ⟨hok, fun h => ?_⟩
  have hname : run.2.1.subscriberName = "subscriber_name" := h.subscriberName hok _ rfl
  have hchosen : run.2.1.subscriberName = chosenName rabbitMqConfiguration :=
    named_init .accepting rfl []
  exact absurd (hname.symm.trans hchosen) (by decide)

end Th2
