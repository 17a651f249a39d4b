import Th2Common.Properties.Provenance

/-! What was read from the two files is what the library is called with: the address
and the login of every connection, and the names in every frame. -/

namespace Th2
open Text

def Observation.Follows (rmqCfg : Option RabbitMQConfiguration) : Observation → Prop
  | .amqpSocketOpen _ host port _ =>
    ∃ rmq, rmqCfg = some rmq ∧ host = cString rmq.host ∧ stoi rmq.port = .ok port
  | .amqpLogin _ vhost user password _ =>
    ∃ rmq, rmqCfg = some rmq ∧ vhost = cString rmq.vHost ∧ user = cString rmq.username ∧
      password = cString rmq.password
  | _ => True

def Follows (rmqCfg : Option RabbitMQConfiguration) (υ : Trace) : Prop :=
  ∀ e ∈ υ, e.Follows rmqCfg

def FollowsRoute (d : Deployment) (cfg : SharedPtr MessageRouterConfiguration)
    (p : Bytes × PublishFrame) : Prop :=
  ∃ c doc r, cfg = some c ∧ d.RouterRead doc ∧ c.val.DecodedFrom doc ∧ r ∈ routes doc.root ∧
    r.queueAlias = p.1 ∧ p.2.exchange = cString r.exchange ∧ p.2.routingKey = cString r.name

structure Endpoints (d : Deployment) (s : Process) : Prop where
  rmqRead : ∀ rmq, s.factory.rmqCfg = some rmq → d.RmqRead rmq
  routerRead : ∀ cfg, s.factory.messageRouterCfg = some cfg →
    ∃ doc, d.RouterRead doc ∧ cfg.val.DecodedFrom doc
  connections : Follows s.factory.rmqCfg s.trace
  frames : ∀ p ∈ framesFrom [] s.trace, FollowsRoute d s.factory.messageRouterCfg p

namespace Follows
variable {rmqCfg : Option RabbitMQConfiguration} {υ ω : Trace}

theorem append (hυ : Follows rmqCfg υ) (hω : Follows rmqCfg ω) : Follows rmqCfg (υ ++ ω) :=
  fun e he => (List.mem_append.mp he).elim (hυ e) (hω e)

theorem configured (h : Follows none υ) : Follows rmqCfg υ := by
  intro e he
  have hnone := h e he
  cases e with
  | amqpSocketOpen socket host port status =>
    obtain ⟨_, hsome, _⟩ := hnone
    cases hsome
  | amqpLogin conn vhost user password reply =>
    obtain ⟨_, hsome, _⟩ := hnone
    cases hsome
  | _ => trivial

theorem output (h : Output υ) : Follows rmqCfg υ := by
  intro e he
  have houtput := h e he
  cases e <;> trivial

theorem handshake {rmq : RabbitMQConfiguration} {a : Answers} {out : Except Fault Unit}
    (h : Handshake rmq a out υ) : Follows (some rmq) υ := by
  have hopening : Follows (some rmq) (a.opening rmq) := by
    unfold Answers.opening Follows
    cases a.socket <;> simp [Observation.Follows]
  have hopened {port : Int} (hport : stoi rmq.port = .ok port) :
      Follows (some rmq) (a.opening rmq ++ a.socketOpened rmq port) :=
    hopening.append (by simp [Follows, Observation.Follows, Answers.socketOpened, hport])
  have hlogged {port : Int} (hport : stoi rmq.port = .ok port) :
      Follows (some rmq) (a.opening rmq ++ a.socketOpened rmq port ++ a.loggedIn rmq) :=
    (hopened hport).append (by simp [Follows, Observation.Follows, Answers.loggedIn])
  have hchannel {port : Int} (hport : stoi rmq.port = .ok port) :
      Follows (some rmq)
        (a.opening rmq ++ a.socketOpened rmq port ++ a.loggedIn rmq ++ a.channelOpened) :=
    (hlogged hport).append (by simp [Follows, Observation.Follows, Answers.channelOpened])
  have hlog (level : Level) (text : Bytes) : Follows (some rmq) [.log level text] :=
    output (.log level text)
  cases h with
  | badPort hport => exact hopening
  | notConnected hport hbad => exact (hopened hport).append (hlog _ _)
  | notLoggedIn hport hok hbad => exact (hlogged hport).append (hlog _ _)
  | noChannel hport hok hlogin hbad => exact (hchannel hport).append (hlog _ _)
  | completed hport hgood => exact hchannel hport

theorem dial {d : Deployment} {cm cm' : SharedPtr ConnectionManager}
    (h : Dial d rmqCfg cm cm' υ) : Follows rmqCfg υ := by
  cases h with
  | stored cm => exact fun e he => absurd he List.not_mem_nil
  | unconfigured hrmq hυ => exact output hυ.output
  | failed n hrmq hbefore hshake =>
    rw [hrmq]
    exact (output hbefore.output).append (handshake hshake)
  | connected n hrmq hbefore hshake hafter hconn hchannel =>
    rw [hrmq]
    exact ((output hbefore.output).append (handshake hshake)).append (output hafter.output)

theorem shipped {amqp : Amqp} {cm : ConnectionManager} {l : List Shipment}
    {out : Except Fault Unit} (h : Shipped amqp cm l out υ) : Follows rmqCfg υ := by
  have hattempt (s : Shipment) (res : Int) : Follows rmqCfg (s.attempt cm res) := by
    simp [Follows, Observation.Follows, Shipment.attempt, ConnectionManager.publishAttempt]
  have hreport (s : Shipment) : Follows rmqCfg (s.report cm) := by
    unfold Shipment.report ConnectionManager.publishReport Follows
    split <;> simp [Observation.Follows]
  induction h with
  | done => exact fun e he => absurd he List.not_mem_nil
  | accepted n _ _ ih => exact ((hattempt _ _).append (hreport _)).append ih
  | refused n _ => exact hattempt _ _

theorem sending {d : Deployment} {k : RouterKind} {router : AbstractRabbitMessageRouter}
    {op : Operation} {b : k.Batch} {out : Except Fault Unit} (h : Sending d k router op b out υ) :
    Follows rmqCfg υ := by
  cases h with
  | nowhere => exact fun e he => absurd he List.not_mem_nil
  | misdirected queueAlias => simp [Follows, Observation.Follows]
  | refused => exact fun e he => absurd he List.not_mem_nil
  | shipped hcm hcfg hdoc hroutes hallows h => exact shipped h

end Follows

namespace Endpoints
variable {d : Deployment} {s t : Process}

theorem uneventful (h : Endpoints d s) {υ : Trace} (hframes : Uneventful υ)
    (hυ : Follows s.factory.rmqCfg υ) {q : Process} (hrmq : q.factory.rmqCfg = s.factory.rmqCfg)
    (hcfg : q.factory.messageRouterCfg = s.factory.messageRouterCfg)
    (htrace : q.trace = s.trace ++ υ) : Endpoints d q := by
  refine ⟨fun rmq h' => h.rmqRead rmq (hrmq ▸ h'), fun cfg h' => h.routerRead cfg (hcfg ▸ h'), ?_, ?_⟩
  · rw [hrmq, htrace]
    exact h.connections.append hυ
  · rw [hcfg, htrace]
    intro p hp
    rcases mem_framesFrom_append hp with hp | ⟨a, hp⟩
    · exact h.frames p hp
    · rw [hframes.no_frames] at hp
      cases hp

theorem move (h : Endpoints d s) (hmove : Move d s t) : Endpoints d t := by
  obtain ⟨υ, hυ, huneventful⟩ := hmove.uneventful
  cases hmove with
  | said free hsaid =>
    exact h.uneventful (List.append_cancel_left hυ ▸ huneventful) (.output hsaid.output) rfl rfl rfl
  | loadedRmq rmq hnone hread =>
    refine ⟨fun rmq' h' => ?_, h.routerRead, ?_, h.frames⟩
    · rwa [← Option.some.inj h']
    · have hconnections := h.connections
      rw [hnone] at hconnections
      exact hconnections.configured
  | @loadedRouter cfg doc hnone hread hdoc =>
    refine ⟨h.rmqRead, fun cfg' h' => ⟨doc, hread, ?_⟩, h.connections, fun p hp => ?_⟩
    · rwa [← Option.some.inj h']
    · obtain ⟨_, _, _, hsome, _⟩ := h.frames p hp
      rw [hnone] at hsome
      cases hsome
  | made k free hnone hdial =>
    exact h.uneventful (List.append_cancel_left hυ ▸ huneventful) (.dial hdial) rfl rfl rfl
  | returned k hsome =>
    exact h.uneventful (List.append_cancel_left hυ ▸ huneventful)
      (by simp [Follows, Observation.Follows]) rfl rfl rfl

theorem sent {k : RouterKind} {router : AbstractRabbitMessageRouter} {op : Operation}
    {b : k.Batch} {out : Except Fault Unit} {υ : Trace} (h : Endpoints d s) (hshared : Shared s)
    (hr : router ∈ s.heap k) (hsending : Sending d k router op b out υ) :
    Endpoints d { s with trace := s.trace ++ υ } := by
  refine ⟨h.rmqRead, h.routerRead, h.connections.append (.sending hsending), fun p hp => ?_⟩
  rcases mem_framesFrom_append hp with hp | ⟨a, hp⟩
  · exact h.frames p hp
  · cases hsending with
    | nowhere => cases hp
    | misdirected queueAlias => cases hp
    | refused => cases hp
    | @shipped cm cfg doc rs _ _ hcm hcfg hdoc hroutes hallows hshipped =>
      -- the router sends under the configuration that the factory has read
      have hstored : s.factory.messageRouterCfg = some cfg := by
        have hconfiguration := hshared.configuration k router hr
        rw [hcfg] at hconfiguration
        exact (hconfiguration.resolve_left nofun).symm
      obtain ⟨doc', hread, hdoc'⟩ := h.routerRead cfg hstored
      obtain ⟨shipment, hs, rfl⟩ := hshipped.mem_framesFrom hp
      have hperm := (hroutes.map (Route.shipment (k.valueToBytes d.protobuf b))).trans
        (shipments_perm hdoc hdoc' k b _ _)
      obtain ⟨r, hr', rfl⟩ := List.mem_map.mp (hperm.mem_iff.mp hs)
      exact ⟨cfg, doc', r, hstored, hread, hdoc', (addressed_sublist k _ b _).subset hr', rfl, rfl,
        rfl⟩

theorem invariant (d : Deployment) (calls : List FactoryCall) :
    Invariant d calls fun s => Shared s ∧ Endpoints d s where
  initial := ⟨(shared_invariant d calls).initial, nofun, nofun, nofun, nofun⟩
  move h hmove := ⟨(shared_invariant d calls).move h.1 hmove, h.2.move hmove⟩
  replaced routers hcall h := ⟨(shared_invariant d calls).replaced routers hcall h.1,
    h.2.rmqRead, h.2.routerRead, h.2.connections, h.2.frames⟩
  sent hcall h hr hsending := ⟨(shared_invariant d calls).sent hcall h.1 hr hsending,
    h.2.sent h.1 (List.mem_of_getElem? hr) hsending⟩

end Endpoints

/-- Whatever is called and whenever the files change: each connection of a run is opened
and each login made as one reading of the file says, and each frame bears the names that
one reading of the other file gives its queue. -/
theorem endpoints_of_run (d : Deployment) (calls : List FactoryCall) :
    Endpoints d (({} : Process).run d calls) :=
  (Endpoints.invariant d calls).run.2

end Th2
