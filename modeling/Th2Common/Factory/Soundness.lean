import Th2Common.Factory.Effects
import Th2Common.Message.Deliveries

/-! The invariant of a factory: one connection is opened and everything is
published over it. -/

namespace Th2
open Text

theorem mem_amqpPublishes {τ : Trace} {frame : PublishFrame} {result : Int} :
    (frame, result) ∈ amqpPublishes τ ↔ .amqpBasicPublish frame result ∈ τ := by
  unfold amqpPublishes
  rw [List.mem_filterMap]
  constructor
  · rintro ⟨e, he, heq⟩
    cases e with
    | amqpBasicPublish frame' result' =>
      cases heq
      exact he
    | _ => cases heq
  · exact fun h => ⟨_, h, rfl⟩

theorem append_cons_split {α : Type} {first second before after : List α} {e : α}
    (h : first ++ second = before ++ e :: after) (he : e ∉ first) :
    ∃ mid, before = first ++ mid ∧ second = mid ++ e :: after := by
  rcases List.append_eq_append_iff.mp h with ⟨mid, hbefore, hsecond⟩ | ⟨mid, hfirst, hcons⟩
  · exact ⟨mid, hbefore, hsecond⟩
  · rcases mid with _ | ⟨x, mid⟩
    · exact ⟨[], by rw [hfirst, List.append_nil, List.append_nil], hcons.symm⟩
    · cases hcons
      exact absurd (hfirst ▸ List.mem_append_right _ List.mem_cons_self) he

/-- A manager whose handshake is in the trace, with every publish after it and over it. -/
structure Connected (cm : ConnectionManager) (τ : Trace) : Prop where
  channel : cm.channel = 1
  once : handshakes τ = 1
  since : ∃ before after, τ = before ++ after ∧ Handshaken before cm.conn ∧
    amqpPublishes before = [] ∧
    ∀ p ∈ amqpPublishes after, p.1.conn = cm.conn ∧ p.1.channel = cm.channel

theorem Connected.append {cm : ConnectionManager} {τ υ : Trace} (h : Connected cm τ)
    (hshakes : handshakes υ = 0)
    (hover : ∀ p ∈ amqpPublishes υ, p.1.conn = cm.conn ∧ p.1.channel = cm.channel) :
    Connected cm (τ ++ υ) := by
  have honce : handshakes (τ ++ υ) = 1 := by rw [handshakes_append, h.once, hshakes]
  obtain ⟨before, after, rfl, hshaken, hnone, hafter⟩ := h.since
  refine ⟨h.channel, honce, before, after ++ υ, ?_, hshaken, hnone, ?_⟩
  · rw [List.append_assoc]
  · intro p hp
    rw [amqpPublishes_append] at hp
    rcases List.mem_append.mp hp with hp | hp
    · exact hafter p hp
    · exact hover p hp

theorem Connected.publish {cm : ConnectionManager} {τ before after : Trace} (h : Connected cm τ)
    {frame : PublishFrame} {result : Int}
    (hτ : τ = before ++ .amqpBasicPublish frame result :: after) :
    frame.conn = cm.conn ∧ frame.channel = 1 ∧ Handshaken before cm.conn := by
  obtain ⟨first, second, hsplit, hshaken, hnone, hover⟩ := h.since
  -- nothing was published before the handshake, so this publish comes after it
  have hfirst : .amqpBasicPublish frame result ∉ first := by
    rw [← mem_amqpPublishes, hnone]
    nofun
  obtain ⟨mid, rfl, rfl⟩ := append_cons_split (hsplit.symm.trans hτ) hfirst
  obtain ⟨hconn, hchannel⟩ := hover (frame, result)
    (mem_amqpPublishes.mpr (List.mem_append_right _ List.mem_cons_self))
  exact ⟨hconn, hchannel.trans h.channel, hshaken.mono (List.sublist_append_left _ _)⟩

namespace Shipment
variable (cm : ConnectionManager) (s : Shipment) (res : Int)

theorem handshakes_attempt : handshakes (s.attempt cm res) = 0 := rfl

theorem amqpPublishes_attempt : amqpPublishes (s.attempt cm res) =
    [(ConnectionManager.publishFrame cm.conn cm.channel s.exchange s.message s.routingKey, res)] := rfl

theorem report_quiet : Quiet (s.report cm) := by
  unfold report ConnectionManager.publishReport
  split <;> exact ⟨rfl, rfl⟩

end Shipment

theorem Shipped.publishes {amqp : Amqp} {cm : ConnectionManager} {l : List Shipment}
    {out : Except Fault Unit} {υ : Trace} (h : Shipped amqp cm l out υ) :
    handshakes υ = 0 ∧ ∀ p ∈ amqpPublishes υ, p.1.conn = cm.conn ∧ p.1.channel = cm.channel := by
  induction h with
  | done => exact ⟨rfl, nofun⟩
  | @accepted s l out υ n _ _ ih =>
    obtain ⟨hpublishes, hshakes⟩ := s.report_quiet cm
    refine ⟨?_, fun p hp => ?_⟩
    · rw [handshakes_append, handshakes_append, Shipment.handshakes_attempt, hshakes, ih.1]
    · rw [amqpPublishes_append, amqpPublishes_append, Shipment.amqpPublishes_attempt, hpublishes,
        List.append_nil] at hp
      rcases List.mem_append.mp hp with hp | hp
      · rw [List.mem_singleton.mp hp]
        exact ⟨rfl, rfl⟩
      · exact ih.2 p hp
  | @refused s l n _ =>
    refine ⟨rfl, fun p hp => ?_⟩
    rw [Shipment.amqpPublishes_attempt] at hp
    rw [List.mem_singleton.mp hp]
    exact ⟨rfl, rfl⟩

theorem Sending.publishes {d : Deployment} {k : RouterKind} {router : AbstractRabbitMessageRouter}
    {op : Operation} {b : k.Batch} {out : Except Fault Unit} {υ : Trace}
    (h : Sending d k router op b out υ) :
    handshakes υ = 0 ∧ ∀ p ∈ amqpPublishes υ, ∃ cm, router.connectionManager = some cm ∧
      p.1.conn = cm.val.conn ∧ p.1.channel = cm.val.channel := by
  cases h with
  | nowhere => exact ⟨rfl, nofun⟩
  | misdirected queueAlias => exact ⟨rfl, nofun⟩
  | refused => exact ⟨rfl, nofun⟩
  | shipped hcm hcfg hdoc hroutes hallows hshipped =>
    obtain ⟨hshakes, hover⟩ := hshipped.publishes
    exact ⟨hshakes, fun p hp => ⟨_, hcm, hover p hp⟩⟩

structure Sound (s : Process) : Prop where
  unconnected : s.factory.rmqConnectionManager = none → Quiet s.trace
  connected : ∀ cm, s.factory.rmqConnectionManager = some cm → Connected cm.val s.trace

namespace Sound
variable {d : Deployment} {s t : Process}

theorem quiet (h : Sound s) {υ : Trace} (hυ : Quiet υ)
    (hmanager : t.factory.rmqConnectionManager = s.factory.rmqConnectionManager)
    (htrace : t.trace = s.trace ++ υ) : Sound t where
  unconnected hnone := by
    rw [hmanager] at hnone
    rw [htrace]
    exact (h.unconnected hnone).append hυ
  connected cm hcm := by
    rw [hmanager] at hcm
    rw [htrace]
    exact (h.connected cm hcm).append hυ.2 (by rw [hυ.1]; nofun)

theorem connect (h : Sound s) (hnone : s.factory.rmqConnectionManager = none)
    {cm : Obj ConnectionManager} {υ : Trace} (hchannel : cm.val.channel = 1)
    (honce : handshakes υ = 1) (hpublishes : amqpPublishes υ = [])
    (hshaken : Handshaken υ cm.val.conn) (hcm : t.factory.rmqConnectionManager = some cm)
    (htrace : t.trace = s.trace ++ υ) : Sound t where
  unconnected hnone' := by
    rw [hcm] at hnone'
    cases hnone'
  connected cm' hcm' := by
    obtain ⟨hbefore, hzero⟩ := h.unconnected hnone
    have hshakes : handshakes (s.trace ++ υ) = 1 := by rw [handshakes_append, hzero, honce]
    have hnothing : amqpPublishes (s.trace ++ υ) = [] := by
      rw [amqpPublishes_append, hbefore, hpublishes, List.append_nil]
    rw [hcm] at hcm'
    rw [htrace, ← Option.some.inj hcm']
    exact ⟨hchannel, hshakes, s.trace ++ υ, [], (List.append_nil _).symm,
      hshaken.mono (List.sublist_append_right _ _), hnothing, nofun⟩

theorem dial (h : Sound s) {cm : SharedPtr ConnectionManager} {υ : Trace}
    (hdial : Dial d s.factory.rmqCfg s.factory.rmqConnectionManager cm υ)
    (hcm : t.factory.rmqConnectionManager = cm) (htrace : t.trace = s.trace ++ υ) : Sound t := by
  rcases hold : s.factory.rmqConnectionManager with _ | old <;> rw [hold] at hdial
  · cases hdial with
    | unconfigured hrmq hchatter =>
      exact h.quiet hchatter.output.quiet (hcm.trans hold.symm) htrace
    | failed n hrmq hbefore hshake =>
      exact h.quiet (hbefore.output.quiet.append ⟨hshake.amqpPublishes, hshake.handshakes_eq⟩)
        (hcm.trans hold.symm) htrace
    | connected n hrmq hbefore hshake hafter hconn hchannel =>
      obtain ⟨hpublishes, hzero⟩ := hbefore.output.quiet
      obtain ⟨hpublishes', hzero'⟩ := hafter.output.quiet
      have hone : handshakes _ = 1 := hshake.handshakes_eq
      refine h.connect hold hchannel ?_ ?_ ?_ hcm htrace
      · rw [handshakes_append, handshakes_append, hzero, hone, hzero']
      · rw [amqpPublishes_append, amqpPublishes_append, hpublishes, hshake.amqpPublishes,
          hpublishes']
        rfl
      · rw [hconn]
        exact hshake.handshaken.mono
          ((List.sublist_append_right _ _).trans (List.sublist_append_left _ _))
  · cases hdial
    exact h.quiet .nil (hcm.trans hold.symm) htrace

theorem move (h : Sound s) (hmove : Move d s t) : Sound t := by
  cases hmove with
  | said free hchatter => exact h.quiet hchatter.output.quiet rfl rfl
  | loadedRmq rmq hnone hread => exact ⟨h.unconnected, h.connected⟩
  | loadedRouter cfg hnone hread hdoc => exact ⟨h.unconnected, h.connected⟩
  | made k free hnone hdial => exact h.dial hdial rfl rfl
  | returned k hsome => exact h.quiet ⟨rfl, rfl⟩ rfl rfl

theorem sent (h : Sound s) (hshared : Shared s) {k : RouterKind}
    {router : AbstractRabbitMessageRouter} (hr : router ∈ s.heap k) {op : Operation} {b : k.Batch}
    {out : Except Fault Unit} {υ : Trace} (hsending : Sending d k router op b out υ) :
    Sound { s with trace := s.trace ++ υ } := by
  obtain ⟨hshakes, hover⟩ := hsending.publishes
  -- a router without a manager does not publish, any other holds the stored one
  have hstored : ∀ p ∈ amqpPublishes υ, ∃ cm, s.factory.rmqConnectionManager = some cm ∧
      p.1.conn = cm.val.conn ∧ p.1.channel = cm.val.channel := by
    intro p hp
    obtain ⟨cm, hcm, hp⟩ := hover p hp
    have hmanager := hshared.manager k router hr
    rw [hcm] at hmanager
    exact ⟨cm, (hmanager.resolve_left nofun).symm, hp⟩
  refine ⟨fun hnone => ?_, fun cm hcm => ?_⟩
  · refine (h.unconnected hnone).append ⟨List.eq_nil_iff_forall_not_mem.mpr fun p hp => ?_, hshakes⟩
    obtain ⟨cm, hcm, -⟩ := hstored p hp
    rw [show s.factory.rmqConnectionManager = none from hnone] at hcm
    cases hcm
  · apply (h.connected cm hcm).append hshakes
    intro p hp
    obtain ⟨cm', hcm', hp⟩ := hstored p hp
    rw [show s.factory.rmqConnectionManager = some cm from hcm] at hcm'
    rwa [Option.some.inj hcm']

theorem invariant (d : Deployment) (calls : List FactoryCall) :
    Invariant d calls fun s => Shared s ∧ Sound s where
  initial := ⟨.initial, fun _ => .nil, nofun⟩
  move h hmove := ⟨h.1.move hmove, h.2.move hmove⟩
  replaced routers hcall h := ⟨(shared_invariant d calls).replaced routers hcall h.1,
    h.2.unconnected, h.2.connected⟩
  sent hcall h hr hsending := ⟨(shared_invariant d calls).sent hcall h.1 hr hsending,
    h.2.sent h.1 (List.mem_of_getElem? hr) hsending⟩

end Sound

end Th2
