import Th2Common.Lib.Relational
import Th2Common.Connection.ConnectionManager

/-! Two runs of the connection code side by side, with different passwords: the
traces differ in nothing but the password that the login hands to the library. -/

namespace Th2
open Text
open Prog (Alike Any Beside Related alike_bind alike_pure alike_lift alike_read)

def Observation.masked : Observation → Observation
  | .amqpLogin conn vhost user _ reply => .amqpLogin conn vhost user [] reply
  | e => e

def Masked (first first' : Observation) (τ τ' : Trace) : Prop :=
  ∃ υ υ', τ = first :: υ ∧ τ' = first' :: υ' ∧ υ.map Observation.masked = υ'.map Observation.masked

theorem Masked.length_eq {first first' : Observation} {τ τ' : Trace} (h : Masked first first' τ τ') :
    τ.length = τ'.length := by
  obtain ⟨υ, υ', rfl, rfl, h⟩ := h
  have := congrArg List.length h
  rw [List.length_map, List.length_map] at this
  rw [List.length_cons, List.length_cons, this]

theorem Masked.append {first first' : Observation} {τ τ' : Trace} (h : Masked first first' τ τ')
    {e e' : Observation} (he : e.masked = e'.masked) :
    Masked first first' (τ ++ [e]) (τ' ++ [e']) := by
  obtain ⟨υ, υ', rfl, rfl, h⟩ := h
  refine ⟨υ ++ [e], υ' ++ [e'], rfl, rfl, ?_⟩
  rw [List.map_append, List.map_append, h, List.map_singleton, List.map_singleton, he]

def SameConfiguration (cfg cfg' : RabbitMQConfiguration) : Prop :=
  cfg' = { cfg with password := cfg'.password }

structure SameManager (cm cm' : ConnectionManager) : Prop where
  members : cm' = { cm with rmqConfiguration := cm'.rmqConfiguration }
  configuration : Option.Rel SameConfiguration cm.rmqConfiguration cm'.rmqConfiguration

theorem related_deref {cfg cfg' : Option RabbitMQConfiguration}
    (h : Option.Rel SameConfiguration cfg cfg') :
    Related SameConfiguration (deref cfg) (deref cfg') := by
  cases h with
  | none => rfl
  | some h => exact h

namespace ConnectionManager
variable {first first' : Observation} {α : Type}

theorem alike_emit {e e' : Observation} (he : e.masked = e'.masked) :
    Alike (Masked first first') Any (emit e) (emit e') :=
  fun _ _ h => ⟨trivial, h.append he⟩

theorem alike_ask {ρ : Type} (answer : Nat → ρ) {event event' : ρ → Observation}
    (he : ∀ r, (event r).masked = (event' r).masked) :
    Alike (Masked first first') (· = ·) (ask answer event) (ask answer event') := by
  intro τ τ' h
  have hlen := h.length_eq
  rw [exec_ask, exec_ask, hlen]
  exact ⟨rfl, h.append (he _)⟩

theorem alike_act {S : α → α → Prop} {p p' : Prog Trace Fault α}
    (h : Alike (Masked first first') S p p') :
    Alike (Beside SameManager (Masked first first')) S (act p) (act p') :=
  Prog.alike_zoom h (fun _ _ hs => hs.2) fun _ _ _ _ hs ht => ⟨hs.1, ht⟩

theorem alike_log (level : Level) (text : Bytes) :
    Alike (Beside SameManager (Masked first first')) Any (act (emit (.log level text)))
      (act (emit (.log level text))) := alike_act (alike_emit rfl)

theorem alike_assign {f : ConnectionManager → ConnectionManager}
    (hf : ∀ cm cfg, f { cm with rmqConfiguration := cfg } = { f cm with rmqConfiguration := cfg })
    (hcfg : ∀ cm, (f cm).rmqConfiguration = cm.rmqConfiguration) :
    Alike (Beside SameManager (Masked first first')) Any (assign f) (assign f) := by
  refine Prog.alike_update fun s s' hs => ⟨⟨?_, ?_⟩, hs.2⟩
  · rw [hcfg, ← hf, ← hs.1.members]
  · rw [hcfg, hcfg]
    exact hs.1.configuration

variable (amqp : Amqp) (cfg : RabbitMQConfiguration)

theorem alike_chooseSubscriberName :
    Alike (Beside SameManager (Masked first first')) Any (chooseSubscriberName cfg)
      (chooseSubscriberName cfg) := by
  unfold chooseSubscriberName
  split <;> exact alike_bind (alike_log _ _) fun _ _ _ =>
    alike_assign (fun _ _ => rfl) fun _ => rfl

theorem alike_makeSocket :
    Alike (Beside SameManager (Masked first first')) (· = ·) (makeSocket amqp cfg)
      (makeSocket amqp cfg) := by
  refine alike_bind (alike_act (alike_ask _ fun _ => rfl)) fun conn _ hconn => ?_
  subst hconn
  refine alike_bind (alike_assign (fun _ _ => rfl) fun _ => rfl) fun _ _ _ =>
    alike_bind (alike_log _ _) fun _ _ _ =>
    alike_bind (alike_act (alike_ask _ fun _ => rfl)) fun socket _ hsocket => ?_
  subst hsocket
  refine alike_bind (alike_assign (fun _ _ => rfl) fun _ => rfl) fun _ _ _ =>
    alike_bind (alike_act (S := Any) ?_) fun _ _ _ =>
    alike_bind (alike_assign (fun _ _ => rfl) fun _ => rfl) fun _ _ _ =>
    alike_bind (alike_act (alike_emit rfl)) fun _ _ _ =>
    alike_bind (alike_log _ _) fun _ _ _ => alike_pure rfl
  unfold logSocket
  split <;> exact alike_emit rfl

theorem alike_fail (c : Prop) [Decidable c] (text : Bytes) :
    Alike (Beside SameManager (Masked first first')) Any
      (if c then do
        act (logError text)
        Prog.lift (throwRuntimeError text) else pure () : Method Unit)
      (if c then do
        act (logError text)
        Prog.lift (throwRuntimeError text) else pure () : Method Unit) := by
  split
  · exact alike_bind (alike_log _ _) fun _ _ _ => alike_lift rfl
  · exact alike_pure trivial

theorem alike_openSocket (socket : Option Connection) :
    Alike (Beside SameManager (Masked first first')) Any (openSocket amqp cfg socket)
      (openSocket amqp cfg socket) := by
  refine alike_bind (alike_lift (Prog.related_of_eq rfl)) fun port _ hport => ?_
  subst hport
  refine alike_bind (alike_act (alike_ask _ fun _ => rfl)) fun status _ hstatus => ?_
  subst hstatus
  exact alike_bind (alike_assign (fun _ _ => rfl) fun _ => rfl) fun _ _ _ =>
    alike_bind (alike_log _ _) fun _ _ _ => alike_fail _ _

theorem alike_login (conn : Connection) (password : Bytes) :
    Alike (Beside SameManager (Masked first first')) Any (login amqp cfg conn)
      (login amqp { cfg with password := password } conn) := by
  -- the only step that reads the password, and its entry is masked
  refine alike_bind (alike_act (alike_ask _ fun _ => rfl)) fun reply _ hreply => ?_
  subst hreply
  exact alike_bind (alike_log _ _) fun _ _ _ => alike_fail _ _

theorem alike_openChannel (conn : Connection) :
    Alike (Beside SameManager (Masked first first')) Any (openChannel amqp conn)
      (openChannel amqp conn) := by
  refine alike_bind (alike_assign (fun _ _ => rfl) fun _ => rfl) fun _ _ _ =>
    alike_bind alike_read fun s s' hs => ?_
  have hchannel : s'.1.channel = s.1.channel := by rw [hs.1.members]
  rw [hchannel]
  refine alike_bind (alike_act (alike_emit rfl)) fun _ _ _ => alike_bind (alike_log _ _) fun _ _ _ =>
    alike_bind (alike_act (alike_ask _ fun _ => rfl)) fun reply _ hreply => ?_
  subst hreply
  exact alike_bind (alike_log _ _) fun _ _ _ => alike_fail _ _

theorem alike_init :
    Alike (Beside SameManager (Masked first first')) Any (init amqp) (init amqp) := by
  refine alike_bind alike_read fun s s' hs =>
    alike_bind (alike_lift (related_deref hs.1.configuration)) fun cfg cfg' hcfg => ?_
  rw [show cfg' = { cfg with password := cfg'.password } from hcfg]
  refine alike_bind (alike_chooseSubscriberName cfg) fun _ _ _ =>
    alike_bind (alike_makeSocket amqp cfg) fun socket _ hsocket => ?_
  subst hsocket
  refine alike_bind alike_read fun t t' ht => ?_
  have hconn : t'.1.conn = t.1.conn := by rw [ht.1.members]
  rw [hconn]
  exact alike_bind (alike_openSocket amqp cfg socket) fun _ _ _ =>
    alike_bind (alike_login amqp cfg _ _) fun _ _ _ => alike_openChannel amqp _

theorem alike_basicPublish {cm cm' : ConnectionManager} (h : SameManager cm cm')
    (exchange routingKey message : Bytes) :
    Alike (Masked first first') Any (cm.basicPublish amqp exchange routingKey message)
      (cm'.basicPublish amqp exchange routingKey message) := by
  -- a publish does not look at the configuration
  have hsame : cm'.basicPublish amqp exchange routingKey message =
      cm.basicPublish amqp exchange routingKey message := by
    rw [h.members]
    rfl
  rw [hsame]
  refine alike_bind (alike_emit rfl) fun _ _ _ => alike_bind (S := Any) ?_ fun _ _ _ =>
    alike_bind (alike_emit rfl) fun _ _ _ => ?_
  · refine alike_bind (alike_ask _ fun _ => rfl) fun res _ hres => ?_
    subst hres
    unfold Prog.raiseIf
    split
    · exact fun _ _ hs => ⟨rfl, hs⟩
    · exact alike_pure trivial
  · split
    · exact alike_emit rfl
    · exact alike_pure trivial

end ConnectionManager

end Th2
