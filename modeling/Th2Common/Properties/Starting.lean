import Th2Common.Connection.Settings
import Th2Common.Properties.Decoding
import Th2Common.Properties.Order

/-! The first `init()` of a factory, whatever the files hold and the library answers:
it settles everything or ends in an exception. -/

namespace Th2
open Text
open ConnectionManager (logDebug)

theorem isFatal_exec_bind {σ α β : Type} {p : Prog σ Fault α} {f : α → Prog σ Fault β} {s : σ}
    (hp : isFatal (p.exec s).1 = false)
    (hf : ∀ a t, p.exec s = (.ok a, t) → isFatal ((f a).exec t).1 = false) :
    isFatal ((p >>= f).exec s).1 = false := by
  rcases hrun : p.exec s with ⟨e | a, t⟩
  · rw [hrun] at hp
    rw [Prog.exec_bind_error hrun]
    cases e with
    | thrown e => rfl
    | nullDereference => cases hp
  · rw [Prog.exec_bind_ok hrun]
    exact hf a t hrun

theorem isFatal_ofJson {α : Type} (x : Except Json.Error α) : isFatal (ofJson x) = false := by
  cases x <;> rfl

theorem MessageRouterConfiguration.isFatal_fromJson (doc : Document) (n : Nat) :
    isFatal ((fromJson doc.root {}).exec n).1 = false := by
  by_cases h : DescribesQueues doc.root
  · obtain ⟨cfg, n', hrun, -⟩ := exec_fromJson_describing h {} n
    rw [hrun]
    rfl
  · obtain ⟨e, n', hrun⟩ := exec_fromJson_not_describing h {} n
    rw [hrun]
    rfl

namespace AbstractCommonFactory
variable (d : Deployment)

theorem isFatal_loadRabbitMqConfiguration (τ : Trace) :
    isFatal ((loadRabbitMqConfiguration d).exec τ).1 = false := by
  refine isFatal_exec_bind rfl fun _ _ _ => isFatal_exec_bind rfl fun _ _ _ => ?_
  split
  · exact isFatal_exec_bind rfl fun _ _ _ => rfl
  · refine isFatal_exec_bind rfl fun _ _ _ => isFatal_exec_bind rfl fun _ _ _ =>
      isFatal_exec_bind ?_ fun js _ _ => ?_
    · rw [Prog.exec_lift]
      exact isFatal_ofJson _
    · rw [Prog.exec_lift]
      exact RabbitMQConfiguration.isFatal_fromJson _ _ _

theorem isFatal_loadMessageRouterConfiguration (τ : Trace) :
    isFatal ((loadMessageRouterConfiguration d).exec τ).1 = false := by
  refine isFatal_exec_bind rfl fun _ _ _ => isFatal_exec_bind rfl fun _ _ _ => ?_
  split
  · exact isFatal_exec_bind rfl fun _ _ _ => rfl
  · refine isFatal_exec_bind rfl fun _ _ _ => isFatal_exec_bind ?_ fun js _ _ => ?_
    · rw [Prog.exec_lift]
      exact isFatal_ofJson _
    · rw [Prog.exec_lift]
      exact MessageRouterConfiguration.isFatal_fromJson js 0

theorem isFatal_act {α : Type} {p : Prog Trace Fault α} (h : ∀ τ, isFatal (p.exec τ).1 = false)
    (s : Process) : isFatal ((act p).exec s).1 = false := h s.trace

theorem isFatal_when {c : Prop} [Decidable c] {p : Method Unit}
    (h : ∀ s, isFatal (p.exec s).1 = false) (s : Process) :
    isFatal ((Prog.when c p).exec s).1 = false := by
  by_cases hc : c
  · rw [Prog.exec_when_pos hc]
    exact h s
  · rw [Prog.exec_when_neg hc]
    rfl

theorem isFatal_requireConfigurations (s : Process) :
    isFatal ((requireConfigurations d).exec s).1 = false := by
  refine isFatal_exec_bind ?_ fun _ t _ => ?_
  · refine isFatal_exec_bind rfl fun _ _ _ => isFatal_when (fun _ => ?_) _
    exact isFatal_exec_bind (isFatal_act (isFatal_loadRabbitMqConfiguration d) _) fun _ _ _ =>
      isFatal_exec_bind rfl fun _ _ _ => rfl
  · refine isFatal_exec_bind rfl fun _ _ _ => isFatal_when (fun _ => ?_) _
    exact isFatal_exec_bind (isFatal_act (isFatal_loadMessageRouterConfiguration d) _) fun _ _ _ =>
      isFatal_exec_bind rfl fun _ _ _ => isFatal_exec_bind rfl fun _ _ _ => rfl

theorem exec_init_fresh (order : ArgumentOrder) {τ : Trace} (hτ : gotRouters τ = []) :
    ∃ out t, (init d order).exec { trace := τ } = (out, t) ∧ isFatal out = false ∧
      (out = .ok () → ∃ cm cfg, Idle cm cfg t) ∧ (Accepting d → out = .ok ()) := by
  unfold init
  have hstart : (act (logDebug "Start init()")).exec { trace := τ } =
      (.ok (), { trace := τ ++ [.log .debug "Start init()"] }) := rfl
  rw [Prog.exec_bind_ok hstart]
  have hgo := isFatal_requireConfigurations d { trace := τ ++ [.log .debug "Start init()"] }
  rcases hload : (requireConfigurations d).exec { trace := τ ++ [.log .debug "Start init()"] } with
    ⟨e | ⟨⟩, s⟩
  · rw [hload] at hgo
    rw [Prog.exec_bind_error hload]
    refine ⟨_, s, rfl, ?_, nofun, fun hd => ?_⟩
    swap
    · obtain ⟨s', _, _, hok, -⟩ := hd.exec_requireConfigurations (τ ++ [.log .debug "Start init()"])
      rw [hload] at hok
      cases hok
    cases e with
    | thrown e => rfl
    | nullDereference => cases hgo
  · obtain ⟨rmq, cfg, free, υ, hυ, rfl⟩ := requireConfigurations_ok d hload
    let params : Observation := .log .debug "Start init() with params"
    have hparams (s : Process) : (act (logDebug "Start init() with params")).exec s =
        (.ok (), { s with trace := s.trace ++ [params] }) := rfl
    rw [Prog.exec_bind_ok hload, Prog.exec_bind_ok (hparams _)]
    have hloaded : Loaded rmq cfg { ({} : Process) with
        factory := { rmqCfg := some rmq, messageRouterCfg := some cfg }
        free := free
        trace := τ ++ [.log .debug "Start init()"] ++ υ ++ [params] } := by
      refine ⟨rfl, rfl, rfl, rfl, rfl, ?_⟩
      rw [gotRouters_append, gotRouters_append, gotRouters_append, hυ.output.gotRouters, hτ]
      rfl
    rcases hloaded.exec_arguments d order with
      ⟨-, -, cm, t, hrun, hidle⟩ | ⟨hbad, k, e, t, hrun, hfatal, -, -⟩
    · exact ⟨_, t, hrun, rfl, fun _ => ⟨cm, cfg, hidle⟩, fun _ => rfl⟩
    refine ⟨_, t, hrun, hfatal, nofun, fun hd => absurd ?_ hbad⟩
    obtain ⟨s', rmq', port, hload', hrmq, hport⟩ :=
      hd.exec_requireConfigurations (τ ++ [.log .debug "Start init()"])
    rw [hload] at hload'
    obtain rfl := (Prod.ext_iff.mp hload').2
    obtain rfl := Option.some.inj hrmq
    exact ⟨⟨port, hport⟩, hd.broker _⟩

end AbstractCommonFactory

end Th2
