import Th2Common.Factory.Effects
import Th2Common.Properties.Retry
import Th2Common.Properties.Connection

/-! What a factory never does: replace what it has loaded, connected or made, make a
second router of a kind, or repair a router whose connection had failed. -/

namespace Th2
open AbstractCommonFactory

theorem exec_send_empty (d : Deployment) {s : Process} {k : RouterKind} {n : Nat}
    (hempty : (s.heap k)[n]? = some {}) (order : WalkOrder Walk) (op : Operation) (b : k.Batch) :
    (FactoryCall.perform d (.send k n order op b)).exec s =
      (.error (.thrown notInitialised), s) := by
  have hlift : (Prog.lift (deref ((s.heap k)[n]?)) : Method _).exec s = (.ok {}, s) := by
    rw [hempty]
    rfl
  unfold FactoryCall.perform
  rw [Prog.exec_bind_ok (Prog.exec_read s), Prog.exec_bind_ok hlift, exec_act, perform_unconfigured]

/-- Whatever is called after `calls`: what was loaded, connected and made then is
still there, and a router that was left without a connection throws at every send
and publishes nothing. -/
theorem nothing_replaced (d : Deployment) (calls more : List FactoryCall) :
    Grown (({} : Process).run d calls) (({} : Process).run d (calls ++ more)) ∧
    ∀ (k : RouterKind) (n : Nat) (router : AbstractRabbitMessageRouter),
      ((({} : Process).run d calls).heap k)[n]? = some router → router.connectionManager = none →
      ∀ (order : WalkOrder Walk) (op : Operation) (b : k.Batch),
        (FactoryCall.perform d (.send k n order op b)).exec (({} : Process).run d (calls ++ more)) =
          (.error (.thrown notInitialised), ({} : Process).run d (calls ++ more)) := by
  have hgrown := Process.grown_append d calls more
  refine ⟨hgrown, fun k n router hrouter hnone order op b => ?_⟩
  have hshared := (shared_invariant d calls).run
  -- a router without a manager has no configuration either
  have hempty : router = {} := by
    have hcfg := hshared.whole k router (List.mem_of_getElem? hrouter) hnone
    obtain ⟨cm, cfg⟩ := router
    rw [show cm = none from hnone, show cfg = none from hcfg]
  obtain ⟨rest, hrest⟩ := hgrown.heap k
  apply exec_send_empty
  obtain ⟨hlt, -⟩ := List.getElem?_eq_some_iff.mp hrouter
  rw [← hrest, List.getElem?_append_left hlt, hrouter, hempty]

structure Single (s : Process) : Prop where
  few : ∀ k, (s.heap k = [] ∧ s.factory.routers k = none) ∨
    ((s.heap k).length = 1 ∧ s.factory.routers k = some (.own 0))
  returned : ∀ x ∈ gotRouters s.trace, x.2 = some (.own 0) ∧
    s.factory.routers x.1 = some (.own 0)

theorem Handshake.noRouters {cfg : RabbitMQConfiguration} {a : Answers} {out : Except Fault Unit}
    {before υ : Trace} (hbefore : Chatter before) (h : Handshake cfg a out υ) :
    Th2.gotRouters (before ++ υ) = [] := by
  rw [gotRouters_append, hbefore.output.gotRouters, h.gotRouters, List.append_nil]

theorem Dial.gotRouters {d : Deployment} {rmqCfg : Option RabbitMQConfiguration}
    {cm cm' : SharedPtr ConnectionManager} {υ : Trace} (h : Dial d rmqCfg cm cm' υ) :
    Th2.gotRouters υ = [] := by
  cases h with
  | stored cm => rfl
  | unconfigured hrmq hυ => exact hυ.output.gotRouters
  | failed n hrmq hbefore hshake => exact hshake.noRouters hbefore
  | connected n hrmq hbefore hshake hafter hconn hchannel =>
    rw [gotRouters_append, hshake.noRouters hbefore, hafter.output.gotRouters, List.append_nil]

theorem Shipped.gotRouters {amqp : Amqp} {cm : ConnectionManager} {l : List Shipment}
    {out : Except Fault Unit} {υ : Trace} (h : Shipped amqp cm l out υ) :
    Th2.gotRouters υ = [] := by
  induction h with
  | done => rfl
  | @accepted s l out υ n _ _ ih =>
    have hreport : Th2.gotRouters (s.report cm) = [] := by
      unfold Shipment.report ConnectionManager.publishReport
      split <;> rfl
    rw [gotRouters_append, gotRouters_append, hreport, ih]
    rfl
  | refused n _ => rfl

theorem Sending.gotRouters {d : Deployment} {k : RouterKind} {router : AbstractRabbitMessageRouter}
    {op : Operation} {b : k.Batch} {out : Except Fault Unit} {υ : Trace}
    (h : Sending d k router op b out υ) : Th2.gotRouters υ = [] := by
  cases h with
  | nowhere => rfl
  | misdirected => rfl
  | refused => rfl
  | shipped hcm hcfg hdoc hroutes hallows hshipped => exact hshipped.gotRouters

namespace Single
variable {s t : Process}

theorem append (h : Single s) {υ : Trace} (hυ : ∀ x ∈ gotRouters υ, x.2 = some (.own 0) ∧
    s.factory.routers x.1 = some (.own 0)) (free : Nat) :
    Single { s with free := free, trace := s.trace ++ υ } where
  few := h.few
  returned x hx := by
    rw [gotRouters_append] at hx
    exact (List.mem_append.mp hx).elim (h.returned x) (hυ x)

theorem quiet (h : Single s) {υ : Trace} (hυ : gotRouters υ = []) (free : Nat) :
    Single { s with free := free, trace := s.trace ++ υ } :=
  h.append (fun _ hx => absurd (hυ ▸ hx) List.not_mem_nil) free

theorem move {d : Deployment} (h : Single s) (hmove : Move d s t) : Single t := by
  cases hmove with
  | said free hυ => exact h.quiet hυ.output.gotRouters free
  | loadedRmq rmq hnone hread => exact ⟨h.few, h.returned⟩
  | loadedRouter cfg hnone hread hdoc => exact ⟨h.few, h.returned⟩
  | @made k free cm υ hnone hdial =>
    have hheap : s.heap k = [] := by
      rcases h.few k with hfew | hfew
      · exact hfew.1
      · rw [hfew.2] at hnone
        cases hnone
    refine ⟨fun k' => ?_, fun x hx => ?_⟩
    · dsimp only
      by_cases hk : k' = k
      · subst hk
        rw [Function.update_self, Function.update_self, hheap]
        exact .inr ⟨rfl, rfl⟩
      · rw [Function.update_of_ne hk, Function.update_of_ne hk]
        exact h.few k'
    · rw [gotRouters_append, hdial.gotRouters, List.append_nil] at hx
      obtain ⟨hx2, hstored⟩ := h.returned x hx
      have hne : x.1 ≠ k := fun heq => by
        rw [heq, hnone] at hstored
        cases hstored
      exact ⟨hx2, (Function.update_of_ne hne ..).trans hstored⟩
  | returned k hsome =>
    have hstored : s.factory.routers k = some (.own 0) :=
      (h.few k).elim (fun hfew => absurd hfew.2 hsome) And.right
    refine h.append (fun _ hx => ?_) s.free
    rw [List.mem_singleton.mp hx]
    exact ⟨hstored, hstored⟩

end Single

/-- However connecting fails, a factory that is not given routers from outside makes
one of each kind at most, and every getter that returns at all returns that one. -/
theorem one_router_per_kind (d : Deployment) (calls : List FactoryCall)
    (hcalls : ∀ routers, .initWith routers ∉ calls) : Single (({} : Process).run d calls) := by
  have hsingle : Invariant d calls Single := {
    initial := ⟨fun _ => .inl ⟨rfl, rfl⟩, fun _ hx => absurd hx List.not_mem_nil⟩
    move := Single.move
    replaced := fun routers hmem => absurd hmem (hcalls routers)
    sent := fun _ hs _ hsending => hs.quiet hsending.gotRouters _ }
  exact hsingle.run

theorem one_router_per_kind_refusedOnce : Single (({} : Process).run refusedOnce
    [.init .leftToRight, .getter .rawBatch, .init .leftToRight]) :=
  one_router_per_kind refusedOnce _ fun routers hmem => by simp at hmem

end Th2
