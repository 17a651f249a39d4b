import Th2Common.Message.Operation

/-! The publishes of a trace with the alias each was for and the broker's
answer, and what the loop of a router leaves of them. -/

namespace Th2
open Text

def deliveriesFrom (s : Shipment) : Trace → List (Shipment × Int)
  | [] => []
  | .getMessageQueue queueAlias :: τ => deliveriesFrom { s with queueAlias := queueAlias } τ
  | .basicPublish exchange routingKey message :: τ =>
    deliveriesFrom ⟨s.queueAlias, exchange, routingKey, message⟩ τ
  | .amqpBasicPublish _ result :: τ => (s, result) :: deliveriesFrom s τ
  | _ :: τ => deliveriesFrom s τ

/-- Every `amqp_basic_publish` of a trace: its alias, the arguments of its
`basic_publish`, and its result. -/
def deliveries (τ : Trace) : List (Shipment × Int) := deliveriesFrom ⟨[], [], [], []⟩ τ

def tried (τ : Trace) : List Bytes :=
  τ.filterMap fun e => match e with
    | .getMessageQueue queueAlias => some queueAlias
    | _ => none

@[simp] theorem tried_append (τ υ : Trace) : tried (τ ++ υ) = tried τ ++ tried υ :=
  List.filterMap_append

theorem deliveriesFrom_results (s : Shipment) (τ : Trace) :
    (deliveriesFrom s τ).map Prod.snd = (amqpPublishes τ).map Prod.snd := by
  induction τ generalizing s with
  | nil => rfl
  | cons e τ ih =>
    cases e with
    | amqpBasicPublish frame result => exact congrArg (result :: ·) (ih s)
    | getMessageQueue queueAlias => exact ih _
    | basicPublish exchange routingKey message => exact ih _
    | _ => exact ih s

namespace Shipment
variable (cm : ConnectionManager) (s : Shipment) (res : Int) (υ : Trace)

theorem deliveriesFrom_attempt (t : Shipment) :
    deliveriesFrom t (s.attempt cm res ++ υ) = (s, res) :: deliveriesFrom s υ := rfl

theorem deliveriesFrom_report (t : Shipment) :
    deliveriesFrom t (s.report cm ++ υ) = deliveriesFrom t υ := by
  unfold report ConnectionManager.publishReport
  split <;> rfl

theorem tried_attempt : tried (s.attempt cm res) = [s.queueAlias] := rfl

theorem tried_report : tried (s.report cm) = [] := by
  unfold report ConnectionManager.publishReport
  split <;> rfl

theorem basicPublishes_attempt : basicPublishes (s.attempt cm res) = [s.publish] := rfl

theorem basicPublishes_report : basicPublishes (s.report cm) = [] := by
  unfold report ConnectionManager.publishReport
  split <;> rfl

end Shipment

namespace Shipped
variable {amqp : Amqp} {cm : ConnectionManager} {l : List Shipment} {out : Except Fault Unit}
  {υ : Trace}

theorem of_accepting (haccept : ∀ n, 0 ≤ amqp.basicPublish n) (h : Shipped amqp cm l out υ) :
    out = .ok () := by
  induction h with
  | done => rfl
  | accepted _ _ _ ih => exact ih
  | refused n hn => exact absurd (haccept n) (Int.not_le.mpr hn)

theorem returned (h : Shipped amqp cm l (.ok ()) υ) (t : Shipment) :
    (deliveriesFrom t υ).map Prod.fst = l ∧ basicPublishes υ = l.map Shipment.publish := by
  generalize hout : (Except.ok () : Except Fault Unit) = out at h
  induction h generalizing t with
  | done => exact ⟨rfl, rfl⟩
  | @accepted s l out υ n _ _ ih =>
    obtain ⟨hd, hp⟩ := ih s hout
    constructor
    · rw [List.append_assoc, Shipment.deliveriesFrom_attempt, Shipment.deliveriesFrom_report,
        List.map_cons, hd]
    · rw [basicPublishes_append, basicPublishes_append, Shipment.basicPublishes_attempt,
        Shipment.basicPublishes_report, hp]
      rfl
  | refused => cases hout

theorem threw {e : Fault} (h : Shipped amqp cm l (.error e) υ) (t : Shipment) :
    ∃ ds d, deliveriesFrom t υ = ds ++ [d] ∧ (∀ x ∈ ds, 0 ≤ x.2) ∧ d.2 < 0 ∧
      e = .thrown (ConnectionManager.publishFail d.2) ∧ (ds ++ [d]).map Prod.fst <+: l ∧
      tried υ = (ds ++ [d]).map fun x => x.1.queueAlias := by
  generalize hout : (Except.error e : Except Fault Unit) = out at h
  induction h generalizing t with
  | done => cases hout
  | @accepted s l out υ n hn _ ih =>
    -- an accepted round stands before those that the induction knows of
    obtain ⟨ds, d, hd, hacc, hneg, he, hpre, htried⟩ := ih s hout
    refine ⟨(s, amqp.basicPublish n) :: ds, d, ?_, ?_, hneg, he, ?_, ?_⟩
    · rw [List.append_assoc, Shipment.deliveriesFrom_attempt, Shipment.deliveriesFrom_report, hd]
      rfl
    · intro x hx
      rcases List.mem_cons.mp hx with rfl | hx
      · exact hn
      · exact hacc x hx
    · exact List.cons_prefix_cons.mpr ⟨rfl, hpre⟩
    · rw [tried_append, tried_append, Shipment.tried_attempt, Shipment.tried_report, htried]
      rfl
  | @refused s l n hn =>
    injection hout with hout
    exact ⟨[], (s, amqp.basicPublish n), rfl, by simp, hn, hout, by simp, rfl⟩

theorem mem_of_mem_deliveries (h : Shipped amqp cm l out υ) {t : Shipment} {d : Shipment × Int}
    (hd : d ∈ deliveriesFrom t υ) : d.1 ∈ l := by
  rcases out with e | ⟨⟩
  · obtain ⟨ds, x, hds, -, -, -, hpre, -⟩ := h.threw t
    rw [hds] at hd
    exact hpre.subset (List.mem_map_of_mem hd)
  · rw [← (h.returned t).1]
    exact List.mem_map_of_mem hd

end Shipped

theorem routes_nodup (doc : Document) : ((routes doc.root).map Route.queueAlias).Nodup := by
  rcases hq : doc.root.find? "queues" with _ | v
  · rw [routes, hq]
    exact List.nodup_nil
  · cases v with
    | object ms =>
      have hroutes : routes doc.root = ms.map Route.ofMember := by rw [routes, hq]
      rw [hroutes, List.map_map]
      exact Json.distinctKeys_object (Json.distinctKeys_find? doc.distinct hq)
    | _ =>
      rw [routes, hq]
      exact List.nodup_nil

theorem route_eq_of_alias {doc : Document} {r s : Route} (hr : r ∈ routes doc.root)
    (hs : s ∈ routes doc.root) (h : r.queueAlias = s.queueAlias) : r = s :=
  List.inj_on_of_nodup_map (routes_nodup doc) hr hs h

theorem addressed_sublist (k : RouterKind) (j : Json) (b : k.Batch) (attrs : List Bytes) :
    (addressed k j b attrs).Sublist (routes j) := by
  unfold addressed matching
  split
  · exact List.filter_sublist
  · exact List.nil_sublist _

theorem addressed_nodup (k : RouterKind) (doc : Document) (b : k.Batch) (attrs : List Bytes) :
    ((addressed k doc.root b attrs).map Route.queueAlias).Nodup :=
  (routes_nodup doc).sublist ((addressed_sublist k doc.root b attrs).map _)

theorem mem_matching_of_mem_addressed {k : RouterKind} {j : Json} {b : k.Batch} {attrs : List Bytes}
    {r : Route} (h : r ∈ addressed k j b attrs) : r ∈ matching j attrs := by
  unfold addressed at h
  split at h
  · exact h
  · cases h

theorem addressed_eq_nil_iff (k : RouterKind) (j : Json) (b : k.Batch) (attrs : List Bytes) :
    addressed k j b attrs = [] ↔ matching j attrs = [] ∨ ¬k.Sendable b := by
  unfold addressed
  split <;> simp [*]

section
variable (pb : Protobuf) {k : RouterKind} {doc : Document} (cm : Obj ConnectionManager)
  {cfg : Obj MessageRouterConfiguration} (hcfg : cfg.val.DecodedFrom doc) (w : Surroundings)
  (op : Operation) (b : k.Batch) (τ : Trace)
include hcfg

theorem mem_deliveries_of_perform {out : Except Fault Unit} {υ : Trace}
    (hrun : (op.perform (k.routerClass pb) w ⟨some cm, some cfg⟩ b).exec τ = (out, τ ++ υ))
    {d : Shipment × Int} (hd : d ∈ deliveries υ) :
    op.allows (addressed k doc.root b (op.attributes (k.routerClass pb))).length = true ∧
      ∃ r ∈ addressed k doc.root b (op.attributes (k.routerClass pb)),
        d.1 = r.shipment (k.valueToBytes pb b) := by
  rcases shipped_of_perform pb cm hcfg w op b τ hrun with rfl | ⟨rs, hrs, hallows, hshipped⟩
  · cases hd
  · obtain ⟨r, hr, hrd⟩ := List.mem_map.mp (hshipped.mem_of_mem_deliveries hd)
    exact ⟨hrs.length_eq ▸ hallows, r, hrs.mem_iff.mp hr, hrd.symm⟩

theorem perform_accepted (haccept : ∀ n, 0 ≤ w.amqp.basicPublish n) :
    ∃ out υ, (op.perform (k.routerClass pb) w ⟨some cm, some cfg⟩ b).exec τ = (out, τ ++ υ) ∧
      isFatal out = false ∧ basicPublishes υ = ((deliveries υ).map Prod.fst).map Shipment.publish ∧
      if op.allows (addressed k doc.root b (op.attributes (k.routerClass pb))).length then
        out = .ok () ∧ ((deliveries υ).map Prod.fst).Perm
          ((addressed k doc.root b (op.attributes (k.routerClass pb))).map
            (Route.shipment (k.valueToBytes pb b)))
      else out.isOk = false ∧ υ = [] := by
  obtain ⟨rs, hrs, ⟨hallows, out, υ, hloop, hshipped⟩ | ⟨hnot, hrefused⟩⟩ :=
    perform_shipped pb cm hcfg w op b τ
  · have hout : out = .ok () := hshipped.of_accepting haccept
    subst hout
    obtain ⟨hdel, hpub⟩ := hshipped.returned ⟨[], [], [], []⟩
    change (deliveries υ).map Prod.fst = _ at hdel
    rw [hrs.length_eq] at hallows
    refine ⟨_, υ, hloop, rfl, ?_, ?_⟩
    · rw [hpub, hdel]
    · rw [if_pos hallows, hdel]
      exact ⟨rfl, hrs.map _⟩
  · rw [hrs.length_eq] at hnot
    refine ⟨_, [], by rw [List.append_nil, hrefused], rfl, rfl, ?_⟩
    rw [hnot]
    exact ⟨rfl, rfl⟩

end

end Th2
