import Th2Common.Message.Deliveries

/-! The exchange and the routing key that reach `amqp_basic_publish`. -/

namespace Th2
open Text

def framesFrom (queueAlias : Bytes) : Trace → List (Bytes × PublishFrame)
  | [] => []
  | .getMessageQueue queueAlias :: τ => framesFrom queueAlias τ
  | .amqpBasicPublish frame _ :: τ => (queueAlias, frame) :: framesFrom queueAlias τ
  | _ :: τ => framesFrom queueAlias τ

def Sent (pb : Protobuf) (cfg : Obj MessageRouterConfiguration) (queueAlias : Bytes)
    (frame : PublishFrame) : Prop :=
  ∃ (k : RouterKind) (op : Operation) (cm : Obj ConnectionManager) (w : Surroundings) (b : k.Batch)
    (τ υ : Trace) (out : Except Fault Unit),
    (op.perform (k.routerClass pb) w ⟨some cm, some cfg⟩ b).exec τ = (out, τ ++ υ) ∧
      (queueAlias, frame) ∈ framesFrom [] υ

structure KeepsApart (pb : Protobuf) (doc : Document) (cfg : Obj MessageRouterConfiguration) :
    Prop where
  verbatim : ∀ r ∈ routes doc.root, ∀ frame, Sent pb cfg r.queueAlias frame →
    frame.exchange = r.exchange ∧ frame.routingKey = r.name
  apart : ∀ r ∈ routes doc.root, ∀ s ∈ routes doc.root, (r.exchange, r.name) ≠ (s.exchange, s.name) →
    ∀ f g, Sent pb cfg r.queueAlias f → Sent pb cfg s.queueAlias g →
      (f.exchange, f.routingKey) ≠ (g.exchange, g.routingKey)

namespace Shipment
variable (cm : ConnectionManager) (s : Shipment) (res : Int) (υ : Trace) (a : Bytes)

def frame : PublishFrame :=
  ConnectionManager.publishFrame cm.conn cm.channel s.exchange s.message s.routingKey

theorem framesFrom_attempt :
    framesFrom a (s.attempt cm res ++ υ) = (s.queueAlias, s.frame cm) :: framesFrom s.queueAlias υ :=
  rfl

theorem framesFrom_report : framesFrom a (s.report cm ++ υ) = framesFrom a υ := by
  unfold report ConnectionManager.publishReport
  split <;> rfl

end Shipment

namespace Shipped
variable {amqp : Amqp} {cm : ConnectionManager} {l : List Shipment} {out : Except Fault Unit}
  {υ : Trace}

theorem mem_framesFrom (h : Shipped amqp cm l out υ) {a : Bytes} {p : Bytes × PublishFrame}
    (hp : p ∈ framesFrom a υ) : ∃ s ∈ l, p = (s.queueAlias, s.frame cm) := by
  induction h generalizing a with
  | done => cases hp
  | @accepted s l out υ n _ _ ih =>
    rw [List.append_assoc, Shipment.framesFrom_attempt, Shipment.framesFrom_report] at hp
    rcases List.mem_cons.mp hp with rfl | hp
    · exact ⟨s, List.mem_cons_self, rfl⟩
    · obtain ⟨t, ht, htp⟩ := ih hp
      exact ⟨t, List.mem_cons_of_mem s ht, htp⟩
  | @refused s l n _ =>
    exact ⟨s, List.mem_cons_self, List.mem_singleton.mp hp⟩

theorem framesFrom_of_mem (haccept : ∀ n, 0 ≤ amqp.basicPublish n) (h : Shipped amqp cm l out υ)
    (a : Bytes) {s : Shipment} (hs : s ∈ l) : (s.queueAlias, s.frame cm) ∈ framesFrom a υ := by
  induction h generalizing a with
  | done => cases hs
  | @accepted t l out υ n _ _ ih =>
    rw [List.append_assoc, Shipment.framesFrom_attempt, Shipment.framesFrom_report]
    rcases List.mem_cons.mp hs with rfl | hs
    · exact List.mem_cons_self
    · exact List.mem_cons_of_mem _ (ih _ hs)
  | refused n hn => exact absurd (haccept n) (Int.not_le.mpr hn)

end Shipped

section
variable {pb : Protobuf} {doc : Document} {cfg : Obj MessageRouterConfiguration}
  (hcfg : cfg.val.DecodedFrom doc) {r : Route} (hr : r ∈ routes doc.root)
include hcfg hr

theorem Sent.frame_eq {frame : PublishFrame} (h : Sent pb cfg r.queueAlias frame) :
    frame.exchange = cString r.exchange ∧ frame.routingKey = cString r.name := by
  obtain ⟨k, op, cm, w, b, τ, υ, out, hrun, hframe⟩ := h
  rcases shipped_of_perform pb cm hcfg w op b τ hrun with rfl | ⟨rs, hrs, -, hshipped⟩
  · cases hframe
  · obtain ⟨s, hs, heq⟩ := hshipped.mem_framesFrom hframe
    obtain ⟨t, ht, rfl⟩ := List.mem_map.mp hs
    injection heq with halias hframe
    -- no two queues of a document have one alias
    have htr : t ∈ routes doc.root := (addressed_sublist k doc.root b _).subset (hrs.mem_iff.mp ht)
    obtain rfl : r = t := route_eq_of_alias hr htr halias
    rw [hframe]
    exact ⟨rfl, rfl⟩

theorem exists_sent : ∃ frame, Sent pb cfg r.queueAlias frame := by
  let cm : Obj ConnectionManager := ⟨0, { rmqConfiguration := none }⟩
  let w : Surroundings := ⟨.accepting, .stored _⟩
  let b : RouterKind.Batch .eventBatch := ({} : EventBatch)
  have haddressed : r ∈ addressed .eventBatch doc.root b r.attributes :=
    List.mem_filter.mpr ⟨hr, decide_eq_true fun _ ha => ha⟩
  obtain ⟨rs, hrs, ⟨-, out, υ, hloop, hshipped⟩ | ⟨hnot, -⟩⟩ :=
    perform_shipped pb cm hcfg w (.sendAll r.attributes) b []
  · have hmem := hshipped.framesFrom_of_mem (fun _ => Int.le_refl 0) []
      (List.mem_map_of_mem (hrs.mem_iff.mpr haddressed))
    exact ⟨_, .eventBatch, .sendAll r.attributes, cm, w, b, [], υ, out, hloop, hmem⟩
  · have hpos : rs.length ≠ 0 := fun hzero => by
      rw [List.length_eq_zero_iff.mp hzero] at hrs
      cases hrs.mem_iff.mpr haddressed
    exact absurd (bne_iff_ne.mpr hpos) (Bool.eq_false_iff.mp hnot)

end

/-- Destinations are kept apart exactly where no name holds a zero byte. -/
theorem keepsApart_iff (pb : Protobuf) (doc : Document) (cfg : Obj MessageRouterConfiguration)
    (hcfg : cfg.val.DecodedFrom doc) :
    KeepsApart pb doc cfg ↔ ∀ r ∈ routes doc.root, 0 ∉ r.exchange ∧ 0 ∉ r.name := by
  simp only [← cString_eq_self_iff]
  constructor
  · intro h r hr
    obtain ⟨frame, hsent⟩ : ∃ frame, Sent pb cfg r.queueAlias frame := exists_sent hcfg hr
    obtain ⟨hexchange, hname⟩ := hsent.frame_eq hcfg hr
    rw [← hexchange, ← hname]
    exact h.verbatim r hr frame hsent
  · intro h
    have hverbatim : ∀ r ∈ routes doc.root, ∀ frame, Sent pb cfg r.queueAlias frame →
        frame.exchange = r.exchange ∧ frame.routingKey = r.name := by
      intro r hr frame hsent
      obtain ⟨hexchange, hname⟩ := hsent.frame_eq hcfg hr
      rw [hexchange, hname]
      exact h r hr
    refine ⟨hverbatim, fun r hr s hs hne f g hf hg => ?_⟩
    obtain ⟨hfe, hfn⟩ := hverbatim r hr f hf
    obtain ⟨hge, hgn⟩ := hverbatim s hs g hg
    rw [hfe, hfn, hge, hgn]
    exact hne

theorem keepsApart_iff_mq :
    KeepsApart .reference mqDocument ⟨0, mqConfiguration⟩ ↔
      ∀ r ∈ routes mqDocument.root, 0 ∉ r.exchange ∧ 0 ∉ r.name :=
  keepsApart_iff .reference mqDocument ⟨0, mqConfiguration⟩ mqConfiguration_decoded

def orders (rest : String) : Bytes := utf8 "orders" ++ 0 :: utf8 rest

def ordersMember (rest : String) : Bytes × Json :=
  (utf8 rest, .object [
    (utf8 "queue", .string rest),
    (utf8 "name", .string (orders rest)),
    (utf8 "exchange", .string "demo_exchange"),
    (utf8 "attributes", .array [.string "publish", .string "event"])])

def ordersDocument : Document :=
  ⟨.object [(utf8 "queues", .object [ordersMember "first", ordersMember "second"])], by decide⟩

def ordersConfiguration : MessageRouterConfiguration where
  queues := (∅ : QueuesMap).emplaceAll [
    ⟨utf8 "first", some ⟨0, (Route.ofMember (ordersMember "first")).configuration⟩⟩,
    ⟨utf8 "second", some ⟨1, (Route.ofMember (ordersMember "second")).configuration⟩⟩]

theorem ordersConfiguration_decoded : ordersConfiguration.DecodedFrom ordersDocument := ⟨0, rfl⟩

theorem not_keepsApart_orders : ¬KeepsApart .reference ordersDocument ⟨0, ordersConfiguration⟩ := by
  intro h
  have hfirst : Route.ofMember (ordersMember "first") ∈ routes ordersDocument.root :=
    List.mem_cons_self
  have hsecond : Route.ofMember (ordersMember "second") ∈ routes ordersDocument.root :=
    List.mem_cons_of_mem _ List.mem_cons_self
  let cfg : Obj MessageRouterConfiguration := ⟨0, ordersConfiguration⟩
  have hcfg : cfg.val.DecodedFrom ordersDocument := ordersConfiguration_decoded
  obtain ⟨f, hf⟩ : ∃ f, Sent .reference cfg _ f := exists_sent hcfg hfirst
  obtain ⟨g, hg⟩ : ∃ g, Sent .reference cfg _ g := exists_sent hcfg hsecond
  obtain ⟨hfe, hfn⟩ := hf.frame_eq hcfg hfirst
  obtain ⟨hge, hgn⟩ := hg.frame_eq hcfg hsecond
  refine h.apart _ hfirst _ hsecond (by decide) f g hf hg ?_
  rw [hfe, hfn, hge, hgn]
  rfl

end Th2
