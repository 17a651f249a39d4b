import Th2Common.Message.Deliveries

/-! Queues whose entry in the file lists filters. -/

namespace Th2
open Text

def operations (attrs : List Bytes) : List Operation :=
  [.send, .sendByAttributes attrs, .sendAll attrs]

/-- Nothing is published to a queue whose entry lists a filter, whichever way the
batch is sent, whatever the broker answers and in whatever order maps are walked. -/
def HoldsBack (pb : Protobuf) (k : RouterKind) (doc : Document)
    (cfg : Obj MessageRouterConfiguration) (b : k.Batch) (attrs : List Bytes) : Prop :=
  ∀ op ∈ operations attrs, ∀ (cm : Obj ConnectionManager) (w : Surroundings) (τ υ : Trace)
    (out : Except Fault Unit),
    (op.perform (k.routerClass pb) w ⟨some cm, some cfg⟩ b).exec τ = (out, τ ++ υ) →
      ∀ d ∈ deliveries υ, ∀ r ∈ routes doc.root,
        r.queueAlias = d.1.queueAlias → r.listsFilters = false

section
variable {pb : Protobuf} {k : RouterKind} {doc : Document} {cfg : Obj MessageRouterConfiguration}
  (hcfg : cfg.val.DecodedFrom doc) {b : k.Batch} {attrs : List Bytes}
include hcfg

theorem HoldsBack.unfiltered (h : HoldsBack pb k doc cfg b attrs) (op : Operation)
    (hop : op ∈ operations attrs) {r : Route}
    (hr : r ∈ addressed k doc.root b (op.attributes (k.routerClass pb)))
    (hallows : op.allows (addressed k doc.root b (op.attributes (k.routerClass pb))).length = true) :
    r.listsFilters = false := by
  let cm : Obj ConnectionManager := ⟨0, { rmqConfiguration := none }⟩
  let w : Surroundings := ⟨.accepting, .stored _⟩
  have haccept (n : Nat) : 0 ≤ w.amqp.basicPublish n := Int.le_refl 0
  obtain ⟨out, υ, hrun, -, -, hdone⟩ := perform_accepted pb cm hcfg w op b [] haccept
  have hdel := ((if_pos hallows).mp hdone).2
  obtain ⟨d, hd, hdr⟩ := List.mem_map.mp
    (hdel.mem_iff.mpr (List.mem_map_of_mem (f := Route.shipment _) hr))
  have halias : r.queueAlias = d.1.queueAlias := by
    rw [hdr]
    rfl
  exact h op hop cm w [] υ out hrun d hd r ((addressed_sublist k doc.root b _).subset hr) halias

theorem HoldsBack.of_unfiltered
    (hall : ∀ op ∈ operations attrs,
      op.allows (addressed k doc.root b (op.attributes (k.routerClass pb))).length = true →
        ∀ r ∈ addressed k doc.root b (op.attributes (k.routerClass pb)), r.listsFilters = false) :
    HoldsBack pb k doc cfg b attrs := by
  intro op hop cm w τ υ out hrun d hd r hr halias
  obtain ⟨hallows, s, hs, hds⟩ := mem_deliveries_of_perform pb cm hcfg w op b τ hrun hd
  have hrs : r = s := by
    apply route_eq_of_alias hr ((addressed_sublist k doc.root b _).subset hs)
    rw [halias, hds]
    rfl
  rw [hrs]
  exact hall op hop hallows s hs

end

/-- `from_json` drops the filters, so they hold a batch back only where they have
nothing to hold back. -/
theorem holdsBack_iff (pb : Protobuf) (k : RouterKind) (doc : Document)
    (cfg : Obj MessageRouterConfiguration) (hcfg : cfg.val.DecodedFrom doc) (b : k.Batch)
    (attrs : List Bytes) :
    HoldsBack pb k doc cfg b attrs ↔
      (k.Sendable b → (∀ r ∈ matching doc.root attrs, r.listsFilters = false) ∧
        ∀ r, matching doc.root (k.routerClass pb).requiredSendAttributes = [r] →
          r.listsFilters = false) := by
  constructor
  · intro h hb
    have haddr (attrs : List Bytes) : addressed k doc.root b attrs = matching doc.root attrs :=
      if_pos hb
    constructor
    · intro r hr
      refine h.unfiltered hcfg (.sendAll attrs) (by simp [operations]) ?_ ?_
      · rw [haddr]
        exact hr
      · rw [haddr]
        have hne : matching doc.root attrs ≠ [] := List.ne_nil_of_mem hr
        simpa [Operation.allows, Operation.attributes] using hne
    · intro r hr
      refine h.unfiltered hcfg .send (by simp [operations]) ?_ ?_
      · rw [haddr, Operation.attributes, hr]
        exact List.mem_singleton.mpr rfl
      · rw [haddr, Operation.attributes, hr]
        rfl
  · intro h
    apply HoldsBack.of_unfiltered hcfg
    intro op hop hallows r hr
    have hb : k.Sendable b := by
      unfold addressed at hr
      split at hr
      · assumption
      · cases hr
    obtain ⟨hattrs, hrequired⟩ := h hb
    have haddr (attrs : List Bytes) : addressed k doc.root b attrs = matching doc.root attrs :=
      if_pos hb
    rw [haddr] at hr hallows
    cases op with
    | send =>
      simp only [Operation.allows, Operation.attributes, beq_iff_eq] at hallows hr
      obtain ⟨s, hs⟩ := List.length_eq_one_iff.mp hallows
      rw [hs] at hr
      rw [List.mem_singleton.mp hr]
      exact hrequired s hs
    | sendByAttributes attrs' =>
      have hattrs' : attrs' = attrs := by simpa [operations] using hop
      exact hattrs r (hattrs' ▸ hr)
    | sendAll attrs' =>
      have hattrs' : attrs' = attrs := by simpa [operations] using hop
      exact hattrs r (hattrs' ▸ hr)

theorem holdsBack_iff_mq :
    HoldsBack .reference .rawBatch mqDocument ⟨0, mqConfiguration⟩ ⟨[{}]⟩ [utf8 "raw"] ↔
      (RouterKind.Sendable .rawBatch ⟨[{}]⟩ →
        (∀ r ∈ matching mqDocument.root [utf8 "raw"], r.listsFilters = false) ∧
        ∀ r, matching mqDocument.root
          (RouterKind.routerClass .reference .rawBatch).requiredSendAttributes = [r] →
            r.listsFilters = false) :=
  holdsBack_iff .reference .rawBatch mqDocument ⟨0, mqConfiguration⟩ mqConfiguration_decoded
    ⟨[{}]⟩ [utf8 "raw"]

theorem not_holdsBack_filtered :
    ¬HoldsBack .reference .rawBatch filteredDocument ⟨0, mqConfiguration⟩ ⟨[{}]⟩
      [utf8 "publish", utf8 "raw"] := by
  intro h
  obtain ⟨r, hr, hfilters⟩ : ∃ r ∈ matching filteredDocument.root [utf8 "publish", utf8 "raw"],
      r.listsFilters = true := ⟨_, List.mem_singleton.mpr rfl, rfl⟩
  have hnot := h.unfiltered mqConfiguration_decoded_filtered
    (.sendAll [utf8 "publish", utf8 "raw"]) (by simp [operations]) hr rfl
  rw [hfilters] at hnot
  cases hnot

end Th2
