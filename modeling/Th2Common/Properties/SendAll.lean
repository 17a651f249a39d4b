import Th2Common.Message.Deliveries
import Th2Common.Properties.Encoding

/-! `sendAll`: every queue that carries the attributes gets the whole batch. -/

namespace Th2
open Text

def runSendAll (pb : Protobuf) {k : RouterKind} (cm : Obj ConnectionManager)
    (cfg : Obj MessageRouterConfiguration) (w : Surroundings) (b : k.Batch) (attrs : List Bytes)
    (τ : Trace) : Except Fault Unit × Trace :=
  (AbstractRabbitMessageRouter.sendAll (k.routerClass pb) w ⟨some cm, some cfg⟩ b attrs).exec τ

structure DeliversToAll (pb : Protobuf) (k : RouterKind) (doc : Document)
    (cfg : Obj MessageRouterConfiguration) (b : k.Batch) (attrs : List Bytes) : Prop where
  -- one publish of the encoded batch for each alias that matches, and no others
  delivers : ∀ cm (w : Surroundings) τ, (∀ n, 0 ≤ w.amqp.basicPublish n) → k.Sendable b →
    matching doc.root attrs ≠ [] → ∃ υ, runSendAll pb cm cfg w b attrs τ = (.ok (), τ ++ υ) ∧
      ((deliveries υ).map Prod.fst).Perm
        ((matching doc.root attrs).map (Route.shipment (k.encoding b))) ∧
      basicPublishes υ = ((deliveries υ).map Prod.fst).map Shipment.publish
  -- without an alias or without an element it throws and publishes nothing
  throws : ∀ cm (w : Surroundings) τ, (∀ n, 0 ≤ w.amqp.basicPublish n) →
    (matching doc.root attrs = [] ∨ ¬k.Sendable b) →
      ∃ x, runSendAll pb cm cfg w b attrs τ = (.error (.thrown x), τ)
  -- the multiset of publishes does not depend on the orders of the walks
  anyOrder : ∀ cm (amqp : Amqp) o₁ o₂ τ, (∀ n, 0 ≤ amqp.basicPublish n) →
    (basicPublishes (runSendAll pb cm cfg ⟨amqp, o₁⟩ b attrs τ).2).Perm
      (basicPublishes (runSendAll pb cm cfg ⟨amqp, o₂⟩ b attrs τ).2)

section
variable (pb : Protobuf) {k : RouterKind} {doc : Document} {cfg : Obj MessageRouterConfiguration}
  (hcfg : cfg.val.DecodedFrom doc) (cm : Obj ConnectionManager) (w : Surroundings)
  (haccept : ∀ n, 0 ≤ w.amqp.basicPublish n) (b : k.Batch) (attrs : List Bytes) (τ : Trace)
include hcfg haccept

theorem runSendAll_delivers (hb : k.Sendable b) (hne : matching doc.root attrs ≠ []) :
    ∃ υ, runSendAll pb cm cfg w b attrs τ = (.ok (), τ ++ υ) ∧
      ((deliveries υ).map Prod.fst).Perm
        ((matching doc.root attrs).map (Route.shipment (k.valueToBytes pb b))) ∧
      basicPublishes υ = ((deliveries υ).map Prod.fst).map Shipment.publish := by
  obtain ⟨out, υ, hrun, -, hpub, hdone⟩ :=
    perform_accepted pb cm hcfg w (.sendAll attrs) b τ haccept
  have haddr : addressed k doc.root b attrs = matching doc.root attrs := if_pos hb
  have hallows : (Operation.sendAll attrs).allows
      (addressed k doc.root b attrs).length = true := by
    rw [haddr]
    simpa [Operation.allows] using hne
  obtain ⟨rfl, hdel⟩ := (if_pos hallows).mp hdone
  rw [Operation.attributes, haddr] at hdel
  exact ⟨υ, hrun, hdel, hpub⟩

theorem runSendAll_throws (h : matching doc.root attrs = [] ∨ ¬k.Sendable b) :
    ∃ x, runSendAll pb cm cfg w b attrs τ = (.error (.thrown x), τ) := by
  obtain ⟨out, υ, hrun, hgo, -, hdone⟩ :=
    perform_accepted pb cm hcfg w (.sendAll attrs) b τ haccept
  have haddr := (addressed_eq_nil_iff k doc.root b attrs).mpr h
  rw [Operation.attributes, haddr] at hdone
  obtain ⟨hout, rfl⟩ := (if_neg Bool.false_ne_true).mp hdone
  rw [List.append_nil] at hrun
  rcases out with (x | _) | _
  · exact ⟨x, hrun⟩
  · cases hgo
  · cases hout

theorem basicPublishes_runSendAll :
    ∃ ps : List (Bytes × Bytes × Bytes), ps.Perm (((addressed k doc.root b attrs).map
      (Route.shipment (k.valueToBytes pb b))).map Shipment.publish) ∧
      basicPublishes (runSendAll pb cm cfg w b attrs τ).2 = basicPublishes τ ++ ps := by
  obtain ⟨out, υ, hrun, -, hpub, hdone⟩ :=
    perform_accepted pb cm hcfg w (.sendAll attrs) b τ haccept
  refine ⟨basicPublishes υ, ?_, ?_⟩
  · split at hdone
    · rw [hpub]
      exact hdone.2.map _
    · next hallows =>
      have hnil : addressed k doc.root b attrs = [] := by
        simpa [Operation.allows, Operation.attributes] using hallows
      rw [hdone.2, hnil]
      rfl
  · have hrun' : runSendAll pb cm cfg w b attrs τ = (out, τ ++ υ) := hrun
    rw [hrun', basicPublishes_append]

end

theorem DeliversToAll.length_le {pb : Protobuf} {k : RouterKind} {doc : Document}
    {cfg : Obj MessageRouterConfiguration} {b : k.Batch} {attrs : List Bytes}
    (hcfg : cfg.val.DecodedFrom doc) (h : DeliversToAll pb k doc cfg b attrs) (hb : k.Sendable b)
    (hne : matching doc.root attrs ≠ []) : (k.encoding b).length ≤ INT_MAX := by
  let cm : Obj ConnectionManager := ⟨0, { rmqConfiguration := none }⟩
  let w : Surroundings := ⟨.accepting, .stored _⟩
  have haccept (n : Nat) : 0 ≤ w.amqp.basicPublish n := Int.le_refl 0
  obtain ⟨υ, hrun, hdel, -⟩ := h.delivers cm w [] haccept hb hne
  obtain ⟨υ', hrun', hdel', -⟩ := runSendAll_delivers pb hcfg cm _ haccept _ _ [] hb hne
  rw [hrun] at hrun'
  injection hrun' with _ hυ
  rw [← List.append_cancel_left hυ] at hdel'
  obtain ⟨r, hr⟩ := List.exists_mem_of_ne_nil _ hne
  have hmem := (hdel'.symm.trans hdel).mem_iff.mp (List.mem_map_of_mem hr)
  obtain ⟨r', _, hr'⟩ := List.mem_map.mp hmem
  have hbytes : k.valueToBytes pb b = k.encoding b := (congrArg Shipment.message hr').symm
  exact (k.valueToBytes_eq_encoding_iff pb b).mp hbytes

/-- `sendAll` does what it is for, unless it publishes a batch past the limit. -/
theorem deliversToAll_iff (pb : Protobuf) (k : RouterKind) (doc : Document)
    (cfg : Obj MessageRouterConfiguration) (hcfg : cfg.val.DecodedFrom doc) (b : k.Batch)
    (attrs : List Bytes) :
    DeliversToAll pb k doc cfg b attrs ↔
      (k.Sendable b → matching doc.root attrs ≠ [] → (k.encoding b).length ≤ INT_MAX) := by
  refine ⟨fun h => h.length_le hcfg, fun hlimit => ⟨?_, ?_, ?_⟩⟩
  · intro cm w τ haccept hb hne
    have hbytes := (k.valueToBytes_eq_encoding_iff pb b).mpr (hlimit hb hne)
    have hspec := runSendAll_delivers pb hcfg cm w haccept b attrs τ hb hne
    rwa [hbytes] at hspec
  · intro cm w τ haccept hnone
    exact runSendAll_throws pb hcfg cm w haccept b attrs τ hnone
  · intro cm amqp o₁ o₂ τ haccept
    obtain ⟨ps₁, hp₁, hr₁⟩ := basicPublishes_runSendAll pb hcfg cm ⟨amqp, o₁⟩ haccept b attrs τ
    obtain ⟨ps₂, hp₂, hr₂⟩ := basicPublishes_runSendAll pb hcfg cm ⟨amqp, o₂⟩ haccept b attrs τ
    rw [hr₁, hr₂]
    exact (hp₁.trans hp₂.symm).append_left _

theorem deliversToAll_iff_mq :
    DeliversToAll .reference .rawBatch mqDocument ⟨0, mqConfiguration⟩ ⟨[{}]⟩ [utf8 "raw"] ↔
      (RouterKind.Sendable .rawBatch ⟨[{}]⟩ → matching mqDocument.root [utf8 "raw"] ≠ [] →
        (RouterKind.encoding .rawBatch ⟨[{}]⟩).length ≤ INT_MAX) :=
  deliversToAll_iff .reference .rawBatch mqDocument ⟨0, mqConfiguration⟩ mqConfiguration_decoded
    ⟨[{}]⟩ [utf8 "raw"]

theorem not_deliversToAll_large :
    ¬DeliversToAll .reference .rawBatch mqDocument ⟨0, mqConfiguration⟩
      ⟨[⟨none, List.replicate (2 ^ 31) 0⟩]⟩ [utf8 "raw"] := by
  intro h
  have hb : RouterKind.Sendable .rawBatch ⟨[⟨none, List.replicate (2 ^ 31) 0⟩]⟩ :=
    List.cons_ne_nil _ _
  have hle := h.length_le mqConfiguration_decoded hb (by decide)
  exact absurd hle (Nat.not_le.mpr length_encoding_large)

end Th2
