import Th2Common.Message.Regrouping

/-! What the regrouping loop makes of a list of messages, whatever aliases each
of them is assigned. -/

namespace Th2
open AbstractRabbitBatchMessageRouter

section
variable (b : BatchRouter) (aliases : Nat → b.Item → USet Bytes) (msgs : List b.Item)

structure Regrouped (result : AliasAndMessageToSend b.kind.Batch) : Prop where
  keys : ∀ a, a ∈ result ↔ ∃ p ∈ msgs.zipIdx, a ∈ aliases p.2 p.1
  messages : ∀ a batch, result.lookup a = some batch →
    b.access.getMessages batch =
      (msgs.zipIdx.filter fun p => a ∈ aliases p.2 p.1).map Prod.fst
  nonempty : ∀ a batch, result.lookup a = some batch → b.access.getMessages batch ≠ []
  total : (result.entries.map fun e => (b.access.getMessages e.2).length).sum =
    (msgs.zipIdx.map fun p => (aliases p.2 p.1).entries.length).sum

variable {b aliases msgs} (o : WalkOrder Walk)

theorem regrouped_regroup :
    Regrouped b aliases msgs (Regroup.regroup b.access.emptyBatch b.access.addMessages ∅
      (assigned o aliases 0 msgs)) := by
  have hlawful := b.access_lawful
  have hlookup := lookup_regroupBy o aliases b.access msgs
  have hbatch : ∀ a batch, (Regroup.regroup b.access.emptyBatch b.access.addMessages ∅
      (assigned o aliases 0 msgs)).lookup a = some batch →
      messagesFor aliases 0 msgs a ≠ [] ∧
        b.access.getMessages batch = messagesFor aliases 0 msgs a := by
    intro a batch ha
    rw [hlookup] at ha
    by_cases hnil : messagesFor aliases 0 msgs a = []
    · rw [if_pos hnil] at ha
      cases ha
    · rw [if_neg hnil] at ha
      rw [← Option.some.inj ha, hlawful.foldl, hlawful.empty, List.nil_append]
      exact ⟨hnil, rfl⟩
  refine ⟨?_, fun a batch ha => (hbatch a batch ha).2, ?_, ?_⟩
  · intro a
    have hmem : messagesFor aliases 0 msgs a ≠ [] ↔ ∃ p ∈ msgs.zipIdx, a ∈ aliases p.2 p.1 := by
      unfold messagesFor
      rw [ne_eq, List.map_eq_nil_iff, List.filter_eq_nil_iff]
      simp only [decide_eq_true_eq, not_forall, not_not, exists_prop]
    rw [← hmem, ← AList.lookup_isSome, hlookup]
    by_cases hnil : messagesFor aliases 0 msgs a = []
    · rw [if_pos hnil]
      exact iff_of_false Bool.false_ne_true (not_not.mpr hnil)
    · rw [if_neg hnil]
      exact iff_of_true rfl hnil
  · intro a batch ha
    obtain ⟨hne, heq⟩ := hbatch a batch ha
    rw [heq]
    exact hne
  · have hempty : (b.access.getMessages b.access.emptyBatch).length = 0 := by
      rw [hlawful.empty, List.length_nil]
    have hadd : ∀ batch msg, (b.access.getMessages (b.access.addMessages batch msg)).length =
        (b.access.getMessages batch).length + 1 := by
      intro batch msg
      rw [hlawful.add, List.length_append, List.length_singleton]
    have htotal := Regroup.total_regroup b.access.emptyBatch b.access.addMessages
      (fun batch => (b.access.getMessages batch).length) hempty hadd ∅ (assigned o aliases 0 msgs)
    -- each set is walked once, and its walk has as many steps as the set has elements
    have hsizes : ((assigned o aliases 0 msgs).map fun p => p.2.length) =
        msgs.zipIdx.map fun p => (aliases p.2 p.1).entries.length := by
      unfold assigned
      rw [List.map_map]
      apply List.map_congr_left
      intro p _
      show ((aliases p.2 p.1).walkKeys o (.aliases p.2)).length = _
      rw [(AList.walkKeys_perm _ o _).length_eq, AList.keys, List.keys, List.length_map]
    rw [hsizes] at htotal
    refine htotal.trans ?_
    exact Nat.zero_add _

theorem regroup_perm (o' : WalkOrder Walk) :
    (Regroup.regroup b.access.emptyBatch b.access.addMessages ∅
      (assigned o aliases 0 msgs)).entries.Perm
      (Regroup.regroup b.access.emptyBatch b.access.addMessages ∅
        (assigned o' aliases 0 msgs)).entries := by
  apply AList.entries_perm_of_lookup
  intro a
  rw [lookup_regroupBy, lookup_regroupBy]

end

/-- The loop ends for every assignment of aliases, with the messages of each alias in
their order, and with the same map for all orders of the walks. -/
theorem regroupBy_regroups (b : BatchRouter) (aliases : Nat → b.Item → USet Bytes)
    (msgs : List b.Item) (o o' : WalkOrder Walk) :
    ∃ result result',
      regroupBy b.access o (fun i msg => .ok (aliases i msg)) ∅ 0 msgs = .ok result ∧
      regroupBy b.access o' (fun i msg => .ok (aliases i msg)) ∅ 0 msgs = .ok result' ∧
      Regrouped b aliases msgs result ∧ result'.entries.Perm result.entries := by
  refine ⟨_, _, regroupBy_eq o aliases b.access ∅ 0 msgs, regroupBy_eq o' aliases b.access ∅ 0 msgs,
    regrouped_regroup o, ?_⟩
  exact regroup_perm o' o

end Th2
