import Th2Common.Message.Decoding

/-! The router configurations that `from_json` accepts, and what it makes of them. -/

namespace Th2
open Text

def queueAt (j : Json) (queueAlias : Bytes) : Option Json :=
  (j.find? "queues").bind (·.find? queueAlias)

def DescribesQueues (j : Json) : Prop :=
  ∃ ms, j.find? "queues" = some (.object ms) ∧ ∀ m ∈ ms, ∃ q, Describes m.2 q

structure HoldsQueues (j : Json) (queues : QueuesMap) : Prop where
  aliases : ∀ a, a ∈ queues ↔ ∃ v, queueAt j a = some v
  described : ∀ a p, queues.lookup a = some p → ∃ o v, p = some o ∧ queueAt j a = some v ∧
    Describes v o.val ∧ o.val.filters = [] ∧ o.val.isReadable = true ∧ o.val.isWritable = true
  unshared : ∀ a b o p, queues.lookup a = some (some o) → queues.lookup b = some (some p) →
    o.addr = p.addr → a = b

def SameQueues (j j' : Json) : Prop :=
  ∃ ms ms', j.find? "queues" = some (.object ms) ∧ j'.find? "queues" = some (.object ms') ∧
    List.Forall₂ (fun m m' => m'.1 = m.1 ∧ m.2.AgreesOn QueueConfiguration.keys m'.2) ms ms'

namespace MessageRouterConfiguration

theorem fromJson_eq {j : Json} {ms : List (Bytes × Json)}
    (hms : j.find? "queues" = some (.object ms)) (cfg : MessageRouterConfiguration) :
    fromJson j cfg = decodeQueues ms >>= fun entries =>
      return { cfg with queues := (∅ : QueuesMap).emplaceAll entries } := by
  have hat : getAt j (utf8 "queues") Json.getMembers = .ok ms := getAt_eq_ok_iff.mpr ⟨_, hms, rfl⟩
  unfold fromJson
  rw [hat]
  rfl

theorem holdsQueues_of_entries {doc : Document} {ms : List (Bytes × Json)}
    (hms : doc.root.find? "queues" = some (.object ms)) {n : Nat} {es : List QueueEntry}
    (hes : Entries n ms es) : HoldsQueues doc.root ((∅ : QueuesMap).emplaceAll es) := by
  have hkeys : (ms.map Prod.fst).Nodup :=
    Json.distinctKeys_object (Json.distinctKeys_find? doc.distinct hms)
  have hnd : es.NodupKeys := by
    rw [List.NodupKeys, hes.keys]
    exact hkeys
  have hperm := AList.emplaceAll_empty_perm hnd
  have hmem {a : Bytes} {p : QueueConfigurationPtr}
      (h : ((∅ : QueuesMap).emplaceAll es).lookup a = some p) : (⟨a, p⟩ : QueueEntry) ∈ es :=
    hperm.mem_iff.mp (AList.mem_lookup_iff.mp h)
  have hat (a : Bytes) (v : Json) : queueAt doc.root a = some v ↔ (a, v) ∈ ms := by
    rw [queueAt, hms]
    exact Json.lookup_eq_some_iff_mem hkeys
  refine ⟨fun a => ?_, fun a p h => ?_, fun a b o p ho hp haddr => ?_⟩
  · have hfst : ((∅ : QueuesMap).emplaceAll es).keys.Perm (ms.map Prod.fst) := by
      rw [← hes.keys]
      exact hperm.map Sigma.fst
    rw [AList.mem_keys, hfst.mem_iff]
    simp only [hat, List.mem_map, Prod.exists, exists_and_right, exists_eq_right]
  · obtain ⟨m, hm, o, he, hq, -⟩ := hes.mem (hmem h)
    cases he
    obtain ⟨hdesc, hfilters, hreadable, hwritable⟩ := QueueConfiguration.fromJson_eq_ok.mp hq
    exact ⟨o, m.2, rfl, (hat _ _).mpr hm, hdesc, hfilters, hreadable, hwritable⟩
  · exact congrArg Sigma.fst (hes.unshared (hmem ho) (hmem hp) rfl rfl haddr)

theorem exec_fromJson_describing {doc : Document} (h : DescribesQueues doc.root)
    (cfg : MessageRouterConfiguration) (n : Nat) :
    ∃ cfg' n', (fromJson doc.root cfg).exec n = (.ok cfg', n') ∧ HoldsQueues doc.root cfg'.queues := by
  obtain ⟨ms, hms, hall⟩ := h
  rcases exec_decodeQueues n ms with ⟨es, hes, hrun⟩ | ⟨⟨m, hm, hnot⟩, -⟩
  · refine ⟨{ cfg with queues := (∅ : QueuesMap).emplaceAll es }, n + ms.length, ?_,
      holdsQueues_of_entries hms hes⟩
    rw [fromJson_eq hms, Prog.exec_bind_ok hrun]
    rfl
  · obtain ⟨q, hq⟩ := hall m hm
    let q' : QueueConfiguration := { q with filters := [], isReadable := true, isWritable := true }
    have hq' : Describes m.2 q' := ⟨hq.queue, hq.name, hq.exchange, hq.attributes⟩
    exact absurd (QueueConfiguration.fromJson_eq_ok.mpr ⟨hq', rfl, rfl, rfl⟩) (hnot q')

theorem exec_fromJson_not_describing {j : Json} (h : ¬DescribesQueues j)
    (cfg : MessageRouterConfiguration) (n : Nat) :
    ∃ e n', (fromJson j cfg).exec n = (.error (.thrown e), n') := by
  by_cases hms : ∃ ms, j.find? "queues" = some (.object ms)
  · obtain ⟨ms, hms⟩ := hms
    rcases exec_decodeQueues n ms with ⟨es, hes, -⟩ | ⟨-, e, n', hrun⟩
    · exact absurd ⟨ms, hms, fun m hm => hes.described hm⟩ h
    · refine ⟨e, n', ?_⟩
      rw [fromJson_eq hms, Prog.exec_bind_error hrun]
  · have hnot : ∀ ms, getAt j (utf8 "queues") Json.getMembers ≠ .ok ms := by
      intro ms hget
      obtain ⟨v, hv, hobj⟩ := getAt_eq_ok_iff.mp hget
      rw [Json.getMembers_eq_ok.mp hobj] at hv
      exact hms ⟨ms, hv⟩
    obtain ⟨e, he⟩ := thrown_of_not_fatal hnot (isFatal_getAt _ _ _)
    refine ⟨e, n, ?_⟩
    unfold fromJson
    rw [he]
    rfl

theorem fromJson_congr {j j' : Json} (h : SameQueues j j') (cfg : MessageRouterConfiguration) :
    fromJson j' cfg = fromJson j cfg := by
  obtain ⟨ms, ms', hms, hms', hall⟩ := h
  rw [fromJson_eq hms, fromJson_eq hms', decodeQueues_congr hall]

end MessageRouterConfiguration

/-- A document is accepted exactly when it describes queues, and then decoded into
what it says, whatever else it holds; the two overloads for a queue agree. -/
theorem routerConfiguration_decoding (doc : Document) (cfg : MessageRouterConfiguration) (n : Nat) :
    (DescribesQueues doc.root → ∃ cfg' n',
      (MessageRouterConfiguration.fromJson doc.root cfg).exec n = (.ok cfg', n') ∧
        HoldsQueues doc.root cfg'.queues) ∧
    (¬DescribesQueues doc.root → ∃ e n',
      (MessageRouterConfiguration.fromJson doc.root cfg).exec n = (.error (.thrown e), n')) ∧
    (∀ j', SameQueues doc.root j' → (MessageRouterConfiguration.fromJson j' cfg).exec n =
      (MessageRouterConfiguration.fromJson doc.root cfg).exec n) ∧
    ∀ (j : Json) (p : QueueConfigurationPtr),
      ((QueueConfiguration.fromJsonPtr j p).exec n).1.map (Option.map Obj.val) =
        (QueueConfiguration.fromJson j ((p.map Obj.val).getD {})).map some := by
  refine ⟨fun h => MessageRouterConfiguration.exec_fromJson_describing h cfg n,
    fun h => MessageRouterConfiguration.exec_fromJson_not_describing h cfg n,
    fun j' h => by rw [MessageRouterConfiguration.fromJson_congr h], fun j p => ?_⟩
  rcases p with _ | o
  · rw [QueueConfiguration.exec_fromJsonPtr_none, Option.map_none, Option.getD_none]
    cases QueueConfiguration.fromJson j {} <;> rfl
  · rw [QueueConfiguration.exec_fromJsonPtr_some, Option.map_some, Option.getD_some]
    cases QueueConfiguration.fromJson j o.val <;> rfl

end Th2
