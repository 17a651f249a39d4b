import Th2Common.Message.Deliveries

/-! What has been published when a send throws. -/

namespace Th2
open Text

inductive OwnError : Exn → Prop
  | routerNotInitialised : OwnError notInitialised
  | queueNotExist (queueAlias : Bytes) :
    OwnError (.runtimeError (utf8 "Queue [" ++ queueAlias ++ utf8 "] is not exist"))
  | queueNotInitialised : OwnError (.runtimeError "Queue is not initialized")
  | queueCanNotWrite : OwnError (.runtimeError "Queue can not write")
  | wrongNumber (op : Operation) (n : Nat) : OwnError (op.refusal n)

def Exn.initial : Exn → Option UInt8
  | .runtimeError what => what.head?
  | _ => none

theorem OwnError.initial_ne {x : Exn} (h : OwnError x) : x.initial ≠ some 65 := by
  have hq : (some 81 : Option UInt8) ≠ some 65 := by decide
  have hr : (some 82 : Option UInt8) ≠ some 65 := by decide
  have hw : (some 87 : Option UInt8) ≠ some 65 := by decide
  cases h with
  | routerNotInitialised => exact hr
  | queueNotExist queueAlias => exact hq
  | queueNotInitialised => exact hq
  | queueCanNotWrite => exact hq
  | wrongNumber op n => cases op <;> exact hw

theorem publishFail_not_ownError (res : Int) : ¬OwnError (ConnectionManager.publishFail res) :=
  fun h => h.initial_ne rfl

theorem amqpPublishes_results (τ : Trace) :
    (amqpPublishes τ).map Prod.snd = (deliveries τ).map Prod.snd :=
  (deliveriesFrom_results _ τ).symm

/-- What a send that throws `x` has left behind: no publish, or publishes to
different matching aliases of which the last one was refused, and no attempt after it. -/
structure CleanThrow (j : Json) (attrs : List Bytes) (x : Exn) (υ : Trace) : Prop where
  lastRefused : amqpPublishes υ = [] ∨ ∃ ds d, deliveries υ = ds ++ [d] ∧ d.2 < 0 ∧
    (∀ y ∈ ds, 0 ≤ y.2) ∧ ((ds ++ [d]).map fun y => y.1.queueAlias).Nodup ∧
    (∀ y ∈ ds ++ [d], ∃ r ∈ matching j attrs, y.1.queueAlias = r.queueAlias) ∧
    tried υ = (ds ++ [d]).map fun y => y.1.queueAlias
  ownError : OwnError x → amqpPublishes υ = []

theorem CleanThrow.of_none {j : Json} {attrs : List Bytes} {x : Exn} {υ : Trace}
    (h : amqpPublishes υ = []) : CleanThrow j attrs x υ := ⟨.inl h, fun _ => h⟩

theorem CleanThrow.of_shipped {k : RouterKind} {doc : Document} {b : k.Batch} {attrs : List Bytes}
    {rs : List Route} (hrs : rs.Perm (addressed k doc.root b attrs)) {amqp : Amqp}
    {cm : ConnectionManager} {message : Bytes} {e : Fault} {υ : Trace}
    (h : Shipped amqp cm (rs.map (Route.shipment message)) (.error e) υ) :
    ∃ x, e = .thrown x ∧ CleanThrow doc.root attrs x υ ∧
      (rs.length = 1 → ∀ p ∈ amqpPublishes υ, p.2 < 0) := by
  obtain ⟨ds, d, hds, hacc, hneg, he, hpre, htried⟩ := h.threw ⟨[], [], [], []⟩
  change deliveries υ = ds ++ [d] at hds
  have halias : ((ds ++ [d]).map fun y => y.1.queueAlias) <+: rs.map Route.queueAlias := by
    have h := hpre.map Shipment.queueAlias
    rwa [List.map_map, List.map_map] at h
  refine ⟨_, he, ⟨.inr ⟨ds, d, hds, hneg, hacc, ?_, ?_, htried⟩, fun hown =>
    absurd hown (publishFail_not_ownError d.2)⟩, fun hlen p hp => ?_⟩
  · exact ((hrs.map _).nodup_iff.mpr (addressed_nodup k doc b _)).sublist halias.sublist
  · intro y hy
    obtain ⟨r, hr, hra⟩ := List.mem_map.mp
      (halias.subset (List.mem_map_of_mem (f := fun y => y.1.queueAlias) hy))
    exact ⟨r, mem_matching_of_mem_addressed (hrs.mem_iff.mp hr), hra.symm⟩
  · -- a single round was allowed, so the refused one is the only one
    have hle := halias.length_le
    rw [List.length_map, List.length_append, List.length_singleton, List.length_map, hlen] at hle
    have hnil : ds = [] := List.eq_nil_of_length_eq_zero (by omega)
    have hres := amqpPublishes_results υ
    rw [hds, hnil, List.nil_append, List.map_singleton] at hres
    have hmem : p.2 ∈ [d.2] := hres ▸ List.mem_map_of_mem hp
    rw [List.mem_singleton.mp hmem]
    exact hneg

/-- A publish is the last thing a send does before it throws, and only a refused
one makes it throw after others were accepted. -/
theorem throw_after_publish (pb : Protobuf) (k : RouterKind) (doc : Document)
    (router : AbstractRabbitMessageRouter)
    (hcfg : ∀ cfg, router.messageRouterConfiguration = some cfg → cfg.val.DecodedFrom doc)
    (w : Surroundings) (op : Operation) (b : k.Batch) (τ τ' : Trace) (e : Fault)
    (hthrow : (op.perform (k.routerClass pb) w router b).exec τ = (.error e, τ')) :
    ∃ x υ, e = .thrown x ∧ τ' = τ ++ υ ∧
      CleanThrow doc.root (op.attributes (k.routerClass pb)) x υ ∧
      ((∀ attrs, op ≠ .sendAll attrs) → ∀ p ∈ amqpPublishes υ, p.2 < 0) := by
  have hnone {x : Exn} {υ : Trace} (he : Fault.thrown x = e) (hτ : τ ++ υ = τ')
      (hυ : amqpPublishes υ = []) : ∃ x υ, e = .thrown x ∧ τ' = τ ++ υ ∧
        CleanThrow doc.root (op.attributes (k.routerClass pb)) x υ ∧
        ((∀ attrs, op ≠ .sendAll attrs) → ∀ p ∈ amqpPublishes υ, p.2 < 0) := by
    refine ⟨x, υ, he.symm, hτ.symm, .of_none hυ, fun _ p hp => ?_⟩
    rw [hυ] at hp
    cases hp
  obtain ⟨cm, cfg⟩ := router
  rcases cfg with _ | cfg
  · rw [perform_unconfigured] at hthrow
    injection hthrow with he hτ
    injection he with he
    exact hnone he ((List.append_nil τ).trans hτ) rfl
  have hdec := hcfg cfg rfl
  rcases cm with _ | cm
  · obtain ⟨x, υ, hrun, hυ⟩ := perform_unconnected pb rfl hdec.nonNull w op b τ
    rw [hrun] at hthrow
    injection hthrow with he hτ
    injection he with he
    apply hnone he hτ
    rcases hυ with rfl | ⟨a, rfl⟩ <;> rfl
  obtain ⟨rs, hrs, ⟨hallows, out, υ, hloop, hshipped⟩ | ⟨-, hrefused⟩⟩ :=
    perform_shipped pb cm hdec w op b τ
  · rw [hloop] at hthrow
    injection hthrow with hout hτ
    subst hout
    obtain ⟨x, he, hclean, hsingle⟩ := CleanThrow.of_shipped hrs hshipped
    refine ⟨x, υ, he, hτ.symm, hclean, fun hone => hsingle ?_⟩
    cases op with
    | sendAll attrs => exact absurd rfl (hone attrs)
    | _ => simpa [Operation.allows] using hallows
  · rw [hrefused] at hthrow
    injection hthrow with he hτ
    injection he with he
    exact hnone he ((List.append_nil τ).trans hτ) rfl

def refusingSecond : Amqp := { Amqp.accepting with basicPublish := fun n => if n = 2 then 0 else -1 }

def sendToBoth : Except Fault Unit × Trace :=
  ((Operation.sendAll [utf8 "raw"]).perform (RouterKind.routerClass .reference .rawBatch)
    ⟨refusingSecond, .stored _⟩ mqRouter (⟨[{}]⟩ : RawMessageBatch)).exec []

theorem throw_after_publish_two_queues :
    ∃ x υ, Fault.thrown (ConnectionManager.publishFail (-1)) = .thrown x ∧
      sendToBoth.2 = [] ++ υ ∧ CleanThrow mqDocument.root [utf8 "raw"] x υ ∧
      ((∀ attrs, Operation.sendAll [utf8 "raw"] ≠ .sendAll attrs) →
        ∀ p ∈ amqpPublishes υ, p.2 < 0) :=
  throw_after_publish .reference .rawBatch mqDocument mqRouter
    (fun _ h => Option.some.inj h ▸ mqConfiguration_decoded) ⟨refusingSecond, .stored _⟩
    (.sendAll [utf8 "raw"]) ⟨[{}]⟩ [] sendToBoth.2 _ rfl

end Th2
