import Th2Common.Message.Routes
import Th2Common.Message.Subscription

/-! Which alias `subscribe(callback, queue_attributes)` delegates to. -/

namespace Th2
open Text QueueEntry

section
variable (pb : Protobuf) (k : RouterKind) (cfg : Obj MessageRouterConfiguration)

def subscribable : List QueueEntry :=
  cfg.val.queues.entries.filter (carries (k.routerClass pb).requiredSubscribeAttributes)

def subscribableBy (attrs : List Bytes) : List QueueEntry :=
  cfg.val.queues.entries.filter fun e =>
    carries attrs e && carries (k.routerClass pb).requiredSubscribeAttributes e

/-- `subscribe` delegates to the one alias that fits, and throws before it
delegates when the fitting ones are more or fewer. -/
structure HandsOver (attrs : List Bytes) : Prop where
  one : ∀ e, subscribableBy pb k cfg attrs = [e] →
    ∀ (o : WalkOrder Walk) (cm : SharedPtr ConnectionManager),
      ((AbstractRabbitMessageRouter.subscribe (k.routerClass pb) o ⟨cm, some cfg⟩ attrs).exec []).2 =
        [e.1]
  otherwise : (subscribableBy pb k cfg attrs).length ≠ 1 →
    ∀ (o : WalkOrder Walk) (cm : SharedPtr ConnectionManager), ∃ x,
      (AbstractRabbitMessageRouter.subscribe (k.routerClass pb) o ⟨cm, some cfg⟩ attrs).exec [] =
        (.error (.thrown x), [])

variable {pb k cfg} {attrs : List Bytes}

theorem subscribableBy_eq :
    subscribableBy pb k cfg attrs = (subscribable pb k cfg).filter (carries attrs) :=
  List.filter_filter.symm

theorem requiredSubscribeAttributes_one :
    (k.routerClass pb).requiredSubscribeAttributes[1]? = some (utf8 "subscribe") := by
  cases k <;> rfl

variable (pb k attrs) in
theorem exec_subscribe_nil (h : NonNull cfg.val.queues.entries) (o : WalkOrder Walk)
    (cm : SharedPtr ConnectionManager) :
    ∃ x, (AbstractRabbitMessageRouter.subscribe (k.routerClass pb) o ⟨cm, some cfg⟩ attrs).exec [] =
      (.error (.thrown x),
        if (subscribable pb k cfg).length = 1 then [utf8 "subscribe"] else []) :=
  AbstractRabbitMessageRouter.exec_subscribe o cm attrs [] h requiredSubscribeAttributes_one

theorem handsOver_of_throws (h : NonNull cfg.val.queues.entries)
    (hall : (subscribable pb k cfg).length ≠ 1) :
    HandsOver pb k cfg attrs ↔ (subscribableBy pb k cfg attrs).length ≠ 1 := by
  have hrun := exec_subscribe_nil pb k attrs h
  simp only [if_neg hall] at hrun
  constructor
  · intro hands hone
    obtain ⟨e, he⟩ := List.length_eq_one_iff.mp hone
    obtain ⟨x, hx⟩ := hrun (.stored _) none
    have hgiven := hands.one e he (.stored _) none
    rw [hx] at hgiven
    cases hgiven
  · intro hne
    refine ⟨?_, fun _ => hrun⟩
    intro e he
    rw [he] at hne
    exact absurd rfl hne

theorem handsOver_of_delegates (h : NonNull cfg.val.queues.entries) {e : QueueEntry}
    (hall : subscribable pb k cfg = [e]) :
    HandsOver pb k cfg attrs ↔ carries attrs e = true ∧ e.1 = utf8 "subscribe" := by
  have hlen : (subscribable pb k cfg).length = 1 := by rw [hall, List.length_singleton]
  have hrun := exec_subscribe_nil pb k attrs h
  simp only [if_pos hlen] at hrun
  have hby : subscribableBy pb k cfg attrs = if carries attrs e then [e] else [] := by
    rw [subscribableBy_eq, hall, List.filter_singleton, Bool.cond_eq_ite]
  constructor
  · intro hands
    obtain ⟨x, hx⟩ := hrun (.stored _) none
    by_cases he : carries attrs e = true
    · rw [if_pos he] at hby
      have hgiven := hands.one e hby (.stored _) none
      rw [hx] at hgiven
      exact ⟨he, (List.singleton_inj.mp hgiven).symm⟩
    · rw [if_neg he] at hby
      have hnone : (subscribableBy pb k cfg attrs).length ≠ 1 := by
        rw [hby]
        exact Nat.zero_ne_one
      obtain ⟨y, hy⟩ := hands.otherwise hnone (.stored _) none
      rw [hx] at hy
      cases hy
  · rintro ⟨he, hname⟩
    rw [if_pos he] at hby
    refine ⟨?_, ?_⟩
    · intro f hf o cm
      rw [hby] at hf
      obtain ⟨x, hx⟩ := hrun o cm
      rw [hx, ← List.singleton_inj.mp hf, hname]
    · intro hne
      rw [hby] at hne
      exact absurd rfl hne

theorem nonNull_of_handsOver (hands : HandsOver pb k cfg attrs) :
    NonNull cfg.val.queues.entries := by
  by_contra h
  have hrun := AbstractRabbitMessageRouter.exec_subscribe_null (c := k.routerClass pb) (.stored _)
    none attrs [] h
  by_cases hone : (subscribableBy pb k cfg attrs).length = 1
  · obtain ⟨e, he⟩ := List.length_eq_one_iff.mp hone
    have hgiven := hands.one e he (.stored _) none
    rw [hrun] at hgiven
    cases hgiven
  · obtain ⟨x, hx⟩ := hands.otherwise hone (.stored _) none
    rw [hrun] at hx
    cases hx

end

theorem handsOver_iff (pb : Protobuf) (k : RouterKind) (cfg : Obj MessageRouterConfiguration)
    (attrs : List Bytes) :
    HandsOver pb k cfg attrs ↔ NonNull cfg.val.queues.entries ∧
      (((subscribable pb k cfg).length ≠ 1 ∧ (subscribableBy pb k cfg attrs).length ≠ 1) ∨
        ∃ e, subscribable pb k cfg = [e] ∧ carries attrs e = true ∧ e.1 = utf8 "subscribe") := by
  have hsplit (h : NonNull cfg.val.queues.entries) : HandsOver pb k cfg attrs ↔
      (((subscribable pb k cfg).length ≠ 1 ∧ (subscribableBy pb k cfg attrs).length ≠ 1) ∨
        ∃ e, subscribable pb k cfg = [e] ∧ carries attrs e = true ∧ e.1 = utf8 "subscribe") := by
    by_cases hone : (subscribable pb k cfg).length = 1
    · obtain ⟨e, he⟩ := List.length_eq_one_iff.mp hone
      rw [handsOver_of_delegates h he]
      constructor
      · exact fun hcond => .inr ⟨e, he, hcond⟩
      · rintro (⟨hne, -⟩ | ⟨f, hf, hcond⟩)
        · exact absurd hone hne
        · rw [he] at hf
          rw [List.singleton_inj.mp hf]
          exact hcond
    · rw [handsOver_of_throws h hone]
      constructor
      · exact fun hne => .inl ⟨hone, hne⟩
      · rintro (⟨-, hne⟩ | ⟨f, hf, -⟩)
        · exact hne
        · rw [hf] at hone
          exact absurd rfl hone
  constructor
  · intro hands
    have h := nonNull_of_handsOver hands
    exact ⟨h, (hsplit h).mp hands⟩
  · rintro ⟨h, hcond⟩
    exact (hsplit h).mpr hcond

theorem not_handsOver_mq :
    (subscribableBy .reference .rawBatch ⟨0, mqConfiguration⟩ []).map Sigma.fst =
        [utf8 "test_queue"] ∧
      ((AbstractRabbitMessageRouter.subscribe (RouterKind.rawBatch.routerClass .reference) (.stored _)
        ⟨none, some ⟨0, mqConfiguration⟩⟩ []).exec []).2 = [utf8 "subscribe"] ∧
      ¬HandsOver .reference .rawBatch ⟨0, mqConfiguration⟩ [] := by
  have hby : (subscribableBy .reference .rawBatch ⟨0, mqConfiguration⟩ []).map Sigma.fst =
      [utf8 "test_queue"] := rfl
  have hrun : ((AbstractRabbitMessageRouter.subscribe (RouterKind.rawBatch.routerClass .reference)
      (.stored _) ⟨none, some ⟨0, mqConfiguration⟩⟩ []).exec []).2 = [utf8 "subscribe"] := rfl
  refine ⟨hby, hrun, fun hands => ?_⟩
  obtain ⟨e, he, hname⟩ := List.map_eq_singleton_iff.mp hby
  have hgiven := hands.one e he (.stored _) none
  rw [hrun, hname] at hgiven
  exact absurd hgiven (by decide)

end Th2
