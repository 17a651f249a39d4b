import Th2Common.Message.Router

/-! Which queues a router chooses for a batch, whatever the orders of the walks. -/

namespace Th2

def NonNull (es : List QueueEntry) : Prop := ∀ e ∈ es, ∃ q, e.2 = some q

theorem NonNull.perm {es fs : List QueueEntry} (h : NonNull es) (hp : fs.Perm es) : NonNull fs :=
  fun e he => h e (hp.mem_iff.mp he)

theorem NonNull.filter {es : List QueueEntry} (h : NonNull es) (p : QueueEntry → Bool) :
    NonNull (es.filter p) := fun e he => h e (List.mem_of_mem_filter he)

theorem NonNull.tail {e : QueueEntry} {es : List QueueEntry} (h : NonNull (e :: es)) : NonNull es :=
  fun f hf => h f (List.mem_cons_of_mem _ hf)

namespace QueueEntry

def carries (attrs : List Bytes) (e : QueueEntry) : Bool :=
  e.2.any fun q => q.val.containsAllAttributes attrs

def unfiltered (e : QueueEntry) : Bool := e.2.any fun q => q.val.filters.isEmpty

theorem carries_nil {es : List QueueEntry} (h : NonNull es) : es.filter (carries []) = es := by
  rw [List.filter_eq_self]
  intro e he
  obtain ⟨q, hq⟩ := h e he
  simp [carries, hq, QueueConfiguration.containsAllAttributes]

end QueueEntry

open QueueEntry

namespace MessageRouterConfiguration

theorem collectByAttr_eq (attr : List Bytes) (m : QueuesMap) {es : List QueueEntry}
    (h : NonNull es) : collectByAttr attr m es = .ok (m.emplaceAll (es.filter (carries attr))) := by
  induction es generalizing m with
  | nil => rfl
  | cons e es ih =>
    obtain ⟨q, hq⟩ := h e (by simp)
    have hc : carries attr e = q.val.containsAllAttributes attr := by simp [carries, hq]
    unfold collectByAttr
    simp only [hq, deref, List.filter_cons, hc]
    change (if _ then _ else _) = _
    split
    · rw [ih _ h.tail, ← hq]
      rfl
    · exact ih _ h.tail

theorem findQueuesByAttr_spec (o : WalkOrder Walk) {cfg : MessageRouterConfiguration}
    (h : NonNull cfg.queues.entries) (attr : List Bytes) :
    ∃ m, cfg.findQueuesByAttr o attr = .ok m ∧
      m.entries.Perm (cfg.queues.entries.filter (carries attr)) := by
  have hw := AList.walk_perm cfg.queues o .queues
  have hnd : ((cfg.queues.walk o .queues).filter (carries attr)).NodupKeys :=
    (AList.walk_nodupKeys cfg.queues o .queues).sublist List.filter_sublist
  refine ⟨_, collectByAttr_eq attr ∅ (h.perm hw), ?_⟩
  exact (AList.emplaceAll_empty_perm hnd).trans (hw.filter _)

end MessageRouterConfiguration

namespace AbstractRabbitBatchMessageRouter
variable {μ β : Type}

def admitted (es : List QueueEntry) : List Bytes := (es.filter unfiltered).map Sigma.fst

theorem filterFrom_eq (aliases : USet Bytes) {es : List QueueEntry} (h : NonNull es) :
    filterFrom aliases es =
      .ok (aliases.emplaceAll ((es.filter unfiltered).map fun e => ⟨e.1, ()⟩)) := by
  induction es generalizing aliases with
  | nil => rfl
  | cons e es ih =>
    obtain ⟨q, hq⟩ := h e (by simp)
    have hu : unfiltered e = q.val.filters.isEmpty := by simp [unfiltered, hq]
    unfold filterFrom
    simp only [hq, deref, List.filter_cons, hu]
    change (if _ then _ else _) = _
    by_cases hf : q.val.filters = []
    · simp only [hf, if_true, List.isEmpty_nil, List.map_cons]
      exact ih _ h.tail
    · have hne : q.val.filters.isEmpty = false := by simpa using hf
      simp only [hf, if_false, hne, Bool.false_eq_true]
      exact ih _ h.tail

theorem filter_spec (o : WalkOrder Walk) (i : Nat) {m : QueuesMap} (h : NonNull m.entries)
    (msg : μ) :
    ∃ aliases, filter o i m msg = .ok aliases ∧ aliases.keys.Perm (admitted m.entries) := by
  have hw := AList.walk_perm m o (.filter i)
  have hkeys (es : List QueueEntry) :
      (es.map fun e => (⟨e.1, ()⟩ : Sigma fun _ : Bytes => Unit)).keys = es.map Sigma.fst := by
    rw [List.keys, List.map_map]
    rfl
  have hnd : (((m.walk o (.filter i)).filter unfiltered).map
      fun e => (⟨e.1, ()⟩ : Sigma fun _ : Bytes => Unit)).NodupKeys := by
    rw [List.NodupKeys, hkeys]
    exact (AList.walk_nodupKeys m o (.filter i)).sublist List.filter_sublist
  refine ⟨_, filterFrom_eq ∅ (h.perm hw), ?_⟩
  have hp : (AList.keys _).Perm (List.keys _) := (AList.emplaceAll_empty_perm hnd).map Sigma.fst
  rw [hkeys] at hp
  exact hp.trans ((hw.filter _).map _)

theorem regroupFrom_spec (access : BatchAccess μ β) (o : WalkOrder Walk) {m : QueuesMap}
    (h : NonNull m.entries) (result : AliasAndMessageToSend β) (i : Nat) (msgs : List μ) :
    ∃ xs : List (μ × List Bytes), xs.map Prod.fst = msgs ∧
      (∀ p ∈ xs, p.2.Perm (admitted m.entries)) ∧
      regroupFrom access o m result i msgs =
        .ok (Regroup.regroup access.emptyBatch access.addMessages result xs) := by
  induction msgs generalizing result i with
  | nil => exact ⟨[], rfl, by simp, rfl⟩
  | cons msg msgs ih =>
    obtain ⟨aliases, hf, hp⟩ := filter_spec o i h msg
    -- the aliases are the same for every message, in an order of their own
    obtain ⟨xs, hxs, hall, heq⟩ := ih (Regroup.placeAll access.emptyBatch access.addMessages result
      msg (aliases.walkKeys o (.aliases i))) (i + 1)
    refine ⟨(msg, aliases.walkKeys o (.aliases i)) :: xs, ?_, ?_, ?_⟩
    · rw [List.map_cons, hxs]
    · intro p hmem
      rcases List.mem_cons.mp hmem with rfl | hmem
      · exact (AList.walkKeys_perm aliases o (.aliases i)).trans hp
      · exact hall p hmem
    · unfold regroupFrom
      rw [hf]
      exact heq

theorem findByFilter_spec (access : BatchAccess μ β) (o : WalkOrder Walk) {m : QueuesMap}
    (h : NonNull m.entries) (batch : β) :
    ∃ r, findByFilter access o m batch = .ok r ∧ r.entries.Perm
      (if access.getMessages batch = [] then [] else (m.entries.filter unfiltered).map fun e =>
        ⟨e.1, (access.getMessages batch).foldl access.addMessages access.emptyBatch⟩) := by
  obtain ⟨xs, hxs, hall, heq⟩ := regroupFrom_spec access o h ∅ 0 (access.getMessages batch)
  refine ⟨_, heq, ?_⟩
  split
  · next hnil =>
    rw [hnil] at hxs
    rw [List.map_eq_nil_iff.mp hxs, Regroup.regroup_nil]
  · next hne =>
    have hks : (admitted m.entries).Nodup :=
      List.Nodup.sublist (List.filter_sublist.map Sigma.fst) m.nodupKeys
    have hxs' : xs ≠ [] := by
      rintro rfl
      exact hne hxs.symm
    have hp := Regroup.regroup_const access.emptyBatch access.addMessages hks hxs' hall
    rw [hxs, admitted, List.map_map] at hp
    exact hp

end AbstractRabbitBatchMessageRouter

theorem EventBatchRouter.findByFilter_spec (o : WalkOrder Walk) (m : QueuesMap) (batch : EventBatch) :
    ∃ r, EventBatchRouter.findByFilter o m batch = .ok r ∧
      r.entries.Perm (m.entries.map fun e => ⟨e.1, batch⟩) := by
  have hw := AList.walk_perm m o .found
  have hnd : ((m.walk o .found).map
      fun e => (⟨e.1, batch⟩ : Sigma fun _ : Bytes => EventBatch)).NodupKeys := by
    rw [List.NodupKeys, List.keys, List.map_map]
    exact AList.walk_nodupKeys m o .found
  exact ⟨_, rfl, (AList.emplaceAll_empty_perm hnd).trans (hw.map _)⟩

namespace RouterKind

def Sendable : (k : RouterKind) → k.Batch → Prop
  | parsedBatch, b => b.messages ≠ []
  | rawBatch, b => b.messages ≠ []
  | eventBatch, _ => True
  | groupBatch, b => b.groups ≠ []

instance : (k : RouterKind) → (b : k.Batch) → Decidable (k.Sendable b)
  | parsedBatch, b => inferInstanceAs (Decidable (b.messages ≠ []))
  | rawBatch, b => inferInstanceAs (Decidable (b.messages ≠ []))
  | eventBatch, _ => .isTrue trivial
  | groupBatch, b => inferInstanceAs (Decidable (b.groups ≠ []))

def admits (k : RouterKind) (e : QueueEntry) : Bool := k == eventBatch || unfiltered e

theorem foldl_append {α β : Type} (make : List α → β) (add : β → α → β)
    (h : ∀ xs x, add (make xs) x = make (xs ++ [x])) (ys xs : List α) :
    ys.foldl add (make xs) = make (xs ++ ys) := by
  induction ys generalizing xs with
  | nil => rw [List.foldl_nil, List.append_nil]
  | cons y ys ih => rw [List.foldl_cons, h, ih, List.append_assoc, List.singleton_append]

theorem findByFilter_spec (pb : Protobuf) (k : RouterKind) (o : WalkOrder Walk) {m : QueuesMap}
    (h : NonNull m.entries) (b : k.Batch) :
    ∃ r, (k.routerClass pb).findByFilter o m b = .ok r ∧ r.entries.Perm
      (if k.Sendable b then (m.entries.filter k.admits).map fun e => ⟨e.1, b⟩ else []) := by
  cases k with
  | parsedBatch =>
    have hb : b.messages.foldl parsedBatchAccess.addMessages parsedBatchAccess.emptyBatch = b :=
      foldl_append MessageBatch.mk _ (fun _ _ => rfl) b.messages []
    have hspec := AbstractRabbitBatchMessageRouter.findByFilter_spec parsedBatchAccess o h b
    rw [show parsedBatchAccess.getMessages b = b.messages from rfl, hb, ← ite_not] at hspec
    exact hspec
  | rawBatch =>
    have hb : b.messages.foldl rawBatchAccess.addMessages rawBatchAccess.emptyBatch = b :=
      foldl_append RawMessageBatch.mk _ (fun _ _ => rfl) b.messages []
    have hspec := AbstractRabbitBatchMessageRouter.findByFilter_spec rawBatchAccess o h b
    rw [show rawBatchAccess.getMessages b = b.messages from rfl, hb, ← ite_not] at hspec
    exact hspec
  | groupBatch =>
    have hb : b.groups.foldl groupBatchAccess.addMessages groupBatchAccess.emptyBatch = b :=
      foldl_append MessageGroupBatch.mk _ (fun _ _ => rfl) b.groups []
    have hspec := AbstractRabbitBatchMessageRouter.findByFilter_spec groupBatchAccess o h b
    rw [show groupBatchAccess.getMessages b = b.groups from rfl, hb, ← ite_not] at hspec
    exact hspec
  | eventBatch =>
    have hall : m.entries.filter (admits eventBatch) = m.entries := by
      rw [List.filter_eq_self]
      exact fun _ _ => rfl
    rw [hall]
    exact EventBatchRouter.findByFilter_spec o m b

end RouterKind

end Th2
