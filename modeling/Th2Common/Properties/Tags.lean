import Th2Common.Message.Routes

/-! Whether the two ends of a link find each other by the attributes of their queues. -/

namespace Th2
open Text QueueEntry

def Finds (o : WalkOrder Walk) (cfg : MessageRouterConfiguration) (attrs : List Bytes)
    (queueAlias : Bytes) : Prop := ∃ m, cfg.findQueuesByAttr o attrs = .ok m ∧ queueAlias ∈ m

def Tagged (cfg : MessageRouterConfiguration) (queueAlias : Bytes) (A : List Bytes) (tag : Bytes) :
    Prop :=
  ∃ q, cfg.queues.lookup queueAlias = some (some q) ∧
    ∀ x, x ∈ q.val.attributes ↔ x ∈ A ∨ x = tag

/-- Over any two configurations, a queue tagged with `A` for publishing is found for
sending if and only if one tagged with `A` for subscribing is found for subscribing. -/
def Meets (pb : Protobuf) (k : RouterKind) (A : List Bytes) : Prop :=
  ∀ (o o' : WalkOrder Walk) (cfg cfg' : MessageRouterConfiguration) (a a' : Bytes),
    NonNull cfg.queues.entries → NonNull cfg'.queues.entries →
    Tagged cfg a A "publish" → Tagged cfg' a' A "subscribe" →
    (Finds o cfg (k.routerClass pb).requiredSendAttributes a ↔
      Finds o' cfg' (k.routerClass pb).requiredSubscribeAttributes a')

namespace RouterKind

def sendTag : RouterKind → Bytes
  | parsedBatch => "parsed"
  | rawBatch => "raw"
  | eventBatch => "event"
  | groupBatch => "raw"

def subscribeTag : RouterKind → Bytes
  | eventBatch => "event"
  | _ => "raw"

theorem requiredSendAttributes_eq (pb : Protobuf) (k : RouterKind) :
    (k.routerClass pb).requiredSendAttributes = [k.sendTag, utf8 "publish"] := by
  cases k <;> rfl

theorem requiredSubscribeAttributes_eq (pb : Protobuf) (k : RouterKind) :
    (k.routerClass pb).requiredSubscribeAttributes = [k.subscribeTag, utf8 "subscribe"] := by
  cases k <;> rfl

theorem sendTag_ne (k : RouterKind) : k.sendTag ≠ utf8 "publish" := by
  cases k <;> decide

theorem subscribeTag_ne (k : RouterKind) : k.subscribeTag ≠ utf8 "subscribe" := by
  cases k <;> decide

theorem tags_agree_iff (k : RouterKind) (A : List Bytes) :
    (k.sendTag ∈ A ↔ k.subscribeTag ∈ A) ↔
      (k = .parsedBatch → (utf8 "parsed" ∈ A ↔ utf8 "raw" ∈ A)) := by
  cases k with
  | parsedBatch =>
    constructor
    · exact fun h _ => h
    · exact fun h => h rfl
  | rawBatch => exact iff_of_true Iff.rfl fun h => by cases h
  | eventBatch => exact iff_of_true Iff.rfl fun h => by cases h
  | groupBatch => exact iff_of_true Iff.rfl fun h => by cases h

end RouterKind

section
variable {cfg : MessageRouterConfiguration} {A : List Bytes} {a tag type : Bytes}

theorem finds_iff (o : WalkOrder Walk) (h : NonNull cfg.queues.entries) (attrs : List Bytes)
    {q : QueueConfigurationPtr} (hq : cfg.queues.lookup a = some q) :
    Finds o cfg attrs a ↔ carries attrs ⟨a, q⟩ = true := by
  obtain ⟨m, hm, hp⟩ := MessageRouterConfiguration.findQueuesByAttr_spec o h attrs
  have hfinds : Finds o cfg attrs a ↔ a ∈ m := by
    constructor
    · rintro ⟨m', hm', ha⟩
      rw [hm] at hm'
      cases hm'
      exact ha
    · exact fun ha => ⟨m, hm, ha⟩
  rw [hfinds, AList.mem_keys, AList.keys, List.keys, List.mem_map]
  constructor
  · rintro ⟨e, he, rfl⟩
    obtain ⟨hmem, hcarries⟩ := List.mem_filter.mp (hp.mem_iff.mp he)
    -- the alias stands once in the configuration
    have hlook : cfg.queues.lookup e.1 = some e.2 := AList.mem_lookup_iff.mpr hmem
    rw [hq] at hlook
    rw [Option.some.inj hlook]
    exact hcarries
  · intro hcarries
    have hmem : (⟨a, q⟩ : QueueEntry) ∈ cfg.queues.entries := AList.mem_lookup_iff.mp hq
    exact ⟨⟨a, q⟩, hp.mem_iff.mpr (List.mem_filter.mpr ⟨hmem, hcarries⟩), rfl⟩

theorem finds_tagged_iff (o : WalkOrder Walk) (h : NonNull cfg.queues.entries)
    (htagged : Tagged cfg a A tag) (hne : type ≠ tag) : Finds o cfg [type, tag] a ↔ type ∈ A := by
  obtain ⟨q, hq, hattrs⟩ := htagged
  rw [finds_iff o h [type, tag] hq]
  change q.val.containsAllAttributes [type, tag] = true ↔ _
  rw [QueueConfiguration.containsAllAttributes_iff, List.forall_mem_cons, List.forall_mem_singleton,
    hattrs, hattrs]
  constructor
  · rintro ⟨htype, -⟩
    exact htype.resolve_right hne
  · exact fun htype => ⟨.inl htype, .inr rfl⟩

end

def linkConfiguration (A : List Bytes) (tag : Bytes) : MessageRouterConfiguration where
  queues := (∅ : QueuesMap).emplaceAll
    [⟨utf8 "link", some ⟨0, { attributes := A ++ [tag] }⟩⟩]

theorem linkConfiguration_nonNull (A : List Bytes) (tag : Bytes) :
    NonNull (linkConfiguration A tag).queues.entries := by
  intro e he
  rw [List.mem_singleton.mp he]
  exact ⟨_, rfl⟩

theorem linkConfiguration_tagged (A : List Bytes) (tag : Bytes) :
    Tagged (linkConfiguration A tag) "link" A tag := by
  refine ⟨⟨0, { attributes := A ++ [tag] }⟩, rfl, fun x => ?_⟩
  rw [List.mem_append, List.mem_singleton]

theorem finds_linkConfiguration_iff (o : WalkOrder Walk) (A : List Bytes) {type tag : Bytes}
    (hne : type ≠ tag) : Finds o (linkConfiguration A tag) [type, tag] "link" ↔ type ∈ A :=
  finds_tagged_iff o (linkConfiguration_nonNull A tag) (linkConfiguration_tagged A tag) hne

/-- The four kinds meet under every attribute list, but for a list that has one
of `parsed` and `raw` without the other: there the parsed router does not. -/
theorem meets_iff (pb : Protobuf) (k : RouterKind) (A : List Bytes) :
    Meets pb k A ↔ (k = .parsedBatch → (utf8 "parsed" ∈ A ↔ utf8 "raw" ∈ A)) := by
  rw [← RouterKind.tags_agree_iff]
  unfold Meets
  rw [RouterKind.requiredSendAttributes_eq, RouterKind.requiredSubscribeAttributes_eq]
  constructor
  · intro hmeets
    have h := hmeets (.stored _) (.stored _) _ _ _ _ (linkConfiguration_nonNull A "publish")
      (linkConfiguration_nonNull A "subscribe") (linkConfiguration_tagged A "publish")
      (linkConfiguration_tagged A "subscribe")
    rw [finds_linkConfiguration_iff _ A k.sendTag_ne,
      finds_linkConfiguration_iff _ A k.subscribeTag_ne] at h
    exact h
  · intro hagree o o' cfg cfg' a a' h h' hpublish hsubscribe
    rw [finds_tagged_iff o h hpublish k.sendTag_ne,
      finds_tagged_iff o' h' hsubscribe k.subscribeTag_ne]
    exact hagree

theorem not_meets_parsed :
    Finds (.stored _) (linkConfiguration [utf8 "parsed"] "publish")
        (RabbitParsedBatchRouter .reference).requiredSendAttributes "link" ∧
      ¬Finds (.stored _) (linkConfiguration [utf8 "parsed"] "subscribe")
        (RabbitParsedBatchRouter .reference).requiredSubscribeAttributes "link" ∧
      ¬Meets .reference .parsedBatch [utf8 "parsed"] := by
  have hsend := (finds_linkConfiguration_iff (.stored _) [utf8 "parsed"]
    RouterKind.parsedBatch.sendTag_ne).mpr (by decide)
  have hsubscribe := (finds_linkConfiguration_iff (.stored _) [utf8 "parsed"]
    RouterKind.parsedBatch.subscribeTag_ne).not.mpr (by decide)
  refine ⟨hsend, hsubscribe, fun hmeets => hsubscribe ?_⟩
  apply (hmeets (.stored _) (.stored _) _ _ _ _ (linkConfiguration_nonNull _ _)
    (linkConfiguration_nonNull _ _) (linkConfiguration_tagged _ _)
    (linkConfiguration_tagged _ _)).mp
  exact hsend

end Th2
