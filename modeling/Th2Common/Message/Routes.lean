import Th2Common.Message.Selection

/-! What a configuration file says about its queues, read off the document
alone, and that a decoded configuration holds exactly that. -/

namespace Th2
open Text

structure Route where
  queueAlias : Bytes
  queue : Bytes
  name : Bytes
  exchange : Bytes
  attributes : List Bytes
  filters : List Json

namespace Route

def stringAt (j : Json) (key : Bytes) : Bytes :=
  match j.find? key with
  | some (.string s) => s
  | _ => []

def ofMember (m : Bytes × Json) : Route where
  queueAlias := m.1
  queue := stringAt m.2 "queue"
  name := stringAt m.2 "name"
  exchange := stringAt m.2 "exchange"
  attributes := ((m.2.find? "attributes").map Json.strings).getD []
  filters := match m.2.find? "filters" with
    | some (.array elements) => elements
    | _ => []

def carries (attrs : List Bytes) (r : Route) : Bool := decide (∀ a ∈ attrs, a ∈ r.attributes)

def listsFilters (r : Route) : Bool := !r.filters.isEmpty

def configuration (r : Route) : QueueConfiguration where
  routingKey := r.name
  queue := r.queue
  exchange := r.exchange
  attributes := r.attributes

end Route

def routes (j : Json) : List Route :=
  match j.find? "queues" with
  | some (.object members) => members.map Route.ofMember
  | _ => []

def matching (j : Json) (attrs : List Bytes) : List Route := (routes j).filter (·.carries attrs)

def MessageRouterConfiguration.DecodedFrom (cfg : MessageRouterConfiguration) (doc : Document) :
    Prop := ∃ n, ((fromJson doc.root {}).exec n).1 = .ok cfg

abbrev View : Type := Bytes × Option QueueConfiguration

namespace View

def ofEntry (e : QueueEntry) : View := (e.1, e.2.map Obj.val)

def ofRoute (r : Route) : View := (r.queueAlias, some r.configuration)

end View

theorem stringAt_of_getAt {j : Json} {key s : Bytes} (h : getAt j key Json.getString = .ok s) :
    Route.stringAt j key = s := by
  obtain ⟨v, hv, hs⟩ := getAt_eq_ok h
  rw [Json.getString_eq_ok.mp hs] at hv
  rw [Route.stringAt, hv]

theorem strings_of_getAt {j : Json} {key : Bytes} {ss : List Bytes}
    (h : getAt j key Json.getStrings = .ok ss) :
    ((j.find? key).map Json.strings).getD [] = ss := by
  obtain ⟨v, hv, hs⟩ := getAt_eq_ok h
  rw [hv, Option.map_some, Option.getD_some, Json.getStrings_eq_ok hs]

theorem fromJsonPtr_none {m : Bytes × Json} {n n' : Nat} {p : QueueConfigurationPtr}
    (h : (QueueConfiguration.fromJsonPtr m.2 none).exec n = (.ok p, n')) :
    p = some ⟨n, (Route.ofMember m).configuration⟩ ∧ n' = n + 1 := by
  unfold QueueConfiguration.fromJsonPtr at h
  obtain ⟨o, s, ho, h⟩ := Prog.exec_bind_eq_ok h
  obtain ⟨rfl, rfl⟩ : Obj.mk n {} = o ∧ n + 1 = s := by
    injection ho with ho hs
    injection ho with ho
    exact ⟨ho, hs⟩
  obtain ⟨queue, s, hq, h⟩ := Prog.exec_bind_eq_ok h
  obtain ⟨hqueue, rfl⟩ := Prog.exec_lift_eq_ok hq
  obtain ⟨name, s, hn, h⟩ := Prog.exec_bind_eq_ok h
  obtain ⟨hname, rfl⟩ := Prog.exec_lift_eq_ok hn
  obtain ⟨exchange, s, he, h⟩ := Prog.exec_bind_eq_ok h
  obtain ⟨hexchange, rfl⟩ := Prog.exec_lift_eq_ok he
  obtain ⟨attributes, s, ha, h⟩ := Prog.exec_bind_eq_ok h
  obtain ⟨hattributes, rfl⟩ := Prog.exec_lift_eq_ok ha
  rw [Prog.exec_pure] at h
  injection h with hp hn
  injection hp with hp
  refine ⟨?_, hn.symm⟩
  rw [← hp, Route.configuration, Route.ofMember]
  simp only [stringAt_of_getAt hqueue, stringAt_of_getAt hname, stringAt_of_getAt hexchange,
    strings_of_getAt hattributes]

theorem decodeQueues_spec {ms : List (Bytes × Json)} {n n' : Nat} {es : List QueueEntry}
    (h : (MessageRouterConfiguration.decodeQueues ms).exec n = (.ok es, n')) :
    es.map View.ofEntry = (ms.map Route.ofMember).map View.ofRoute := by
  induction ms generalizing n n' es with
  | nil =>
    injection h with hes
    injection hes with hes
    rw [← hes]
    rfl
  | cons m ms ih =>
    unfold MessageRouterConfiguration.decodeQueues at h
    obtain ⟨p, s, hp, h⟩ := Prog.exec_bind_eq_ok h
    obtain ⟨rest, t, hrest, h⟩ := Prog.exec_bind_eq_ok h
    rw [Prog.exec_pure] at h
    injection h with hes
    injection hes with hes
    obtain ⟨rfl, _⟩ := fromJsonPtr_none hp
    rw [← hes, List.map_cons, ih hrest]
    rfl

namespace MessageRouterConfiguration
variable {cfg : MessageRouterConfiguration} {doc : Document}

theorem DecodedFrom.view (h : cfg.DecodedFrom doc) :
    (cfg.queues.entries.map View.ofEntry).Perm ((routes doc.root).map View.ofRoute) := by
  obtain ⟨n, hn⟩ := h
  obtain ⟨s, hrun⟩ : ∃ s, (fromJson doc.root {}).exec n = (.ok cfg, s) :=
    ⟨_, Prod.ext hn rfl⟩
  unfold fromJson at hrun
  obtain ⟨ms, t, hlift, hdecode⟩ := Prog.exec_bind_eq_ok hrun
  obtain ⟨hms, _⟩ := Prog.exec_lift_eq_ok hlift
  obtain ⟨es, u, hes, hreturn⟩ := Prog.exec_bind_eq_ok hdecode
  rw [Prog.exec_pure] at hreturn
  injection hreturn with hcfg
  injection hcfg with hcfg
  obtain ⟨v, hv, hobj⟩ := getAt_eq_ok hms
  rw [Json.getMembers_eq_ok.mp hobj] at hv
  have hroutes : routes doc.root = ms.map Route.ofMember := by rw [routes, hv]
  have hview := decodeQueues_spec hes
  have hkeys : es.keys = ms.map Prod.fst := by
    have hfst := congrArg (List.map Prod.fst) hview
    rw [List.map_map, List.map_map, List.map_map] at hfst
    exact hfst
  -- the parser lets no key stand twice, so every entry is emplaced
  have hnd : es.NodupKeys := by
    rw [List.NodupKeys, hkeys]
    exact Json.distinctKeys_object (Json.distinctKeys_find? doc.distinct hv)
  rw [hroutes, ← hview, ← hcfg]
  exact (AList.emplaceAll_empty_perm hnd).map _

theorem DecodedFrom.aligned (h : cfg.DecodedFrom doc) :
    ∃ rs : List Route, cfg.queues.entries.map View.ofEntry = rs.map View.ofRoute ∧
      rs.Perm (routes doc.root) := exists_perm_of_perm_map h.view

theorem DecodedFrom.mem (h : cfg.DecodedFrom doc) {e : QueueEntry} (he : e ∈ cfg.queues.entries) :
    ∃ r ∈ routes doc.root, ∃ q, e.2 = some q ∧ e.1 = r.queueAlias ∧ q.val = r.configuration := by
  obtain ⟨r, hr, hre⟩ := List.mem_map.mp (h.view.mem_iff.mp (List.mem_map_of_mem he))
  injection hre with halias hq
  obtain ⟨q, hq, hval⟩ := Option.map_eq_some_iff.mp hq.symm
  exact ⟨r, hr, q, hq, halias.symm, hval⟩

theorem DecodedFrom.nonNull (h : cfg.DecodedFrom doc) : NonNull cfg.queues.entries := by
  intro e he
  obtain ⟨_, _, q, hq, _⟩ := h.mem he
  exact ⟨q, hq⟩

theorem DecodedFrom.writable (h : cfg.DecodedFrom doc) :
    ∀ e ∈ cfg.queues.entries, ∃ q, e.2 = some q ∧ q.val.isWritable = true := by
  intro e he
  obtain ⟨r, _, q, hq, _, hval⟩ := h.mem he
  have hwritable : r.configuration.isWritable = true := rfl
  rw [← hval] at hwritable
  exact ⟨q, hq, hwritable⟩

end MessageRouterConfiguration

/-- `cfg/mq.json`, with the list under `"filters"` left open. -/
def mqJson (filters : List Json) : Json :=
  .object [(utf8 "queues", .object [
    (utf8 "test_queue", .object [
      (utf8 "queue", .string "test_queue_name"),
      (utf8 "name", .string "test_queue_name"),
      (utf8 "exchange", .string "demo_exchange"),
      (utf8 "attributes", .array [.string "subscribe", .string "raw"])]),
    (utf8 "output_queue", .object [
      (utf8 "queue", .string "out_queue_name"),
      (utf8 "name", .string "out_queue_name"),
      (utf8 "exchange", .string "demo_exchange"),
      (utf8 "attributes", .array [.string "publish", .string "raw", .string "event"]),
      (utf8 "filters", .array filters)])])]

def mqDocument : Document := ⟨mqJson [], by decide⟩

def mqText : Bytes :=
  utf8 "\x7b\n" ++
    utf8 "  \"queues\": \x7b\n" ++
    utf8 "    \"test_queue\" : \x7b\n" ++
    utf8 "      \"queue\": \"test_queue_name\",\n" ++
    utf8 "      \"name\": \"test_queue_name\",\n" ++
    utf8 "      \"exchange\": \"demo_exchange\",\n" ++
    utf8 "      \"attributes\": [\"subscribe\", \"raw\"]\n" ++
    utf8 "    \x7d,\n" ++
    utf8 "    \"output_queue\" : \x7b\n" ++
    utf8 "      \"queue\": \"out_queue_name\",\n" ++
    utf8 "      \"name\": \"out_queue_name\",\n" ++
    utf8 "      \"exchange\": \"demo_exchange\",\n" ++
    utf8 "      \"attributes\": [\"publish\", \"raw\", \"event\"],\n" ++
    utf8 "      \"filters\": [\n" ++
    utf8 "      ]\n" ++
    utf8 "    \x7d\n" ++
    utf8 "  \x7d\n" ++
    utf8 "\x7d\n"

def filteredDocument : Document := ⟨mqJson [.object []], by decide⟩

def mqConfiguration : MessageRouterConfiguration where
  queues := (∅ : QueuesMap).emplaceAll [
    ⟨utf8 "test_queue", some ⟨0, {
      routingKey := "test_queue_name"
      queue := "test_queue_name"
      exchange := "demo_exchange"
      attributes := [utf8 "subscribe", utf8 "raw"] }⟩⟩,
    ⟨utf8 "output_queue", some ⟨1, {
      routingKey := "out_queue_name"
      queue := "out_queue_name"
      exchange := "demo_exchange"
      attributes := [utf8 "publish", utf8 "raw", utf8 "event"] }⟩⟩]

theorem mqConfiguration_decoded : mqConfiguration.DecodedFrom mqDocument := ⟨0, rfl⟩

theorem mqConfiguration_decoded_filtered : mqConfiguration.DecodedFrom filteredDocument := ⟨0, rfl⟩

def mqRouter : AbstractRabbitMessageRouter :=
  ⟨some ⟨0, { rmqConfiguration := none }⟩, some ⟨0, mqConfiguration⟩⟩

end Th2
