import Th2Common.Factory.Additions
import Th2Common.Lib.Dispatcher

/-! A factory stands for a dispatcher: its routers for desks, the document of the queues
for the book, and the connection for the line. -/

namespace Th2

abbrev Request : Type := (k : RouterKind) × k.Batch × List Bytes

def addresses (d : Deployment) (doc : Document) (r : Request) : Multiset Shipment :=
  ↑((addressed r.1 doc.root r.2.1 r.2.2).map (Route.shipment (r.1.valueToBytes d.protobuf r.2.1)))

def Deployment.Offers (d : Deployment) (book : Request → Multiset Shipment) : Prop :=
  ∃ doc, d.RouterRead doc ∧ book = addresses d doc

def FactoryCall.duty (d : Deployment) : FactoryCall → Dispatcher.Duty RouterKind Request
  | send k number _ op b =>
    .serve k number op.allows ⟨k, b, op.attributes (k.routerClass d.protobuf)⟩
  | _ => .prepare

def resultOf : Except Fault Unit → Dispatcher.Result
  | .ok _ => .done
  | .error (.thrown _) => .thrown
  | .error .nullDereference => .lost

theorem addresses_eq (d : Deployment) {cfg : MessageRouterConfiguration} {doc doc' : Document}
    (h : cfg.DecodedFrom doc) (h' : cfg.DecodedFrom doc') : addresses d doc = addresses d doc' := by
  funext ⟨k, b, attrs⟩
  exact Multiset.coe_eq_coe.mpr (shipments_perm h h' k b attrs _)

theorem addresses_card (d : Deployment) (doc : Document) (k : RouterKind) (b : k.Batch)
    (attrs : List Bytes) :
    (addresses d doc ⟨k, b, attrs⟩).card = (addressed k doc.root b attrs).length := by
  rw [addresses, Multiset.coe_card, List.length_map]

def takenOf (ds : List (Shipment × Int)) : List Shipment :=
  ds.filterMap fun p => if 0 ≤ p.2 then some p.1 else none

def taken (τ : Trace) : List Shipment := takenOf (deliveries τ)

theorem Uneventful.taken_append {υ : Trace} (h : Uneventful υ) (τ : Trace) :
    taken (τ ++ υ) = taken τ := by
  rw [taken, h.deliveries_append, taken]

theorem Shipped.taken_append {amqp : Amqp} {cm : ConnectionManager} {l : List Shipment}
    {out : Except Fault Unit} {υ : Trace} (h : Shipped amqp cm l out υ) (τ : Trace) :
    taken (τ ++ υ) = taken τ ++ taken υ := by
  rw [taken, h.deliveries_append, takenOf, List.filterMap_append]
  rfl

theorem Shipped.accepts {amqp : Amqp} {cm : ConnectionManager} {l : List Shipment}
    {out : Except Fault Unit} {υ : Trace} (h : Shipped amqp cm l out υ) (t : Shipment) :
    (out = .ok () ∧ takenOf (deliveriesFrom t υ) = l) ∨
    ∃ e x rest, out = .error (.thrown e) ∧ l = takenOf (deliveriesFrom t υ) ++ x :: rest := by
  induction h generalizing t with
  | done => exact .inl ⟨rfl, rfl⟩
  | @accepted s l out υ n hn _ ih =>
    have hfirst : takenOf (deliveriesFrom t
        (s.attempt cm (amqp.basicPublish n) ++ s.report cm ++ υ)) =
        s :: takenOf (deliveriesFrom s υ) := by
      rw [List.append_assoc, Shipment.deliveriesFrom_attempt, Shipment.deliveriesFrom_report]
      exact List.filterMap_cons_some (if_pos hn)
    rw [hfirst]
    rcases ih s with ⟨hout, hall⟩ | ⟨e, x, rest, hout, hsome⟩
    · exact .inl ⟨hout, congrArg (s :: ·) hall⟩
    · exact .inr ⟨e, x, rest, hout, congrArg (s :: ·) hsome⟩
  | @refused s l n hn =>
    have hnone : takenOf [(s, amqp.basicPublish n)] = [] :=
      List.filterMap_cons_none (if_neg (Int.not_le.mpr hn))
    exact .inr ⟨_, s, l, rfl, congrArg (· ++ s :: l) hnone.symm⟩

def AbstractRabbitMessageRouter.desk (router : AbstractRabbitMessageRouter) : Desk :=
  if router.connectionManager.isSome then
    if router.messageRouterConfiguration.isSome then .ready else .blind
  else .closed

structure Represents (d : Deployment) (s : Process)
    (a : Dispatcher RouterKind Request Shipment) : Prop where
  unread : s.factory.messageRouterCfg = none → a.book = none
  book : ∀ cfg, s.factory.messageRouterCfg = some cfg →
    ∃ doc, cfg.val.DecodedFrom doc ∧ a.book = some (addresses d doc)
  connected : a.connected = s.factory.rmqConnectionManager.isSome
  desks : ∀ k, a.desks k = (s.heap k).map AbstractRabbitMessageRouter.desk
  sent : a.sent = taken s.trace

namespace Represents
variable {d : Deployment} {s t : Process} {a : Dispatcher RouterKind Request Shipment}

theorem initial (d : Deployment) : Represents d {} {} :=
  ⟨fun _ => rfl, nofun, rfl, fun _ => rfl, rfl⟩

theorem book_isSome (h : Represents d s a) :
    a.book.isSome = s.factory.messageRouterCfg.isSome := by
  rcases hcfg : s.factory.messageRouterCfg with _ | cfg
  · rw [h.unread hcfg]
    rfl
  · obtain ⟨doc, -, hbook⟩ := h.book cfg hcfg
    rw [hbook]
    rfl

theorem newDesk (h : Represents d s a) :
    a.newDesk = (routerOver s.factory.messageRouterCfg s.factory.rmqConnectionManager).desk := by
  rw [Dispatcher.newDesk, h.connected, h.book_isSome]
  cases s.factory.rmqConnectionManager <;> rfl

theorem uneventful (h : Represents d s a) {υ : Trace} (hυ : Uneventful υ) (free : Nat) :
    Represents d { s with free := free, trace := s.trace ++ υ } a :=
  ⟨h.unread, h.book, h.connected, h.desks, h.sent.trans (hυ.taken_append s.trace).symm⟩

theorem dial (h : Represents d s a) {cm : SharedPtr ConnectionManager} {υ : Trace}
    (hdial : Dial d s.factory.rmqCfg s.factory.rmqConnectionManager cm υ) :
    ∃ b, Represents d { s with
        factory := { s.factory with rmqConnectionManager := cm }
        trace := s.trace ++ υ } b ∧
      Dispatcher.Preparing d.Offers a b := by
  have hsent : a.sent = taken (s.trace ++ υ) :=
    h.sent.trans (hdial.uneventful.taken_append s.trace).symm
  have hline := h.connected
  generalize s.factory.rmqConnectionManager = old at hdial hline
  cases hdial with
  | stored cm => exact ⟨a, ⟨h.unread, h.book, hline, h.desks, hsent⟩, .refl⟩
  | unconfigured hrmq hυ => exact ⟨a, ⟨h.unread, h.book, hline, h.desks, hsent⟩, .refl⟩
  | failed n hrmq hbefore hshake => exact ⟨a, ⟨h.unread, h.book, hline, h.desks, hsent⟩, .refl⟩
  | connected n hrmq hbefore hshake hafter hconn hchannel =>
    exact ⟨{ a with connected := true }, ⟨h.unread, h.book, rfl, h.desks, hsent⟩,
      .single (.connect hline)⟩

theorem router (h : Represents d s a) (k : RouterKind) (routers : RouterKind → RouterPtr)
    (free : Nat) :
    ∃ b, Represents d { s with
        factory := { s.factory with routers := routers }
        heap := Function.update s.heap k
          (s.heap k ++ [routerOver s.factory.messageRouterCfg s.factory.rmqConnectionManager])
        free := free } b ∧
      Dispatcher.Preparing d.Offers a b := by
  refine ⟨{ a with desks := Function.update a.desks k (a.desks k ++ [a.newDesk]) },
    ⟨h.unread, h.book, h.connected, fun k' => ?_, h.sent⟩, .single (.desk a k)⟩
  dsimp only
  by_cases hk : k' = k
  · subst hk
    rw [Function.update_self, Function.update_self, h.desks, h.newDesk, List.map_append]
    rfl
  · rw [Function.update_of_ne hk, Function.update_of_ne hk, h.desks]

theorem move (h : Represents d s a) (hmove : Move d s t) :
    ∃ b, Represents d t b ∧ Dispatcher.Preparing d.Offers a b := by
  cases hmove with
  | said free hυ => exact ⟨a, h.uneventful hυ.uneventful free, .refl⟩
  | loadedRmq rmq hnone hread =>
    exact ⟨a, ⟨h.unread, h.book, h.connected, h.desks, h.sent⟩, .refl⟩
  | @loadedRouter cfg doc hnone hread hdoc =>
    refine ⟨{ a with book := some (addresses d doc) }, ⟨nofun, fun cfg' hcfg' => ?_, h.connected,
      h.desks, h.sent⟩, .single (.book (h.unread hnone) ⟨doc, hread, rfl⟩)⟩
    rw [← Option.some.inj hcfg']
    exact ⟨doc, hdoc, rfl⟩
  | @made k free cm υ hnone hdial =>
    obtain ⟨b, hb, hfirst⟩ := h.dial hdial
    obtain ⟨c, hc, hrest⟩ := hb.router k
      (Function.update s.factory.routers k (some (.own (s.heap k).length))) free
    exact ⟨c, hc, hfirst.trans hrest⟩
  | returned k hsome => exact ⟨a, h.uneventful ⟨rfl, rfl⟩ s.free, .refl⟩

theorem reaches (h : Represents d s a) (hreaches : Reaches d s t) :
    ∃ b, Represents d t b ∧ Dispatcher.Preparing d.Offers a b := by
  induction hreaches with
  | refl => exact ⟨a, h, .refl⟩
  | tail _ hmove ih =>
    obtain ⟨b, hb, hfirst⟩ := ih
    obtain ⟨c, hc, hrest⟩ := hb.move hmove
    exact ⟨c, hc, hfirst.trans hrest⟩

theorem desk_getElem? (h : Represents d s a) (k : RouterKind) (number : Nat) :
    (a.desks k)[number]? = (s.heap k)[number]?.map AbstractRabbitMessageRouter.desk := by
  rw [h.desks, List.getElem?_map]

theorem ready (h : Represents d s a) (hshared : Shared s) {k : RouterKind} {number : Nat}
    {router : AbstractRabbitMessageRouter} {cfg : Obj MessageRouterConfiguration}
    (hrouter : (s.heap k)[number]? = some router)
    (hcfg : router.messageRouterConfiguration = some cfg) :
    (a.desks k)[number]? = some .ready ∧
      ∃ doc, cfg.val.DecodedFrom doc ∧ a.book = some (addresses d doc) := by
  have hmem := List.mem_of_getElem? hrouter
  refine ⟨?_, h.book cfg ?_⟩
  · rcases hcm : router.connectionManager with _ | cm
    · rw [hshared.whole k router hmem hcm] at hcfg
      cases hcfg
    · rw [h.desk_getElem?, hrouter, Option.map_some, AbstractRabbitMessageRouter.desk, hcm, hcfg]
      rfl
  · have hfactory := hshared.configuration k router hmem
    rw [hcfg] at hfactory
    exact (hfactory.resolve_left nofun).symm

theorem sending (h : Represents d s a) (hshared : Shared s) {k : RouterKind} {number : Nat}
    {router : AbstractRabbitMessageRouter} {op : Operation} {b : k.Batch}
    {out : Except Fault Unit} {υ : Trace} (hrouter : (s.heap k)[number]? = some router)
    (hsending : Sending d k router op b out υ) :
    ∃ c, Represents d { s with trace := s.trace ++ υ } c ∧
      a.Serves k number op.allows ⟨k, b, op.attributes (k.routerClass d.protobuf)⟩
        (resultOf out) c := by
  have hdesk : (a.desks k)[number]? = some router.desk := by
    rw [h.desk_getElem?, hrouter, Option.map_some]
  cases hsending with
  | nowhere hwhich =>
    refine ⟨a, h.uneventful .nil s.free, .closed hdesk ?_⟩
    unfold AbstractRabbitMessageRouter.desk
    rcases hwhich with hnone | hnone <;> rw [hnone]
    · nofun
    · split <;> nofun
  | misdirected queueAlias hnone =>
    refine ⟨a, h.uneventful ⟨rfl, rfl⟩ s.free, .closed hdesk ?_⟩
    rw [AbstractRabbitMessageRouter.desk, hnone]
    nofun
  | @refused cfg doc e hcfg hdoc hallows =>
    obtain ⟨hready, doc', hdoc', hbook⟩ := h.ready hshared hrouter hcfg
    refine ⟨a, h.uneventful .nil s.free, .declined hready hbook ?_⟩
    rwa [addresses_eq d hdoc' hdoc, addresses_card]
  | @shipped cm cfg doc rs out υ hcm hcfg hdoc hroutes hallows hshipped =>
    obtain ⟨hready, doc', hdoc', hbook⟩ := h.ready hshared hrouter hcfg
    rw [addresses_eq d hdoc' hdoc] at hbook
    have hletters : ((rs.map (Route.shipment (k.valueToBytes d.protobuf b)) : List Shipment) :
        Multiset Shipment) = addresses d doc ⟨k, b, op.attributes (k.routerClass d.protobuf)⟩ :=
      Multiset.coe_eq_coe.mpr (hroutes.map _)
    have hadmits : op.allows (addresses d doc
        ⟨k, b, op.attributes (k.routerClass d.protobuf)⟩).card = true := by
      rwa [addresses_card, ← hroutes.length_eq]
    have hsent : a.sent ++ taken υ = taken (s.trace ++ υ) := by
      rw [h.sent, hshipped.taken_append]
    refine ⟨{ a with sent := a.sent ++ taken υ },
      ⟨h.unread, h.book, h.connected, h.desks, hsent⟩, ?_⟩
    rcases hshipped.accepts ⟨[], [], [], []⟩ with ⟨rfl, hall⟩ | ⟨e, x, rest, rfl, hsome⟩
    · exact .done hready hbook hadmits ((congrArg _ hall).trans hletters)
    · exact .broken hready hbook hadmits ((congrArg _ hsome.symm).trans hletters)

theorem effect (h : Represents d s a) (hshared : Shared s) {call : FactoryCall}
    {out : Except Fault Unit} (heffect : call.Effect d s out t) :
    ∃ b, Represents d t b ∧ Dispatcher.Performs d.Offers (call.duty d) a (resultOf out) b := by
  cases call with
  | init order => exact h.reaches heffect
  | initWith routers =>
    rcases heffect with ht | ⟨u, hu, ht⟩
    · exact h.reaches ht
    · obtain ⟨b, hb, hfirst⟩ := h.reaches hu
      have hreplaced : Represents d (u.withRouters routers) b :=
        ⟨hb.unread, hb.book, hb.connected, hb.desks, hb.sent⟩
      obtain ⟨c, hc, hrest⟩ := hreplaced.reaches ht
      exact ⟨c, hc, hfirst.trans hrest⟩
  | getter k => exact h.reaches heffect
  | send k number order op b =>
    obtain ⟨router, hrouter, υ, hsending, rfl⟩ | ⟨hmissing, rfl, rfl⟩ := heffect
    · exact h.sending hshared hrouter hsending
    · refine ⟨a, h, .missing ?_⟩
      rw [h.desk_getElem?, hmissing, Option.map_none]

end Represents

end Th2
