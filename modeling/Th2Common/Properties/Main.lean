import Th2Common.Factory.Main
import Th2Common.Properties.Endpoints
import Th2Common.Properties.Growth
import Th2Common.Properties.Starting

/-! The whole program: from the command line and the two files to what the broker has
accepted when it ends. -/

namespace Th2
open Text AbstractCommonFactory

def RouterKind.sendAttributes (k : RouterKind) : List Bytes :=
  (k.routerClass .reference).requiredSendAttributes

structure Parcel where
  kind : RouterKind
  batch : kind.Batch
  sendable : kind.Sendable batch
  small : (kind.encoding batch).length ≤ INT_MAX

def Parcel.round (j : Json) (p : Parcel) : Option Shipment :=
  match matching j p.kind.sendAttributes with
  | [r] => some (r.shipment (p.kind.encoding p.batch))
  | _ => none

def rounds (j : Json) : List Parcel → List Shipment
  | [] => []
  | p :: ps =>
    match p.round j with
    | some s => s :: rounds j ps
    | none => []

structure Block where
  kind : RouterKind
  batch : Nat → kind.Batch
  sendable : ∀ i, kind.Sendable (batch i)
  small : ∀ i, (kind.encoding (batch i)).length ≤ INT_MAX

def Block.parcel (b : Block) (i : Nat) : Parcel := ⟨b.kind, b.batch i, b.sendable i, b.small i⟩

def Block.parcels (b : Block) : List Parcel := (List.range Main.batchTotal).map b.parcel

namespace Main

theorem metadata_cases (o : WalkOrder Unit) :
    metadata o = metadata (.stored Unit) ∨ metadata o = metadata (.backward Unit) := by
  have hpair := properties.arranged_pair rfl o ()
  exact hpair.imp (congrArg fun p => { metadata o with properties := p })
    (congrArg fun p => { metadata o with properties := p })

theorem length_rawBatch (o : WalkOrder Unit) :
    (RouterKind.encoding .rawBatch (rawBatch o)).length ≤ INT_MAX := by
  unfold rawBatch
  rcases metadata_cases o with h | h <;> rw [h] <;> decide

theorem length_groupBatch (o : WalkOrder Unit) :
    (RouterKind.encoding .groupBatch (groupBatch o)).length ≤ INT_MAX := by
  unfold groupBatch
  rcases metadata_cases o with h | h <;> rw [h] <;> decide

def rawBlock (build : Build) : Block where
  kind := .rawBatch
  batch i := rawBatch (build.entries .rawBatch i)
  sendable _ := List.cons_ne_nil _ _
  small _ := length_rawBatch _

def eventBlock : Block where
  kind := .eventBatch
  batch _ := eventBatch
  sendable _ := trivial
  small _ := by decide

def groupBlock (build : Build) : Block where
  kind := .groupBatch
  batch i := groupBatch (build.entries .groupBatch i)
  sendable _ := List.cons_ne_nil _ _
  small _ := length_groupBatch _

def plan (build : Build) : List Parcel :=
  (rawBlock build).parcels ++ eventBlock.parcels ++ (groupBlock build).parcels

end Main

theorem rounds_append {j : Json} {done rest : List Parcel} {l : List Shipment}
    (h : done.map (Parcel.round j) = l.map some) :
    rounds j (done ++ rest) = l ++ rounds j rest := by
  induction done generalizing l with
  | nil =>
    obtain rfl := List.map_eq_nil_iff.mp h.symm
    rfl
  | cons p done ih =>
    obtain ⟨s, l', rfl, hs, hl⟩ := List.map_eq_cons_iff.mp h.symm
    rw [List.cons_append, rounds, ← hs]
    simp only [List.cons_append, ih hl.symm]

theorem Operation.send_attributes (pb : Protobuf) (k : RouterKind) :
    Operation.send.attributes (k.routerClass pb) = k.sendAttributes := by
  cases k <;> rfl

structure Progress (doc : Document) (cm : Obj ConnectionManager) (cfg : Obj MessageRouterConfiguration)
    (done : List Parcel) (s : Process) : Prop where
  idle : Idle cm cfg s
  decoded : cfg.val.DecodedFrom doc
  sent : done.map (Parcel.round doc.root) = ((deliveries s.trace).map Prod.fst).map some
  accepted : ∀ x ∈ deliveries s.trace, 0 ≤ x.2

structure Halted (amqp : Amqp) (doc : Document) (cfg : Obj MessageRouterConfiguration)
    (plan : List Parcel) (e : Fault) (s : Process) : Prop where
  catchable : isFatal (Except.error e : Except Fault Unit) = false
  configuration : s.factory.messageRouterCfg = some cfg
  sent : (deliveries s.trace).map Prod.fst <+: rounds doc.root plan
  accepted : ∀ x ∈ (deliveries s.trace).dropLast, 0 ≤ x.2
  unfinished : ¬((deliveries s.trace).length = plan.length ∧ ∀ x ∈ deliveries s.trace, 0 ≤ x.2)
  reason : (∃ p ∈ plan, p.round doc.root = none) ∨ ∃ n, amqp.basicPublish n < 0

namespace Progress
variable {doc : Document} {cm : Obj ConnectionManager} {cfg : Obj MessageRouterConfiguration}
  {done : List Parcel} {s : Process}

theorem length_eq (h : Progress doc cm cfg done s) : (deliveries s.trace).length = done.length := by
  have hlen := congrArg List.length h.sent
  rw [List.length_map, List.length_map, List.length_map] at hlen
  exact hlen.symm

theorem output (h : Progress doc cm cfg done s) {υ : Trace} (hυ : Chatter υ) :
    Progress doc cm cfg done { s with trace := s.trace ++ υ } := by
  have hnone : deliveries (s.trace ++ υ) = deliveries s.trace := hυ.uneventful.deliveries_append _
  refine ⟨h.idle.quiet hυ.output.gotRouters s.free, h.decoded, ?_, ?_⟩
  · rw [hnone]
    exact h.sent
  · rw [hnone]
    exact h.accepted

section
variable {p : Parcel} {rest plan : List Parcel} {x : Shipment × Int} {υ : Trace} {amqp : Amqp}
  {e : Fault}

theorem rounds_eq (h : Progress doc cm cfg done s) (hplan : plan = done ++ p :: rest) :
    rounds doc.root plan = (deliveries s.trace).map Prod.fst ++ rounds doc.root (p :: rest) := by
  rw [hplan, rounds_append h.sent]

theorem extend (h : Progress doc cm cfg done s) (hround : p.round doc.root = some x.1)
    (hx : 0 ≤ x.2) (hυ : gotRouters υ = [])
    (hdeliveries : deliveries (s.trace ++ υ) = deliveries s.trace ++ [x]) :
    Progress doc cm cfg (done ++ [p]) { s with trace := s.trace ++ υ } := by
  refine ⟨h.idle.quiet hυ s.free, h.decoded, ?_, ?_⟩
  · rw [hdeliveries, List.map_append, List.map_append, List.map_append, ← h.sent,
      List.map_singleton, hround]
    rfl
  · rw [hdeliveries]
    intro y hy
    rcases List.mem_append.mp hy with hy | hy
    · exact h.accepted y hy
    · rwa [List.mem_singleton.mp hy]

theorem halted_refused (h : Progress doc cm cfg done s) (hplan : plan = done ++ p :: rest)
    (hround : p.round doc.root = some x.1) (hx : x.2 < 0)
    (hdeliveries : deliveries (s.trace ++ υ) = deliveries s.trace ++ [x])
    (he : isFatal (Except.error e : Except Fault Unit) = false)
    (hreason : ∃ n, amqp.basicPublish n < 0) :
    Halted amqp doc cfg plan e { s with trace := s.trace ++ υ } := by
  refine ⟨he, h.idle.configuration, ?_, ?_, ?_, .inr hreason⟩
  · rw [hdeliveries, h.rounds_eq hplan, List.map_append, rounds, hround]
    exact List.prefix_append_right_inj _ |>.mpr (List.prefix_append [_] _)
  · rw [hdeliveries, List.dropLast_concat]
    exact h.accepted
  · rw [hdeliveries]
    rintro ⟨-, hall⟩
    have hlast := hall _ (List.mem_append_right _ List.mem_cons_self)
    exact absurd hlast (Int.not_le.mpr hx)

theorem halted_unrouted (h : Progress doc cm cfg done s) (hplan : plan = done ++ p :: rest)
    (hround : p.round doc.root = none)
    (he : isFatal (Except.error e : Except Fault Unit) = false) :
    Halted amqp doc cfg plan e s := by
  have hmem : p ∈ plan := by
    rw [hplan]
    exact List.mem_append_right _ List.mem_cons_self
  have hshort : (deliveries s.trace).length ≠ plan.length := by
    rw [h.length_eq, hplan, List.length_append, List.length_cons]
    omega
  refine ⟨he, h.idle.configuration, ?_, ?_, fun hfull => hshort hfull.1, .inl ⟨p, hmem, hround⟩⟩
  · rw [h.rounds_eq hplan]
    exact List.prefix_append _ _
  · exact fun x hx => h.accepted x (List.dropLast_subset _ hx)

end

end Progress

section
variable {d : Deployment} {doc : Document} {cm : Obj ConnectionManager}
  {cfg : Obj MessageRouterConfiguration} {done rest plan : List Parcel}
  (walks : Nat → WalkOrder Walk)

theorem exec_sendThrough {s : Process} {k : RouterKind} {router : AbstractRabbitMessageRouter}
    (h : s.heap k = [router]) (b : k.Batch) :
    (sendThrough d walks k (some (.own 0)) b).exec s =
      (act (Operation.send.perform (k.routerClass d.protobuf)
        ⟨d.amqp, walks s.trace.length⟩ router b)).exec s := by
  have hderef : (Prog.lift (deref (s.heap k)[0]?) : Method _).exec s = (.ok router, s) := by
    rw [h]
    rfl
  unfold sendThrough FactoryCall.perform
  rw [Prog.exec_bind_ok (Prog.exec_read s), Prog.exec_bind_ok (Prog.exec_read s),
    Prog.exec_bind_ok hderef]

theorem Shipped.single {amqp : Amqp} {cm : ConnectionManager} {s : Shipment}
    {out : Except Fault Unit} {υ : Trace} (h : Shipped amqp cm [s] out υ) :
    ∃ n, deliveries υ = [(s, amqp.basicPublish n)] ∧
      ((0 ≤ amqp.basicPublish n ∧ out = .ok ()) ∨
        (amqp.basicPublish n < 0 ∧ ∃ x, out = .error (.thrown x))) := by
  cases h with
  | accepted n hn hdone =>
    cases hdone
    refine ⟨_, ?_, .inl ⟨hn, rfl⟩⟩
    rw [deliveries, List.append_assoc, Shipment.deliveriesFrom_attempt,
      Shipment.deliveriesFrom_report]
    rfl
  | refused n hn => exact ⟨_, rfl, .inr ⟨hn, _, rfl⟩⟩

theorem sends (p : Parcel) (hplan : plan = done ++ p :: rest) :
    Prog.Triple
      (fun s => Progress doc cm cfg done s ∧ s.factory.routers p.kind = some (.own 0))
      (sendThrough d walks p.kind (some (.own 0)) p.batch)
      (fun _ s => Progress doc cm cfg (done ++ [p]) s ∧
        s.factory.routers p.kind = some (.own 0))
      (Halted d.amqp doc cfg plan) := by
  rintro s ⟨h, hrouter⟩
  have hbytes : p.kind.valueToBytes d.protobuf p.batch = p.kind.encoding p.batch :=
    (RouterKind.valueToBytes_eq_encoding_iff d.protobuf p.kind p.batch).mpr p.small
  have haddressed : addressed p.kind doc.root p.batch
      (Operation.send.attributes (p.kind.routerClass d.protobuf)) =
      matching doc.root p.kind.sendAttributes := by
    rw [Operation.send_attributes, addressed, if_pos p.sendable]
  rw [exec_sendThrough walks (h.idle.heap_of_stored hrouter), exec_act]
  obtain ⟨rs, hrs, ⟨hallows, out, υ, hrun, hshipped⟩ | ⟨hnot, hrun⟩⟩ :=
    perform_shipped d.protobuf cm h.decoded ⟨d.amqp, walks s.trace.length⟩ .send p.batch s.trace
  · rw [haddressed] at hrs
    obtain ⟨r, rfl⟩ := List.length_eq_one_iff.mp (of_decide_eq_true hallows)
    have hround : p.round doc.root = some (r.shipment (p.kind.encoding p.batch)) := by
      rw [Parcel.round, ← List.singleton_perm.mp hrs]
    rw [hbytes, List.map_singleton] at hshipped
    rw [hrun]
    obtain ⟨n, hone, hres⟩ := hshipped.single
    have hdeliveries : deliveries (s.trace ++ υ) = deliveries s.trace ++
        [(r.shipment (p.kind.encoding p.batch), d.amqp.basicPublish n)] := by
      rw [hshipped.deliveries_append, hone]
    rcases hres with ⟨hres, rfl⟩ | ⟨hres, x, rfl⟩
    · exact ⟨h.extend hround hres hshipped.gotRouters hdeliveries, hrouter⟩
    · exact h.halted_refused hplan hround hres hdeliveries rfl ⟨n, hres⟩
  · have hnone : p.round doc.root = none := by
      rw [haddressed] at hrs
      rw [hrs.length_eq] at hnot
      unfold Parcel.round
      split
      · next r hr =>
        rw [hr] at hnot
        cases hnot
      · rfl
    rw [hrun]
    exact h.halted_unrouted hplan hnone rfl

theorem progress_output {p : Prog Trace Fault Unit} {υ : Trace} (hυ : Chatter υ)
    (hp : ∀ τ, p.exec τ = (.ok (), τ ++ υ)) (R : Process → Prop)
    (hR : ∀ s : Process, R s → R { s with trace := s.trace ++ υ }) :
    Prog.Triple (fun s => Progress doc cm cfg done s ∧ R s) (act p)
      (fun _ s => Progress doc cm cfg done s ∧ R s) (Halted d.amqp doc cfg plan) := by
  rintro s ⟨h, hr⟩
  rw [exec_act, hp]
  exact ⟨h.output hυ, hR s hr⟩

theorem sends_loop (block : Block) (text : Bytes) {c : UInt8} (hc : c ≠ 69) (is : List Nat)
    (done : List Parcel) (hplan : plan = done ++ (is.map block.parcel ++ rest)) :
    Prog.Triple
      (fun s => Progress doc cm cfg done s ∧ s.factory.routers block.kind = some (.own 0))
      (Prog.forEach is fun i => do
        sendThrough d walks block.kind (some (.own 0)) (block.batch i)
        act (ConnectionManager.logDebug (c :: text)))
      (fun _ s => Progress doc cm cfg (done ++ is.map block.parcel) s ∧
        s.factory.routers block.kind = some (.own 0))
      (Halted d.amqp doc cfg plan) := by
  induction is generalizing done with
  | nil =>
    intro s h
    rwa [List.map_nil, List.append_nil]
  | cons i is ih =>
    rw [Prog.forEach_cons]
    have hfirst : plan = done ++ block.parcel i :: (is.map block.parcel ++ rest) := hplan
    have hrest : plan = done ++ [block.parcel i] ++ (is.map block.parcel ++ rest) := by
      rw [hfirst, List.append_assoc]
      rfl
    have hloop := ih (done ++ [block.parcel i]) hrest
    rw [List.append_assoc, List.singleton_append] at hloop
    exact Prog.triple_bind (Prog.triple_bind (sends walks (block.parcel i) hfirst) fun _ =>
      progress_output (.single (isChatter_log hc text)) (fun _ => rfl) _ fun _ h => h) fun _ => hloop

theorem progress_getter (d : Deployment) (k : RouterKind) {s : Process} (h : Progress doc cm cfg done s) :
    ∃ t, (getter d k).exec s = (.ok (some (.own 0)), t) ∧ Progress doc cm cfg done t ∧
      t.factory.routers k = some (.own 0) := by
  obtain ⟨t, hrun, hreaches, hstored⟩ := h.idle.exec_getter d k
  obtain ⟨υ, hυ, huneventful⟩ := hreaches.uneventful
  have hnone : deliveries t.trace = deliveries s.trace := by
    rw [hυ, huneventful.deliveries_append]
  refine ⟨t, hrun, ⟨h.idle.reaches hreaches, h.decoded, ?_, ?_⟩, hstored⟩
  · rw [hnone]
    exact h.sent
  · rw [hnone]
    exact h.accepted

theorem sends_batches (block : Block) (headline : Bytes) {b c : UInt8} (hb : b ≠ 69) (hc : c ≠ 69)
    (got sent : Bytes) (hplan : plan = done ++ (block.parcels ++ rest)) :
    Prog.Triple (Progress doc cm cfg done)
      (sendBatches d walks block.kind block.batch headline (b :: got) (c :: sent))
      (fun _ => Progress doc cm cfg (done ++ block.parcels))
      (Halted d.amqp doc cfg plan) := by
  unfold sendBatches
  refine Prog.triple_bind (Q := fun _ => Progress doc cm cfg done)
    (fun s h => h.output (.single rfl)) fun _ => ?_
  refine Prog.triple_bind (Q := fun router s => router = some (.own 0) ∧
    Progress doc cm cfg done s ∧ s.factory.routers block.kind = some (.own 0)) ?_ fun router => ?_
  · intro s h
    obtain ⟨t, hrun, hprogress, hstored⟩ := progress_getter d block.kind h
    rw [hrun]
    exact ⟨rfl, hprogress, hstored⟩
  · rintro s ⟨rfl, h⟩
    refine Prog.triple_bind (progress_output (.single (isChatter_log hb got)) (fun _ => rfl)
      (fun s => s.factory.routers block.kind = some (.own 0)) fun _ h => h) (fun _ => ?_) s h
    exact (sends_loop walks block sent hc (List.range Main.batchTotal) done hplan).conseq
      (fun _ h => h) (fun _ _ ht => ht.1) fun _ _ h => h

end

theorem before_sending {d : Deployment} {τ : Trace} (hτ : Chatter τ) {t : Process}
    (h : Reaches d { trace := τ } t) : deliveries t.trace = [] ∧ Endpoints d t := by
  have hstart : Reaches d {} { trace := τ } := .single (.said {} 0 hτ)
  obtain ⟨υ, hυ, huneventful⟩ := Reaches.uneventful (hstart.trans h)
  refine ⟨?_, ((Endpoints.invariant d []).reaches (Endpoints.invariant d []).initial
    (hstart.trans h)).2⟩
  rw [hυ]
  exact huneventful.deliveries_append []

theorem sends_plan (d : Deployment) (build : Build) (doc : Document)
    (cm : Obj ConnectionManager) (cfg : Obj MessageRouterConfiguration) :
    Prog.Triple (Progress doc cm cfg []) (afterInit d build)
      (fun _ => Progress doc cm cfg (Main.plan build)) (Halted d.amqp doc cfg (Main.plan build)) := by
  refine Prog.triple_bind (Q := fun _ => Progress doc cm cfg []) (fun s h => h.output (.single rfl))
    fun _ => ?_
  refine Prog.triple_bind (sends_batches build.walks (Main.rawBlock build) _ (by decide) (by decide)
    _ _ (by rw [Main.plan, List.append_assoc]; rfl)) fun _ => ?_
  refine Prog.triple_bind (sends_batches build.walks Main.eventBlock _ (by decide) (by decide)
    _ _ (by rw [Main.plan, List.append_assoc]; rfl)) fun _ => ?_
  have hlast : Main.plan build = (Main.rawBlock build).parcels ++ Main.eventBlock.parcels ++
      ((Main.groupBlock build).parcels ++ []) := by
    rw [Main.plan, List.append_nil]
  refine Prog.triple_bind (sends_batches build.walks (Main.groupBlock build) _ (by decide)
    (by decide) _ _ hlast) fun _ => ?_
  exact Prog.triple_bind (Q := fun _ => Progress doc cm cfg (Main.plan build))
    (fun s h => h.output (.single rfl)) fun _ s h => h.output (.single rfl)

/-- Some of the thirty rounds were done, in order; all but the last were accepted, and the
program returns when all were done and accepted. -/
structure Delivers (build : Build) (doc : Document) (out : Except Fault Unit) (s : Process) : Prop where
  sent : (deliveries s.trace).map Prod.fst <+: rounds doc.root (Main.plan build)
  accepted : ∀ x ∈ (deliveries s.trace).dropLast, 0 ≤ x.2
  returns : out = .ok () ↔ (deliveries s.trace).length = 30 ∧ ∀ x ∈ deliveries s.trace, 0 ≤ x.2

theorem Delivers.nothing {build : Build} {doc : Document} {e : Fault} {s : Process}
    (h : deliveries s.trace = []) : Delivers build doc (.error e) s := by
  refine ⟨?_, ?_, iff_of_false nofun ?_⟩
  · rw [h]
    exact List.nil_prefix
  · rw [h]
    exact fun x hx => absurd hx List.not_mem_nil
  · rw [h]
    exact fun hfull => absurd hfull.1 (by decide)

theorem Progress.delivers {build : Build} {doc : Document} {cm : Obj ConnectionManager}
    {cfg : Obj MessageRouterConfiguration} {s : Process}
    (h : Progress doc cm cfg (Main.plan build) s) : Delivers build doc (.ok ()) s := by
  refine ⟨?_, fun x hx => h.accepted x (List.dropLast_subset _ hx),
    iff_of_true rfl ⟨h.length_eq, h.accepted⟩⟩
  have hall : rounds doc.root (Main.plan build ++ []) = _ := rounds_append h.sent
  rw [List.append_nil] at hall
  rw [hall]
  exact List.prefix_append _ _

theorem Halted.delivers {build : Build} {amqp : Amqp} {doc : Document}
    {cfg : Obj MessageRouterConfiguration} {e : Fault} {s : Process}
    (h : Halted amqp doc cfg (Main.plan build) e s) : Delivers build doc (.error e) s :=
  ⟨h.sent, h.accepted, iff_of_false nofun h.unfinished⟩

section
variable (m : Machine) (build : Build) (argv : List Bytes)

theorem exec_main : ∃ τ, Chatter τ ∧ (main m build argv).exec {} =
    (Prog.lift (CommonFactory.chosen m argv) >>= fun factory =>
      act (ConnectionManager.logInfo (utf8 "auto factory is initialized. argc = " ++
        decimal argv.length)) >>= fun _ =>
      init (factory.deployment m) build.order >>= fun _ =>
      afterInit (factory.deployment m) build).exec { trace := τ } := by
  let start : Trace := [.log .info (utf8 "---start main()---\nBuild time: " ++ build.banner)]
  obtain ⟨υ, hcreate, hchatter⟩ := exec_createFactory m argv start
  have hfactory : (act (createFactory m argv)).exec { trace := start } =
      (CommonFactory.chosen m argv, { trace := start ++ υ }) := by
    rw [exec_act, hcreate]
  have hlift : (Prog.lift (CommonFactory.chosen m argv) : Method CommonFactory).exec
      { trace := start ++ υ } = (CommonFactory.chosen m argv, { trace := start ++ υ }) :=
    Prog.exec_lift _ _
  have hbegin : (main m build argv).exec {} = (act (createFactory m argv) >>= fun factory =>
      act (ConnectionManager.logInfo (utf8 "auto factory is initialized. argc = " ++
        decimal argv.length)) >>= fun _ =>
      init (factory.deployment m) build.order >>= fun _ =>
      afterInit (factory.deployment m) build).exec { trace := start } := rfl
  refine ⟨start ++ υ, (Chatter.single rfl).append hchatter, ?_⟩
  rw [hbegin, Prog.exec_bind, Prog.exec_bind, hfactory, hlift]

theorem exec_main_chosen {factory : CommonFactory} (h : CommonFactory.chosen m argv = .ok factory) :
    ∃ τ, Chatter τ ∧ (main m build argv).exec {} =
      (init (factory.deployment m) build.order >>= fun _ =>
        afterInit (factory.deployment m) build).exec { trace := τ } := by
  obtain ⟨τ, hτ, hmain⟩ := exec_main m build argv
  rw [h, Prog.exec_bind_ok (Prog.exec_lift _ _)] at hmain
  exact ⟨_, hτ.append (.single rfl), hmain⟩

end

theorem afterInit_of_idle {d : Deployment} {cm : Obj ConnectionManager}
    {cfg : Obj MessageRouterConfiguration} {t : Process} (h : Idle cm cfg t)
    (hnone : deliveries t.trace = []) (hendpoints : Endpoints d t) (build : Build) :
    ∃ doc, d.RouterRead doc ∧ cfg.val.DecodedFrom doc ∧
      Prog.Ends (fun _ => Progress doc cm cfg (Main.plan build))
        (Halted d.amqp doc cfg (Main.plan build)) ((afterInit d build).exec t) := by
  obtain ⟨doc, hread, hdoc⟩ := hendpoints.routerRead cfg h.configuration
  refine ⟨doc, hread, hdoc, sends_plan d build doc cm cfg t ⟨h, hdoc, ?_, ?_⟩⟩
  · rw [hnone]
    rfl
  · rw [hnone]
    exact fun x hx => absurd hx List.not_mem_nil

/-- Nothing else stops the program: with files that can be read, a document that has one
queue for each of the three kinds, and a broker that refuses nothing, it returns. -/
theorem main_returns (m : Machine) (build : Build) (argv : List Bytes) {factory : CommonFactory}
    (hchosen : CommonFactory.chosen m argv = .ok factory) (hd : Accepting (factory.deployment m))
    (hqueues : ∀ doc, (factory.deployment m).RouterRead doc → ∀ p ∈ Main.plan build,
      p.round doc.root ≠ none)
    (haccept : ∀ n, 0 ≤ m.amqp.basicPublish n) :
    ((main m build argv).exec {}).1 = .ok () := by
  obtain ⟨τ, hτ, hmain⟩ := exec_main_chosen m build argv hchosen
  obtain ⟨out, t, hinit, -, hidle, hok⟩ :=
    exec_init_fresh (factory.deployment m) build.order hτ.output.gotRouters
  obtain rfl := hok hd
  have hreaches : Reaches (factory.deployment m) { trace := τ } t := by
    have hend := FactoryCall.effect_of_ends (P := Reaches (factory.deployment m) { trace := τ })
      (reaches_init (factory.deployment m) build.order _ .refl)
    rwa [hinit] at hend
  obtain ⟨hnone, hendpoints⟩ := before_sending hτ hreaches
  obtain ⟨cm, cfg, hidle⟩ := hidle rfl
  obtain ⟨doc, hread, -, hplan⟩ := afterInit_of_idle hidle hnone hendpoints build
  rw [hmain, Prog.exec_bind_ok hinit]
  rcases hend : (afterInit (factory.deployment m) build).exec t with ⟨e | ⟨⟩, s⟩ <;>
    rw [hend] at hplan
  · rcases hplan.reason with ⟨p, hp, hround⟩ | ⟨n, hn⟩
    · exact absurd hround (hqueues doc hread p hp)
    · exact absurd (haccept n) (Int.not_le.mpr hn)

def installed : Machine where
  env := accepted.env
  amqp := .accepting
  protobuf := .reference
  files _ path :=
    if path = CommonFactory.byDefault.rabbitMQ then some (rabbitMqText "rabbitmq")
    else if path = CommonFactory.byDefault.routerMQ then some mqText
    else none
  nowhere _ := rfl
  address := accepted.address
  options := { parse := fun _ => .ok fun _ => none, given := fun h name => by cases h; nofun }

def anyBuild : Build :=
  ⟨.leftToRight, fun _ => .backward Walk, fun _ _ => .backward Unit, "Jul  7 2021 13:41:20"⟩

theorem installed_rmqFile (n : Nat) :
    (CommonFactory.byDefault.deployment installed).rmqFile n = accepted.rmqFile n := rfl

theorem installed_routerFile (n : Nat) :
    (CommonFactory.byDefault.deployment installed).routerFile n = accepted.routerFile n := rfl

theorem installed_routerRead {doc : Document}
    (h : (CommonFactory.byDefault.deployment installed).RouterRead doc) : doc = mqDocument := by
  obtain ⟨n, text, hfile, hparse⟩ := h
  have hne : ¬rabbitMqText "rabbitmq" = mqText := by decide
  have hdoc : accepted.env.parse mqText = .ok mqDocument := by
    simp [accepted, refusedOnce, Environment.ofFiles, hne]
  rw [installed_routerFile] at hfile
  have htext : text = mqText := (Option.some.inj hfile).symm
  have hsame : accepted.env.parse text = .ok doc := hparse
  rw [htext, hdoc] at hsame
  exact (Except.ok.inj hsame).symm

theorem main_returns_installed :
    ((main installed anyBuild [utf8 "th2-common"]).exec {}).1 = .ok () := by
  have hchosen : CommonFactory.chosen installed [utf8 "th2-common"] = .ok .byDefault := rfl
  have hd : Accepting (CommonFactory.byDefault.deployment installed) := by
    refine ⟨fun n => ?_, fun n => ?_, accepted_accepting.broker⟩
    · rw [installed_rmqFile]
      exact accepted_accepting.rmqFile n
    · rw [installed_routerFile]
      exact accepted_accepting.routerFile n
  refine main_returns installed anyBuild [utf8 "th2-common"] hchosen hd (fun doc hread p hp => ?_)
    fun _ => Int.le_refl 0
  rw [installed_routerRead hread]
  simp only [Main.plan, List.mem_append, Block.parcels, List.mem_map] at hp
  rcases hp with (⟨i, -, rfl⟩ | ⟨i, -, rfl⟩) | ⟨i, -, rfl⟩
  · exact Option.some_ne_none _
  · exact Option.some_ne_none _
  · exact Option.some_ne_none _

end Th2
