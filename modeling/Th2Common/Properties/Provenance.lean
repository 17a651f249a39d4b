import Th2Common.Properties.Mailboxes

/-! Every frame of a run was asked for by one of its calls, and the log reports the
publishes that were accepted and no others. -/

namespace Th2
open Text

def FactoryCall.Asks (d : Deployment) (doc : Document) (a : Bytes) (frame : PublishFrame) :
    FactoryCall → Prop
  | send k _ _ op b =>
    (∃ r ∈ addressed k doc.root b (op.attributes (k.routerClass d.protobuf)),
      r.queueAlias = a ∧ frame.exchange = cString r.exchange ∧ frame.routingKey = cString r.name) ∧
    frame.body = k.valueToBytes d.protobuf b ∧
    (k.keyed b = true → (k.encoding b).length ≤ INT_MAX → k.readBack frame.body = some b)
  | _ => False

theorem Adds.asks {d : Deployment} {doc : Document} {call : FactoryCall} {out : Except Fault Unit}
    {υ : Trace} (h : Adds d doc call out υ) {a : Bytes} {p : Bytes × PublishFrame}
    (hp : p ∈ framesFrom a υ) : call.Asks d doc p.1 p.2 := by
  cases h with
  | nothing h hreturned =>
    rw [h.no_frames] at hp
    cases hp
  | @rounds k number order op b cm l out υ hl hallows h =>
    obtain ⟨s, hs, rfl⟩ := h.mem_framesFrom hp
    obtain ⟨r, hr, rfl⟩ := List.mem_map.mp (hl.mem_iff.mp hs)
    exact ⟨⟨r, hr, rfl, rfl, rfl⟩, rfl,
      fun hkeyed hlen => (readBack_valueToBytes_iff d.protobuf k b hkeyed).mpr hlen⟩

/-- No frame goes out, accepted or not, that no call of the run has asked for. -/
theorem frames_asked_for (d : Deployment) (calls : List FactoryCall) :
    Unsent (({} : Process).run d calls) ∧ ∃ doc : Document,
      (∀ cfg, (({} : Process).run d calls).factory.messageRouterCfg = some cfg →
        cfg.val.DecodedFrom doc) ∧
      ∀ p ∈ framesFrom [] (({} : Process).run d calls).trace,
        ∃ call ∈ calls, call.Asks d doc p.1 p.2 := by
  obtain ⟨doc, hdoc, hrun⟩ := Process.run_adds d calls
  refine ⟨Process.unsent_run d calls, doc, hdoc, ?_⟩
  refine hrun.keeps (I := fun s => ∀ p ∈ framesFrom [] s.trace, ∃ call ∈ calls,
    call.Asks d doc p.1 p.2) ?_ fun p hp => absurd hp List.not_mem_nil
  rintro call hcall s out t hs ⟨υ, hυ, hadds⟩ p hp
  rw [hυ] at hp
  rcases mem_framesFrom_append hp with hp | ⟨a, hp⟩
  · exact hs p hp
  · exact ⟨call, hcall, hadds.asks hp⟩

def acceptedReports (ds : List (Shipment × Int)) : List Bytes :=
  ds.filterMap fun p => if 0 ≤ p.2 then
    some (ConnectionManager.publishMessage p.1.exchange p.1.routingKey p.1.message) else none

theorem acceptedReports_append (ds es : List (Shipment × Int)) :
    acceptedReports (ds ++ es) = acceptedReports ds ++ acceptedReports es := List.filterMap_append

theorem isPrefixOf_publishMessage (exchange routingKey message : Bytes) :
    reportPrefix.isPrefixOf (ConnectionManager.publishMessage exchange routingKey message) = true := by
  rw [List.isPrefixOf_iff_prefix]
  unfold ConnectionManager.publishMessage
  simp only [List.append_assoc]
  exact List.prefix_append _ _

theorem Shipment.reports_report (cm : ConnectionManager) (s : Shipment) :
    reports (s.report cm) =
      [ConnectionManager.publishMessage s.exchange s.routingKey s.message] := by
  have hfirst : reports [.log .debug
      (ConnectionManager.publishMessage s.exchange s.routingKey s.message)] =
      [ConnectionManager.publishMessage s.exchange s.routingKey s.message] :=
    List.filterMap_cons_some (if_pos (isPrefixOf_publishMessage _ _ _))
  have hrest : reports (if cm.debug then [.stdout (ConnectionManager.publishMessage s.exchange
      s.routingKey s.message ++ utf8 "\n")] else []) = [] := by
    split <;> rfl
  rw [Shipment.report, ConnectionManager.publishReport, ← List.singleton_append, reports_append,
    hfirst, hrest, List.append_nil]

theorem Shipped.reports {amqp : Amqp} {cm : ConnectionManager} {l : List Shipment}
    {out : Except Fault Unit} {υ : Trace} (h : Shipped amqp cm l out υ) (t : Shipment) :
    Th2.reports υ = acceptedReports (deliveriesFrom t υ) := by
  induction h generalizing t with
  | done => rfl
  | @accepted s l out υ n hn _ ih =>
    have hattempt : Th2.reports (s.attempt cm (amqp.basicPublish n)) = [] := rfl
    have hfirst : acceptedReports [(s, amqp.basicPublish n)] =
        [ConnectionManager.publishMessage s.exchange s.routingKey s.message] :=
      List.filterMap_cons_some (if_pos hn)
    rw [List.append_assoc, Shipment.deliveriesFrom_attempt, Shipment.deliveriesFrom_report,
      ← List.singleton_append, acceptedReports_append, hfirst, reports_append, reports_append,
      hattempt, Shipment.reports_report, ih s, List.nil_append]
  | @refused s l n hn =>
    have hnone : acceptedReports [(s, amqp.basicPublish n)] = [] :=
      List.filterMap_cons_none (if_neg (Int.not_le.mpr hn))
    exact hnone.symm

/-- Line for line, the log reports what the broker has accepted: no report is missing,
none is made for a publish that was refused, and nothing else looks like one. -/
theorem reports_eq_accepted (d : Deployment) (calls : List FactoryCall) :
    reports (({} : Process).run d calls).trace =
      acceptedReports (deliveries (({} : Process).run d calls).trace) := by
  obtain ⟨doc, -, hrun⟩ := Process.run_adds d calls
  refine hrun.keeps (I := fun s => reports s.trace = acceptedReports (deliveries s.trace)) ?_ rfl
  rintro call - s out t hs ⟨υ, hυ, hadds⟩
  have hadded : reports υ = acceptedReports (deliveries υ) := by
    cases hadds with
    | nothing h hreturned =>
      rw [h.2, deliveries, h.no_deliveries]
      rfl
    | rounds hl hallows h => exact h.reports _
  rw [hυ, reports_append, hadds.deliveries_append, acceptedReports_append, hs, hadded]

end Th2
