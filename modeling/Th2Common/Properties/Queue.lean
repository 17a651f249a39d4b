import Th2Common.Message.Router

/-! A queue object over any sequence of `init` and `get_sender`: which sender it
hands out, and to what that sender is bound. -/

namespace Th2
open AbstractRabbitQueue

inductive QueueCall
  | init (connectionManager : SharedPtr ConnectionManager)
      (queueConfiguration : QueueConfigurationPtr)
  | getSender

abbrev QueueOutcome (β : Type) : Type := Except Fault (Option (Obj (AbstractRabbitSender β)))

namespace QueueCall
variable {β : Type}

def perform : QueueCall → Method β (Option (Obj (AbstractRabbitSender β)))
  | init connectionManager queueConfiguration => do
    AbstractRabbitQueue.init connectionManager queueConfiguration
    return none
  | getSender => do
    let sender ← AbstractRabbitQueue.getSender
    return some sender

def acceptedInit : QueueCall × QueueOutcome β →
    Option (SharedPtr ConnectionManager × QueueConfigurationPtr)
  | (init connectionManager queueConfiguration, .ok _) =>
    some (connectionManager, queueConfiguration)
  | _ => none

theorem acceptedInit_error (call : QueueCall) (e : Fault) :
    acceptedInit (β := β) (call, .error e) = none := by
  cases call <;> rfl

theorem acceptedInit_getSender (out : QueueOutcome β) : acceptedInit (getSender, out) = none := rfl

end QueueCall

section
variable (pb : Protobuf) (k : RouterKind) (n : Nat) (calls : List QueueCall)

def runQueue : List (QueueOutcome k.Batch) × (AbstractRabbitQueue k.Batch × Nat) :=
  Prog.attempts isFatal (calls.map QueueCall.perform) ((k.routerClass pb).queueClass, n)

def firstAccepted : Option (SharedPtr ConnectionManager × QueueConfigurationPtr) :=
  (calls.zip (runQueue pb k n calls).1).findSome? QueueCall.acceptedInit

def returnedSenders {β : Type} (outs : List (QueueOutcome β)) :
    List (Obj (AbstractRabbitSender β)) :=
  outs.filterMap fun out => match out with
    | .ok sender => sender
    | .error _ => none

structure KeepsOneSender : Prop where
  returns : (runQueue pb k n calls).1.length = calls.length
  unchanged : ∀ (call : QueueCall) (e : Fault) (s : AbstractRabbitQueue k.Batch × Nat),
    call.perform.exec (runQueue pb k n calls).2 = (.error e, s) →
      (∃ x, e = .thrown x) ∧ s = (runQueue pb k n calls).2
  created : (runQueue pb k n calls).2.2 ≤ n + 1
  same : ∀ s ∈ returnedSenders (runQueue pb k n calls).1,
    ∀ t ∈ returnedSenders (runQueue pb k n calls).1, s = t
  bound : ∀ s ∈ returnedSenders (runQueue pb k n calls).1,
    ∃ cm q, firstAccepted pb k n calls = some (cm, some q) ∧ s.val.connectionManager = cm ∧
      s.val.exchangeName = q.val.exchange ∧ s.val.sendQueue = q.val.routingKey
  succeeds : (∃ sender s, (getSender (β := k.Batch)).exec (runQueue pb k n calls).2 = (.ok sender, s)) ↔
    ∃ cm q, firstAccepted pb k n calls = some (cm, some q) ∧ q.val.isWritable = true

end

inductive Kept {β : Type} (c : AbstractRabbitSender β) (n : Nat) :
    Option (SharedPtr ConnectionManager × QueueConfigurationPtr) →
      AbstractRabbitQueue β × Nat → Prop
  | fresh : Kept c n none ({ senderClass := c }, n)
  | initialised (cm : Obj ConnectionManager) (cfg : QueueConfigurationPtr) :
    Kept c n (some (some cm, cfg)) (initialised c cm cfg, n)
  | made (cm : Obj ConnectionManager) {q : Obj QueueConfiguration}
      (hw : q.val.isWritable = true) :
    Kept c n (some (some cm, some q)) ({ initialised c cm (some q) with
      sender := some ⟨n, c.init (some cm) q.val.exchange q.val.routingKey⟩ }, n + 1)

def GivesSender (acc : Option (SharedPtr ConnectionManager × QueueConfigurationPtr)) : Prop :=
  ∃ cm q, acc = some (cm, some q) ∧ q.val.isWritable = true

def MadeFrom {β : Type} (c : AbstractRabbitSender β) (n : Nat)
    (acc : Option (SharedPtr ConnectionManager × QueueConfigurationPtr))
    (o : Obj (AbstractRabbitSender β)) : Prop :=
  ∃ cm q, acc = some (cm, some q) ∧ o = ⟨n, c.init cm q.val.exchange q.val.routingKey⟩

namespace Kept
variable {β : Type} {c : AbstractRabbitSender β} {n : Nat}
  {acc : Option (SharedPtr ConnectionManager × QueueConfigurationPtr)}
  {s : AbstractRabbitQueue β × Nat}

theorem init (h : Kept c n acc s) (cm : SharedPtr ConnectionManager)
    (cfg : QueueConfigurationPtr) :
    (acc = none ∧ ∃ s', (AbstractRabbitQueue.init cm cfg).exec s = (.ok (), s') ∧
      Kept c n (some (cm, cfg)) s') ∨
    ∃ x, (AbstractRabbitQueue.init cm cfg).exec s = (.error (.thrown x), s) := by
  cases cm with
  | none => exact .inr ⟨_, rfl⟩
  | some cm =>
    cases h with
    | fresh => exact .inl ⟨rfl, _, exec_init c cm cfg n, .initialised cm cfg⟩
    | initialised => exact .inr ⟨_, rfl⟩
    | made => exact .inr ⟨_, rfl⟩

theorem getSender (h : Kept c n acc s) :
    (GivesSender acc ∧ ∃ o s', AbstractRabbitQueue.getSender.exec s = (.ok o, s') ∧
      MadeFrom c n acc o ∧ Kept c n acc s') ∨
    ¬GivesSender acc ∧ ∃ x, AbstractRabbitQueue.getSender.exec s = (.error (.thrown x), s) := by
  cases h with
  | fresh =>
    refine .inr ⟨?_, _, rfl⟩
    rintro ⟨cm, q, hacc, -⟩
    cases hacc
  | initialised cm cfg =>
    cases cfg with
    | none =>
      refine .inr ⟨?_, _, rfl⟩
      rintro ⟨cm, q, hacc, -⟩
      cases hacc
    | some q =>
      by_cases hw : q.val.isWritable = true
      · exact .inl ⟨⟨_, _, rfl, hw⟩, _, _, exec_getSender c cm hw n, ⟨_, _, rfl, rfl⟩, .made cm hw⟩
      · refine .inr ⟨?_, _, exec_getSender_unwritable c cm hw n⟩
        rintro ⟨cm, q, hacc, hw'⟩
        cases hacc
        exact hw hw'
  | @made cm q hw =>
    exact .inl ⟨⟨_, _, rfl, hw⟩, _, _, exec_getSender_again c cm hw _ (n + 1), ⟨_, _, rfl, rfl⟩,
      .made cm hw⟩

structure Step (c : AbstractRabbitSender β) (n : Nat)
    (acc : Option (SharedPtr ConnectionManager × QueueConfigurationPtr))
    (s : AbstractRabbitQueue β × Nat) (call : QueueCall) (out : QueueOutcome β)
    (s' : AbstractRabbitQueue β × Nat) : Prop where
  goesOn : isFatal out = false
  kept : Kept c n (acc.or (QueueCall.acceptedInit (call, out))) s'
  unchanged : ∀ e, out = .error e → (∃ x, e = .thrown x) ∧ s' = s
  made : ∀ o, out = .ok (some o) → MadeFrom c n acc o

theorem step_thrown (h : Kept c n acc s) (call : QueueCall) (x : Exn) :
    Step c n acc s call (.error (.thrown x)) s where
  goesOn := rfl
  kept := by
    rw [QueueCall.acceptedInit_error, Option.or_none]
    exact h
  unchanged := by
    intro e he
    cases he
    exact ⟨⟨x, rfl⟩, rfl⟩
  made := by
    intro o ho
    cases ho

theorem step (h : Kept c n acc s) (call : QueueCall) :
    ∃ out s', call.perform.exec s = (out, s') ∧ Step c n acc s call out s' := by
  cases call with
  | init cm cfg =>
    rcases h.init cm cfg with ⟨rfl, s', hrun, h'⟩ | ⟨x, hrun⟩
    · refine ⟨.ok none, s', Prog.exec_bind_ok hrun, rfl, h', ?_, ?_⟩
      · intro e he
        cases he
      · intro o ho
        cases ho
    · exact ⟨_, s, Prog.exec_bind_error hrun, h.step_thrown _ x⟩
  | getSender =>
    rcases h.getSender with ⟨-, o, s', hrun, hmade, h'⟩ | ⟨-, x, hrun⟩
    · refine ⟨.ok (some o), s', Prog.exec_bind_ok hrun, rfl, ?_, ?_, ?_⟩
      · rw [QueueCall.acceptedInit_getSender, Option.or_none]
        exact h'
      · intro e he
        cases he
      · intro o' ho
        cases ho
        exact hmade
    · exact ⟨_, s, Prog.exec_bind_error hrun, h.step_thrown _ x⟩

theorem free_le (h : Kept c n acc s) : s.2 ≤ n + 1 := by
  cases h with
  | fresh => exact Nat.le_succ n
  | initialised => exact Nat.le_succ n
  | made => exact Nat.le_refl _

end Kept

theorem MadeFrom.or {β : Type} {c : AbstractRabbitSender β} {n : Nat}
    {acc : Option (SharedPtr ConnectionManager × QueueConfigurationPtr)}
    {o : Obj (AbstractRabbitSender β)} (h : MadeFrom c n acc o)
    (acc' : Option (SharedPtr ConnectionManager × QueueConfigurationPtr)) :
    MadeFrom c n (acc.or acc') o := by
  obtain ⟨cm, q, hacc, ho⟩ := h
  refine ⟨cm, q, ?_, ho⟩
  rw [hacc, Option.some_or]

namespace Kept
variable {β : Type} {c : AbstractRabbitSender β} {n : Nat}

theorem run (calls : List QueueCall)
    {acc : Option (SharedPtr ConnectionManager × QueueConfigurationPtr)}
    {s : AbstractRabbitQueue β × Nat} (h : Kept c n acc s) :
    ∃ outs s', Prog.attempts isFatal (calls.map QueueCall.perform) s = (outs, s') ∧
      outs.length = calls.length ∧
      Kept c n (acc.or ((calls.zip outs).findSome? QueueCall.acceptedInit)) s' ∧
      ∀ o ∈ returnedSenders outs,
        MadeFrom c n (acc.or ((calls.zip outs).findSome? QueueCall.acceptedInit)) o := by
  induction calls generalizing acc s with
  | nil =>
    refine ⟨[], s, rfl, rfl, ?_, ?_⟩
    · rw [List.zip_nil_left, List.findSome?_nil, Option.or_none]
      exact h
    · intro o ho
      cases ho
  | cons call calls ih =>
    obtain ⟨out, s₁, hrun, hstep⟩ := h.step call
    obtain ⟨outs, s₂, hrest, hlen, hkept, hmade⟩ := ih hstep.kept
    have hacc : (acc.or (QueueCall.acceptedInit (call, out))).or
        ((calls.zip outs).findSome? QueueCall.acceptedInit) =
        acc.or (((call :: calls).zip (out :: outs)).findSome? QueueCall.acceptedInit) := by
      rw [Option.or_assoc, List.zip_cons_cons, List.findSome?_cons]
      cases QueueCall.acceptedInit (call, out) <;> rfl
    rw [hacc] at hkept hmade
    refine ⟨out :: outs, s₂, ?_, ?_, hkept, ?_⟩
    · rw [List.map_cons, Prog.attempts_cons hrun hstep.goesOn, hrest]
    · rw [List.length_cons, List.length_cons, hlen]
    · intro o ho
      rcases out with e | _ | sender
      · exact hmade o ho
      · exact hmade o ho
      · rcases List.mem_cons.mp ho with rfl | ho
        · rw [← hacc, Option.or_assoc]
          exact (hstep.made _ rfl).or _
        · exact hmade o ho

end Kept

theorem RouterKind.queueClass_fresh (pb : Protobuf) (k : RouterKind) (n : Nat) :
    ∃ c, Kept c n none ((k.routerClass pb).queueClass, n) := by
  cases k <;> exact ⟨_, .fresh⟩

theorem keepsOneSender (pb : Protobuf) (k : RouterKind) (n : Nat) (calls : List QueueCall) :
    KeepsOneSender pb k n calls := by
  obtain ⟨c, hfresh⟩ := k.queueClass_fresh pb n
  obtain ⟨outs, s, hrun, hlen, hkept, hmade⟩ := hfresh.run calls
  rw [Option.none_or] at hkept hmade
  change runQueue pb k n calls = _ at hrun
  have hfirst : (calls.zip outs).findSome? QueueCall.acceptedInit = firstAccepted pb k n calls := by
    rw [firstAccepted, hrun]
  rw [hfirst] at hkept hmade
  refine ⟨?_, ?_, ?_, ?_, ?_, ?_⟩
  · rw [hrun]
    exact hlen
  · intro call e s' hcall
    rw [hrun] at hcall ⊢
    obtain ⟨out, s₁, hexec, hstep⟩ := hkept.step call
    rw [hexec] at hcall
    cases hcall
    exact hstep.unchanged e rfl
  · rw [hrun]
    exact hkept.free_le
  · rw [hrun]
    intro o ho o' ho'
    obtain ⟨cm, q, hacc, rfl⟩ := hmade o ho
    obtain ⟨cm', q', hacc', rfl⟩ := hmade o' ho'
    rw [hacc] at hacc'
    cases hacc'
    rfl
  · rw [hrun]
    intro o ho
    obtain ⟨cm, q, hacc, rfl⟩ := hmade o ho
    exact ⟨cm, q, hacc, rfl, rfl, rfl⟩
  · rw [hrun]
    rcases hkept.getSender with ⟨hgives, o, s', hexec, -⟩ | ⟨hnot, x, hexec⟩
    · exact iff_of_true ⟨o, s', hexec⟩ hgives
    · refine iff_of_false ?_ hnot
      rintro ⟨o, s', hok⟩
      rw [hexec] at hok
      cases hok

end Th2
