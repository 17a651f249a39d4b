import Th2Common.Message.Routes

/-! What the two `from_json` of a queue and the `from_json` of a router
configuration accept, and what they make of it. -/

namespace Th2
open Text

structure Describes (j : Json) (q : QueueConfiguration) : Prop where
  queue : j.find? "queue" = some (.string q.queue)
  name : j.find? "name" = some (.string q.routingKey)
  exchange : j.find? "exchange" = some (.string q.exchange)
  attributes : j.find? "attributes" = some (.array (q.attributes.map .string))

namespace QueueConfiguration

def keys : List Bytes := [utf8 "queue", utf8 "name", utf8 "exchange", utf8 "attributes"]

theorem fromJson_eq_ok {j : Json} {cfg q : QueueConfiguration} :
    fromJson j cfg = .ok q ↔ Describes j q ∧ q.filters = cfg.filters ∧
      q.isReadable = cfg.isReadable ∧ q.isWritable = cfg.isWritable := by
  unfold fromJson
  simp only [bind_eq_ok, getAt_getString, getAt_getStrings]
  constructor
  · rintro ⟨queue, hqueue, name, hname, exchange, hexchange, attributes, hattributes, h⟩
    cases h
    exact ⟨⟨hqueue, hname, hexchange, hattributes⟩, rfl, rfl, rfl⟩
  · rintro ⟨h, hfilters, hreadable, hwritable⟩
    refine ⟨_, h.queue, _, h.name, _, h.exchange, _, h.attributes, ?_⟩
    rw [← hfilters, ← hreadable, ← hwritable]
    rfl

theorem isFatal_fromJson (j : Json) (cfg : QueueConfiguration) : isFatal (fromJson j cfg) = false :=
  isFatal_bind (isFatal_getAt _ _ _) fun _ => isFatal_bind (isFatal_getAt _ _ _) fun _ =>
    isFatal_bind (isFatal_getAt _ _ _) fun _ => isFatal_bind (isFatal_getAt _ _ _) fun _ => rfl

theorem exec_fromJsonPtr_some (j : Json) (o : Obj QueueConfiguration) (n : Nat) :
    (fromJsonPtr j (some o)).exec n = ((fromJson j o.val).map fun q => some ⟨o.addr, q⟩, n) := by
  unfold fromJsonPtr fromJson
  rcases getAt j (utf8 "queue") Json.getString with e | queue
  · rfl
  rcases getAt j (utf8 "name") Json.getString with e | name
  · rfl
  rcases getAt j (utf8 "exchange") Json.getString with e | exchange
  · rfl
  rcases getAt j (utf8 "attributes") Json.getStrings with e | attributes
  · rfl
  · rfl

theorem exec_fromJsonPtr_none (j : Json) (n : Nat) :
    (fromJsonPtr j none).exec n = ((fromJson j {}).map fun q => some ⟨n, q⟩, n + 1) := by
  have hmake : (fromJsonPtr j none).exec n = (fromJsonPtr j (some ⟨n, {}⟩)).exec (n + 1) := rfl
  rw [hmake, exec_fromJsonPtr_some]

theorem fromJson_congr {j j' : Json} (h : j.AgreesOn keys j') (cfg : QueueConfiguration) :
    fromJson j' cfg = fromJson j cfg := by
  have hat (key : Bytes) (hkey : key ∈ keys) {α : Type} (get : Json → Except Json.Error α) :
      getAt j' key get = getAt j key get := getAt_congr (h key hkey) get
  unfold fromJson
  rw [hat (utf8 "queue") (by simp [keys]), hat (utf8 "name") (by simp [keys]),
    hat (utf8 "exchange") (by simp [keys]), hat (utf8 "attributes") (by simp [keys])]

end QueueConfiguration

namespace MessageRouterConfiguration

inductive Entries : Nat → List (Bytes × Json) → List QueueEntry → Prop
  | nil (n : Nat) : Entries n [] []
  | cons {n : Nat} {m : Bytes × Json} {ms : List (Bytes × Json)} {es : List QueueEntry}
      {q : QueueConfiguration} (hq : QueueConfiguration.fromJson m.2 {} = .ok q)
      (h : Entries (n + 1) ms es) : Entries n (m :: ms) (⟨m.1, some ⟨n, q⟩⟩ :: es)

theorem exec_decodeQueues (n : Nat) (ms : List (Bytes × Json)) :
    (∃ es, Entries n ms es ∧ (decodeQueues ms).exec n = (.ok es, n + ms.length)) ∨
      (∃ m ∈ ms, ∀ q, QueueConfiguration.fromJson m.2 {} ≠ .ok q) ∧
        ∃ e n', (decodeQueues ms).exec n = (.error (.thrown e), n') := by
  induction ms generalizing n with
  | nil => exact .inl ⟨[], .nil n, rfl⟩
  | cons m ms ih =>
    have hptr := QueueConfiguration.exec_fromJsonPtr_none m.2 n
    unfold decodeQueues
    rcases hq : QueueConfiguration.fromJson m.2 {} with f | q
    · have hnot : ∀ q, QueueConfiguration.fromJson m.2 {} ≠ .ok q := by
        rw [hq]
        intro q hok
        cases hok
      obtain ⟨e, he⟩ := thrown_of_not_fatal hnot (QueueConfiguration.isFatal_fromJson m.2 {})
      rw [he] at hptr
      exact .inr ⟨⟨m, List.mem_cons_self, hnot⟩, e, n + 1, Prog.exec_bind_error hptr⟩
    · rw [hq] at hptr
      rw [Prog.exec_bind_ok hptr]
      rcases ih (n + 1) with ⟨es, hes, hrun⟩ | ⟨⟨m', hm', hnot⟩, e, n', hrun⟩
      · refine .inl ⟨_, .cons hq hes, ?_⟩
        rw [Prog.exec_bind_ok hrun, List.length_cons, Nat.add_right_comm]
        rfl
      · exact .inr ⟨⟨m', List.mem_cons_of_mem m hm', hnot⟩, e, n', Prog.exec_bind_error hrun⟩

theorem decodeQueues_congr {ms ms' : List (Bytes × Json)}
    (h : List.Forall₂ (fun m m' => m'.1 = m.1 ∧ m.2.AgreesOn QueueConfiguration.keys m'.2) ms ms') :
    decodeQueues ms' = decodeQueues ms := by
  induction h with
  | nil => rfl
  | @cons m m' ms ms' hm h ih =>
    obtain ⟨hfst, hsnd⟩ := hm
    have hptr : QueueConfiguration.fromJsonPtr m'.2 none = QueueConfiguration.fromJsonPtr m.2 none := by
      funext n
      have hexec := QueueConfiguration.exec_fromJsonPtr_none m'.2 n
      rw [QueueConfiguration.fromJson_congr hsnd, ← QueueConfiguration.exec_fromJsonPtr_none] at hexec
      exact hexec
    unfold decodeQueues
    rw [hptr, ih, hfst]

namespace Entries
variable {n : Nat} {ms : List (Bytes × Json)} {es : List QueueEntry}

theorem keys (h : Entries n ms es) : List.keys es = ms.map Prod.fst := by
  induction h with
  | nil => rfl
  | cons _ _ ih => exact congrArg _ ih

theorem mem (h : Entries n ms es) {e : QueueEntry} (he : e ∈ es) :
    ∃ m ∈ ms, ∃ o, e = ⟨m.1, some o⟩ ∧ QueueConfiguration.fromJson m.2 {} = .ok o.val ∧ n ≤ o.addr := by
  induction h with
  | nil => cases he
  | @cons n m ms es q hq h ih =>
    rcases List.mem_cons.mp he with rfl | he
    · exact ⟨m, List.mem_cons_self, ⟨n, q⟩, rfl, hq, Nat.le_refl n⟩
    · obtain ⟨m', hm', o, ho, hfields, hle⟩ := ih he
      exact ⟨m', List.mem_cons_of_mem m hm', o, ho, hfields, Nat.le_of_succ_le hle⟩

theorem described (h : Entries n ms es) {m : Bytes × Json} (hm : m ∈ ms) :
    ∃ q, Describes m.2 q := by
  induction h with
  | nil => cases hm
  | cons hq _ ih =>
    rcases List.mem_cons.mp hm with rfl | hm
    · exact ⟨_, (QueueConfiguration.fromJson_eq_ok.mp hq).1⟩
    · exact ih hm

theorem unshared (h : Entries n ms es) {e f : QueueEntry} (he : e ∈ es) (hf : f ∈ es)
    {o p : Obj QueueConfiguration} (ho : e.2 = some o) (hp : f.2 = some p)
    (haddr : o.addr = p.addr) : e = f := by
  induction h with
  | nil => cases he
  | @cons n m ms es q hq h ih =>
    -- the addresses of the later entries are greater
    have hlater {e : QueueEntry} {o : Obj QueueConfiguration} (he : e ∈ es) (ho : e.2 = some o) :
        n < o.addr := by
      obtain ⟨_, _, o', rfl, _, hle⟩ := h.mem he
      cases ho
      exact hle
    rcases List.mem_cons.mp he with rfl | he <;> rcases List.mem_cons.mp hf with rfl | hf
    · rfl
    · cases ho
      exact absurd haddr (Nat.ne_of_lt (hlater hf hp))
    · cases hp
      exact absurd haddr.symm (Nat.ne_of_lt (hlater he ho))
    · exact ih he hf

end Entries

end MessageRouterConfiguration

end Th2
