import Th2Common.Lib.Text

/-! Parsed JSON documents and the accessors a decoder uses. An object is a
list of members; `distinctKeys` says that no object of the document repeats a key. -/

inductive Json
  | null
  | boolean (b : Bool)
  | numberInteger (i : Int64)
  | numberUnsigned (n : UInt64)
  | numberFloat (q : Rat)
  | string (s : Bytes)
  | array (elements : List Json)
  | object (members : List (Bytes × Json))

namespace Json

inductive Error
  | typeError
  | outOfRange (key : Bytes)
  | parseError
  deriving DecidableEq, Repr

mutual
def distinctKeys : Json → Bool
  | .array elements => distinctElements elements
  | .object members => decide (members.map Prod.fst).Nodup && distinctMembers members
  | _ => true

def distinctElements : List Json → Bool
  | [] => true
  | j :: js => distinctKeys j && distinctElements js

def distinctMembers : List (Bytes × Json) → Bool
  | [] => true
  | m :: ms => distinctKeys m.2 && distinctMembers ms
end

def find? (j : Json) (key : Bytes) : Option Json :=
  match j with
  | .object members => members.lookup key
  | _ => none

def valueAt (j : Json) (key : Bytes) : Except Error Json :=
  match j with
  | .object members =>
    match members.lookup key with
    | some v => .ok v
    | none => .error (.outOfRange key)
  | _ => .error .typeError

def contains (j : Json) (key : Bytes) : Bool := (j.find? key).isSome

def getString : Json → Except Error Bytes
  | .string s => .ok s
  | _ => .error .typeError

def getStrings : Json → Except Error (List Bytes)
  | .array elements => elements.mapM getString
  | _ => .error .typeError

/-- `j.get<int32_t>()`: any number or boolean, converted as by `static_cast`. -/
def getInt32 : Json → Except Error Int32
  | .numberInteger i => .ok i.toInt32
  | .numberUnsigned n => .ok n.toUInt32.toInt32
  | .numberFloat q => .ok (Int32.ofInt (q.num.tdiv q.den))
  | .boolean b => .ok (if b then 1 else 0)
  | _ => .error .typeError

def getMembers : Json → Except Error (List (Bytes × Json))
  | .object members => .ok members
  | _ => .error .typeError

theorem valueAt_eq_ok {j v : Json} {key : Bytes} : j.valueAt key = .ok v ↔ j.find? key = some v := by
  cases j <;> simp only [valueAt, find?, reduceCtorEq]
  split <;> rename_i h <;> rw [h] <;> simp

theorem valueAt_congr {j j' v v' : Json} {known key : Bytes} (hv : j.find? known = some v)
    (hv' : j'.find? known = some v') (h : j'.find? key = j.find? key) :
    j'.valueAt key = j.valueAt key := by
  cases j with
  | object members =>
    cases j' with
    | object members' =>
      simp only [valueAt, find?] at h ⊢
      rw [h]
    | _ => cases hv'
  | _ => cases hv

theorem getString_eq_ok {j : Json} {s : Bytes} : j.getString = .ok s ↔ j = .string s := by
  cases j <;> simp [getString]

theorem getMembers_eq_ok {j : Json} {ms : List (Bytes × Json)} :
    j.getMembers = .ok ms ↔ j = .object ms := by
  cases j <;> simp [getMembers]

def strings : Json → List Bytes
  | .array elements => elements.filterMap fun e => match e with
    | .string s => some s
    | _ => none
  | _ => []

theorem getStrings_eq_ok {j : Json} {ss : List Bytes} (h : j.getStrings = .ok ss) :
    j.strings = ss := by
  cases j with
  | array elements =>
    simp only [getStrings] at h
    simp only [strings]
    induction elements generalizing ss with
    | nil => simpa [List.mapM_nil, pure, Except.pure] using h
    | cons e es ih =>
      rw [List.mapM_cons] at h
      cases e with
      | string s =>
        rcases hes : es.mapM getString with err | tail
        · simp [getString, hes, bind, Except.bind] at h
        · simp only [getString, hes, bind, Except.bind, pure, Except.pure, Except.ok.injEq] at h
          rw [List.filterMap_cons, ih hes, ← h]
      | _ => simp [getString, bind, Except.bind] at h
  | _ => simp [getStrings] at h

theorem getStrings_eq_ok_iff {j : Json} {ss : List Bytes} :
    j.getStrings = .ok ss ↔ j = .array (ss.map .string) := by
  cases j with
  | array elements =>
    simp only [getStrings, Json.array.injEq]
    induction elements generalizing ss with
    | nil =>
      rw [List.mapM_nil]
      constructor
      · intro h
        cases h
        rfl
      · intro h
        rw [List.map_eq_nil_iff.mp h.symm]
        rfl
    | cons e es ih =>
      rw [List.mapM_cons]
      constructor
      · intro h
        rcases he : e.getString with err | s
        · rw [he] at h
          cases h
        · rcases hes : es.mapM getString with err | tail
          · rw [he, hes] at h
            cases h
          · rw [he, hes] at h
            cases h
            rw [List.map_cons, ← ih.mp hes, getString_eq_ok.mp he]
      · intro h
        obtain ⟨s, tail, rfl, hs, htail⟩ := List.map_eq_cons_iff.mp h.symm
        rw [← hs, ih.mpr htail.symm]
        rfl
  | _ => simp [getStrings]

def AgreesOn (keys : List Bytes) (j j' : Json) : Prop :=
  ∀ key ∈ keys, j'.valueAt key = j.valueAt key

theorem distinctKeys_object {ms : List (Bytes × Json)} (h : (Json.object ms).distinctKeys = true) :
    (ms.map Prod.fst).Nodup := by
  simp only [distinctKeys, Bool.and_eq_true, decide_eq_true_eq] at h
  exact h.1

theorem lookup_eq_some_iff_mem {ms : List (Bytes × Json)} (h : (ms.map Prod.fst).Nodup) {key : Bytes}
    {v : Json} : ms.lookup key = some v ↔ (key, v) ∈ ms := by
  constructor
  · intro hv
    obtain ⟨before, after, rfl, _⟩ := List.lookup_eq_some_iff.mp hv
    exact List.mem_append_right _ List.mem_cons_self
  · intro hm
    obtain ⟨before, after, rfl⟩ := List.append_of_mem hm
    rw [List.map_append, List.map_cons] at h
    refine List.lookup_eq_some_iff.mpr ⟨before, after, rfl, fun m hm => bne_iff_ne.mpr ?_⟩
    exact fun hkey => (List.nodup_append.mp h).2.2 m.1 (List.mem_map_of_mem hm) key
      List.mem_cons_self hkey.symm

theorem distinctMembers_mem {ms : List (Bytes × Json)} (h : distinctMembers ms = true)
    {m : Bytes × Json} (hm : m ∈ ms) : m.2.distinctKeys = true := by
  induction ms with
  | nil => cases hm
  | cons x ms ih =>
    simp only [distinctMembers, Bool.and_eq_true] at h
    rcases List.mem_cons.mp hm with rfl | hm
    · exact h.1
    · exact ih h.2 hm

theorem distinctKeys_find? {j v : Json} {key : Bytes} (h : j.distinctKeys = true)
    (hv : j.find? key = some v) : v.distinctKeys = true := by
  cases j with
  | object ms =>
    simp only [distinctKeys, Bool.and_eq_true] at h
    obtain ⟨before, after, rfl, _⟩ := List.lookup_eq_some_iff.mp hv
    have hm : (key, v) ∈ before ++ (key, v) :: after := by simp
    exact distinctMembers_mem h.2 hm
  | _ => simp [find?] at hv

end Json

structure Document where
  root : Json
  distinct : root.distinctKeys = true
