import Mathlib.Algebra.GroupWithZero.Nat
import Mathlib.Data.List.AList
import Mathlib.Data.List.Nodup
import Mathlib.Data.List.Perm.Basic
import Mathlib.Data.List.Permutation

/-! Unordered maps and sets. A map is an association list without duplicate
keys; every loop over one asks a `WalkOrder` for the order of the walk, so a
result that holds for all walk orders does not depend on hashing. -/

abbrev UMap (κ ν : Type) : Type := AList (fun _ : κ => ν)

abbrev USet (κ : Type) : Type := UMap κ Unit

/-- The order the library chooses for each walk of a program; `ι` names the walks. -/
structure WalkOrder (ι : Type) where
  arrange : {α : Type} → ι → List α → List α
  perm : ∀ {α : Type} (i : ι) (l : List α), (arrange i l).Perm l

namespace WalkOrder
variable {ι : Type}

def stored (ι : Type) : WalkOrder ι := ⟨fun _ l => l, fun _ l => List.Perm.refl l⟩

def backward (ι : Type) : WalkOrder ι := ⟨fun _ l => l.reverse, fun _ l => List.reverse_perm l⟩

end WalkOrder

theorem exists_perm_of_perm_map {α β : Type} {f : α → β} {l : List β} {xs : List α}
    (h : l.Perm (xs.map f)) : ∃ ys : List α, l = ys.map f ∧ ys.Perm xs :=
  (congrFun₂ (List.eq_map_comp_perm f) l xs).mpr h

namespace AList
variable {κ ν ι : Type}

def walk (m : UMap κ ν) (o : WalkOrder ι) (i : ι) : List (Sigma fun _ : κ => ν) :=
  o.arrange i m.entries

theorem walk_perm (m : UMap κ ν) (o : WalkOrder ι) (i : ι) : (m.walk o i).Perm m.entries :=
  o.perm i m.entries

theorem walk_nodupKeys (m : UMap κ ν) (o : WalkOrder ι) (i : ι) : (m.walk o i).NodupKeys :=
  (List.perm_nodupKeys (walk_perm m o i)).mpr m.nodupKeys

def arranged (m : UMap κ ν) (o : WalkOrder ι) (i : ι) : UMap κ ν := ⟨m.walk o i, walk_nodupKeys m o i⟩

theorem arranged_pair {m : UMap κ ν} {a b : Sigma fun _ : κ => ν} (h : m.entries = [a, b])
    (o : WalkOrder ι) (i : ι) :
    m.arranged o i = m.arranged (.stored ι) i ∨ m.arranged o i = m.arranged (.backward ι) i := by
  have hperm := walk_perm m o i
  rw [h] at hperm
  rcases List.perm_pair.mp hperm with hwalk | hwalk
  · exact .inl (AList.ext (hwalk.trans h.symm))
  · exact .inr (AList.ext (hwalk.trans (congrArg List.reverse h).symm))

def walkKeys (m : UMap κ ν) (o : WalkOrder ι) (i : ι) : List κ := o.arrange i m.keys

theorem walkKeys_perm (m : UMap κ ν) (o : WalkOrder ι) (i : ι) : (m.walkKeys o i).Perm m.keys :=
  o.perm i m.keys

variable [DecidableEq κ]

theorem entries_perm_of_lookup {m n : UMap κ ν} (h : ∀ k, m.lookup k = n.lookup k) :
    m.entries.Perm n.entries := by
  apply List.lookup_ext m.nodupKeys n.nodupKeys
  intro k v
  have hk : m.entries.dlookup k = n.entries.dlookup k := h k
  rw [hk]

/-- `m.emplace(k, v)`: an existing binding stays. -/
def emplace (m : UMap κ ν) (k : κ) (v : ν) : UMap κ ν := if k ∈ m then m else m.insert k v

theorem emplace_of_notMem {m : UMap κ ν} {k : κ} (h : k ∉ m) (v : ν) :
    (m.emplace k v).entries = ⟨k, v⟩ :: m.entries := by
  rw [emplace, if_neg h, entries_insert_of_notMem h]

def emplaceAll (m : UMap κ ν) (l : List (Sigma fun _ : κ => ν)) : UMap κ ν :=
  l.foldl (fun m e => m.emplace e.1 e.2) m

theorem emplaceAll_perm (m : UMap κ ν) (l : List (Sigma fun _ : κ => ν))
    (h : (l ++ m.entries).NodupKeys) : (m.emplaceAll l).entries.Perm (l ++ m.entries) := by
  induction l generalizing m with
  | nil => exact List.Perm.refl _
  | cons e l ih =>
    rw [List.cons_append, List.nodupKeys_cons, List.keys_append, List.mem_append, not_or] at h
    obtain ⟨⟨_, hm⟩, hl⟩ := h
    have he : (m.emplace e.1 e.2).entries = e :: m.entries := emplace_of_notMem hm e.2
    have hp : (l ++ e :: m.entries).Perm (e :: (l ++ m.entries)) := List.perm_middle
    refine (ih (m.emplace e.1 e.2) ?_).trans ?_
    · rw [he, List.perm_nodupKeys hp, List.nodupKeys_cons, List.keys_append, List.mem_append,
        not_or]
      exact ⟨⟨‹_›, hm⟩, hl⟩
    · rw [he]
      exact hp

theorem emplaceAll_empty_perm {l : List (Sigma fun _ : κ => ν)} (h : l.NodupKeys) :
    ((∅ : UMap κ ν).emplaceAll l).entries.Perm l := by
  have := emplaceAll_perm (∅ : UMap κ ν) l (by simpa using h)
  simpa using this

/-- `m[k] = v`, a new key at the end. -/
def assign (m : UMap κ ν) (k : κ) (v : ν) : UMap κ ν :=
  if h : k ∈ m then m.replace k v
  else ⟨m.entries ++ [⟨k, v⟩], by
    rw [List.perm_nodupKeys List.perm_append_comm, List.singleton_append, List.nodupKeys_cons]
    exact ⟨h, m.nodupKeys⟩⟩

theorem assign_of_notMem {m : UMap κ ν} {k : κ} (h : k ∉ m) (v : ν) :
    (m.assign k v).entries = m.entries ++ [⟨k, v⟩] := by
  rw [assign, dif_neg h]

theorem foldl_assign (m : UMap κ ν) (l : List (Sigma fun _ : κ => ν))
    (h : (m.entries ++ l).NodupKeys) :
    (l.foldl (fun m e => m.assign e.1 e.2) m).entries = m.entries ++ l := by
  induction l generalizing m with
  | nil => rw [List.foldl_nil, List.append_nil]
  | cons e l ih =>
    have hm : e.1 ∉ m := by
      rw [List.perm_nodupKeys List.perm_middle, List.nodupKeys_cons, List.keys_append,
        List.mem_append, not_or] at h
      exact h.1.1
    have he : (m.assign e.1 e.2).entries = m.entries ++ [e] := assign_of_notMem hm e.2
    have hrest : ((m.assign e.1 e.2).entries ++ l).NodupKeys := by
      rw [he, List.append_assoc]
      exact h
    rw [List.foldl_cons, ih _ hrest, he, List.append_assoc]
    rfl

theorem foldl_assign_empty (m : UMap κ ν) :
    m.entries.foldl (fun m e => m.assign e.1 e.2) ∅ = m := by
  apply AList.ext
  rw [foldl_assign _ _ (by simpa using m.nodupKeys)]
  rfl

end AList

/-! The loop that distributes items over keys: for every item and every key of
it, find or make the key's accumulator and add the item to it. -/
namespace Regroup
variable {κ μ β : Type} [DecidableEq κ] (empty : β) (add : β → μ → β)

def place (m : UMap κ β) (x : μ) (k : κ) : UMap κ β :=
  m.insert k (add ((m.lookup k).getD empty) x)

def placeAll (m : UMap κ β) (x : μ) (ks : List κ) : UMap κ β :=
  ks.foldl (fun m k => place empty add m x k) m

def regroup (m : UMap κ β) (xs : List (μ × List κ)) : UMap κ β :=
  xs.foldl (fun m p => placeAll empty add m p.1 p.2) m

def mine (k : κ) (xs : List (μ × List κ)) : List μ :=
  (xs.filter fun p => k ∈ p.2).map Prod.fst

theorem lookup_place (m : UMap κ β) (x : μ) (k j : κ) :
    (place empty add m x k).lookup j =
      if j = k then some (add ((m.lookup k).getD empty) x) else m.lookup j := by
  unfold place
  split
  · next h =>
    subst h
    rw [AList.lookup_insert]
  · next h => rw [AList.lookup_insert_ne h]

theorem lookup_placeAll (m : UMap κ β) (x : μ) (ks : List κ) (h : ks.Nodup) (k : κ) :
    (placeAll empty add m x ks).lookup k =
      if k ∈ ks then some (add ((m.lookup k).getD empty) x) else m.lookup k := by
  induction ks generalizing m with
  | nil => simp only [placeAll, List.foldl_nil, List.not_mem_nil, if_false]
  | cons j ks ih =>
    obtain ⟨hj, hks⟩ := List.nodup_cons.mp h
    have hstep : placeAll empty add m x (j :: ks) =
        placeAll empty add (place empty add m x j) x ks := rfl
    rw [hstep, ih _ hks, lookup_place]
    by_cases hk : k = j
    · subst hk
      simp only [hj, List.mem_cons, true_or, if_true, if_false]
    · simp only [List.mem_cons, hk, false_or, if_false]

theorem lookup_regroup (m : UMap κ β) (xs : List (μ × List κ)) (h : ∀ p ∈ xs, p.2.Nodup) (k : κ) :
    (regroup empty add m xs).lookup k =
      if mine k xs = [] then m.lookup k
      else some ((mine k xs).foldl add ((m.lookup k).getD empty)) := by
  induction xs generalizing m with
  | nil => rfl
  | cons p xs ih =>
    have hp : p.2.Nodup := h p (by simp)
    have hstep : regroup empty add m (p :: xs) =
        regroup empty add (placeAll empty add m p.1 p.2) xs := rfl
    rw [hstep, ih _ fun q hq => h q (by simp [hq]), lookup_placeAll empty add m p.1 p.2 hp]
    -- an item that names `k` is added before those that come later
    by_cases hk : k ∈ p.2
    · have hm : mine k (p :: xs) = p.1 :: mine k xs := by
        simp only [mine, List.filter_cons, hk, decide_true, if_true, List.map_cons]
      rw [hm, if_pos hk, Option.getD_some, List.foldl_cons]
      by_cases hn : mine k xs = [] <;> simp [hn]
    · have hm : mine k (p :: xs) = mine k xs := by
        simp only [mine, List.filter_cons, hk, decide_false, Bool.false_eq_true, if_false]
      rw [hm, if_neg hk]

theorem mine_eq_self {k : κ} {xs : List (μ × List κ)} (h : ∀ p ∈ xs, k ∈ p.2) :
    mine k xs = xs.map Prod.fst := by
  rw [mine, List.filter_eq_self.mpr]
  simpa using h

theorem mine_eq_nil {k : κ} {xs : List (μ × List κ)} (h : ∀ p ∈ xs, k ∉ p.2) :
    mine k xs = [] := by
  rw [mine, List.filter_eq_nil_iff.mpr, List.map_nil]
  simpa using h

theorem regroup_const {ks : List κ} (hks : ks.Nodup) {xs : List (μ × List κ)} (hne : xs ≠ [])
    (h : ∀ p ∈ xs, p.2.Perm ks) :
    (regroup empty add ∅ xs).entries.Perm
      (ks.map fun k => ⟨k, (xs.map Prod.fst).foldl add empty⟩) := by
  have hnd : (ks.map fun k => (⟨k, (xs.map Prod.fst).foldl add empty⟩ : Sigma fun _ : κ => β)).NodupKeys := by
    rw [List.NodupKeys, List.keys, List.map_map]
    simpa [Function.comp_def] using hks
  let n : UMap κ β := ⟨_, hnd⟩
  change (regroup empty add ∅ xs).entries.Perm n.entries
  apply AList.entries_perm_of_lookup
  intro k
  rw [lookup_regroup empty add ∅ xs fun p hp => (h p hp).nodup_iff.mpr hks]
  by_cases hk : k ∈ ks
  · have hn : n.lookup k = some ((xs.map Prod.fst).foldl add empty) :=
      AList.mem_lookup_iff.mpr (List.mem_map.mpr ⟨k, hk, rfl⟩)
    rw [hn, mine_eq_self fun p hp => (h p hp).mem_iff.mpr hk]
    simp [hne]
  · have hn : n.lookup k = none := by
      rw [AList.lookup_eq_none, AList.mem_keys]
      simpa [n, List.keys, Function.comp_def] using hk
    rw [hn, mine_eq_nil fun p hp hkp => hk ((h p hp).mem_iff.mp hkp)]
    rfl

def total (size : β → Nat) (m : UMap κ β) : Nat := (m.entries.map fun e => size e.2).sum

section
variable (size : β → Nat) (hempty : size empty = 0) (hadd : ∀ b x, size (add b x) = size b + 1)
include hempty hadd

theorem total_place (m : UMap κ β) (x : μ) (k : κ) :
    total size (place empty add m x k) = total size m + 1 := by
  unfold total place
  rw [AList.entries_insert, List.map_cons, List.sum_cons, hadd]
  by_cases hk : k ∈ m
  · obtain ⟨b, l, l', -, hm, herase⟩ := List.exists_of_kerase (AList.mem_keys.mp hk)
    have hb : m.lookup k = some b := by
      apply AList.mem_lookup_iff.mpr
      rw [hm]
      exact List.mem_append_right _ List.mem_cons_self
    rw [hb, Option.getD_some, herase, hm, List.map_append, List.map_append, List.map_cons,
      List.sum_append, List.sum_append, List.sum_cons]
    have hsize : size (⟨k, b⟩ : Sigma fun _ : κ => β).2 = size b := rfl
    omega
  · have hnone : m.lookup k = none := AList.lookup_eq_none.mpr hk
    rw [hnone, Option.getD_none, hempty, List.kerase_of_notMem_keys hk]
    omega

theorem total_placeAll (m : UMap κ β) (x : μ) (ks : List κ) :
    total size (placeAll empty add m x ks) = total size m + ks.length := by
  induction ks generalizing m with
  | nil => rfl
  | cons k ks ih =>
    have hstep : placeAll empty add m x (k :: ks) =
        placeAll empty add (place empty add m x k) x ks := rfl
    rw [hstep, ih, total_place empty add size hempty hadd, List.length_cons]
    omega

theorem total_regroup (m : UMap κ β) (xs : List (μ × List κ)) :
    total size (regroup empty add m xs) =
      total size m + (xs.map fun p => p.2.length).sum := by
  induction xs generalizing m with
  | nil => rfl
  | cons p xs ih =>
    have hstep : regroup empty add m (p :: xs) =
        regroup empty add (placeAll empty add m p.1 p.2) xs := rfl
    rw [hstep, ih, total_placeAll empty add size hempty hadd, List.map_cons, List.sum_cons]
    omega

end

theorem regroup_nil : (regroup empty add ∅ ([] : List (μ × List κ))).entries = [] := rfl

end Regroup
