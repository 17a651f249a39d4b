import Mathlib.Data.Multiset.AddSub
import Mathlib.Logic.Function.Basic
import Mathlib.Logic.Relation
import Th2Common.Lib.Runs

/-! A dispatcher: desks that take requests, a book which says the letters that a request is
for, and one line over which letters go out until one of them is refused. -/

/-- A desk stays what it was when it was set up: without a line, without a book, or open. -/
inductive Desk
  | closed
  | blind
  | ready
  deriving DecidableEq, Repr

/-- The desks are of kinds `κ`; a request `ρ` is for a number of letters `ν`, in no order. -/
structure Dispatcher (κ ρ ν : Type) where
  book : Option (ρ → Multiset ν) := none
  connected : Bool := false
  desks : κ → List Desk := fun _ => []
  sent : List ν := []

namespace Dispatcher
variable {κ ρ ν : Type} [DecidableEq κ] {offered : (ρ → Multiset ν) → Prop}

def newDesk (s : Dispatcher κ ρ ν) : Desk :=
  if s.connected then if s.book.isSome then .ready else .blind else .closed

inductive Prepares (offered : (ρ → Multiset ν) → Prop) :
    Dispatcher κ ρ ν → Dispatcher κ ρ ν → Prop
  | book {s : Dispatcher κ ρ ν} {β : ρ → Multiset ν} (hnone : s.book = none) (hβ : offered β) :
    Prepares offered s { s with book := some β }
  | connect {s : Dispatcher κ ρ ν} (hline : s.connected = false) :
    Prepares offered s { s with connected := true }
  | desk (s : Dispatcher κ ρ ν) (k : κ) :
    Prepares offered s { s with desks := Function.update s.desks k (s.desks k ++ [s.newDesk]) }

abbrev Preparing (offered : (ρ → Multiset ν) → Prop) :
    Dispatcher κ ρ ν → Dispatcher κ ρ ν → Prop := Relation.ReflTransGen (Prepares offered)

inductive Result
  | done
  | thrown
  | lost
  deriving DecidableEq, Repr

inductive Serves (s : Dispatcher κ ρ ν) (k : κ) (n : Nat) (admits : Nat → Bool) (r : ρ) :
    Result → Dispatcher κ ρ ν → Prop
  | missing (hdesk : (s.desks k)[n]? = none) : Serves s k n admits r .lost s
  | closed {desk : Desk} (hdesk : (s.desks k)[n]? = some desk) (hready : desk ≠ .ready) :
    Serves s k n admits r .thrown s
  | declined {β : ρ → Multiset ν} (hdesk : (s.desks k)[n]? = some .ready) (hβ : s.book = some β)
      (hadmits : admits (β r).card = false) : Serves s k n admits r .thrown s
  | done {β : ρ → Multiset ν} {l : List ν} (hdesk : (s.desks k)[n]? = some .ready)
      (hβ : s.book = some β) (hadmits : admits (β r).card = true) (hl : (l : Multiset ν) = β r) :
    Serves s k n admits r .done { s with sent := s.sent ++ l }
  | broken {β : ρ → Multiset ν} {l rest : List ν} {x : ν} (hdesk : (s.desks k)[n]? = some .ready)
      (hβ : s.book = some β) (hadmits : admits (β r).card = true)
      (hl : ((l ++ x :: rest : List ν) : Multiset ν) = β r) :
    Serves s k n admits r .thrown { s with sent := s.sent ++ l }

inductive Duty (κ ρ : Type)
  | prepare
  | serve (k : κ) (n : Nat) (admits : Nat → Bool) (r : ρ)

def Performs (offered : (ρ → Multiset ν) → Prop) :
    Duty κ ρ → Dispatcher κ ρ ν → Result → Dispatcher κ ρ ν → Prop
  | .prepare, s, _, t => Preparing offered s t
  | .serve k n admits r, s, result, t => s.Serves k n admits r result t

theorem Preparing.sent_eq {s t : Dispatcher κ ρ ν} (h : Preparing offered s t) :
    t.sent = s.sent := by
  induction h with
  | refl => rfl
  | tail _ hstep ih => cases hstep <;> exact ih

inductive Sends (β : ρ → Multiset ν) : Duty κ ρ → Result → List ν → Prop
  | nothing {duty : Duty κ ρ} {result : Result}
      (hresult : result = .done → duty = .prepare) : Sends β duty result []
  | all {k : κ} {n : Nat} {admits : Nat → Bool} {r : ρ} {l : List ν}
      (hadmits : admits (β r).card = true) (hl : (l : Multiset ν) = β r) :
    Sends β (.serve k n admits r) .done l
  | some {k : κ} {n : Nat} {admits : Nat → Bool} {r : ρ} {l : List ν}
      (hadmits : admits (β r).card = true) (hl : (l : Multiset ν) < β r) :
    Sends β (.serve k n admits r) .thrown l

theorem Performs.sends {β : ρ → Multiset ν} {duty : Duty κ ρ} {s t : Dispatcher κ ρ ν}
    {result : Result} (h : Performs offered duty s result t)
    (hβ : ∀ γ, t.book = some γ → γ = β) :
    ∃ part, t.sent = s.sent ++ part ∧ Sends β duty result part := by
  cases duty with
  | prepare =>
    exact ⟨[], by rw [Preparing.sent_eq h, List.append_nil], .nothing fun _ => rfl⟩
  | serve k n admits r =>
    cases h with
    | missing hdesk => exact ⟨[], (List.append_nil _).symm, .nothing nofun⟩
    | closed hdesk hready => exact ⟨[], (List.append_nil _).symm, .nothing nofun⟩
    | declined hdesk hbook hadmits => exact ⟨[], (List.append_nil _).symm, .nothing nofun⟩
    | @done γ l hdesk hbook hadmits hl =>
      obtain rfl := hβ γ hbook
      exact ⟨l, rfl, .all hadmits hl⟩
    | @broken γ l rest x hdesk hbook hadmits hl =>
      obtain rfl := hβ γ hbook
      refine ⟨l, rfl, .some hadmits ?_⟩
      have hprefix : (l : Multiset ν) ≤ ↑(l ++ x :: rest) :=
        Multiset.coe_le.mpr (List.sublist_append_left l (x :: rest)).subperm
      have hcard : (l : Multiset ν).card < (↑(l ++ x :: rest) : Multiset ν).card := by
        rw [Multiset.coe_card, Multiset.coe_card, List.length_append, List.length_cons]
        omega
      rw [← hl]
      exact lt_of_le_of_ne hprefix fun heq => (heq ▸ hcard).ne rfl

end Dispatcher
