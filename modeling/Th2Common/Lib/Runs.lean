import Th2Common.Lib.Prog

/-! Runs of labelled calls over a state. A property of runs follows from what
each call does: kept by every call, related from start to end, or seen through a
list that grows. -/

universe u v

/-- The calls in turn, each with its outcome. A run may end with any call. -/
inductive Run {ι : Type u} {σ ο : Type} (step : ι → σ → ο → σ → Prop) : List ι → σ → List ο → σ → Prop
  | done (s : σ) : Run step [] s [] s
  | call {i : ι} {is : List ι} {s t u : σ} {o : ο} {os : List ο} (h : step i s o t)
      (rest : Run step is t os u) : Run step (i :: is) s (o :: os) u
  | last {i : ι} {is : List ι} {s t : σ} {o : ο} (h : step i s o t) : Run step (i :: is) s [o] t

namespace Run
variable {ι : Type u} {σ ο β : Type} {step step' : ι → σ → ο → σ → Prop} {is : List ι} {s t : σ} {os : List ο}

theorem keeps {I : σ → Prop} (hstep : ∀ i ∈ is, ∀ s o t, I s → step i s o t → I t)
    (h : Run step is s os t) (hs : I s) : I t := by
  induction h with
  | done s => exact hs
  | call h _ ih =>
    exact ih (fun i hi => hstep i (List.mem_cons_of_mem _ hi)) (hstep _ List.mem_cons_self _ _ _ hs h)
  | last h => exact hstep _ List.mem_cons_self _ _ _ hs h

theorem refine {I : σ → Prop} (hkeeps : ∀ i s o t, I s → step i s o t → I t)
    (hstep : ∀ i s o t, I s → step i s o t → step' i s o t) (h : Run step is s os t) (hs : I s) :
    Run step' is s os t := by
  induction h with
  | done s => exact .done s
  | call h _ ih => exact .call (hstep _ _ _ _ hs h) (ih (hkeeps _ _ _ _ hs h))
  | last h => exact .last (hstep _ _ _ _ hs h)

theorem relates {R : σ → σ → Prop} (hrefl : ∀ s, R s s) (htrans : ∀ s t u, R s t → R t u → R s u)
    (hstep : ∀ i s o t, step i s o t → R s t) (h : Run step is s os t) : R s t := by
  induction h with
  | done s => exact hrefl s
  | call h _ ih => exact htrans _ _ _ (hstep _ _ _ _ h) ih
  | last h => exact hstep _ _ _ _ h

theorem bounded {R : σ → σ → Prop} (hrefl : ∀ s, R s s) (htrans : ∀ s t u, R s t → R t u → R s u)
    (hstep : ∀ i s o t, step i s o t → R s t) (h : Run step is s os t) :
    Run (fun i s o u => step i s o u ∧ R s t) is s os t := by
  induction h with
  | done s => exact .done s
  | call h hrest ih =>
    exact .call ⟨h, htrans _ _ _ (hstep _ _ _ _ h) (hrest.relates hrefl htrans hstep)⟩ ih
  | last h => exact .last ⟨h, hstep _ _ _ _ h⟩

end Run

theorem Prog.run_attempts {ι : Type u} {σ ε α : Type} (stops : Except ε α → Bool) (p : ι → Prog σ ε α)
    (is : List ι) (s : σ) : Run (fun i s out t => Prog.exec (p i) s = (out, t)) is s
      (attempts stops (is.map p) s).1 (attempts stops (is.map p) s).2 := by
  induction is generalizing s with
  | nil => exact .done s
  | cons i is ih =>
    rw [List.map_cons, attempts]
    split
    · exact .last rfl
    · exact .call rfl (ih _)
