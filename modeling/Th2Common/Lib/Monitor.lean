import Mathlib.Data.List.Basic

/-! Monitors: a protocol as a state that each event moves on, or refuses. -/

abbrev Monitor (σ ε : Type) : Type := σ → ε → Option σ

namespace Monitor
variable {σ ε : Type} (step : Monitor σ ε)

def after (s : σ) (es : List ε) : Option σ := es.foldlM step s

@[simp] theorem after_nil (s : σ) : after step s [] = some s := rfl

theorem after_append (s : σ) (es fs : List ε) :
    after step s (es ++ fs) = (after step s es).bind fun t => after step t fs :=
  List.foldlM_append

theorem after_cons (s : σ) (e : ε) (es : List ε) :
    after step s (e :: es) = (step s e).bind fun t => after step t es := rfl

variable {step}

theorem after_trans {s t u : σ} {es fs : List ε} (hes : after step s es = some t)
    (hfs : after step t fs = some u) : after step s (es ++ fs) = some u := by
  rw [after_append, hes, Option.bind_some, hfs]

theorem after_stays {s : σ} {es : List ε} (h : ∀ e ∈ es, step s e = some s) :
    after step s es = some s := by
  induction es with
  | nil => rfl
  | cons e es ih =>
    rw [after_cons, h e List.mem_cons_self, Option.bind_some]
    exact ih fun f hf => h f (List.mem_cons_of_mem e hf)

end Monitor
