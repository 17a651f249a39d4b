import Mathlib.Data.List.Basic

/-! Programs that may throw over a state that survives the throw: what was
done before an exception stays done, whoever catches it. -/

/-- A computation with state `σ`; both outcomes come with the state they left. -/
def Prog (σ ε α : Type) : Type := σ → Except ε α × σ

namespace Prog
variable {σ τ ε α β : Type}

def exec (p : Prog σ ε α) (s : σ) : Except ε α × σ := p s

instance : Monad (Prog σ ε) where
  pure a := fun s => (.ok a, s)
  bind p f := fun s =>
    match p s with
    | (.ok a, s') => f a s'
    | (.error e, s') => (.error e, s')

def raise (e : ε) : Prog σ ε α := fun s => (.error e, s)

def read : Prog σ ε σ := fun s => (.ok s, s)

def update (f : σ → σ) : Prog σ ε Unit := fun s => (.ok (), f s)

def lift : Except ε α → Prog σ ε α
  | .ok a => pure a
  | .error e => raise e

def raiseIf (c : Prop) [Decidable c] (e : ε) : Prog σ ε Unit := if c then raise e else pure ()

def when (c : Prop) [Decidable c] (p : Prog σ ε Unit) : Prog σ ε Unit := if c then p else pure ()

def zoom (get : σ → τ) (set : σ → τ → σ) (p : Prog τ ε α) : Prog σ ε α := fun s =>
  ((p (get s)).1, set s (p (get s)).2)

def onLocal (p : Prog τ ε α) (t : τ) : Prog σ ε (α × τ) := fun s =>
  match p t with
  | (.ok a, t') => (.ok (a, t'), s)
  | (.error e, _) => (.error e, s)

/-- Run `p` on an object beside the state; when `p` throws only the object is dropped. -/
def onObject (p : Prog (τ × σ) ε α) (t : τ) : Prog σ ε (α × τ) := fun s =>
  match p (t, s) with
  | (.ok a, (t', s')) => (.ok (a, t'), s')
  | (.error e, (_, s')) => (.error e, s')

def caught (p : Prog σ ε α) : Prog σ ε Unit := fun s => (.ok (), (p s).2)

def forEach (xs : List α) (body : α → Prog σ ε Unit) : Prog σ ε Unit :=
  match xs with
  | [] => pure ()
  | x :: xs => do
    body x
    forEach xs body

/-- Each program in turn, whoever threw before it, until one ends in a way that
`stops` everything. -/
def attempts (stops : Except ε α → Bool) : List (Prog σ ε α) → σ → List (Except ε α) × σ
  | [], s => ([], s)
  | p :: ps, s =>
    if stops (p s).1 then ([(p s).1], (p s).2)
    else ((p s).1 :: (attempts stops ps (p s).2).1, (attempts stops ps (p s).2).2)

@[simp] theorem exec_pure (a : α) (s : σ) : exec (pure a : Prog σ ε α) s = (.ok a, s) := rfl

@[simp] theorem exec_read (s : σ) : exec (read : Prog σ ε σ) s = (.ok s, s) := rfl

@[simp] theorem exec_update (f : σ → σ) (s : σ) :
    exec (update f : Prog σ ε Unit) s = (.ok (), f s) := rfl

@[simp] theorem exec_lift (x : Except ε α) (s : σ) : exec (lift x) s = (x, s) := by
  cases x <;> rfl

theorem exec_raiseIf (c : Prop) [Decidable c] (e : ε) (s : σ) :
    exec (raiseIf c e) s = (if c then .error e else .ok (), s) := by
  unfold raiseIf
  split <;> rfl

theorem exec_raiseIf_pos {c : Prop} [Decidable c] (h : c) (e : ε) (s : σ) :
    exec (raiseIf c e) s = (.error e, s) := by
  rw [exec_raiseIf, if_pos h]

theorem exec_raiseIf_neg {c : Prop} [Decidable c] (h : ¬c) (e : ε) (s : σ) :
    exec (raiseIf c e) s = (.ok (), s) := by
  rw [exec_raiseIf, if_neg h]

theorem exec_when_pos {c : Prop} [Decidable c] (h : c) (p : Prog σ ε Unit) (s : σ) :
    exec (when c p) s = exec p s := by
  rw [when, if_pos h]

theorem exec_when_neg {c : Prop} [Decidable c] (h : ¬c) (p : Prog σ ε Unit) (s : σ) :
    exec (when c p) s = (.ok (), s) := by
  rw [when, if_neg h]
  rfl

theorem exec_bind (p : Prog σ ε α) (f : α → Prog σ ε β) (s : σ) :
    exec (p >>= f) s = match exec p s with
      | (.ok a, s') => exec (f a) s'
      | (.error e, s') => (.error e, s') := rfl

theorem exec_bind_ok {p : Prog σ ε α} {f : α → Prog σ ε β} {s s' : σ} {a : α}
    (h : exec p s = (.ok a, s')) : exec (p >>= f) s = exec (f a) s' := by
  rw [exec_bind, h]

theorem exec_bind_error {p : Prog σ ε α} {f : α → Prog σ ε β} {s s' : σ} {e : ε}
    (h : exec p s = (.error e, s')) : exec (p >>= f) s = (.error e, s') := by
  rw [exec_bind, h]

theorem exec_bind_bind_ok {γ : Type} {p : Prog σ ε α} {f : α → Prog σ ε β} {g : β → Prog σ ε γ}
    {s s' : σ} {a : α} (h : exec p s = (.ok a, s')) :
    exec (p >>= f >>= g) s = exec (f a >>= g) s' := by
  rw [exec_bind, exec_bind_ok h, ← exec_bind]

theorem exec_bind_eq_ok {p : Prog σ ε α} {f : α → Prog σ ε β} {s s' : σ} {b : β}
    (h : exec (p >>= f) s = (.ok b, s')) :
    ∃ a t, exec p s = (.ok a, t) ∧ exec (f a) t = (.ok b, s') := by
  rcases hp : exec p s with ⟨e | a, t⟩
  · rw [exec_bind_error hp] at h
    cases h
  · rw [exec_bind_ok hp] at h
    exact ⟨a, t, rfl, h⟩

theorem exec_lift_eq_ok {x : Except ε α} {s s' : σ} {a : α} (h : exec (lift x) s = (.ok a, s')) :
    x = .ok a ∧ s' = s := by
  rw [exec_lift] at h
  exact ⟨congrArg Prod.fst h, (congrArg Prod.snd h).symm⟩

theorem exec_onLocal_ok {p : Prog τ ε α} {t t' : τ} {a : α} (h : exec p t = (.ok a, t'))
    (s : σ) : exec (onLocal p t) s = (.ok (a, t'), s) := by
  change p t = _ at h
  simp only [exec, onLocal, h]

theorem exec_onObject_ok {p : Prog (τ × σ) ε α} {t t' : τ} {s s' : σ} {a : α}
    (h : exec p (t, s) = (.ok a, (t', s'))) : exec (onObject p t) s = (.ok (a, t'), s') := by
  change p (t, s) = _ at h
  simp only [exec, onObject, h]

theorem exec_onObject_error {p : Prog (τ × σ) ε α} {t t' : τ} {s s' : σ} {e : ε}
    (h : exec p (t, s) = (.error e, (t', s'))) : exec (onObject p t) s = (.error e, s') := by
  change p (t, s) = _ at h
  simp only [exec, onObject, h]

theorem forEach_cons (x : α) (xs : List α) (body : α → Prog σ ε Unit) :
    forEach (x :: xs) body = body x >>= fun _ => forEach xs body := rfl

theorem attempts_cons {stops : Except ε α → Bool} {p : Prog σ ε α} {s s' : σ} {out : Except ε α}
    (h : exec p s = (out, s')) (hgo : stops out = false) (ps : List (Prog σ ε α)) :
    attempts stops (p :: ps) s =
      (out :: (attempts stops ps s').1, (attempts stops ps s').2) := by
  have hstop : ¬stops out = true := by
    rw [hgo]
    exact Bool.false_ne_true
  change p s = _ at h
  rw [attempts, h, if_neg hstop]

end Prog
