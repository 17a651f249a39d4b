import Th2Common.Lib.Prog

/-! Rules for two runs side by side: programs that take related states to
related outcomes in related states. -/

namespace Prog
variable {σ σ' τ τ' ε α α' β β' : Type}

def Related (S : α → α' → Prop) : Except ε α → Except ε α' → Prop
  | .ok a, .ok a' => S a a'
  | .error e, .error e' => e = e'
  | _, _ => False

def Alike (R : σ → σ' → Prop) (S : α → α' → Prop) (p : Prog σ ε α) (p' : Prog σ' ε α') : Prop :=
  ∀ s s', R s s' → Related S (exec p s).1 (exec p' s').1 ∧ R (exec p s).2 (exec p' s').2

def Any (_ : α) (_ : α') : Prop := True

theorem Related.cases {S : α → α' → Prop} {x : Except ε α} {x' : Except ε α'} (h : Related S x x') :
    (∃ a a', x = .ok a ∧ x' = .ok a' ∧ S a a') ∨ ∃ e, x = .error e ∧ x' = .error e := by
  rcases x with e | a <;> rcases x' with e' | a'
  · exact .inr ⟨e, rfl, congrArg _ (show e = e' from h).symm⟩
  · exact absurd h id
  · exact absurd h id
  · exact .inl ⟨a, a', rfl, rfl, h⟩

theorem related_of_eq {x x' : Except ε α} (h : x = x') : Related (· = ·) x x' := by
  subst h
  cases x <;> rfl

theorem related_bind {S : α → α' → Prop} {T : β → β' → Prop} {x : Except ε α} {x' : Except ε α'}
    {f : α → Except ε β} {f' : α' → Except ε β'} (hx : Related S x x')
    (hf : ∀ a a', S a a' → Related T (f a) (f' a')) : Related T (x >>= f) (x' >>= f') := by
  rcases hx.cases with ⟨a, a', rfl, rfl, h⟩ | ⟨e, rfl, rfl⟩
  · exact hf a a' h
  · rfl

section
variable {R : σ → σ' → Prop} {S : α → α' → Prop} {T : β → β' → Prop}
  {p : Prog σ ε α} {p' : Prog σ' ε α'}

theorem alike_pure {a : α} {a' : α'} (h : S a a') :
    Alike R S (pure a : Prog σ ε α) (pure a' : Prog σ' ε α') := fun _ _ hs => ⟨h, hs⟩

theorem alike_lift {x : Except ε α} {x' : Except ε α'} (h : Related S x x') :
    Alike R S (lift x : Prog σ ε α) (lift x' : Prog σ' ε α') := by
  intro s s' hs
  rw [exec_lift, exec_lift]
  exact ⟨h, hs⟩

theorem alike_read : Alike R R (read : Prog σ ε σ) (read : Prog σ' ε σ') := fun _ _ hs => ⟨hs, hs⟩

theorem alike_update {f : σ → σ} {f' : σ' → σ'} (h : ∀ s s', R s s' → R (f s) (f' s')) :
    Alike R Any (update f : Prog σ ε Unit) (update f' : Prog σ' ε Unit) :=
  fun s s' hs => ⟨trivial, h s s' hs⟩

theorem alike_bind {f : α → Prog σ ε β} {f' : α' → Prog σ' ε β'} (hp : Alike R S p p')
    (hf : ∀ a a', S a a' → Alike R T (f a) (f' a')) : Alike R T (p >>= f) (p' >>= f') := by
  intro s s' hs
  obtain ⟨hout, hstate⟩ := hp s s' hs
  rw [exec_bind, exec_bind]
  rcases hrun : exec p s with ⟨x, t⟩
  rcases hrun' : exec p' s' with ⟨x', t'⟩
  rw [hrun, hrun'] at hout hstate
  rcases hout.cases with ⟨a, a', rfl, rfl, h⟩ | ⟨e, rfl, rfl⟩
  · exact hf a a' h t t' hstate
  · exact ⟨rfl, hstate⟩

theorem alike_caught (h : Alike R S p p') : Alike R Any (caught p) (caught p') :=
  fun s s' hs => ⟨trivial, (h s s' hs).2⟩

theorem alike_zoom {R' : τ → τ' → Prop} {get : σ → τ} {get' : σ' → τ'} {set : σ → τ → σ}
    {set' : σ' → τ' → σ'} {q : Prog τ ε α} {q' : Prog τ' ε α'} (h : Alike R' S q q')
    (hget : ∀ s s', R s s' → R' (get s) (get' s'))
    (hset : ∀ s s' t t', R s s' → R' t t' → R (set s t) (set' s' t')) :
    Alike R S (zoom get set q) (zoom get' set' q') := by
  intro s s' hs
  obtain ⟨hout, hstate⟩ := h _ _ (hget s s' hs)
  exact ⟨hout, hset _ _ _ _ hs hstate⟩

def Beside (O : τ → τ' → Prop) (R : σ → σ' → Prop) (x : τ × σ) (x' : τ' × σ') : Prop :=
  O x.1 x'.1 ∧ R x.2 x'.2

theorem alike_onObject {O : τ → τ' → Prop} {q : Prog (τ × σ) ε α} {q' : Prog (τ' × σ') ε α'}
    (h : Alike (Beside O R) S q q') {t : τ} {t' : τ'} (ht : O t t') :
    Alike R (fun x x' => S x.1 x'.1 ∧ O x.2 x'.2) (onObject q t) (onObject q' t') := by
  intro s s' hs
  obtain ⟨hout, hstate⟩ := h (t, s) (t', s') ⟨ht, hs⟩
  rcases hrun : exec q (t, s) with ⟨x, u⟩
  rcases hrun' : exec q' (t', s') with ⟨x', u'⟩
  rw [hrun, hrun'] at hout hstate
  rcases hout.cases with ⟨a, a', rfl, rfl, h⟩ | ⟨e, rfl, rfl⟩
  · rw [exec_onObject_ok hrun, exec_onObject_ok hrun']
    exact ⟨⟨h, hstate.1⟩, hstate.2⟩
  · rw [exec_onObject_error hrun, exec_onObject_error hrun']
    exact ⟨rfl, hstate.2⟩

theorem alike_forEach {xs : List α} {body : α → Prog σ ε Unit} {body' : α → Prog σ' ε Unit}
    (h : ∀ x ∈ xs, Alike R Any (body x) (body' x)) :
    Alike R Any (forEach xs body) (forEach xs body') := by
  induction xs with
  | nil => exact alike_pure trivial
  | cons x xs ih =>
    rw [forEach_cons, forEach_cons]
    exact alike_bind (h x (by simp)) fun _ _ _ => ih fun y hy => h y (by simp [hy])

end

end Prog
