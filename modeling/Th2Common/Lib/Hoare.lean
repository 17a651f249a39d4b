import Th2Common.Lib.Prog

/-! Rules of pre- and postconditions for programs that may throw. -/

namespace Prog
variable {σ τ ε α β : Type}

def Ends (Q : α → σ → Prop) (E : ε → σ → Prop) : Except ε α × σ → Prop
  | (.ok a, s) => Q a s
  | (.error e, s) => E e s

/-- From a state with `P`, the program returns with `Q` or throws with `E`. -/
def Triple (P : σ → Prop) (p : Prog σ ε α) (Q : α → σ → Prop) (E : ε → σ → Prop) : Prop :=
  ∀ s, P s → Ends Q E (exec p s)

def Keeps (I : σ → Prop) (p : Prog σ ε α) : Prop := Triple I p (fun _ => I) fun _ => I

section
variable {P P' I : σ → Prop} {Q Q' : α → σ → Prop} {R : β → σ → Prop} {E E' : ε → σ → Prop}
  {p : Prog σ ε α} {f : α → Prog σ ε β}

theorem Ends.mono (hQ : ∀ a s, Q a s → Q' a s) (hE : ∀ e s, E e s → E' e s)
    {r : Except ε α × σ} (h : Ends Q E r) : Ends Q' E' r := by
  obtain ⟨e | a, s⟩ := r
  · exact hE e s h
  · exact hQ a s h

theorem Triple.conseq (h : Triple P p Q E) (hP : ∀ s, P' s → P s)
    (hQ : ∀ a s, Q a s → Q' a s) (hE : ∀ e s, E e s → E' e s) : Triple P' p Q' E' :=
  fun s hs => (h s (hP s hs)).mono hQ hE

theorem triple_lift {x : Except ε α} (hok : ∀ a s, x = .ok a → P s → Q a s)
    (herror : ∀ e s, x = .error e → P s → E e s) : Triple P (lift x) Q E := by
  intro s hs
  rw [exec_lift]
  cases x with
  | ok a => exact hok a s rfl hs
  | error e => exact herror e s rfl hs

theorem triple_bind (hp : Triple P p Q E) (hf : ∀ a, Triple (Q a) (f a) R E) :
    Triple P (p >>= f) R E := by
  intro s hs
  have h := hp s hs
  rcases he : exec p s with ⟨e | a, s'⟩ <;> rw [he] at h
  · rw [exec_bind_error he]
    exact h
  · rw [exec_bind_ok he]
    exact hf a s' h

theorem triple_when {c : Prop} [Decidable c] {p : Prog σ ε Unit} {Q : Unit → σ → Prop}
    (hp : c → Triple P p Q E) (hn : ¬c → ∀ s, P s → Q () s) : Triple P (when c p) Q E := by
  unfold when
  split
  · next h => exact hp h
  · next h => exact fun s hs => hn h s hs

theorem keeps_bind (hp : Keeps I p) (hf : ∀ a, Keeps I (f a)) : Keeps I (p >>= f) :=
  triple_bind hp hf

theorem triple_read_bind {f : σ → Prog σ ε β}
    (hf : ∀ s₀, Triple (fun s => P s ∧ s = s₀) (f s₀) R E) : Triple P (read >>= f) R E :=
  fun s hs => hf s s ⟨hs, rfl⟩

theorem keeps_read_bind {f : σ → Prog σ ε β} (hf : ∀ s, Keeps I (f s)) : Keeps I (read >>= f) :=
  fun s hs => hf s s hs

theorem keeps_pure (a : α) : Keeps I (pure a : Prog σ ε α) := fun _ h => h

theorem Triple.state {s : σ} (h : Triple P p (fun _ => I) fun _ => I) (hs : P s) :
    I (exec p s).2 := by
  have hp := h s hs
  rcases he : exec p s with ⟨e | a, s'⟩ <;> rw [he] at hp <;> exact hp

theorem Keeps.exec {s : σ} (h : Keeps I p) (hs : I s) : I (exec p s).2 := Triple.state h hs

end

section
variable {I : σ → Prop} {stops : Except ε α → Bool}

theorem attempts_ok (stops : Except ε α → Bool) (hgo : ∀ a, stops (.ok a) = false) {ps : List (Prog σ ε α)}
    (h : ∀ p ∈ ps, Triple I p (fun _ => I) fun _ _ => False) {s : σ} (hs : I s) :
    (∀ out ∈ (attempts stops ps s).1, ∃ a, out = .ok a) ∧ I (attempts stops ps s).2 := by
  induction ps generalizing s with
  | nil => exact ⟨fun _ hout => absurd hout List.not_mem_nil, hs⟩
  | cons p ps ih =>
    have hp := h p List.mem_cons_self s hs
    rcases hrun : exec p s with ⟨e | a, s'⟩
    · rw [hrun] at hp
      exact absurd hp not_false
    · rw [hrun] at hp
      obtain ⟨houts, hI⟩ := ih (fun q hq => h q (List.mem_cons_of_mem p hq)) hp
      rw [attempts_cons hrun (hgo a)]
      refine ⟨fun out hout => ?_, hI⟩
      rcases List.mem_cons.mp hout with rfl | hout
      · exact ⟨a, rfl⟩
      · exact houts out hout

theorem attempts_append (stops : Except ε α → Bool) (ps qs : List (Prog σ ε α)) (s : σ) :
    (attempts stops (ps ++ qs) s).2 = (attempts stops ps s).2 ∨
      (attempts stops (ps ++ qs) s).2 = (attempts stops qs (attempts stops ps s).2).2 := by
  induction ps generalizing s with
  | nil => exact .inr rfl
  | cons p ps ih =>
    rw [List.cons_append, attempts, attempts]
    split
    · exact .inl rfl
    · exact ih _

end

end Prog
