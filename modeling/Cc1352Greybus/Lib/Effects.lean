import Mathlib.Tactic

/-!
Programs that read and write a state and may stop on a fault, as `EStateM`
programs, and the rules their proofs go by.

* `Ends m s a s'`: from `s` the program returns `a` and leaves `s'`; a program
  that stops on a fault does not end. The `ends_*` rules take a program apart
  from its first step on.
* `Stops m s e`: from `s` the program stops on the fault `e`; `Avoids e m`: it never
  does; `Returns m s`: it stops on none.
* `Respects R m`: whatever the program does, it relates the state it starts from
  to the state it leaves. For a preorder `R` this composes.
* `Always R m`: the same, also for where it stops.
* `zoom`: a program over a part of the state, run on the whole.
-/

namespace Effects

universe u

variable {ε σ τ α β : Type u}

/-- Run from `s`, the program returns `a` and leaves `s'`. -/
def Ends (m : EStateM ε σ α) (s : σ) (a : α) (s' : σ) : Prop := m.run s = .ok a s'

/-- A program ends in one way. -/
lemma Ends.unique {m : EStateM ε σ α} {s s₁ s₂ : σ} {a₁ a₂ : α} (h₁ : Ends m s a₁ s₁)
    (h₂ : Ends m s a₂ s₂) : a₁ = a₂ ∧ s₁ = s₂ := by
  have h := h₁.symm.trans h₂
  injection h with ha hs
  exact ⟨ha, hs⟩

@[simp] lemma ends_pure {a b : α} {s s' : σ} :
    Ends (pure a : EStateM ε σ α) s b s' ↔ a = b ∧ s = s' := by
  simp [Ends]

@[simp] lemma ends_get {s t s' : σ} : Ends (get : EStateM ε σ σ) s t s' ↔ s = t ∧ s = s' := by
  simp [Ends]

@[simp] lemma ends_modify {f : σ → σ} {s s' : σ} {u : PUnit} :
    Ends (modify f : EStateM ε σ PUnit) s u s' ↔ f s = s' := by
  simp [Ends]

@[simp] lemma ends_modifyGet {f : σ → α × σ} {a : α} {s s' : σ} :
    Ends (modifyGet f : EStateM ε σ α) s a s' ↔ (f s).1 = a ∧ (f s).2 = s' := by
  simp [Ends]

@[simp] lemma ends_throw {e : ε} {a : α} {s s' : σ} :
    Ends (throw e : EStateM ε σ α) s a s' ↔ False := by
  have hrun : (throw e : EStateM ε σ α).run s = .error e s := rfl
  simp [Ends, hrun]

lemma Ends.pure (a : α) (s : σ) : Ends (pure a : EStateM ε σ α) s a s := rfl

lemma Ends.get (s : σ) : Ends (get : EStateM ε σ σ) s s s := rfl

lemma Ends.set (t s : σ) : Ends (set t : EStateM ε σ PUnit) s ⟨⟩ t := rfl

lemma Ends.modify (f : σ → σ) (s : σ) : Ends (modify f : EStateM ε σ PUnit) s ⟨⟩ (f s) := rfl

/-- A sequence ends when both of its parts do. -/
lemma ends_bind {m : EStateM ε σ α} {f : α → EStateM ε σ β} {b : β} {s s'' : σ} :
    Ends (m >>= f) s b s'' ↔ ∃ a s', Ends m s a s' ∧ Ends (f a) s' b s'' := by
  rw [Ends, EStateM.run_bind]
  cases h : m.run s with
  | ok a s' =>
      refine ⟨fun hf => ⟨a, s', h, hf⟩, ?_⟩
      rintro ⟨a', t, ha, hf⟩
      obtain ⟨rfl, rfl⟩ := Ends.unique h ha
      exact hf
  | error e s' => simp [Ends, h]

/-- The second half of a sequence whose first half is known to end. -/
lemma Ends.bind_iff {m : EStateM ε σ α} {f : α → EStateM ε σ β} {a : α} {b : β} {s s' s'' : σ}
    (h : Ends m s a s') : Ends (m >>= f) s b s'' ↔ Ends (f a) s' b s'' := by
  rw [ends_bind]
  refine ⟨?_, fun hf => ⟨a, s', h, hf⟩⟩
  rintro ⟨a', t, ha, hf⟩
  obtain ⟨rfl, rfl⟩ := h.unique ha
  exact hf

/-- Two halves that end, one after the other. -/
lemma Ends.bind {m : EStateM ε σ α} {f : α → EStateM ε σ β} {a : α} {b : β} {s s' s'' : σ}
    (h : Ends m s a s') (hf : Ends (f a) s' b s'') : Ends (m >>= f) s b s'' :=
  h.bind_iff.mpr hf

lemma Ends.run_bind {m : EStateM ε σ α} {f : α → EStateM ε σ β} {a : α} {s s' : σ}
    (h : Ends m s a s') : (m >>= f).run s = (f a).run s' := by
  rw [EStateM.run_bind, show m.run s = .ok a s' from h]

/-- Two sequences that go on alike from wherever the first half ends. -/
lemma bind_congr_of_ends {m : EStateM ε σ α} {f g : α → EStateM ε σ β}
    (h : ∀ s a s', Ends m s a s' → f a = g a) : m >>= f = m >>= g := by
  funext s
  show (m >>= f).run s = (m >>= g).run s
  rw [EStateM.run_bind, EStateM.run_bind]
  cases hm : m.run s with
  | ok a s' => exact congrArg (EStateM.run · s') (h s a s' hm)
  | error e s' => rfl

/-- A choice ends as the side that is chosen. -/
lemma ends_ite {c : Prop} [Decidable c] {m n : EStateM ε σ α} {a : α} {s s' : σ} :
    Ends (if c then m else n) s a s' ↔ c ∧ Ends m s a s' ∨ ¬ c ∧ Ends n s a s' := by
  by_cases h : c <;> simp [h]

/-- A result that is thrown away. -/
@[simp] lemma ends_discard {m : EStateM ε σ α} {u : PUnit} {s s' : σ} :
    Ends (discard m) s u s' ↔ ∃ a, Ends m s a s' := by
  rw [show discard m = m >>= fun _ => pure PUnit.unit from
    (bind_pure_comp (fun _ => PUnit.unit) m).symm, ends_bind]
  constructor
  · rintro ⟨a, t, h, hp⟩
    obtain ⟨-, rfl⟩ := ends_pure.mp hp
    exact ⟨a, h⟩
  · rintro ⟨a, h⟩
    exact ⟨a, s', h, rfl⟩

lemma Ends.discard {m : EStateM ε σ α} {a : α} {s s' : σ} (h : Ends m s a s') :
    Ends (discard m) s ⟨⟩ s' :=
  ends_discard.mpr ⟨a, h⟩

/-- The state a program leaves, on a fault the one it stopped in. -/
def final (m : EStateM ε σ α) (s : σ) : σ :=
  match m.run s with
  | .ok _ s' => s'
  | .error _ s' => s'

lemma Ends.final_eq {m : EStateM ε σ α} {s s' : σ} {a : α} (h : Ends m s a s') :
    final m s = s' := by
  rw [final, show m.run s = .ok a s' from h]

/-- A sequence whose first half is known to end is left where its second half is. -/
lemma Ends.final_bind {m : EStateM ε σ α} {a : α} {s s' : σ} (h : Ends m s a s')
    (f : α → EStateM ε σ β) : final (m >>= f) s = final (f a) s' := by
  rw [final, EStateM.run_bind, show m.run s = .ok a s' from h]
  rfl

@[simp] lemma final_discard (m : EStateM ε σ α) (s : σ) : final (discard m) s = final m s := by
  rw [show discard m = m >>= fun _ => pure PUnit.unit from
    (bind_pure_comp (fun _ => PUnit.unit) m).symm, final, final, EStateM.run_bind]
  cases m.run s with
  | ok a s' => rfl
  | error e s' => rfl

/-- What a program returns, if it ends. -/
def result (m : EStateM ε σ α) (s : σ) : Option α :=
  match m.run s with
  | .ok a _ => some a
  | .error _ _ => none

/-- A program that is seen to return ends in its final state. -/
lemma ends_final {m : EStateM ε σ α} {s : σ} {a : α} (h : result m s = some a) :
    Ends m s a (final m s) := by
  rw [result] at h
  rw [Ends, final]
  cases hrun : m.run s with
  | ok b s' =>
      rw [hrun] at h
      cases h
      rfl
  | error e s' =>
      rw [hrun] at h
      cases h

/-! ### Programs that stop -/

/-- Run from `s`, the program stops on the fault `e`. -/
def Stops (m : EStateM ε σ α) (s : σ) (e : ε) : Prop := ∃ s', m.run s = .error e s'

/-- What a program stops on, if it does. -/
def fault (m : EStateM ε σ α) (s : σ) : Option ε :=
  match m.run s with
  | .ok _ _ => none
  | .error e _ => some e

/-- A program that is seen to stop does. -/
lemma stops_of_fault {m : EStateM ε σ α} {s : σ} {e : ε} (h : fault m s = some e) :
    Stops m s e := by
  rw [fault] at h
  cases hrun : m.run s with
  | ok a s' =>
      rw [hrun] at h
      cases h
  | error e' s' =>
      rw [hrun] at h
      cases h
      exact ⟨s', hrun⟩

/-- A program that ends does not stop. -/
lemma Ends.not_stops {m : EStateM ε σ α} {s s' : σ} {a : α} (h : Ends m s a s') (e : ε) :
    ¬ Stops m s e := by
  rintro ⟨t, ht⟩
  cases h.symm.trans ht

/-- It stops on one fault. -/
lemma Stops.unique {m : EStateM ε σ α} {s : σ} {e₁ e₂ : ε} (h₁ : Stops m s e₁)
    (h₂ : Stops m s e₂) : e₁ = e₂ := by
  obtain ⟨s₁, h₁⟩ := h₁
  obtain ⟨s₂, h₂⟩ := h₂
  cases h₁.symm.trans h₂
  rfl

@[simp] lemma stops_throw {e e' : ε} {s : σ} :
    Stops (throw e : EStateM ε σ α) s e' ↔ e = e' := by
  have hrun : (throw e : EStateM ε σ α).run s = .error e s := rfl
  simp [Stops, hrun]

/-- A sequence stops in its first half, or ends that and stops in its second. -/
lemma stops_bind {m : EStateM ε σ α} {f : α → EStateM ε σ β} {s : σ} {e : ε} :
    Stops (m >>= f) s e ↔ Stops m s e ∨ ∃ a s', Ends m s a s' ∧ Stops (f a) s' e := by
  rw [Stops, EStateM.run_bind, Stops]
  cases h : m.run s with
  | ok a s' =>
      constructor
      · exact fun hf => Or.inr ⟨a, s', h, hf⟩
      · rintro (⟨t, ht⟩ | ⟨a', t, ha, hf⟩)
        · cases ht
        · obtain ⟨rfl, rfl⟩ := Ends.unique h ha
          exact hf
  | error e' s' => simp [Ends, h]

/-- The second half of a sequence whose first half is known to end. -/
lemma Ends.stops_bind_iff {m : EStateM ε σ α} {f : α → EStateM ε σ β} {a : α} {s s' : σ} {e : ε}
    (h : Ends m s a s') : Stops (m >>= f) s e ↔ Stops (f a) s' e := by
  rw [stops_bind, or_iff_right (h.not_stops e)]
  constructor
  · rintro ⟨a', t, ha, hf⟩
    obtain ⟨rfl, rfl⟩ := h.unique ha
    exact hf
  · exact fun hf => ⟨a, s', h, hf⟩

/-- A result that is thrown away. -/
@[simp] lemma stops_discard {m : EStateM ε σ α} {s : σ} {e : ε} :
    Stops (discard m) s e ↔ Stops m s e := by
  rw [show discard m = m >>= fun _ => pure PUnit.unit from
    (bind_pure_comp (fun _ => PUnit.unit) m).symm, stops_bind, or_iff_left]
  rintro ⟨a, s', -, h⟩
  exact (Ends.pure _ s').not_stops _ h

/-! ### Programs that return -/

/-- Run from `s`, the program returns. -/
def Returns (m : EStateM ε σ α) (s : σ) : Prop := ∃ a s', Ends m s a s'

lemma Ends.returns {m : EStateM ε σ α} {s s' : σ} {a : α} (h : Ends m s a s') : Returns m s :=
  ⟨a, s', h⟩

lemma Returns.not_stops {m : EStateM ε σ α} {s : σ} (h : Returns m s) (e : ε) : ¬ Stops m s e := by
  obtain ⟨a, s', h⟩ := h
  exact h.not_stops e

lemma Stops.not_returns {m : EStateM ε σ α} {s : σ} {e : ε} (h : Stops m s e) : ¬ Returns m s :=
  fun hret => hret.not_stops e h

/-- It is one or the other. -/
lemma returns_or_stops (m : EStateM ε σ α) (s : σ) : Returns m s ∨ ∃ e, Stops m s e := by
  cases h : m.run s with
  | ok a s' => exact Or.inl ⟨a, s', h⟩
  | error e s' => exact Or.inr ⟨e, s', h⟩

lemma returns_pure (a : α) (s : σ) : Returns (pure a : EStateM ε σ α) s := (Ends.pure a s).returns

@[simp] lemma not_returns_throw (e : ε) (s : σ) : ¬ Returns (throw e : EStateM ε σ α) s :=
  (stops_throw.mpr rfl).not_returns

/-- A sequence returns when its first half does and its second does from there. -/
lemma returns_bind {m : EStateM ε σ α} {f : α → EStateM ε σ β} {s : σ} :
    Returns (m >>= f) s ↔ ∃ a s', Ends m s a s' ∧ Returns (f a) s' := by
  constructor
  · rintro ⟨b, s'', h⟩
    obtain ⟨a, s', hm, hf⟩ := ends_bind.mp h
    exact ⟨a, s', hm, hf.returns⟩
  · rintro ⟨a, s', hm, b, s'', hf⟩
    exact (hm.bind hf).returns

/-- The second half of a sequence whose first half is known to end. -/
lemma Ends.returns_bind_iff {m : EStateM ε σ α} {f : α → EStateM ε σ β} {a : α} {s s' : σ}
    (h : Ends m s a s') : Returns (m >>= f) s ↔ Returns (f a) s' :=
  exists_congr fun _ => exists_congr fun _ => h.bind_iff

/-- A first half that returns, and a second that does from wherever that leaves it. -/
lemma Returns.bind {m : EStateM ε σ α} {f : α → EStateM ε σ β} {s : σ} (hm : Returns m s)
    (hf : ∀ a s', Ends m s a s' → Returns (f a) s') : Returns (m >>= f) s := by
  obtain ⟨a, s', h⟩ := hm
  exact h.returns_bind_iff.mpr (hf a s' h)

/-- A second half that always returns. -/
lemma returns_bind_of_forall {m : EStateM ε σ α} {f : α → EStateM ε σ β} {s : σ}
    (hf : ∀ a s', Returns (f a) s') : Returns (m >>= f) s ↔ Returns m s := by
  rw [returns_bind]
  exact exists_congr fun a => exists_congr fun s' => and_iff_left (hf a s')

lemma returns_ite {c : Prop} [Decidable c] {m n : EStateM ε σ α} {s : σ} (hm : c → Returns m s)
    (hn : ¬ c → Returns n s) : Returns (if c then m else n) s := by
  split_ifs with h
  · exact hm h
  · exact hn h

@[simp] lemma returns_discard {m : EStateM ε σ α} {s : σ} :
    Returns (discard m) s ↔ Returns m s := by
  rw [show discard m = m >>= fun _ => pure PUnit.unit from
    (bind_pure_comp (fun _ => PUnit.unit) m).symm, returns_bind_of_forall fun _ => returns_pure _]

/-- The program never stops on the fault `e`. -/
def Avoids (e : ε) (m : EStateM ε σ α) : Prop := ∀ s, ¬ Stops m s e

section Avoids

variable {e : ε}

lemma avoids_of_ends {m : EStateM ε σ α} (h : ∀ s, ∃ a s', Ends m s a s') : Avoids e m := by
  intro s
  obtain ⟨a, s', hend⟩ := h s
  exact hend.not_stops e

lemma avoids_pure (a : α) : Avoids e (pure a : EStateM ε σ α) :=
  avoids_of_ends fun s => ⟨a, s, Ends.pure a s⟩

lemma avoids_throw {e' : ε} (h : e' ≠ e) : Avoids e (throw e' : EStateM ε σ α) :=
  fun _ hs => h (stops_throw.mp hs)

lemma Avoids.bind {m : EStateM ε σ α} {f : α → EStateM ε σ β} (hm : Avoids e m)
    (hf : ∀ a, Avoids e (f a)) : Avoids e (m >>= f) := by
  intro s h
  rcases stops_bind.mp h with h | ⟨a, s', -, h⟩
  · exact hm s h
  · exact hf a s' h

lemma avoids_ite {c : Prop} [Decidable c] {m n : EStateM ε σ α} (hm : Avoids e m)
    (hn : Avoids e n) : Avoids e (if c then m else n) := by
  split_ifs
  · exact hm
  · exact hn

end Avoids

/-! ### What a program may change -/

/-- The program relates the state it starts from to the state it leaves. -/
def Respects (R : σ → σ → Prop) (m : EStateM ε σ α) : Prop :=
  ∀ ⦃s a s'⦄, Ends m s a s' → R s s'

section Respects

variable {R : σ → σ → Prop}

lemma respects_pure [Std.Refl R] (a : α) : Respects R (pure a : EStateM ε σ α) := by
  rintro s b s' h
  obtain ⟨-, rfl⟩ := ends_pure.mp h
  exact refl_of R s

lemma respects_throw (e : ε) : Respects R (throw e : EStateM ε σ α) :=
  fun _ _ _ h => (ends_throw.mp h).elim

lemma Respects.bind [IsTrans σ R] {m : EStateM ε σ α} {f : α → EStateM ε σ β}
    (hm : Respects R m) (hf : ∀ a, Respects R (f a)) : Respects R (m >>= f) := by
  intro s b s'' h
  obtain ⟨a, s', h₁, h₂⟩ := ends_bind.mp h
  exact trans_of R (hm h₁) (hf a h₂)

lemma Respects.discard {m : EStateM ε σ α} (hm : Respects R m) : Respects R (discard m) := by
  intro s u s' h
  obtain ⟨a, ha⟩ := ends_discard.mp h
  exact hm ha

lemma respects_ite {c : Prop} [Decidable c] {m n : EStateM ε σ α} (hm : Respects R m)
    (hn : Respects R n) : Respects R (if c then m else n) := by
  split_ifs
  · exact hm
  · exact hn

lemma Respects.mono {R' : σ → σ → Prop} {m : EStateM ε σ α} (hm : Respects R m)
    (h : ∀ s s', R s s' → R' s s') : Respects R' m :=
  fun _ _ _ he => h _ _ (hm he)

end Respects

/-! ### Programs that may stop -/

/-- The program relates the state it starts from to the one it is left in, be it at
its end or where it stops. -/
def Always (R : σ → σ → Prop) (m : EStateM ε σ α) : Prop := ∀ s, R s (final m s)

section Always

variable {R : σ → σ → Prop}

lemma always_pure [Std.Refl R] (a : α) : Always R (pure a : EStateM ε σ α) :=
  fun s => refl_of R s

lemma always_throw [Std.Refl R] (e : ε) : Always R (throw e : EStateM ε σ α) :=
  fun s => refl_of R s

/-- A sequence, the second half of which may count on the first. -/
lemma Always.bind_of_ends [IsTrans σ R] {m : EStateM ε σ α} {f : α → EStateM ε σ β}
    (hm : Always R m) (hf : ∀ s a s', Ends m s a s' → Always R (f a)) : Always R (m >>= f) := by
  intro s
  have hs := hm s
  rw [final] at hs ⊢
  rw [EStateM.run_bind]
  cases hrun : m.run s with
  | ok a s' =>
      rw [hrun] at hs
      exact trans_of R hs (hf s a s' hrun s')
  | error e s' =>
      rw [hrun] at hs
      exact hs

lemma Always.bind [IsTrans σ R] {m : EStateM ε σ α} {f : α → EStateM ε σ β}
    (hm : Always R m) (hf : ∀ a, Always R (f a)) : Always R (m >>= f) :=
  hm.bind_of_ends fun _ a _ _ => hf a

lemma Always.discard [Std.Refl R] [IsTrans σ R] {m : EStateM ε σ α} (hm : Always R m) :
    Always R (Functor.discard m) := by
  rw [show Functor.discard m = m >>= fun _ => pure PUnit.unit from
    (bind_pure_comp (fun _ => PUnit.unit) m).symm]
  exact hm.bind fun _ => always_pure _

lemma always_ite {c : Prop} [Decidable c] {m n : EStateM ε σ α} (hm : Always R m)
    (hn : Always R n) : Always R (if c then m else n) := by
  split_ifs
  · exact hm
  · exact hn

end Always

/-! ### A part of the state -/

/-- A program over a part of the state, on the whole. -/
def zoom (part : σ → τ) (put : τ → σ → σ) (m : EStateM ε τ α) : EStateM ε σ α := fun s =>
  match m.run (part s) with
  | .ok a t => .ok a (put t s)
  | .error e t => .error e (put t s)

lemma ends_zoom {part : σ → τ} {put : τ → σ → σ} {m : EStateM ε τ α} {a : α} {s s' : σ} :
    Ends (zoom part put m) s a s' ↔ ∃ t, Ends m (part s) a t ∧ put t s = s' := by
  rw [Ends, EStateM.run, zoom]
  cases h : m.run (part s) with
  | ok b t => simp [Ends, h]
  | error e t => simp [Ends, h]

lemma final_zoom (part : σ → τ) (put : τ → σ → σ) (m : EStateM ε τ α) (s : σ) :
    final (zoom part put m) s = put (final m (part s)) s := by
  rw [final, final, EStateM.run, zoom]
  cases m.run (part s) with
  | ok a t => rfl
  | error e t => rfl

end Effects
