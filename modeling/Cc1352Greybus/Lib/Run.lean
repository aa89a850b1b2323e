import Mathlib.Tactic

/-!
Runs of a system that takes labelled steps.

* `Run.invariant`: what every step that meets its guard preserves holds in every
  state of a run whose steps all meet theirs.
* `Run.outputs`: what a run puts out, step by step.
* `Run.good_iff`: where a step from a good state leads to a good state exactly
  when it meets its guard, a run stays good exactly when all of its steps do.
* `Run.good_iff_getElem?`: the same for what is good of steps, with guards that
  depend on how many steps came before.
-/

variable {σ ι : Type*}

/-- One step of a run: the state before, the label, the state after. -/
structure RunStep (σ ι : Type*) where
  pre : σ
  label : ι
  post : σ

/-- A run from its first state through its steps to its last state. -/
inductive Run (step : σ → ι → σ → Prop) (s : σ) : List (RunStep σ ι) → σ → Prop
  | nil : Run step s [] s
  | snoc {l s' i s''} : Run step s l s' → step s' i s'' → Run step s (l ++ [⟨s', i, s''⟩]) s''

namespace Run

variable {step : σ → ι → σ → Prop} {s s' : σ} {l : List (RunStep σ ι)}

lemma forall_mem_concat {P : RunStep σ ι → Prop} {t : RunStep σ ι} :
    (∀ u ∈ l ++ [t], P u) ↔ (∀ u ∈ l, P u) ∧ P t := by
  simp [or_imp, forall_and]

/-- A run of one step. -/
lemma single {i : ι} (h : step s i s') : Run step s [⟨s, i, s'⟩] s' := nil.snoc h

/-- One run after another. -/
lemma append {l' : List (RunStep σ ι)} {s'' : σ} (hrun : Run step s l s')
    (hrun' : Run step s' l' s'') : Run step s (l ++ l') s'' := by
  induction hrun' with
  | nil => rwa [List.append_nil]
  | snoc _ hs ih =>
      rw [← List.append_assoc]
      exact ih.snoc hs

/-- A run up to one of its steps. -/
lemma split {l' : List (RunStep σ ι)} {t : RunStep σ ι} (hrun : Run step s (l ++ t :: l') s') :
    Run step s l t.pre ∧ step t.pre t.label t.post := by
  obtain ⟨steps, hsteps⟩ : ∃ steps, steps = l ++ t :: l' := ⟨_, rfl⟩
  rw [← hsteps] at hrun
  induction hrun generalizing l' with
  | nil => simp at hsteps
  | @snoc steps s' i s'' hrun hs ih =>
      rcases l'.eq_nil_or_concat with rfl | ⟨l', u, rfl⟩
      · obtain ⟨rfl, hlast⟩ := List.append_inj' hsteps rfl
        obtain rfl := List.head_eq_of_cons_eq hlast
        exact ⟨hrun, hs⟩
      · rw [List.concat_eq_append, ← List.cons_append, ← List.append_assoc] at hsteps
        exact ih (List.append_inj' hsteps rfl).1

/-- Every step of a run is one. -/
lemma steps (hrun : Run step s l s') : ∀ t ∈ l, step t.pre t.label t.post := by
  induction hrun with
  | nil => simp
  | snoc hrun hs ih => exact forall_mem_concat.mpr ⟨ih, hs⟩

/-- An invariant kept by the steps that meet a guard. -/
theorem invariant {I : σ → Prop} {G : σ → ι → σ → Prop} (h0 : I s)
    (hstep : ∀ s i s', I s → step s i s' → G s i s' → I s') (hrun : Run step s l s')
    (hguard : ∀ t ∈ l, G t.pre t.label t.post) : I s' ∧ ∀ t ∈ l, I t.post := by
  induction hrun with
  | nil => exact ⟨h0, by simp⟩
  | snoc hrun hs ih =>
      rw [forall_mem_concat] at hguard
      obtain ⟨hI, hall⟩ := ih hguard.1
      have hI' := hstep _ _ _ hI hs hguard.2
      exact ⟨hI', forall_mem_concat.mpr ⟨hall, hI'⟩⟩

/-- So it holds where each of them starts. -/
theorem invariant_pre {I : σ → Prop} {G : σ → ι → σ → Prop} (h0 : I s)
    (hstep : ∀ s i s', I s → step s i s' → G s i s' → I s') (hrun : Run step s l s')
    (hguard : ∀ t ∈ l, G t.pre t.label t.post) : ∀ t ∈ l, I t.pre := by
  intro t ht
  obtain ⟨l₁, l₂, rfl⟩ := List.append_of_mem ht
  exact (invariant h0 hstep hrun.split.1 fun u hu => hguard u (List.mem_append_left _ hu)).1

/-- What a run puts out is what its steps do, one after the other. -/
theorem outputs {α : Type*} {f : σ → List α} {Q : RunStep σ ι → List α → Prop} {I : σ → Prop}
    {G : σ → ι → σ → Prop} (h0 : I s)
    (hstep : ∀ s i s', I s → step s i s' → G s i s' →
      I s' ∧ ∃ part, f s' = f s ++ part ∧ Q ⟨s, i, s'⟩ part)
    (hrun : Run step s l s') (hguard : ∀ t ∈ l, G t.pre t.label t.post) :
    ∃ parts, f s' = f s ++ parts.flatten ∧ List.Forall₂ Q l parts := by
  suffices h : I s' ∧ ∃ parts, f s' = f s ++ parts.flatten ∧ List.Forall₂ Q l parts from h.2
  induction hrun with
  | nil => exact ⟨h0, [], by simp, .nil⟩
  | snoc hrun hs ih =>
      rw [forall_mem_concat] at hguard
      obtain ⟨hI, parts, hout, hall⟩ := ih hguard.1
      obtain ⟨hI', part, hpart, hlast⟩ := hstep _ _ _ hI hs hguard.2
      refine ⟨hI', parts ++ [part], ?_, List.rel_append hall (.cons hlast .nil)⟩
      rw [hpart, hout, List.flatten_concat, List.append_assoc]

/-- A run is good throughout exactly when each of its steps meets its guard. -/
theorem good_iff (hrun : Run step s l s') {I P : σ → Prop} {G : σ → ι → Prop} (h0 : I s)
    (hp0 : P s) (hstep : ∀ s i s', I s → P s → step s i s' → I s' ∧ (P s' ↔ G s i)) :
    (∀ t ∈ l, P t.post) ↔ ∀ t ∈ l, G t.pre t.label := by
  -- a run good so far keeps the invariant and is good at its end
  suffices h : ((∀ t ∈ l, P t.post) → I s' ∧ P s') ∧
      ((∀ t ∈ l, P t.post) ↔ ∀ t ∈ l, G t.pre t.label) from h.2
  induction hrun with
  | nil => exact ⟨fun _ => ⟨h0, hp0⟩, by simp⟩
  | snoc hrun hs ih =>
      obtain ⟨hend, hiff⟩ := ih
      simp only [forall_mem_concat]
      constructor
      · rintro ⟨hall, hlast⟩
        obtain ⟨hI, hP⟩ := hend hall
        exact ⟨(hstep _ _ _ hI hP hs).1, hlast⟩
      · constructor
        · rintro ⟨hall, hlast⟩
          obtain ⟨hI, hP⟩ := hend hall
          exact ⟨hiff.mp hall, (hstep _ _ _ hI hP hs).2.mp hlast⟩
        · rintro ⟨hall, hlast⟩
          obtain ⟨hI, hP⟩ := hend (hiff.mpr hall)
          exact ⟨hiff.mpr hall, (hstep _ _ _ hI hP hs).2.mpr hlast⟩

/-- A run's steps are good exactly when each meets a guard on its place in the run,
where what `n` good steps keep decides whether the next is good. -/
theorem good_iff_getElem? (hrun : Run step s l s') {I : ℕ → σ → Prop} {P : RunStep σ ι → Prop}
    {G : ℕ → ι → Prop} (h0 : I 0 s)
    (hstep : ∀ n s i s', I n s → step s i s' → (P ⟨s, i, s'⟩ ↔ G n i) ∧ (G n i → I (n + 1) s')) :
    (∀ t ∈ l, P t) ↔ ∀ n t, l[n]? = some t → G n t.label := by
  suffices h : ((∀ t ∈ l, P t) → I l.length s') ∧
      ((∀ t ∈ l, P t) ↔ ∀ n t, l[n]? = some t → G n t.label) from h.2
  induction hrun with
  | nil => exact ⟨fun _ => h0, by simp⟩
  | @snoc l s' i s'' hrun hs ih =>
      obtain ⟨hend, hiff⟩ := ih
      have hconcat : (∀ n t, (l ++ [⟨s', i, s''⟩])[n]? = some t → G n t.label) ↔
          (∀ n t, l[n]? = some t → G n t.label) ∧ G l.length i := by
        constructor
        · intro h
          refine ⟨fun n t ht => h n t ?_, h l.length _ List.getElem?_concat_length⟩
          rw [List.getElem?_append_left (List.getElem?_eq_some_iff.mp ht).1, ht]
        · rintro ⟨hold, hlast⟩ n t ht
          rw [List.getElem?_append] at ht
          split_ifs at ht with hn
          · exact hold n t ht
          · rw [List.getElem?_singleton] at ht
            split_ifs at ht with hzero
            obtain rfl := Option.some.inj ht
            obtain rfl : l.length = n := by omega
            exact hlast
      rw [forall_mem_concat, hconcat]
      refine ⟨?_, ?_, ?_⟩
      · rintro ⟨hall, hlast⟩
        obtain ⟨hgood, hnext⟩ := hstep _ _ _ _ (hend hall) hs
        rw [List.length_append, List.length_singleton]
        exact hnext (hgood.mp hlast)
      · rintro ⟨hall, hlast⟩
        exact ⟨hiff.mp hall, (hstep _ _ _ _ (hend hall) hs).1.mp hlast⟩
      · rintro ⟨hall, hlast⟩
        have hall := hiff.mpr hall
        exact ⟨hall, (hstep _ _ _ _ (hend hall) hs).1.mpr hlast⟩

end Run
