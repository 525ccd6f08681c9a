import Mathlib.Data.List.Induction

/-!
# Runs of a system and what they preserve

A program that handles one event after the other is a function `step : σ → ε → σ`; a run is a
list of events.

* `run step s es`: the state after the events `es`.
* `Along step C s es`: every event of `es` meets the condition `C` in the state it is handled in.
  The condition sees the state before the event and the event, never the state after it.
* `run_inv`: an invariant that every step meeting `C` keeps holds after every run whose steps
  all meet `C`.
* `run_frame`: what no step changes is the same after every run.
* `foldlM_inv`: the invariant rule for a loop that may fail, whose turns all meet a condition.
* `Since A B es`: `A` happened in `es` and `B` not since. `run_history`: the invariant rule where
  the invariant is about the state and the events before it.
* `along_iff_of_inv`: when a step from a good state reaches a good state exactly if it meets `C`,
  the states of a run are all good exactly if its steps all meet `C`. `along_iff_of_inv_under`:
  the same for the runs whose steps all meet a further condition. `along_and_iff`: the same where
  the steps have to have a property too. `along_congr_under`: two conditions
  that agree on such steps; `along_running_congr`: for a process that may crash.
-/

namespace Basebox

variable {σ γ ε : Type}

/-- The state after the events `es`. -/
def run (step : σ → ε → σ) (s : σ) (es : List ε) : σ := es.foldl step s

/-- Every event meets `C` in the state in which it is handled. -/
def Along (step : σ → ε → σ) (C : σ → ε → Prop) : σ → List ε → Prop
  | _, [] => True
  | s, e :: es => C s e ∧ Along step C (step s e) es

@[simp] theorem run_nil (step : σ → ε → σ) (s : σ) : run step s [] = s := rfl

@[simp] theorem run_cons (step : σ → ε → σ) (s : σ) (e : ε) (es : List ε) :
    run step s (e :: es) = run step (step s e) es := rfl

theorem run_append (step : σ → ε → σ) (s : σ) (es fs : List ε) :
    run step s (es ++ fs) = run step (run step s es) fs := List.foldl_append

theorem run_concat (step : σ → ε → σ) (s : σ) (es : List ε) (e : ε) :
    run step s (es ++ [e]) = step (run step s es) e := run_append step s es [e]

instance Along.decidable (step : σ → ε → σ) (C : σ → ε → Prop) [∀ s e, Decidable (C s e)] :
    ∀ s es, Decidable (Along step C s es)
  | _, [] => .isTrue trivial
  | s, e :: es =>
    match (inferInstance : Decidable (C s e)), Along.decidable step C (step s e) es with
    | .isTrue h, .isTrue h' => .isTrue ⟨h, h'⟩
    | .isFalse h, _ => .isFalse fun k => h k.1
    | _, .isFalse h => .isFalse fun k => h k.2

section Rules

variable {step : σ → ε → σ} {C : σ → ε → Prop} {s : σ}

theorem Along.append {es fs : List ε} :
    Along step C s (es ++ fs) ↔ Along step C s es ∧ Along step C (run step s es) fs := by
  induction es generalizing s with
  | nil => simp [Along]
  | cons e es ih => simp only [List.cons_append, Along, run_cons, ih, and_assoc]

/-- Two conditions that hold along a run hold along it together. -/
theorem Along.and {D : σ → ε → Prop} {es : List ε} (h : Along step C s es)
    (h' : Along step D s es) : Along step (fun s e => C s e ∧ D s e) s es := by
  induction es generalizing s with
  | nil => trivial
  | cons e es ih => exact ⟨⟨h.1, h'.1⟩, ih h.2 h'.2⟩

/-- The condition of a run holds of every beginning of it. -/
theorem Along.take {es : List ε} (h : Along step C s es) (n : Nat) :
    Along step C s (es.take n) := by
  rw [← List.take_append_drop n es, Along.append] at h
  exact h.1

/-- The condition at each event of a run. -/
theorem along_iff_split {es : List ε} : Along step C s es ↔
    ∀ es₁ e es₂, es = es₁ ++ e :: es₂ → C (run step s es₁) e := by
  constructor
  · rintro h es₁ e es₂ rfl
    exact (Along.append.mp h).2.1
  · intro h
    induction es generalizing s with
    | nil => trivial
    | cons e es ih =>
      refine ⟨h [] e es rfl, ih fun es₁ e' es₂ he => ?_⟩
      exact h (e :: es₁) e' es₂ (by rw [he, List.cons_append])

/-- The frame rule: what no step changes is the same after every run. -/
theorem run_frame {β : Type} {f : σ → β} (h : ∀ s e, f (step s e) = f s) (s : σ) (es : List ε) :
    f (run step s es) = f s := by
  induction es generalizing s with
  | nil => rfl
  | cons e es ih => rw [run_cons, ih, h]

/-- **The invariant rule.** What the first state has and every step meeting `C` keeps holds
after every run whose steps all meet `C`. -/
theorem run_inv {I : σ → Prop} (h0 : I s) (hstep : ∀ s e, I s → C s e → I (step s e))
    {es : List ε} (hC : Along step C s es) : I (run step s es) := by
  induction es generalizing s with
  | nil => exact h0
  | cons e es ih => exact ih (hstep s e h0 hC.1) hC.2

/-- The invariant rule without a condition. -/
theorem run_inv_all {I : σ → Prop} (h0 : I s) (hstep : ∀ s e, I s → I (step s e)) (es : List ε) :
    I (run step s es) := by
  induction es generalizing s with
  | nil => exact h0
  | cons e es ih => exact ih (hstep s e h0)

/-- The invariant rule where the condition is on the states that the run reaches. -/
theorem run_inv_of_reached {I Q : σ → Prop} (h0 : I s)
    (hstep : ∀ s e, I s → Q (step s e) → I (step s e)) {es : List ε}
    (hQ : ∀ n, Q (run step s (es.take n))) : I (run step s es) := by
  induction es generalizing s with
  | nil => exact h0
  | cons e es ih => exact ih (hstep s e h0 (hQ 1)) fun n => hQ (n + 1)

/-- Two conditions that agree on the steps of a run that meet `F` hold along it together. -/
theorem along_congr_under {I : σ → Prop} {F D : σ → ε → Prop} (h0 : I s)
    (hI : ∀ s e, I s → F s e → I (step s e)) (hiff : ∀ s e, I s → F s e → (C s e ↔ D s e))
    {es : List ε} (hF : Along step F s es) : Along step C s es ↔ Along step D s es := by
  induction es generalizing s with
  | nil => exact Iff.rfl
  | cons e es ih => exact and_congr (hiff s e h0 hF.1) (ih (hI s e h0 hF.1) hF.2)

/-- A condition on the steps of a process that has not crashed. -/
def Running (C : γ → ε → Prop) (y : Option γ) (e : ε) : Prop := ∀ x, y = some x → C x e

/-- `along_congr_under` for a process that may crash. -/
theorem along_running_congr {step : Option γ → ε → Option γ} {I : γ → Prop} {F C D : γ → ε → Prop}
    {x₀ : γ} (h0 : I x₀) (hnone : ∀ e, step none e = none)
    (hI : ∀ x e y, I x → F x e → step (some x) e = some y → I y)
    (hiff : ∀ x e, I x → F x e → (C x e ↔ D x e)) {es : List ε}
    (hF : Along step (Running F) (some x₀) es) :
    Along step (Running C) (some x₀) es ↔ Along step (Running D) (some x₀) es := by
  refine along_congr_under (I := fun y => ∀ x, y = some x → I x) ?_ ?_ ?_ hF
  · intro x hx
    cases hx
    exact h0
  · intro y e hy he z hz
    cases y with
    | none =>
      rw [hnone] at hz
      cases hz
    | some x => exact hI x e z (hy x rfl) (he x rfl) hz
  · intro y e hy he
    exact forall₂_congr fun x hx => hiff x e (hy x hx) (he x hx)

/-- If a step from a state with `I` and `P` keeps `I`, and keeps `P` exactly when it meets `C`,
then all states of a run have `P` exactly when all its steps meet `C`. The steps may have to meet a
condition `F` for that. -/
theorem along_iff_of_inv_under {I P : σ → Prop} {F : σ → ε → Prop} (hI0 : I s) (h0 : P s)
    (hI : ∀ s e, I s → P s → F s e → I (step s e))
    (hstep : ∀ s e, I s → P s → F s e → (P (step s e) ↔ C s e)) {es : List ε}
    (hF : Along step F s es) :
    (∀ n, P (run step s (es.take n))) ↔ Along step C s es := by
  induction es generalizing s with
  | nil => exact iff_of_true (fun n => by simpa using h0) trivial
  | cons e es ih =>
    have hiff := hstep s e hI0 h0 hF.1
    have hrest := fun h1 => ih (hI s e hI0 h0 hF.1) h1 hF.2
    constructor
    · intro h
      have h1 : P (step s e) := h 1
      exact ⟨hiff.mp h1, (hrest h1).mp fun n => h (n + 1)⟩
    · rintro ⟨hC, hes⟩ (_ | n)
      · exact h0
      · exact (hrest (hiff.mpr hC)).mpr hes n

/-- The rule without such a condition. -/
theorem along_iff_of_inv {I P : σ → Prop} (hI0 : I s) (h0 : P s)
    (hI : ∀ s e, I s → P s → I (step s e))
    (hstep : ∀ s e, I s → P s → (P (step s e) ↔ C s e)) (es : List ε) :
    (∀ n, P (run step s (es.take n))) ↔ Along step C s es :=
  along_iff_of_inv_under (F := fun _ _ => True) hI0 h0 (fun s e hi hp _ => hI s e hi hp)
    (fun s e hi hp _ => hstep s e hi hp) (along_iff_split.mpr fun _ _ _ _ => trivial)

/-- The invariant rule for a loop that may fail, as a run of its own. -/
theorem foldlM_inv {f : σ → ε → Option σ} {C : Option σ → ε → Prop} {I : σ → Prop} {l : List ε}
    (hstep : ∀ a ∈ l, ∀ x y, I x → C (some x) a → f x a = some y → I y) {x y : σ} (h0 : I x)
    (hC : Along (fun x a => x.bind fun x => f x a) C (some x) l) (h : l.foldlM f x = some y) :
    I y := by
  induction l generalizing x with
  | nil =>
    cases h
    exact h0
  | cons a l ih =>
    rw [List.foldlM_cons] at h
    obtain ⟨z, hz, h⟩ := Option.bind_eq_some_iff.mp h
    have hrest : Along (fun x a => x.bind fun x => f x a) C (some z) l := by
      rw [← hz]
      exact hC.2
    refine ih (fun b hb => hstep b (List.mem_cons_of_mem a hb)) ?_ hrest h
    exact hstep a List.mem_cons_self x z h0 hC.1 hz

/-- The rule without an invariant beside `P`. -/
theorem along_iff_of_step_iff {P : σ → Prop} (h0 : P s)
    (hstep : ∀ s e, P s → (P (step s e) ↔ C s e)) (es : List ε) :
    (∀ n, P (run step s (es.take n))) ↔ Along step C s es :=
  along_iff_of_inv (I := fun _ => True) trivial h0 (fun _ _ _ _ => trivial)
    (fun s e _ h => hstep s e h) es

/-- If a step from a state with `I` and `P` keeps `I`, and meets `A` and reaches a state with `P`
exactly when it meets `C`, a run meets `A` and its states all have `P` exactly when it meets `C`. -/
theorem along_and_iff_of_inv {A : σ → ε → Prop} {I P : σ → Prop} (hI0 : I s) (h0 : P s)
    (hI : ∀ s e, I s → P s → I (step s e))
    (hstep : ∀ s e, I s → P s → (P (step s e) ∧ A s e ↔ C s e)) (es : List ε) :
    (∀ n, P (run step s (es.take n))) ∧ Along step A s es ↔ Along step C s es := by
  induction es generalizing s with
  | nil => exact iff_of_true ⟨fun n => by simpa using h0, trivial⟩ trivial
  | cons e es ih =>
    have hI1 := hI s e hI0 h0
    constructor
    · rintro ⟨hP, hA, hAs⟩
      have h1 : P (step s e) := hP 1
      exact ⟨(hstep s e hI0 h0).mp ⟨h1, hA⟩, (ih hI1 h1).mp ⟨fun n => hP (n + 1), hAs⟩⟩
    · rintro ⟨hC, hCs⟩
      obtain ⟨h1, hA⟩ := (hstep s e hI0 h0).mpr hC
      obtain ⟨hP, hAs⟩ := (ih hI1 h1).mpr hCs
      refine ⟨?_, hA, hAs⟩
      rintro (_ | n)
      · exact h0
      · exact hP n

/-- The rule without an invariant beside `P`. -/
theorem along_and_iff {A : σ → ε → Prop} {P : σ → Prop} (h0 : P s)
    (hstep : ∀ s e, P s → (P (step s e) ∧ A s e ↔ C s e)) (es : List ε) :
    (∀ n, P (run step s (es.take n))) ∧ Along step A s es ↔ Along step C s es :=
  along_and_iff_of_inv (I := fun _ => True) trivial h0 (fun _ _ _ _ => trivial)
    (fun s e _ h => hstep s e h) es

/-- The invariant rule where the invariant relates the state to the events before it. -/
theorem run_history {R : List ε → σ → Prop} (h0 : R [] s)
    (hstep : ∀ es e, R es (run step s es) → R (es ++ [e]) (step (run step s es) e)) (es : List ε) :
    R es (run step s es) := by
  induction es using List.reverseRecOn with
  | nil => exact h0
  | append_singleton es e ih =>
    rw [run_concat]
    exact hstep es e ih

end Rules

/-! ## What happened last -/

/-- An event with `A` is in `es`, and none with `B` after it. -/
def Since (A B : ε → Prop) (es : List ε) : Prop :=
  ∃ es₁ e es₂, es = es₁ ++ e :: es₂ ∧ A e ∧ ∀ e' ∈ es₂, ¬ B e'

theorem since_nil (A B : ε → Prop) : ¬ Since A B [] := by
  rintro ⟨es₁, e, es₂, h, -, -⟩
  simp at h

theorem since_concat (A B : ε → Prop) (es : List ε) (e : ε) :
    Since A B (es ++ [e]) ↔ A e ∨ Since A B es ∧ ¬ B e := by
  constructor
  · rintro ⟨es₁, a, es₂, h, hA, hB⟩
    rcases List.eq_nil_or_concat es₂ with rfl | ⟨es₃, b, rfl⟩
    · obtain ⟨-, hab⟩ := List.append_inj' h rfl
      rw [List.cons.injEq] at hab
      exact .inl (hab.1 ▸ hA)
    · rw [List.concat_eq_append, ← List.cons_append, ← List.append_assoc] at h
      obtain ⟨hes, hb⟩ := List.append_inj' h rfl
      rw [List.cons.injEq] at hb
      refine .inr ⟨⟨es₁, a, es₃, hes, hA, fun e' he' => hB e' ?_⟩, hb.1 ▸ hB b ?_⟩
      · simp [he']
      · simp
  · rintro (hA | ⟨⟨es₁, a, es₂, rfl, hA, hB⟩, hn⟩)
    · exact ⟨es, e, [], rfl, hA, by simp⟩
    · refine ⟨es₁, a, es₂ ++ [e], by simp, hA, fun e' he' => ?_⟩
      rcases List.mem_append.mp he' with h | h
      · exact hB e' h
      · rw [List.mem_singleton.mp h]
        exact hn

end Basebox
