import Basebox.Lib.Run

/-!
# Processes that can end

A program whose handling of an event can end it: `exec : σ → ε → Except κ σ`, where `κ` says how it
ended. `procStep exec` is the step function of its runs.

* `WhileRuns P`: the state has `P`, if there still is one. `Runs P`: there is one, and it has `P`.
* `whileRuns_run`: what the first state has and every call that returns keeps holds while the
  process runs.
* `runs_iff_along`: if a call from a good state returns and leaves a good state exactly if it meets
  `C`, the process runs in good states exactly if all its calls meet `C`.
-/

namespace Basebox

variable {σ ε κ : Type}

/-- One event after the other, until the process ends. -/
def procStep (exec : σ → ε → Except κ σ) (p : Except κ σ) (e : ε) : Except κ σ :=
  p.bind fun s => exec s e

/-- The state has the property if the process is still running. -/
def WhileRuns (P : σ → Prop) : Except κ σ → Prop
  | .ok s => P s
  | .error _ => True

/-- The process is running and the state has the property. -/
def Runs (P : σ → Prop) : Except κ σ → Prop
  | .ok s => P s
  | .error _ => False

instance Runs.decidable (P : σ → Prop) [DecidablePred P] : ∀ x : Except κ σ, Decidable (Runs P x)
  | .ok s => inferInstanceAs (Decidable (P s))
  | .error _ => .isFalse id

theorem WhileRuns.imp {P Q : σ → Prop} (h : ∀ s, P s → Q s) {x : Except κ σ}
    (hx : WhileRuns P x) : WhileRuns Q x := by
  cases x with
  | error c => trivial
  | ok s => exact h s hx

theorem Runs.imp {P Q : σ → Prop} (h : ∀ s, P s → Q s) {x : Except κ σ} (hx : Runs P x) :
    Runs Q x := by
  cases x with
  | error c => exact hx
  | ok s => exact h s hx

theorem Runs.bind {τ : Type} {P : σ → Prop} {Q : τ → Prop} {x : Except κ σ} {f : σ → Except κ τ}
    (hx : Runs P x) (hf : ∀ s, P s → Runs Q (f s)) : Runs Q (x.bind f) := by
  cases x with
  | error c => exact hx
  | ok s => exact hf s hx

theorem map_eq_ok {τ : Type} {f : σ → τ} {x : Except κ σ} {t : τ} :
    x.map f = .ok t ↔ ∃ s, x = .ok s ∧ f s = t := by
  cases x with
  | error c => simp [Except.map]
  | ok s => simp [Except.map]

theorem runs_iff {P : σ → Prop} {x : Except κ σ} : Runs P x ↔ ∃ s, x = .ok s ∧ P s := by
  cases x with
  | error c => simp [Runs]
  | ok s => simp [Runs]

theorem runs_map {τ : Type} {P : τ → Prop} {f : σ → τ} {x : Except κ σ} :
    Runs P (x.map f) ↔ Runs (fun s => P (f s)) x := by
  cases x with
  | error c => rfl
  | ok s => rfl

theorem whileRuns_map {τ : Type} {P : τ → Prop} {f : σ → τ} {x : Except κ σ} :
    WhileRuns P (x.map f) ↔ WhileRuns (fun s => P (f s)) x := by
  cases x with
  | error c => rfl
  | ok s => rfl

/-- A loop over a list: what holds after the turns that were made. -/
theorem runs_foldlM_turns {f : σ → ε → Except κ σ} {s : σ} {l : List ε} {I : List ε → σ → Prop}
    (h0 : I [] s)
    (hstep : ∀ done x s, x ∈ l → I done s → Runs (I (done ++ [x])) (f s x)) :
    Runs (I l) (l.foldlM f s) := by
  suffices hall : ∀ (rest done : List ε) (s : σ), (∀ x ∈ rest, x ∈ l) → I done s →
      Runs (I (done ++ rest)) (rest.foldlM f s) by
    simpa using hall l [] s (fun _ => id) h0
  intro rest
  induction rest with
  | nil =>
    intro done s _ h
    rw [List.append_nil]
    exact h
  | cons x rest ih =>
    intro done s hl h
    obtain ⟨hx, hrest⟩ := List.forall_mem_cons.mp hl
    obtain ⟨s', hs', hI⟩ := runs_iff.mp (hstep done x s hx h)
    rw [List.foldlM_cons, hs', List.append_cons]
    exact ih (done ++ [x]) s' hrest hI

theorem whileRuns_foldlM {I : σ → Prop} {f : σ → ε → Except κ σ} {s : σ} {l : List ε} (h0 : I s)
    (hstep : ∀ s x s', I s → f s x = .ok s' → I s') : WhileRuns I (l.foldlM f s) := by
  induction l generalizing s with
  | nil => exact h0
  | cons x l ih =>
    rw [List.foldlM_cons]
    cases hx : f s x with
    | error c => trivial
    | ok s' => exact ih (hstep s x s' h0 hx)

theorem Runs.not_of {P Q : σ → Prop} {x : Except κ σ} (hx : Runs P x) (h : ∀ s, P s → ¬ Q s) :
    ¬ Runs Q x := by
  cases x with
  | error c => exact id
  | ok s => exact h s hx

variable {exec : σ → ε → Except κ σ} {s : σ}

theorem whileRuns_run {P : σ → Prop} (h0 : P s)
    (hstep : ∀ s e s', P s → exec s e = .ok s' → P s') (es : List ε) :
    WhileRuns P (run (procStep exec) (.ok s) es) := by
  have hinit : WhileRuns P (Except.ok s : Except κ σ) := h0
  refine run_inv_all (I := WhileRuns P) hinit (fun p e hp => ?_) es
  cases p with
  | error c => trivial
  | ok s =>
    change WhileRuns P (exec s e)
    cases he : exec s e with
    | error c => trivial
    | ok s' => exact hstep s e s' hp he

/-- A condition on the calls of a process that runs. -/
def OnRunning (C : σ → ε → Prop) : Except κ σ → ε → Prop
  | .ok s, e => C s e
  | .error _, _ => True

theorem runs_iff_along {I P : σ → Prop} {C : σ → ε → Prop} (hI0 : I s) (h0 : P s)
    (hI : ∀ s e, I s → P s → C s e → Runs I (exec s e))
    (hstep : ∀ s e, I s → P s → (Runs P (exec s e) ↔ C s e)) (es : List ε) :
    (∀ n, Runs P (run (procStep exec) (.ok s) (es.take n))) ↔
      Along (procStep exec) (OnRunning C) (.ok s) es := by
  induction es generalizing s with
  | nil => simpa [Along, Runs] using h0
  | cons e es ih =>
    have hcons : (∀ n, Runs P (run (procStep exec) (.ok s) ((e :: es).take n))) ↔
        ∀ n, Runs P (run (procStep exec) (exec s e) (es.take n)) := by
      constructor
      · exact fun h n => h (n + 1)
      · intro h n
        cases n with
        | zero => exact h0
        | succ n => exact h n
    rw [hcons]
    change _ ↔ C s e ∧ Along (procStep exec) (OnRunning C) (exec s e) es
    constructor
    · intro h
      have hC : C s e := (hstep s e hI0 h0).mp (by simpa using h 0)
      obtain ⟨s', hs', hI'⟩ := runs_iff.mp (hI s e hI0 h0 hC)
      have hP' : Runs P (exec s e) := by simpa using h 0
      rw [hs'] at h hP' ⊢
      exact ⟨hC, (ih hI' hP').mp h⟩
    · rintro ⟨hC, halong⟩
      obtain ⟨s', hs', hI'⟩ := runs_iff.mp (hI s e hI0 h0 hC)
      have hP' : Runs P (exec s e) := (hstep s e hI0 h0).mpr hC
      rw [hs'] at halong hP' ⊢
      exact (ih hI' hP').mpr halong

end Basebox
