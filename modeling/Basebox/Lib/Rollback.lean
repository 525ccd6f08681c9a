import Basebox.Lib.Run

/-!
# Operations that are rolled back

A table that is changed by operations, each of which touches some of its keys: the operations that
have been done are followed by ones that clear what they touched.

* `RollsBack`: the operations `back` clear every key that those of `done` touch.
* `RollsBack.lookup_run`: if the keys that are cleared were free, the table is as it was.
-/

namespace Basebox

variable {σ ε κ V : Type}

/-- The operations of `back` clear what they touch, and all that those of `done` touch. An operation
leaves the other keys alone. -/
structure RollsBack (step : σ → ε → σ) (lookup : σ → κ → Option V) (touches : ε → κ → Prop)
    (done back : List ε) : Prop where
  keeps : ∀ c ∈ done ++ back, ∀ s k, ¬ touches c k → lookup (step s c) k = lookup s k
  clears : ∀ c ∈ back, ∀ s k, touches c k → lookup (step s c) k = none
  covers : ∀ c ∈ done, ∀ k, touches c k → ∃ d ∈ back, touches d k

namespace RollsBack

variable {step : σ → ε → σ} {lookup : σ → κ → Option V} {touches : ε → κ → Prop}
  {done back : List ε} {k : κ}

/-- A key that no operation touches. -/
theorem lookup_run_of_not_touched {cs : List ε}
    (hkeeps : ∀ c ∈ cs, ∀ s, lookup (step s c) k = lookup s k) (s : σ) :
    lookup (run step s cs) k = lookup s k := by
  induction cs generalizing s with
  | nil => rfl
  | cons c cs ih =>
    obtain ⟨hc, hcs⟩ := List.forall_mem_cons.mp hkeeps
    rw [run_cons, ih hcs, hc]

/-- A key that is cleared stays so. -/
theorem lookup_run_back (h : RollsBack step lookup touches done back) {d : ε} (hd : d ∈ back)
    (htouch : touches d k) (s : σ) : lookup (run step s back) k = none := by
  have hstays : ∀ cs : List ε, (∀ c ∈ cs, c ∈ back) → ∀ s, lookup s k = none →
      lookup (run step s cs) k = none := by
    intro cs hcs s hs
    induction cs generalizing s with
    | nil => exact hs
    | cons c cs ih =>
      obtain ⟨hc, hcs⟩ := List.forall_mem_cons.mp hcs
      refine ih hcs _ ?_
      by_cases htouch : touches c k
      · exact h.clears c hc s k htouch
      · rw [h.keeps c (List.mem_append_right _ hc) s k htouch]
        exact hs
  obtain ⟨cs₁, cs₂, rfl⟩ := List.append_of_mem hd
  rw [run_append, run_cons]
  exact hstays cs₂ (fun c hc => by simp [hc]) _ (h.clears d hd _ k htouch)

/-- **The table is as it was**, if what is cleared was free. -/
theorem lookup_run (h : RollsBack step lookup touches done back) {s : σ}
    (hfree : ∀ d ∈ back, ∀ k, touches d k → lookup s k = none) (k : κ) :
    lookup (run step s (done ++ back)) k = lookup s k := by
  by_cases hk : ∃ d ∈ back, touches d k
  · obtain ⟨d, hd, htouch⟩ := hk
    rw [run_append, h.lookup_run_back hd htouch, hfree d hd k htouch]
  · refine lookup_run_of_not_touched (fun c hc s => h.keeps c hc s k fun htouch => hk ?_) s
    rcases List.mem_append.mp hc with hc | hc
    · exact h.covers c hc k htouch
    · exact ⟨c, hc, htouch⟩

end RollsBack

end Basebox
