import Mathlib.Data.List.Range
import Mathlib.Logic.Function.Iterate

/-!
# While loops

`whileLoop c b n s` runs `while (c) b;` from the state `s`, for at most `n` tests of the
condition; `none` if the loop is not left by then.

* `whileLoop_eq_none`: the loop is not left exactly if the condition holds at each test.
* `whileLoop_eq_some`: it is left in the first state without the condition.
* `whileLoop_visits`: a loop whose cursor goes from one position with a property to the next one
  visits the positions with the property in their order, each once, and is left.
-/

namespace Basebox

variable {σ : Type} (c : σ → Bool) (b : σ → σ)

/-- A loop with fuel: `none` when it takes more than `n` turns. -/
def whileLoop : Nat → σ → Option σ
  | 0, _ => none
  | n + 1, s => if c s then whileLoop n (b s) else some s

variable {c b}

theorem whileLoop_eq_none {n : Nat} {s : σ} :
    whileLoop c b n s = none ↔ ∀ k < n, c (b^[k] s) = true := by
  induction n generalizing s with
  | zero => simp [whileLoop]
  | succ n ih =>
    rw [whileLoop]
    constructor
    · intro h k hk
      split at h
      · cases k with
        | zero => assumption
        | succ k => exact ih.mp h k (by omega)
      · cases h
    · intro h
      have hs : c s = true := h 0 (by omega)
      rw [if_pos hs, ih]
      exact fun k hk => h (k + 1) (by omega)

theorem whileLoop_eq_some {n : Nat} {s r : σ} (h : whileLoop c b n s = some r) :
    c r = false ∧ ∃ k < n, r = b^[k] s := by
  induction n generalizing s with
  | zero => cases h
  | succ n ih =>
    rw [whileLoop] at h
    by_cases hs : c s = true
    · rw [if_pos hs] at h
      obtain ⟨hr, k, hk, rfl⟩ := ih h
      exact ⟨hr, k + 1, by omega, rfl⟩
    · rw [if_neg hs] at h
      cases h
      exact ⟨by simpa using hs, 0, by omega, rfl⟩

/-! ## Loops from one position to the next -/

/-- The first position from `i` on, of those below `w`, that has the property. -/
def IsNext (p : Nat → Bool) (w i : Nat) : Option Nat → Prop
  | none => ∀ m, i ≤ m → m < w → p m = false
  | some k => (i ≤ k ∧ k < w) ∧ p k = true ∧ ∀ m, i ≤ m → m < k → p m = false

section Visits

variable {p : Nat → Bool} {w i k : Nat}

theorem filter_range'_of_none (h : IsNext p w i none) : (List.range' i (w - i)).filter p = [] := by
  rw [List.filter_eq_nil_iff]
  intro m hm
  rw [List.mem_range'_1] at hm
  rw [h m hm.1 (by omega)]
  decide

theorem filter_range'_of_some (h : IsNext p w i (some k)) :
    (List.range' i (w - i)).filter p = k :: (List.range' (k + 1) (w - (k + 1))).filter p := by
  obtain ⟨⟨hik, hkw⟩, hk, hbelow⟩ := h
  obtain ⟨d, rfl⟩ := Nat.exists_eq_add_of_le hik
  have hbefore : (List.range' i d).filter p = [] := by
    rw [List.filter_eq_nil_iff]
    intro m hm
    rw [List.mem_range'_1] at hm
    rw [hbelow m hm.1 hm.2]
    decide
  have hlength : w - i = d + (w - (i + d + 1) + 1) := by omega
  rw [hlength, ← List.range'_append_1, List.range'_succ, List.filter_append, hbefore,
    List.nil_append, List.filter_cons_of_pos hk]

variable {γ τ : Type} {more : γ → Bool} {pos : γ → Nat}

/-- The position of a cursor. -/
def cursorPos (more : γ → Bool) (pos : γ → Nat) (g : γ) : Option Nat :=
  if more g then some (pos g) else none

/-- The loop is left after at most one test more than there are positions. -/
theorem whileLoop_visits (w : Nat) (next : γ → γ) (body : τ → Nat → τ)
    (hnext : ∀ g, more g = true → pos g < w →
      IsNext p w (pos g + 1) (cursorPos more pos (next g)))
    {g : γ} (hg : IsNext p w i (cursorPos more pos g)) {n : Nat} (hn : w - i < n) (s : τ) :
    (whileLoop (fun t : γ × τ => more t.1) (fun t => (next t.1, body t.2 (pos t.1))) n (g, s)).map
      Prod.snd = some (((List.range' i (w - i)).filter p).foldl body s) := by
  induction n generalizing g i s with
  | zero => omega
  | succ n ih =>
    rw [whileLoop]
    cases hm : more g with
    | false =>
      rw [cursorPos, hm] at hg
      simp only [Bool.false_eq_true, if_false] at hg ⊢
      rw [filter_range'_of_none hg]
      rfl
    | true =>
      rw [cursorPos, if_pos hm] at hg
      have hlt : i ≤ pos g ∧ pos g < w := hg.1
      rw [if_pos rfl, filter_range'_of_some hg, List.foldl_cons]
      exact ih (hnext g hm hlt.2) (by omega) (body s (pos g))

end Visits

end Basebox
