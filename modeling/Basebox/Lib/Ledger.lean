import Mathlib.Data.List.Basic

/-!
# Who holds which reference

A table of reference counts does not say whose the references are. A `Ledger` beside it does: it
lists the references that are held, by holder and key, and those that were given back by one who
did not hold them.

* `take`, `give`: a reference is taken or given back, if there is one.
* `move k k'`: the entry of the table under `k` is now under `k'`, with all its references.
* `of h`: the keys of the references of `h`. `of_take`, `of_give`, `of_move` say what becomes of
  them, `overdrawn_give` what a reference does that is given back.
-/

namespace Basebox

/-- Who holds which key, and what was given back without being held. -/
structure Ledger (H K : Type) where
  held : List (H × K) := []
  /-- Given back without being held. -/
  overdrawn : List (H × K) := []

namespace Ledger

variable {H K : Type}

/-- `h` takes a reference. -/
def take (l : Ledger H K) (h : H) : Option K → Ledger H K
  | none => l
  | some k => { l with held := l.held ++ [(h, k)] }

@[simp] theorem overdrawn_take (l : Ledger H K) (h : H) (o : Option K) :
    (l.take h o).overdrawn = l.overdrawn := by
  cases o <;> rfl

variable [DecidableEq H]

/-- The references of a holder. -/
def of (l : Ledger H K) (h : H) : List K :=
  l.held.filterMap fun e => if e.1 = h then some e.2 else none

@[simp] theorem of_empty (h : H) : ({} : Ledger H K).of h = [] := rfl

theorem mem_of {l : Ledger H K} {h : H} {k : K} : k ∈ l.of h ↔ (h, k) ∈ l.held := by
  simp [of]

theorem of_take (l : Ledger H K) (h j : H) (o : Option K) :
    (l.take h o).of j = if j = h then l.of j ++ o.toList else l.of j := by
  cases o with
  | none => simp [take]
  | some k =>
    by_cases hj : j = h
    · simp [take, of, hj]
    · simp [take, of, hj, Ne.symm hj]

variable [DecidableEq K]

/-- `h` gives a reference back. -/
def give (l : Ledger H K) (h : H) : Option K → Ledger H K
  | none => l
  | some k =>
    if (h, k) ∈ l.held then { l with held := l.held.erase (h, k) }
    else { l with overdrawn := l.overdrawn ++ [(h, k)] }

/-- The references to a key are now to another. -/
def move (l : Ledger H K) (k k' : K) : Ledger H K :=
  { l with held := l.held.map fun e => (e.1, if e.2 = k then k' else e.2) }

variable (l : Ledger H K) (h j : H)

theorem filterMap_erase (es : List (H × K)) (k : K) :
    ((es.erase (h, k)).filterMap fun e => if e.1 = j then some e.2 else none) =
      if j = h then (es.filterMap fun e => if e.1 = j then some e.2 else none).erase k
      else es.filterMap fun e => if e.1 = j then some e.2 else none := by
  induction es with
  | nil => simp
  | cons e es ih =>
    by_cases he : e = (h, k)
    · subst he
      by_cases hj : j = h
      · simp [hj]
      · simp [hj, Ne.symm hj]
    · rw [List.erase_cons_tail (by simpa using he), List.filterMap_cons, List.filterMap_cons, ih]
      by_cases hj : j = h
      · subst hj
        by_cases hej : e.1 = j
        · have hek : e.2 ≠ k := fun hk => he (Prod.ext hej hk)
          simp [hej, List.erase_cons_tail, hek]
        · simp [hej]
      · simp [hj]

theorem of_give (o : Option K) :
    (l.give h o).of j = if j = h then o.elim (l.of j) (l.of j).erase else l.of j := by
  cases o with
  | none => simp [give]
  | some k =>
    by_cases hk : (h, k) ∈ l.held
    · rw [give, if_pos hk]
      exact filterMap_erase h j l.held k
    · rw [give, if_neg hk]
      by_cases hj : j = h
      · subst hj
        rw [if_pos rfl]
        exact (List.erase_of_not_mem fun hm => hk (mem_of.mp hm)).symm
      · rw [if_neg hj]
        rfl

/-- A reference that was held is given back with nothing to note. -/
theorem overdrawn_give {k : K} (hk : k ∈ l.of h) : (l.give h (some k)).overdrawn = l.overdrawn := by
  rw [give, if_pos (mem_of.mp hk)]

theorem of_move (k k' : K) :
    (l.move k k').of h = (l.of h).map fun i => if i = k then k' else i := by
  simp only [move, of, List.filterMap_map, List.map_filterMap]
  congr 1
  funext e
  by_cases he : e.1 = h
  · simp [he]
  · simp [he]

end Ledger

end Basebox
