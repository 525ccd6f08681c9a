import Mathlib.Data.List.Basic
import Mathlib.Logic.Function.Basic

/-!
# A table that another thread keeps

One thread adds and removes the entries of a table by leaving notes for the thread that keeps it,
which works off all notes at a time. Now and then an entry is changed in place, past the notes.

* `settled`: the table as it will be after the notes that are left now.
* `settled_register`, `settled_handle`: a note changes it at once, and working off the notes does
  not.
* `settled_edit`: a change in place is lost exactly if there is a note about the entry.
-/

namespace Basebox

/-- A table that changes when a note is handled, not when it is sent. -/
structure LateTable (κ α : Type) where
  tab : κ → Option α := fun _ => none
  /-- The notes: the new entry of a key, or that it goes. -/
  pending : List (κ × Option α) := []

namespace LateTable

variable {κ α : Type} [DecidableEq κ] (t : LateTable κ α)

/-- A note is sent. -/
def register (k : κ) (entry : Option α) : LateTable κ α :=
  { t with pending := t.pending ++ [(k, entry)] }

/-- The table after its notes. -/
def settled : κ → Option α := t.pending.foldl (fun tab x => Function.update tab x.1 x.2) t.tab

/-- All notes are worked off. -/
def handle : LateTable κ α := { tab := t.settled, pending := [] }

/-- An entry is changed in place. -/
def edit (k : κ) (f : α → α) : LateTable κ α :=
  { t with tab := Function.update t.tab k ((t.tab k).map f) }

theorem settled_register (k : κ) (entry : Option α) :
    (t.register k entry).settled = Function.update t.settled k entry := by
  simp [settled, register]

@[simp] theorem settled_handle : t.handle.settled = t.settled := rfl

/-- Of a key without a note, the entry stays. -/
theorem foldl_update_of_notMem {tab : κ → Option α} {l : List (κ × Option α)} {k : κ}
    (h : k ∉ l.map Prod.fst) :
    l.foldl (fun tab x => Function.update tab x.1 x.2) tab k = tab k := by
  induction l generalizing tab with
  | nil => rfl
  | cons x l ih =>
    rw [List.map_cons, List.mem_cons, not_or] at h
    rw [List.foldl_cons, ih h.2, Function.update_of_ne h.1]

/-- Of a key with a note, the entry that was there does not matter. -/
theorem foldl_update_congr {tab tab' : κ → Option α} {l : List (κ × Option α)} {k : κ}
    (h : tab k = tab' k ∨ k ∈ l.map Prod.fst) :
    l.foldl (fun tab x => Function.update tab x.1 x.2) tab k =
      l.foldl (fun tab x => Function.update tab x.1 x.2) tab' k := by
  induction l generalizing tab tab' with
  | nil => exact h.resolve_right (by simp)
  | cons x l ih =>
    rw [List.foldl_cons, List.foldl_cons]
    refine ih ?_
    by_cases hk : k = x.1
    · subst hk
      left
      rw [Function.update_self, Function.update_self]
    · refine h.imp (fun h => ?_) fun h => ?_
      · rw [Function.update_of_ne hk, Function.update_of_ne hk, h]
      · exact (List.mem_cons.mp h).resolve_left hk

theorem settled_edit (k : κ) (f : α → α) (k' : κ) :
    (t.edit k f).settled k' =
      if k' = k ∧ k ∉ t.pending.map Prod.fst then (t.settled k).map f else t.settled k' := by
  unfold settled edit
  split_ifs with h
  · obtain ⟨rfl, hk⟩ := h
    rw [foldl_update_of_notMem hk, foldl_update_of_notMem hk]
    exact Function.update_self k' _ t.tab
  · refine foldl_update_congr ?_
    by_cases hk : k' = k
    · subst hk
      exact .inr (not_not.mp fun hn => h ⟨rfl, hn⟩)
    · exact .inl (Function.update_of_ne hk _ _)

end LateTable

end Basebox
