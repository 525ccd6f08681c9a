import Basebox.Lib.Lists
import Mathlib.Data.List.Nodup

/-!
# Multimaps of which the first match counts

A `std::unordered_multimap` that is searched with `equal_range` and used at the first match. The
entries are a list; new ones go to its end. Where keys are looked for before they are stored, no
key occurs twice (`NodupKeys`).
-/

namespace Basebox

/-- The entries of a multimap. -/
abbrev MultiMap (K V : Type) := List (K × V)

namespace MultiMap

variable {K V : Type} [DecidableEq K]

/-- The value at the first match. -/
def find (t : MultiMap K V) (k : K) : Option V :=
  (List.find? (fun e => decide (e.1 = k)) t).map (·.2)

/-- An update of the value at the first match. -/
def modify (t : MultiMap K V) (k : K) (f : V → V) : MultiMap K V :=
  modifyFirst (fun e => decide (e.1 = k)) (fun e => (e.1, f e.2)) t

/-- The first match is erased. -/
def erase (t : MultiMap K V) (k : K) : MultiMap K V := List.eraseP (fun e => decide (e.1 = k)) t

/-- A new entry goes after those of its key. -/
def emplace (t : MultiMap K V) (k : K) (v : V) : MultiMap K V := List.append t [(k, v)]

/-- The keys, with repetitions. -/
def keys (t : MultiMap K V) : List K := List.map (·.1) t

/-- Each key has one entry at most. -/
def NodupKeys (t : MultiMap K V) : Prop := t.keys.Nodup

@[simp] theorem find_nil (k : K) : find ([] : List (K × V)) k = none := rfl

theorem find_cons (e : K × V) (t : List (K × V)) (k : K) :
    find (e :: t) k = if e.1 = k then some e.2 else find t k := by
  unfold find
  rw [List.find?_cons]
  by_cases h : e.1 = k <;> simp [h]

theorem find_eq_none {t : MultiMap K V} {k : K} : t.find k = none ↔ k ∉ t.keys := by
  unfold find keys
  rw [Option.map_eq_none_iff, List.find?_eq_none]
  simp only [decide_eq_true_eq, List.mem_map, not_exists, not_and]

@[grind =] theorem find_modify (t : MultiMap K V) (k k' : K) (f : V → V) :
    (t.modify k f).find k' = if k' = k then (t.find k).map f else t.find k' := by
  induction t with
  | nil => simp [modify, modifyFirst]
  | cons e t ih =>
    unfold modify at ih ⊢
    unfold modifyFirst
    by_cases he : e.1 = k
    · simp only [he, decide_true, if_true, find_cons]
      by_cases hk : k' = k
      · simp [hk]
      · simp [hk, Ne.symm hk]
    · simp only [he, decide_false, Bool.false_eq_true, if_false, find_cons, ih]
      by_cases hk : k' = k
      · subst hk; simp [he]
      · simp [hk]

theorem keys_modify (t : MultiMap K V) (k : K) (f : V → V) : (t.modify k f).keys = t.keys :=
  map_modifyFirst fun _ _ _ => rfl

@[grind =] theorem find_emplace (t : MultiMap K V) (k k' : K) (v : V) :
    (t.emplace k v).find k' = (t.find k').or (if k' = k then some v else none) := by
  induction t with
  | nil =>
    change find [(k, v)] k' = _
    rw [find_cons]
    by_cases h : k' = k
    · simp [h]
    · simp [h, Ne.symm h]
  | cons e t ih =>
    change find (e :: emplace t k v) k' = _
    rw [find_cons, find_cons, ih]
    split <;> simp

theorem find_erase {t : MultiMap K V} (h : t.NodupKeys) (k k' : K) :
    (t.erase k).find k' = if k' = k then none else t.find k' := by
  induction t with
  | nil => simp [erase]
  | cons e t ih =>
    obtain ⟨hnot, hnodup⟩ := List.nodup_cons.mp h
    unfold erase at ih ⊢
    by_cases he : e.1 = k
    · rw [List.eraseP_cons_of_pos (by simpa using he), find_cons]
      by_cases hk : k' = k
      · subst hk
        rw [if_pos rfl]
        exact find_eq_none.mpr (he ▸ hnot)
      · simp [hk, he, Ne.symm hk]
    · rw [List.eraseP_cons_of_neg (by simpa using he), find_cons, find_cons, ih hnodup]
      by_cases hk : k' = k
      · subst hk; simp [he]
      · simp [hk]

/-- What is erased does not matter. -/
theorem erase_modify (t : MultiMap K V) (k : K) (f : V → V) : (t.modify k f).erase k = t.erase k := by
  induction t with
  | nil => rfl
  | cons e t ih =>
    unfold erase modify at ih ⊢
    unfold modifyFirst
    by_cases he : e.1 = k
    · simp only [he, decide_true, if_true]
      rw [List.eraseP_cons_of_pos (by simp), List.eraseP_cons_of_pos (by simpa using he)]
    · simp only [he, decide_false, Bool.false_eq_true, if_false]
      rw [List.eraseP_cons_of_neg (by simpa using he), List.eraseP_cons_of_neg (by simpa using he),
        ih]

/-- The entries are the one that is erased and those that stay. -/
theorem perm_erase {t : MultiMap K V} {k : K} {v : V} (h : t.find k = some v) :
    List.Perm t ((k, v) :: t.erase k) := by
  induction t with
  | nil => cases h
  | cons e t ih =>
    unfold erase at ih ⊢
    rw [find_cons] at h
    by_cases he : e.1 = k
    · rw [if_pos he] at h
      cases h
      subst he
      rw [List.eraseP_cons_of_pos (by simp)]
    · rw [if_neg he] at h
      rw [List.eraseP_cons_of_neg (by simpa using he)]
      exact ((ih h).cons e).trans (.swap _ _ _)

/-- With distinct keys every entry is the first match of its key. -/
theorem mem_iff_find {t : MultiMap K V} (h : t.NodupKeys) {k : K} {v : V} :
    (k, v) ∈ t ↔ t.find k = some v := by
  induction t with
  | nil => simp
  | cons e t ih =>
    obtain ⟨hnot, hnodup⟩ := List.nodup_cons.mp h
    rw [List.mem_cons, find_cons, ih hnodup]
    by_cases he : e.1 = k
    · subst he
      have hnone : find t e.1 = none := find_eq_none.mpr hnot
      simp [hnone, Prod.ext_iff, eq_comm]
    · simp only [he, if_false]
      constructor
      · rintro (rfl | h)
        · exact absurd rfl he
        · exact h
      · exact .inr

theorem NodupKeys.modify {t : MultiMap K V} (h : t.NodupKeys) (k : K) (f : V → V) :
    (t.modify k f).NodupKeys := by
  unfold NodupKeys
  rw [keys_modify]
  exact h

theorem NodupKeys.emplace {t : MultiMap K V} (h : t.NodupKeys) {k : K} (hk : t.find k = none)
    (v : V) : (t.emplace k v).NodupKeys := by
  have hkeys : (t.emplace k v).keys = t.keys ++ [k] := List.map_append
  unfold NodupKeys
  rw [hkeys, List.nodup_append]
  refine ⟨h, List.nodup_singleton k, fun a ha b hb => ?_⟩
  rw [List.mem_singleton] at hb
  rintro rfl
  exact find_eq_none.mp hk (hb ▸ ha)

theorem NodupKeys.erase {t : MultiMap K V} (h : t.NodupKeys) (k : K) : (t.erase k).NodupKeys :=
  ((List.eraseP_sublist (l := t)).map _).nodup h

end MultiMap

end Basebox
