import Mathlib.Data.List.Basic
import Mathlib.Order.Lattice

/-!
# Equal ranges

`std::equal_range` with a comparison that need not be the one that the range is sorted by. Of the
comparison with the value, `lo` says of an element that it is less, and `hi` that it is greater.

* `partitionPoint`, `equalRangeAt`: the two searches by halving, over positions.
* `Partitioned lo hi l`: what the search needs of the list: the elements with `lo` come first, those
  with `hi` last, and none has both.
* `equalRange_eq_filter`: the range that is found has the elements with neither, in their order.
* `mem_equalRange_of_sorted`: it is enough that the list is sorted by a key that the comparison with
  the value is about.
-/

namespace Basebox

/-! ## Positions -/

/-- The search of `std::lower_bound` and `std::upper_bound` in the `len` positions from `first` on,
in `n` turns at most: the first position without `p`. -/
def partitionPoint (p : Nat → Bool) : Nat → Nat → Nat → Nat
  | 0, first, _ => first
  | n + 1, first, len =>
    if len = 0 then first
    else
      let half := len / 2
      let middle := first + half
      if p middle then partitionPoint p n (middle + 1) (len - half - 1)
      else partitionPoint p n first half

/-- The search of `std::equal_range`: positions with `lo` are before the range, those with `hi`
behind it. -/
def equalRangeAt (lo hi : Nat → Bool) : Nat → Nat → Nat → Nat × Nat
  | 0, first, _ => (first, first)
  | n + 1, first, len =>
    if len = 0 then (first, first)
    else
      let half := len / 2
      let middle := first + half
      if lo middle then equalRangeAt lo hi n (middle + 1) (len - half - 1)
      else if hi middle then equalRangeAt lo hi n first half
      else
        (partitionPoint lo half first half,
          partitionPoint (fun i => !hi i) (len - half - 1) (middle + 1) (len - half - 1))

/-- With a turn for each position it finds the point where `p` changes. -/
theorem partitionPoint_eq {p : Nat → Bool} {n first len k : Nat} (hn : len ≤ n) (hfirst : first ≤ k)
    (hk : k ≤ first + len) (hp : ∀ i, first ≤ i → i < first + len → (p i = true ↔ i < k)) :
    partitionPoint p n first len = k := by
  induction n generalizing first len with
  | zero =>
    rw [partitionPoint]
    omega
  | succ n ih =>
    rw [partitionPoint]
    by_cases hlen : len = 0
    · rw [if_pos hlen]
      omega
    · rw [if_neg hlen]
      dsimp only
      have hmiddle := hp (first + len / 2) (by omega) (by omega)
      by_cases h : p (first + len / 2) = true
      · rw [if_pos h]
        have hlt : first + len / 2 < k := hmiddle.mp h
        exact ih (by omega) (by omega) (by omega) fun i hi hi' => hp i (by omega) (by omega)
      · rw [if_neg h]
        have hle : k ≤ first + len / 2 := Nat.le_of_not_lt fun hlt => h (hmiddle.mpr hlt)
        exact ih (by omega) hfirst hle fun i hi hi' => hp i hi (by omega)

/-- It finds the two points, if `lo` holds before the first and `hi` from the second on. -/
theorem equalRangeAt_eq {lo hi : Nat → Bool} {n first len a b : Nat} (hn : len ≤ n)
    (ha : first ≤ a) (hab : a ≤ b) (hb : b ≤ first + len)
    (hlo : ∀ i, first ≤ i → i < first + len → (lo i = true ↔ i < a))
    (hhi : ∀ i, first ≤ i → i < first + len → (hi i = true ↔ b ≤ i)) :
    equalRangeAt lo hi n first len = (a, b) := by
  induction n generalizing first len with
  | zero =>
    rw [equalRangeAt, Prod.mk.injEq]
    omega
  | succ n ih =>
    rw [equalRangeAt]
    by_cases hlen : len = 0
    · rw [if_pos hlen, Prod.mk.injEq]
      omega
    · rw [if_neg hlen]
      dsimp only
      have hlom := hlo (first + len / 2) (by omega) (by omega)
      have hhim := hhi (first + len / 2) (by omega) (by omega)
      by_cases hl : lo (first + len / 2) = true
      · rw [if_pos hl]
        have hlt : first + len / 2 < a := hlom.mp hl
        exact ih (by omega) (by omega) (by omega) (fun i h h' => hlo i (by omega) (by omega))
          fun i h h' => hhi i (by omega) (by omega)
      · rw [if_neg hl]
        have hle : a ≤ first + len / 2 := Nat.le_of_not_lt fun hlt => hl (hlom.mpr hlt)
        by_cases hh : hi (first + len / 2) = true
        · rw [if_pos hh]
          exact ih (by omega) ha (hhim.mp hh) (fun i h h' => hlo i h (by omega))
            fun i h h' => hhi i h (by omega)
        · -- the middle is in the range: the ends are on its two sides
          rw [if_neg hh]
          have hlt : first + len / 2 < b := Nat.lt_of_not_le fun h => hh (hhim.mpr h)
          rw [partitionPoint_eq (Nat.le_refl _) ha hle fun i h h' => hlo i h (by omega)]
          rw [partitionPoint_eq (k := b) (Nat.le_refl _) (by omega) (by omega) fun i h h' => ?_]
          have hiff := hhi i (by omega) (by omega)
          rw [Bool.not_eq_true', ← Bool.not_eq_true, hiff, Nat.not_le]

/-! ## Lists -/

section Lists

variable {α : Type} {lo hi : α → Bool} {l : List α}

/-- The elements that `std::equal_range` finds. -/
def equalRange (lo hi : α → Bool) (l : List α) : List α :=
  let r := equalRangeAt (fun i => l[i]?.any lo) (fun i => l[i]?.any hi) l.length 0 l.length
  (l.drop r.1).take (r.2 - r.1)

/-- The list is ordered as far as the two tests of `equal_range` can tell. -/
structure Partitioned (lo hi : α → Bool) (l : List α) : Prop where
  lower : l.Pairwise fun a b => lo b = true → lo a = true
  upper : l.Pairwise fun a b => hi a = true → hi b = true
  disjoint : ∀ a ∈ l, lo a = true → hi a = false

theorem lt_length_takeWhile_iff {p : α → Bool} (h : l.Pairwise fun a b => p b = true → p a = true)
    {i : Nat} (hi : i < l.length) : p l[i] = true ↔ i < (l.takeWhile p).length := by
  induction l generalizing i with
  | nil => cases hi
  | cons a l ih =>
    obtain ⟨ha, hl⟩ := List.pairwise_cons.mp h
    by_cases hp : p a = true
    · rw [List.takeWhile_cons_of_pos hp]
      cases i with
      | zero => simp [hp]
      | succ i => simpa using ih hl (by simpa using hi)
    · rw [List.takeWhile_cons_of_neg hp]
      cases i with
      | zero => simp [hp]
      | succ i =>
        have hi' : i < l.length := by simpa using hi
        have hnot : ¬ p l[i] = true := fun hpi => hp (ha _ (List.getElem_mem hi') hpi)
        simpa using hnot

theorem Partitioned.pairwise_not_hi (h : Partitioned lo hi l) :
    l.Pairwise fun a b => (!hi b) = true → (!hi a) = true :=
  h.upper.imp fun hab hb => by
    rw [Bool.not_eq_true'] at hb ⊢
    exact Bool.eq_false_iff.mpr fun ha => Bool.eq_false_iff.mp hb (hab ha)

/-- The positions of the range in a partitioned list. -/
theorem Partitioned.exists_points (h : Partitioned lo hi l) : ∃ a b, a ≤ b ∧ b ≤ l.length ∧
    (∀ i (hi : i < l.length), lo l[i] = true ↔ i < a) ∧
    ∀ i (hi' : i < l.length), hi l[i] = true ↔ b ≤ i := by
  have hlo : ∀ i (hi : i < l.length), lo l[i] = true ↔ i < (l.takeWhile lo).length :=
    fun i hi => lt_length_takeWhile_iff h.lower hi
  have hhi : ∀ i (hi' : i < l.length),
      hi l[i] = true ↔ (l.takeWhile fun a => !hi a).length ≤ i := by
    intro i hi'
    have hiff := lt_length_takeWhile_iff h.pairwise_not_hi hi'
    rw [← Nat.not_lt, ← hiff, Bool.not_eq_true', Bool.not_eq_false]
  have hlelo : (l.takeWhile lo).length ≤ l.length := (List.takeWhile_sublist _).length_le
  have hlehi : (l.takeWhile fun a => !hi a).length ≤ l.length := (List.takeWhile_sublist _).length_le
  refine ⟨_, _, Nat.le_of_not_lt fun hlt => ?_, hlehi, hlo, hhi⟩
  -- else the element at the second point has both
  have hlen : (l.takeWhile fun a => !hi a).length < l.length := by omega
  have hl := (hlo _ hlen).mpr hlt
  have hh := (hhi _ hlen).mpr (Nat.le_refl _)
  rw [h.disjoint _ (List.getElem_mem hlen) hl] at hh
  cases hh

/-- The elements at the positions from `a` to `b`. -/
theorem filter_eq_take_drop {q : α → Bool} {a b : Nat}
    (h : ∀ i (hi : i < l.length), q l[i] = true ↔ a ≤ i ∧ i < b) :
    l.filter q = (l.drop a).take (b - a) := by
  induction l generalizing a b with
  | nil => simp
  | cons x l ih =>
    have hx : q x = true ↔ a ≤ 0 ∧ 0 < b := h 0 (by simp)
    have hl : ∀ i (hi : i < l.length), q l[i] = true ↔ a ≤ i + 1 ∧ i + 1 < b :=
      fun i hi => h (i + 1) (by simpa using hi)
    have htail : l.filter q = (l.drop (a - 1)).take ((b - 1) - (a - 1)) :=
      ih fun i hi => (hl i hi).trans (by omega)
    cases a with
    | zero =>
      cases b with
      | zero =>
        rw [List.filter_cons_of_neg (fun hq => Nat.lt_irrefl 0 (hx.mp hq).2), htail]
        simp
      | succ b =>
        rw [List.filter_cons_of_pos (hx.mpr ⟨Nat.le_refl _, Nat.succ_pos b⟩), htail]
        simp
    | succ a =>
      rw [List.filter_cons_of_neg (fun hq => Nat.not_succ_le_zero a (hx.mp hq).1), htail]
      rw [List.drop_succ_cons, Nat.add_sub_cancel, Nat.sub_sub, Nat.add_comm 1 a]

theorem equalRange_eq_filter (h : Partitioned lo hi l) :
    equalRange lo hi l = l.filter fun a => !lo a && !hi a := by
  obtain ⟨a, b, hab, hb, hlo, hhi⟩ := h.exists_points
  have hrange : equalRangeAt (fun i => l[i]?.any lo) (fun i => l[i]?.any hi) l.length 0 l.length =
      (a, b) := by
    refine equalRangeAt_eq (Nat.le_refl _) (Nat.zero_le _) hab (by omega) ?_ ?_
    · intro i _ hi'
      have hlt : i < l.length := by omega
      simpa [List.getElem?_eq_getElem hlt] using hlo i hlt
    · intro i _ hi'
      have hlt : i < l.length := by omega
      simpa [List.getElem?_eq_getElem hlt] using hhi i hlt
  unfold equalRange
  rw [hrange]
  refine (filter_eq_take_drop fun i hi' => ?_).symm
  rw [Bool.and_eq_true, Bool.not_eq_true', Bool.not_eq_true', ← Bool.not_eq_true,
    ← Bool.not_eq_true, hlo i hi', hhi i hi']
  omega

theorem takeWhile_eq_filter {p : α → Bool}
    (h : l.Pairwise fun a b => p b = true → p a = true) : l.takeWhile p = l.filter p := by
  induction l with
  | nil => rfl
  | cons a l ih =>
    obtain ⟨ha, hl⟩ := List.pairwise_cons.mp h
    by_cases hp : p a = true
    · rw [List.takeWhile_cons_of_pos hp, List.filter_cons_of_pos hp, ih hl]
    · have hnone : l.filter p = [] := List.filter_eq_nil_iff.mpr fun b hb hpb => hp (ha b hb hpb)
      rw [List.takeWhile_cons_of_neg hp, List.filter_cons_of_neg hp, hnone]

theorem dropWhile_eq_filter {p : α → Bool}
    (h : l.Pairwise fun a b => p b = true → p a = true) :
    l.dropWhile p = l.filter fun a => !p a := by
  induction l with
  | nil => rfl
  | cons a l ih =>
    obtain ⟨ha, hl⟩ := List.pairwise_cons.mp h
    by_cases hp : p a = true
    · rw [List.dropWhile_cons_of_pos hp, List.filter_cons_of_neg (by simp [hp]), ih hl]
    · have hall : (a :: l).filter (fun b => !p b) = a :: l := by
        rw [List.filter_eq_self]
        intro b hb
        rcases List.mem_cons.mp hb with rfl | hb
        · simpa using hp
        · simpa using fun hpb => hp (ha b hb hpb)
      rw [List.dropWhile_cons_of_neg hp, hall]

/-- A search from the front finds the same range. -/
theorem equalRange_eq_takeWhile_dropWhile (h : Partitioned lo hi l) :
    equalRange lo hi l = (l.dropWhile lo).takeWhile fun a => !hi a := by
  have hupper := h.pairwise_not_hi.sublist (List.dropWhile_sublist lo)
  rw [takeWhile_eq_filter hupper, dropWhile_eq_filter h.lower, List.filter_filter,
    equalRange_eq_filter h]
  exact List.filter_congr fun a _ => Bool.and_comm _ _

/-! ### Sorted lists -/

section Sorted

variable {κ : Type} [LinearOrder κ] {key : α → κ} {v : κ}

/-- A list that is sorted by a key is partitioned with respect to each value of it. -/
theorem Partitioned.of_sorted (hl : l.Pairwise fun a b => key a ≤ key b)
    (hlo : ∀ a ∈ l, lo a = true ↔ key a < v) (hhi : ∀ a ∈ l, hi a = true ↔ v < key a) :
    Partitioned lo hi l where
  lower := hl.imp_of_mem fun {a b} ha hb hab hlt =>
    (hlo a ha).mpr (lt_of_le_of_lt hab ((hlo b hb).mp hlt))
  upper := hl.imp_of_mem fun {a b} ha hb hab hlt =>
    (hhi b hb).mpr (lt_of_lt_of_le ((hhi a ha).mp hlt) hab)
  disjoint a ha hlt := Bool.eq_false_iff.mpr fun hgt =>
    lt_asymm ((hlo a ha).mp hlt) ((hhi a ha).mp hgt)

/-- The range that is found has the elements with the key. -/
theorem mem_equalRange_of_sorted (hl : l.Pairwise fun a b => key a ≤ key b)
    (hlo : ∀ a ∈ l, lo a = true ↔ key a < v) (hhi : ∀ a ∈ l, hi a = true ↔ v < key a) {a : α} :
    a ∈ equalRange lo hi l ↔ a ∈ l ∧ key a = v := by
  rw [equalRange_eq_filter (Partitioned.of_sorted hl hlo hhi), List.mem_filter]
  refine and_congr_right fun ha => ?_
  rw [Bool.and_eq_true, Bool.not_eq_true', Bool.not_eq_true', ← Bool.not_eq_true,
    ← Bool.not_eq_true, hlo a ha, hhi a ha, not_lt, not_lt]
  exact ⟨fun h => le_antisymm h.2 h.1, fun h => ⟨h.ge, h.le⟩⟩

end Sorted

end Lists

end Basebox
