import Basebox.Lib.Table

/-!
# Tables of reference counts

`Counts cnt t l`: the table `t` counts the references in the list `l`, that is, it has an entry for
each key in `l` and for no other, and `cnt` of the value is how often the key is in `l`. The order
of `l` does not matter.

* `Counts.take`, `Counts.create`: a reference is taken.
* `Counts.drop`, `Counts.remove`: a reference is given back, and the entry goes with the last one.
* `Counts.rekey`: an entry is moved to another key.
* `Table.occurrences`: the keys of a table, each as often as it is counted.
-/

namespace Basebox

variable {K V : Type} [DecidableEq K]

/-- Each entry counts the occurrences of its key in `l`. -/
structure Counts (cnt : V → Int) (t : Table K V) (l : List K) : Prop where
  mem : ∀ k, k ∈ t ↔ k ∈ l
  count : ∀ k v, t.lookup k = some v → cnt v = l.count k

namespace Counts

variable {cnt : V → Int} {t : Table K V} {l l' : List K} {k : K} {v : V}

theorem empty : Counts cnt (∅ : Table K V) [] where
  mem k := by simp
  count k v h := by simp at h

theorem perm (h : Counts cnt t l) (hp : l.Perm l') : Counts cnt t l' where
  mem k := (h.mem k).trans hp.mem_iff
  count k v hv := by rw [h.count k v hv, hp.count_eq]

theorem lookup_none (h : Counts cnt t l) (hk : k ∉ l) : t.lookup k = none :=
  Table.not_mem_iff_lookup.mp fun hm => hk ((h.mem k).mp hm)

theorem lookup_some (h : Counts cnt t l) (hk : k ∈ l) :
    ∃ v, t.lookup k = some v ∧ cnt v = l.count k := by
  obtain ⟨v, hv⟩ := Table.mem_iff_lookup.mp ((h.mem k).mpr hk)
  exact ⟨v, hv, h.count k v hv⟩

theorem one_le (h : Counts cnt t (k :: l)) (hv : t.lookup k = some v) : 1 ≤ cnt v := by
  rw [h.count k v hv, List.count_cons_self]
  omega

theorem insert_cons (h : Counts cnt t l) (hv : cnt v = l.count k + 1) :
    Counts cnt (t.insert k v) (k :: l) where
  mem k' := by simp [h.mem k']
  count k' v' hv' := by
    rw [Table.lookup_insert_ite] at hv'
    split_ifs at hv' with hk
    · cases hv'
      rw [hk, List.count_cons_self, hv]
      rfl
    · rw [h.count k' v' hv', List.count_cons_of_ne (Ne.symm hk)]

/-- A reference to an entry that is there. -/
theorem take (h : Counts cnt t l) {w : V} (hw : t.lookup k = some w) (hv : cnt v = cnt w + 1) :
    Counts cnt (t.insert k v) (k :: l) :=
  h.insert_cons (by rw [hv, h.count k w hw])

/-- A new entry, with its first reference. -/
theorem create (h : Counts cnt t l) (hk : t.lookup k = none) (hv : cnt v = 1) :
    Counts cnt (t.insert k v) (k :: l) := by
  refine h.insert_cons ?_
  have hkl : k ∉ l := fun hm => Table.not_mem_iff_lookup.mpr hk ((h.mem k).mpr hm)
  rw [hv, List.count_eq_zero_of_not_mem hkl]
  rfl

/-- A reference is given back, and it is not the last one. -/
theorem drop (h : Counts cnt t (k :: l)) {w : V} (hw : t.lookup k = some w)
    (hv : cnt v = cnt w - 1) (hne : cnt v ≠ 0) : Counts cnt (t.insert k v) l := by
  have hcnt : cnt v = l.count k := by
    rw [hv, h.count k w hw, List.count_cons_self]
    omega
  have hk : k ∈ l := by
    rw [hcnt] at hne
    exact List.count_pos_iff.mp (by omega)
  refine ⟨fun k' => ?_, fun k' v' hv' => ?_⟩
  · rw [AList.mem_insert, h.mem k', List.mem_cons]
    constructor
    · rintro (rfl | rfl | hm)
      · exact hk
      · exact hk
      · exact hm
    · exact fun hm => .inr (.inr hm)
  · rw [Table.lookup_insert_ite] at hv'
    split_ifs at hv' with hkk
    · cases hv'
      rw [hkk, hcnt]
    · rw [h.count k' v' hv', List.count_cons_of_ne (Ne.symm hkk)]

/-- The last reference is given back. -/
theorem remove (h : Counts cnt t (k :: l)) {w : V} (hw : t.lookup k = some w) (hv : cnt w = 1) :
    Counts cnt (t.erase k) l := by
  have hcnt : l.count k = 0 := by
    have := h.count k w hw
    rw [hv, List.count_cons_self] at this
    omega
  have hk : k ∉ l := List.count_eq_zero.mp hcnt
  refine ⟨fun k' => ?_, fun k' v' hv' => ?_⟩
  · rw [AList.mem_erase, h.mem k', List.mem_cons]
    constructor
    · rintro ⟨hne, rfl | hm⟩
      · exact absurd rfl hne
      · exact hm
    · exact fun hm => ⟨fun e => hk (e ▸ hm), .inr hm⟩
  · rw [Table.lookup_erase_ite] at hv'
    split_ifs at hv' with hkk
    rw [h.count k' v' hv', List.count_cons_of_ne (Ne.symm hkk)]

/-- An entry gets another key, which was not in use, and so do the references to it. -/
theorem rekey (h : Counts cnt t l) (hv : t.lookup k = some v) {k₂ : K} (hk : k₂ ∉ t) :
    Counts cnt (Table.emplace (t.erase k) k₂ v) (l.map fun a => if a = k then k₂ else a) := by
  have hk₂ : k₂ ∉ l := fun hm => hk ((h.mem k₂).mpr hm)
  have hkl : k ∈ l := (h.mem k).mp (Table.mem_iff_lookup.mpr ⟨v, hv⟩)
  have hne : k₂ ≠ k := fun e => hk₂ (e ▸ hkl)
  have hnone : (t.erase k).lookup k₂ = none := by
    rw [Table.lookup_erase_ite, if_neg hne, Table.not_mem_iff_lookup.mp hk]
  have hlookup : ∀ a, (Table.emplace (t.erase k) k₂ v).lookup a =
      if a = k₂ then some v else if a = k then none else t.lookup a := by
    intro a
    rw [Table.lookup_emplace, hnone, Table.lookup_erase_ite]
    rfl
  -- How often a key is in the new list.
  have hcount : ∀ a, (l.map fun b => if b = k then k₂ else b).count a =
      if a = k₂ then l.count k else if a = k then 0 else l.count a := by
    intro a
    clear h hkl hv hnone hlookup
    induction l with
    | nil => simp
    | cons b l ih =>
      rw [List.mem_cons, not_or] at hk₂
      rw [List.map_cons, List.count_cons, ih hk₂.2]
      simp only [List.count_cons, beq_iff_eq]
      by_cases hb : b = k
      · subst hb
        by_cases ha : a = k₂
        · subst ha
          simp
        · by_cases hab : a = b
          · subst hab
            simp [ha, hne]
          · simp [ha, hab, Ne.symm ha, Ne.symm hab]
      · by_cases ha : a = k₂
        · subst ha
          simp [hb, Ne.symm hk₂.1]
        · by_cases hak : a = k
          · subst hak
            simp [ha, hb]
          · simp [ha, hak, hb]
  refine ⟨fun a => ?_, fun a w hw => ?_⟩
  · rw [Table.mem_iff_lookup, hlookup, ← List.count_pos_iff, hcount]
    by_cases ha : a = k₂
    · simp only [ha, if_true, Option.some.injEq, exists_eq', true_iff]
      exact List.count_pos_iff.mpr hkl
    · by_cases hak : a = k
      · simp [hak, hne.symm]
      · simp only [ha, hak, if_false, ← Table.mem_iff_lookup, h.mem a, List.count_pos_iff]
  · rw [hlookup] at hw
    rw [hcount]
    split_ifs at hw ⊢ with ha hak
    · cases hw
      exact h.count k v hv
    · exact h.count a w hw

end Counts

namespace Table

/-- The keys of a table, each as often as `count` says. -/
def occurrences (t : Table K V) (count : K → Nat) : List K :=
  t.keys.flatMap fun k => List.replicate (count k) k

theorem count_occurrences [BEq K] [LawfulBEq K] (t : Table K V) (count : K → Nat) (k : K) :
    (t.occurrences count).count k = if k ∈ t then count k else 0 := by
  have hlist (l : List K) (hl : l.Nodup) :
      (l.flatMap fun k => List.replicate (count k) k).count k = if k ∈ l then count k else 0 := by
    induction l with
    | nil => rfl
    | cons a l ih =>
      obtain ⟨ha, hl⟩ := List.nodup_cons.mp hl
      rw [List.flatMap_cons, List.count_append, List.count_replicate, ih hl]
      by_cases hk : a = k
      · subst hk
        simp [ha]
      · simp [hk, Ne.symm hk]
  refine (hlist t.keys t.nodupKeys).trans ?_
  simp only [AList.mem_keys]

end Table

end Basebox
