import Basebox.Lib.MultiMap
import Basebox.Lib.Table

/-!
# Entries with an id, and the way back from the id

A multimap whose values have an id, with the table that leads from the id back to the key. New ids
are the values of a counter modulo `m`. Once the counter has come round to zero, nothing is said of
the ids it gives.
-/

namespace Basebox

variable {K V : Type} [DecidableEq K] {idOf : V → Nat} {m cnt : Nat} {t : MultiMap K V}
  {back : Table Nat K} {k : K} {v : V}

/-- The entries have ids of their own below `m`, and `back` finds the key of an id. -/
structure IdMap (idOf : V → Nat) (m : Nat) (t : MultiMap K V) (back : Table Nat K) (cnt : Nat) :
    Prop where
  nodup : t.NodupKeys
  back : ∀ i k, back.lookup i = some k ↔ (t.find k).map idOf = some i
  below : cnt ≠ 0 → ∀ k v, t.find k = some v → idOf v < cnt
  cnt_lt : cnt < m

namespace IdMap

theorem empty (hm : cnt < m) : IdMap idOf m ([] : MultiMap K V) ∅ cnt where
  nodup := List.nodup_nil
  back _ _ := by simp
  below _ _ _ h := by cases h
  cnt_lt := hm

theorem lookup_of_find (h : IdMap idOf m t back cnt) (hv : t.find k = some v) :
    back.lookup (idOf v) = some k := (h.back _ k).mpr (by simp [hv])

/-- Entries with the same id have the same key. -/
theorem inj (h : IdMap idOf m t back cnt) {k' : K} {v' : V} (hv : t.find k = some v)
    (hv' : t.find k' = some v') (hid : idOf v = idOf v') : k = k' := by
  have hk := h.lookup_of_find hv
  rw [hid, h.lookup_of_find hv'] at hk
  exact (Option.some.inj hk).symm

/-- A value changes, but not its id. -/
theorem modify (h : IdMap idOf m t back cnt) (k : K) (f : V → V) (hf : ∀ v, idOf (f v) = idOf v) :
    IdMap idOf m (t.modify k f) back cnt where
  nodup := h.nodup.modify k f
  back i k' := by
    rw [h.back i k', MultiMap.find_modify]
    by_cases hk : k' = k
    · rw [if_pos hk, hk, Option.map_map, funext fun v => show (idOf ∘ f) v = idOf v from hf v]
    · rw [if_neg hk]
  below hc k' v hv := by
    rw [MultiMap.find_modify] at hv
    split at hv
    · obtain ⟨w, hw, rfl⟩ := Option.map_eq_some_iff.mp hv
      rw [hf]
      exact h.below hc k w hw
    · exact h.below hc k' v hv
  cnt_lt := h.cnt_lt

/-- An entry goes, and the way back to it. -/
theorem erase (h : IdMap idOf m t back cnt) (hv : t.find k = some v) :
    IdMap idOf m (t.erase k) (back.erase (idOf v)) cnt where
  nodup := h.nodup.erase k
  back i k' := by
    rw [MultiMap.find_erase h.nodup, Table.lookup_erase_ite]
    by_cases hi : i = idOf v
    · subst hi
      simp only [if_true, reduceCtorEq, false_iff]
      split
      · simp
      · next hne =>
        -- Another entry with the id would be found under it.
        intro hk
        rw [← h.back, h.lookup_of_find hv, Option.some.injEq] at hk
        exact hne hk.symm
    · rw [if_neg hi, h.back]
      by_cases hk : k' = k
      · subst hk
        simp [hv, Ne.symm hi]
      · rw [if_neg hk]
  below hc k' w hw := by
    rw [MultiMap.find_erase h.nodup] at hw
    split at hw
    · cases hw
    · exact h.below hc k' w hw
  cnt_lt := h.cnt_lt

/-- No entry has the value of the counter yet. -/
theorem lookup_cnt (h : IdMap idOf m t back cnt) (hc : cnt ≠ 0) : back.lookup cnt = none := by
  rw [Option.eq_none_iff_forall_ne_some]
  intro k hk
  obtain ⟨v, hv, hid⟩ := Option.map_eq_some_iff.mp ((h.back _ k).mp hk)
  have := h.below hc k v hv
  omega

/-- A new entry takes its id from the counter. -/
theorem emplace (h : IdMap idOf m t back cnt) (hc : cnt ≠ 0) (hk : t.find k = none)
    (hv : idOf v = cnt) :
    IdMap idOf m (t.emplace k v) (back.emplace cnt k) ((cnt + 1) % m) where
  nodup := h.nodup.emplace hk v
  back i k' := by
    have hnew := h.lookup_cnt hc
    rw [MultiMap.find_emplace, Table.lookup_emplace]
    by_cases hkk : k' = k
    · subst hkk
      rw [hk]
      by_cases hi : i = cnt
      · simp [hi, hnew, hv]
      · have hnone : back.lookup i ≠ some k' := by
          rw [Ne, h.back, hk]
          simp
        simp [hi, hnone, hv, Ne.symm hi]
    · by_cases hi : i = cnt
      · subst hi
        have hne := h.back i k'
        rw [hnew] at hne
        simp [hnew, hkk, Ne.symm hkk, ← hne]
      · simp [hi, hkk, h.back]
  below hw k' w hkw := by
    -- The counter has not come round, so it is one more than it was.
    have hlt := h.cnt_lt
    have hnext : (cnt + 1) % m = cnt + 1 := by
      apply Nat.mod_eq_of_lt
      by_contra hge
      exact hw (by rw [show cnt + 1 = m by omega, Nat.mod_self])
    rw [MultiMap.find_emplace] at hkw
    rw [hnext]
    rcases Option.or_eq_some_iff.mp hkw with hkw | ⟨-, hkw⟩
    · have := h.below hc k' w hkw
      omega
    · split at hkw
      · cases hkw
        omega
      · cases hkw
  cnt_lt := Nat.mod_lt _ (by have := h.cnt_lt; omega)

end IdMap

end Basebox
