import Mathlib.Data.List.Nodup

/-!
# Two tables that take their ids from one counter

Entries are pairs of a key and an id; new ones go to the end. The counter counts modulo `m`, and
each new entry takes its value. Zero is no id: once the counter has come round to it, nothing is
said of the ids it gives.
-/

namespace Basebox

variable {K L : Type} {m cnt : Nat} {a a' : List (K × Nat)} {b b' : List (L × Nat)}

/-- No key occurs twice in a table and no id twice in both, and the ids are below the counter. -/
structure SharedIds (m : Nat) (a : List (K × Nat)) (b : List (L × Nat)) (cnt : Nat) : Prop where
  left : (a.map (·.1)).Nodup
  right : (b.map (·.1)).Nodup
  ids : (a.map (·.2) ++ b.map (·.2)).Nodup
  pos : ∀ i ∈ a.map (·.2) ++ b.map (·.2), 0 < i
  below : cnt ≠ 0 → ∀ i ∈ a.map (·.2) ++ b.map (·.2), i < cnt
  cnt_lt : cnt < m

namespace SharedIds

theorem empty (hm : cnt < m) : SharedIds m ([] : List (K × Nat)) ([] : List (L × Nat)) cnt where
  left := List.nodup_nil
  right := List.nodup_nil
  ids := List.nodup_nil
  pos _ hi := by cases hi
  below _ _ hi := by cases hi
  cnt_lt := hm

theorem swap (h : SharedIds m a b cnt) : SharedIds m b a cnt where
  left := h.right
  right := h.left
  ids := (List.perm_append_comm.nodup_iff).mp h.ids
  pos i hi := h.pos i (List.perm_append_comm.mem_iff.mp hi)
  below hc i hi := h.below hc i (List.perm_append_comm.mem_iff.mp hi)
  cnt_lt := h.cnt_lt

/-- Entries may go. -/
theorem sublist (h : SharedIds m a b cnt) (ha : a'.Sublist a) (hb : b'.Sublist b) :
    SharedIds m a' b' cnt := by
  have hids : (a'.map (·.2) ++ b'.map (·.2)).Sublist (a.map (·.2) ++ b.map (·.2)) :=
    (ha.map _).append (hb.map _)
  exact {
    left := (ha.map _).nodup h.left
    right := (hb.map _).nodup h.right
    ids := hids.nodup h.ids
    pos := fun i hi => h.pos i (hids.subset hi)
    below := fun hc i hi => h.below hc i (hids.subset hi)
    cnt_lt := h.cnt_lt }

/-- The value of the counter is a new id. -/
theorem notMem (h : SharedIds m a b cnt) (hc : cnt ≠ 0) : cnt ∉ a.map (·.2) ++ b.map (·.2) :=
  fun hmem => Nat.lt_irrefl cnt (h.below hc cnt hmem)

theorem concat_left (h : SharedIds m a b cnt) (hc : cnt ≠ 0) {k : K} (hk : k ∉ a.map (·.1)) :
    SharedIds m (a ++ [(k, cnt)]) b ((cnt + 1) % m) := by
  have hperm : ((a ++ [(k, cnt)]).map (·.2) ++ b.map (·.2)).Perm
      (cnt :: (a.map (·.2) ++ b.map (·.2))) := by
    rw [List.map_append, List.append_assoc]
    exact List.perm_middle
  have hm := h.cnt_lt
  exact {
    left := by
      rw [List.map_append, List.map_singleton, List.nodup_append_comm]
      exact List.nodup_cons.mpr ⟨hk, h.left⟩
    right := h.right
    ids := hperm.nodup_iff.mpr (List.nodup_cons.mpr ⟨h.notMem hc, h.ids⟩)
    pos := fun i hi => by
      rcases List.mem_cons.mp (hperm.mem_iff.mp hi) with rfl | hi
      · omega
      · exact h.pos i hi
    below := fun hw i hi => by
      -- The counter has not come round, so it is one more than it was.
      have hnext : (cnt + 1) % m = cnt + 1 := by
        apply Nat.mod_eq_of_lt
        by_contra hge
        exact hw (by rw [show cnt + 1 = m by omega, Nat.mod_self])
      rw [hnext]
      rcases List.mem_cons.mp (hperm.mem_iff.mp hi) with rfl | hi
      · omega
      · have := h.below hc i hi
        omega
    cnt_lt := Nat.mod_lt _ (by omega) }

theorem concat_right (h : SharedIds m a b cnt) (hc : cnt ≠ 0) {k : L} (hk : k ∉ b.map (·.1)) :
    SharedIds m a (b ++ [(k, cnt)]) ((cnt + 1) % m) :=
  (h.swap.concat_left hc hk).swap

end SharedIds

end Basebox
