import Mathlib.Data.Finset.Erase
import Mathlib.Data.Finset.Insert

/-!
# The keys in use

A set holds the keys of some users. A key has no count of its users: who removes one of them has to
find out whether another one has the same key.

* `InUse key users k`: some user has the key `k`. A user may have no key.
* `Tracks key P entries users`: of the keys with `P`, the set holds those in use.
* `Tracks.add`, `Tracks.remove_iff`: a user comes with its key; a user goes, and its key is removed
  exactly if the set is to stay in step exactly when no one else has it.
-/

namespace Basebox

variable {υ κ : Type}

/-- Some user has the key. -/
def InUse (key : υ → Option κ) (users : Finset υ) (k : κ) : Prop := ∃ u ∈ users, key u = some k

/-- The keys with `P` in the set are those in use. -/
def Tracks (key : υ → Option κ) (P : κ → Prop) (entries : Finset κ) (users : Finset υ) : Prop :=
  ∀ k, P k → (k ∈ entries ↔ InUse key users k)

section Rules

variable {key : υ → Option κ} {P : κ → Prop} {entries entries' : Finset κ} {users : Finset υ} {u : υ}

theorem inUse_of_mem {k : κ} (hu : u ∈ users) (hk : key u = some k) : InUse key users k :=
  ⟨u, hu, hk⟩

variable [DecidableEq υ]

theorem inUse_insert {k : κ} :
    InUse key (insert u users) k ↔ key u = some k ∨ InUse key users k := by
  unfold InUse
  simp only [Finset.mem_insert, exists_eq_or_imp]

/-- A user matters only to its own key. -/
theorem inUse_erase {k : κ} (hk : key u ≠ some k) :
    InUse key (users.erase u) k ↔ InUse key users k := by
  constructor
  · rintro ⟨v, hv, hkv⟩
    exact ⟨v, Finset.mem_of_mem_erase hv, hkv⟩
  · rintro ⟨v, hv, hkv⟩
    exact ⟨v, Finset.mem_erase.mpr ⟨fun hvu => hk (hvu ▸ hkv), hv⟩, hkv⟩

/-- A user comes, and its key is added. -/
theorem Tracks.add (h : Tracks key P entries users)
    (hentries : ∀ k, P k → (k ∈ entries' ↔ k ∈ entries ∨ key u = some k)) :
    Tracks key P entries' (insert u users) := by
  intro k hk
  rw [hentries k hk, inUse_insert, h k hk]
  exact or_comm

/-- A user goes, and its key is removed if `R` says so. -/
theorem Tracks.remove_iff (h : Tracks key P entries users) (hu : u ∈ users) {R : Prop}
    (hentries : ∀ k, P k → (k ∈ entries' ↔ k ∈ entries ∧ ¬ (key u = some k ∧ R))) :
    Tracks key P entries' (users.erase u) ↔
      ∀ k, P k → key u = some k → (R ↔ ¬ InUse key (users.erase u) k) := by
  have hself : ∀ k, P k → key u = some k → (k ∈ entries' ↔ ¬ R) := fun k hk hku => by
    have hmem := (h k hk).mpr (inUse_of_mem hu hku)
    simp only [hentries k hk, hmem, hku, true_and]
  constructor
  · intro h' k hk hku
    rw [← h' k hk, hself k hk hku, not_not]
  · intro hiff k hk
    by_cases hku : key u = some k
    · rw [hself k hk hku, hiff k hk hku, not_not]
    · rw [inUse_erase hku, ← h k hk, hentries k hk]
      simp only [hku, false_and, not_false_iff, and_true]

end Rules

end Basebox
