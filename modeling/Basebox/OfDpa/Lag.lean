import Basebox.Lib.Table
import Basebox.Sai
import Mathlib.Data.Finset.Basic

/-!
# Link aggregation groups of the controller (`src/of-dpa/controller.cc`)

The map `lag` from the number of a LAG to its member ports, and the counter the numbers come
from. A connected switch is assumed; the result of the OF-DPA call at the end of each operation
is its argument `rpc`.
-/

namespace Basebox

/-- The LAGs of the controller. -/
structure Lags where
  /-- `controller::lag`, keyed by the number of the LAG (`uint16_t`). -/
  lag : Table Nat (Finset Nat) := ∅
  /-- The static counter `_lag_id` of `lag_create` (`uint16_t`). -/
  lagId : Nat := 1
  deriving DecidableEq

namespace Lags

/-- `lag_create`: the result, and the id if one was written to `*lag_id`. -/
def lagCreate (c : Lags) (rpc : Int) : Int × Option Nat × Lags :=
  if c.lagId ∈ c.lag then (-EINVAL, none, c)
  else
    (rpc, some (Nbi.combinePortType c.lagId .lag),
      { lag := c.lag.insert c.lagId ∅, lagId := u16 (c.lagId + 1) })

/-- `lag_remove`. -/
def lagRemove (c : Lags) (lagId : Nat) (rpc : Int) : Int × Lags :=
  (rpc, { c with lag := c.lag.erase (Nbi.getPortNum lagId) })

/-- `lag_add_member`. -/
def lagAddMember (c : Lags) (lagId portId : Nat) (rpc : Int) : Int × Lags :=
  if Nbi.isLag lagId then
    match c.lag.lookup (Nbi.getPortNum lagId) with
    | none => (-ENODATA, c)
    | some set => (rpc, { c with lag := c.lag.insert (Nbi.getPortNum lagId) (insert portId set) })
  else (-EINVAL, c)

/-- `lag_remove_member`. -/
def lagRemoveMember (c : Lags) (lagId portId : Nat) (rpc : Int) : Int × Lags :=
  if Nbi.isLag lagId then
    match c.lag.lookup (Nbi.getPortNum lagId) with
    | none => (-ENODATA, c)
    | some set =>
      if portId ∈ set then
        (rpc, { c with lag := c.lag.insert (Nbi.getPortNum lagId) (set.erase portId) })
      else (-EINVAL, c)
  else (-EINVAL, c)

section Lookup

variable {c : Lags} {lagId : Nat} {set : Finset Nat} (portId : Nat) (rpc : Int)

theorem lagAddMember_eq (hl : Nbi.isLag lagId = true)
    (hset : c.lag.lookup (Nbi.getPortNum lagId) = some set) :
    c.lagAddMember lagId portId rpc =
      (rpc, { c with lag := c.lag.insert (Nbi.getPortNum lagId) (insert portId set) }) := by
  rw [lagAddMember, if_pos hl, hset]

/-- Whether or not the port was a member, it is none afterwards. -/
theorem lookup_lagRemoveMember (hl : Nbi.isLag lagId = true)
    (hset : c.lag.lookup (Nbi.getPortNum lagId) = some set) (n : Nat) :
    (c.lagRemoveMember lagId portId rpc).2.lag.lookup n =
      if n = Nbi.getPortNum lagId then some (set.erase portId) else c.lag.lookup n := by
  rw [lagRemoveMember, if_pos hl, hset]
  by_cases hp : portId ∈ set
  · simp only [if_pos hp]
    exact Table.lookup_insert_ite _ _ _ _
  · simp only [if_neg hp, Finset.erase_eq_of_notMem hp]
    split
    · subst_vars; exact hset
    · rfl

theorem lagId_lagRemoveMember (c : Lags) (lagId portId : Nat) (rpc : Int) :
    (c.lagRemoveMember lagId portId rpc).2.lagId = c.lagId := by
  unfold lagRemoveMember
  split
  · cases c.lag.lookup (Nbi.getPortNum lagId) with
    | none => rfl
    | some set => simp only; split <;> rfl
  · rfl

end Lookup

end Lags

end Basebox
