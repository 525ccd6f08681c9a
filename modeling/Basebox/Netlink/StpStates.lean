import Basebox.Lib.Run
import Basebox.Lib.Table
import Basebox.Sai
import Mathlib.Data.Set.Function

/-!
# The STP state store of the bridge (`bridge_stp_states`, `src/netlink/nl_bridge.h`)

Two maps: the global state of a port, keyed by the full port id, and the state of a port in a
VLAN, keyed by the VLAN and then by a `uint16_t`. The port id passed in is an `int`, so the inner
key is the id truncated to its port number: a physical port and the LAG of the same number share
it.

* `Spec`: what the store is for, a state per (port, VLAN) that only the operations on that port
  and VLAN change.
* `refines_iff_injOn`: over any set of port ids, the store behaves as `Spec` in every history on
  these ports if and only if no two of them have the same number.
-/

namespace Basebox

/-- Conversion of an `int` to `uint8_t`. -/
def u8 (n : Int) : Nat := (n % 256).toNat

/-- The port takes no part. -/
def BR_STATE_DISABLED : Nat := 0
/-- The port listens. -/
def BR_STATE_LISTENING : Nat := 1
/-- The port learns and does not forward. -/
def BR_STATE_LEARNING : Nat := 2
/-- The port forwards. -/
def BR_STATE_FORWARDING : Nat := 3
/-- The port is blocked. -/
def BR_STATE_BLOCKING : Nat := 4

/-- `struct bridge_stp_states`. -/
structure BridgeStpStates where
  glStates : Table Nat Nat := ∅
  pvStates : Table Nat (Table Nat Nat) := ∅
  deriving DecidableEq

namespace BridgeStpStates

variable (s : BridgeStpStates)

/-- The new store, and whether the VLAN had no state before. -/
def addPvlanState (portId vlanId state : Nat) : BridgeStpStates × Bool :=
  match s.pvStates.lookup vlanId with
  | none =>
    let pvMap : Table Nat Nat := (∅ : Table Nat Nat).emplace (u16 portId) state
    ({ s with pvStates := s.pvStates.emplace vlanId pvMap }, true)
  | some m =>
    ({ s with pvStates := s.pvStates.insert vlanId (m.insert (u16 portId) state) }, false)

/-- The new store, and whether the VLAN lost its last state. -/
def delPvlanState (portId vlanId : Nat) : BridgeStpStates × Bool :=
  match s.pvStates.lookup vlanId with
  | none => (s, false)
  | some m =>
    let m' := m.erase (u16 portId)
    if m'.entries.isEmpty then ({ s with pvStates := s.pvStates.erase vlanId }, true)
    else ({ s with pvStates := s.pvStates.insert vlanId m' }, false)

/-- `add_global_state`. -/
def addGlobalState (portId state : Nat) : BridgeStpStates :=
  { s with glStates := s.glStates.insert portId state }

/-- `get_global_state`. -/
def getGlobalState (portId : Nat) : Int :=
  match s.glStates.lookup portId with
  | none => -EINVAL
  | some st => st

/-- `get_pvlan_state`. -/
def getPvlanState (portId vid : Nat) : Int :=
  match s.pvStates.lookup vid with
  | none => -EINVAL
  | some m =>
    match m.lookup (u16 portId) with
    | none => -EINVAL
    | some st => st

/-- `get_effective_state`. -/
def getEffectiveState (gState pvState : Nat) : Nat :=
  if gState = BR_STATE_BLOCKING ∨ pvState = BR_STATE_BLOCKING then BR_STATE_BLOCKING
  else min gState pvState

/-- The VLANs with a state of the port, each with its effective state. The global state is an
`int` (`-EINVAL` for a port without one) that is passed on as a `uint8_t`. -/
def getMinStates (portId : Nat) : Table Nat Nat :=
  s.pvStates.filterMap fun _ m =>
    (m.lookup (u16 portId)).map (getEffectiveState (u8 (s.getGlobalState portId)))

/-- `get_min_state`. -/
def getMinState (portId vid : Nat) : Int :=
  let gState := s.getGlobalState portId
  let pvState := s.getPvlanState portId vid
  if pvState < 0 then gState else getEffectiveState (u8 gState) (u8 pvState)

/-! ## The inner map at a key -/

/-- What the store holds under a VLAN and an inner key. -/
def cell (vid k : Nat) : Option Nat := (s.pvStates.lookup vid).bind (·.lookup k)

theorem getPvlanState_eq (p v : Nat) :
    s.getPvlanState p v = (s.cell v (u16 p)).elim (-EINVAL) (fun st => (st : Int)) := by
  unfold getPvlanState cell
  cases s.pvStates.lookup v with
  | none => rfl
  | some m =>
    simp only [Option.bind_some]
    cases m.lookup (u16 p) <;> rfl

@[simp] theorem lookup_getMinStates (p v : Nat) :
    (s.getMinStates p).lookup v =
      (s.cell v (u16 p)).map (getEffectiveState (u8 (s.getGlobalState p))) := by
  unfold getMinStates cell
  rw [Table.lookup_filterMap, Option.map_bind]
  rfl

@[simp] theorem cell_addPvlanState (p v st w k : Nat) :
    (s.addPvlanState p v st).1.cell w k =
      if w = v ∧ k = u16 p then some st else s.cell w k := by
  unfold addPvlanState cell
  cases h : s.pvStates.lookup v with
  | none => grind [AList.lookup_empty]
  | some m => grind

theorem lookup_of_entries_isEmpty {m : Table Nat Nat} (h : m.entries.isEmpty = true) (k : Nat) :
    m.lookup k = none := by
  have hm : m = ∅ := AList.ext (List.isEmpty_iff.mp h)
  rw [hm]; exact AList.lookup_empty k

@[simp] theorem cell_delPvlanState (p v w k : Nat) :
    (s.delPvlanState p v).1.cell w k = if w = v ∧ k = u16 p then none else s.cell w k := by
  unfold delPvlanState cell
  cases h : s.pvStates.lookup v with
  | none => grind
  | some m =>
    by_cases he : (m.erase (u16 p)).entries.isEmpty = true
    · -- An emptied inner map is dropped with its VLAN: every other key had no state either.
      have hnone := lookup_of_entries_isEmpty he k
      grind
    · grind

@[simp] theorem addPvlanState_glStates (p v st : Nat) :
    (s.addPvlanState p v st).1.glStates = s.glStates := by
  unfold addPvlanState; split <;> rfl

@[simp] theorem delPvlanState_glStates (p v : Nat) :
    (s.delPvlanState p v).1.glStates = s.glStates := by
  unfold delPvlanState
  dsimp only
  split
  · rfl
  · split <;> rfl

/-! ## Histories and the intended store -/

/-- The operations on the store. -/
inductive Ev where
  | addPvlan (portId vlanId state : Nat)
  | delPvlan (portId vlanId : Nat)
  | addGlobal (portId state : Nat)
  deriving DecidableEq

/-- The port an operation is about. -/
def Ev.port : Ev → Nat
  | .addPvlan p _ _ | .delPvlan p _ | .addGlobal p _ => p

/-- The states after a call. -/
def step (s : BridgeStpStates) : Ev → BridgeStpStates
  | .addPvlan p v st => (s.addPvlanState p v st).1
  | .delPvlan p v => (s.delPvlanState p v).1
  | .addGlobal p st => s.addGlobalState p st

/-- The intended store: a state for each port and VLAN. -/
abbrev Spec := Nat → Nat → Option Nat

/-- What a call means for the last states given. -/
def Spec.step (g : Spec) : Ev → Spec
  | .addPvlan p v st => fun q w => if q = p ∧ w = v then some st else g q w
  | .delPvlan p v => fun q w => if q = p ∧ w = v then none else g q w
  | .addGlobal _ _ => g

/-- The last state stored for exactly this port and VLAN, and not deleted since. -/
def stored (es : List Ev) : Spec := run Spec.step (fun _ _ => none) es

/-- After the history `es`, the store answers about the ports of `P` as intended, and one more
operation on a port of `P` changes nothing that is said about another one. -/
structure Refines (P : Set Nat) (es : List Ev) : Prop where
  state : ∀ p ∈ P, ∀ v, (run step {} es).getPvlanState p v =
    (stored es p v).elim (-EINVAL) (fun st => (st : Int))
  vlans : ∀ p ∈ P, ∀ v, v ∈ (run step {} es).getMinStates p ↔ (stored es p v).isSome
  frame : ∀ e : Ev, e.port ∈ P → ∀ p ∈ P, p ≠ e.port → ∀ v,
    ((run step {} es).step e).getPvlanState p v = (run step {} es).getPvlanState p v ∧
    (((run step {} es).step e).getMinStates p).lookup v =
      ((run step {} es).getMinStates p).lookup v

/-- The cells of the ports of `P` hold the intended states. -/
def Agrees (P : Set Nat) (s : BridgeStpStates) (g : Spec) : Prop :=
  ∀ p ∈ P, ∀ v, s.cell v (u16 p) = g p v

theorem agrees_step {P : Set Nat} (hP : Set.InjOn u16 P) {s : BridgeStpStates} {g : Spec}
    (h : Agrees P s g) {e : Ev} (he : e.port ∈ P) : Agrees P (s.step e) (g.step e) := by
  intro p hp v
  -- The inner keys of two ports of `P` are equal only if the ports are.
  have hk : u16 p = u16 e.port ↔ p = e.port := hP.eq_iff hp he
  have hg := h p hp v
  cases e with
  | addPvlan q w st => simp only [Ev.port] at hk; simp [step, Spec.step, hk, hg, and_comm]
  | delPvlan q w => simp only [Ev.port] at hk; simp [step, Spec.step, hk, hg, and_comm]
  | addGlobal q st => exact hg

theorem agrees_run {P : Set Nat} (hP : Set.InjOn u16 P) {es : List Ev}
    (hes : ∀ e ∈ es, e.port ∈ P) : Agrees P (run step {} es) (stored es) := by
  suffices h : ∀ s g, Agrees P s g → Agrees P (run step s es) (run Spec.step g es) from
    h _ _ fun _ _ _ => rfl
  induction es with
  | nil => exact fun _ _ h => h
  | cons e es ih =>
    intro s g h
    exact ih (fun e' he' => hes e' (List.mem_cons_of_mem e he')) _ _
      (agrees_step hP h (hes e List.mem_cons_self))

theorem getGlobalState_step {s : BridgeStpStates} {e : Ev} {p : Nat} (h : p ≠ e.port) :
    (s.step e).getGlobalState p = s.getGlobalState p := by
  cases e with
  | addPvlan q w st => simp [step, getGlobalState]
  | delPvlan q w => simp [step, getGlobalState]
  | addGlobal q st =>
    have h' : p ≠ q := h
    simp [step, getGlobalState, addGlobalState, h']

theorem cell_step {s : BridgeStpStates} {e : Ev} {k : Nat} (h : k ≠ u16 e.port) (v : Nat) :
    (s.step e).cell v k = s.cell v k := by
  cases e with
  | addPvlan q w st => simp only [Ev.port] at h; simp [step, h]
  | delPvlan q w => simp only [Ev.port] at h; simp [step, h]
  | addGlobal q st => rfl

/-- On ports with pairwise different numbers every history behaves as intended. -/
theorem refines_of_injOn {P : Set Nat} (hP : Set.InjOn u16 P) {es : List Ev}
    (hes : ∀ e ∈ es, e.port ∈ P) : Refines P es := by
  have hagree := agrees_run hP hes
  refine ⟨fun p hp v => ?_, fun p hp v => ?_, fun e he p hp hne v => ?_⟩
  · rw [getPvlanState_eq, hagree p hp v]
  · rw [← AList.lookup_isSome, lookup_getMinStates, hagree p hp v, Option.isSome_map]
  · have hk : u16 p ≠ u16 e.port := fun h => hne (hP hp he h)
    simp only [getPvlanState_eq, lookup_getMinStates, cell_step hk, getGlobalState_step hne,
      and_self]

/-- Over the port ids `P`, the store is a store of one state per port and VLAN in every history
on these ports exactly when no two ids of `P` have the same port number. -/
theorem refines_iff_injOn (P : Set Nat) :
    (∀ es : List Ev, (∀ e ∈ es, e.port ∈ P) → Refines P es) ↔ Set.InjOn Nbi.getPortNum P := by
  have hnum : Set.InjOn Nbi.getPortNum P ↔ Set.InjOn u16 P :=
    Set.EqOn.injOn_iff fun p _ => Nbi.getPortNum_eq p
  rw [hnum]
  constructor
  · intro h p hp q hq hpq
    -- A state stored for `p` is read back under `q`.
    have hes : ∀ e ∈ [Ev.addPvlan p 1 BR_STATE_BLOCKING], e.port ∈ P := by simpa [Ev.port] using hp
    have hst := (h _ hes).state q hq 1
    by_contra hne
    simp [getPvlanState_eq, step, stored, Spec.step, hpq, Ne.symm hne, EINVAL] at hst
  · exact fun hP es hes => refines_of_injOn hP hes

/-- A history on one port only: physical port 1 is set to blocking in VLAN 10. -/
def blockPort1 : List Ev := [.addPvlan (Nbi.combinePortType 1 .physical) 10 BR_STATE_BLOCKING]

/-- The LAG with number 1 then has a state in VLAN 10 that was never stored for it. -/
theorem blockPort1_not_refines :
    (∀ e ∈ blockPort1, Nbi.IsPort e.port) ∧
    (run step {} blockPort1).getPvlanState (Nbi.combinePortType 1 .lag) 10 = 4 ∧
    stored blockPort1 (Nbi.combinePortType 1 .lag) 10 = none ∧
    ¬ Refines {p | Nbi.IsPort p} blockPort1 := by
  refine ⟨?_, by decide, by decide, fun h => ?_⟩
  · simp only [blockPort1, List.mem_singleton, forall_eq, Ev.port]
    exact ⟨1, .inl rfl⟩
  · have hst := h.state (Nbi.combinePortType 1 .lag) ⟨1, .inr rfl⟩ 10
    revert hst
    decide

end BridgeStpStates
end Basebox
