import Basebox.Lib.Table
import Basebox.Sai
import Mathlib.Data.Finset.Basic

/-!
# The switch as the controller sees it: group and flow tables

The OpenFlow messages that `src/of-dpa/controller.cc` sends, and what a connected switch does
with them: a group ADD is rejected without effect if the group exists, a MODIFY if it does not,
deletions are idempotent, and messages are applied in order.

The group ids come from rofl-ofdpa, which is not part of the repository: `FmDriver` is its
interface, and `FmDriver.Encodes` what is assumed of the encoding.
-/

namespace Basebox

/-- A MAC address (`rofl::caddress_ll`). -/
abbrev Mac := BitVec 48

/-- The group id functions of `rofl::openflow::rofl_ofdpa_fm_driver`. -/
structure FmDriver where
  groupIdL2Interface (port vid : Nat) : Nat
  groupIdL2TrunkInterface (port vid : Nat) : Nat
  groupIdL2Flood (id vid : Nat) : Nat
  groupIdL2Multicast (index vid : Nat) : Nat

/-- The interface group of a port in a VLAN: a trunk interface group for a LAG. -/
def FmDriver.interfaceGroup (fm : FmDriver) (port vid : Nat) : Nat :=
  if Nbi.isLag port then fm.groupIdL2TrunkInterface port vid else fm.groupIdL2Interface port vid

/-- What the controller relies on: an interface group id encodes the low 16 bits of the port and
the low 12 bits of the VLAN, a flood group id likewise its number and VLAN, and groups of
different kinds have different ids. -/
structure FmDriver.Encodes (fm : FmDriver) : Prop where
  l2Interface : ∀ p v q w, fm.groupIdL2Interface p v = fm.groupIdL2Interface q w ↔
    p % 2 ^ 16 = q % 2 ^ 16 ∧ v % 2 ^ 12 = w % 2 ^ 12
  l2TrunkInterface : ∀ p v q w, fm.groupIdL2TrunkInterface p v = fm.groupIdL2TrunkInterface q w ↔
    p % 2 ^ 16 = q % 2 ^ 16 ∧ v % 2 ^ 12 = w % 2 ^ 12
  l2Flood : ∀ i v j w, fm.groupIdL2Flood i v = fm.groupIdL2Flood j w ↔
    i % 2 ^ 16 = j % 2 ^ 16 ∧ v % 2 ^ 12 = w % 2 ^ 12
  interface_ne_trunk : ∀ p v q w, fm.groupIdL2Interface p v ≠ fm.groupIdL2TrunkInterface q w
  interface_ne_flood : ∀ p v i w, fm.groupIdL2Interface p v ≠ fm.groupIdL2Flood i w
  trunk_ne_flood : ∀ p v i w, fm.groupIdL2TrunkInterface p v ≠ fm.groupIdL2Flood i w

/-- A group id with its kind in bits 28 to 31, the VLAN in bits 16 to 27 and a number below. -/
def ofdpaGroupId (kind num vid : Nat) : Nat := kind * 2 ^ 28 + vid % 2 ^ 12 * 2 ^ 16 + num % 2 ^ 16

/-- The encoding of OF-DPA. -/
def ofdpaDriver : FmDriver where
  groupIdL2Interface port vid := ofdpaGroupId 0 port vid
  groupIdL2TrunkInterface port vid := ofdpaGroupId 11 port vid
  groupIdL2Flood id vid := ofdpaGroupId 4 id vid
  groupIdL2Multicast index vid := ofdpaGroupId 3 index vid

theorem ofdpaGroupId_inj {k n v k' n' v' : Nat} :
    ofdpaGroupId k n v = ofdpaGroupId k' n' v' ↔
      k = k' ∧ n % 2 ^ 16 = n' % 2 ^ 16 ∧ v % 2 ^ 12 = v' % 2 ^ 12 := by
  unfold ofdpaGroupId
  omega

theorem ofdpaDriver_encodes : ofdpaDriver.Encodes where
  l2Interface _ _ _ _ := by simp [ofdpaDriver, ofdpaGroupId_inj]
  l2TrunkInterface _ _ _ _ := by simp [ofdpaDriver, ofdpaGroupId_inj]
  l2Flood _ _ _ _ := by simp [ofdpaDriver, ofdpaGroupId_inj]
  interface_ne_trunk _ _ _ _ := by simp [ofdpaDriver, ofdpaGroupId_inj]
  interface_ne_flood _ _ _ _ := by simp [ofdpaDriver, ofdpaGroupId_inj]
  trunk_ne_flood _ _ _ _ := by simp [ofdpaDriver, ofdpaGroupId_inj]

/-- Different ports have different interface groups in a VLAN. -/
def FmDriver.SeparatesPorts (fm : FmDriver) : Prop :=
  ∀ p q vid, Nbi.IsPort p → Nbi.IsPort q → fm.interfaceGroup p vid = fm.interfaceGroup q vid → p = q

/-- The interface groups of ports are equal only for one port and VLAN. -/
theorem FmDriver.Encodes.interfaceGroup_iff {fm : FmDriver} (h : fm.Encodes) {p q v w : Nat}
    (hp : Nbi.IsPort p) (hq : Nbi.IsPort q) :
    fm.interfaceGroup p v = fm.interfaceGroup q w ↔ p = q ∧ v % 2 ^ 12 = w % 2 ^ 12 := by
  have hp := Nbi.isPort_iff.mp hp
  have hq := Nbi.isPort_iff.mp hq
  unfold FmDriver.interfaceGroup
  cases hlp : Nbi.isLag p with
  | false =>
    have hnp : ¬ p / 2 ^ 16 = 2 := by rw [← Nbi.isLag_iff, hlp]; simp
    cases hlq : Nbi.isLag q with
    | false =>
      have hnq : ¬ q / 2 ^ 16 = 2 := by rw [← Nbi.isLag_iff, hlq]; simp
      simp only [Bool.false_eq_true, if_false]
      rw [h.l2Interface]
      omega
    | true =>
      have hyq := Nbi.isLag_iff.mp hlq
      simp only [Bool.false_eq_true, if_false, if_true]
      exact iff_of_false (h.interface_ne_trunk _ _ _ _) (by rintro ⟨he, -⟩; omega)
  | true =>
    have hyp := Nbi.isLag_iff.mp hlp
    cases hlq : Nbi.isLag q with
    | false =>
      have hnq : ¬ q / 2 ^ 16 = 2 := by rw [← Nbi.isLag_iff, hlq]; simp
      simp only [Bool.false_eq_true, if_false, if_true]
      exact iff_of_false (h.interface_ne_trunk _ _ _ _).symm (by rintro ⟨he, -⟩; omega)
    | true =>
      have hyq := Nbi.isLag_iff.mp hlq
      simp only [if_true]
      rw [h.l2TrunkInterface]
      omega

theorem FmDriver.Encodes.separatesPorts {fm : FmDriver} (h : fm.Encodes) : fm.SeparatesPorts :=
  fun _ _ _ hp hq heq => ((h.interfaceGroup_iff hp hq).mp heq).1

theorem FmDriver.SeparatesPorts.interfaceGroup_iff {fm : FmDriver} (h : fm.SeparatesPorts)
    {p q v w : Nat} (hp : Nbi.IsPort p) (hq : Nbi.IsPort q) (hv : w = v) :
    fm.interfaceGroup q w = fm.interfaceGroup p v ↔ q = p := by
  subst hv
  exact ⟨h q p w hq hp, fun he => he ▸ rfl⟩

/-! ## Messages and tables -/

/-- The content of a group. -/
inductive Group where
  | l2Interface (untagged : Bool)
  | l2TrunkInterface (untagged : Bool)
  | buckets (ids : Finset Nat)
  deriving DecidableEq

/-- The groups that a group refers to. -/
def Group.refs : Group → Finset Nat
  | .buckets ids => ids
  | _ => ∅

/-- The match of a flow of the bridging table. -/
inductive FlowMatch where
  | dlfVlan (vid : Nat)
  | multicastVlan (vid : Nat) (mac : Mac)
  | dlfOverlay (tunnelId : Nat)
  deriving DecidableEq

/-- The messages to the switch. A flow sends its packets to a group. -/
inductive Msg where
  | groupAdd (id : Nat) (g : Group)
  | groupModify (id : Nat) (g : Group)
  | groupDelete (id : Nat)
  | flowAdd (m : FlowMatch) (group : Nat)
  | flowDelete (m : FlowMatch)
  | barrier
  deriving DecidableEq

/-- The command of an `enable_group_*` message: MODIFY if `update` is set, else ADD. -/
def Msg.group (update : Bool) (id : Nat) (g : Group) : Msg :=
  if update then .groupModify id g else .groupAdd id g

/-- The groups and flows of the switch. -/
structure Switch where
  groups : Table Nat Group := ∅
  flows : Table FlowMatch Nat := ∅
  deriving DecidableEq

namespace Switch

/-- What the switch does with one message. -/
def apply (sw : Switch) : Msg → Switch
  | .groupAdd id g => { sw with groups := sw.groups.emplace id g }
  | .groupModify id g => if id ∈ sw.groups then { sw with groups := sw.groups.insert id g } else sw
  | .groupDelete id => { sw with groups := sw.groups.erase id }
  | .flowAdd m grp => { sw with flows := sw.flows.insert m grp }
  | .flowDelete m => { sw with flows := sw.flows.erase m }
  | .barrier => sw

/-- The switch after a sequence of messages. -/
def applyAll (sw : Switch) (ms : List Msg) : Switch := ms.foldl apply sw

@[simp] theorem applyAll_nil (sw : Switch) : sw.applyAll [] = sw := rfl

@[simp] theorem applyAll_cons (sw : Switch) (m : Msg) (ms : List Msg) :
    sw.applyAll (m :: ms) = (sw.apply m).applyAll ms := rfl

theorem applyAll_append (sw : Switch) (ms ns : List Msg) :
    sw.applyAll (ms ++ ns) = (sw.applyAll ms).applyAll ns := List.foldl_append

section Lookup

variable (sw : Switch) (id i : Nat) (g : Group) (m k : FlowMatch)

@[grind =] theorem groups_groupAdd : (sw.apply (.groupAdd id g)).groups.lookup i =
    if i = id then some ((sw.groups.lookup id).getD g) else sw.groups.lookup i :=
  Table.lookup_emplace sw.groups id i g

@[grind =] theorem groups_groupModify : (sw.apply (.groupModify id g)).groups.lookup i =
    if i = id then (sw.groups.lookup id).map (fun _ => g) else sw.groups.lookup i := by
  unfold apply
  by_cases h : id ∈ sw.groups
  · obtain ⟨w, hw⟩ := Table.mem_iff_lookup.mp h
    grind
  · have hn := Table.not_mem_iff_lookup.mp h
    grind

@[grind =] theorem groups_groupDelete : (sw.apply (.groupDelete id)).groups.lookup i =
    if i = id then none else sw.groups.lookup i := Table.lookup_erase_ite sw.groups id i

@[grind =] theorem groups_flowAdd : (sw.apply (.flowAdd m id)).groups = sw.groups := rfl

@[grind =] theorem groups_flowDelete : (sw.apply (.flowDelete m)).groups = sw.groups := rfl

@[grind =] theorem flows_groupAdd : (sw.apply (.groupAdd id g)).flows = sw.flows := rfl

@[grind =] theorem flows_groupModify : (sw.apply (.groupModify id g)).flows = sw.flows := by
  simp only [apply]
  split <;> rfl

@[grind =] theorem flows_groupDelete : (sw.apply (.groupDelete id)).flows = sw.flows := rfl

@[grind =] theorem flows_flowAdd : (sw.apply (.flowAdd m id)).flows.lookup k =
    if k = m then some id else sw.flows.lookup k := Table.lookup_insert_ite sw.flows m k id

@[grind =] theorem flows_flowDelete : (sw.apply (.flowDelete m)).flows.lookup k =
    if k = m then none else sw.flows.lookup k := Table.lookup_erase_ite sw.flows m k

@[simp, grind =] theorem apply_barrier : sw.apply .barrier = sw := rfl

end Lookup

end Switch

end Basebox
