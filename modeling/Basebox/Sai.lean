import Mathlib.Algebra.Ring.Nat
import Mathlib.Data.Nat.Bits

/-!
# The northbound interface: port ids and error codes (`src/sai.h`)

A port id is a `uint32_t`: the port number in the low 16 bits, the port type above it
(`nbi::combine_port_type`). Ids are naturals here; where the source narrows one to `uint16_t`
the truncation is written out (`u16`).
-/

namespace Basebox

/-- Conversion to `uint16_t`. -/
def u16 (n : Nat) : Nat := n % 2 ^ 16

/-- Conversion to `uint32_t`. -/
def u32 (n : Nat) : Nat := n % 2 ^ 32

/-- Decrement of an `unsigned`. -/
def pred32 (n : Nat) : Nat := u32 (n + (2 ^ 32 - 1))

/-! ## `errno` values: functions return `0` or a negative one -/

/-- File exists. -/
def EEXIST : Int := 17
/-- No such device. -/
def ENODEV : Int := 19
/-- Invalid argument. -/
def EINVAL : Int := 22
/-- No space left. -/
def ENOSPC : Int := 28
/-- No data available. -/
def ENODATA : Int := 61
/-- Destination address required. -/
def EDESTADDRREQ : Int := 89
/-- Operation not supported. -/
def ENOTSUP : Int := 95
/-- Network is unreachable. -/
def ENETUNREACH : Int := 101

namespace Nbi

/-- `nbi::port_type`. -/
inductive PortType where
  | physical
  | vxlan
  | lag
  deriving DecidableEq, Repr

/-- The value of the enumerator. -/
def PortType.code : PortType → Nat
  | .physical => 0
  | .vxlan => 1
  | .lag => 2

/-- `nbi::combine_port_type`. -/
def combinePortType (portNum : Nat) (type : PortType) : Nat := u16 portNum ||| type.code <<< 16

/-- The type bits of a port id; a cast, so any value of the upper half is possible. -/
def getPortType (portId : Nat) : Nat := portId >>> 16

/-- `nbi::get_port_num`. -/
def getPortNum (portId : Nat) : Nat := u16 (portId &&& 0xffffffff)

/-- The test `get_port_type(port) == port_type_lag`. -/
def isLag (portId : Nat) : Bool := getPortType portId == PortType.lag.code

theorem combinePortType_eq (n : Nat) (t : PortType) :
    combinePortType n t = t.code * 2 ^ 16 + n % 2 ^ 16 := by
  have hn : n % 2 ^ 16 < 2 ^ 16 := Nat.mod_lt _ (by decide)
  unfold combinePortType u16
  rw [Nat.or_comm, ← Nat.shiftLeft_add_eq_or_of_lt hn, Nat.shiftLeft_eq]

theorem getPortType_eq (p : Nat) : getPortType p = p / 2 ^ 16 := Nat.shiftRight_eq_div_pow p 16

theorem getPortNum_eq (p : Nat) : getPortNum p = p % 2 ^ 16 := by
  unfold getPortNum u16
  rw [show (0xffffffff : Nat) = 2 ^ 32 - 1 by decide, Nat.and_two_pow_sub_one_eq_mod,
    Nat.mod_mod_of_dvd p (by decide)]

@[simp] theorem getPortType_combine (n : Nat) (t : PortType) :
    getPortType (combinePortType n t) = t.code := by
  rw [getPortType_eq, combinePortType_eq]; omega

@[simp] theorem getPortNum_combine (n : Nat) (t : PortType) :
    getPortNum (combinePortType n t) = n % 2 ^ 16 := by
  rw [getPortNum_eq, combinePortType_eq]; omega

theorem isLag_iff {p : Nat} : isLag p = true ↔ p / 2 ^ 16 = 2 := by
  rw [isLag, beq_iff_eq, getPortType_eq, PortType.code]

@[simp] theorem isLag_combine_lag (n : Nat) : isLag (combinePortType n .lag) = true := by
  simp [isLag]

/-- The ids of the ports that carry traffic of the bridge: physical ports and LAGs, as
`combine_port_type` makes them. -/
def IsPort (p : Nat) : Prop := ∃ n, p = combinePortType n .physical ∨ p = combinePortType n .lag

theorem isPort_iff {p : Nat} : IsPort p ↔ p < 2 ^ 16 ∨ p / 2 ^ 16 = 2 := by
  constructor
  · rintro ⟨n, rfl | rfl⟩ <;> rw [combinePortType_eq] <;> simp only [PortType.code] <;> omega
  · rintro (h | h)
    · exact ⟨p, .inl (by rw [combinePortType_eq]; simp only [PortType.code]; omega)⟩
    · exact ⟨p, .inr (by rw [combinePortType_eq]; simp only [PortType.code]; omega)⟩

end Nbi

end Basebox
