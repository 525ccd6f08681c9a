import Basebox.Lib.BitStrings
import Basebox.Lib.EqualRange
import Basebox.Netlink.L3Route
import Mathlib.Data.Prod.Lex

/-!
# The neighbours of a prefix (`src/netlink/nl_l3.cc`, `src/netlink/nl_l3_interfaces.h`)

The neighbours that are routable, and those that are not, are two sets of `nh_stub`, sorted by
`nh_stub::operator<`: by address, next hop id and interface. `get_l3_neighs_of_prefix` searches
such a set by another comparison, that of an address with a prefix.

An `nl_addr` is here the string of bytes that it is in libnl. The two comparisons of libnl are the
argument `LibNl`; `LibNl.Documented` is what is relied on.

* `RawAddr.key k`: the family and the first `k` bits. The order of the addresses of hosts is one of
  their keys, for each `k` (`key_le_of_lt`), and the comparison with a prefix of length `k` is about
  this key (`addrCmpPrefix_iff`).
* `mem_getL3NeighsOfPrefix_iff`: so the set is partitioned for each prefix, and the neighbours that
  are found are those that lie in it.
* `getL3NeighsOfPrefix_eq_equalRange`: the same for the addresses of the handlers of routes.
-/

namespace Basebox

/-- An `nl_addr`. -/
structure RawAddr where
  /-- `a_family`. -/
  family : Int
  /-- `a_addr`, of `a_len` bytes. -/
  addr : List (BitVec 8)
  /-- `a_prefixlen`. -/
  prefixlen : Nat
  deriving DecidableEq

/-- `nh_stub`. -/
structure RawStub where
  nh : RawAddr
  ifindex : Int
  nhid : Nat
  deriving DecidableEq

/-- The comparisons of libnl. -/
structure LibNl where
  addrCmp : RawAddr → RawAddr → Int
  addrCmpPrefix : RawAddr → RawAddr → Int

namespace RawAddr

/-- The family of IPv4. -/
def AF_INET : Int := 2

/-- The family of IPv6. -/
def AF_INET6 : Int := 10

/-- The bits of the address, the most significant one of the first byte first. -/
def bits (a : RawAddr) : List Bool := byteBits a.addr

/-- The address has the bits that its prefix length is about. -/
def HasPrefix (a : RawAddr) : Prop := a.prefixlen ≤ a.bits.length

/-- The address of a neighbour: all bytes of an IPv4 or IPv6 address. -/
def IsHost (a : RawAddr) : Prop :=
  (a.family = AF_INET ∧ a.addr.length = 4 ∧ a.prefixlen = 32) ∨
    (a.family = AF_INET6 ∧ a.addr.length = 16 ∧ a.prefixlen = 128)

/-- A prefix, of any family. One of IPv4 or IPv6 has no more bits than an address. -/
structure IsPrefix (p : RawAddr) : Prop where
  hasPrefix : p.HasPrefix
  inet : p.family = AF_INET → p.prefixlen ≤ 32
  inet6 : p.family = AF_INET6 → p.prefixlen ≤ 128

/-- The address has the family of the prefix, and its first bits. -/
def LiesIn (a p : RawAddr) : Prop :=
  a.family = p.family ∧ a.bits.take p.prefixlen = p.bits.take p.prefixlen

/-- The order of `nl_addr_cmp`: the family, the length, the bytes, the prefix length. -/
def Before (a b : RawAddr) : Prop :=
  a.family < b.family ∨ a.family = b.family ∧
    (a.addr.length < b.addr.length ∨ a.addr.length = b.addr.length ∧
      (a.addr < b.addr ∨ a.addr = b.addr ∧ a.prefixlen < b.prefixlen))

/-- The order of `nl_addr_cmp_prefix`: the family, then the first bits that both have. -/
def PrefixBefore (a b : RawAddr) : Prop :=
  a.family < b.family ∨ a.family = b.family ∧
    a.bits.take (min a.prefixlen b.prefixlen) < b.bits.take (min a.prefixlen b.prefixlen)

instance (a : RawAddr) : Decidable a.HasPrefix := inferInstanceAs (Decidable (_ ≤ _))

instance (a : RawAddr) : Decidable a.IsHost := inferInstanceAs (Decidable (_ ∨ _))

instance (a b : RawAddr) : Decidable (a.Before b) := inferInstanceAs (Decidable (_ ∨ _))

instance (a b : RawAddr) : Decidable (a.PrefixBefore b) := inferInstanceAs (Decidable (_ ∨ _))

end RawAddr

namespace LibNl

variable (nl : LibNl)

/-- The documented behaviour of the two functions. -/
structure Documented : Prop where
  addrCmp_neg : ∀ a b : RawAddr, a.HasPrefix → b.HasPrefix → (nl.addrCmp a b < 0 ↔ a.Before b)
  addrCmp_pos : ∀ a b : RawAddr, a.HasPrefix → b.HasPrefix → (0 < nl.addrCmp a b ↔ b.Before a)
  addrCmpPrefix_neg : ∀ a b : RawAddr, a.HasPrefix → b.HasPrefix →
    (nl.addrCmpPrefix a b < 0 ↔ a.PrefixBefore b)

/-- `nh_stub::operator<`. -/
def stubLt (m n : RawStub) : Bool :=
  let cmp := nl.addrCmp m.nh n.nh
  if cmp < 0 then true
  else if 0 < cmp then false
  else if m.nhid < n.nhid then true
  else if n.nhid < m.nhid then false
  else decide (m.ifindex < n.ifindex)

/-- The elements of a `std::set<nh_stub>`, in their order. -/
def IsSet (list : List RawStub) : Prop := list.Pairwise fun m n => nl.stubLt m n = true

/-- `l3_prefix_comp` of a neighbour and an address. -/
def l3PrefixCompNh (addr : RawAddr) (nh : RawStub) : Bool :=
  decide (nl.addrCmpPrefix nh.nh addr < 0)

/-- `l3_prefix_comp` of an address and a neighbour. -/
def l3PrefixCompAddr (addr : RawAddr) (nh : RawStub) : Bool :=
  decide (nl.addrCmpPrefix addr nh.nh < 0)

/-- `get_l3_neighs_of_prefix`. -/
def getL3NeighsOfPrefix (list : List RawStub) (p : RawAddr) : List RawStub :=
  equalRange (nl.l3PrefixCompNh p) (nl.l3PrefixCompAddr p) list

end LibNl

/-! ## The order of addresses -/

namespace RawAddr

variable {a b p : RawAddr}

/-- The family and the first `k` bits, in lexicographic order. -/
def key (k : Nat) (a : RawAddr) : Lex (Int × List Bool) := toLex (a.family, a.bits.take k)

theorem key_lt_iff {k : Nat} : a.key k < b.key k ↔
    a.family < b.family ∨ a.family = b.family ∧ a.bits.take k < b.bits.take k :=
  Prod.Lex.toLex_lt_toLex

theorem key_eq_iff {k : Nat} :
    a.key k = b.key k ↔ a.family = b.family ∧ a.bits.take k = b.bits.take k := by
  rw [key, key, toLex_inj, Prod.mk.injEq]

theorem length_bits (a : RawAddr) : a.bits.length = 8 * a.addr.length := length_byteBits _

theorem IsHost.hasPrefix (h : a.IsHost) : a.HasPrefix := by
  unfold HasPrefix
  rw [length_bits]
  rcases h with ⟨-, hlen, hp⟩ | ⟨-, hlen, hp⟩ <;> omega

/-- Hosts of one family have addresses of one length. -/
theorem IsHost.length_eq (ha : a.IsHost) (hb : b.IsHost) (h : a.family = b.family) :
    a.addr.length = b.addr.length ∧ a.prefixlen = b.prefixlen := by
  unfold IsHost AF_INET AF_INET6 at ha hb
  omega

/-- A prefix of the family of a host is not longer than the address of the host. -/
theorem IsHost.prefixlen_le (ha : a.IsHost) (hp : p.IsPrefix) (h : a.family = p.family) :
    p.prefixlen ≤ a.prefixlen := by
  rcases ha with ⟨hf, -, hlen⟩ | ⟨hf, -, hlen⟩
  · rw [hlen]
    exact hp.inet (h ▸ hf)
  · rw [hlen]
    exact hp.inet6 (h ▸ hf)

/-- Hosts in the order of their addresses are in the order of their first bits. -/
theorem key_le_of_before (ha : a.IsHost) (hb : b.IsHost) (h : a.Before b) (k : Nat) :
    a.key k ≤ b.key k := by
  rcases h with hf | ⟨hf, h⟩
  · exact (key_lt_iff.mpr (.inl hf)).le
  · obtain ⟨hlen, hplen⟩ := ha.length_eq hb hf
    have hlt : a.addr < b.addr := by
      rcases h with h | ⟨-, h | ⟨-, h⟩⟩
      · omega
      · exact h
      · omega
    have hbits : a.bits < b.bits := byteBits_lt hlt hlen
    have hbitslen : a.bits.length = b.bits.length := by rw [length_bits, length_bits, hlen]
    rcases take_lt_or_eq hbits hbitslen k with h | h
    · exact (key_lt_iff.mpr (.inr ⟨hf, h⟩)).le
    · exact (key_eq_iff.mpr ⟨hf, h⟩).le

theorem Before.asymm (hab : a.Before b) : ¬ b.Before a := by
  intro hba
  unfold Before at hab hba
  have hf : a.family = b.family := by omega
  have hlen : a.addr.length = b.addr.length := by omega
  simp only [hf, hlen, lt_irrefl, false_or, true_and] at hab hba
  rcases hab with hab | ⟨haddr, hab⟩
  · rcases hba with hba | ⟨haddr, -⟩
    · exact List.lt_asymm hab hba
    · rw [haddr] at hab
      exact List.lt_irrefl _ hab
  · rcases hba with hba | ⟨-, hba⟩
    · rw [haddr] at hba
      exact List.lt_irrefl _ hba
    · exact lt_asymm hab hba

/-- Of two addresses one is before the other, or they are the same. -/
theorem eq_of_not_before (hab : ¬ a.Before b) (hba : ¬ b.Before a) : a = b := by
  unfold Before at hab hba
  have hf : a.family = b.family := by omega
  have hlen : a.addr.length = b.addr.length := by omega
  have haddr : a.addr = b.addr := by
    have hlt : ¬ a.addr < b.addr := fun h => hab (.inr ⟨hf, .inr ⟨hlen, .inl h⟩⟩)
    have hgt : ¬ b.addr < a.addr := fun h => hba (.inr ⟨hf.symm, .inr ⟨hlen.symm, .inl h⟩⟩)
    exact List.le_antisymm hgt hlt
  have hplen : a.prefixlen = b.prefixlen := by
    rcases Nat.lt_trichotomy a.prefixlen b.prefixlen with h | h | h
    · exact absurd (.inr ⟨hf, .inr ⟨hlen, .inr ⟨haddr, h⟩⟩⟩) hab
    · exact h
    · exact absurd (.inr ⟨hf.symm, .inr ⟨hlen.symm, .inr ⟨haddr.symm, h⟩⟩⟩) hba
  cases a
  cases b
  simp_all

/-- A host and a prefix compare as their keys of the length of the prefix. -/
theorem prefixBefore_iff (ha : a.IsHost) (hp : p.IsPrefix) :
    (a.PrefixBefore p ↔ a.key p.prefixlen < p.key p.prefixlen) ∧
      (p.PrefixBefore a ↔ p.key p.prefixlen < a.key p.prefixlen) := by
  rw [key_lt_iff, key_lt_iff]
  unfold PrefixBefore
  by_cases hf : a.family = p.family
  · have hle : p.prefixlen ≤ a.prefixlen := ha.prefixlen_le hp hf
    rw [Nat.min_eq_right hle, Nat.min_eq_left hle]
    exact ⟨Iff.rfl, Iff.rfl⟩
  · have hf' : ¬ p.family = a.family := fun h => hf h.symm
    simp only [hf, hf', false_and, or_false, and_self]

end RawAddr

/-! ## The search -/

namespace LibNl

variable {nl : LibNl} {list : List RawStub} {p : RawAddr}

/-- Neighbours in the order of the set are in the order of the first bits of their addresses. -/
theorem key_le_of_stubLt (h : nl.Documented) {m n : RawStub} (hm : m.nh.IsHost) (hn : n.nh.IsHost)
    (hlt : nl.stubLt m n = true) (k : Nat) : m.nh.key k ≤ n.nh.key k := by
  by_cases hneg : nl.addrCmp m.nh n.nh < 0
  · have hbefore := (h.addrCmp_neg _ _ hm.hasPrefix hn.hasPrefix).mp hneg
    exact RawAddr.key_le_of_before hm hn hbefore k
  · by_cases hpos : 0 < nl.addrCmp m.nh n.nh
    · simp [stubLt, hneg, hpos] at hlt
    · -- the addresses are the same; the next hop id or the interface decides
      rw [h.addrCmp_neg _ _ hm.hasPrefix hn.hasPrefix] at hneg
      rw [h.addrCmp_pos _ _ hm.hasPrefix hn.hasPrefix] at hpos
      rw [RawAddr.eq_of_not_before hneg hpos]

theorem stubLt_irrefl (h : nl.Documented) {n : RawStub} (hn : n.nh.IsHost) :
    nl.stubLt n n = false := by
  have hneg : ¬ nl.addrCmp n.nh n.nh < 0 := by
    rw [h.addrCmp_neg _ _ hn.hasPrefix hn.hasPrefix]
    exact fun h => h.asymm h
  simp [stubLt, hneg]

theorem IsSet.nodup (h : nl.Documented) (hset : nl.IsSet list) (hhost : ∀ n ∈ list, n.nh.IsHost) :
    list.Nodup :=
  List.Pairwise.imp_of_mem (fun {m n} hm _ hlt heq => by
    subst heq
    rw [stubLt_irrefl h (hhost m hm)] at hlt
    cases hlt) hset

theorem IsSet.sorted (h : nl.Documented) (hset : nl.IsSet list)
    (hhost : ∀ n ∈ list, n.nh.IsHost) (k : Nat) :
    list.Pairwise fun m n => m.nh.key k ≤ n.nh.key k :=
  List.Pairwise.imp_of_mem
    (fun hm hn hlt => key_le_of_stubLt h (hhost _ hm) (hhost _ hn) hlt k) hset

theorem l3PrefixComp_iff (h : nl.Documented) {n : RawStub} (hn : n.nh.IsHost) (hp : p.IsPrefix) :
    (nl.l3PrefixCompNh p n = true ↔ n.nh.key p.prefixlen < p.key p.prefixlen) ∧
      (nl.l3PrefixCompAddr p n = true ↔ p.key p.prefixlen < n.nh.key p.prefixlen) := by
  obtain ⟨hlo, hhi⟩ := RawAddr.prefixBefore_iff hn hp
  rw [← hlo, ← hhi, l3PrefixCompNh, l3PrefixCompAddr, decide_eq_true_iff, decide_eq_true_iff]
  exact ⟨h.addrCmpPrefix_neg _ _ hn.hasPrefix hp.hasPrefix,
    h.addrCmpPrefix_neg _ _ hp.hasPrefix hn.hasPrefix⟩

/-- For each set of neighbours and each prefix: the set is partitioned with respect to the
comparison with the prefix, and the neighbours that are found, each once, are those that lie in the
prefix. -/
theorem mem_getL3NeighsOfPrefix_iff (h : nl.Documented) (hset : nl.IsSet list)
    (hhost : ∀ n ∈ list, n.nh.IsHost) (hp : p.IsPrefix) :
    Partitioned (nl.l3PrefixCompNh p) (nl.l3PrefixCompAddr p) list ∧
      (nl.getL3NeighsOfPrefix list p).Nodup ∧
      ∀ n, n ∈ nl.getL3NeighsOfPrefix list p ↔ n ∈ list ∧ n.nh.LiesIn p := by
  have hsorted := hset.sorted h hhost p.prefixlen
  have hlo : ∀ n ∈ list,
      nl.l3PrefixCompNh p n = true ↔ n.nh.key p.prefixlen < p.key p.prefixlen :=
    fun n hn => (l3PrefixComp_iff h (hhost n hn) hp).1
  have hhi : ∀ n ∈ list,
      nl.l3PrefixCompAddr p n = true ↔ p.key p.prefixlen < n.nh.key p.prefixlen :=
    fun n hn => (l3PrefixComp_iff h (hhost n hn) hp).2
  have hpart := Partitioned.of_sorted hsorted hlo hhi
  refine ⟨hpart, ?_, fun n => ?_⟩
  · rw [getL3NeighsOfPrefix, equalRange_eq_filter hpart]
    exact (hset.nodup h hhost).filter _
  · rw [getL3NeighsOfPrefix, mem_equalRange_of_sorted hsorted hlo hhi]
    exact and_congr_right fun _ => RawAddr.key_eq_iff

/-! ### A set with both families -/

/-- The comparisons as the signs of the two orders. -/
def ofOrders : LibNl where
  addrCmp a b := if a.Before b then -1 else if b.Before a then 1 else 0
  addrCmpPrefix a b := if a.PrefixBefore b then -1 else if b.PrefixBefore a then 1 else 0

theorem ofOrders_documented : ofOrders.Documented where
  addrCmp_neg a b _ _ := by
    unfold ofOrders
    dsimp only
    split_ifs <;> simp [*]
  addrCmp_pos a b _ _ := by
    unfold ofOrders
    dsimp only
    split_ifs with hab hba
    · simp [hab.asymm]
    · simp [hba]
    · simp [hba]
  addrCmpPrefix_neg a b _ _ := by
    unfold ofOrders
    dsimp only
    split_ifs <;> simp [*]

/-- 10.0.0.1 on two interfaces, 10.0.2.1 and fe80::1. -/
def someNeighs : List RawStub :=
  [{ nh := { family := 2, addr := [10, 0, 0, 1], prefixlen := 32 }, ifindex := 3, nhid := 0 },
   { nh := { family := 2, addr := [10, 0, 0, 1], prefixlen := 32 }, ifindex := 4, nhid := 0 },
   { nh := { family := 2, addr := [10, 0, 2, 1], prefixlen := 32 }, ifindex := 3, nhid := 0 },
   { nh := { family := 10, addr := [0xfe, 0x80, 0, 0, 0, 0, 0, 0, 0, 0, 0, 0, 0, 0, 0, 1],
             prefixlen := 128 }, ifindex := 3, nhid := 0 }]

/-- 10.0.0.0/23. -/
def somePrefix : RawAddr := { family := 2, addr := [10, 0, 0, 0], prefixlen := 23 }

theorem mem_getL3NeighsOfPrefix_someNeighs :
    Partitioned (ofOrders.l3PrefixCompNh somePrefix) (ofOrders.l3PrefixCompAddr somePrefix)
      someNeighs ∧
      (ofOrders.getL3NeighsOfPrefix someNeighs somePrefix).Nodup ∧
      ∀ n, n ∈ ofOrders.getL3NeighsOfPrefix someNeighs somePrefix ↔
        n ∈ someNeighs ∧ n.nh.LiesIn somePrefix :=
  mem_getL3NeighsOfPrefix_iff ofOrders_documented (by unfold IsSet; decide) (by decide)
    ⟨by decide, by decide, by decide⟩

example : ofOrders.getL3NeighsOfPrefix someNeighs somePrefix = someNeighs.take 2 := by decide

end LibNl

/-! ## The sets of the handlers -/

namespace L3

/-- The family and the first bits, as numbers. -/
def prefixKey (len : Nat) : Addr → Lex (Nat × Nat)
  | .inet a => toLex (2, a.toNat >>> (32 - len))
  | .inet6 a => toLex (10, a.toNat >>> (128 - len))

theorem cmpPrefix_lt_iff (a : Addr) (p : Prefix) :
    a.cmpPrefix p = .lt ↔ prefixKey p.len a < prefixKey p.len p.addr := by
  unfold Addr.cmpPrefix
  cases a <;> cases p.addr <;> simp [prefixKey, Prod.Lex.toLex_lt_toLex, compare_lt_iff_lt]

theorem cmpPrefix_gt_iff (a : Addr) (p : Prefix) :
    a.cmpPrefix p = .gt ↔ prefixKey p.len p.addr < prefixKey p.len a := by
  unfold Addr.cmpPrefix
  cases a <;> cases p.addr <;> simp [prefixKey, Prod.Lex.toLex_lt_toLex, compare_gt_iff_gt]

theorem addrKey_of_le {m n : NhStub} (h : NhStub.le m n = true) :
    m.addrKey.1 < n.addrKey.1 ∨ m.addrKey.1 = n.addrKey.1 ∧ m.addrKey.2 ≤ n.addrKey.2 := by
  unfold NhStub.le at h
  split at h
  · exact .inl (compare_lt_iff_lt.mp (by assumption))
  · cases h
  · refine .inr ⟨compare_eq_iff_eq.mp (by assumption), ?_⟩
    split at h
    · exact (compare_lt_iff_lt.mp (by assumption)).le
    · cases h
    · exact (compare_eq_iff_eq.mp (by assumption)).le

theorem shiftRight_mono {m n : Nat} (h : m ≤ n) (k : Nat) : m >>> k ≤ n >>> k := by
  rw [Nat.shiftRight_eq_div_pow, Nat.shiftRight_eq_div_pow]
  exact Nat.div_le_div_right h

theorem prefixKey_le_of_le {m n : NhStub} (h : NhStub.le m n = true) (len : Nat) :
    prefixKey len m.nh ≤ prefixKey len n.nh := by
  have hkey := addrKey_of_le h
  unfold NhStub.addrKey at hkey
  rw [Prod.Lex.le_iff]
  cases hm : m.nh <;> cases hn : n.nh <;> simp only [hm, hn] at hkey
  · exact .inr ⟨rfl, shiftRight_mono (by omega) _⟩
  · exact .inl (show 2 < 10 by omega)
  · omega
  · exact .inr ⟨rfl, shiftRight_mono (by omega) _⟩

/-- On the sets of the handlers of routes, the range is found by the search from the front. -/
theorem getL3NeighsOfPrefix_eq_equalRange {l : NhStub.Set}
    (hl : l.Pairwise fun m n => NhStub.le m n = true) (p : Prefix) :
    getL3NeighsOfPrefix l p =
      equalRange (fun n => n.nh.cmpPrefix p == .lt) (fun n => n.nh.cmpPrefix p == .gt) l := by
  have hsorted : l.Pairwise fun m n => prefixKey p.len m.nh ≤ prefixKey p.len n.nh :=
    hl.imp fun h => prefixKey_le_of_le h p.len
  have hpart : Partitioned (fun n => n.nh.cmpPrefix p == .lt) (fun n => n.nh.cmpPrefix p == .gt) l :=
    .of_sorted hsorted (fun n _ => by rw [beq_iff_eq, cmpPrefix_lt_iff])
      fun n _ => by rw [beq_iff_eq, cmpPrefix_gt_iff]
  exact (equalRange_eq_takeWhile_dropWhile hpart).symm

end L3

end Basebox
