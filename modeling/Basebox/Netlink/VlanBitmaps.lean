import Basebox.Lib.Loop
import Basebox.Netlink.BridgeVlans

/-!
# The bitmaps of the VLANs of a bridge port (`src/netlink/nl_bridge.cc`)

The kernel gives the VLANs of a bridge port as 128 words of 32 bits. `update_vlans` goes over the
words, and in each with two loops over the bits that have changed: `find_next_bit` returns one plus
the position of a bit, and starts from what it returned the last time.

* `findNextBit_start`, `findNextBit_again`: what it returns is the next bit, if there is one.
* `bitLoop_eq`: each loop visits the bits of its word in their order, and ends after at most 33
  calls.
* `vlanLoops_visit`: which VLANs the loops visit.
* `visited_eq_changes`: they are those of `NlBridge.changes`.
-/

namespace Basebox

/-- `uint32_t[RTNL_LINK_BRIDGE_VLAN_BITMAP_LEN]`. -/
abbrev VlanBitmap := Vector (BitVec 32) 128

/-- The bitmaps of an `rtnl_link_bridge_vlan`. -/
structure RtnlBridgeVlan where
  vlanBitmap : VlanBitmap
  untaggedBitmap : VlanBitmap

/-- `__builtin_ffs`: one plus the position of the lowest bit, or zero. -/
def ffs (x : BitVec 32) : Nat := if x = 0 then 0 else x.ctz.toNat + 1

/-- `find_next_bit`. -/
def findNextBit (i : Int) (x : BitVec 32) : Int :=
  if 32 ≤ i then -1
  -- find first bit
  else if i < 0 then ffs x
  else
    -- mask off prior finds to get next
    let j := ffs (x >>> i.toNat)
    if j ≠ 0 then j + i else 0

namespace VlanBitmap

/-- `is_vid_set`, which ends the process for a VLAN out of range. -/
def isVidSet (vid : Nat) (addr : VlanBitmap) : Option Bool :=
  if h : vid < 4096 then some (addr[vid / 32] &&& (1#32 <<< (vid % 32)) != 0) else none

/-- A loop of `update_vlans` over the bits of `x`, for at most `n` tests of `j > 0`. -/
def bitLoop {σ : Type} (body : σ → Nat → σ) (x : BitVec 32) (n : Nat) (s : σ) : Option σ :=
  (whileLoop (fun t : Int × σ => decide (0 < t.1))
    (fun t => (findNextBit t.1 x, body t.2 (t.1 - 1).toNat)) n (findNextBit (-1) x, s)).map Prod.snd

variable (old new : RtnlBridgeVlan)

/-- The VLANs of a word that differ. -/
def vlanDiff (i : Fin 128) : BitVec 32 := old.vlanBitmap[i] ^^^ new.vlanBitmap[i]

/-- VLANs handled by `vlan_diff` will already have the proper state. -/
def untaggedDiff (i : Fin 128) : BitVec 32 :=
  (old.untaggedBitmap[i] ^^^ new.untaggedBitmap[i]) &&& ~~~vlanDiff old new i

/-- The two loops for a word. `vlan` and `untagged` are what is done for a VLAN. -/
def wordLoops {σ : Type} (vlan untagged : σ → Nat → σ) (n : Nat) (s : σ) (i : Fin 128) : Option σ := do
  let baseBit := i.1 * 32
  let s ← bitLoop (fun s j => vlan s (j + baseBit)) (vlanDiff old new i) n s
  bitLoop (fun s j => untagged s (j + baseBit)) (untaggedDiff old new i) n s

/-- The loops of `update_vlans`. -/
def vlanLoops {σ : Type} (vlan untagged : σ → Nat → σ) (n : Nat) (s : σ) : Option σ :=
  (List.finRange 128).foldlM (wordLoops old new vlan untagged n) s

/-! ## The next bit -/

/-- A result of `find_next_bit`, as the position of a bit. -/
abbrev posOf (j : Int) : Option Nat := cursorPos (fun j => decide (0 < j)) (fun j => (j - 1).toNat) j

/-- The lowest bit of what is left after a shift. -/
theorem isNext_ffs (x : BitVec 32) (i : Nat) :
    IsNext x.getLsbD 32 i
      (if ffs (x >>> i) = 0 then none else some (i + (ffs (x >>> i) - 1))) := by
  have hshift : ∀ m, i ≤ m → x.getLsbD m = (x >>> i).getLsbD (m - i) := by
    intro m hm
    rw [BitVec.getLsbD_ushiftRight, Nat.add_sub_cancel' hm]
  unfold ffs
  by_cases hx : x >>> i = 0
  · simp only [hx, if_true]
    intro m hm _
    rw [hshift m hm, hx]
    exact BitVec.getLsbD_zero
  · simp only [hx, if_false, Nat.add_one_ne_zero, Nat.add_sub_cancel]
    have hbit : x.getLsbD (i + (x >>> i).ctz.toNat) = true := by
      rw [hshift _ (Nat.le_add_right _ _), Nat.add_sub_cancel_left]
      exact BitVec.getLsbD_true_ctz_of_ne_zero hx
    refine ⟨⟨Nat.le_add_right _ _, BitVec.lt_of_getLsbD hbit⟩, hbit, fun m hm hlt => ?_⟩
    rw [hshift m hm]
    exact BitVec.getLsbD_false_of_lt_ctz (by omega)

theorem posOf_natCast (n : Nat) : posOf n = if n = 0 then none else some (n - 1) := by
  unfold posOf cursorPos
  cases n with
  | zero => rfl
  | succ n => simp

/-- The first call. -/
theorem findNextBit_start (x : BitVec 32) :
    IsNext x.getLsbD 32 0 (posOf (findNextBit (-1) x)) := by
  have h := isNext_ffs x 0
  rw [BitVec.ushiftRight_zero] at h
  have hcall : findNextBit (-1) x = (ffs x : Nat) := rfl
  rw [hcall, posOf_natCast]
  simpa using h

/-- A further call, after one that has returned `k + 1`. -/
theorem findNextBit_again (x : BitVec 32) {k : Nat} (hk : k < 32) :
    IsNext x.getLsbD 32 (k + 1) (posOf (findNextBit (k + 1) x)) := by
  unfold findNextBit
  by_cases hlast : k + 1 = 32
  · -- The end of the word is signalled by -1.
    rw [if_pos (by omega)]
    intro m hm hlt
    omega
  · have h := isNext_ffs x (k + 1)
    rw [if_neg (by omega), if_neg (by omega), show ((k : Int) + 1).toNat = k + 1 by omega]
    by_cases hnone : ffs (x >>> (k + 1)) = 0
    · simpa [hnone, posOf, cursorPos] using h
    · have hsum : (ffs (x >>> (k + 1)) : Int) + (k + 1) =
          ((ffs (x >>> (k + 1)) + (k + 1) : Nat) : Int) := by omega
      rw [if_neg hnone] at h
      dsimp only
      rw [if_pos hnone, hsum, posOf_natCast, if_neg (by omega)]
      rwa [show ffs (x >>> (k + 1)) + (k + 1) - 1 = k + 1 + (ffs (x >>> (k + 1)) - 1) by omega]

/-! ## The loops -/

/-- The bits of a word, in their order. -/
def bits (x : BitVec 32) : List Nat := (List.range 32).filter x.getLsbD

/-- Each loop ends after at most 33 tests, and visits the bits. -/
theorem bitLoop_eq {σ : Type} (body : σ → Nat → σ) (x : BitVec 32) {n : Nat} (hn : 33 ≤ n) (s : σ) :
    bitLoop body x n s = some ((bits x).foldl body s) := by
  have hnext : ∀ j : Int, decide (0 < j) = true → (j - 1).toNat < 32 →
      IsNext x.getLsbD 32 ((j - 1).toNat + 1) (posOf (findNextBit j x)) := by
    intro j hmore hlt
    have hj : j = ((j - 1).toNat : Int) + 1 := by
      have := of_decide_eq_true hmore
      omega
    have hagain := findNextBit_again x hlt
    rwa [← hj] at hagain
  have hvisits := whileLoop_visits 32 (fun j => findNextBit j x) body hnext (findNextBit_start x)
    (show 32 - 0 < n by omega) s
  rwa [← List.range_eq_range'] at hvisits

/-- The VLANs of the bits of 128 words. -/
def vidsOf (diff : Fin 128 → BitVec 32) : List Nat :=
  (List.finRange 128).flatMap fun i => (bits (diff i)).map (· + i.1 * 32)

theorem mem_bits {x : BitVec 32} {j : Nat} : j ∈ bits x ↔ x.getLsbD j = true := by
  simp only [bits, List.mem_filter, List.mem_range, and_iff_right_iff_imp]
  exact BitVec.lt_of_getLsbD

theorem lt_of_mem_bits {x : BitVec 32} {j : Nat} (h : j ∈ bits x) : j < 32 :=
  List.mem_range.mp (List.mem_filter.mp h).1

/-- They are in ascending order, within a word and from word to word. -/
theorem pairwise_vidsOf (diff : Fin 128 → BitVec 32) : (vidsOf diff).Pairwise (· < ·) := by
  refine List.pairwise_flatMap.mpr ⟨fun i _ => ?_, ?_⟩
  · rw [List.pairwise_map]
    refine (List.pairwise_lt_range.filter _).imp fun {j k} hlt => ?_
    omega
  · refine (List.pairwise_lt_finRange 128).imp fun {i k} hik v hv w hw => ?_
    obtain ⟨j, hj, rfl⟩ := List.mem_map.mp hv
    obtain ⟨m, hm, rfl⟩ := List.mem_map.mp hw
    have hword : i.1 < k.1 := hik
    have hbit := lt_of_mem_bits hj
    omega

theorem mem_vidsOf {diff : Fin 128 → BitVec 32} {v : Nat} :
    v ∈ vidsOf diff ↔ ∃ h : v < 4096, (diff ⟨v / 32, by omega⟩).getLsbD (v % 32) = true := by
  simp only [vidsOf, List.mem_flatMap, List.mem_finRange, true_and, List.mem_map, mem_bits]
  constructor
  · rintro ⟨i, j, hj, rfl⟩
    have hbit : j < 32 := BitVec.lt_of_getLsbD hj
    have hword : (j + i.1 * 32) / 32 = i.1 := by omega
    have hmod : (j + i.1 * 32) % 32 = j := by omega
    refine ⟨by omega, ?_⟩
    simp only [hword, hmod]
    exact hj
  · rintro ⟨hv, hbit⟩
    exact ⟨⟨v / 32, by omega⟩, v % 32, hbit, by simp only; omega⟩

/-- `is_vid_set` is a bit test. -/
theorem isVidSet_eq (addr : VlanBitmap) {v : Nat} (h : v < 4096) :
    isVidSet v addr = some (addr[v / 32].getLsbD (v % 32)) := by
  rw [isVidSet, dif_pos h, ← BitVec.twoPow_eq, BitVec.and_twoPow]
  cases hbit : addr[v / 32].getLsbD (v % 32) with
  | false => simp
  | true =>
    have hne : BitVec.twoPow 32 (v % 32) ≠ 0 := by
      intro hzero
      have hlt : v % 32 < 32 := by omega
      have hone := congrArg (·.getLsbD (v % 32)) hzero
      simp [hlt] at hone
    simpa using hne

theorem isVidSet_of_le (addr : VlanBitmap) {v : Nat} (h : ¬ v < 4096) : isVidSet v addr = none :=
  dif_neg h

/-! ## What is visited -/

open NlBridge (Change)

/-- What is done at a visit. -/
def visit {σ : Type} (vlan untagged : σ → Nat → σ) (s : σ) : Change → σ
  | .vlan vid => vlan s vid
  | .untagged vid => untagged s vid

/-- The visits of the first loop. -/
def vlanVids (l : List Change) : List Nat :=
  l.filterMap fun
    | .vlan vid => some vid
    | .untagged _ => none

/-- The visits of the second one. -/
def untaggedVids (l : List Change) : List Nat :=
  l.filterMap fun
    | .vlan _ => none
    | .untagged vid => some vid

/-- The VLANs in which the bitmaps differ are visited by the first loop, and those in which only the
untagged bitmaps do by the second one, each VLAN once and in ascending order. -/
structure Visits (l : List Change) : Prop where
  vlan : ∀ v, v ∈ vlanVids l ↔
    isVidSet v old.vlanBitmap ≠ isVidSet v new.vlanBitmap
  vlanAscending : (vlanVids l).Pairwise (· < ·)
  untagged : ∀ v, v ∈ untaggedVids l ↔
    isVidSet v old.untaggedBitmap ≠ isVidSet v new.untaggedBitmap ∧
      isVidSet v old.vlanBitmap = isVidSet v new.vlanBitmap
  untaggedAscending : (untaggedVids l).Pairwise (· < ·)

/-- The visits for a word. -/
def visitedInWord (i : Fin 128) : List Change :=
  ((bits (vlanDiff old new i)).map fun j => .vlan (j + i.1 * 32)) ++
    (bits (untaggedDiff old new i)).map fun j => .untagged (j + i.1 * 32)

/-- The changes that the two loops visit, in order. -/
def visited : List Change := (List.finRange 128).flatMap (visitedInWord old new)

theorem vlanVids_visited : vlanVids (visited old new) = vidsOf (vlanDiff old new) := by
  simp only [vlanVids, visited, visitedInWord, vidsOf, List.filterMap_flatMap, List.filterMap_append,
    List.filterMap_map]
  congr 1
  funext i
  simp

theorem untaggedVids_visited :
    untaggedVids (visited old new) = vidsOf (untaggedDiff old new) := by
  simp only [untaggedVids, visited, visitedInWord, vidsOf, List.filterMap_flatMap, List.filterMap_append,
    List.filterMap_map]
  congr 1
  funext i
  simp

/-- A VLAN in which two bitmaps differ. -/
theorem isVidSet_ne_iff (a b : VlanBitmap) (v : Nat) :
    isVidSet v a ≠ isVidSet v b ↔
      ∃ h : v < 4096, (a[v / 32] ^^^ b[v / 32]).getLsbD (v % 32) = true := by
  by_cases hv : v < 4096
  · rw [isVidSet_eq a hv, isVidSet_eq b hv]
    simp only [BitVec.getLsbD_xor]
    simp [hv, bne_iff_ne]
  · simp [isVidSet_of_le _ hv, hv]

theorem visits_visited : Visits old new (visited old new) where
  vlan v := by
    rw [vlanVids_visited, mem_vidsOf, isVidSet_ne_iff]
    rfl
  vlanAscending := by
    rw [vlanVids_visited]
    exact pairwise_vidsOf _
  untagged v := by
    rw [untaggedVids_visited, mem_vidsOf, ← not_ne_iff (a := isVidSet v old.vlanBitmap),
      isVidSet_ne_iff, isVidSet_ne_iff]
    constructor
    · rintro ⟨hv, hbit⟩
      have hlt : v % 32 < 32 := by omega
      simp only [untaggedDiff, BitVec.getLsbD_and, BitVec.getLsbD_not, hlt, decide_true,
        Bool.true_and, Bool.and_eq_true, Bool.not_eq_true'] at hbit
      exact ⟨⟨hv, hbit.1⟩, fun ⟨_, h⟩ => absurd (hbit.2.symm.trans h) (by decide)⟩
    · rintro ⟨⟨hv, hbit⟩, hvlan⟩
      have hlt : v % 32 < 32 := by omega
      refine ⟨hv, ?_⟩
      simp only [untaggedDiff, BitVec.getLsbD_and, BitVec.getLsbD_not, hlt, decide_true,
        Bool.true_and, Bool.and_eq_true, Bool.not_eq_true']
      exact ⟨hbit, Bool.eq_false_iff.mpr fun h => hvlan ⟨hv, h⟩⟩
  untaggedAscending := by
    rw [untaggedVids_visited]
    exact pairwise_vidsOf _

theorem wordLoops_eq {σ : Type} (vlan untagged : σ → Nat → σ) {n : Nat} (hn : 33 ≤ n) (s : σ)
    (i : Fin 128) :
    wordLoops old new vlan untagged n s i =
      some ((visitedInWord old new i).foldl (visit vlan untagged) s) := by
  simp only [wordLoops, bitLoop_eq _ _ hn, Option.bind_eq_bind, Option.bind_some, visitedInWord,
    List.foldl_append, List.foldl_map]
  rfl

theorem vlanLoops_eq {σ : Type} (vlan untagged : σ → Nat → σ) {n : Nat} (hn : 33 ≤ n) (s : σ) :
    vlanLoops old new vlan untagged n s =
      some ((visited old new).foldl (visit vlan untagged) s) := by
  unfold vlanLoops visited
  rw [List.foldl_flatMap]
  generalize List.finRange 128 = words
  induction words generalizing s with
  | nil => rfl
  | cons i words ih =>
    rw [List.foldlM_cons, List.foldl_cons, wordLoops_eq old new vlan untagged hn s i]
    exact ih _

/-- **The loops of `update_vlans`.** They end, and visit the VLANs in which the bitmaps differ. -/
theorem vlanLoops_visit : ∃ l, Visits old new l ∧
    ∀ {σ : Type} (vlan untagged : σ → Nat → σ) (n : Nat) (s : σ), 33 ≤ n →
      vlanLoops old new vlan untagged n s = some (l.foldl (visit vlan untagged) s) :=
  ⟨visited old new, visits_visited old new, fun vlan untagged _ s hn =>
    vlanLoops_eq old new vlan untagged hn s⟩

/-! ## As sets of VLANs -/

/-- The bitmaps of the kernel are those sets. -/
structure Represents (b : BrVlan) (w : RtnlBridgeVlan) : Prop where
  vlan : ∀ v, isVidSet v w.vlanBitmap = some true ↔ v ∈ b.vlanBitmap
  untagged : ∀ v, isVidSet v w.untaggedBitmap = some true ↔ v ∈ b.untaggedBitmap

section Represents

variable {b b' : BrVlan} {w w' : RtnlBridgeVlan}

theorem getLsbD_eq_decide {addr : VlanBitmap} {vids : Finset Nat}
    (h : ∀ v, isVidSet v addr = some true ↔ v ∈ vids) (i : Fin 128) {j : Nat} (hj : j < 32) :
    addr[i].getLsbD j = decide (32 * i.1 + j ∈ vids) := by
  have hv : 32 * i.1 + j < 4096 := by omega
  have hset := h (32 * i.1 + j)
  have hword : (32 * i.1 + j) / 32 = i.1 := by omega
  have hbit : (32 * i.1 + j) % 32 = j := by omega
  rw [isVidSet_eq addr hv, Option.some.injEq] at hset
  simp only [hword, hbit] at hset
  exact Bool.eq_iff_iff.mpr (hset.trans decide_eq_true_iff.symm)

/-- The VLANs that are visited are those of the model of `update_vlans`, in the same order. -/
theorem visited_eq_changes (h : Represents b w) (h' : Represents b' w') :
    visited w w' = NlBridge.changes b b' := by
  have hrange : List.range 128 = (List.finRange 128).map (·.1) :=
    List.map_coe_finRange_eq_range.symm
  unfold visited NlBridge.changes
  rw [hrange, List.flatMap_map]
  congr 1
  funext i
  have hvlan : ∀ j < 32, (vlanDiff w w' i).getLsbD j =
      (decide (32 * i.1 + j ∈ b.vlanBitmap) != decide (32 * i.1 + j ∈ b'.vlanBitmap)) := by
    intro j hj
    rw [vlanDiff, BitVec.getLsbD_xor, getLsbD_eq_decide h.vlan i hj,
      getLsbD_eq_decide h'.vlan i hj]
  have huntagged : ∀ j < 32, (untaggedDiff w w' i).getLsbD j =
      ((decide (32 * i.1 + j ∈ b.untaggedBitmap) != decide (32 * i.1 + j ∈ b'.untaggedBitmap)) &&
        !(decide (32 * i.1 + j ∈ b.vlanBitmap) != decide (32 * i.1 + j ∈ b'.vlanBitmap))) := by
    intro j hj
    rw [untaggedDiff, BitVec.getLsbD_and, BitVec.getLsbD_not, BitVec.getLsbD_xor, hvlan j hj,
      getLsbD_eq_decide h.untagged i hj, getLsbD_eq_decide h'.untagged i hj]
    simp [hj]
  have hcomm : ∀ j, j + i.1 * 32 = 32 * i.1 + j := fun j => by omega
  unfold visitedInWord bits
  rw [List.filter_congr fun j hj => hvlan j (List.mem_range.mp hj),
    List.filter_congr fun j hj => huntagged j (List.mem_range.mp hj)]
  simp only [List.filter_map, List.map_map, Function.comp_def, hcomm]

end Represents

end VlanBitmap

end Basebox
