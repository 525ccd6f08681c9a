import Mathlib.Data.List.Basic

/-!
# Masks of leading bits

The bits of a word are counted from the most significant one on.

* `IsMask m n`: exactly the first `n` bits of `m` are set. `IsMask.and_eq_and_iff`: two words agree
  under such a mask exactly if their first `n` bits agree. `isMask_not_shiftLeft`: the usual way to
  compute one.
* `ofBytes f n`: the word whose bytes are `f 0`, …, `f (n - 1)`, the most significant one first.
  `getMsbD_ofBytes`: its bits, counted through the bytes. `isMask_ofBytes`: it is a mask if its
  bytes are.
-/

namespace Basebox

variable {w n : Nat}

/-- Exactly the first `n` bits of `m` are set. -/
def IsMask (m : BitVec w) (n : Nat) : Prop := ∀ i < w, m.getMsbD i = decide (i < n)

theorem IsMask.and_eq_and_iff {m : BitVec w} (h : IsMask m n) (a b : BitVec w) :
    a &&& m = b &&& m ↔ ∀ i < n, a.getMsbD i = b.getMsbD i := by
  constructor
  · intro hab i hi
    by_cases hw : i < w
    · have hbit : (a &&& m).getMsbD i = (b &&& m).getMsbD i := by rw [hab]
      simpa [h i hw, hi] using hbit
    · rw [BitVec.getMsbD_of_ge a i (by omega), BitVec.getMsbD_of_ge b i (by omega)]
  · intro hab
    apply BitVec.eq_of_getMsbD_eq
    intro i hw
    rw [BitVec.getMsbD_and, BitVec.getMsbD_and, h i hw]
    by_cases hi : i < n
    · rw [hab i hi]
    · simp [hi]

/-- No bit, for a mask of length 0. -/
theorem isMask_zero : IsMask (0 : BitVec w) 0 := by
  intro i _
  simp

theorem getLsbD_one_shiftLeft_sub_one {k : Nat} (hk : k < w) (j : Nat) :
    ((1 : BitVec w) <<< k - 1).getLsbD j = decide (j < k) := by
  have hlt : 2 ^ k < 2 ^ w := Nat.pow_lt_pow_right (by omega) hk
  have hone : 1 < 2 ^ w := Nat.one_lt_two_pow (by omega)
  have hpos : 0 < 2 ^ k := Nat.two_pow_pos k
  have hval : ((1 : BitVec w) <<< k - 1).toNat = 2 ^ k - 1 := by
    rw [BitVec.toNat_sub, BitVec.toNat_shiftLeft, BitVec.ofNat_eq_ofNat, BitVec.toNat_ofNat,
      Nat.mod_eq_of_lt hone, Nat.one_shiftLeft, Nat.mod_eq_of_lt hlt]
    rw [show 2 ^ w - 1 + 2 ^ k = (2 ^ k - 1) + 2 ^ w by omega, Nat.add_mod_right,
      Nat.mod_eq_of_lt (by omega)]
  rw [← BitVec.testBit_toNat, hval, Nat.testBit_two_pow_sub_one]

theorem isMask_not_shiftLeft (hn : 0 < n) (hw : n ≤ w) :
    IsMask (~~~((1 : BitVec w) <<< (w - n) - 1)) n := by
  intro i hi
  rw [BitVec.getMsbD_not, BitVec.getMsbD_eq_getLsbD,
    getLsbD_one_shiftLeft_sub_one (by omega) (w - 1 - i)]
  simp only [hi, decide_true, Bool.true_and]
  rw [← decide_not, decide_eq_decide]
  omega

/-! ## Words of bytes -/

/-- The word with the bytes `f 0`, …, `f (n - 1)`, the most significant one first. -/
def ofBytes (f : Nat → BitVec 8) (n : Nat) : BitVec w :=
  (List.range n).foldl (fun a i => a <<< 8 ||| (f i).setWidth w) 0

theorem ofBytes_succ (f : Nat → BitVec 8) (n : Nat) :
    (ofBytes f (n + 1) : BitVec w) = ofBytes f n <<< 8 ||| (f n).setWidth w := by
  simp [ofBytes, List.range_succ]

/-- Bit `j` from below is in byte `j / 8` from behind. -/
theorem getLsbD_ofBytes (f : Nat → BitVec 8) {j : Nat} (hj : j < w) :
    (ofBytes f n : BitVec w).getLsbD j =
      (decide (j < 8 * n) && (f (n - 1 - j / 8)).getLsbD (j % 8)) := by
  induction n generalizing j with
  | zero => simp [ofBytes]
  | succ n ih =>
    rw [ofBytes_succ, BitVec.getLsbD_or, BitVec.getLsbD_shiftLeft, BitVec.getLsbD_setWidth]
    by_cases hlow : j < 8
    · rw [Nat.div_eq_of_lt hlow, Nat.mod_eq_of_lt hlow]
      simp [hj, hlow, show j < 8 * (n + 1) by omega]
    · rw [ih (by omega), BitVec.getLsbD_of_ge (f n) j (by omega)]
      rw [show n + 1 - 1 - j / 8 = n - 1 - (j - 8) / 8 by omega,
        show j % 8 = (j - 8) % 8 by omega]
      simp only [hj, hlow, decide_true, decide_false, Bool.not_false, Bool.true_and, Bool.and_false,
        Bool.or_false]
      congr 1
      rw [decide_eq_decide]
      omega

/-- Bit `i` is bit `i % 8` of byte `i / 8`. -/
theorem getMsbD_ofBytes (f : Nat → BitVec 8) {i : Nat} (hi : i < 8 * n) :
    (ofBytes f n : BitVec (8 * n)).getMsbD i = (f (i / 8)).getMsbD (i % 8) := by
  rw [BitVec.getMsbD_eq_getLsbD, getLsbD_ofBytes f (by omega), BitVec.getMsbD_eq_getLsbD,
    show n - 1 - (8 * n - 1 - i) / 8 = i / 8 by omega,
    show (8 * n - 1 - i) % 8 = 8 - 1 - i % 8 by omega]
  simp [hi, show i % 8 < 8 by omega, show 8 * n - 1 - i < 8 * n by omega]

/-- The bytes before the boundary are full, those after it are empty, and the one at it is a mask
itself. -/
theorem isMask_ofBytes {f : Nat → BitVec 8} {k : Nat}
    (h : ∀ i < n, IsMask (f i) (k - 8 * i)) : IsMask (ofBytes f n : BitVec (8 * n)) k := by
  intro i hi
  rw [getMsbD_ofBytes f hi, h (i / 8) (by omega) (i % 8) (by omega), decide_eq_decide]
  omega

end Basebox
