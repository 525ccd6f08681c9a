import Basebox.Lib.Table

/-!
# Pairs of tables that are inverse to each other

Two maps that are kept together, one from `A` to `B` and one back.

* `Inverse t u`: each entry of one is, turned around, an entry of the other. So `t` and `u` are
  partial functions that are inverse to each other, and both are injective.
* `Inverse.link`, `Inverse.move`, `Inverse.unlink`: a new pair, a pair that takes the place of
  another one, and a pair that goes.
-/

namespace Basebox

variable {A B : Type} [DecidableEq A] [DecidableEq B]

/-- Each of the two tables is the inverse of the other. -/
def Inverse (t : Table A B) (u : Table B A) : Prop :=
  ∀ a b, t.lookup a = some b ↔ u.lookup b = some a

namespace Inverse

variable {t : Table A B} {u : Table B A} {a a' : A} {b : B}

theorem empty : Inverse (∅ : Table A B) ∅ := by
  intro a b
  simp

/-- No two keys have the same value. -/
theorem inj (h : Inverse t u) (ha : t.lookup a = some b) (ha' : t.lookup a' = some b) : a = a' := by
  rw [h] at ha ha'
  exact Option.some.inj (ha.symm.trans ha')

theorem link (h : Inverse t u) (ha : t.lookup a = none) (hb : u.lookup b = none) :
    Inverse (t.insert a b) (u.insert b a) := by
  intro x y
  have hxy := h x y
  have hay := h a y
  have hxb := h x b
  grind

/-- The value `b` had the key `a'`, and now has `a`. -/
theorem move (h : Inverse t u) (ha : t.lookup a = none) (hb : u.lookup b = some a') :
    Inverse ((t.erase a').insert a b) (u.insert b a) := by
  intro x y
  have hxy := h x y
  have hay := h a y
  have hxb := h x b
  have hold := h a' y
  have hab := h a' b
  grind

theorem unlink (h : Inverse t u) (ha : t.lookup a = some b) : Inverse (t.erase a) (u.erase b) := by
  intro x y
  have hxy := h x y
  have hay := h a y
  have hxb := h x b
  grind

end Inverse

end Basebox
