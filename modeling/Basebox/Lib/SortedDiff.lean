import Basebox.Lib.Run
import Mathlib.Data.Finset.Sort

/-!
# The changes between two ordered sets, found in one walk

A program that gets the same set anew and must act on what changed goes through the old and the
new elements in parallel, both in ascending order.

* `inOrder`: the elements of a set in ascending order of a strict total order.
* `changes`: the walk over two ascending lists, `inl x` for an element that is in the first only
  and `inr x` for one that is in the second only.
* `mem_changes`, `nodup_changes`: it finds the elements of the two differences, each once.
* `run_changes`: the invariant rule. Where acting on `inl x` takes `x` out of the set that the
  state stands for and acting on `inr x` puts it in, acting on the changes turns the one set into
  the other.
-/

namespace Basebox

variable {α σ : Type}

/-- The elements of `s` in ascending order. -/
def inOrder (lt : α → α → Prop) [DecidableRel lt] [IsStrictTotalOrder α lt] (s : Finset α) :
    List α :=
  letI := linearOrderOfSTO lt
  s.sort

/-- The walk. When one side is at its end, the rest of the other one is changed. -/
def changes (lt : α → α → Prop) [DecidableRel lt] : List α → List α → List (α ⊕ α)
  | o :: os, n :: ns =>
    if lt o n then .inl o :: changes lt os (n :: ns)
    else if lt n o then .inr n :: changes lt (o :: os) ns
    else changes lt os ns
  | os, ns => os.map .inl ++ ns.map .inr
termination_by os ns => os.length + ns.length

section InOrder

variable {lt : α → α → Prop} [DecidableRel lt] [IsStrictTotalOrder α lt]

@[simp] theorem mem_inOrder {s : Finset α} {x : α} : x ∈ inOrder lt s ↔ x ∈ s := by
  let := linearOrderOfSTO lt
  exact Finset.mem_sort _

theorem pairwise_inOrder (s : Finset α) : (inOrder lt s).Pairwise lt := by
  let := linearOrderOfSTO lt
  have hle : (inOrder lt s).Pairwise fun a b => a = b ∨ lt a b := s.pairwise_sort (· ≤ ·)
  have hne : (inOrder lt s).Pairwise (· ≠ ·) := s.sort_nodup (· ≤ ·)
  exact (hle.and hne).imp fun h => h.1.resolve_left h.2

end InOrder

section Order

variable {lt : α → α → Prop} [IsStrictTotalOrder α lt] {a b : α} {l : List α}

theorem head_notMem (hl : (a :: l).Pairwise lt) : a ∉ l :=
  fun hm => irrefl_of lt a ((List.pairwise_cons.mp hl).1 a hm)

/-- What is below the head of an ascending list is not in it. -/
theorem notMem_of_lt_head (hl : (b :: l).Pairwise lt) (h : lt a b) : a ∉ b :: l := by
  rw [List.mem_cons, not_or]
  refine ⟨fun he => irrefl_of lt b (he ▸ h), fun hm => irrefl_of lt a ?_⟩
  exact trans_of lt h ((List.pairwise_cons.mp hl).1 a hm)

theorem nodup_of_pairwise (hl : l.Pairwise lt) : l.Nodup := by
  refine hl.imp ?_
  rintro a b h rfl
  exact irrefl_of lt a h

end Order

/-! ## What the walk finds -/

section Walk

variable {lt : α → α → Prop} [DecidableRel lt] {os ns : List α} {x : α}

theorem changes_nil_left (ns : List α) : changes lt [] ns = ns.map .inr := by
  rw [changes, List.map_nil, List.nil_append]
  simp

theorem changes_nil_right (os : List α) : changes lt os [] = os.map .inl := by
  rw [changes, List.map_nil, List.append_nil]
  simp

variable [IsStrictTotalOrder α lt]

/-- An element of one of the lists is a change exactly if it is not in the other one. -/
theorem mem_changes (hos : os.Pairwise lt) (hns : ns.Pairwise lt) (x : α) :
    (.inl x ∈ changes lt os ns ↔ x ∈ os ∧ x ∉ ns) ∧
      (.inr x ∈ changes lt os ns ↔ x ∈ ns ∧ x ∉ os) := by
  induction os, ns using changes.induct lt with
  | case1 o os n ns hlt ih =>
    have ho := notMem_of_lt_head hns hlt
    obtain ⟨hl, hr⟩ := ih (List.pairwise_cons.mp hos).2 hns
    rw [changes, if_pos hlt]
    simp only [List.mem_cons, hl, hr, Sum.inl.injEq, reduceCtorEq, false_or, not_or] at ho ⊢
    refine ⟨?_, ?_⟩
    · by_cases hx : x = o
      · subst hx
        simp [ho]
      · simp [hx]
    · refine and_congr_right fun hx => (and_iff_right ?_).symm
      rintro rfl
      exact hx.elim ho.1 ho.2
  | case2 o os n ns hlt hgt ih =>
    have hn := notMem_of_lt_head hos hgt
    obtain ⟨hl, hr⟩ := ih hos (List.pairwise_cons.mp hns).2
    rw [changes, if_neg hlt, if_pos hgt]
    simp only [List.mem_cons, hl, hr, Sum.inr.injEq, reduceCtorEq, false_or, not_or] at hn ⊢
    refine ⟨?_, ?_⟩
    · refine and_congr_right fun hx => (and_iff_right ?_).symm
      rintro rfl
      exact hx.elim hn.1 hn.2
    · by_cases hx : x = n
      · subst hx
        simp [hn]
      · simp [hx]
  | case3 o os n ns hlt hgt ih =>
    obtain rfl : o = n := ((trichotomous_of lt o n).resolve_left hlt).resolve_right hgt
    have ho := head_notMem hos
    have hn := head_notMem hns
    obtain ⟨hl, hr⟩ := ih (List.pairwise_cons.mp hos).2 (List.pairwise_cons.mp hns).2
    rw [changes, if_neg hlt, if_neg hgt]
    simp only [List.mem_cons, hl, hr]
    by_cases hx : x = o
    · subst hx
      simp [ho, hn]
    · simp [hx]
  | case4 os ns hnil =>
    -- One of the lists is at its end.
    cases os with
    | nil => simp [changes_nil_left]
    | cons o os =>
      cases ns with
      | nil => simp [changes_nil_right]
      | cons n ns => exact absurd rfl (hnil o os n ns rfl)

theorem nodup_changes (hos : os.Pairwise lt) (hns : ns.Pairwise lt) :
    (changes lt os ns).Nodup := by
  induction os, ns using changes.induct lt with
  | case1 o os n ns hlt ih =>
    have hos' := (List.pairwise_cons.mp hos).2
    rw [changes, if_pos hlt, List.nodup_cons, (mem_changes hos' hns o).1]
    exact ⟨fun h => head_notMem hos h.1, ih hos' hns⟩
  | case2 o os n ns hlt hgt ih =>
    have hns' := (List.pairwise_cons.mp hns).2
    rw [changes, if_neg hlt, if_pos hgt, List.nodup_cons, (mem_changes hos hns' n).2]
    exact ⟨fun h => head_notMem hns h.1, ih hos hns'⟩
  | case3 o os n ns hlt hgt ih =>
    rw [changes, if_neg hlt, if_neg hgt]
    exact ih (List.pairwise_cons.mp hos).2 (List.pairwise_cons.mp hns).2
  | case4 os ns hnil =>
    cases os with
    | nil => simpa [changes_nil_left] using (nodup_of_pairwise hns).map Sum.inr_injective
    | cons o os =>
      cases ns with
      | nil => simpa [changes_nil_right] using (nodup_of_pairwise hos).map Sum.inl_injective
      | cons n ns => exact absurd rfl (hnil o os n ns rfl)

end Walk

/-! ## Acting on the changes -/

section Act

variable {step : σ → α ⊕ α → σ} {R : σ → (α → Prop) → Prop} {s : σ} {P : α → Prop}

theorem congr_of_iff {Q : α → Prop} (h : R s P) (hPQ : ∀ x, P x ↔ Q x) : R s Q := by
  obtain rfl : P = Q := funext fun x => propext (hPQ x)
  exact h

/-- Acting on a list of changes that has no element both ways. -/
theorem run_of_forall (hold : ∀ s P x, R s P → R (step s (.inl x)) fun y => P y ∧ y ≠ x)
    (hnew : ∀ s P x, R s P → R (step s (.inr x)) fun y => y = x ∨ P y) {l : List (α ⊕ α)}
    (hl : ∀ x, .inr x ∈ l → .inl x ∉ l) (h : R s P) :
    R (run step s l) fun x => .inr x ∈ l ∨ P x ∧ .inl x ∉ l := by
  induction l generalizing s P with
  | nil => exact congr_of_iff h fun x => by simp
  | cons c l ih =>
    have hl' : ∀ x, .inr x ∈ l → .inl x ∉ l := fun x hx hx' =>
      hl x (List.mem_cons_of_mem c hx) (List.mem_cons_of_mem c hx')
    rw [run_cons]
    cases c with
    | inl a =>
      refine congr_of_iff (ih hl' (hold s P a h)) fun x => ?_
      simp only [List.mem_cons, reduceCtorEq, Sum.inl.injEq, false_or, not_or, and_assoc]
    | inr a =>
      have ha : .inl a ∉ l := fun hx => hl a List.mem_cons_self (List.mem_cons_of_mem _ hx)
      refine congr_of_iff (ih hl' (hnew s P a h)) fun x => ?_
      simp only [List.mem_cons, reduceCtorEq, Sum.inr.injEq, false_or]
      by_cases hx : x = a
      · subst hx
        simp [ha]
      · simp [hx]

variable {lt : α → α → Prop} [DecidableRel lt] [IsStrictTotalOrder α lt]

/-- **The invariant rule of the walk.** -/
theorem run_changes (hold : ∀ s P x, R s P → R (step s (.inl x)) fun y => P y ∧ y ≠ x)
    (hnew : ∀ s P x, R s P → R (step s (.inr x)) fun y => y = x ∨ P y) (O N : Finset α)
    (h : R s (· ∈ O)) : R (run step s (changes lt (inOrder lt O) (inOrder lt N))) (· ∈ N) := by
  have hmem := mem_changes (@pairwise_inOrder α lt _ _ O) (@pairwise_inOrder α lt _ _ N)
  have hrun := run_of_forall hold hnew
    (fun x hx hx' => ((hmem x).2.mp hx).2 ((hmem x).1.mp hx').1) h
  refine congr_of_iff hrun fun x => ?_
  simp only [(hmem x).1, (hmem x).2, mem_inOrder]
  tauto

end Act

end Basebox
