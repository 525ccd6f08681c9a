import Mathlib.Data.List.Basic
import Mathlib.Data.List.Range

/-!
# Lists that a program searches and updates in place

* `modifyFirst p f l`: `l` with the first element that satisfies `p` replaced by its image
  under `f` (an update through the iterator that a search returned).
* `walk f n i l`: the loop over the positions of `l` from `i` on, `n` of them, whose body updates
  the list. `walk_rule`: its invariant rule, for a body that keeps the keys of the elements.
* `map_foldlM_option`: a loop that may fail, compared with one on part of the state.
  `exists_foldlM_option`: such a loop returns, by an invariant. `foldlM_option_rel`: what relates
  the states before and after each turn relates those before and after the loop.
* `firstFit l n`: one pass over `l` that counts up from `n`, one at each element equal to the
  current count. `firstFit_notMem_iff` says when the result does not occur in `l`.
* `foldl_ite_of_inv`, `foldl_ite`: a loop whose turns update a part of the state, or leave it.
* `perm_append_mid`: a permutation of two parts with a further one between them.
-/

namespace Basebox

variable {α β : Type}

/-! ## Updating the first match -/

/-- `l` with `f` applied to the first element that satisfies `p`. -/
def modifyFirst (p : α → Bool) (f : α → α) : List α → List α
  | [] => []
  | a :: l => if p a then f a :: l else a :: modifyFirst p f l

/-- An update that keeps `g` of the element keeps the list of the `g`s. -/
theorem map_modifyFirst {p : α → Bool} {f : α → α} {g : α → β} {l : List α}
    (h : ∀ a ∈ l, p a = true → g (f a) = g a) : (modifyFirst p f l).map g = l.map g := by
  induction l with
  | nil => rfl
  | cons a l ih =>
    unfold modifyFirst
    split
    · rename_i hp
      rw [List.map_cons, List.map_cons, h a List.mem_cons_self hp]
    · rw [List.map_cons, List.map_cons, ih fun b hb => h b (List.mem_cons_of_mem a hb)]

/-- An update of the element that a search found. -/
theorem map_modifyFirst_of_find? {p : α → Bool} {g : α → β} {l : List α} {a a' : α}
    (hf : l.find? p = some a) (h : g a' = g a) :
    (modifyFirst p (fun _ => a') l).map g = l.map g := by
  induction l with
  | nil => rfl
  | cons b l ih =>
    unfold modifyFirst
    by_cases hb : p b = true
    · rw [List.find?_cons_of_pos hb, Option.some.injEq] at hf
      subst hf
      rw [if_pos hb, List.map_cons, List.map_cons, h]
    · rw [List.find?_cons_of_neg hb] at hf
      rw [if_neg hb, List.map_cons, List.map_cons, ih hf]

section Keys

variable {κ : Type} [BEq κ] [LawfulBEq κ] {key : α → κ} {k : κ} {l : List α}

/-- In a list with unique keys, the update of the element with key `k` replaces this one. -/
theorem mem_modifyFirst_of_nodup (hn : (l.map key).Nodup) {a a' b : α} (ha : a ∈ l)
    (hk : key a = k) :
    b ∈ modifyFirst (fun x => key x == k) (fun _ => a') l ↔ b = a' ∨ b ∈ l ∧ key b ≠ k := by
  induction l with
  | nil => simp at ha
  | cons x l ih =>
    rw [List.map_cons, List.nodup_cons] at hn
    unfold modifyFirst
    by_cases hx : key x = k
    · have hrest : ∀ y ∈ l, key y ≠ k := fun y hy he => hn.1 (hx.trans he.symm ▸ List.mem_map_of_mem hy)
      rw [if_pos (beq_iff_eq.mpr hx), List.mem_cons]
      constructor
      · rintro (h | h)
        · exact .inl h
        · exact .inr ⟨List.mem_cons_of_mem x h, hrest b h⟩
      · rintro (h | ⟨h, hb⟩)
        · exact .inl h
        · rcases List.mem_cons.mp h with rfl | h
          · exact absurd hx hb
          · exact .inr h
    · have hal : a ∈ l := by
        rcases List.mem_cons.mp ha with rfl | h
        · exact absurd hk hx
        · exact h
      rw [if_neg (by simpa using hx), List.mem_cons, ih hn.2 hal, List.mem_cons]
      constructor
      · rintro (rfl | h | ⟨h, hb⟩)
        · exact .inr ⟨.inl rfl, hx⟩
        · exact .inl h
        · exact .inr ⟨.inr h, hb⟩
      · rintro (h | ⟨rfl | h, hb⟩)
        · exact .inr (.inl h)
        · exact .inl rfl
        · exact .inr (.inr ⟨h, hb⟩)

/-- Erasing the first element with key `k` erases the only one. -/
theorem mem_eraseP_of_nodup (hn : (l.map key).Nodup) {b : α} :
    b ∈ l.eraseP (fun x => key x == k) ↔ b ∈ l ∧ key b ≠ k := by
  induction l with
  | nil => simp
  | cons x l ih =>
    rw [List.map_cons, List.nodup_cons] at hn
    by_cases hx : key x = k
    · have hrest : ∀ y ∈ l, key y ≠ k := fun y hy he => hn.1 (hx.trans he.symm ▸ List.mem_map_of_mem hy)
      rw [List.eraseP_cons_of_pos (by simpa using hx), List.mem_cons]
      constructor
      · exact fun h => ⟨.inr h, hrest b h⟩
      · rintro ⟨rfl | h, hb⟩
        · exact absurd hx hb
        · exact h
    · rw [List.eraseP_cons_of_neg (by simpa using hx), List.mem_cons, ih hn.2, List.mem_cons]
      constructor
      · rintro (rfl | ⟨h, hb⟩)
        · exact ⟨.inl rfl, hx⟩
        · exact ⟨.inr h, hb⟩
      · rintro ⟨rfl | h, hb⟩
        · exact .inl rfl
        · exact .inr ⟨h, hb⟩

end Keys

/-! ## Loops that update the list -/

/-- The loop over the positions from `i` on, `n` of them, with the body `f`. -/
def walk (f : List α → α → List α) : Nat → Nat → List α → List α
  | 0, _, l => l
  | n + 1, i, l =>
    match l[i]? with
    | none => l
    | some a => walk f n (i + 1) (f l a)

theorem map_walk {κ : Type} {key : α → κ} {f : List α → α → List α}
    (hkeys : ∀ l, ∀ a ∈ l, (f l a).map key = l.map key) (n i : Nat) (l : List α) :
    (walk f n i l).map key = l.map key := by
  induction n generalizing i l with
  | zero => rfl
  | succ n ih =>
    unfold walk
    split
    · rfl
    · rename_i a ha
      rw [ih, hkeys l a (List.mem_of_getElem? ha)]

/-- A body that keeps the keys in place visits each key once: `R ks l` is the invariant after the
elements with the keys `ks`. -/
theorem walk_rule {κ : Type} {key : α → κ} {f : List α → α → List α} {R : List κ → List α → Prop}
    {ks : List κ} (hkeys : ∀ l, ∀ a ∈ l, (f l a).map key = l.map key)
    (hstep : ∀ done l a, R done l → l.map key = ks → a ∈ l → R (done ++ [key a]) (f l a))
    {n i : Nat} {l : List α} (hl : l.map key = ks) (hi : i + n = l.length) (h : R (ks.take i) l) :
    R ks (walk f n i l) := by
  induction n generalizing i l with
  | zero =>
    have : i = ks.length := by rw [← hl, List.length_map]; omega
    rwa [this, List.take_length] at h
  | succ n ih =>
    have hlt : i < l.length := by omega
    unfold walk
    rw [List.getElem?_eq_getElem hlt]
    have hmem : l[i] ∈ l := List.getElem_mem hlt
    have hlen : (f l l[i]).length = l.length := by
      simpa using congrArg List.length (hkeys l _ hmem)
    refine ih ((hkeys l _ hmem).trans hl) (by omega) ?_
    have htake : ks.take (i + 1) = ks.take i ++ [key l[i]] := by
      subst hl
      rw [List.take_succ_eq_append_getElem (by simpa using hlt), List.getElem_map]
    rw [htake]
    exact hstep _ _ _ h hl hmem

/-- A loop that may fail, seen through `g`. -/
theorem map_foldlM_option {σ τ : Type} {g : σ → τ} {f : σ → α → Option σ} {f' : τ → α → Option τ}
    (h : ∀ x a, (f x a).map g = f' (g x) a) (l : List α) (x : σ) :
    (l.foldlM f x).map g = l.foldlM f' (g x) := by
  induction l generalizing x with
  | nil => rfl
  | cons a l ih =>
    rw [List.foldlM_cons, List.foldlM_cons, ← h x a]
    cases f x a with
    | none => rfl
    | some y => exact ih y

/-- A loop returns if its body does, in every state with the invariant. -/
theorem exists_foldlM_option {σ : Type} {I : σ → Prop} {f : σ → α → Option σ}
    (hf : ∀ x a, I x → ∃ y, f x a = some y ∧ I y) (l : List α) {x : σ} (h : I x) :
    ∃ y, l.foldlM f x = some y ∧ I y := by
  induction l generalizing x with
  | nil => exact ⟨x, rfl, h⟩
  | cons a l ih =>
    obtain ⟨y, hy, hI⟩ := hf x a h
    rw [List.foldlM_cons, hy]
    exact ih hI

/-- A loop that returns goes through states that are related step by step. -/
theorem foldlM_option_rel {σ : Type} {R : σ → σ → Prop} {f : σ → α → Option σ}
    (hrefl : ∀ x, R x x) (htrans : ∀ x y z, R x y → R y z → R x z)
    (hf : ∀ x a y, f x a = some y → R x y) {l : List α} {x y : σ} (h : l.foldlM f x = some y) :
    R x y := by
  induction l generalizing x with
  | nil =>
    cases h
    exact hrefl _
  | cons a l ih =>
    rw [List.foldlM_cons] at h
    obtain ⟨z, hz, h⟩ := Option.bind_eq_some_iff.mp h
    exact htrans x z y (hf x a z hz) (ih h)

/-! ## First fit -/

/-- Count up from `n` through `l`, one at each element equal to the count. -/
def firstFit (l : List Nat) (n : Nat) : Nat :=
  l.foldl (fun idx i => if idx = i then idx + 1 else idx) n

@[simp] theorem firstFit_nil (n : Nat) : firstFit [] n = n := rfl

theorem firstFit_cons (i : Nat) (l : List Nat) (n : Nat) :
    firstFit (i :: l) n = firstFit l (if n = i then n + 1 else n) := rfl

/-- The numbers that the pass counted occur in `l` in ascending order. -/
theorem exists_range'_sublist (l : List Nat) (n : Nat) :
    ∃ m, firstFit l n = n + m ∧ (List.range' n m).Sublist l := by
  induction l generalizing n with
  | nil => exact ⟨0, rfl, List.Sublist.slnil⟩
  | cons i l ih =>
    rw [firstFit_cons]
    by_cases h : n = i
    · subst h
      rw [if_pos rfl]
      obtain ⟨m, hm, hs⟩ := ih (n + 1)
      exact ⟨m + 1, by omega, by rw [List.range'_succ]; exact hs.cons_cons n⟩
    · rw [if_neg h]
      obtain ⟨m, hm, hs⟩ := ih n
      exact ⟨m, hm, hs.cons i⟩

/-- The pass counts every ascending run from `n` that it meets. -/
theorem le_firstFit_of_sublist {l : List Nat} {n m : Nat} (h : (List.range' n m).Sublist l) :
    n + m ≤ firstFit l n := by
  induction l generalizing n m with
  | nil =>
    have hm : m = 0 := by simpa using List.sublist_nil.mp h
    simp [hm]
  | cons i l ih =>
    cases m with
    | zero =>
      obtain ⟨k, hk, -⟩ := exists_range'_sublist (i :: l) n
      omega
    | succ m =>
      rw [List.range'_succ] at h
      rw [firstFit_cons]
      by_cases hi : n = i
      · subst hi
        rw [if_pos rfl]
        have := ih (List.cons_sublist_cons.mp h)
        omega
      · rw [if_neg hi]
        cases h with
        | cons _ h' =>
          rw [← List.range'_succ] at h'
          exact ih h'
        | cons_cons _ _ => exact absurd rfl hi

/-- The numbers from `n` on that `l` holds, up to the first one missing, stand in `l` in
ascending order. -/
def Ascending (l : List Nat) (n : Nat) : Prop :=
  ∀ m, (∀ i, n ≤ i → i < n + m → i ∈ l) → (List.range' n m).Sublist l

/-- One pass finds a number that is not in `l` exactly when the numbers from `n` up to the first
missing one stand in ascending order. -/
theorem firstFit_notMem_iff (l : List Nat) (n : Nat) : firstFit l n ∉ l ↔ Ascending l n := by
  obtain ⟨k, hk, hs⟩ := exists_range'_sublist l n
  constructor
  · intro hfree m hm
    have hle : m ≤ k := by
      by_contra hlt
      exact hfree (hk ▸ hm (n + k) (by omega) (by omega))
    exact (List.range'_sublist_right.mpr hle).trans hs
  · intro hasc hmem
    have hall : ∀ i, n ≤ i → i < n + (k + 1) → i ∈ l := by
      intro i h1 h2
      by_cases hi : i = n + k
      · subst hi; rw [hk] at hmem; exact hmem
      · exact hs.subset (List.mem_range'_1.mpr ⟨h1, by omega⟩)
    have := le_firstFit_of_sublist (hasc (k + 1) hall)
    omega

/-! ## Loops that update a part of the state -/

/-- A loop whose turns change `F` of the state by `G`, some of them, or leave it, while `I` holds. -/
theorem foldl_ite_of_inv {σ : Type} {I : σ → Prop} {F : σ → α} {G : α → α} (hG : ∀ x, G (G x) = G x)
    {P : β → Prop} [DecidablePred P] {op : σ → β → σ} {l : List β}
    (hI : ∀ b ∈ l, ∀ s, I s → I (op s b))
    (hop : ∀ b ∈ l, ∀ s, I s → F (op s b) = if P b then G (F s) else F s) {s : σ} (h0 : I s) :
    F (l.foldl op s) = if ∃ b ∈ l, P b then G (F s) else F s := by
  induction l generalizing s with
  | nil => simp
  | cons b l ih =>
    obtain ⟨hb, hl⟩ := List.forall_mem_cons.mp hop
    obtain ⟨hIb, hIl⟩ := List.forall_mem_cons.mp hI
    rw [List.foldl_cons, ih hIl hl (hIb s h0), hb s h0]
    by_cases hP : P b
    · by_cases hex : ∃ b ∈ l, P b
      · simp [hP, hex, hG]
      · simp [hP, hex]
    · simp [hP]

theorem foldl_ite {σ : Type} {F : σ → α} {G : α → α} (hG : ∀ x, G (G x) = G x) {P : β → Prop}
    [DecidablePred P] {op : σ → β → σ} {l : List β}
    (hop : ∀ b ∈ l, ∀ s, F (op s b) = if P b then G (F s) else F s) (s : σ) :
    F (l.foldl op s) = if ∃ b ∈ l, P b then G (F s) else F s :=
  foldl_ite_of_inv (I := fun _ => True) hG (fun _ _ _ _ => trivial) (fun b hb s _ => hop b hb s)
    trivial

/-! ## What is put between two parts -/

theorem perm_append_mid {a b c : List α} (h : a.Perm (b ++ c)) (l : List α) :
    (a ++ l).Perm (b ++ l ++ c) := by
  have hmid : (b ++ c ++ l).Perm (b ++ l ++ c) := by
    rw [List.append_assoc, List.append_assoc]
    exact List.perm_append_comm.append_left b
  exact (h.append_right l).trans hmid

end Basebox
