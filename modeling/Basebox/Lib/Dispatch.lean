import Basebox.Lib.Loop

/-!
# Dispatch loops

A loop over a list of callbacks calls those that are hit and erases them:

    for (cb = begin(items); cb != end(items);)
      if (hit(*cb)) { call(*cb); cb = items.erase(cb); } else ++cb;

The list belongs to a state that the callbacks change; they may append to the list.

* `Dispatcher.returns`: the loop is left, and has called each callback that was hit once, if none
  of these appends one that is hit.
* `Dispatcher.diverges`: it is never left if some callbacks that are hit keep appending each other.
-/

namespace Basebox

/-- The loop: how it reads and writes the list, which callbacks it calls, and what a call does.
A call appends to the list only, and what it appends depends on the callback alone. -/
structure Dispatcher (σ α : Type) where
  items : σ → List α
  setItems : σ → List α → σ
  hit : α → Bool
  call : σ → α → σ
  added : α → List α
  items_setItems : ∀ s l, items (setItems s l) = l
  items_call : ∀ s a, items (call s a) = items s ++ added a

/-- The state, the iterator, and the callbacks that were called. -/
structure Dispatch (σ α : Type) where
  st : σ
  cb : Nat := 0
  called : List α := []

namespace Dispatcher

variable {σ α : Type} (d : Dispatcher σ α)

/-- There is an item left for the current callback. -/
def more (i : Dispatch σ α) : Bool := decide (i.cb < (d.items i.st).length)

/-- One turn of the loop: the item is given to its callback, which may change the list. -/
def body (i : Dispatch σ α) : Dispatch σ α :=
  match (d.items i.st)[i.cb]? with
  | none => i
  | some a =>
    if d.hit a then
      let s := d.call i.st a
      { st := d.setItems s ((d.items s).eraseIdx i.cb), cb := i.cb, called := i.called ++ [a] }
    else { i with cb := i.cb + 1 }

/-- The loop with `n` turns at most. -/
def loop (n : Nat) (s : σ) : Option (Dispatch σ α) :=
  whileLoop d.more d.body n { st := s }

/-- The part of the list that the loop has not come to. -/
def rest (i : Dispatch σ α) : List α := (d.items i.st).drop i.cb

variable {d} {i : Dispatch σ α} {a : α} {l : List α}

theorem more_iff : d.more i = true ↔ d.rest i ≠ [] := by
  simp [more, rest]

theorem getElem?_of_rest (h : d.rest i = a :: l) : (d.items i.st)[i.cb]? = some a := by
  have := congrArg (·[0]?) h
  simpa [rest] using this

theorem tail_of_rest (h : d.rest i = a :: l) : (d.items i.st).drop (i.cb + 1) = l := by
  rw [← List.drop_drop]
  rw [rest] at h
  rw [h, List.drop_one, List.tail_cons]

theorem body_of_hit (h : d.rest i = a :: l) (ha : d.hit a = true) :
    d.rest (d.body i) = l ++ d.added a ∧ (d.body i).called = i.called ++ [a] := by
  have hlt : i.cb < (d.items i.st).length := by
    have : d.more i = true := more_iff.mpr (by simp [h])
    simpa [more] using this
  simp only [body, getElem?_of_rest h, ha, if_true, rest, d.items_setItems, d.items_call,
    and_true]
  -- what is erased stands at the iterator, so the iterator is now at the tail
  rw [List.eraseIdx_eq_take_drop_succ, List.drop_append, List.drop_take, Nat.sub_self,
    List.take_zero, List.nil_append, List.length_take, List.length_append,
    Nat.min_eq_left (by omega), Nat.sub_self, List.drop_zero,
    List.drop_append_of_le_length (by omega), tail_of_rest h]

theorem body_of_not_hit (h : d.rest i = a :: l) (ha : d.hit a = false) :
    d.rest (d.body i) = l ∧ (d.body i).called = i.called := by
  simp only [body, getElem?_of_rest h, ha, Bool.false_eq_true, if_false, rest, tail_of_rest h,
    and_true]

/-- A list in which nothing is hit is walked to its end. -/
theorem skips {l : List α} (hl : ∀ a ∈ l, d.hit a = false) {i : Dispatch σ α}
    (h : d.rest i = l) :
    ∃ n r, whileLoop d.more d.body n i = some r ∧ r.called = i.called := by
  induction l generalizing i with
  | nil =>
    have : d.more i = false := by
      rw [← Bool.not_eq_true, more_iff]
      simp [h]
    exact ⟨1, i, by simp [whileLoop, this], rfl⟩
  | cons a l ih =>
    obtain ⟨hr, hc⟩ := body_of_not_hit h (hl a List.mem_cons_self)
    obtain ⟨n, r, hn, hrc⟩ := ih (fun b hb => hl b (List.mem_cons_of_mem a hb)) hr
    have hm : d.more i = true := more_iff.mpr (by simp [h])
    exact ⟨n + 1, r, by simpa [whileLoop, hm] using hn, hrc.trans hc⟩

theorem returns_of_rest {l m : List α} (hl : ∀ a ∈ l, d.hit a = true → ∀ b ∈ d.added a,
    d.hit b = false) (hm : ∀ b ∈ m, d.hit b = false) {i : Dispatch σ α} (h : d.rest i = l ++ m) :
    ∃ n r, whileLoop d.more d.body n i = some r ∧ r.called = i.called ++ l.filter d.hit := by
  -- `m` holds what the calls have appended so far
  induction l generalizing i m with
  | nil => simpa using skips hm h
  | cons a l ih =>
    have hmore : d.more i = true := more_iff.mpr (by simp [h])
    have htl : ∀ a ∈ l, d.hit a = true → ∀ b ∈ d.added a, d.hit b = false :=
      fun b hb => hl b (List.mem_cons_of_mem a hb)
    cases ha : d.hit a with
    | true =>
      obtain ⟨hr, hc⟩ := body_of_hit h ha
      have hm' : ∀ b ∈ m ++ d.added a, d.hit b = false := by
        intro b hb
        rcases List.mem_append.mp hb with hb | hb
        · exact hm b hb
        · exact hl a List.mem_cons_self ha b hb
      obtain ⟨n, r, hn, hrc⟩ := ih htl hm' (hr.trans (List.append_assoc ..))
      exact ⟨n + 1, r, by simpa [whileLoop, hmore] using hn, by simp [hrc, hc, ha]⟩
    | false =>
      obtain ⟨hr, hc⟩ := body_of_not_hit h ha
      obtain ⟨n, r, hn, hrc⟩ := ih htl hm hr
      exact ⟨n + 1, r, by simpa [whileLoop, hmore] using hn, by simp [hrc, hc, ha]⟩

/-- If no callback that is hit appends one that is hit, the loop calls those that are hit, once
each and in their order. -/
theorem returns {s : σ}
    (h : ∀ a ∈ d.items s, d.hit a = true → ∀ b ∈ d.added a, d.hit b = false) :
    ∃ n r, d.loop n s = some r ∧ r.called = (d.items s).filter d.hit := by
  have hr : d.rest ({ st := s } : Dispatch σ α) = d.items s ++ [] := by simp [rest]
  obtain ⟨n, r, hn, hc⟩ := returns_of_rest h (fun _ hb => by cases hb) hr
  exact ⟨n, r, hn, hc⟩

/-- If the list has one of some callbacks that are hit and append one of their own, the loop is
never left. -/
theorem diverges {P : α → Prop}
    (hP : ∀ a, P a → d.hit a = true ∧ ∃ b ∈ d.added a, P b) {s : σ}
    (h : ∃ a ∈ d.items s, P a) (n : Nat) : d.loop n s = none := by
  have step : ∀ i : Dispatch σ α, (∃ a ∈ d.rest i, P a) → ∃ a ∈ d.rest (d.body i), P a := by
    rintro i ⟨a, ha, hPa⟩
    obtain ⟨c, l, hcl⟩ := List.exists_cons_of_ne_nil (List.ne_nil_of_mem ha)
    rw [hcl, List.mem_cons] at ha
    cases hc : d.hit c with
    | true =>
      rw [(body_of_hit hcl hc).1]
      rcases ha with rfl | ha
      · obtain ⟨b, hb, hPb⟩ := (hP a hPa).2
        exact ⟨b, List.mem_append_right _ hb, hPb⟩
      · exact ⟨a, List.mem_append_left _ ha, hPa⟩
    | false =>
      rw [(body_of_not_hit hcl hc).1]
      rcases ha with rfl | ha
      · rw [(hP a hPa).1] at hc
        cases hc
      · exact ⟨a, ha, hPa⟩
  have all : ∀ k, ∃ a ∈ d.rest (d.body^[k] { st := s }), P a := by
    intro k
    induction k with
    | zero => simpa [rest] using h
    | succ k ih => simpa [Function.iterate_succ_apply'] using step _ ih
  refine whileLoop_eq_none.mpr fun k _ => more_iff.mpr ?_
  obtain ⟨a, ha, -⟩ := all k
  exact List.ne_nil_of_mem ha

end Dispatcher

end Basebox
