import Basebox.Lib.Table
import Mathlib.Data.Finset.Max

/-!
# Ids from a counter and a set of freed ones, and tables that count references to them

* `IdPool`: the next id and the ids that were given back. `take` hands out the least freed id, or
  the next one of a counter that counts modulo `m`; `give` takes an id back.
* `Counted`: an id with a reference count, the value type of a table of shared objects.
* `Live m t p`: no id of the table `t` is handed out twice. Its ids are distinct, not zero, below
  the counter and not among the freed ones, and every count is at least one. One lemma for each
  operation says that it keeps `Live`, as long as the counter does not wrap around.
* `NoLeak t p`: every id that the counter has passed is in the table or freed.
-/

namespace Basebox

/-- Ids are counted up from one; those given back are given out first. -/
structure IdPool where
  next : Nat := 1
  freed : Finset Nat := ∅
  deriving DecidableEq

namespace IdPool

/-- An id, and the pool without it. -/
def take (m : Nat) (p : IdPool) : Nat × IdPool :=
  if h : p.freed.Nonempty then (p.freed.min' h, { p with freed := p.freed.erase (p.freed.min' h) })
  else (p.next, { p with next := (p.next + 1) % m })

theorem next_take_le (m : Nat) (p : IdPool) : (p.take m).2.next ≤ p.next + 1 := by
  unfold take
  split
  · exact Nat.le_succ _
  · exact Nat.mod_le _ _

/-- A pool that hands out an id changes. -/
theorem take_ne {m : Nat} (hm : 1 < m) (p : IdPool) : (p.take m).2 ≠ p := by
  intro he
  by_cases hf : p.freed.Nonempty
  · have htake : p.take m = (p.freed.min' hf, { p with freed := p.freed.erase (p.freed.min' hf) }) :=
      dif_pos hf
    rw [htake] at he
    have hfreed : p.freed.erase (p.freed.min' hf) = p.freed := congrArg IdPool.freed he
    refine Finset.notMem_erase (p.freed.min' hf) p.freed ?_
    rw [hfreed]
    exact Finset.min'_mem p.freed hf
  · have htake : p.take m = (p.next, { p with next := (p.next + 1) % m }) := dif_neg hf
    rw [htake] at he
    have hnext := congrArg IdPool.next he
    simp only at hnext
    by_cases hlt : p.next + 1 < m
    · rw [Nat.mod_eq_of_lt hlt] at hnext
      omega
    · have hlt' : p.next < m := hnext ▸ Nat.mod_lt _ (by omega)
      obtain rfl : m = p.next + 1 := by omega
      rw [Nat.mod_self] at hnext
      omega

/-- An id is given back. -/
def give (p : IdPool) (id : Nat) : IdPool := { p with freed := insert id p.freed }

end IdPool

/-- An id with its number of references. -/
structure Counted where
  id : Nat
  refcnt : Int := 1
  deriving DecidableEq

variable {K : Type} [DecidableEq K]

/-- Each id below the counter is in use for one key or given back. -/
structure Live (m : Nat) (t : Table K Counted) (p : IdPool) : Prop where
  next_pos : 0 < p.next
  next_lt : p.next < m
  freed : ∀ i ∈ p.freed, 0 < i ∧ i < p.next
  inj : ∀ k k' x y, t.lookup k = some x → t.lookup k' = some y → x.id = y.id → k = k'
  ids : ∀ k x, t.lookup k = some x → 0 < x.id ∧ x.id < p.next ∧ x.id ∉ p.freed
  counted : ∀ k x, t.lookup k = some x → 1 ≤ x.refcnt

namespace Live

variable {m : Nat} {t : Table K Counted} {p : IdPool}

theorem init (hm : 1 < m) : Live m (∅ : Table K Counted) {} where
  next_pos := Nat.one_pos
  next_lt := hm
  freed _ h := by simp at h
  inj _ _ _ _ h := by cases h
  ids _ _ h := by cases h
  counted _ _ h := by cases h

/-- What `take` hands out while the counter does not wrap around. -/
theorem take_cases (h : Live m t p) (hw : (p.take m).2.next ≠ 0) :
    ((p.take m).1 ∈ p.freed ∧
      (p.take m).2 = { p with freed := p.freed.erase (p.take m).1 }) ∨
    ((p.take m).1 = p.next ∧ p.next + 1 < m ∧ (p.take m).2 = { p with next := p.next + 1 }) := by
  have hlt := h.next_lt
  by_cases he : p.freed.Nonempty
  · rw [show p.take m = (p.freed.min' he, { p with freed := p.freed.erase (p.freed.min' he) }) from
      dif_pos he]
    exact .inl ⟨Finset.min'_mem _ he, rfl⟩
  · have htake : p.take m = (p.next, { p with next := (p.next + 1) % m }) := dif_neg he
    rw [htake] at hw ⊢
    have hne : p.next + 1 ≠ m := fun e => hw (by rw [e]; exact Nat.mod_self m)
    have hlt' : p.next + 1 < m := by omega
    exact .inr ⟨rfl, hlt', by rw [Nat.mod_eq_of_lt hlt']⟩

/-- The pool without the id it handed out. -/
theorem take (h : Live m t p) (hw : (p.take m).2.next ≠ 0) :
    Live m t (p.take m).2 ∧
      0 < (p.take m).1 ∧ (p.take m).1 < (p.take m).2.next ∧ (p.take m).1 ∉ (p.take m).2.freed := by
  rcases h.take_cases hw with ⟨hmem, hp⟩ | ⟨hid, hlt, hp⟩
  · rw [hp]
    obtain ⟨hpos, hlt⟩ := h.freed _ hmem
    refine ⟨⟨h.next_pos, h.next_lt, fun i hi => h.freed i (Finset.mem_of_mem_erase hi), h.inj,
      fun k x hx => ?_, h.counted⟩, hpos, hlt, Finset.notMem_erase _ _⟩
    obtain ⟨h1, h2, h3⟩ := h.ids k x hx
    exact ⟨h1, h2, fun hf => h3 (Finset.mem_of_mem_erase hf)⟩
  · rw [hp, hid]
    refine ⟨⟨Nat.succ_pos _, hlt, fun i hi => ?_, h.inj, fun k x hx => ?_, h.counted⟩,
      h.next_pos, Nat.lt_succ_self _, fun hf => ?_⟩
    · obtain ⟨h1, h2⟩ := h.freed i hi
      exact ⟨h1, by simp only; omega⟩
    · obtain ⟨h1, h2, h3⟩ := h.ids k x hx
      exact ⟨h1, by simp only; omega, h3⟩
    · have := (h.freed _ hf).2
      omega

/-- The next id that is handed out is in no entry. -/
theorem take_fresh (h : Live m t p) {k : K} {x : Counted} (hx : t.lookup k = some x) :
    x.id ≠ (p.take m).1 := by
  obtain ⟨-, hlt, hfree⟩ := h.ids k x hx
  by_cases he : p.freed.Nonempty
  · rw [show (p.take m).1 = p.freed.min' he by rw [IdPool.take, dif_pos he]]
    intro e
    exact hfree (e ▸ Finset.min'_mem _ he)
  · rw [show (p.take m).1 = p.next by rw [IdPool.take, dif_neg he]]
    omega

/-- A new entry with an id that is handed out. -/
theorem take_insert (h : Live m t p) (hw : (p.take m).2.next ≠ 0) (k : K) :
    Live m (t.insert k { id := (p.take m).1 }) (p.take m).2 := by
  obtain ⟨h', hpos, hlt, hfree⟩ := h.take hw
  have hnew := fun k x => h.take_fresh (k := k) (x := x)
  refine ⟨h'.next_pos, h'.next_lt, h'.freed, fun a b x y hx hy he => ?_, fun a x hx => ?_,
    fun a x hx => ?_⟩
  · have := h.inj a b x y
    have := hnew a x
    have := hnew b y
    grind
  · have := h'.ids a x
    grind
  · have := h.counted a x
    grind

/-- Another count for an entry. -/
theorem recount (h : Live m t p) {k : K} {x : Counted} (hx : t.lookup k = some x) {n : Int}
    (hn : 1 ≤ n) : Live m (t.insert k { x with refcnt := n }) p where
  next_pos := h.next_pos
  next_lt := h.next_lt
  freed := h.freed
  inj a b y z hy hz he := by
    have h1 := h.inj a b
    have h2 := h.inj a k
    have h3 := h.inj k b
    grind
  ids a y hy := by
    have h1 := h.ids a y
    have h2 := h.ids k x hx
    grind
  counted a y hy := by
    have h1 := h.counted a y
    grind

theorem erase (h : Live m t p) (k : K) : Live m (t.erase k) p where
  next_pos := h.next_pos
  next_lt := h.next_lt
  freed := h.freed
  inj a b x y hx hy he := h.inj a b x y (by grind) (by grind) he
  ids a x hx := h.ids a x (by grind)
  counted a x hx := h.counted a x (by grind)

/-- An entry is removed and its id given back. -/
theorem release (h : Live m t p) {k : K} {x : Counted} (hx : t.lookup k = some x) :
    Live m (t.erase k) (p.give x.id) where
  next_pos := h.next_pos
  next_lt := h.next_lt
  freed i hi := by
    rcases Finset.mem_insert.mp hi with rfl | hi
    · exact ⟨(h.ids k x hx).1, (h.ids k x hx).2.1⟩
    · exact h.freed i hi
  inj := (h.erase k).inj
  ids a y hy := by
    obtain ⟨h1, h2, h3⟩ := (h.erase k).ids a y hy
    refine ⟨h1, h2, fun hf => ?_⟩
    rcases Finset.mem_insert.mp hf with he | hf
    · have := h.inj a k y x (by grind) hx he
      grind
    · exact h3 hf
  counted := (h.erase k).counted

/-- An entry is stored under another key, or lost if that key is taken. -/
theorem rekey (h : Live m t p) {k k' : K} {x : Counted} (hx : t.lookup k = some x) :
    Live m (Table.emplace (t.erase k) k' x) p := by
  have hcases : ∀ a y, (Table.emplace (t.erase k) k' x).lookup a = some y →
      (a = k' ∧ y = x) ∨ (a ≠ k ∧ t.lookup a = some y) := by
    intro a y hy
    rw [Table.lookup_emplace] at hy
    cases hk' : (t.erase k).lookup k' <;> grind
  refine ⟨h.next_pos, h.next_lt, h.freed, fun a b y z hy hz he => ?_, fun a y hy => ?_,
    fun a y hy => ?_⟩
  · rcases hcases a y hy with ⟨rfl, rfl⟩ | ⟨ha, hya⟩
    · rcases hcases b z hz with ⟨rfl, rfl⟩ | ⟨hb, hzb⟩
      · rfl
      · exact absurd (h.inj b k z y hzb hx he.symm) hb
    · rcases hcases b z hz with ⟨rfl, rfl⟩ | ⟨-, hzb⟩
      · exact absurd (h.inj a k y z hya hx he) ha
      · exact h.inj a b y z hya hzb he
  · rcases hcases a y hy with ⟨rfl, rfl⟩ | ⟨-, hy⟩
    · exact h.ids k y hx
    · exact h.ids a y hy
  · rcases hcases a y hy with ⟨rfl, rfl⟩ | ⟨-, hy⟩
    · exact h.counted k y hx
    · exact h.counted a y hy

end Live

/-- Every id that the counter has passed is in an entry or freed. -/
def NoLeak (t : Table K Counted) (p : IdPool) : Prop :=
  ∀ i, 0 < i → i < p.next → (∃ k x, t.lookup k = some x ∧ x.id = i) ∨ i ∈ p.freed

namespace NoLeak

variable {m : Nat} {t : Table K Counted} {p : IdPool} {k : K} {x : Counted}

theorem init : NoLeak (∅ : Table K Counted) {} := fun i hpos hlt => by
  simp only at hlt
  omega

/-- A new entry takes the id that is handed out. -/
theorem take_insert (h : NoLeak t p) (hk : k ∉ t) :
    NoLeak (t.insert k { id := (p.take m).1 }) (p.take m).2 := by
  have hother : ∀ i, (∃ k' x, t.lookup k' = some x ∧ x.id = i) →
      ∃ k' x, (AList.insert k { id := (p.take m).1 } t).lookup k' = some x ∧ x.id = i := by
    rintro i ⟨k', x, hl, rfl⟩
    have hne : k' ≠ k := by
      rintro rfl
      exact hk (Table.mem_iff_lookup.mpr ⟨x, hl⟩)
    exact ⟨k', x, by rw [Table.lookup_insert_ite, if_neg hne, hl], rfl⟩
  have hself : ∃ k' x, (AList.insert k { id := (p.take m).1 } t).lookup k' = some x ∧
      x.id = (p.take m).1 := ⟨k, _, AList.lookup_insert t, rfl⟩
  intro i hpos hlt
  by_cases he : p.freed.Nonempty
  · have htake : p.take m = (p.freed.min' he, { p with freed := p.freed.erase (p.freed.min' he) }) :=
      dif_pos he
    rw [htake] at hlt hself hother ⊢
    by_cases hi : i = p.freed.min' he
    · exact .inl (hi ▸ hself)
    · rcases h i hpos hlt with hin | hfreed
      · exact .inl (hother i hin)
      · exact .inr (Finset.mem_erase.mpr ⟨hi, hfreed⟩)
  · have htake : p.take m = (p.next, { p with next := (p.next + 1) % m }) := dif_neg he
    rw [htake] at hlt hself hother ⊢
    have hle : (p.next + 1) % m ≤ p.next + 1 := Nat.mod_le _ _
    by_cases hi : i = p.next
    · exact .inl (hi ▸ hself)
    · have hlt' : i < p.next := by
        simp only at hlt
        omega
      rcases h i hpos hlt' with hin | hfreed
      · exact .inl (hother i hin)
      · exact absurd ⟨i, hfreed⟩ he

/-- Another count for an entry. -/
theorem recount (h : NoLeak t p) (hx : t.lookup k = some x) (n : Int) :
    NoLeak (t.insert k { x with refcnt := n }) p := by
  intro i hpos hlt
  rcases h i hpos hlt with ⟨k', y, hl, rfl⟩ | hfreed
  · left
    by_cases hk : k' = k
    · obtain rfl : x = y := Option.some.inj ((hk ▸ hx).symm.trans hl)
      exact ⟨k, _, AList.lookup_insert t, rfl⟩
    · exact ⟨k', y, by rw [Table.lookup_insert_ite, if_neg hk, hl], rfl⟩
  · exact .inr hfreed

theorem lookup_erase_or (hx : t.lookup k = some x) {i : Nat} :
    (∃ k' y, t.lookup k' = some y ∧ y.id = i) ↔
      x.id = i ∨ ∃ k' y, (t.erase k).lookup k' = some y ∧ y.id = i := by
  constructor
  · rintro ⟨k', y, hl, rfl⟩
    by_cases hk : k' = k
    · obtain rfl : x = y := Option.some.inj ((hk ▸ hx).symm.trans hl)
      exact .inl rfl
    · exact .inr ⟨k', y, by rw [Table.lookup_erase_ite, if_neg hk, hl], rfl⟩
  · rintro (rfl | ⟨k', y, hl, rfl⟩)
    · exact ⟨k, x, hx, rfl⟩
    · rw [Table.lookup_erase_ite] at hl
      split at hl
      · cases hl
      · exact ⟨k', y, hl, rfl⟩

/-- An entry is removed and its id given back. -/
theorem release (h : NoLeak t p) (hx : t.lookup k = some x) :
    NoLeak (t.erase k) (p.give x.id) := by
  intro i hpos hlt
  rcases h i hpos hlt with hin | hfreed
  · rcases (lookup_erase_or hx).mp hin with rfl | hin
    · exact .inr (Finset.mem_insert_self _ _)
    · exact .inl hin
  · exact .inr (Finset.mem_insert_of_mem hfreed)

/-- An entry is removed and its id kept: it is lost, unless the counter has not passed it, or it is
elsewhere too. -/
theorem erase_iff (h : NoLeak t p) (hx : t.lookup k = some x) : NoLeak (t.erase k) p ↔
    (0 < x.id → x.id < p.next → (∃ k' y, (t.erase k).lookup k' = some y ∧ y.id = x.id) ∨
      x.id ∈ p.freed) := by
  refine ⟨fun h' => h' x.id, fun hid i hpos hlt => ?_⟩
  rcases h i hpos hlt with hin | hfreed
  · rcases (lookup_erase_or hx).mp hin with rfl | hin
    · exact hid hpos hlt
    · exact .inl hin
  · exact .inr hfreed

end NoLeak

end Basebox
