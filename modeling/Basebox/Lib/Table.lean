import Mathlib.Algebra.Ring.Nat
import Mathlib.Data.List.AList
import Mathlib.Tactic.SplitIfs

/-!
# Tables: finite maps with one value per key

The maps of the program (`std::map`, `std::unordered_map`) as Mathlib's association lists
without duplicate keys. The lemmas say what a lookup gives after an update, in the form that
`simp` and `grind` use.
-/

namespace Basebox

/-- A finite map. -/
abbrev Table (K V : Type) := AList (fun _ : K => V)

namespace Table

variable {K V : Type} [DecidableEq K] {t : Table K V} {k k' : K} {v : V}

@[grind =] theorem lookup_insert_ite (t : Table K V) (k k' : K) (v : V) :
    (t.insert k v).lookup k' = if k' = k then some v else t.lookup k' := by
  split_ifs with h
  · subst h; simp
  · simp [h]

@[grind =] theorem lookup_erase_ite (t : Table K V) (k k' : K) :
    (t.erase k).lookup k' = if k' = k then none else t.lookup k' := by
  split_ifs with h
  · subst h; simp
  · simp [h]

/-- `emplace` of `std::map`: the value is stored only under a key that is not there. -/
def emplace (t : Table K V) (k : K) (v : V) : Table K V :=
  if k ∈ t then t else t.insert k v

theorem mem_iff_lookup : k ∈ t ↔ ∃ v, t.lookup k = some v := by
  rw [← AList.lookup_isSome, Option.isSome_iff_exists]

theorem not_mem_iff_lookup : k ∉ t ↔ t.lookup k = none := AList.lookup_eq_none.symm

@[grind =] theorem lookup_emplace (t : Table K V) (k k' : K) (v : V) :
    (t.emplace k v).lookup k' = if k' = k then some ((t.lookup k).getD v) else t.lookup k' := by
  unfold emplace
  by_cases h : k ∈ t
  · obtain ⟨w, hw⟩ := mem_iff_lookup.mp h
    rw [if_pos h, hw]
    split_ifs with hk
    · subst hk; exact hw
    · rfl
  · rw [if_neg h, lookup_insert_ite, not_mem_iff_lookup.mp h]
    rfl

theorem eq_empty_of_lookup {t : Table K V} (h : ∀ k, t.lookup k = none) : t = ∅ := by
  obtain ⟨l, hl⟩ := t
  cases l with
  | nil => rfl
  | cons x l =>
    have hx := h x.1
    rw [← not_mem_iff_lookup] at hx
    exact absurd (AList.mem_keys.mpr (by simp [AList.keys, List.keys])) hx

theorem erase_of_notMem (h : k ∉ t) : t.erase k = t :=
  AList.ext (List.kerase_of_notMem_keys h)

/-- A new entry that is erased again leaves the table as it was. -/
theorem erase_insert_of_notMem (h : k ∉ t) (v : V) : (t.insert k v).erase k = t := by
  apply AList.ext
  have he : (t.insert k v).entries = ⟨k, v⟩ :: t.entries := AList.entries_insert_of_notMem h
  change List.kerase k (t.insert k v).entries = t.entries
  rw [he]
  exact List.kerase_cons_eq rfl

/-- How many entries have a property that only the entry of `k` can have. -/
theorem countP_entries {p : (Sigma fun _ : K => V) → Bool}
    (h : ∀ x ∈ t.entries, p x = true → x.1 = k) :
    t.entries.countP p = if (t.lookup k).any fun v => p ⟨k, v⟩ then 1 else 0 := by
  have hmem : ∀ x ∈ t.entries.filter p, t.lookup k = some x.2 ∧ x = ⟨k, x.2⟩ := by
    rintro ⟨k', w⟩ hx
    obtain ⟨hx, hp⟩ := List.mem_filter.mp hx
    obtain rfl : k' = k := h _ hx hp
    exact ⟨AList.mem_lookup_iff.mpr hx, rfl⟩
  rw [List.countP_eq_length_filter]
  cases hk : t.lookup k with
  | none =>
    have hnil : t.entries.filter p = [] := by
      refine List.eq_nil_iff_forall_not_mem.mpr fun x hx => ?_
      have := (hmem x hx).1
      rw [hk] at this
      cases this
    simp [hnil]
  | some v =>
    rw [Option.any_some]
    have hval : ∀ x ∈ t.entries.filter p, x = ⟨k, v⟩ := by
      intro x hx
      obtain ⟨h1, h2⟩ := hmem x hx
      rw [hk] at h1
      rw [h2, Option.some.inj h1]
    split_ifs with hp
    · have hperm : (t.entries.filter p).Perm [⟨k, v⟩] := by
        refine (List.perm_ext_iff_of_nodup (t.nodupKeys.nodup.filter p) (by simp)).mpr fun x => ?_
        rw [List.mem_singleton]
        refine ⟨hval x, ?_⟩
        rintro rfl
        exact List.mem_filter.mpr ⟨AList.mem_lookup_iff.mp hk, hp⟩
      exact hperm.length_eq
    · rw [List.length_eq_zero_iff, List.eq_nil_iff_forall_not_mem]
      intro x hx
      have := (List.mem_filter.mp hx).2
      rw [hval x hx] at this
      exact hp this

/-- The sum of the values. -/
def total (t : Table K Nat) : Nat := (t.entries.map (·.2)).sum

theorem total_kerase (k : K) {l : List (Sigma fun _ : K => Nat)} (h : l.NodupKeys) :
    ((l.kerase k).map (·.2)).sum + (l.dlookup k).getD 0 = (l.map (·.2)).sum := by
  induction l with
  | nil => simp
  | cons e l ih =>
    obtain ⟨k', n⟩ := e
    obtain ⟨-, hl⟩ := List.nodupKeys_cons.mp h
    by_cases hk : k = k'
    · subst hk
      simp [List.kerase_cons_eq, Nat.add_comm]
    · rw [List.kerase_cons_ne hk, List.dlookup_cons_ne l ⟨k', n⟩ hk, List.map_cons, List.map_cons,
        List.sum_cons, List.sum_cons, ← ih hl, Nat.add_assoc]

/-- The sum after a value is stored: the value that was there goes, the new one comes. -/
theorem total_insert (t : Table K Nat) (k : K) (n : Nat) :
    Table.total (t.insert k n) + (t.lookup k).getD 0 = t.total + n := by
  have he : (t.insert k n).entries = ⟨k, n⟩ :: t.entries.kerase k := rfl
  have hk : ((t.entries.kerase k).map (·.2)).sum + (t.lookup k).getD 0 = t.total :=
    total_kerase k t.nodupKeys
  rw [total, he, List.map_cons, List.sum_cons, ← hk]
  simp only
  omega

theorem total_erase (t : Table K Nat) (k : K) :
    Table.total (t.erase k) + (t.lookup k).getD 0 = t.total := total_kerase k t.nodupKeys

theorem le_total (t : Table K Nat) (k : K) : (t.lookup k).getD 0 ≤ t.total := by
  have := t.total_erase k
  omega

/-- Two values at different keys. -/
theorem add_le_total (t : Table K Nat) (h : k ≠ k') :
    (t.lookup k).getD 0 + (t.lookup k').getD 0 ≤ t.total := by
  have h1 := t.total_erase k
  have h2 := Table.le_total (t.erase k) k'
  rw [lookup_erase_ite, if_neg (Ne.symm h)] at h2
  omega

theorem total_eq_zero {t : Table K Nat} (h : ∀ k, (t.lookup k).getD 0 = 0) : t.total = 0 := by
  refine List.sum_eq_zero_iff_forall_eq_nat.mpr fun n hn => ?_
  obtain ⟨⟨k, m⟩, hmem, rfl⟩ := List.mem_map.mp hn
  have hl : t.lookup k = some m := AList.mem_lookup_iff.mpr hmem
  have := h k
  rwa [hl] at this

section Rekey

variable {f : K → K} {its : List (Sigma fun _ : K => V)}

/-- The entries `its` are taken out one after the other and stored under the keys that `f` gives. -/
def rekey (f : K → K) (t : Table K V) (its : List (Sigma fun _ : K => V)) : Table K V :=
  its.foldl (fun t it => emplace (t.erase it.1) (f it.1) it.2) t

theorem rekey_cons (it : Sigma fun _ : K => V) :
    rekey f t (it :: its) = rekey f (emplace (t.erase it.1) (f it.1) it.2) its := rfl

/-- The keys after it are keys that were there or ones that `f` gave. -/
theorem mem_of_mem_rekey (h : k ∈ rekey f t its) : k ∈ t ∨ ∃ it ∈ its, k = f it.1 := by
  induction its generalizing t with
  | nil => exact .inl h
  | cons it its ih =>
    rw [rekey_cons] at h
    rcases ih h with hk | ⟨it', hit', hk⟩
    · rw [mem_iff_lookup] at hk
      obtain ⟨w, hw⟩ := hk
      rw [lookup_emplace] at hw
      split_ifs at hw with hkf
      · exact .inr ⟨it, List.mem_cons_self, hkf⟩
      · rw [lookup_erase_ite] at hw
        split_ifs at hw
        exact .inl (mem_iff_lookup.mpr ⟨w, hw⟩)
    · exact .inr ⟨it', List.mem_cons_of_mem it hit', hk⟩

/-- The values after it are values that were there or taken out. -/
theorem value_of_rekey (h : (rekey f t its).lookup k = some v) :
    (∃ k', t.lookup k' = some v) ∨ ∃ it ∈ its, it.2 = v := by
  induction its generalizing t with
  | nil => exact .inl ⟨k, h⟩
  | cons it its ih =>
    rw [rekey_cons] at h
    rcases ih h with ⟨k', hk'⟩ | ⟨it', hit', hv⟩
    · have hcases : v = it.2 ∨ ∃ k'', t.lookup k'' = some v := by
        rw [lookup_emplace] at hk'
        split_ifs at hk' with hkf
        · cases hl : (t.erase it.1).lookup (f it.1) with
          | none =>
            rw [hl] at hk'
            exact .inl (Option.some.inj hk').symm
          | some w =>
            rw [hl] at hk'
            rw [lookup_erase_ite] at hl
            split_ifs at hl
            exact .inr ⟨_, hl.trans hk'⟩
        · rw [lookup_erase_ite] at hk'
          split_ifs at hk'
          exact .inr ⟨k', hk'⟩
      rcases hcases with rfl | hk''
      · exact .inr ⟨it, List.mem_cons_self, rfl⟩
      · exact .inl hk''
    · exact .inr ⟨it', List.mem_cons_of_mem it hit', hv⟩

/-- What is neither taken out nor stored stays as it is. -/
theorem lookup_rekey_of_ne (h : ∀ it ∈ its, k ≠ it.1 ∧ k ≠ f it.1) :
    (rekey f t its).lookup k = t.lookup k := by
  induction its generalizing t with
  | nil => rfl
  | cons it its ih =>
    obtain ⟨hk, hf⟩ := h it List.mem_cons_self
    rw [rekey_cons, ih fun it' hit' => h it' (List.mem_cons_of_mem it hit'), lookup_emplace,
      if_neg hf, lookup_erase_ite, if_neg hk]

/-- Where the new keys are different, not taken and none of the old ones, each entry is found under
its new key, and under its old key there is nothing. -/
theorem lookup_rekey (hinj : (its.map fun it => f it.1).Nodup) (hfree : ∀ it ∈ its, f it.1 ∉ t)
    (hold : ∀ a ∈ its, ∀ b ∈ its, f a.1 ≠ b.1) {it : Sigma fun _ : K => V} (hit : it ∈ its) :
    (rekey f t its).lookup (f it.1) = some it.2 ∧ (rekey f t its).lookup it.1 = none := by
  induction its generalizing t with
  | nil => cases hit
  | cons a its ih =>
    obtain ⟨hne, hinj'⟩ := List.nodup_cons.mp hinj
    have hne' : ∀ b ∈ its, f a.1 ≠ f b.1 := fun b hb he => hne (List.mem_map.mpr ⟨b, hb, he.symm⟩)
    have hthere : ∀ k, (emplace (t.erase a.1) (f a.1) a.2).lookup k =
        if k = f a.1 then some a.2 else if k = a.1 then none else t.lookup k := by
      intro k
      have hf := hfree a List.mem_cons_self
      rw [lookup_emplace, lookup_erase_ite, lookup_erase_ite, not_mem_iff_lookup.mp hf, ite_self]
      rfl
    rw [rekey_cons]
    rcases List.mem_cons.mp hit with rfl | hit
    · refine ⟨?_, not_mem_iff_lookup.mp fun hm => ?_⟩
      · rw [lookup_rekey_of_ne fun b hb => ⟨hold it hit b (List.mem_cons_of_mem it hb), hne' b hb⟩,
          hthere, if_pos rfl]
      · rcases mem_of_mem_rekey hm with hm | ⟨b, hb, he⟩
        · rw [mem_iff_lookup, hthere, if_neg (hold it hit it hit).symm, if_pos rfl] at hm
          exact absurd hm (by simp)
        · exact hold b (List.mem_cons_of_mem it hb) it hit he.symm
    · refine ih hinj' (fun b hb => not_mem_iff_lookup.mpr ?_) (fun b hb c hc => ?_) hit
      · rw [hthere, if_neg (hne' b hb).symm,
          not_mem_iff_lookup.mp (hfree b (List.mem_cons_of_mem a hb)), ite_self]
      · exact hold b (List.mem_cons_of_mem a hb) c (List.mem_cons_of_mem a hc)

end Rekey

/-- An order in which the elements of an unordered container are visited. -/
abbrev VisitOrder (α : Type) := { f : List α → List α // ∀ l, (f l).Perm l }

section FilterMap

variable {W : Type}

/-- The entries that `f` keeps, with the values it gives them. -/
def filterMap (f : K → V → Option W) (t : Table K V) : Table K W where
  entries := t.entries.filterMap fun e => (f e.1 e.2).map (Sigma.mk e.1)
  nodupKeys := by
    refine List.Nodup.sublist ?_ t.nodupKeys
    generalize t.entries = l
    induction l with
    | nil => exact List.Sublist.slnil
    | cons e l ih =>
      rw [List.filterMap_cons]
      cases f e.1 e.2 with
      | none => exact ih.cons _
      | some w => exact ih.cons_cons _

theorem dlookup_filterMap (f : K → V → Option W) (k : K) {l : List (Sigma fun _ : K => V)}
    (h : l.NodupKeys) :
    (l.filterMap fun e => (f e.1 e.2).map (Sigma.mk (β := fun _ : K => W) e.1)).dlookup k =
      (l.dlookup k).bind (f k) := by
  induction l with
  | nil => rfl
  | cons e l ih =>
    obtain ⟨k', v⟩ := e
    obtain ⟨hk', hl⟩ := List.nodupKeys_cons.mp h
    rw [List.filterMap_cons]
    by_cases hk : k = k'
    · subst hk
      have hnone : l.dlookup k = none := List.dlookup_eq_none.mpr hk'
      cases hf : f k v with
      | none => simp [ih hl, hnone, hf]
      | some w => simp [hf]
    · rw [List.dlookup_cons_ne l ⟨k', v⟩ hk, ← ih hl]
      cases hf : f k' v with
      | none => simp
      | some w => simp [List.dlookup_cons_ne _ (⟨k', w⟩ : Sigma fun _ : K => W) hk]

@[grind =] theorem lookup_filterMap (f : K → V → Option W) (t : Table K V) (k : K) :
    (t.filterMap f).lookup k = (t.lookup k).bind (f k) :=
  dlookup_filterMap f k t.nodupKeys

end FilterMap

end Table

end Basebox
