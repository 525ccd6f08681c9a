import Basebox.Lib.Run
import Basebox.Lib.Table

/-!
# A cache that is ahead of its notes

A cache follows a changing set of objects at once, and writes a note for each change. The notes are
handled later, in order. Whoever handles one looks objects up in the cache, and if there is none
any more, among the notes that are left, where a deletion still has the object (`find`).

* `seen`: the objects as the handled notes have them, which nobody keeps. `world n`: the objects as
  they were `n` notes later. The cache is the last of these worlds (`Inv`).
* `find_ne_none_iff`: a lookup finds something exactly if there was such an object in one of these
  worlds, and what it finds was one (`find_eq_some`).
* `Quiet`: an object that no note waits for, which is in the cache if it was seen. `Final`: objects
  that do not come back while their deletion waits, and so are not found once it is handled.
* `parents`: objects that hang on others, which come before them and go after them. `find_parents`:
  whoever handles a note about an object finds what it hangs on.
-/

namespace Basebox

/-- A change of the object `k`. -/
inductive CacheNote (κ α : Type) where
  | new (k : κ) (a : α)
  | change (k : κ) (old new : α)
  | del (k : κ) (old : α)

namespace CacheNote

variable {κ α : Type}

/-- The key that a note is about. -/
def key : CacheNote κ α → κ
  | .new k _ | .change k _ _ | .del k _ => k

/-- The object before the change and that after it. -/
def old : CacheNote κ α → Option α
  | .new _ _ => none
  | .change _ a _ | .del _ a => some a

/-- The entry of the key after the change. -/
def after : CacheNote κ α → Option α
  | .new _ a | .change _ _ a => some a
  | .del _ _ => none

variable [DecidableEq κ]

/-- The table after the change. -/
def apply (w : Table κ α) (n : CacheNote κ α) : Table κ α :=
  match n with
  | .new k a => w.insert k a
  | .change k _ a => w.insert k a
  | .del k _ => w.erase k

/-- The old object, if the note is of a deletion of `k`. -/
def gone (k : κ) : CacheNote κ α → Option α
  | .del k' a => if k' = k then some a else none
  | _ => none

theorem lookup_apply (w : Table κ α) (n : CacheNote κ α) (k : κ) :
    (n.apply w).lookup k = if k = n.key then n.after else w.lookup k := by
  cases n with
  | new k' a => exact Table.lookup_insert_ite w k' k a
  | change k' a a' => exact Table.lookup_insert_ite w k' k a'
  | del k' a => exact Table.lookup_erase_ite w k' k

theorem gone_eq_some {k : κ} {n : CacheNote κ α} {a : α} (h : n.gone k = some a) :
    n.key = k ∧ n.old = some a ∧ n.after = none := by
  cases n with
  | new | change => cases h
  | del k' o =>
    simp only [gone] at h
    split_ifs at h with hk
    cases h
    exact ⟨hk, rfl, rfl⟩

end CacheNote

/-- A cache, the notes that are still to be handled, and what the handled ones have shown. -/
structure AheadCache (κ α : Type) where
  seen : Table κ α := ∅
  pending : List (CacheNote κ α) := []
  cache : Table κ α := ∅

namespace AheadCache

variable {κ α : Type} [DecidableEq κ] (s : AheadCache κ α)

/-- A change with its note. -/
def note (n : CacheNote κ α) : AheadCache κ α :=
  { s with pending := s.pending ++ [n], cache := n.apply s.cache }

/-- An object is there, with this value. -/
def put (k : κ) (a : α) : AheadCache κ α :=
  match s.cache.lookup k with
  | none => s.note (.new k a)
  | some old => s.note (.change k old a)

/-- An object is gone. -/
def remove (k : κ) : AheadCache κ α :=
  match s.cache.lookup k with
  | none => s
  | some old => s.note (.del k old)

/-- The first note is handled: what it says is seen. -/
def handle : AheadCache κ α :=
  match s.pending with
  | [] => s
  | n :: l => { s with seen := n.apply s.seen, pending := l }

/-- What is found among the notes. -/
def garbage (k : κ) : Option α := s.pending.findSome? (CacheNote.gone k)

/-- A lookup: the cache first, then what a note that is not handled yet has removed. -/
def find (k : κ) : Option α :=
  match s.cache.lookup k with
  | some a => some a
  | none => s.garbage k

/-- The objects `n` notes later. -/
def world (n : Nat) : Table κ α := (s.pending.take n).foldl (fun w n => n.apply w) s.seen

/-- Each note fits the world before it, and the cache is the world after all of them. -/
def Fits : Table κ α → List (CacheNote κ α) → Table κ α → Prop
  | w, [], cache => w = cache
  | w, n :: l, cache => w.lookup n.key = n.old ∧ Fits (n.apply w) l cache

/-- The pending notes lead from what has been seen to the cache. -/
def Inv : Prop := Fits s.seen s.pending s.cache

variable {s} {k : κ}

theorem fits_concat {w : Table κ α} {l : List (CacheNote κ α)} {cache : Table κ α}
    (h : Fits w l cache) {n : CacheNote κ α} (hn : cache.lookup n.key = n.old) :
    Fits w (l ++ [n]) (n.apply cache) := by
  induction l generalizing w with
  | nil =>
    cases h
    exact ⟨hn, rfl⟩
  | cons m l ih => exact ⟨h.1, ih h.2⟩

theorem Inv.note (h : s.Inv) {n : CacheNote κ α} (hn : s.cache.lookup n.key = n.old) :
    (s.note n).Inv := fits_concat h hn

theorem Inv.put (h : s.Inv) (k : κ) (a : α) : (s.put k a).Inv := by
  unfold AheadCache.put
  cases hk : s.cache.lookup k with
  | none => exact h.note hk
  | some old => exact h.note hk

theorem Inv.remove (h : s.Inv) (k : κ) : (s.remove k).Inv := by
  unfold AheadCache.remove
  cases hk : s.cache.lookup k with
  | none => exact h
  | some old => exact h.note hk

theorem Inv.handle (h : s.Inv) : s.handle.Inv := by
  unfold AheadCache.handle
  cases hl : s.pending with
  | nil => exact h
  | cons n l =>
    unfold Inv at h
    rw [hl] at h
    exact h.2

/-! ## What a lookup finds -/

/-- The worlds after the first note are those that come when it is handled. -/
theorem exists_world_cons {w : Table κ α} {n : CacheNote κ α} {l : List (CacheNote κ α)}
    {p : Table κ α → Prop} :
    (∃ i, p (((n :: l).take i).foldl (fun w n => n.apply w) w)) ↔
      p w ∨ ∃ i, p ((l.take i).foldl (fun w n => n.apply w) (n.apply w)) := by
  constructor
  · rintro ⟨_ | i, h⟩
    · exact .inl h
    · exact .inr ⟨i, h⟩
  · rintro (h | ⟨i, h⟩)
    · exact ⟨0, h⟩
    · exact ⟨i + 1, h⟩

theorem exists_world_nil {w : Table κ α} {p : Table κ α → Prop} :
    (∃ i, p ((([] : List (CacheNote κ α)).take i).foldl (fun w n => n.apply w) w)) ↔ p w := by
  simp

/-- Of an object with a property that no change takes from it, the cache or the notes have one with
it exactly if one of the worlds had. -/
theorem ever_iff (h : s.Inv) {P : α → Prop}
    (hP : ∀ n ∈ s.pending, ∀ a b, n.key = k → n.old = some a → n.after = some b → P a → P b) :
    (∃ n a, (s.world n).lookup k = some a ∧ P a) ↔
      (∃ a, s.cache.lookup k = some a ∧ P a) ∨ ∃ a, CacheNote.del k a ∈ s.pending ∧ P a := by
  obtain ⟨w, l, cache⟩ := s
  change Fits w l cache at h
  dsimp only [world] at hP ⊢
  induction l generalizing w with
  | nil =>
    cases h
    rw [exists_world_nil (p := fun w => ∃ a, w.lookup k = some a ∧ P a)]
    simp
  | cons n l ih =>
    obtain ⟨hn, hl⟩ := h
    have hrest := ih (n.apply w) (fun m hm => hP m (List.mem_cons_of_mem n hm)) hl
    rw [exists_world_cons (p := fun w => ∃ a, w.lookup k = some a ∧ P a), hrest]
    constructor
    · rintro (⟨a, ha, hPa⟩ | hc | ⟨a, ha, hPa⟩)
      · -- The object is deleted now, or it is there after the note, still with the property.
        by_cases hdel : n = .del k a
        · exact .inr ⟨a, by rw [hdel]; exact List.mem_cons_self, hPa⟩
        · have hafter : ∃ b, (n.apply w).lookup k = some b ∧ P b := by
            rw [CacheNote.lookup_apply]
            split_ifs with hk
            · rw [hk, hn] at ha
              obtain ⟨b, hb⟩ : ∃ b, n.after = some b := by
                cases n with
                | new k' b | change k' o b => exact ⟨b, rfl⟩
                | del k' o =>
                  cases ha
                  exact absurd (by rw [hk]; rfl) hdel
              exact ⟨b, hb, hP n List.mem_cons_self a b hk.symm ha hb hPa⟩
            · exact ⟨a, ha, hPa⟩
          have hnow := hrest.mp ⟨0, by simpa using hafter⟩
          refine hnow.imp id fun ⟨b, hb, hPb⟩ => ⟨b, List.mem_cons_of_mem n hb, hPb⟩
      · exact .inl hc
      · exact .inr ⟨a, List.mem_cons_of_mem n ha, hPa⟩
    · rintro (hc | ⟨a, ha, hPa⟩)
      · exact .inr (.inl hc)
      · rcases List.mem_cons.mp ha with rfl | ha
        · exact .inl ⟨a, hn, hPa⟩
        · exact .inr (.inr ⟨a, ha, hPa⟩)

theorem garbage_ne_none_iff : s.garbage k ≠ none ↔ ∃ a, CacheNote.del k a ∈ s.pending := by
  rw [garbage, Ne, List.findSome?_eq_none_iff]
  constructor
  · intro h
    by_contra hno
    refine h fun n hn => ?_
    by_contra hg
    obtain ⟨a, ha⟩ := Option.ne_none_iff_exists'.mp hg
    cases n with
    | new | change => cases ha
    | del k' o =>
      obtain ⟨rfl, -, -⟩ := CacheNote.gone_eq_some ha
      exact hno ⟨o, hn⟩
  · rintro ⟨a, ha⟩ h
    have := h _ ha
    simp [CacheNote.gone] at this

theorem find_ne_none_iff_or :
    s.find k ≠ none ↔ k ∈ s.cache ∨ ∃ a, CacheNote.del k a ∈ s.pending := by
  rw [← garbage_ne_none_iff, find]
  cases hc : s.cache.lookup k with
  | some a => exact iff_of_true (by simp) (.inl (Table.mem_iff_lookup.mpr ⟨a, hc⟩))
  | none => rw [or_iff_right fun hk => Table.not_mem_iff_lookup.mpr hc hk]

theorem find_ne_none_iff (h : s.Inv) : s.find k ≠ none ↔ ∃ n, k ∈ s.world n := by
  have hever := ever_iff (k := k) h (P := fun _ => True) fun _ _ _ _ _ _ _ _ => trivial
  simp only [and_true, ← Table.mem_iff_lookup] at hever
  rw [hever, find_ne_none_iff_or]

/-- What is found was there, with this value, in one of the worlds. -/
theorem find_eq_some (h : s.Inv) {a : α} (hf : s.find k = some a) :
    ∃ n, (s.world n).lookup k = some a := by
  obtain ⟨w, l, cache⟩ := s
  change Fits w l cache at h
  simp only [find, garbage, world] at hf ⊢
  induction l generalizing w with
  | nil =>
    cases h
    rw [exists_world_nil (p := fun w => w.lookup k = some a)]
    cases hc : cache.lookup k with
    | some b => simpa [hc] using hf
    | none => simp [hc] at hf
  | cons n l ih =>
    obtain ⟨hn, hl⟩ := h
    rw [exists_world_cons (p := fun w => w.lookup k = some a)]
    cases hc : cache.lookup k with
    | some b => exact .inr (ih (n.apply w) (by simpa [hc] using hf) hl)
    | none =>
      simp only [hc, List.findSome?_cons] at hf
      cases hg : n.gone k with
      | some b =>
        rw [hg] at hf
        cases hf
        obtain ⟨rfl, hold, -⟩ := CacheNote.gone_eq_some hg
        exact .inl (hn.trans hold)
      | none =>
        rw [hg] at hf
        exact .inr (ih (n.apply w) (by simpa [hc] using hf) hl)

/-- An object that is there now is found as it is now. -/
theorem find_of_mem {a : α} (h : s.cache.lookup k = some a) : s.find k = some a := by
  rw [find, h]

/-- What is found is found after the next note, too. -/
theorem find_note_ne_none {n : CacheNote κ α} (h : s.find k ≠ none) : (s.note n).find k ≠ none := by
  rw [find_ne_none_iff_or] at h ⊢
  rcases h with hk | ⟨a, ha⟩
  · by_cases hdel : n.key = k ∧ n.after = none
    · right
      cases n with
      | new | change => cases hdel.2
      | del k' old =>
        obtain ⟨rfl, -⟩ := hdel
        exact ⟨old, List.mem_append_right _ List.mem_cons_self⟩
    · left
      show k ∈ n.apply s.cache
      rw [← AList.lookup_isSome, CacheNote.lookup_apply]
      split_ifs with he
      · exact Option.isSome_iff_ne_none.mpr fun hnone => hdel ⟨he.symm, hnone⟩
      · exact AList.lookup_isSome.mpr hk
  · exact .inr ⟨a, List.mem_append_left _ ha⟩

/-- What is found is found until a deletion of it is handled. -/
theorem find_handle_ne_none {n : CacheNote κ α} {l : List (CacheNote κ α)} (hl : s.pending = n :: l)
    (hn : ∀ a, n ≠ .del k a) (h : s.find k ≠ none) : s.handle.find k ≠ none := by
  rw [find_ne_none_iff_or] at h ⊢
  unfold handle
  rw [hl] at h ⊢
  refine h.imp id fun ⟨a, ha⟩ => ⟨a, ?_⟩
  exact (List.mem_cons.mp ha).resolve_left fun he => hn a he.symm

/-- A note of another object changes nothing in what is found. -/
theorem find_note_iff {n : CacheNote κ α} (hn : n.key ≠ k) :
    (s.note n).find k ≠ none ↔ s.find k ≠ none := by
  refine ⟨fun h => ?_, find_note_ne_none⟩
  rw [find_ne_none_iff_or] at h ⊢
  rcases h with hk | ⟨a, ha⟩
  · left
    have hk : k ∈ n.apply s.cache := hk
    rwa [← AList.lookup_isSome, CacheNote.lookup_apply, if_neg hn.symm, AList.lookup_isSome] at hk
  · rcases List.mem_append.mp ha with ha | ha
    · exact .inr ⟨a, ha⟩
    · obtain rfl := List.mem_singleton.mp ha
      exact absurd rfl hn

theorem find_put_iff {k' : κ} {a : α} (hk : k' ≠ k) :
    (s.put k' a).find k ≠ none ↔ s.find k ≠ none := by
  unfold put
  split <;> exact find_note_iff hk

/-- What goes is found until its note is handled. -/
theorem find_remove_iff (k' : κ) : (s.remove k').find k ≠ none ↔ s.find k ≠ none := by
  unfold remove
  cases hl : s.cache.lookup k' with
  | none => exact Iff.rfl
  | some old =>
    by_cases hk : k' = k
    · subst hk
      have hfind : s.find k' ≠ none := by
        rw [find_of_mem hl]
        exact Option.some_ne_none old
      exact iff_of_true (find_note_ne_none hfind) hfind
    · exact find_note_iff hk

theorem find_handle_iff {n : CacheNote κ α} {l : List (CacheNote κ α)} (hl : s.pending = n :: l)
    (hn : ∀ a, n ≠ .del k a) : s.handle.find k ≠ none ↔ s.find k ≠ none := by
  refine ⟨fun h => ?_, find_handle_ne_none hl hn⟩
  rw [find_ne_none_iff_or] at h ⊢
  unfold handle at h
  rw [hl] at h ⊢
  exact h.imp id fun ⟨a, ha⟩ => ⟨a, List.mem_cons_of_mem n ha⟩

theorem seen_put (s : AheadCache κ α) (k : κ) (a : α) : (s.put k a).seen = s.seen := by
  unfold put
  split <;> rfl

theorem seen_remove (s : AheadCache κ α) (k : κ) : (s.remove k).seen = s.seen := by
  unfold remove
  split <;> rfl

theorem seen_handle {n : CacheNote κ α} {l : List (CacheNote κ α)} (hl : s.pending = n :: l) :
    s.handle.seen = n.apply s.seen := by
  unfold handle
  rw [hl]

theorem cache_handle (s : AheadCache κ α) : s.handle.cache = s.cache := by
  unfold handle
  split <;> rfl

/-! ## What all objects have in common -/

/-- All objects, those of the notes too, have `P`. -/
structure All (P : α → Prop) (s : AheadCache κ α) : Prop where
  seen : ∀ k a, s.seen.lookup k = some a → P a
  pending : ∀ n ∈ s.pending, ∀ a, n.old = some a ∨ n.after = some a → P a
  cache : ∀ k a, s.cache.lookup k = some a → P a

theorem All.note {P : α → Prop} (h : s.All P) {n : CacheNote κ α}
    (hn : ∀ a, n.old = some a ∨ n.after = some a → P a) : (s.note n).All P where
  seen := h.seen
  pending m hm := by
    rcases List.mem_append.mp hm with hm | hm
    · exact h.pending m hm
    · rw [List.mem_singleton.mp hm]
      exact hn
  cache k' a ha := by
    rw [show (s.note n).cache = n.apply s.cache from rfl, CacheNote.lookup_apply] at ha
    split_ifs at ha with hk
    · exact hn a (.inr ha)
    · exact h.cache k' a ha

theorem All.put {P : α → Prop} (h : s.All P) {a : α} (ha : P a) : (s.put k a).All P := by
  unfold AheadCache.put
  cases hk : s.cache.lookup k with
  | none =>
    refine h.note fun b hb => ?_
    obtain hb | hb := hb
    · cases hb
    · cases hb
      exact ha
  | some old =>
    refine h.note fun b hb => ?_
    obtain hb | hb := hb
    · cases hb
      exact h.cache k _ hk
    · cases hb
      exact ha

theorem All.remove {P : α → Prop} (h : s.All P) : (s.remove k).All P := by
  unfold AheadCache.remove
  cases hk : s.cache.lookup k with
  | none => exact h
  | some old =>
    refine h.note fun b hb => ?_
    obtain hb | hb := hb
    · cases hb
      exact h.cache k _ hk
    · cases hb

theorem All.handle {P : α → Prop} (h : s.All P) : s.handle.All P := by
  unfold AheadCache.handle
  cases hl : s.pending with
  | nil => exact h
  | cons n l =>
    have hmem : ∀ m ∈ l, m ∈ s.pending := fun m hm => hl ▸ List.mem_cons_of_mem n hm
    refine ⟨fun k' a ha => ?_, fun m hm => h.pending m (hmem m hm), h.cache⟩
    rw [CacheNote.lookup_apply] at ha
    split_ifs at ha with hk
    · exact h.pending n (hl ▸ List.mem_cons_self) a (.inr ha)
    · exact h.seen k' a ha

theorem All.find {P : α → Prop} (h : s.All P) {a : α} (hf : s.find k = some a) : P a := by
  unfold AheadCache.find at hf
  cases hc : s.cache.lookup k with
  | some b =>
    rw [hc] at hf
    cases hf
    exact h.cache k _ hc
  | none =>
    rw [hc] at hf
    obtain ⟨n, hn, hg⟩ := List.exists_of_findSome?_eq_some hf
    exact h.pending n hn a (.inl (CacheNote.gone_eq_some hg).2.1)

/-! ## Objects that know their keys -/

/-- The objects are under their own keys. -/
structure Keyed (key : α → κ) (s : AheadCache κ α) : Prop where
  seen : ∀ k a, s.seen.lookup k = some a → key a = k
  pending : ∀ n ∈ s.pending, ∀ a, n.old = some a ∨ n.after = some a → key a = n.key
  cache : ∀ k a, s.cache.lookup k = some a → key a = k

section Keyed

variable {key : α → κ}

theorem Keyed.note (h : s.Keyed key) {n : CacheNote κ α}
    (hn : ∀ a, n.old = some a ∨ n.after = some a → key a = n.key) : (s.note n).Keyed key where
  seen := h.seen
  pending m hm := by
    rcases List.mem_append.mp hm with hm | hm
    · exact h.pending m hm
    · rw [List.mem_singleton.mp hm]
      exact hn
  cache k' a ha := by
    rw [show (s.note n).cache = n.apply s.cache from rfl, CacheNote.lookup_apply] at ha
    split_ifs at ha with hk
    · rw [hk]
      exact hn a (.inr ha)
    · exact h.cache k' a ha

theorem Keyed.put (h : s.Keyed key) (a : α) : (s.put (key a) a).Keyed key := by
  unfold AheadCache.put
  cases hk : s.cache.lookup (key a) with
  | none =>
    refine h.note fun b hb => ?_
    obtain hb | hb := hb
    · cases hb
    · cases hb
      rfl
  | some old =>
    refine h.note fun b hb => ?_
    obtain hb | hb := hb
    · cases hb
      exact h.cache _ _ hk
    · cases hb
      rfl

theorem Keyed.remove (h : s.Keyed key) (k : κ) : (s.remove k).Keyed key := by
  unfold AheadCache.remove
  cases hk : s.cache.lookup k with
  | none => exact h
  | some old =>
    refine h.note fun b hb => ?_
    obtain hb | hb := hb
    · cases hb
      exact h.cache _ _ hk
    · cases hb

theorem Keyed.handle (h : s.Keyed key) : s.handle.Keyed key := by
  unfold AheadCache.handle
  cases hl : s.pending with
  | nil => exact h
  | cons n l =>
    have hmem : ∀ m ∈ l, m ∈ s.pending := fun m hm => hl ▸ List.mem_cons_of_mem n hm
    refine ⟨fun k' a ha => ?_, fun m hm => h.pending m (hmem m hm), h.cache⟩
    rw [CacheNote.lookup_apply] at ha
    split_ifs at ha with hk
    · rw [hk]
      exact h.pending n (hl ▸ List.mem_cons_self) a (.inr ha)
    · exact h.seen k' a ha

/-- What is found knows its key, if the objects of the cache and of the notes do. -/
theorem key_of_find (hcache : ∀ k a, s.cache.lookup k = some a → key a = k)
    (hpending : ∀ n ∈ s.pending, ∀ a, n.old = some a ∨ n.after = some a → key a = n.key) {a : α}
    (hf : s.find k = some a) : key a = k := by
  unfold AheadCache.find at hf
  cases hc : s.cache.lookup k with
  | some b =>
    rw [hc] at hf
    cases hf
    exact hcache k _ hc
  | none =>
    rw [hc] at hf
    obtain ⟨n, hn, hg⟩ := List.exists_of_findSome?_eq_some hf
    obtain ⟨hkey, hold, -⟩ := CacheNote.gone_eq_some hg
    exact (hpending n hn a (.inl hold)).trans hkey

theorem Keyed.find (h : s.Keyed key) {a : α} (hf : s.find k = some a) : key a = k :=
  key_of_find h.cache h.pending hf

end Keyed

/-- What the next note says of its object before it. -/
theorem Inv.lookup_seen (h : s.Inv) {n : CacheNote κ α} {l : List (CacheNote κ α)}
    (hl : s.pending = n :: l) : s.seen.lookup n.key = n.old := by
  unfold AheadCache.Inv at h
  rw [hl] at h
  exact h.1

/-- When all notes are handled, the objects that they tell of are those of the cache. -/
theorem Inv.seen_eq_cache (h : s.Inv) (hl : s.pending = []) : s.seen = s.cache := by
  unfold AheadCache.Inv at h
  rw [hl] at h
  exact h

/-! ## Objects that come and go -/

/-- No note that waits is of the creation or of the deletion of the object. -/
def Quiet (s : AheadCache κ α) (k : κ) : Prop :=
  ∀ n ∈ s.pending, n.key = k → n.old ≠ none ∧ n.after ≠ none

/-- Then the object is in the cache if the handled notes have it. -/
theorem Inv.mem_cache_iff (h : s.Inv) (hq : s.Quiet k) : k ∈ s.cache ↔ k ∈ s.seen := by
  obtain ⟨w, l, cache⟩ := s
  change Fits w l cache at h
  change ∀ n ∈ l, n.key = k → n.old ≠ none ∧ n.after ≠ none at hq
  show k ∈ cache ↔ k ∈ w
  induction l generalizing w with
  | nil =>
    cases h
    exact Iff.rfl
  | cons n l ih =>
    rw [ih (n.apply w) h.2 fun m hm => hq m (List.mem_cons_of_mem n hm), ← AList.lookup_isSome,
      ← AList.lookup_isSome, CacheNote.lookup_apply]
    split_ifs with hk
    · obtain ⟨hold, hafter⟩ := hq n List.mem_cons_self hk.symm
      rw [hk, h.1]
      exact iff_of_true (Option.isSome_iff_ne_none.mpr hafter) (Option.isSome_iff_ne_none.mpr hold)
    · exact Iff.rfl

theorem quiet_note {n : CacheNote κ α} (hn : s.cache.lookup n.key = n.old)
    (hq : (s.note n).Quiet k) : s.Quiet k ∧ (k ∈ (s.note n).cache ↔ k ∈ s.cache) := by
  refine ⟨fun m hm => hq m (List.mem_append_left _ hm), ?_⟩
  show k ∈ n.apply s.cache ↔ k ∈ s.cache
  rw [← AList.lookup_isSome, ← AList.lookup_isSome, CacheNote.lookup_apply]
  split_ifs with hk
  · obtain ⟨hold, hafter⟩ := hq n (List.mem_append_right _ List.mem_cons_self) hk.symm
    rw [hk, hn]
    exact iff_of_true (Option.isSome_iff_ne_none.mpr hafter) (Option.isSome_iff_ne_none.mpr hold)
  · exact Iff.rfl

/-- An object is put and removed with a note if it was not there or was there. -/
theorem quiet_put {k' : κ} {a : α} (hq : (s.put k' a).Quiet k) :
    s.Quiet k ∧ (k ∈ (s.put k' a).cache ↔ k ∈ s.cache) := by
  unfold AheadCache.put at hq ⊢
  cases hk : s.cache.lookup k' with
  | none =>
    rw [hk] at hq
    exact quiet_note hk hq
  | some old =>
    rw [hk] at hq
    exact quiet_note hk hq

theorem quiet_remove {k' : κ} (hq : (s.remove k').Quiet k) :
    s.Quiet k ∧ (k ∈ (s.remove k').cache ↔ k ∈ s.cache) := by
  unfold AheadCache.remove at hq ⊢
  cases hk : s.cache.lookup k' with
  | none =>
    rw [hk] at hq
    exact ⟨hq, Iff.rfl⟩
  | some old =>
    rw [hk] at hq
    exact quiet_note hk hq

/-- An object that a note is of is found. -/
theorem find_of_note (h : s.Inv) {n : CacheNote κ α} (hn : n ∈ s.pending) :
    s.find n.key ≠ none := by
  rw [find_ne_none_iff h]
  obtain ⟨w, l, cache⟩ := s
  change Fits w l cache at h
  change n ∈ l at hn
  dsimp only [world]
  induction l generalizing w with
  | nil => cases hn
  | cons m l ih =>
    rw [exists_world_cons (p := fun w => n.key ∈ w)]
    rcases List.mem_cons.mp hn with rfl | hn
    · cases n with
      | new k a =>
        refine .inr ⟨0, ?_⟩
        rw [List.take_zero, List.foldl_nil, ← AList.lookup_isSome, CacheNote.lookup_apply,
          if_pos rfl]
        rfl
      | change k old new => exact .inl (Table.mem_iff_lookup.mpr ⟨old, h.1⟩)
      | del k old => exact .inl (Table.mem_iff_lookup.mpr ⟨old, h.1⟩)
    · exact .inr (ih (m.apply w) h.2 hn)

/-- Objects of this kind do not come back while their deletion waits. -/
def Final (P : κ → Prop) (s : AheadCache κ α) : Prop :=
  s.pending.Pairwise fun m n => P m.key → m.after = none → n.key ≠ m.key

section Final

variable {P : κ → Prop}

theorem lookup_cache_of_forall_ne {w : Table κ α} {l : List (CacheNote κ α)} {cache : Table κ α}
    (h : Fits w l cache) (hl : ∀ n ∈ l, n.key ≠ k) : cache.lookup k = w.lookup k := by
  induction l generalizing w with
  | nil =>
    cases h
    rfl
  | cons n l ih =>
    rw [ih h.2 fun m hm => hl m (List.mem_cons_of_mem n hm), CacheNote.lookup_apply,
      if_neg (hl n List.mem_cons_self).symm]

theorem Final.notMem_cache (h : s.Final P) (hi : s.Inv) {n : CacheNote κ α} (hn : n ∈ s.pending)
    (hP : P n.key) (hafter : n.after = none) : n.key ∉ s.cache := by
  obtain ⟨w, l, cache⟩ := s
  change Fits w l cache at hi
  change l.Pairwise _ at h
  change n ∈ l at hn
  show n.key ∉ cache
  induction l generalizing w with
  | nil => cases hn
  | cons m l ih =>
    obtain ⟨hm, hl⟩ := List.pairwise_cons.mp h
    rcases List.mem_cons.mp hn with rfl | hn
    · rw [Table.not_mem_iff_lookup,
        lookup_cache_of_forall_ne hi.2 fun m' hm' => hm m' hm' hP hafter,
        CacheNote.lookup_apply, if_pos rfl, hafter]
    · exact ih (m.apply w) hi.2 hl hn

theorem Final.note (h : s.Final P) {n : CacheNote κ α}
    (hn : ∀ m ∈ s.pending, P m.key → m.after = none → n.key ≠ m.key) : (s.note n).Final P := by
  refine List.pairwise_append.mpr ⟨h, List.pairwise_singleton _ _, fun m hm n' hn' => ?_⟩
  rw [List.mem_singleton.mp hn']
  exact hn m hm

theorem Final.put (h : s.Final P) {a : α}
    (hk : P k → ∀ m ∈ s.pending, m.key = k → m.after ≠ none) : (s.put k a).Final P := by
  have hne : ∀ m ∈ s.pending, P m.key → m.after = none → k ≠ m.key := by
    rintro m hm hP hafter rfl
    exact hk hP m hm rfl hafter
  unfold AheadCache.put
  split <;> exact h.note hne

theorem Final.remove (h : s.Final P) (hi : s.Inv) (k : κ) : (s.remove k).Final P := by
  unfold AheadCache.remove
  split
  · exact h
  · next old hk =>
    refine h.note fun m hm hP hafter hkey => h.notMem_cache hi hm hP hafter ?_
    exact Table.mem_iff_lookup.mpr ⟨old, hkey ▸ hk⟩

theorem Final.handle (h : s.Final P) : s.handle.Final P := by
  unfold AheadCache.handle
  split
  · exact h
  · next n l hl =>
    unfold Final at h
    rw [hl] at h
    exact (List.pairwise_cons.mp h).2

/-- When its deletion is handled, the object is not found any more. -/
theorem Final.find_handle (h : s.Final P) (hi : s.Inv) {n : CacheNote κ α}
    {l : List (CacheNote κ α)} (hl : s.pending = n :: l) (hP : P n.key) (hafter : n.after = none) :
    s.handle.find n.key = none := by
  have hmem : n ∈ s.pending := hl ▸ List.mem_cons_self
  by_contra hfind
  rcases find_ne_none_iff_or.mp hfind with hc | ⟨a, ha⟩
  · rw [cache_handle] at hc
    exact h.notMem_cache hi hmem hP hafter hc
  · unfold Final at h
    rw [hl] at h
    have hin : CacheNote.del n.key a ∈ l := by
      unfold AheadCache.handle at ha
      rwa [hl] at ha
    exact (List.pairwise_cons.mp h).1 _ hin hP hafter rfl

end Final

/-! ## Objects that hang on others -/

section Parents

variable (parents : α → List κ)

/-- All objects have those that they hang on. -/
def Closed (w : Table κ α) : Prop := ∀ k a, w.lookup k = some a → ∀ p ∈ parents a, p ∈ w

/-- What happens: an object comes or changes while those that it hangs on are there, it goes while
nothing hangs on it, a note is handled. -/
inductive Ev (κ α : Type) where
  | put (k : κ) (a : α)
  | remove (k : κ)
  | handle

/-- The owner of the cache keeps it closed under `parents`. -/
def Allowed (s : AheadCache κ α) : Ev κ α → Prop
  | .put k a => ∀ p ∈ parents a, p ∈ s.cache ∧ p ≠ k
  | .remove k => ∀ k' a, s.cache.lookup k' = some a → k ∉ parents a
  | .handle => True

/-- The cache after an event. -/
def step (s : AheadCache κ α) : Ev κ α → AheadCache κ α
  | .put k a => s.put k a
  | .remove k => s.remove k
  | .handle => s.handle

/-- Every world is closed, and no note is of an object that what it was or is hangs on. -/
def Nested : Table κ α → List (CacheNote κ α) → Prop
  | w, [] => Closed parents w
  | w, n :: l => Closed parents w ∧
    (∀ a, n.old = some a ∨ n.after = some a → ∀ p ∈ parents a, p ∈ n.apply w) ∧
      Nested (n.apply w) l

variable {parents}

theorem Nested.closed {w : Table κ α} {l : List (CacheNote κ α)} (h : Nested parents w l) :
    Closed parents w := by
  cases l with
  | nil => exact h
  | cons n l => exact h.1

theorem nested_concat {w : Table κ α} {l : List (CacheNote κ α)} (h : Nested parents w l)
    {cache : Table κ α} (hfits : Fits w l cache) {n : CacheNote κ α}
    (hobjs : ∀ a, n.old = some a ∨ n.after = some a → ∀ p ∈ parents a, p ∈ n.apply cache)
    (hclosed : Closed parents (n.apply cache)) : Nested parents w (l ++ [n]) := by
  induction l generalizing w with
  | nil =>
    cases hfits
    exact ⟨h, hobjs, hclosed⟩
  | cons m l ih => exact ⟨h.1, h.2.1, ih h.2.2 hfits.2⟩

/-- The last world is the cache. -/
theorem Nested.cache {w : Table κ α} {l : List (CacheNote κ α)} (h : Nested parents w l)
    {cache : Table κ α} (hfits : Fits w l cache) : Closed parents cache := by
  induction l generalizing w with
  | nil =>
    cases hfits
    exact h
  | cons m l ih => exact ih h.2.2 hfits.2

theorem mem_apply_of_ne {w : Table κ α} {n : CacheNote κ α} {p : κ} (hp : p ∈ w)
    (hne : p ≠ n.key ∨ n.after ≠ none) : p ∈ n.apply w := by
  rw [← AList.lookup_isSome, CacheNote.lookup_apply]
  split_ifs with he
  · exact Option.isSome_iff_ne_none.mpr (hne.resolve_left fun h => h he)
  · exact AList.lookup_isSome.mpr hp

/-- A note of an object that is put. -/
theorem Nested.put (h : Nested parents s.seen s.pending) (hi : s.Inv) {a : α} {n : CacheNote κ α}
    (hn : n.after = some a) (hold : s.cache.lookup n.key = n.old)
    (hallowed : ∀ p ∈ parents a, p ∈ s.cache ∧ p ≠ n.key) :
    Nested parents s.seen (s.pending ++ [n]) := by
  have hcache : Closed parents s.cache := h.cache hi
  have hkeep : ∀ p ∈ s.cache, p ∈ n.apply s.cache := by
    intro p hp
    exact mem_apply_of_ne hp (.inr (by rw [hn]; exact Option.some_ne_none a))
  refine nested_concat h hi (fun b hb p hp => ?_) fun k b hb p hp => ?_
  · rcases hb with hb | hb
    · exact hkeep p (hcache n.key b (hold.trans hb) p hp)
    · rw [hn] at hb
      cases hb
      exact hkeep p (hallowed p hp).1
  · rw [CacheNote.lookup_apply] at hb
    split_ifs at hb with hk
    · rw [hn] at hb
      cases hb
      exact hkeep p (hallowed p hp).1
    · exact hkeep p (hcache k b hb p hp)

theorem Nested.remove (h : Nested parents s.seen s.pending) (hi : s.Inv) {k : κ} {a : α}
    (hk : s.cache.lookup k = some a)
    (hallowed : ∀ k' b, s.cache.lookup k' = some b → k ∉ parents b) :
    Nested parents s.seen (s.pending ++ [.del k a]) := by
  have hcache : Closed parents s.cache := h.cache hi
  have hkeep : ∀ k' b, s.cache.lookup k' = some b → ∀ p ∈ parents b,
      p ∈ (CacheNote.del k a).apply s.cache := by
    intro k' b hb p hp
    refine mem_apply_of_ne (hcache k' b hb p hp) (.inl ?_)
    rintro rfl
    exact hallowed k' b hb hp
  refine nested_concat h hi (fun b hb => ?_) fun k' b hb => ?_
  · rcases hb with hb | hb
    · cases hb
      exact hkeep k a hk
    · cases hb
  · rw [CacheNote.lookup_apply] at hb
    split_ifs at hb with he
    · cases hb
    · exact hkeep k' b hb

theorem nested_step (h : Nested parents s.seen s.pending) (hi : s.Inv) {e : Ev κ α}
    (he : Allowed parents s e) :
    (s.step e).Inv ∧ Nested parents (s.step e).seen (s.step e).pending := by
  cases e with
  | put k a =>
    refine ⟨hi.put k a, ?_⟩
    simp only [step, AheadCache.put]
    cases hk : s.cache.lookup k with
    | none => exact h.put hi rfl hk he
    | some old => exact h.put hi rfl hk he
  | remove k =>
    refine ⟨hi.remove k, ?_⟩
    simp only [step, AheadCache.remove]
    cases hk : s.cache.lookup k with
    | none => exact h
    | some old => exact h.remove hi hk he
  | handle =>
    refine ⟨hi.handle, ?_⟩
    simp only [step, AheadCache.handle]
    cases hl : s.pending with
    | nil =>
      rw [hl] at h
      simpa [hl] using h
    | cons n l =>
      rw [hl] at h
      exact h.2.2

/-- Every world is closed. -/
theorem Nested.world (h : Nested parents s.seen s.pending) (n : Nat) :
    Closed parents (s.world n) := by
  unfold AheadCache.world
  generalize s.seen = w at h
  generalize s.pending = l at h
  induction l generalizing w n with
  | nil =>
    rw [List.take_nil]
    exact h
  | cons m l ih =>
    cases n with
    | zero => exact h.1
    | succ n => exact ih n (m.apply w) h.2.2

/-- With an object that is found, what it hangs on is found. -/
theorem find_parents_of_find (h : Nested parents s.seen s.pending) (hi : s.Inv) {a : α}
    (hf : s.find k = some a) {p : κ} (hp : p ∈ parents a) : s.find p ≠ none := by
  obtain ⟨n, hn⟩ := find_eq_some hi hf
  exact (find_ne_none_iff hi).mpr ⟨n, h.world n k a hn p hp⟩

/-- Whoever handles a note finds what its object hung on or hangs on. -/
theorem find_parents (h : Nested parents s.seen s.pending) (hi : s.Inv) {n : CacheNote κ α}
    {l : List (CacheNote κ α)} (hl : s.pending = n :: l) {a : α}
    (ha : n.old = some a ∨ n.after = some a) {p : κ} (hp : p ∈ parents a) :
    s.handle.find p ≠ none := by
  rw [hl] at h
  refine (find_ne_none_iff hi.handle).mpr ⟨0, ?_⟩
  have hseen : s.handle.seen = n.apply s.seen := by
    unfold handle
    rw [hl]
  rw [world, List.take_zero, List.foldl_nil, hseen]
  exact h.2.1 a ha p hp

/-- A deletion that is handled finds its own object only if it came again. -/
theorem find_deleted (hi : s.Inv) {k : κ} {old : α} {l : List (CacheNote κ α)}
    (hl : s.pending = .del k old :: l) :
    s.handle.find k ≠ none ↔ ∃ n, k ∈ s.handle.world (n + 1) := by
  rw [find_ne_none_iff hi.handle]
  refine ⟨?_, fun ⟨n, hn⟩ => ⟨n + 1, hn⟩⟩
  rintro ⟨_ | n, hn⟩
  · have hseen : s.handle.seen = (CacheNote.del k old).apply s.seen := by
      unfold handle
      rw [hl]
    rw [world, List.take_zero, List.foldl_nil, hseen, ← AList.lookup_isSome,
      CacheNote.lookup_apply] at hn
    simp [CacheNote.key, CacheNote.after] at hn
  · exact ⟨n, hn⟩

end Parents

end AheadCache

end Basebox
