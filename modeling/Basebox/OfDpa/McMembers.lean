import Basebox.OfDpa.Multicast

/-!
# Who is in a multicast group (`mc_groups`, `src/of-dpa/controller.cc`)

What the four operations are for: a port joins and leaves a group in a VLAN, and while its VLAN
is away from the port it stays a member but is disabled.

* `WellFormed`: an entry for each group and VLAN, each port enabled or disabled in it, and at
  least one of them.
* `Updates`: what a call does to the entry of a group and VLAN, and that it does nothing to the
  others. `updates_join` and `updates_leave` are all that is used of the two calls below.
* `refines_run`: after every run, the entries are exactly the memberships that the history of the
  calls gives.
-/

namespace Basebox

/-- No port is both enabled and disabled, and there is a port. -/
structure McEntry.Proper (e : McEntry) : Prop where
  disjoint : Disjoint e.l2Interface e.disabledL2Interface
  nonempty : e.l2Interface ≠ ∅ ∨ e.disabledL2Interface ≠ ∅

namespace McGroups

/-- The interface group `g` is enabled in the entry of `k`. -/
def Enabled (s : McGroups) (k : Mac × Nat) (g : Nat) : Prop :=
  ∃ e ∈ s, e.key = k ∧ g ∈ e.l2Interface

/-- The interface group `g` is disabled in the entry of `k`. -/
def Disabled (s : McGroups) (k : Mac × Nat) (g : Nat) : Prop :=
  ∃ e ∈ s, e.key = k ∧ g ∈ e.disabledL2Interface

/-- At most one entry for a group and VLAN, all of them proper. -/
structure WellFormed (s : McGroups) : Prop where
  nodup : (s.map McEntry.key).Nodup
  proper : ∀ e ∈ s, McEntry.Proper e

/-- `s'` is `s` but for the entry of `k`, where `on` are enabled and `off` disabled. -/
structure Updates (s s' : McGroups) (k : Mac × Nat) (on off : Nat → Prop) : Prop where
  wf : WellFormed s'
  frame : ∀ e : McEntry, e.key ≠ k → (e ∈ s' ↔ e ∈ s)
  enabled : ∀ g, Enabled s' k g ↔ on g
  disabled : ∀ g, Disabled s' k g ↔ off g

section Entries

variable {s s' : McGroups} {k : Mac × Nat} {e e' : McEntry} {on off on' off' : Nat → Prop}

theorem Updates.congr (h : Updates s s' k on off) (hon : ∀ g, on g ↔ on' g)
    (hoff : ∀ g, off g ↔ off' g) : Updates s s' k on' off' :=
  ⟨h.wf, h.frame, fun g => (h.enabled g).trans (hon g), fun g => (h.disabled g).trans (hoff g)⟩

theorem Updates.enabled_of_ne (h : Updates s s' k on off) {k' : Mac × Nat} (hk : k' ≠ k) (g : Nat) :
    Enabled s' k' g ↔ Enabled s k' g := by
  constructor
  · rintro ⟨e, he, rfl, hg⟩
    exact ⟨e, (h.frame e hk).mp he, rfl, hg⟩
  · rintro ⟨e, he, rfl, hg⟩
    exact ⟨e, (h.frame e hk).mpr he, rfl, hg⟩

theorem Updates.disabled_of_ne (h : Updates s s' k on off) {k' : Mac × Nat} (hk : k' ≠ k)
    (g : Nat) : Disabled s' k' g ↔ Disabled s k' g := by
  constructor
  · rintro ⟨e, he, rfl, hg⟩
    exact ⟨e, (h.frame e hk).mp he, rfl, hg⟩
  · rintro ⟨e, he, rfl, hg⟩
    exact ⟨e, (h.frame e hk).mpr he, rfl, hg⟩

/-- What is enabled after an update: at the key as it says, elsewhere as before. -/
theorem Updates.enabled_iff (h : Updates s s' k on off) {P : Mac × Nat → Nat → Prop}
    (hkey : ∀ g, on g ↔ P k g) (hne : ∀ k' ≠ k, ∀ g, Enabled s k' g ↔ P k' g) :
    ∀ k' g, Enabled s' k' g ↔ P k' g := by
  intro k' g
  by_cases hk : k' = k
  · subst hk
    exact (h.enabled g).trans (hkey g)
  · exact (h.enabled_of_ne hk g).trans (hne k' hk g)

theorem Updates.disabled_iff (h : Updates s s' k on off) {P : Mac × Nat → Nat → Prop}
    (hkey : ∀ g, off g ↔ P k g) (hne : ∀ k' ≠ k, ∀ g, Disabled s k' g ↔ P k' g) :
    ∀ k' g, Disabled s' k' g ↔ P k' g := by
  intro k' g
  by_cases hk : k' = k
  · subst hk
    exact (h.disabled g).trans (hkey g)
  · exact (h.disabled_of_ne hk g).trans (hne k' hk g)

theorem WellFormed.eq_of_key (h : WellFormed s) (he : e ∈ s) (he' : e' ∈ s) (hk : e'.key = e.key) :
    e' = e := List.inj_on_of_nodup_map h.nodup he' he hk

/-- With one entry for a key, what is enabled is what this entry says. -/
theorem WellFormed.enabled_iff (h : WellFormed s) (he : e ∈ s) (hk : e.key = k) (g : Nat) :
    Enabled s k g ↔ g ∈ e.l2Interface := by
  constructor
  · rintro ⟨e', he', hk', hg⟩
    rwa [← h.eq_of_key he he' (hk'.trans hk.symm)]
  · exact fun hg => ⟨e, he, hk, hg⟩

theorem WellFormed.disabled_iff (h : WellFormed s) (he : e ∈ s) (hk : e.key = k) (g : Nat) :
    Disabled s k g ↔ g ∈ e.disabledL2Interface := by
  constructor
  · rintro ⟨e', he', hk', hg⟩
    rwa [← h.eq_of_key he he' (hk'.trans hk.symm)]
  · exact fun hg => ⟨e, he, hk, hg⟩

/-- There is an entry exactly if a port is enabled or disabled in it. -/
theorem WellFormed.exists_iff (h : WellFormed s) (k : Mac × Nat) :
    (∃ e ∈ s, e.key = k) ↔ ∃ g, Enabled s k g ∨ Disabled s k g := by
  constructor
  · rintro ⟨e, he, hk⟩
    rcases (h.proper e he).nonempty with hne | hne
    · obtain ⟨g, hg⟩ := Finset.nonempty_iff_ne_empty.mpr hne
      exact ⟨g, .inl ⟨e, he, hk, hg⟩⟩
    · obtain ⟨g, hg⟩ := Finset.nonempty_iff_ne_empty.mpr hne
      exact ⟨g, .inr ⟨e, he, hk, hg⟩⟩
  · rintro ⟨g, ⟨e, he, hk, -⟩ | ⟨e, he, hk, -⟩⟩ <;> exact ⟨e, he, hk⟩

/-! ## The updates of the list -/

theorem Updates.same (h : WellFormed s) (k : Mac × Nat) :
    Updates s s k (Enabled s k) (Disabled s k) :=
  ⟨h, fun _ _ => Iff.rfl, fun _ => Iff.rfl, fun _ => Iff.rfl⟩

variable {mac : Mac} {vid : Nat}

theorem find?_hasKey_eq_some (hf : s.find? (hasKey mac vid) = some e) :
    e ∈ s ∧ e.key = (mac, vid) := by
  have hk : hasKey mac vid e = true := List.find?_some hf
  exact ⟨List.mem_of_find?_eq_some hf, beq_iff_eq.mp hk⟩

/-- The entry that a search found is replaced by `e'`. -/
theorem Updates.modify (h : WellFormed s) (hf : s.find? (hasKey mac vid) = some e) (e' : McEntry)
    (hk : e'.key = (mac, vid)) (hp : McEntry.Proper e') :
    Updates s (modifyFirst (hasKey mac vid) (fun _ => e') s) (mac, vid)
      (· ∈ e'.l2Interface) (· ∈ e'.disabledL2Interface) := by
  obtain ⟨he, hek⟩ := find?_hasKey_eq_some hf
  have hmem : ∀ b, b ∈ modifyFirst (hasKey mac vid) (fun _ => e') s ↔
      b = e' ∨ b ∈ s ∧ b.key ≠ (mac, vid) :=
    fun b => mem_modifyFirst_of_nodup h.nodup he hek
  have hwf : WellFormed (modifyFirst (hasKey mac vid) (fun _ => e') s) := by
    refine ⟨by rw [map_modifyFirst_of_find? hf (hk.trans hek.symm)]; exact h.nodup, fun b hb => ?_⟩
    rcases (hmem b).mp hb with rfl | ⟨hb, -⟩
    · exact hp
    · exact h.proper b hb
  have he' := (hmem e').mpr (.inl rfl)
  refine ⟨hwf, fun b hb => ?_, hwf.enabled_iff he' hk, hwf.disabled_iff he' hk⟩
  rw [hmem]
  constructor
  · rintro (rfl | ⟨hb', -⟩)
    · exact absurd hk hb
    · exact hb'
  · exact fun hb' => .inr ⟨hb', hb⟩

theorem Updates.erase (h : WellFormed s) :
    Updates s (s.eraseP (hasKey mac vid)) (mac, vid) (fun _ => False) (fun _ => False) := by
  have hmem : ∀ b, b ∈ s.eraseP (hasKey mac vid) ↔ b ∈ s ∧ b.key ≠ (mac, vid) :=
    fun b => mem_eraseP_of_nodup h.nodup
  refine ⟨⟨h.nodup.sublist (List.eraseP_sublist.map _), fun b hb => h.proper b ((hmem b).mp hb).1⟩,
    fun b hb => ?_, fun g => iff_of_false ?_ id, fun g => iff_of_false ?_ id⟩
  · rw [hmem]
    exact and_iff_left hb
  · rintro ⟨b, hb, hk, -⟩
    exact ((hmem b).mp hb).2 hk
  · rintro ⟨b, hb, hk, -⟩
    exact ((hmem b).mp hb).2 hk

/-- The entry that a search found is dropped if it would have no port, else replaced by `e'`. -/
theorem Updates.modify_or_erase (h : WellFormed s) (hf : s.find? (hasKey mac vid) = some e)
    (e' : McEntry) (hk : e'.key = (mac, vid)) (hd : Disjoint e'.l2Interface e'.disabledL2Interface)
    (hs : e'.l2Interface = ∅ ∧ e'.disabledL2Interface = ∅ ∧ s' = s.eraseP (hasKey mac vid) ∨
      (e'.l2Interface ≠ ∅ ∨ e'.disabledL2Interface ≠ ∅) ∧
        s' = modifyFirst (hasKey mac vid) (fun _ => e') s) :
    Updates s s' (mac, vid) (· ∈ e'.l2Interface) (· ∈ e'.disabledL2Interface) := by
  rcases hs with ⟨hon, hoff, rfl⟩ | ⟨hne, rfl⟩
  · exact (Updates.erase h).congr (fun g => by simp [hon]) (fun g => by simp [hoff])
  · exact Updates.modify h hf e' hk ⟨hd, hne⟩

/-- An entry for a group that is not in the list is appended. -/
theorem Updates.append (h : WellFormed s) (hf : s.find? (hasKey mac vid) = none)
    (hk : e'.key = (mac, vid)) (hp : McEntry.Proper e') :
    Updates s (s ++ [e']) (mac, vid) (· ∈ e'.l2Interface) (· ∈ e'.disabledL2Interface) := by
  have hnew : ∀ b ∈ s, b.key ≠ (mac, vid) := fun b hb => by
    simpa [hasKey] using List.find?_eq_none.mp hf b hb
  have hwf : WellFormed (s ++ [e']) := by
    constructor
    · rw [List.map_append, List.map_singleton, ← List.concat_eq_append, List.nodup_concat, hk]
      refine ⟨fun hmem => ?_, h.nodup⟩
      obtain ⟨b, hb, hbk⟩ := List.mem_map.mp hmem
      exact hnew b hb hbk
    · intro b hb
      rcases List.mem_append.mp hb with hb | hb
      · exact h.proper b hb
      · exact List.mem_singleton.mp hb ▸ hp
  have he' : e' ∈ s ++ [e'] := List.mem_append_right s List.mem_cons_self
  refine ⟨hwf, fun b hb => ?_, hwf.enabled_iff he' hk, hwf.disabled_iff he' hk⟩
  rw [List.mem_append, List.mem_singleton]
  exact or_iff_left fun hbe => hb (hbe ▸ hk)

end Entries

/-! ## The single operations -/

section Calls

variable {fm : FmDriver} {s : McGroups} {port vid : Nat} {mac : Mac}

theorem not_enabled_of_find? (hf : s.find? (hasKey mac vid) = none) (g : Nat) :
    ¬ Enabled s (mac, vid) g := by
  rintro ⟨e, he, hk, -⟩
  have := List.find?_eq_none.mp hf e he
  simp [hasKey, hk] at this

theorem not_disabled_of_find? (hf : s.find? (hasKey mac vid) = none) (g : Nat) :
    ¬ Disabled s (mac, vid) g := by
  rintro ⟨e, he, hk, -⟩
  have := List.find?_eq_none.mp hf e he
  simp [hasKey, hk] at this

/-- A join enables the port. -/
theorem updates_join (h : WellFormed s) :
    Updates s (join fm s port vid mac).1 (mac, vid)
      (fun g => g = fm.interfaceGroup port vid ∨ Enabled s (mac, vid) g)
      (fun g => g ≠ fm.interfaceGroup port vid ∧ Disabled s (mac, vid) g) := by
  unfold join
  cases hf : s.find? (hasKey mac vid) with
  | some e =>
    obtain ⟨he, hk⟩ := find?_hasKey_eq_some hf
    have hon := h.enabled_iff he hk
    have hoff := h.disabled_iff he hk
    have hdis := (h.proper e he).disjoint
    refine (Updates.modify h hf { e with
      l2Interface := insert (fm.interfaceGroup port vid) e.l2Interface
      disabledL2Interface := e.disabledL2Interface.erase (fm.interfaceGroup port vid) } hk
      ⟨Finset.disjoint_insert_left.mpr ⟨Finset.notMem_erase _ _, ?_⟩,
        .inl (Finset.insert_ne_empty _ _)⟩).congr (fun g => ?_) (fun g => ?_)
    · exact hdis.mono_right (Finset.erase_subset _ _)
    · rw [Finset.mem_insert, hon]
    · rw [Finset.mem_erase, hoff]
  | none =>
    have hon := not_enabled_of_find? hf
    have hoff := not_disabled_of_find? hf
    refine (Updates.append h hf rfl ⟨Finset.disjoint_empty_right _,
      .inl (Finset.singleton_ne_empty _)⟩).congr (fun g => ?_) (fun g => ?_)
    · rw [Finset.mem_singleton, or_iff_left (hon g)]
    · exact iff_of_false (Finset.notMem_empty g) fun hg => hoff g hg.2

/-- A leave of a port that is enabled in the entry `e`. -/
theorem updates_leave_of_mem {e : McEntry} (h : WellFormed s)
    (hf : s.find? (hasKey mac vid) = some e) (hin : fm.interfaceGroup port vid ∈ e.l2Interface)
    (disableOnly : Bool) :
    Updates s (leave fm s port vid mac disableOnly).1 (mac, vid)
      (· ∈ e.l2Interface.erase (fm.interfaceGroup port vid))
      (· ∈ if disableOnly then insert (fm.interfaceGroup port vid) e.disabledL2Interface
        else e.disabledL2Interface) := by
  obtain ⟨he, hk⟩ := find?_hasKey_eq_some hf
  have hdis := (h.proper e he).disjoint
  unfold leave
  simp only [hf, hin, not_true_eq_false, if_false]
  generalize fm.interfaceGroup port vid = group at hin ⊢
  have hdis' : Disjoint (e.l2Interface.erase group)
      (if disableOnly then insert group e.disabledL2Interface else e.disabledL2Interface) := by
    have hsub := hdis.mono_left (Finset.erase_subset group _)
    cases disableOnly
    · exact hsub
    · exact Finset.disjoint_insert_right.mpr ⟨Finset.notMem_erase _ _, hsub⟩
  generalize (if disableOnly then insert group e.disabledL2Interface
    else e.disabledL2Interface) = disabled at hdis' ⊢
  refine Updates.modify_or_erase h hf { e with
    l2Interface := e.l2Interface.erase group, disabledL2Interface := disabled } hk hdis' ?_
  dsimp only
  by_cases hon : e.l2Interface.erase group = ∅
  · by_cases hoff : disabled = ∅
    · exact .inl ⟨hon, hoff, by simp [hon, hoff]⟩
    · exact .inr ⟨.inr hoff, by simp [hon, hoff]⟩
  · exact .inr ⟨.inl hon, by simp [hon]⟩

/-- A leave of a port that is not enabled in the entry `e`: only a full leave of a disabled port
does something. -/
theorem updates_leave_of_not_mem {e : McEntry} (h : WellFormed s)
    (hf : s.find? (hasKey mac vid) = some e) (hin : fm.interfaceGroup port vid ∉ e.l2Interface)
    (disableOnly : Bool) :
    Updates s (leave fm s port vid mac disableOnly).1 (mac, vid) (· ∈ e.l2Interface)
      (· ∈ if disableOnly then e.disabledL2Interface
        else e.disabledL2Interface.erase (fm.interfaceGroup port vid)) := by
  obtain ⟨he, hk⟩ := find?_hasKey_eq_some hf
  have hdis := (h.proper e he).disjoint
  have hsame : Updates s s (mac, vid) (· ∈ e.l2Interface) (· ∈ e.disabledL2Interface) :=
    (Updates.same h _).congr (h.enabled_iff he hk) (h.disabled_iff he hk)
  unfold leave
  simp only [hf, hin, not_false_eq_true, if_true]
  generalize fm.interfaceGroup port vid = group at hin ⊢
  cases disableOnly with
  | true => exact hsame
  | false =>
    simp only [Bool.false_eq_true, if_false]
    by_cases hdin : group ∈ e.disabledL2Interface
    · rw [if_neg (not_not.mpr hdin)]
      refine Updates.modify_or_erase h hf { e with
        disabledL2Interface := e.disabledL2Interface.erase group } hk
        (hdis.mono_right (Finset.erase_subset _ _)) ?_
      by_cases hemp : e.l2Interface = ∅ ∧ e.disabledL2Interface.erase group = ∅
      · exact .inl ⟨hemp.1, hemp.2, by simp [hemp]⟩
      · exact .inr ⟨not_and_or.mp hemp, by simp [hemp]⟩
    · rw [if_pos hdin, Finset.erase_eq_of_notMem hdin]
      exact hsame

/-- A leave takes the port out of the group, or, to only disable it, from the enabled ports to
the disabled ones. -/
theorem updates_leave (h : WellFormed s) (disableOnly : Bool) :
    Updates s (leave fm s port vid mac disableOnly).1 (mac, vid)
      (fun g => Enabled s (mac, vid) g ∧ g ≠ fm.interfaceGroup port vid)
      (fun g => if disableOnly then
          Disabled s (mac, vid) g ∨ Enabled s (mac, vid) g ∧ g = fm.interfaceGroup port vid
        else Disabled s (mac, vid) g ∧ g ≠ fm.interfaceGroup port vid) := by
  cases hf : s.find? (hasKey mac vid) with
  | none =>
    have hon := not_enabled_of_find? hf
    have hoff := not_disabled_of_find? hf
    have hsame : (leave fm s port vid mac disableOnly).1 = s := by simp only [leave, hf]
    rw [hsame]
    refine (Updates.same h _).congr (fun g => ?_) (fun g => ?_)
    · simp only [hon, false_and]
    · cases disableOnly <;> simp [hon, hoff]
  | some e =>
    obtain ⟨he, hk⟩ := find?_hasKey_eq_some hf
    have hdis := Finset.disjoint_left.mp (h.proper e he).disjoint
    simp only [h.enabled_iff he hk, h.disabled_iff he hk]
    by_cases hin : fm.interfaceGroup port vid ∈ e.l2Interface
    · refine (updates_leave_of_mem h hf hin disableOnly).congr (fun g => ?_) (fun g => ?_)
      · rw [Finset.mem_erase, and_comm]
      · have hg : g = fm.interfaceGroup port vid → g ∈ e.l2Interface := fun h => h ▸ hin
        have hng := @hdis g
        cases disableOnly <;> simp only [Bool.false_eq_true, if_true, if_false, Finset.mem_insert] <;>
          tauto
    · have hg : ∀ g, g = fm.interfaceGroup port vid → g ∉ e.l2Interface := fun g h => h ▸ hin
      refine (updates_leave_of_not_mem h hf hin disableOnly).congr (fun g => ?_) (fun g => ?_)
      · have := hg g
        tauto
      · have := hg g
        cases disableOnly <;> simp only [Bool.false_eq_true, if_true, if_false, Finset.mem_erase] <;>
          tauto

/-- To only disable a port never drops an entry. -/
theorem keys_leave_disableOnly :
    (leave fm s port vid mac true).1.map McEntry.key = s.map McEntry.key := by
  unfold leave
  cases hf : s.find? (hasKey mac vid) with
  | none => rfl
  | some e =>
    by_cases hin : fm.interfaceGroup port vid ∈ e.l2Interface
    · -- The port is now among the disabled ones, so these are not empty.
      simp only [hin, not_true_eq_false, if_false, if_true, Finset.insert_ne_empty]
      split <;> exact map_modifyFirst_of_find? hf rfl
    · simp only [hin, not_false_eq_true, if_true]

theorem keys_join_of_mem {e : McEntry} (he : e ∈ s) (hv : e.vid = vid) :
    (join fm s port vid e.key.1).1.map McEntry.key = s.map McEntry.key := by
  obtain ⟨e', hf⟩ := find?_hasKey_of_mem he hv
  unfold join
  simp only [hf]
  exact map_modifyFirst_of_find? hf rfl

theorem mem_keys_join {k : Mac × Nat}
    (hk : k ∈ (join fm s port vid mac).1.map McEntry.key) :
    k = (mac, vid) ∨ k ∈ s.map McEntry.key := by
  cases hf : s.find? (hasKey mac vid) with
  | none =>
    rw [join_of_none hf, List.map_append, List.mem_append] at hk
    exact hk.symm.imp_left List.mem_singleton.mp
  | some e =>
    unfold join at hk
    simp only [hf] at hk
    rw [map_modifyFirst_of_find? hf (by rfl)] at hk
    exact .inr hk

end Calls

/-! ## The operations on all groups of a VLAN -/

/-- The interface group `group` goes from `A` to `B` in the entries of the keys with `P`. -/
structure Moves (A B : McGroups → Mac × Nat → Nat → Prop) (P : Mac × Nat → Prop) (group : Nat)
    (s s' : McGroups) : Prop where
  wf : WellFormed s'
  keys : s'.map McEntry.key = s.map McEntry.key
  source : ∀ k g, A s' k g ↔ A s k g ∧ ¬ (P k ∧ g = group)
  target : ∀ k g, B s' k g ↔ B s k g ∨ A s k g ∧ P k ∧ g = group

section Bulk

variable {A B : McGroups → Mac × Nat → Nat → Prop} {P Q : Mac × Nat → Prop} {group : Nat}
  {s s' s'' : McGroups}

theorem Moves.refl (h : WellFormed s) (hP : ∀ k, A s k group → ¬ P k) : Moves A B P group s s := by
  refine ⟨h, rfl, fun k g => ?_, fun k g => ?_⟩
  · refine ⟨fun hA => ⟨hA, ?_⟩, And.left⟩
    rintro ⟨hk, rfl⟩
    exact hP k hA hk
  · refine ⟨.inl, ?_⟩
    rintro (hB | ⟨hA, hk, rfl⟩)
    · exact hB
    · exact absurd hk (hP k hA)

theorem Moves.trans (h : Moves A B P group s s') (h' : Moves A B Q group s' s'') :
    Moves A B (fun k => P k ∨ Q k) group s s'' := by
  refine ⟨h'.wf, h'.keys.trans h.keys, fun k g => ?_, fun k g => ?_⟩
  · rw [h'.source, h.source]
    tauto
  · rw [h'.target, h.target, h.source]
    tauto

theorem Moves.congr (h : Moves A B P group s s') (hPQ : ∀ k, P k ↔ Q k) : Moves A B Q group s s' := by
  obtain rfl : P = Q := funext fun k => propext (hPQ k)
  exact h

/-- A loop over the entries whose body moves the group in the entry it stands on moves it in all
entries of the VLAN. -/
theorem Moves.walk {f : McGroups → McEntry → McGroups} {vid : Nat}
    (hkeys : ∀ t, ∀ e ∈ t, (f t e).map McEntry.key = t.map McEntry.key)
    (hf : ∀ t, ∀ e ∈ t, WellFormed t → Moves A B (fun k => k = e.key ∧ k.2 = vid) group t (f t e))
    (hA : ∀ k, A s k group → ∃ e ∈ s, e.key = k) (h : WellFormed s) :
    Moves A B (fun k => k.2 = vid) group s (walk f s.length 0 s) := by
  have hall : Moves A B (fun k => k ∈ s.map McEntry.key ∧ k.2 = vid) group s
      (Basebox.walk f s.length 0 s) := by
    refine walk_rule (R := fun done t => Moves A B (fun k => k ∈ done ∧ k.2 = vid) group s t)
      hkeys (fun done t e ht _ he => ?_) rfl (by omega) (Moves.refl h (by simp))
    refine (ht.trans (hf t e he ht.wf)).congr fun k => ?_
    rw [List.mem_append, List.mem_singleton]
    tauto
  have hmem : ∀ k, A s k group → k ∈ s.map McEntry.key := fun k hk => by
    obtain ⟨e, he, hek⟩ := hA k hk
    exact List.mem_map.mpr ⟨e, he, hek⟩
  refine ⟨hall.wf, hall.keys, fun k g => ?_, fun k g => ?_⟩
  · rw [hall.source]
    have := hmem k
    constructor
    · rintro ⟨hg, hn⟩
      refine ⟨hg, fun hv => hn ⟨⟨this (hv.2 ▸ hg), hv.1⟩, hv.2⟩⟩
    · rintro ⟨hg, hn⟩
      exact ⟨hg, fun hv => hn ⟨hv.1.2, hv.2⟩⟩
  · rw [hall.target]
    refine or_congr_right ⟨fun hg => ⟨hg.1, hg.2.1.2, hg.2.2⟩, fun hg => ⟨hg.1, ⟨?_, hg.2.1⟩, hg.2.2⟩⟩
    exact hmem k (hg.2.2 ▸ hg.1)

variable {fm : FmDriver} {port vid : Nat}

/-- To only disable a port moves it in the entry of the group. -/
theorem moves_leave (h : WellFormed s) (mac : Mac) :
    Moves Enabled Disabled (· = (mac, vid)) (fm.interfaceGroup port vid) s
      (leave fm s port vid mac true).1 := by
  have hup : Updates s (leave fm s port vid mac true).1 (mac, vid) _ _ := updates_leave h true
  refine ⟨hup.wf, keys_leave_disableOnly, hup.enabled_iff (fun g => ?_) (fun k hk g => ?_),
    hup.disabled_iff (fun g => ?_) (fun k hk g => ?_)⟩
  · tauto
  · tauto
  · rw [if_pos rfl]
    tauto
  · tauto

/-- A join of a group in the list moves the port in its entry, if it was disabled there. -/
theorem moves_join {e : McEntry} (h : WellFormed s) (he : e ∈ s) (hv : e.vid = vid)
    (hoff : fm.interfaceGroup port vid ∈ e.disabledL2Interface) :
    Moves Disabled Enabled (· = e.key) (fm.interfaceGroup port vid) s
      (join fm s port vid e.key.1).1 := by
  have hek : e.key = (e.key.1, vid) := by rw [← hv]; rfl
  have hup : Updates s (join fm s port vid e.key.1).1 (e.key.1, vid) _ _ := updates_join h
  rw [← hek] at hup
  refine ⟨hup.wf, keys_join_of_mem he hv, hup.disabled_iff (fun g => ?_) (fun k hk g => ?_),
    hup.enabled_iff (fun g => ?_) (fun k hk g => ?_)⟩
  · tauto
  · tauto
  · have hg : g = fm.interfaceGroup port vid → Disabled s e.key g := fun hg =>
      ⟨e, he, rfl, hg ▸ hoff⟩
    tauto
  · tauto

/-- The body of the loop of `leave_all_in_vlan`. -/
def leaveBody (fm : FmDriver) (port vid : Nat) (s : McGroups) (e : McEntry) : McGroups :=
  if e.vid = vid ∧ fm.interfaceGroup port vid ∈ e.l2Interface then
    (leave fm s port vid e.key.1 true).1
  else s

/-- The body of the loop of `rejoin_all_in_vlan`. -/
def rejoinBody (fm : FmDriver) (port vid : Nat) (s : McGroups) (e : McEntry) : McGroups :=
  if e.vid = vid ∧ fm.interfaceGroup port vid ∈ e.disabledL2Interface then
    (join fm s port vid e.key.1).1
  else s

theorem leaveLoop_eq_walk (n i : Nat) :
    (leaveLoop fm port vid n i s).1 = walk (leaveBody fm port vid) n i s := by
  induction n generalizing i s with
  | zero => rfl
  | succ n ih =>
    unfold leaveLoop walk
    cases s[i]? with
    | none => rfl
    | some e =>
      dsimp only
      unfold leaveBody
      split
      · exact ih _
      · exact ih _

theorem rejoinLoop_eq_walk (n i : Nat) :
    (rejoinLoop fm port vid n i s).1 = walk (rejoinBody fm port vid) n i s := by
  induction n generalizing i s with
  | zero => rfl
  | succ n ih =>
    unfold rejoinLoop walk
    cases s[i]? with
    | none => rfl
    | some e =>
      dsimp only
      unfold rejoinBody
      split
      · exact ih _
      · exact ih _

theorem keys_leaveBody (e : McEntry) :
    (leaveBody fm port vid s e).map McEntry.key = s.map McEntry.key := by
  unfold leaveBody
  split
  · exact keys_leave_disableOnly
  · rfl

theorem keys_rejoinBody {e : McEntry} (he : e ∈ s) :
    (rejoinBody fm port vid s e).map McEntry.key = s.map McEntry.key := by
  unfold rejoinBody
  split
  · rename_i hc
    exact keys_join_of_mem he hc.1
  · rfl

theorem moves_leaveAllInVlan (h : WellFormed s) :
    Moves Enabled Disabled (fun k => k.2 = vid) (fm.interfaceGroup port vid) s
      (leaveAllInVlan fm s port vid).1 := by
  unfold leaveAllInVlan
  rw [leaveLoop_eq_walk]
  refine Moves.walk (fun t e _ => keys_leaveBody e) (fun t e he ht => ?_)
    (fun k ⟨e, he, hk, _⟩ => ⟨e, he, hk⟩) h
  unfold leaveBody
  split
  · rename_i hc
    refine (moves_leave ht e.key.1).congr fun k => ?_
    rw [← hc.1]
    exact ⟨fun hk => ⟨hk, hk ▸ rfl⟩, And.left⟩
  · rename_i hc
    refine Moves.refl ht ?_
    rintro k hk ⟨rfl, hv⟩
    exact hc ⟨hv, (ht.enabled_iff he rfl _).mp hk⟩

theorem moves_rejoinAllInVlan (h : WellFormed s) :
    Moves Disabled Enabled (fun k => k.2 = vid) (fm.interfaceGroup port vid) s
      (rejoinAllInVlan fm s port vid).1 := by
  unfold rejoinAllInVlan
  rw [rejoinLoop_eq_walk]
  refine Moves.walk (fun t e he => keys_rejoinBody he) (fun t e he ht => ?_)
    (fun k ⟨e, he, hk, _⟩ => ⟨e, he, hk⟩) h
  unfold rejoinBody
  split
  · rename_i hc
    refine (moves_join ht he hc.1 hc.2).congr fun k => ?_
    exact ⟨fun hk => ⟨hk, hk ▸ hc.1⟩, And.left⟩
  · rename_i hc
    refine Moves.refl ht ?_
    rintro k hk ⟨rfl, hv⟩
    exact hc ⟨hv, (ht.disabled_iff he rfl _).mp hk⟩

end Bulk

/-! ## Runs -/

/-- The port of a call. -/
def Ev.port : Ev → Nat
  | .join port _ _ => port
  | .leave port _ _ _ => port
  | .rejoinAllInVlan port _ => port
  | .leaveAllInVlan port _ => port

/-- The port joins the group. -/
def Ev.Joins (port : Nat) (k : Mac × Nat) (e : Ev) : Prop := e = .join port k.2 k.1

/-- The port leaves the group for good. -/
def Ev.Leaves (port : Nat) (k : Mac × Nat) (e : Ev) : Prop := e = .leave port k.2 k.1 false

/-- The port is disabled, with all groups of the VLAN or in this one alone, and stays a member. -/
def Ev.Disables (port : Nat) (k : Mac × Nat) (e : Ev) : Prop :=
  e = .leaveAllInVlan port k.2 ∨ e = .leave port k.2 k.1 true

/-- The port is put into the group on the switch, again or for the first time. -/
def Ev.Enables (port : Nat) (k : Mac × Nat) (e : Ev) : Prop :=
  e = .rejoinAllInVlan port k.2 ∨ e = .join port k.2 k.1

/-- The port has joined the group and not left it since. -/
def Member (es : List Ev) (port : Nat) (k : Mac × Nat) : Prop :=
  Since (Ev.Joins port k) (Ev.Leaves port k) es

/-- The port was disabled last, and not enabled since. -/
def Off (es : List Ev) (port : Nat) (k : Mac × Nat) : Prop :=
  Since (Ev.Disables port k) (Ev.Enables port k) es

/-- The list `s` is the membership relation that the calls `es` give. -/
structure Refines (fm : FmDriver) (es : List Ev) (s : McGroups) : Prop where
  nodup : (s.map McEntry.key).Nodup
  disjoint : ∀ e ∈ s, Disjoint e.l2Interface e.disabledL2Interface
  entry : ∀ k, (∃ e ∈ s, e.key = k) ↔ ∃ port, Member es port k
  union : ∀ e ∈ s, ∀ g, g ∈ e.l2Interface ∪ e.disabledL2Interface ↔
    ∃ port, Member es port e.key ∧ fm.interfaceGroup port e.vid = g
  disabled : ∀ e ∈ s, ∀ port, Nbi.IsPort port →
    (fm.interfaceGroup port e.vid ∈ e.disabledL2Interface ↔
      Member es port e.key ∧ Off es port e.key)
  /-- After any number of elements, the loop of `leave_all_in_vlan` has the same elements at the
  same places, and the call for the next one drops none. -/
  leaveLoop : ∀ port vid mac n,
    (McGroups.leaveLoop fm port vid n 0 s).1.map McEntry.key = s.map McEntry.key ∧
    (leave fm (McGroups.leaveLoop fm port vid n 0 s).1 port vid mac true).1.map McEntry.key =
      s.map McEntry.key

/-- The state by ports: the invariant of the runs. -/
structure ByPorts (fm : FmDriver) (member off : Nat → Mac × Nat → Prop) (s : McGroups) : Prop where
  wf : WellFormed s
  isPort : ∀ port k, member port k → Nbi.IsPort port
  enabled : ∀ port k, Nbi.IsPort port →
    (Enabled s k (fm.interfaceGroup port k.2) ↔ member port k ∧ ¬ off port k)
  disabled : ∀ port k, Nbi.IsPort port →
    (Disabled s k (fm.interfaceGroup port k.2) ↔ member port k ∧ off port k)
  group : ∀ k g, Enabled s k g ∨ Disabled s k g →
    ∃ port, Nbi.IsPort port ∧ fm.interfaceGroup port k.2 = g

section Runs

variable {fm : FmDriver} {member off : Nat → Mac × Nat → Prop} {s : McGroups}

theorem enabled_join (h : WellFormed s) (port vid : Nat) (mac : Mac) :
    ∀ k g, Enabled (join fm s port vid mac).1 k g ↔
      k = (mac, vid) ∧ g = fm.interfaceGroup port vid ∨ Enabled s k g := by
  refine (updates_join h).enabled_iff (fun g => ?_) (fun k hk g => ?_)
  · tauto
  · tauto

theorem disabled_join (h : WellFormed s) (port vid : Nat) (mac : Mac) :
    ∀ k g, Disabled (join fm s port vid mac).1 k g ↔
      Disabled s k g ∧ ¬ (k = (mac, vid) ∧ g = fm.interfaceGroup port vid) := by
  refine (updates_join h).disabled_iff (fun g => ?_) (fun k hk g => ?_)
  · tauto
  · tauto

theorem enabled_leave (h : WellFormed s) (port vid : Nat) (mac : Mac) :
    ∀ k g, Enabled (leave fm s port vid mac false).1 k g ↔
      Enabled s k g ∧ ¬ (k = (mac, vid) ∧ g = fm.interfaceGroup port vid) := by
  refine (updates_leave h false).enabled_iff (fun g => ?_) (fun k hk g => ?_)
  · tauto
  · tauto

theorem disabled_leave (h : WellFormed s) (port vid : Nat) (mac : Mac) :
    ∀ k g, Disabled (leave fm s port vid mac false).1 k g ↔
      Disabled s k g ∧ ¬ (k = (mac, vid) ∧ g = fm.interfaceGroup port vid) := by
  refine (updates_leave h false).disabled_iff (fun g => ?_) (fun k hk g => ?_)
  · rw [if_neg Bool.false_ne_true]
    tauto
  · tauto

theorem ByPorts.congr (h : ByPorts fm member off s) {member' off' : Nat → Mac × Nat → Prop}
    (hm : ∀ port k, member port k ↔ member' port k) (ho : ∀ port k, off port k ↔ off' port k) :
    ByPorts fm member' off' s := by
  obtain rfl : member = member' := funext fun port => funext fun k => propext (hm port k)
  obtain rfl : off = off' := funext fun port => funext fun k => propext (ho port k)
  exact h

theorem ByPorts.join (hfm : fm.SeparatesPorts) (h : ByPorts fm member off s) {port : Nat}
    (hp : Nbi.IsPort port) (vid : Nat) (mac : Mac) :
    ByPorts fm (fun q k => (q = port ∧ k = (mac, vid)) ∨ member q k)
      (fun q k => off q k ∧ ¬ (q = port ∧ k = (mac, vid))) (McGroups.join fm s port vid mac).1 := by
  have hsep : ∀ q k, Nbi.IsPort q → k = (mac, vid) →
      (fm.interfaceGroup q k.2 = fm.interfaceGroup port vid ↔ q = port) :=
    fun q k hq hk => hfm.interfaceGroup_iff hp hq (hk ▸ rfl)
  refine ⟨(updates_join h.wf).wf, ?_, fun q k hq => ?_, fun q k hq => ?_, fun k g hg => ?_⟩
  · rintro q k (⟨rfl, -⟩ | hq)
    · exact hp
    · exact h.isPort q k hq
  · rw [enabled_join h.wf, h.enabled q k hq]
    have := hsep q k hq
    tauto
  · rw [disabled_join h.wf, h.disabled q k hq]
    have := hsep q k hq
    tauto
  · rw [enabled_join h.wf, disabled_join h.wf] at hg
    rcases hg with (⟨rfl, rfl⟩ | hg) | hg
    · exact ⟨port, hp, rfl⟩
    · exact h.group k g (.inl hg)
    · exact h.group k g (.inr hg.1)

theorem ByPorts.leave (hfm : fm.SeparatesPorts) (h : ByPorts fm member off s) {port : Nat}
    (hp : Nbi.IsPort port) (vid : Nat) (mac : Mac) :
    ByPorts fm (fun q k => member q k ∧ ¬ (q = port ∧ k = (mac, vid))) off
      (McGroups.leave fm s port vid mac false).1 := by
  have hsep : ∀ q k, Nbi.IsPort q → k = (mac, vid) →
      (fm.interfaceGroup q k.2 = fm.interfaceGroup port vid ↔ q = port) :=
    fun q k hq hk => hfm.interfaceGroup_iff hp hq (hk ▸ rfl)
  refine ⟨(updates_leave h.wf false).wf, fun q k hq => h.isPort q k hq.1, fun q k hq => ?_,
    fun q k hq => ?_, fun k g hg => ?_⟩
  · rw [enabled_leave h.wf, h.enabled q k hq]
    have := hsep q k hq
    tauto
  · rw [disabled_leave h.wf, h.disabled q k hq]
    have := hsep q k hq
    tauto
  · rw [enabled_leave h.wf, disabled_leave h.wf] at hg
    exact h.group k g (hg.imp And.left And.left)

/-- The port is disabled in the entries of the keys with `P`, all of one VLAN. -/
theorem ByPorts.disable (hfm : fm.SeparatesPorts) (h : ByPorts fm member off s) {port vid : Nat}
    (hp : Nbi.IsPort port) {P : Mac × Nat → Prop} (hP : ∀ k, P k → k.2 = vid) {s' : McGroups}
    (hs : Moves Enabled Disabled P (fm.interfaceGroup port vid) s s') :
    ByPorts fm member (fun q k => (q = port ∧ P k) ∨ off q k) s' := by
  have hsep : ∀ q k, Nbi.IsPort q → P k →
      (fm.interfaceGroup q k.2 = fm.interfaceGroup port vid ↔ q = port) :=
    fun q k hq hk => hfm.interfaceGroup_iff hp hq (hP k hk)
  refine ⟨hs.wf, h.isPort, fun q k hq => ?_, fun q k hq => ?_, fun k g hg => ?_⟩
  · rw [hs.source, h.enabled q k hq]
    have := hsep q k hq
    tauto
  · rw [hs.target, h.enabled q k hq, h.disabled q k hq]
    have := hsep q k hq
    tauto
  · rw [hs.source, hs.target] at hg
    exact h.group k g (by tauto)

/-- The port is enabled in the entries of the keys with `P`, all of one VLAN. -/
theorem ByPorts.enable (hfm : fm.SeparatesPorts) (h : ByPorts fm member off s) {port vid : Nat}
    (hp : Nbi.IsPort port) {P : Mac × Nat → Prop} (hP : ∀ k, P k → k.2 = vid) {s' : McGroups}
    (hs : Moves Disabled Enabled P (fm.interfaceGroup port vid) s s') :
    ByPorts fm member (fun q k => off q k ∧ ¬ (q = port ∧ P k)) s' := by
  have hsep : ∀ q k, Nbi.IsPort q → P k →
      (fm.interfaceGroup q k.2 = fm.interfaceGroup port vid ↔ q = port) :=
    fun q k hq hk => hfm.interfaceGroup_iff hp hq (hP k hk)
  refine ⟨hs.wf, h.isPort, fun q k hq => ?_, fun q k hq => ?_, fun k g hg => ?_⟩
  · rw [hs.target, h.enabled q k hq, h.disabled q k hq]
    have := hsep q k hq
    tauto
  · rw [hs.source, h.disabled q k hq]
    have := hsep q k hq
    tauto
  · rw [hs.source, hs.target] at hg
    exact h.group k g (by tauto)

theorem ByPorts.step (hfm : fm.SeparatesPorts) (h : ByPorts fm member off s) (e : Ev)
    (he : Nbi.IsPort e.port) :
    ByPorts fm (fun port k => e.Joins port k ∨ member port k ∧ ¬ e.Leaves port k)
      (fun port k => e.Disables port k ∨ off port k ∧ ¬ e.Enables port k) (step fm s e) := by
  cases e with
  | join port vid mac =>
    refine (h.join hfm he vid mac).congr (fun q k => ?_) (fun q k => ?_)
    · simp only [Ev.Joins, Ev.Leaves, Ev.join.injEq, reduceCtorEq, Prod.ext_iff]
      tauto
    · simp only [Ev.Disables, Ev.Enables, Ev.join.injEq, reduceCtorEq, Prod.ext_iff]
      tauto
  | leave port vid mac disableOnly =>
    cases disableOnly with
    | false =>
      refine (h.leave hfm he vid mac).congr (fun q k => ?_) (fun q k => ?_)
      · simp only [Ev.Joins, Ev.Leaves, Ev.leave.injEq, reduceCtorEq, Prod.ext_iff]
        tauto
      · simp only [Ev.Disables, Ev.Enables, Ev.leave.injEq, reduceCtorEq]
        tauto
    | true =>
      refine (h.disable hfm he (fun k hk => hk ▸ rfl) (moves_leave h.wf mac)).congr
        (fun q k => ?_) (fun q k => ?_)
      · simp only [Ev.Joins, Ev.Leaves, Ev.leave.injEq, reduceCtorEq]
        tauto
      · simp only [Ev.Disables, Ev.Enables, Ev.leave.injEq, reduceCtorEq, Prod.ext_iff]
        tauto
  | rejoinAllInVlan port vid =>
    refine (h.enable hfm he (fun k hk => hk) (moves_rejoinAllInVlan h.wf)).congr
      (fun q k => ?_) (fun q k => ?_)
    · simp only [Ev.Joins, Ev.Leaves, reduceCtorEq]
      tauto
    · simp only [Ev.Disables, Ev.Enables, Ev.rejoinAllInVlan.injEq, reduceCtorEq]
      tauto
  | leaveAllInVlan port vid =>
    refine (h.disable hfm he (fun k hk => hk) (moves_leaveAllInVlan h.wf)).congr
      (fun q k => ?_) (fun q k => ?_)
    · simp only [Ev.Joins, Ev.Leaves, reduceCtorEq]
      tauto
    · simp only [Ev.Disables, Ev.Enables, Ev.leaveAllInVlan.injEq, reduceCtorEq]
      tauto

theorem byPorts_run (hfm : fm.SeparatesPorts) (es : List Ev) (hes : ∀ e ∈ es, Nbi.IsPort e.port) :
    ByPorts fm (Member es) (Off es) (run (McGroups.step fm) [] es) := by
  refine run_history (R := fun es s => (∀ e ∈ es, Nbi.IsPort e.port) →
    ByPorts fm (Member es) (Off es) s) (fun _ => ?_) (fun es e ih hes => ?_) es hes
  · have hno : ∀ port k, ¬ Member [] port k := fun port k => since_nil _ _
    refine ⟨⟨List.nodup_nil, by simp⟩, fun port k hm => absurd hm (hno port k), ?_, ?_, ?_⟩
    · simp [Enabled, hno]
    · simp [Disabled, hno]
    · simp [Enabled, Disabled]
  · have hstep := (ih fun e he => hes e (List.mem_append_left _ he)).step hfm e
      (hes e (List.mem_append_right _ List.mem_cons_self))
    have hmem : Member (es ++ [e]) = fun port k => e.Joins port k ∨ Member es port k ∧
        ¬ e.Leaves port k :=
      funext fun port => funext fun k => propext (since_concat _ _ es e)
    have hoff : Off (es ++ [e]) = fun port k => e.Disables port k ∨ Off es port k ∧
        ¬ e.Enables port k :=
      funext fun port => funext fun k => propext (since_concat _ _ es e)
    rw [hmem, hoff]
    exact hstep

/-- An entry lists the members of its group. -/
theorem ByPorts.union (h : ByPorts fm member off s) {e : McEntry} (he : e ∈ s) (g : Nat) :
    g ∈ e.l2Interface ∪ e.disabledL2Interface ↔
      ∃ port, member port e.key ∧ fm.interfaceGroup port e.vid = g := by
  rw [Finset.mem_union, ← h.wf.enabled_iff he rfl, ← h.wf.disabled_iff he rfl]
  constructor
  · intro hg
    obtain ⟨port, hp, rfl⟩ := h.group e.key g hg
    refine ⟨port, ?_, rfl⟩
    rw [h.enabled port e.key hp, h.disabled port e.key hp] at hg
    tauto
  · rintro ⟨port, hm, rfl⟩
    have hp := h.isPort port e.key hm
    have hon := h.enabled port e.key hp
    have hoff := h.disabled port e.key hp
    simp only [McEntry.vid]
    tauto

/-- In a run of the four operations on physical ports and LAGs, whose interface groups are
different, the entries are the memberships that the history of the calls gives: there is one for
a group and VLAN exactly while it has members, these are its ports, and the disabled ones are those
that were last disabled. -/
theorem refines_run (fm : FmDriver) (hfm : fm.SeparatesPorts) (es : List Ev)
    (hes : ∀ e ∈ es, Nbi.IsPort e.port) : Refines fm es (run (step fm) [] es) := by
  have h := byPorts_run hfm es hes
  refine ⟨h.wf.nodup, fun e he => (h.wf.proper e he).disjoint, fun k => ?_, fun e he => h.union he,
    fun e he port hp => ?_, fun port vid mac n => ?_⟩
  · rw [h.wf.exists_iff]
    constructor
    · rintro ⟨g, hg⟩
      obtain ⟨port, hp, rfl⟩ := h.group k g hg
      rw [h.enabled port k hp, h.disabled port k hp] at hg
      exact ⟨port, by tauto⟩
    · rintro ⟨port, hm⟩
      have hp := h.isPort port k hm
      refine ⟨fm.interfaceGroup port k.2, ?_⟩
      rw [h.enabled port k hp, h.disabled port k hp]
      tauto
  · rw [← h.wf.disabled_iff he rfl]
    exact h.disabled port e.key hp
  · have hloop := map_walk (f := leaveBody fm port vid) (fun t e _ => keys_leaveBody e) n 0
      (run (step fm) [] es)
    rw [keys_leave_disableOnly, leaveLoop_eq_walk]
    exact ⟨hloop, hloop⟩

/-- Two ports, one of them a LAG, join a group; the VLAN leaves the first and comes back. -/
theorem refines_run_two :
    Refines ofdpaDriver [.join 1 1 0x01005e000001, .join 0x20001 1 0x01005e000001,
        .leaveAllInVlan 1 1, .rejoinAllInVlan 1 1, .leave 0x20001 1 0x01005e000001 false]
      (run (step ofdpaDriver) [] [.join 1 1 0x01005e000001, .join 0x20001 1 0x01005e000001,
        .leaveAllInVlan 1 1, .rejoinAllInVlan 1 1, .leave 0x20001 1 0x01005e000001 false]) :=
  refines_run ofdpaDriver ofdpaDriver_encodes.separatesPorts _ (by simp [Ev.port, Nbi.isPort_iff])

end Runs

end McGroups

end Basebox
