import Basebox.OfDpa.Stg

/-!
# Spanning tree groups on the switch

The controller's groups next to those of the switch. A call of OF-DPA that fails changes nothing on
the switch; the creation of a group that the switch has fails.

* `Mirrors`: the groups of the switch, other than STG 1, are those of the VLANs.
* `mirrors_iff_along`: that is so in every state of a run exactly if `ofdpaStgVlanAdd` does not fail
  once `ofdpaStgCreate` has succeeded. `ofdpa_stg_create` returns there and leaves the new group on
  the switch, under an id that the controller takes for free: it asks for it again in every later
  call, which then fails.
-/

namespace Basebox

/-- The spanning tree groups of the controller and those of the switch. -/
structure StgSwitch where
  controller : Stgs := {}
  /-- The groups of the switch, other than the default one. -/
  groups : Finset Nat := ∅

namespace StgSwitch

/-- The status of a call that is refused because the group exists. What matters is the sign. -/
def OFDPA_E_EXISTS : Int := -25

/-- The group that `ofdpa_stg_create` asks the switch for. -/
def requested (s : StgSwitch) (vlanId : Nat) : Option Nat :=
  if s.controller.lookupStpid vlanId ≠ 0 then none
  else
    match s.controller.findFreeStgid with
    | some (.ok stgId) => some stgId
    | _ => none

/-- The result of `ofdpaStgCreate(stg_id)`, if the call itself gives `rpc`. -/
def createStatus (s : StgSwitch) (stgId : Nat) (rpc : Int) : Int :=
  if 0 ≤ rpc ∧ stgId ∈ s.groups then OFDPA_E_EXISTS else rpc

/-- `ofdpa_stg_create` and what it does on the switch. -/
def ofdpaStgCreate (s : StgSwitch) (vlanId : Nat) (rpcCreate rpcVlanAdd : Int) :
    Option (Int × StgSwitch) :=
  match s.requested vlanId with
  | none => (s.controller.ofdpaStgCreate vlanId rpcCreate rpcVlanAdd).map fun (rv, controller) =>
    (rv, { s with controller := controller })
  | some stgId =>
    let status := s.createStatus stgId rpcCreate
    (s.controller.ofdpaStgCreate vlanId status rpcVlanAdd).map fun (rv, controller) =>
      (rv, { controller := controller
             groups := if status < 0 then s.groups else insert stgId s.groups })

/-- `ofdpa_stg_destroy` and what it does on the switch. -/
def ofdpaStgDestroy (s : StgSwitch) (vlanId : Nat) (rpcDestroy : Int) : Int × StgSwitch :=
  let stgId := s.controller.lookupStpid vlanId
  let (rv, controller) := s.controller.ofdpaStgDestroy vlanId rpcDestroy
  (rv, { controller := controller
         groups := if stgId = 0 ∨ rpcDestroy < 0 then s.groups else s.groups.erase stgId })

/-- `none` is for a call that did not return. -/
def step : Option StgSwitch → Stgs.Ev → Option StgSwitch
  | none, _ => none
  | some s, .create vlanId rpcCreate rpcVlanAdd =>
    (s.ofdpaStgCreate vlanId rpcCreate rpcVlanAdd).map (·.2)
  | some s, .destroy vlanId rpcDestroy => some (s.ofdpaStgDestroy vlanId rpcDestroy).2

/-! ## What is to hold -/

/-- The groups of the switch are those of the VLANs. -/
def Mirrors (s : StgSwitch) : Prop :=
  ∀ i, i ∈ s.groups ↔ ∃ v, s.controller.vlanToStg.lookup v = some i

/-- Not all ids are taken. -/
def HasFree (s : StgSwitch) : Prop :=
  ∃ i ∈ Stgs.ids, ∀ v, s.controller.vlanToStg.lookup v ≠ some i

/-- A creation with an id left and without failing calls gives the VLAN a group. -/
def Creates (s : StgSwitch) : Prop :=
  ∀ vlanId rpcCreate rpcVlanAdd, s.HasFree → 0 ≤ rpcCreate → 0 ≤ rpcVlanAdd →
    ∃ rv s', s.ofdpaStgCreate vlanId rpcCreate rpcVlanAdd = some (rv, s') ∧ 0 ≤ rv ∧
      ∃ i ∈ s'.groups, s'.controller.vlanToStg.lookup vlanId = some i

/-- The state of a process in which every call returned. -/
def Good : Option StgSwitch → Prop
  | none => False
  | some s => s.Mirrors ∧ s.Creates

/-- A VLAN that has no group and gets one on the switch is also added to it. -/
def AddsVlan : Option StgSwitch → Stgs.Ev → Prop
  | some s, .create vlanId rpcCreate rpcVlanAdd =>
    s.controller.vlanToStg.lookup vlanId = none → s.HasFree → 0 ≤ rpcCreate → 0 ≤ rpcVlanAdd
  | _, _ => True

/-! ## One call -/

section Step

variable {s : StgSwitch}

theorem Mirrors.eq_stgInUse (hm : Mirrors s) (h : s.controller.WF) :
    s.groups = s.controller.stgInUse := by
  ext i
  rw [hm i, h.inUse i]

theorem hasFree_iff (h : s.controller.WF) :
    s.HasFree ↔ s.controller.findFreeStgid ≠ some (.error (-ENOSPC)) := by
  rw [ne_eq, h.findFreeStgid_error_iff, HasFree]
  push Not
  rfl

/-- What is asked for: nothing, if the VLAN has a group or all ids are taken, else a free id. -/
theorem requested_cases (h : s.controller.WF) (v : Nat) :
    (s.requested v = none ∧ (s.controller.vlanToStg.lookup v ≠ none ∨ ¬ s.HasFree)) ∨
    (s.controller.vlanToStg.lookup v = none ∧ s.HasFree ∧ ∃ i ∈ Stgs.ids,
      i ∉ s.controller.stgInUse ∧ s.controller.findFreeStgid = some (.ok i) ∧
      s.requested v = some i) := by
  unfold requested
  by_cases hl : s.controller.vlanToStg.lookup v = none
  · rw [if_neg (by rw [h.lookupStpid_eq_zero.mpr hl]; simp), hasFree_iff h]
    obtain ⟨r, hr⟩ := Option.ne_none_iff_exists'.mp h.findFreeStgid_ne_none
    rcases h.findFreeStgid_eq_some hr with rfl | ⟨i, hid, hi, rfl⟩
    · exact .inl ⟨by rw [hr], .inr (by simp [hr])⟩
    · exact .inr ⟨hl, by simp [hr], i, hid, hi, hr, by rw [hr]⟩
  · rw [if_pos (by rw [ne_eq, h.lookupStpid_eq_zero]; exact hl)]
    exact .inl ⟨rfl, .inl hl⟩

/-- A creation that asks for nothing changes nothing. -/
theorem create_of_requested_none (h : s.controller.WF) {v : Nat} (hr : s.requested v = none)
    (c a : Int) : ∃ rv, s.ofdpaStgCreate v c a = some (rv, s) := by
  have hctl : ∃ rv, s.controller.ofdpaStgCreate v c a = some (rv, s.controller) := by
    unfold requested at hr
    unfold Stgs.ofdpaStgCreate
    by_cases hl : s.controller.lookupStpid v ≠ 0
    · rw [if_pos hl]
      exact ⟨_, rfl⟩
    · rw [if_neg hl] at hr ⊢
      cases hf : s.controller.findFreeStgid with
      | none => exact absurd hf h.findFreeStgid_ne_none
      | some r =>
        cases r with
        | error e => exact ⟨e, rfl⟩
        | ok i => simp [hf] at hr
  obtain ⟨rv, hctl⟩ := hctl
  exact ⟨rv, by simp [ofdpaStgCreate, hr, hctl]⟩

/-- A creation that asks for a group. -/
theorem create_of_requested_some (h : s.controller.WF) {v i : Nat}
    (hl : s.controller.vlanToStg.lookup v = none)
    (hf : s.controller.findFreeStgid = some (.ok i)) (hr : s.requested v = some i) (c a : Int) :
    s.ofdpaStgCreate v c a =
      if s.createStatus i c < 0 then
        some (s.createStatus i c, { s with controller := { s.controller with currentStg := i } })
      else if a < 0 then
        some (a, { controller := { s.controller with currentStg := i }
                   groups := insert i s.groups })
      else
        some (a, { controller :=
                     { currentStg := i
                       stgInUse := insert i s.controller.stgInUse
                       vlanToStg := s.controller.vlanToStg.insert v i }
                   groups := insert i s.groups }) := by
  have hnew : s.controller.vlanToStg.emplace v i = s.controller.vlanToStg.insert v i :=
    if_neg (Table.not_mem_iff_lookup.mpr hl)
  have hzero : ¬ s.controller.lookupStpid v ≠ 0 := by
    rw [not_not]
    exact h.lookupStpid_eq_zero.mpr hl
  simp only [ofdpaStgCreate, hr, Stgs.ofdpaStgCreate, if_neg hzero, hf, hnew]
  by_cases hc : s.createStatus i c < 0
  · simp [hc]
  · by_cases ha : a < 0 <;> simp [hc, ha]

/-- The switch does not refuse a free id if it has only the groups of the VLANs. -/
theorem Mirrors.createStatus_eq (hm : Mirrors s) (h : s.controller.WF) {i : Nat}
    (hi : i ∉ s.controller.stgInUse) (c : Int) : s.createStatus i c = c := by
  have hnot : i ∉ s.groups := by rwa [hm.eq_stgInUse h]
  exact if_neg fun hc => hnot hc.2

/-- The next creation works as long as the switch has the groups of the VLANs and no others. -/
theorem Mirrors.creates (hm : Mirrors s) (h : s.controller.WF) : Creates s := by
  intro v c a hfree hc ha
  rcases requested_cases h v with ⟨hr, hl | hfull⟩ | ⟨hl, -, i, -, hi, hf, hr⟩
  · obtain ⟨i, hi⟩ := Option.ne_none_iff_exists'.mp hl
    have hctl : s.controller.ofdpaStgCreate v c a = some ((i : Int), s.controller) := by
      have hlook : s.controller.lookupStpid v = i := by simp [Stgs.lookupStpid, hi]
      have hne : s.controller.lookupStpid v ≠ 0 := by
        rw [ne_eq, h.lookupStpid_eq_zero, hi]
        simp
      rw [Stgs.ofdpaStgCreate, if_pos hne, hlook]
    refine ⟨i, s, by simp [ofdpaStgCreate, hr, hctl], by omega, i, ?_, hi⟩
    exact (hm i).mpr ⟨v, hi⟩
  · exact absurd hfree hfull
  · rw [create_of_requested_some h hl hf hr, hm.createStatus_eq h hi, if_neg (by omega),
      if_neg (by omega)]
    exact ⟨a, _, rfl, ha, i, Finset.mem_insert_self i _, AList.lookup_insert _⟩

/-- A new group that is recorded for its VLAN. -/
theorem Mirrors.record (hm : Mirrors s) {v i : Nat}
    (hl : s.controller.vlanToStg.lookup v = none) (j : Nat) :
    j ∈ insert i s.groups ↔ ∃ w, (s.controller.vlanToStg.insert v i).lookup w = some j := by
  rw [Finset.mem_insert, hm j]
  constructor
  · rintro (rfl | ⟨w, hw⟩)
    · exact ⟨v, AList.lookup_insert _⟩
    · refine ⟨w, ?_⟩
      rw [Table.lookup_insert_ite, if_neg, hw]
      rintro rfl
      rw [hl] at hw
      cases hw
  · rintro ⟨w, hw⟩
    rw [Table.lookup_insert_ite] at hw
    split at hw
    · cases hw
      exact .inl rfl
    · exact .inr ⟨w, hw⟩

theorem Mirrors.destroy (hm : Mirrors s) (h : s.controller.WF) (v : Nat) (d : Int) :
    Mirrors (s.ofdpaStgDestroy v d).2 := by
  unfold ofdpaStgDestroy Stgs.ofdpaStgDestroy
  cases hl : s.controller.vlanToStg.lookup v with
  | none =>
    have hz := h.lookupStpid_eq_zero.mpr hl
    simpa [Mirrors, hz] using hm
  | some i =>
    have hi : s.controller.lookupStpid v = i := by simp [Stgs.lookupStpid, hl]
    have hz : i ≠ 0 := by
      rw [← hi, ne_eq, h.lookupStpid_eq_zero, hl]
      simp
    by_cases hd : d < 0
    · simpa [Mirrors, hi, hz, hd] using hm
    · intro j
      simp only [hi, hz, hd, or_self, if_false, Finset.mem_erase, hm j]
      constructor
      · rintro ⟨hne, w, hw⟩
        refine ⟨w, ?_⟩
        rw [Table.lookup_erase_ite, if_neg, hw]
        rintro rfl
        rw [hl] at hw
        cases hw
        exact hne rfl
      · rintro ⟨w, hw⟩
        rw [Table.lookup_erase_ite] at hw
        split at hw
        · cases hw
        · next hne =>
          refine ⟨?_, w, hw⟩
          rintro rfl
          exact hne (h.inj w v j hw hl)

/-- Every VLAN's group is on the switch; there may be more. -/
def Covers (s : StgSwitch) : Prop :=
  ∀ v i, s.controller.vlanToStg.lookup v = some i → i ∈ s.groups

theorem Covers.create (hs : Covers s) (h : s.controller.WF) (v : Nat) (c a : Int) {rv : Int}
    {s' : StgSwitch} (he : s.ofdpaStgCreate v c a = some (rv, s')) : Covers s' := by
  rcases requested_cases h v with ⟨hr, -⟩ | ⟨hl, -, i, -, -, hf, hr⟩
  · obtain ⟨rv', he'⟩ := create_of_requested_none h hr c a
    rw [he'] at he
    cases he
    exact hs
  · rw [create_of_requested_some h hl hf hr] at he
    split at he
    · cases he
      exact hs
    · split at he
      · cases he
        exact fun w j hw => Finset.mem_insert_of_mem (hs w j hw)
      · cases he
        intro w j hw
        rw [Table.lookup_insert_ite] at hw
        split at hw
        · cases hw
          exact Finset.mem_insert_self _ _
        · exact Finset.mem_insert_of_mem (hs w j hw)

theorem Covers.destroy (hs : Covers s) (h : s.controller.WF) (v : Nat) (d : Int) :
    Covers (s.ofdpaStgDestroy v d).2 := by
  unfold ofdpaStgDestroy Stgs.ofdpaStgDestroy
  cases hl : s.controller.vlanToStg.lookup v with
  | none =>
    have hz := h.lookupStpid_eq_zero.mpr hl
    simpa [Covers, hz] using hs
  | some i =>
    have hi : s.controller.lookupStpid v = i := by simp [Stgs.lookupStpid, hl]
    have hz : i ≠ 0 := by
      rw [← hi, ne_eq, h.lookupStpid_eq_zero, hl]
      simp
    by_cases hd : d < 0
    · simpa [Covers, hi, hz, hd] using hs
    · intro w j hw
      simp only [hi, hz, hd, or_self, if_false] at hw ⊢
      rw [Table.lookup_erase_ite] at hw
      split at hw
      · cases hw
      · next hne =>
        refine Finset.mem_erase.mpr ⟨?_, hs w j hw⟩
        rintro rfl
        exact hne (h.inj w v j hw hl)

end Step

/-! ## Runs -/

/-- The controller's part of a state. -/
def Inv (o : Option StgSwitch) : Prop := ∃ s, o = some s ∧ s.controller.WF

theorem step_inv {o : Option StgSwitch} (e : Stgs.Ev) (h : Inv o) : Inv (step o e) := by
  obtain ⟨s, rfl, h⟩ := h
  cases e with
  | create v c a =>
    have hctl : ∀ c, ∃ rv t, s.controller.ofdpaStgCreate v c a = some (rv, t) ∧ t.WF := fun c => by
      obtain ⟨rv, t, he, ht, -⟩ := h.ofdpaStgCreate_cases v c a
      exact ⟨rv, t, he, ht⟩
    simp only [step, ofdpaStgCreate]
    cases s.requested v with
    | none =>
      obtain ⟨rv, t, he, ht⟩ := hctl c
      exact ⟨{ s with controller := t }, by simp [he], ht⟩
    | some i =>
      obtain ⟨rv, t, he, ht⟩ := hctl (s.createStatus i c)
      simp only [he, Option.map_some]
      exact ⟨_, rfl, ht⟩
  | destroy v d => exact ⟨_, rfl, (h.ofdpaStgDestroy_cases v d).1⟩

theorem good_iff {s : StgSwitch} (h : s.controller.WF) : Good (some s) ↔ Mirrors s :=
  ⟨fun hg => hg.1, fun hm => ⟨hm, hm.creates h⟩⟩

theorem step_good_iff (o : Option StgSwitch) (e : Stgs.Ev) (h : Inv o) (hg : Good o) :
    Good (step o e) ↔ AddsVlan o e := by
  have h' := step_inv e h
  obtain ⟨s, rfl, h⟩ := h
  have hm : Mirrors s := hg.1
  cases e with
  | destroy v d =>
    obtain ⟨t, ht, hwf⟩ := h'
    cases ht
    exact iff_of_true ((good_iff hwf).mpr (hm.destroy h v d)) trivial
  | create v c a =>
    obtain ⟨t, ht, hwf⟩ := h'
    rw [ht, good_iff hwf]
    rcases requested_cases h v with ⟨hr, hor⟩ | ⟨hl, hfree, i, hid, hi, hf, hr⟩
    · obtain ⟨rv, he⟩ := create_of_requested_none h hr c a
      rw [step, he] at ht
      cases ht
      exact iff_of_true hm fun hl hfree => absurd hfree (hor.resolve_left (not_not.mpr hl))
    · have hiff : AddsVlan (some s) (.create v c a) ↔ (0 ≤ c → 0 ≤ a) := by
        simp [AddsVlan, hl, hfree]
      rw [hiff]
      rw [step, create_of_requested_some h hl hf hr, hm.createStatus_eq h hi] at ht
      by_cases hc : c < 0
      · rw [if_pos hc] at ht
        cases ht
        exact iff_of_true hm fun hc' => absurd hc (by omega)
      · rw [if_neg hc] at ht
        by_cases ha : a < 0
        · -- the group stays behind under an id that no VLAN has
          rw [if_pos ha] at ht
          cases ht
          refine iff_of_false (fun hm' => ?_) (fun hc' => absurd ha (by omega))
          exact hi ((h.inUse i).mpr ((hm' i).mp (Finset.mem_insert_self i _)))
        · rw [if_neg ha] at ht
          cases ht
          exact iff_of_true (hm.record hl) fun _ => by omega

/-- The switch has the groups of the VLANs and no others, and gives a new VLAN a group, in every
state of a run exactly if each call of the run meets `AddsVlan` in the state before it. -/
theorem mirrors_iff_along (es : List Stgs.Ev) :
    (∀ n, Good (run step (some {}) (es.take n))) ↔ Along step AddsVlan (some {}) es := by
  have hm : Mirrors {} := fun i => by simp
  exact along_iff_of_inv (I := Inv) ⟨{}, rfl, Stgs.wf_init⟩ ⟨hm, hm.creates Stgs.wf_init⟩
    (fun _ e h _ => step_inv e h) (fun o e h hg => step_good_iff o e h hg) es

/-- VLAN 10 cannot be added to its new group; VLAN 20 comes later. -/
def leftBehind : List Stgs.Ev := [.create 10 0 (-1), .create 20 0 0]

/-- The first call leaves STG 2 on the switch, and the second one asks for it again: it fails,
though no call of OF-DPA does by itself and 510 ids are free. -/
theorem leftBehind_not_mirrored :
    ¬ (∀ n, Good (run step (some {}) (leftBehind.take n))) ∧
    ∃ s, run step (some {}) (leftBehind.take 1) = some s ∧ s.groups = {2} ∧
      s.controller.vlanToStg.entries = [] ∧
      (s.ofdpaStgCreate 20 0 0).map (·.1) = some OFDPA_E_EXISTS := by
  refine ⟨fun h => ?_, _, rfl, by decide, by decide, by decide⟩
  have hm := (h 1).1 2
  have h2 : ¬ ∃ v, (∅ : Table Nat Nat).lookup v = some 2 := by simp
  exact h2 (hm.mp (by decide))

end StgSwitch

end Basebox
