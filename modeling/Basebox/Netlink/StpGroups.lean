import Basebox.Lib.Lists
import Basebox.Netlink.BridgeStp

/-!
# The states of the ports in the spanning tree groups

A port has a global state and, in some VLANs, a state of its own. What counts in such a VLAN is the
combination of both, which `nl_bridge` programs into the group of the VLAN whenever one of them
changes.

* `combined`: the combination, as it is meant.
* `Consistent`: the VLANs with a state are those with a group, every port with a state in a VLAN has
  the combination there, which is what `get_min_states` and `get_min_state` say, and a port whose
  state was deleted forwards in the group.
* `consistent_run`: so it is after any calls for physical ports, if every call to the switch
  succeeds.

The global state of a port without one is `-EINVAL`, which becomes 234 when it is passed on as a
`uint8_t`. It is larger than every state, so the state in the VLAN counts alone.
-/

namespace Basebox

namespace BridgeStp

/-- The state of a port in a VLAN, from its global state and its state in the VLAN. -/
def combined : Option Nat → Nat → Nat
  | none, pvState => pvState
  | some gState, pvState =>
    if gState = BR_STATE_BLOCKING ∨ pvState = BR_STATE_BLOCKING then BR_STATE_BLOCKING
    else min gState pvState

/-- The calls, for physical ports. -/
inductive Call where
  | setPortStpState (portId stpState : Nat)
  | addPortVlanStpState (portId vid stpState : Nat)
  | delPortVlanStpState (portId vid : Nat)

/-- A physical port, a VLAN other than 0 and one of the five states. -/
def Call.Valid : Call → Prop
  | .setPortStpState p st => p < 2 ^ 16 ∧ st ≤ BR_STATE_BLOCKING
  | .addPortVlanStpState p v st => p < 2 ^ 16 ∧ v ≠ 0 ∧ st ≤ BR_STATE_BLOCKING
  | .delPortVlanStpState p v => p < 2 ^ 16 ∧ v ≠ 0

/-- `nl_bridge` with what has happened. -/
structure History where
  br : BridgeStp := {}
  given : Given := ∅
  /-- The ports whose state in a VLAN was deleted, as long as the group of the VLAN exists. -/
  deleted : Finset (Nat × Nat) := ∅

/-- One call. Those to the switch succeed. -/
def History.call (members : Nat → List Nat) (h : History) : Call → Option History
  | .setPortStpState p st =>
    some { h with br := setPortStpState members h.br p st, given := h.given.insert p st }
  | .addPortVlanStpState p v st =>
    (addPortVlanStpState members h.br p v st 0 0).map fun r =>
      { h with br := r.2, deleted := h.deleted.erase (p, v) }
  | .delPortVlanStpState p v =>
    let br := (delPortVlanStpState members h.br p v 0).2
    some { h with
      br := br
      deleted := if v ∈ br.sw.vlanToStg then insert (p, v) h.deleted
        else h.deleted.filter fun k => k.2 ≠ v }

/-- `none` once a call has not returned. -/
def callStep (members : Nat → List Nat) (o : Option History) (c : { c : Call // c.Valid }) :
    Option History :=
  o.bind fun h => h.call members c

/-- The groups of the switch have the states that the bridge asked for. -/
structure Consistent (h : History) : Prop where
  groups : ∀ v, v ∈ h.br.states.pvStates ↔ v ∈ h.br.sw.vlanToStg
  states : ∀ p < 2 ^ 16, ∀ v st : Nat, h.br.states.getPvlanState p v = st →
    let state := combined (h.given.lookup p) st
    state ≤ BR_STATE_BLOCKING ∧
    (∃ stgId, h.br.sw.vlanToStg.lookup v = some stgId ∧
      h.br.programmed.lookup (p, stgId) = Stgs.bcmState state) ∧
    (h.br.states.getMinStates p).lookup v = some state ∧ h.br.states.getMinState p v = state
  deleted : ∀ p v, (p, v) ∈ h.deleted → ∃ stgId, h.br.sw.vlanToStg.lookup v = some stgId ∧
    h.br.programmed.lookup (p, stgId) = Stgs.bcmState BR_STATE_FORWARDING

/-! ## The combination -/

theorem combined_le {g : Option Nat} {st : Nat} (hst : st ≤ BR_STATE_BLOCKING) :
    combined g st ≤ BR_STATE_BLOCKING := by
  unfold combined
  split
  · exact hst
  · split
    · exact Nat.le_refl _
    · exact (Nat.min_le_right _ _).trans hst

theorem u8_of_le {st : Nat} (hst : st ≤ BR_STATE_BLOCKING) : u8 st = st := by
  have hlt : st < 256 := Nat.lt_of_le_of_lt hst (by decide)
  unfold u8
  omega

/-- Both functions combine the states, also if there is no global one. -/
theorem getEffectiveState_eq {t : BridgeStpStates} {p st : Nat} (hst : st ≤ BR_STATE_BLOCKING)
    (hg : ∀ g, t.glStates.lookup p = some g → g ≤ BR_STATE_BLOCKING) :
    BridgeStpStates.getEffectiveState (u8 (t.getGlobalState p)) st =
      combined (t.glStates.lookup p) st := by
  unfold BridgeStpStates.getGlobalState
  cases hl : t.glStates.lookup p with
  | none =>
    have h234 : u8 (-EINVAL) = 234 := by decide
    have hne : (234 : Nat) ≠ BR_STATE_BLOCKING := by decide
    have hmin : min 234 st = st := Nat.min_eq_right (hst.trans (by decide))
    simp only [h234, BridgeStpStates.getEffectiveState, hne, false_or, hmin, combined]
    split
    · exact (‹st = BR_STATE_BLOCKING›).symm
    · rfl
  | some g =>
    simp only [u8_of_le (hg g hl)]
    rfl

/-! ## The groups -/

/-- The group that a state in a VLAN is programmed into. -/
def groupOf (sw : Stgs) (v : Nat) : Nat := if sw.lookupStpid v = 0 then 1 else sw.lookupStpid v

section Groups

variable {sw : Stgs} (hwf : sw.WF) {v w i : Nat}
include hwf

theorem groupOf_eq (hv : sw.vlanToStg.lookup v = some i) : groupOf sw v = i := by
  have hi := Finset.mem_Ico.mp (hwf.lookup_mem hv)
  have hid : sw.lookupStpid v = i := by simp [Stgs.lookupStpid, hv]
  rw [groupOf, if_neg (by omega), hid]

/-- No other VLAN is programmed into the group of a VLAN. -/
theorem groupOf_eq_iff (hw : sw.vlanToStg.lookup w = some i) : groupOf sw v = i ↔ v = w := by
  have hi := Finset.mem_Ico.mp (hwf.lookup_mem hw)
  constructor
  · intro he
    cases hv : sw.vlanToStg.lookup v with
    | none =>
      rw [groupOf, if_pos (hwf.lookupStpid_eq_zero.mpr hv)] at he
      omega
    | some j =>
      rw [groupOf_eq hwf hv] at he
      subst he
      exact hwf.inj v w j hv hw
  · rintro rfl
    exact groupOf_eq hwf hw

end Groups

section Programs

variable {members : Nat → List Nat} {s : BridgeStp} {p v st : Nat}

theorem lookup_program (hst : st ≤ BR_STATE_BLOCKING) (k : Nat × Nat) :
    (s.program p v st).2.programmed.lookup k =
      if k = (p, groupOf s.sw v) then Stgs.bcmState st else s.programmed.lookup k := by
  obtain ⟨b, hb⟩ := Stgs.bcmState_isSome.mpr hst
  simp only [program, Stgs.ofdpaStgStatePortSet, hb, Table.lookup_insert_ite, groupOf]

theorem mem_ascending {t : Table Nat Nat} {it : Nat × Nat} :
    it ∈ ascending t ↔ t.lookup it.1 = some it.2 := by
  unfold ascending
  rw [List.mem_insertionSort, List.mem_map, ← Option.mem_def, AList.mem_lookup_iff]
  constructor
  · rintro ⟨e, he, rfl⟩
    exact he
  · exact fun he => ⟨_, he, rfl⟩

/-- The loop over the VLANs with a state of the port. -/
theorem lookup_setPortVlans (members : Nat → List Nat) (hwf : s.sw.WF) (hp : p < 2 ^ 16)
    (hle : ∀ w e, (s.states.getMinStates p).lookup w = some e → e ≤ BR_STATE_BLOCKING) {w i : Nat}
    (hw : s.sw.vlanToStg.lookup w = some i) (q : Nat) :
    (setPortVlans members s p).programmed.lookup (q, i) =
      if q = p ∧ w ∈ s.states.getMinStates p then
        Stgs.bcmState (((s.states.getMinStates p).lookup w).getD 0)
      else s.programmed.lookup (q, i) := by
  have hturn : ∀ it ∈ ascending (s.states.getMinStates p), ∀ s' : BridgeStp, s'.sw = s.sw →
      (setPortVlanStpState members s' p it.1 it.2).2.programmed.lookup (q, i) =
        if q = p ∧ it.1 = w then Stgs.bcmState (((s.states.getMinStates p).lookup w).getD 0)
        else s'.programmed.lookup (q, i) := by
    intro it hit s' hsw
    have hl := mem_ascending.mp hit
    have hiff : (q, i) = (p, groupOf s'.sw it.1) ↔ q = p ∧ it.1 = w := by
      rw [Prod.mk.injEq, hsw, eq_comm (a := i), groupOf_eq_iff hwf hw]
    rw [setPortVlanStpState_phys hp, lookup_program (hle it.1 it.2 hl)]
    by_cases hk : q = p ∧ it.1 = w
    · rw [if_pos (hiff.mpr hk), if_pos hk, ← hk.2, hl, Option.getD_some]
    · rw [if_neg (mt hiff.mp hk), if_neg hk]
  have hsw : ∀ it ∈ ascending (s.states.getMinStates p), ∀ s' : BridgeStp, s'.sw = s.sw →
      (setPortVlanStpState members s' p it.1 it.2).2.sw = s.sw := by
    intro it _ s' hsw
    rw [setPortVlanStpState_phys hp, program_sw, hsw]
  have hloop := foldl_ite_of_inv (I := fun s' : BridgeStp => s'.sw = s.sw)
    (F := fun s' : BridgeStp => s'.programmed.lookup (q, i))
    (G := fun _ => Stgs.bcmState (((s.states.getMinStates p).lookup w).getD 0))
    (P := fun it : Nat × Nat => q = p ∧ it.1 = w) (fun _ => rfl) hsw hturn rfl
  have hex : (∃ it ∈ ascending (s.states.getMinStates p), q = p ∧ it.1 = w) ↔
      q = p ∧ w ∈ s.states.getMinStates p := by
    rw [Table.mem_iff_lookup]
    constructor
    · rintro ⟨it, hit, hq, rfl⟩
      exact ⟨hq, it.2, mem_ascending.mp hit⟩
    · rintro ⟨hq, e, he⟩
      exact ⟨(w, e), mem_ascending.mpr he, hq, rfl⟩
  simp only [hex] at hloop
  exact hloop

end Programs

/-! ## The invariant -/

/-- What every call preserves. -/
structure GroupsInv (h : History) : Prop where
  wf : h.br.sw.WF
  noZero : h.br.sw.vlanToStg.lookup 0 = none
  given : ∀ p, h.br.states.glStates.lookup p = h.given.lookup p
  givenLe : ∀ p g, h.given.lookup p = some g → g ≤ BR_STATE_BLOCKING
  stateLe : ∀ p v st, h.br.states.cell v p = some st → st ≤ BR_STATE_BLOCKING
  groups : ∀ v, h.br.states.pvStates.lookup v = none ↔ h.br.sw.vlanToStg.lookup v = none
  states : ∀ p v stgId st, h.br.sw.vlanToStg.lookup v = some stgId →
    h.br.states.cell v p = some st →
    h.br.programmed.lookup (p, stgId) = Stgs.bcmState (combined (h.given.lookup p) st)
  deleted : ∀ p v, (p, v) ∈ h.deleted → h.br.states.cell v p = none ∧
    ∃ stgId, h.br.sw.vlanToStg.lookup v = some stgId ∧
      h.br.programmed.lookup (p, stgId) = Stgs.bcmState BR_STATE_FORWARDING

theorem lookup_delPvlanState_of_ne {t : BridgeStpStates} {p v w : Nat} (hwv : w ≠ v) :
    (t.delPvlanState p v).1.pvStates.lookup w = t.pvStates.lookup w := by
  unfold BridgeStpStates.delPvlanState
  cases t.pvStates.lookup v with
  | none => rfl
  | some m =>
    simp only
    split
    · rw [Table.lookup_erase_ite, if_neg hwv]
    · rw [Table.lookup_insert_ite, if_neg hwv]

/-- The VLAN loses its record with the last port, and only then. -/
theorem lookup_delPvlanState_self {t : BridgeStpStates} {p v : Nat}
    (hv : t.pvStates.lookup v ≠ none) :
    (t.delPvlanState p v).1.pvStates.lookup v = none ↔ (t.delPvlanState p v).2 = true := by
  unfold BridgeStpStates.delPvlanState
  cases hl : t.pvStates.lookup v with
  | none => exact absurd hl hv
  | some m =>
    simp only
    split
    · rw [Table.lookup_erase_ite, if_pos rfl]
      simp
    · rw [Table.lookup_insert_ite, if_pos rfl]
      simp

section Inv

variable {members : Nat → List Nat} {h : History} {p v st : Nat}

theorem groupsInv_init : GroupsInv {} where
  wf := Stgs.wf_init
  noZero := rfl
  given _ := rfl
  givenLe _ _ hg := by cases hg
  stateLe _ _ _ hc := by cases hc
  groups _ := iff_of_true rfl rfl
  states _ _ _ _ hv := by cases hv
  deleted _ _ hd := by simp at hd

theorem u16_of_lt (hp : p < 2 ^ 16) : u16 p = p := Nat.mod_eq_of_lt hp

theorem GroupsInv.getEffectiveState_eq (hi : GroupsInv h) (hst : st ≤ BR_STATE_BLOCKING) (p : Nat) :
    BridgeStpStates.getEffectiveState (u8 (h.br.states.getGlobalState p)) st =
      combined (h.given.lookup p) st := by
  rw [BridgeStp.getEffectiveState_eq hst fun g hg => hi.givenLe p g (hi.given p ▸ hg), hi.given]

theorem GroupsInv.consistent (hi : GroupsInv h) : Consistent h where
  groups v := by
    rw [← not_iff_not, Table.not_mem_iff_lookup, Table.not_mem_iff_lookup]
    exact hi.groups v
  states p hp v st hst := by
    rw [BridgeStpStates.getPvlanState_eq, u16_of_lt hp] at hst
    cases hc : h.br.states.cell v p with
    | none =>
      rw [hc] at hst
      exact absurd hst (by simp [EINVAL])
    | some st' =>
      rw [hc] at hst
      obtain rfl : st' = st := Int.ofNat.inj hst
      have hle := hi.stateLe p v st' hc
      have hv : h.br.sw.vlanToStg.lookup v ≠ none := by
        intro hnone
        have hnone := (hi.groups v).mpr hnone
        rw [BridgeStpStates.cell, hnone] at hc
        cases hc
      obtain ⟨i, hv⟩ := Option.ne_none_iff_exists'.mp hv
      refine ⟨combined_le hle, ⟨i, hv, hi.states p v i st' hv hc⟩, ?_, ?_⟩
      · rw [BridgeStpStates.lookup_getMinStates, u16_of_lt hp, hc, Option.map_some,
          hi.getEffectiveState_eq hle]
      · simp only [BridgeStpStates.getMinState, BridgeStpStates.getPvlanState_eq, u16_of_lt hp, hc,
          Option.elim_some]
        rw [if_neg (by omega), u8_of_le hle, hi.getEffectiveState_eq hle]
  deleted p v hd := (hi.deleted p v hd).2

theorem GroupsInv.inv (hi : GroupsInv h) {states : BridgeStpStates}
    (hstates : states.pvStates = h.br.states.pvStates) : Inv { h.br with states := states } :=
  ⟨hi.wf, fun w hw hnone => hw (hstates ▸ (hi.groups w).mpr hnone)⟩

theorem GroupsInv.givenLe_insert (hi : GroupsInv h) (hst : st ≤ BR_STATE_BLOCKING) (q g : Nat)
    (hg : (h.given.insert p st).lookup q = some g) : g ≤ BR_STATE_BLOCKING := by
  rw [Table.lookup_insert_ite] at hg
  split at hg
  · cases hg
    exact hst
  · exact hi.givenLe q g hg

theorem GroupsInv.given_insert (hi : GroupsInv h) (q : Nat) :
    (h.br.states.addGlobalState p st).glStates.lookup q = (h.given.insert p st).lookup q := by
  simp only [BridgeStpStates.addGlobalState, Table.lookup_insert_ite, hi.given]

/-- The combinations of the port with its new global state. -/
theorem GroupsInv.lookup_getMinStates (hi : GroupsInv h) (hp : p < 2 ^ 16)
    (hst : st ≤ BR_STATE_BLOCKING) (w : Nat) :
    ((h.br.states.addGlobalState p st).getMinStates p).lookup w =
      (h.br.states.cell w p).map (combined (some st)) := by
  rw [BridgeStpStates.lookup_getMinStates, u16_of_lt hp]
  change (h.br.states.cell w p).map _ = _
  cases hc : h.br.states.cell w p with
  | none => rfl
  | some st' =>
    have hle : ∀ g, (h.br.states.addGlobalState p st).glStates.lookup p = some g →
        g ≤ BR_STATE_BLOCKING := by
      intro g hg
      rw [hi.given_insert] at hg
      exact hi.givenLe_insert hst p g hg
    rw [Option.map_some, Option.map_some,
      BridgeStp.getEffectiveState_eq (hi.stateLe p w st' hc) hle, hi.given_insert,
      AList.lookup_insert]

/-- What a new global state programs into the group of a VLAN. -/
theorem GroupsInv.lookup_setPortStpState (hi : GroupsInv h) (members : Nat → List Nat)
    (hp : p < 2 ^ 16) (hst : st ≤ BR_STATE_BLOCKING) {w i : Nat}
    (hw : h.br.sw.vlanToStg.lookup w = some i) (q : Nat) :
    (BridgeStp.setPortStpState members h.br p st).programmed.lookup (q, i) =
      if q = p ∧ h.br.states.cell w p ≠ none then
        Stgs.bcmState (((h.br.states.cell w p).map (combined (some st))).getD 0)
      else h.br.programmed.lookup (q, i) := by
  have hmin := hi.lookup_getMinStates hp hst
  have hzero : (q, i) ≠ (p, groupOf h.br.sw 0) := by
    intro he
    have h0 := (groupOf_eq_iff hi.wf hw).mp (Prod.mk.inj he).2.symm
    rw [← h0, hi.noZero] at hw
    cases hw
  have h₀ : Inv { h.br with states := h.br.states.addGlobalState p st } := hi.inv rfl
  have hle : ∀ w e, ((h.br.states.addGlobalState p st).getMinStates p).lookup w = some e →
      e ≤ BR_STATE_BLOCKING := by
    intro w e he
    rw [hmin] at he
    obtain ⟨st', hc, rfl⟩ := Option.map_eq_some_iff.mp he
    exact combined_le (hi.stateLe p w st' hc)
  have hmem : w ∈ (h.br.states.addGlobalState p st).getMinStates p ↔
      h.br.states.cell w p ≠ none := by
    rw [← not_iff_not, Table.not_mem_iff_lookup, hmin, Option.map_eq_none_iff, not_not]
  have hvlans := lookup_setPortVlans (s := { h.br with
    states := h.br.states.addGlobalState p st }) members hi.wf hp hle hw q
  simp only [hmin, hmem] at hvlans
  simp only [BridgeStp.setPortStpState, setPortVlanStpState_phys hp, lookup_program hst,
    (h₀.setPortVlans members p).1]
  rw [if_neg hzero]
  exact hvlans

/-- A global state. -/
theorem GroupsInv.setPortStpState (hi : GroupsInv h) (members : Nat → List Nat) (hp : p < 2 ^ 16)
    (hst : st ≤ BR_STATE_BLOCKING) :
    GroupsInv { h with
      br := BridgeStp.setPortStpState members h.br p st
      given := h.given.insert p st } := by
  have h₀ : Inv { h.br with states := h.br.states.addGlobalState p st } := hi.inv rfl
  have hsw : (BridgeStp.setPortStpState members h.br p st).sw = h.br.sw := by
    simp only [BridgeStp.setPortStpState, setPortVlanStpState_phys hp, program_sw,
      (h₀.setPortVlans members p).1]
  have hstates : (BridgeStp.setPortStpState members h.br p st).states =
      h.br.states.addGlobalState p st := by
    simp only [BridgeStp.setPortStpState, setPortVlanStpState_phys hp, program_states,
      (h₀.setPortVlans members p).2.1]
  have hprog := fun {w i} => hi.lookup_setPortStpState members hp hst (w := w) (i := i)
  constructor
  · rw [hsw]
    exact hi.wf
  · rw [hsw]
    exact hi.noZero
  · rw [hstates]
    exact hi.given_insert
  · exact hi.givenLe_insert hst
  · rw [hstates]
    exact hi.stateLe
  · rw [hsw, hstates]
    exact hi.groups
  · rw [hsw, hstates]
    intro q w i st' hw hc
    change h.br.states.cell w q = some st' at hc
    rw [hprog hw, Table.lookup_insert_ite]
    by_cases hq : q = p
    · subst hq
      simp [hc]
    · simp only [hq, false_and, if_false]
      exact hi.states q w i st' hw hc
  · rw [hsw, hstates]
    intro q w hd
    obtain ⟨hc, i, hw, hf⟩ := hi.deleted q w hd
    refine ⟨hc, i, hw, ?_⟩
    rw [hprog hw, if_neg]
    · exact hf
    · rintro ⟨rfl, hne⟩
      exact hne hc

/-- What is programmed into the group of a VLAN, seen from the group of any VLAN. -/
theorem lookup_program_group (br : BridgeStp) (hwf : br.sw.WF) {e : Nat}
    (he : e ≤ BR_STATE_BLOCKING) {w j : Nat} (hw : br.sw.vlanToStg.lookup w = some j) (q : Nat) :
    (br.program p v e).2.programmed.lookup (q, j) =
      if q = p ∧ w = v then Stgs.bcmState e else br.programmed.lookup (q, j) := by
  have hiff : (q, j) = (p, groupOf br.sw v) ↔ q = p ∧ w = v := by
    rw [Prod.mk.injEq, eq_comm (a := j), groupOf_eq_iff hwf hw, eq_comm (a := v)]
  rw [lookup_program he]
  simp only [hiff]

/-- The combination of a port in a VLAN whose state has just been recorded. -/
theorem GroupsInv.getMinState_addPvlanState (hi : GroupsInv h) (hp : p < 2 ^ 16)
    (hst : st ≤ BR_STATE_BLOCKING) :
    u8 ((h.br.states.addPvlanState p v st).1.getMinState p v) = combined (h.given.lookup p) st := by
  have hgl : (h.br.states.addPvlanState p v st).1.glStates = h.br.states.glStates :=
    BridgeStpStates.addPvlanState_glStates ..
  have hle : ∀ g, (h.br.states.addPvlanState p v st).1.glStates.lookup p = some g →
      g ≤ BR_STATE_BLOCKING := by
    intro g hg
    rw [hgl, hi.given] at hg
    exact hi.givenLe p g hg
  have heff := BridgeStp.getEffectiveState_eq hst hle
  rw [hgl, hi.given] at heff
  simp only [BridgeStpStates.getMinState, BridgeStpStates.getPvlanState_eq, u16_of_lt hp,
    BridgeStpStates.cell_addPvlanState, and_self, if_true, Option.elim_some]
  rw [if_neg (by omega), u8_of_le hst, heff, u8_of_le (combined_le hst)]

/-- A record is added, and its VLAN has a group: the VLANs with records still are those with
groups. -/
theorem GroupsInv.groups_addPvlanState (hi : GroupsInv h) {sw : Stgs} {i : Nat}
    (hsw : ∀ w, sw.vlanToStg.lookup w = if w = v then some i else h.br.sw.vlanToStg.lookup w)
    (w : Nat) :
    (h.br.states.addPvlanState p v st).1.pvStates.lookup w = none ↔
      sw.vlanToStg.lookup w = none := by
  have hadd := lookup_addPvlanState h.br.states p v st w
  rw [hsw]
  by_cases hwv : w = v
  · rw [if_pos hwv]
    exact iff_of_false (hadd.mpr (.inl hwv)) (by simp)
  · rw [if_neg hwv, ← hi.groups w, ← not_iff_not]
    exact hadd.trans (or_iff_right hwv)

/-- The record of one port in one VLAN changes to `x`, and what it stands for is programmed into the
group of the VLAN. -/
theorem GroupsInv.changeRecord (hi : GroupsInv h) (p v : Nat) (x : Option Nat) {br : BridgeStp}
    {deleted : Finset (Nat × Nat)}
    (hx : ∀ st, x = some st → st ≤ BR_STATE_BLOCKING) (hwf : br.sw.WF)
    (hzero : br.sw.vlanToStg.lookup 0 = none)
    (hgl : br.states.glStates = h.br.states.glStates)
    (hcell : ∀ w q, br.states.cell w q = if w = v ∧ q = p then x else h.br.states.cell w q)
    (hgroups : ∀ w, br.states.pvStates.lookup w = none ↔ br.sw.vlanToStg.lookup w = none)
    (hkept : ∀ w j j', br.sw.vlanToStg.lookup w = some j →
      h.br.sw.vlanToStg.lookup w = some j' → j = j')
    (hprog : ∀ q w j, br.sw.vlanToStg.lookup w = some j → br.programmed.lookup (q, j) =
      if q = p ∧ w = v then
        Stgs.bcmState (x.elim BR_STATE_FORWARDING (combined (h.given.lookup p)))
      else h.br.programmed.lookup (q, j))
    (hdeleted : ∀ q w, (q, w) ∈ deleted → w ∈ br.sw.vlanToStg ∧
      (q = p ∧ w = v ∧ x = none ∨ ¬ (q = p ∧ w = v) ∧ (q, w) ∈ h.deleted)) :
    GroupsInv { h with br := br, deleted := deleted } where
  wf := hwf
  noZero := hzero
  given q := by rw [hgl, hi.given]
  givenLe := hi.givenLe
  stateLe q w st hc := by
    rw [hcell] at hc
    split at hc
    · exact hx st hc
    · exact hi.stateLe q w st hc
  groups := hgroups
  states q w j st hw hc := by
    rw [hcell] at hc
    rw [hprog q w j hw]
    by_cases hqw : q = p ∧ w = v
    · rw [if_pos hqw.symm] at hc
      rw [if_pos hqw, hc, hqw.1, Option.elim_some]
    · rw [if_neg fun h => hqw h.symm] at hc
      rw [if_neg hqw]
      -- A record that stays is in a VLAN that had a group.
      have hgroup : h.br.sw.vlanToStg.lookup w ≠ none := by
        rw [ne_eq, ← hi.groups]
        intro hnone
        rw [BridgeStpStates.cell, hnone] at hc
        cases hc
      obtain ⟨j', hj'⟩ := Option.ne_none_iff_exists'.mp hgroup
      obtain rfl := hkept w j j' hw hj'
      exact hi.states q w j st hj' hc
  deleted q w hd := by
    obtain ⟨hmem, hcases⟩ := hdeleted q w hd
    obtain ⟨j, hw⟩ := Table.mem_iff_lookup.mp hmem
    rcases hcases with ⟨rfl, rfl, rfl⟩ | ⟨hqw, hd⟩
    · refine ⟨by rw [hcell, if_pos ⟨rfl, rfl⟩], j, hw, ?_⟩
      rw [hprog q w j hw, if_pos ⟨rfl, rfl⟩, Option.elim_none]
    · obtain ⟨hc, j', hj', hf⟩ := hi.deleted q w hd
      obtain rfl := hkept w j j' hw hj'
      refine ⟨by rw [hcell, if_neg fun h => hqw h.symm, hc], j, hw, ?_⟩
      rw [hprog q w j hw, if_neg hqw, hf]

/-- The state of a port in a VLAN is recorded, and the combination programmed into the group. -/
theorem GroupsInv.record (hi : GroupsInv h) (hp : p < 2 ^ 16) (hv : v ≠ 0)
    (hst : st ≤ BR_STATE_BLOCKING) {sw : Stgs} (hwf : sw.WF) {i : Nat}
    (hsw : ∀ w, sw.vlanToStg.lookup w = if w = v then some i else h.br.sw.vlanToStg.lookup w)
    (hold : h.br.sw.vlanToStg.lookup v = some i ∨ h.br.sw.vlanToStg.lookup v = none) :
    let states := (h.br.states.addPvlanState p v st).1
    let br : BridgeStp := { h.br with states := states, sw := sw }
    GroupsInv { h with
      br := (br.program p v (u8 (states.getMinState p v))).2
      deleted := h.deleted.erase (p, v) } := by
  intro states br
  -- A VLAN that has a group keeps it.
  have hkept : ∀ w j', h.br.sw.vlanToStg.lookup w = some j' → sw.vlanToStg.lookup w = some j' := by
    intro w j' hw
    rw [hsw]
    split
    · subst_vars
      rw [← hw]
      exact (hold.resolve_right (by simp [hw])).symm
    · exact hw
  refine hi.changeRecord p v (some st) (fun _ he => Option.some.inj he ▸ hst) ?_ ?_ ?_
    (fun w q => ?_) (fun w => ?_) (fun w j j' hw hj' => ?_) (fun q w j hw => ?_) (fun q w hd => ?_)
  · rw [program_sw]
    exact hwf
  · rw [program_sw]
    change sw.vlanToStg.lookup 0 = none
    rw [hsw, if_neg hv.symm]
    exact hi.noZero
  · rw [program_states]
    exact BridgeStpStates.addPvlanState_glStates ..
  · rw [program_states]
    change states.cell w q = _
    rw [BridgeStpStates.cell_addPvlanState, u16_of_lt hp]
  · rw [program_sw, program_states]
    exact hi.groups_addPvlanState hsw w
  · rw [program_sw] at hw
    exact Option.some.inj (hw.symm.trans (hkept w j' hj'))
  · rw [program_sw] at hw
    rw [hi.getMinState_addPvlanState hp hst]
    exact lookup_program_group br hwf (combined_le hst) hw q
  · obtain ⟨hne, hd⟩ := Finset.mem_erase.mp hd
    obtain ⟨-, j, hw, -⟩ := hi.deleted q w hd
    refine ⟨?_, .inr ⟨fun h => hne (Prod.ext h.1 h.2), hd⟩⟩
    rw [program_sw]
    exact Table.mem_iff_lookup.mpr ⟨j, hkept w j hw⟩

/-- The group could not be created: the record is dropped again. -/
theorem GroupsInv.dropRecord (hi : GroupsInv h) (hp : p < 2 ^ 16)
    (hnone : h.br.states.pvStates.lookup v = none) {sw : Stgs} (hwf : sw.WF)
    (hsw : sw.vlanToStg = h.br.sw.vlanToStg) :
    GroupsInv { h with
      br := { h.br with
        states := ((h.br.states.addPvlanState p v st).1.delPvlanState p v).1
        sw := sw }
      deleted := h.deleted.erase (p, v) } := by
  have hcell : ∀ w k, ((h.br.states.addPvlanState p v st).1.delPvlanState p v).1.cell w k =
      h.br.states.cell w k := by
    intro w k
    rw [BridgeStpStates.cell_delPvlanState, BridgeStpStates.cell_addPvlanState, u16_of_lt hp]
    split
    · rename_i hx
      rw [hx.1, BridgeStpStates.cell, hnone]
      rfl
    · rfl
  constructor
  · exact hwf
  · rw [hsw]
    exact hi.noZero
  · intro q
    rw [BridgeStpStates.delPvlanState_glStates, BridgeStpStates.addPvlanState_glStates]
    exact hi.given q
  · exact hi.givenLe
  · intro q w st' hc
    rw [hcell] at hc
    exact hi.stateLe q w st' hc
  · intro w
    rw [hsw, ← hi.groups w]
    by_cases hwv : w = v
    · subst hwv
      exact iff_of_true (lookup_del_addPvlanState h.br.states p w st hnone) hnone
    · rw [lookup_delPvlanState_of_ne hwv, ← not_iff_not]
      exact (lookup_addPvlanState h.br.states p v st w).trans (or_iff_right hwv)
  · intro q w j st' hw hc
    rw [hcell] at hc
    rw [hsw] at hw
    exact hi.states q w j st' hw hc
  · intro q w hd
    rw [hcell, hsw]
    exact hi.deleted q w (Finset.mem_of_mem_erase hd)

/-- A state of a port in a VLAN. -/
theorem GroupsInv.addPortVlanStpState (hi : GroupsInv h) (members : Nat → List Nat)
    (hp : p < 2 ^ 16) (hv : v ≠ 0) (hst : st ≤ BR_STATE_BLOCKING) :
    ∃ h', h.call members (.addPortVlanStpState p v st) = some h' ∧ GroupsInv h' := by
  simp only [History.call, BridgeStp.addPortVlanStpState, setPortVlanStpState_phys hp]
  cases hnew : (h.br.states.addPvlanState p v st).2 with
  | false =>
    have hold : h.br.sw.vlanToStg.lookup v ≠ none := by
      rw [ne_eq, ← hi.groups, ← addPvlanState_new h.br.states p v st, hnew]
      simp
    obtain ⟨i, hold⟩ := Option.ne_none_iff_exists'.mp hold
    refine ⟨_, rfl, hi.record hp hv hst hi.wf (fun w => ?_) (.inl hold)⟩
    split
    · subst_vars
      exact hold
    · rfl
  | true =>
    have hnone := (addPvlanState_new h.br.states p v st).mp hnew
    have hnone' := (hi.groups v).mp hnone
    obtain ⟨rv, sw, hc, hwf, hcases⟩ := hi.wf.ofdpaStgCreate_cases v 0 0
    simp only [hc, if_true]
    rcases hcases with ⟨hsame, hneg | ⟨i, hi'⟩⟩ | ⟨hge, -, i, -, hins⟩
    · rw [if_pos hneg]
      exact ⟨_, rfl, hi.dropRecord hp hnone hwf hsame⟩
    · rw [hnone'] at hi'
      cases hi'
    · rw [if_neg (Int.not_lt.mpr hge)]
      have hlookup : ∀ w, sw.vlanToStg.lookup w =
          if w = v then some i else h.br.sw.vlanToStg.lookup w := by
        intro w
        rw [hins, Table.lookup_insert_ite]
      exact ⟨_, rfl, hi.record hp hv hst hwf hlookup (.inr hnone')⟩

/-- The group of a VLAN that has lost its last state. -/
theorem destroy_vlanToStg {sw : Stgs} (hwf : sw.WF) {i : Nat} (hv : sw.vlanToStg.lookup v = some i) :
    (sw.ofdpaStgDestroy v 0).2.vlanToStg = sw.vlanToStg.erase v := by
  have hne : sw.lookupStpid v ≠ 0 := by
    rw [ne_eq, hwf.lookupStpid_eq_zero, hv]
    simp
  simp [Stgs.ofdpaStgDestroy, hne]

theorem delPvlanState_last {t : BridgeStpStates} (hlast : (t.delPvlanState p v).2 = true) :
    t.pvStates.lookup v ≠ none := by
  intro hnone
  simp [BridgeStpStates.delPvlanState, hnone] at hlast

/-- The groups after a state is deleted. -/
theorem GroupsInv.lookup_delPortVlanStpState (hi : GroupsInv h) (members : Nat → List Nat)
    (hp : p < 2 ^ 16) :
    let br := (BridgeStp.delPortVlanStpState members h.br p v 0).2
    br.states = (h.br.states.delPvlanState p v).1 ∧ br.sw.WF ∧
      ∀ w, br.sw.vlanToStg.lookup w =
        if w = v ∧ (h.br.states.delPvlanState p v).2 = true then none
        else h.br.sw.vlanToStg.lookup w := by
  simp only [BridgeStp.delPortVlanStpState, setPortVlanStpState_phys hp, program_sw, program_states]
  cases hlast : (h.br.states.delPvlanState p v).2 with
  | false =>
    simp only [Bool.false_eq_true, if_false, and_false]
    exact ⟨trivial, hi.wf, fun _ => trivial⟩
  | true =>
    simp only [if_true, and_true]
    have hv : h.br.sw.vlanToStg.lookup v ≠ none := by
      rw [ne_eq, ← hi.groups]
      exact delPvlanState_last hlast
    obtain ⟨i, hv⟩ := Option.ne_none_iff_exists'.mp hv
    refine ⟨trivial, (hi.wf.ofdpaStgDestroy_cases v 0).1, fun w => ?_⟩
    rw [destroy_vlanToStg hi.wf hv, Table.lookup_erase_ite]

/-- A record is deleted, and the group of its VLAN with the last one: the VLANs with records still
are those with groups. -/
theorem GroupsInv.groups_delPvlanState (hi : GroupsInv h) {sw : Stgs}
    (hsw : ∀ w, sw.vlanToStg.lookup w =
      if w = v ∧ (h.br.states.delPvlanState p v).2 = true then none
      else h.br.sw.vlanToStg.lookup w) (w : Nat) :
    (h.br.states.delPvlanState p v).1.pvStates.lookup w = none ↔ sw.vlanToStg.lookup w = none := by
  rw [hsw]
  by_cases hwv : w = v
  · subst hwv
    simp only [true_and]
    by_cases hnone : h.br.states.pvStates.lookup w = none
    · have hsame : h.br.states.delPvlanState p w = (h.br.states, false) := by
        simp [BridgeStpStates.delPvlanState, hnone]
      rw [hsame]
      simpa using hi.groups w
    · rw [lookup_delPvlanState_self hnone]
      by_cases hlast : (h.br.states.delPvlanState p w).2 = true
      · rw [if_pos hlast]
        exact iff_of_true hlast rfl
      · rw [if_neg hlast]
        exact iff_of_false hlast (mt (hi.groups w).mpr hnone)
  · rw [lookup_delPvlanState_of_ne hwv, if_neg fun hx => hwv hx.1]
    exact hi.groups w

/-- What the deletion programs, in the groups there were. -/
theorem GroupsInv.programmed_delPortVlanStpState (hi : GroupsInv h) (members : Nat → List Nat)
    (hp : p < 2 ^ 16) {w j : Nat} (hw : h.br.sw.vlanToStg.lookup w = some j) (q : Nat) :
    (BridgeStp.delPortVlanStpState members h.br p v 0).2.programmed.lookup (q, j) =
      if q = p ∧ w = v then Stgs.bcmState BR_STATE_FORWARDING
      else h.br.programmed.lookup (q, j) := by
  have h₀ : Inv h.br := hi.inv rfl
  rw [(h₀.delPortVlanStpState members hp v 0).2]
  exact lookup_program_group h.br hi.wf (by decide) hw q

/-- A state of a port in a VLAN is deleted. -/
theorem GroupsInv.delPortVlanStpState (hi : GroupsInv h) (members : Nat → List Nat)
    (hp : p < 2 ^ 16) :
    ∃ h', h.call members (.delPortVlanStpState p v) = some h' ∧ GroupsInv h' := by
  refine ⟨_, rfl, ?_⟩
  obtain ⟨hstates, hwf, hsw⟩ := hi.lookup_delPortVlanStpState members hp (v := v)
  have hlookup := fun {w j} => hi.programmed_delPortVlanStpState members hp (v := v) (w := w) (j := j)
  generalize (BridgeStp.delPortVlanStpState members h.br p v 0).2 = br at hstates hwf hsw hlookup ⊢
  have hmono : ∀ w j, br.sw.vlanToStg.lookup w = some j → h.br.sw.vlanToStg.lookup w = some j := by
    intro w j hw
    rw [hsw] at hw
    split at hw
    · cases hw
    · exact hw
  refine hi.changeRecord p v none (fun _ he => by cases he) hwf ?_ ?_ (fun w q => ?_)
    (fun w => ?_) (fun w j j' hw hj' => ?_) (fun q w j hw => ?_) (fun q w hd => ?_)
  · rw [hsw, hi.noZero, ite_self]
  · rw [hstates, BridgeStpStates.delPvlanState_glStates]
  · rw [hstates, BridgeStpStates.cell_delPvlanState, u16_of_lt hp]
  · rw [hstates]
    exact hi.groups_delPvlanState hsw w
  · exact Option.some.inj ((hmono w j hw).symm.trans hj')
  · exact hlookup (hmono w j hw) q
  · by_cases hqw : q = p ∧ w = v
    · -- The port itself is noted as long as the VLAN has its group.
      obtain ⟨rfl, rfl⟩ := hqw
      split at hd
      · next hmem => exact ⟨hmem, .inl ⟨rfl, rfl, rfl⟩⟩
      · exact absurd rfl (Finset.mem_filter.mp hd).2
    · split at hd
      · next hmem =>
        have hd' : (q, w) ∈ h.deleted := by
          refine (Finset.mem_insert.mp hd).resolve_left fun he => hqw ?_
          exact Prod.mk.inj he
        obtain ⟨-, j, hw, -⟩ := hi.deleted q w hd'
        refine ⟨?_, .inr ⟨hqw, hd'⟩⟩
        by_cases hwv : w = v
        · exact hwv ▸ hmem
        · exact Table.mem_iff_lookup.mpr ⟨j, by rw [hsw, if_neg fun h => hwv h.1, hw]⟩
      · obtain ⟨hd', hwv⟩ := Finset.mem_filter.mp hd
        obtain ⟨-, j, hw, -⟩ := hi.deleted q w hd'
        exact ⟨Table.mem_iff_lookup.mpr ⟨j, by rw [hsw, if_neg fun h => hwv h.1, hw]⟩,
          .inr ⟨hqw, hd'⟩⟩

end Inv

/-- **The spanning tree groups** are those of the VLANs with states, and every port has the
combination of its states there, after any calls for physical ports. -/
theorem consistent_run (members : Nat → List Nat) (cs : List { c : Call // c.Valid }) :
    ∃ h, run (callStep members) (some {}) cs = some h ∧ Consistent h := by
  have hrun : ∃ h, run (callStep members) (some {}) cs = some h ∧ GroupsInv h := by
    refine run_inv_all (I := fun o => ∃ h, o = some h ∧ GroupsInv h) ⟨{}, rfl, groupsInv_init⟩ ?_ cs
    rintro o ⟨c, hc⟩ ⟨h, rfl, hi⟩
    cases c with
    | setPortStpState p st => exact ⟨_, rfl, hi.setPortStpState members hc.1 hc.2⟩
    | addPortVlanStpState p v st => exact hi.addPortVlanStpState members hc.1 hc.2.1 hc.2.2
    | delPortVlanStpState p v => exact hi.delPortVlanStpState members hc.1
  obtain ⟨h, hh, hi⟩ := hrun
  exact ⟨h, hh, hi.consistent⟩

end BridgeStp

end Basebox
