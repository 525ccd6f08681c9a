import Basebox.Lib.Run
import Basebox.OfDpa.Stg
import Mathlib.Data.List.Sort

/-!
# Port STP states of the bridge (`src/netlink/nl_bridge.cc`)

`nl_bridge` records the STP states in `bridge_stp_states` and programs them into the spanning
tree groups of the switch: the global state of a port into the default group, STG 1, and the
state in a VLAN into the group of the VLAN. Setting the state of a port in a group succeeds;
creating and destroying a group can fail.

* `setPortStpState`, `setPvlanStp`, `dropPvlanStp`: the handlers of the events.
* `DefaultIsGlobal`: STG 1 has for every port the global state that it was given last.
* `defaultIsGlobal_iff_along`: a run on physical ports stays so exactly if no per-VLAN state is
  dropped in a VLAN without a group of its own (`Keeps` has the full condition).
-/

namespace Basebox

/-- The states that the bridge keeps and the groups of the switch. -/
structure BridgeStp where
  states : BridgeStpStates := {}
  /-- The controller behind `sw`. -/
  sw : Stgs := {}
  /-- What OF-DPA was last told for a port in a group. -/
  programmed : Table (Nat × Nat) String := ∅

namespace BridgeStp

/-- The call of `ofdpa_stg_state_port_set`. -/
def program (s : BridgeStp) (portId vid state : Nat) : Int × BridgeStp :=
  match s.sw.ofdpaStgStatePortSet portId vid state with
  | .error e => (e, s)
  | .ok (key, bcm) => (0, { s with programmed := s.programmed.insert key bcm })

section Handlers

-- `get_bond_members_by_port_id`.
variable (members : Nat → List Nat)

/-- `set_port_vlan_stp_state`, for a LAG on each member. -/
def setPortVlanStpState (s : BridgeStp) (portId vid state : Nat) : Int × BridgeStp :=
  if Nbi.isLag portId then
    (members portId).foldl (fun (err, s) mem =>
      let (err2, s) := s.program mem vid state
      (if err2 < 0 then err2 else err, s)) (0, s)
  else s.program portId vid state

/-- The entries of a `std::map`, in its order. -/
def ascending (t : Table Nat Nat) : List (Nat × Nat) :=
  (t.entries.map fun e => (e.1, e.2)).insertionSort (·.1 ≤ ·.1)

/-- The loop of `set_port_stp_state` over the VLANs with a state of the port. -/
def setPortVlans (s : BridgeStp) (portId : Nat) : BridgeStp :=
  (ascending (s.states.getMinStates portId)).foldl
    (fun s it => (setPortVlanStpState members s portId it.1 it.2).2) s

/-- `set_port_stp_state`. -/
def setPortStpState (s : BridgeStp) (portId stpState : Nat) : BridgeStp :=
  let s := { s with states := s.states.addGlobalState portId stpState }
  let s := setPortVlans members s portId
  (setPortVlanStpState members s portId 0 stpState).2

/-- `add_port_vlan_stp_state`, with the results of the two OF-DPA calls of `ofdpa_stg_create`.
`none` if that does not return. -/
def addPortVlanStpState (s : BridgeStp) (portId vid stpState : Nat) (rpcCreate rpcVlanAdd : Int) :
    Option (Int × BridgeStp) :=
  let (states, newGroup) := s.states.addPvlanState portId vid stpState
  let s := { s with states := states }
  let finish (s : BridgeStp) :=
    setPortVlanStpState members s portId vid (u8 (s.states.getMinState portId vid))
  if newGroup then
    match s.sw.ofdpaStgCreate vid rpcCreate rpcVlanAdd with
    | none => none
    | some (err, sw) =>
      let s := { s with sw := sw }
      if err < 0 then some (err, { s with states := (s.states.delPvlanState portId vid).1 })
      else some (finish s)
  else some (finish s)

/-- `del_port_vlan_stp_state`. -/
def delPortVlanStpState (s : BridgeStp) (portId vid : Nat) (rpcDestroy : Int) : Int × BridgeStp :=
  let (err, s) := setPortVlanStpState members s portId vid BR_STATE_FORWARDING
  let (states, lastMember) := s.states.delPvlanState portId vid
  let s := { s with states := states }
  if lastMember then
    let (err2, sw) := s.sw.ofdpaStgDestroy vid rpcDestroy
    (if err2 < 0 ∧ err = 0 then err2 else err, { s with sw := sw })
  else (err, s)

/-- `set_pvlan_stp`, on an interface that may be the bridge itself. -/
def setPvlanStp (s : BridgeStp) (isBridge : Bool) (portId vlanId stpState : Nat)
    (rpcCreate rpcVlanAdd : Int) : Option (Int × BridgeStp) :=
  if isBridge then some (0, s)
  else if portId > 0 then addPortVlanStpState members s portId vlanId stpState rpcCreate rpcVlanAdd
  else some (0, s)

/-- `drop_pvlan_stp`. -/
def dropPvlanStp (s : BridgeStp) (isBridge : Bool) (portId vlanId : Nat) (rpcDestroy : Int) :
    Int × BridgeStp :=
  if isBridge then (0, s)
  else if portId > 0 then delPortVlanStpState members s portId vlanId rpcDestroy
  else (0, s)

end Handlers

/-! ## Events and runs -/

/-- The calls for spanning tree states, with the results of OF-DPA. -/
inductive Ev where
  | setPortStpState (portId stpState : Nat)
  | setPvlanStp (isBridge : Bool) (portId vlanId stpState : Nat) (rpcCreate rpcVlanAdd : Int)
  | dropPvlanStp (isBridge : Bool) (portId vlanId : Nat) (rpcDestroy : Int)

/-- The port of a call. -/
def Ev.port : Ev → Nat
  | .setPortStpState p _ | .setPvlanStp _ p _ _ _ _ | .dropPvlanStp _ p _ _ => p

/-- An event on a physical port. -/
abbrev PhysEv := { e : Ev // e.port < 2 ^ 16 }

/-- A call; it has no result when the process aborts. -/
def exec (members : Nat → List Nat) (s : BridgeStp) : Ev → Option BridgeStp
  | .setPortStpState p st => some (setPortStpState members s p st)
  | .setPvlanStp isBridge p v st rpcCreate rpcVlanAdd =>
    (setPvlanStp members s isBridge p v st rpcCreate rpcVlanAdd).map (·.2)
  | .dropPvlanStp isBridge p v rpcDestroy => some (dropPvlanStp members s isBridge p v rpcDestroy).2

/-- The last global state that each port was given. -/
abbrev Given := Table Nat Nat

/-- The state that a port was last given. -/
def Given.note (g : Given) : Ev → Given
  | .setPortStpState p st => g.insert p st
  | _ => g

/-- One event; `none` once a handler has not returned. -/
def step (members : Nat → List Nat) : Option (BridgeStp × Given) → PhysEv →
    Option (BridgeStp × Given)
  | none, _ => none
  | some (s, g), e => (exec members s e.1).map fun s' => (s', g.note e.1)

/-- The default group has for every port the state that the port was given last, and none for a
port that was given none. -/
def DefaultIsGlobal : Option (BridgeStp × Given) → Prop
  | none => False
  | some (s, g) => ∀ p, (s.programmed.lookup (p, 1)).map some = (g.lookup p).map Stgs.bcmState

/-- The events that leave the default group to the global states. -/
def Keeps : Option (BridgeStp × Given) → PhysEv → Prop
  | none, _ => True
  | some (s, g), ⟨.setPortStpState p st, _⟩ =>
    -- One of the five states, and VLAN 0 has no group (or the state is not a new one).
    st ≤ BR_STATE_BLOCKING ∧ (s.sw.lookupStpid 0 = 0 ∨ g.lookup p = some st)
  | _, ⟨.setPvlanStp .., _⟩ => True
  | some (s, g), ⟨.dropPvlanStp isBridge p v _, _⟩ =>
    isBridge = true ∨ p = 0 ∨ s.sw.lookupStpid v ≠ 0 ∨ g.lookup p = some BR_STATE_FORWARDING

/-! ## What is programmed -/

/-- Every VLAN with a recorded state has a group of its own. -/
structure Inv (s : BridgeStp) : Prop where
  wf : s.sw.WF
  own : ∀ v, s.states.pvStates.lookup v ≠ none → s.sw.vlanToStg.lookup v ≠ none

theorem inv_init : Inv {} where
  wf := Stgs.wf_init
  own _ h := absurd rfl h

/-- The two states program the same into the default group. -/
def SameDefault (s s' : BridgeStp) : Prop :=
  ∀ q, s'.programmed.lookup (q, 1) = s.programmed.lookup (q, 1)

section Program

variable {members : Nat → List Nat} {s : BridgeStp} {p v st : Nat}

theorem program_sw (s : BridgeStp) (p v st : Nat) : (s.program p v st).2.sw = s.sw := by
  unfold program Stgs.ofdpaStgStatePortSet
  cases Stgs.bcmState st <;> rfl

theorem program_states (s : BridgeStp) (p v st : Nat) : (s.program p v st).2.states = s.states := by
  unfold program Stgs.ofdpaStgStatePortSet
  cases Stgs.bcmState st <;> rfl

/-- A state in a VLAN with a group of its own goes there. -/
theorem program_own (h : s.sw.WF) (hv : s.sw.vlanToStg.lookup v ≠ none) :
    SameDefault s (s.program p v st).2 := by
  intro q
  have hne : s.sw.lookupStpid v ≠ 0 := by rwa [ne_eq, h.lookupStpid_eq_zero]
  obtain ⟨i, hi⟩ := Option.ne_none_iff_exists'.mp hv
  have hi1 : s.sw.lookupStpid v ≠ 1 := by
    have := Finset.mem_Ico.mp (h.lookup_mem hi)
    simp only [Stgs.lookupStpid, hi, Option.getD_some]
    omega
  unfold program Stgs.ofdpaStgStatePortSet
  cases Stgs.bcmState st with
  | none => rfl
  | some b =>
    simp only [hne, if_false]
    rw [Table.lookup_insert_ite, if_neg]
    simp [Ne.symm hi1]

/-- A state in a VLAN without one goes to the default group. -/
theorem program_default (hv : s.sw.lookupStpid v = 0) {b : String}
    (hb : Stgs.bcmState st = some b) (q : Nat) :
    (s.program p v st).2.programmed.lookup (q, 1) =
      if q = p then some b else s.programmed.lookup (q, 1) := by
  simp only [program, Stgs.ofdpaStgStatePortSet, hb, hv, if_true]
  rw [Table.lookup_insert_ite]
  simp

theorem program_invalid (hb : Stgs.bcmState st = none) : (s.program p v st).2 = s := by
  simp [program, Stgs.ofdpaStgStatePortSet, hb]

theorem setPortVlanStpState_phys (hp : p < 2 ^ 16) (s : BridgeStp) (v st : Nat) :
    setPortVlanStpState members s p v st = s.program p v st := by
  have : ¬ Nbi.isLag p = true := by rw [Nbi.isLag_iff]; omega
  rw [setPortVlanStpState, if_neg this]

/-- What each call keeps, also on a bond. -/
theorem setPortVlanStpState_keeps {I : BridgeStp → Prop} (h : I s)
    (hstep : ∀ s q, I s → I (s.program q v st).2) :
    I (setPortVlanStpState members s p v st).2 := by
  unfold setPortVlanStpState
  split
  · exact List.foldlRecOn (motive := fun x : Int × BridgeStp => I x.2) _ _ h
      fun x hx q _ => hstep x.2 q hx
  · exact hstep s p h

/-- A state in a VLAN without a group of its own, also on a bond. -/
theorem setPortVlanStpState_default (hv : s.sw.lookupStpid v = 0) {b : String}
    (hb : Stgs.bcmState st = some b) (q : Nat) :
    (setPortVlanStpState members s p v st).2.programmed.lookup (q, 1) =
      if q ∈ (if Nbi.isLag p then members p else [p]) then some b
      else s.programmed.lookup (q, 1) := by
  unfold setPortVlanStpState
  split
  · generalize hx : ((0 : Int), s) = x
    obtain rfl : x.2 = s := by rw [← hx]
    clear hx
    induction members p generalizing x with
    | nil => simp
    | cons m l ih =>
      rw [List.foldl_cons, ih]
      · rw [program_default hv hb]
        by_cases hq : q = m <;> simp [hq]
      · rw [program_sw]
        exact hv
  · rw [program_default hv hb]
    simp

/-- The loop over the VLANs of a port. -/
theorem setPortVlanStpState_loop {l : List (Nat × Nat)} (hwf : s.sw.WF)
    (hl : ∀ it ∈ l, s.sw.vlanToStg.lookup it.1 ≠ none) :
    let s' := l.foldl (fun s it => (setPortVlanStpState members s p it.1 it.2).2) s
    s'.sw = s.sw ∧ s'.states = s.states ∧ SameDefault s s' := by
  refine List.foldlRecOn
    (motive := fun t : BridgeStp => t.sw = s.sw ∧ t.states = s.states ∧ SameDefault s t)
    _ _ ⟨rfl, rfl, fun _ => rfl⟩ fun t ht it hit => ?_
  refine setPortVlanStpState_keeps
    (I := fun u => u.sw = s.sw ∧ u.states = s.states ∧ SameDefault s u) ht fun u q hu => ?_
  obtain ⟨hsw, hst, hd⟩ := hu
  have hd' : SameDefault u (u.program q it.1 it.2).2 :=
    program_own (by rw [hsw]; exact hwf) (by rw [hsw]; exact hl it hit)
  exact ⟨(program_sw ..).trans hsw, (program_states ..).trans hst, fun r => (hd' r).trans (hd r)⟩

/-- The VLANs of `get_min_states` are recorded ones. -/
theorem ascending_recorded {t : BridgeStpStates} {it : Nat × Nat}
    (h : it ∈ ascending (t.getMinStates p)) : t.pvStates.lookup it.1 ≠ none := by
  unfold ascending at h
  rw [List.mem_insertionSort, List.mem_map] at h
  obtain ⟨⟨v, st⟩, hmem, rfl⟩ := h
  have hl := AList.mem_lookup_iff.mpr hmem
  rw [BridgeStpStates.lookup_getMinStates] at hl
  intro hnone
  simp [BridgeStpStates.cell, hnone] at hl

end Program

/-! ## One event -/

section Step

variable {members : Nat → List Nat} {s : BridgeStp} {g : Given} {p v st : Nat}

theorem Inv.setPortVlans (h : Inv s) (members : Nat → List Nat) (p : Nat) :
    (setPortVlans members s p).sw = s.sw ∧ (setPortVlans members s p).states = s.states ∧
      SameDefault s (setPortVlans members s p) :=
  setPortVlanStpState_loop h.wf fun it hit => h.own it.1 (ascending_recorded hit)

/-- The default group after a change of the global state. -/
theorem Inv.setPortStpState (h : Inv s) (members : Nat → List Nat) (hp : p < 2 ^ 16) (st : Nat) :
    Inv (setPortStpState members s p st) ∧
      ∃ s₁, s₁.sw = s.sw ∧ SameDefault s s₁ ∧
        setPortStpState members s p st = (s₁.program p 0 st).2 := by
  have h₀ : Inv { s with states := s.states.addGlobalState p st } := ⟨h.wf, h.own⟩
  obtain ⟨hsw, hst, hd⟩ := h₀.setPortVlans members p
  simp only [BridgeStp.setPortStpState, setPortVlanStpState_phys hp]
  refine ⟨⟨?_, ?_⟩, _, hsw, hd, rfl⟩
  · rw [program_sw, hsw]; exact h.wf
  · rw [program_sw, hsw, program_states, hst]; exact h.own

/-- The same, also for a bond. -/
theorem Inv.lookup_setPortStpState (h : Inv s) (members : Nat → List Nat) (p : Nat) {b : String}
    (hb : Stgs.bcmState st = some b) (q : Nat) :
    (BridgeStp.setPortStpState members s p st).programmed.lookup (q, 1) =
      if s.sw.lookupStpid 0 = 0 ∧ q ∈ (if Nbi.isLag p then members p else [p]) then some b
      else s.programmed.lookup (q, 1) := by
  have h₀ : Inv { s with states := s.states.addGlobalState p st } := ⟨h.wf, h.own⟩
  obtain ⟨hsw, -, hd⟩ := h₀.setPortVlans members p
  simp only [BridgeStp.setPortStpState]
  generalize BridgeStp.setPortVlans members { s with states := s.states.addGlobalState p st } p = t
    at hsw hd ⊢
  by_cases h0 : s.sw.lookupStpid 0 = 0
  · rw [setPortVlanStpState_default (by rw [hsw]; exact h0) hb, hd q]
    simp only [h0, true_and]
  · have hown : SameDefault t (setPortVlanStpState members t p 0 st).2 := by
      refine (setPortVlanStpState_keeps (I := fun u => u.sw = t.sw ∧ SameDefault t u)
        ⟨rfl, fun _ => rfl⟩ fun u m hu => ?_).2
      have hprogram : SameDefault u (u.program m 0 st).2 :=
        program_own (by rw [hu.1, hsw]; exact h.wf)
          (by rw [hu.1, hsw]; exact mt h.wf.lookupStpid_eq_zero.mpr h0)
      exact ⟨(program_sw ..).trans hu.1, fun r => (hprogram r).trans (hu.2 r)⟩
    rw [hown q, hd q]
    simp only [h0, false_and, if_false]

/-- A port that is given a state of the bridge. -/
theorem Inv.default_setPortStpState (h : Inv s) (hd : DefaultIsGlobal (some (s, g)))
    (hp : p < 2 ^ 16) :
    DefaultIsGlobal (some (BridgeStp.setPortStpState members s p st, g.insert p st)) ↔
      st ≤ BR_STATE_BLOCKING ∧ (s.sw.lookupStpid 0 = 0 ∨ g.lookup p = some st) := by
  obtain ⟨-, s₁, hsw, hs₁, heq⟩ := h.setPortStpState members hp st
  have hold : ∀ q, (s₁.programmed.lookup (q, 1)).map some = (g.lookup q).map Stgs.bcmState :=
    fun q => by rw [hs₁ q]; exact hd q
  rw [heq, ← Stgs.bcmState_isSome]
  unfold DefaultIsGlobal
  cases hb : Stgs.bcmState st with
  | none =>
    -- Nothing is programmed, and no state stands for this one.
    rw [program_invalid hb]
    simp only [reduceCtorEq, exists_false, false_and, iff_false, not_forall]
    refine ⟨p, ?_⟩
    rw [AList.lookup_insert, Option.map_some, hb]
    cases s₁.programmed.lookup (p, 1) <;> simp
  | some b =>
    simp only [Option.some.injEq, exists_eq', true_and]
    by_cases h0 : s.sw.lookupStpid 0 = 0
    · refine iff_of_true (fun q => ?_) (.inl h0)
      rw [program_default (by rw [hsw]; exact h0) hb, Table.lookup_insert_ite]
      split
      · simp [hb]
      · exact hold q
    · have hown : SameDefault s₁ (s₁.program p 0 st).2 :=
        program_own (by rw [hsw]; exact h.wf) (by rw [hsw]; exact mt h.wf.lookupStpid_eq_zero.mpr h0)
      rw [or_iff_right h0]
      constructor
      · intro hall
        have hp' := hall p
        rw [hown p, hold p, AList.lookup_insert, Option.map_some, hb] at hp'
        obtain ⟨st', hst', he⟩ := Option.map_eq_some_iff.mp hp'
        rw [hst', Stgs.bcmState_inj he hb]
      · intro hg q
        rw [hown q, hold q, Table.lookup_insert_ite]
        split
        · subst_vars; rw [hg]
        · rfl

/-- What recording a state in a VLAN does to the VLANs with a record. -/
theorem lookup_addPvlanState (t : BridgeStpStates) (p v st w : Nat) :
    (t.addPvlanState p v st).1.pvStates.lookup w ≠ none ↔
      w = v ∨ t.pvStates.lookup w ≠ none := by
  unfold BridgeStpStates.addPvlanState
  cases h : t.pvStates.lookup v with
  | none => grind
  | some m => grind

theorem addPvlanState_new (t : BridgeStpStates) (p v st : Nat) :
    (t.addPvlanState p v st).2 = true ↔ t.pvStates.lookup v = none := by
  unfold BridgeStpStates.addPvlanState
  cases t.pvStates.lookup v <;> simp

/-- A dropped state removes the record of no other VLAN, and adds none. -/
theorem lookup_delPvlanState (t : BridgeStpStates) (p v w : Nat) :
    ((t.delPvlanState p v).1.pvStates.lookup w ≠ none → t.pvStates.lookup w ≠ none) ∧
    ((t.delPvlanState p v).2 = true → (t.delPvlanState p v).1.pvStates.lookup v = none) := by
  unfold BridgeStpStates.delPvlanState
  cases h : t.pvStates.lookup v with
  | none => simp
  | some m =>
    simp only
    split
    · constructor <;> grind
    · constructor <;> grind

/-- A new record that is dropped at once leaves none. -/
theorem lookup_del_addPvlanState (t : BridgeStpStates) (p v st : Nat)
    (h : t.pvStates.lookup v = none) :
    ((t.addPvlanState p v st).1.delPvlanState p v).1.pvStates.lookup v = none := by
  have hadd : (t.addPvlanState p v st).1.pvStates.lookup v =
      some ((∅ : Table Nat Nat).emplace (u16 p) st) := by
    unfold BridgeStpStates.addPvlanState
    rw [h]
    simp only
    rw [Table.lookup_emplace, if_pos rfl, h]
    rfl
  have hempty : (((∅ : Table Nat Nat).emplace (u16 p) st).erase (u16 p)).entries.isEmpty = true := by
    have hnew : (u16 p) ∉ (∅ : Table Nat Nat) := AList.notMem_empty _
    rw [Table.emplace, if_neg hnew, Table.erase_insert_of_notMem hnew]
    rfl
  unfold BridgeStpStates.delPvlanState
  rw [hadd]
  simp only [hempty, if_true]
  rw [Table.lookup_erase_ite, if_pos rfl]

/-- The last step of `add_port_vlan_stp_state`, once the state is recorded and the VLAN has a
group. -/
theorem Inv.program_recorded (h : Inv s) {sw : Stgs} (hwf : sw.WF) {v : Nat}
    (hv : sw.vlanToStg.lookup v ≠ none)
    (hmono : ∀ w, s.sw.vlanToStg.lookup w ≠ none → sw.vlanToStg.lookup w ≠ none) (p st x : Nat) :
    let s₁ : BridgeStp := { s with states := (s.states.addPvlanState p v st).1, sw := sw }
    Inv (s₁.program p v x).2 ∧ SameDefault s (s₁.program p v x).2 := by
  intro s₁
  refine ⟨⟨?_, ?_⟩, program_own (s := s₁) hwf hv⟩
  · rw [program_sw]
    exact hwf
  · rw [program_sw, program_states]
    intro w hw
    rcases (lookup_addPvlanState s.states p v st w).mp hw with rfl | hw
    · exact hv
    · exact hmono w (h.own w hw)

/-- Recording a state in a VLAN: the handler returns, and does not touch the default group. -/
theorem Inv.addPortVlanStpState (h : Inv s) (members : Nat → List Nat) (hp : p < 2 ^ 16) (v st : Nat)
    (rpcCreate rpcVlanAdd : Int) :
    ∃ rv s', addPortVlanStpState members s p v st rpcCreate rpcVlanAdd = some (rv, s') ∧
      Inv s' ∧ SameDefault s s' := by
  unfold BridgeStp.addPortVlanStpState
  simp only [setPortVlanStpState_phys hp]
  cases hnew : (s.states.addPvlanState p v st).2 with
  | false =>
    have hv : s.states.pvStates.lookup v ≠ none := by
      rw [ne_eq, ← addPvlanState_new s.states p v st, hnew]; simp
    exact ⟨_, _, rfl, h.program_recorded h.wf (h.own v hv) (fun _ hw => hw) p st _⟩
  | true =>
    have hnone := (addPvlanState_new s.states p v st).mp hnew
    obtain ⟨rv, sw, hc, hwf, hcases⟩ := h.wf.ofdpaStgCreate_cases v rpcCreate rpcVlanAdd
    simp only [hc, if_true]
    by_cases hneg : rv < 0
    · -- The creation failed: the record is dropped again.
      rw [if_pos hneg]
      have hsame : sw.vlanToStg = s.sw.vlanToStg := by
        rcases hcases with ⟨hsame, -⟩ | ⟨hge, -⟩
        · exact hsame
        · omega
      refine ⟨_, _, rfl, ⟨hwf, fun w hw => ?_⟩, fun _ => rfl⟩
      rw [hsame]
      by_cases hwv : w = v
      · subst hwv
        exact absurd (lookup_del_addPvlanState s.states p w st hnone) hw
      · have hw' := (lookup_delPvlanState _ p v w).1 hw
        have hrec := (lookup_addPvlanState s.states p v st w).mp hw'
        exact h.own w (hrec.resolve_left hwv)
    · rw [if_neg hneg]
      refine ⟨_, _, rfl, ?_⟩
      rcases hcases with ⟨hsame, hor⟩ | ⟨-, -, i, -, hins⟩
      · obtain ⟨i, hi⟩ := hor.resolve_left hneg
        exact h.program_recorded hwf (by rw [hsame, hi]; simp)
          (fun w hw => by rw [hsame]; exact hw) p st _
      · exact h.program_recorded hwf (by simp [hins]) (fun w hw => by rw [hins]; grind) p st _

/-- Dropping a state: `FORWARDING` is programmed first, and nothing after it. -/
theorem Inv.delPortVlanStpState (h : Inv s) (members : Nat → List Nat) (hp : p < 2 ^ 16) (v : Nat)
    (rpcDestroy : Int) :
    Inv (delPortVlanStpState members s p v rpcDestroy).2 ∧
      (delPortVlanStpState members s p v rpcDestroy).2.programmed =
        (s.program p v BR_STATE_FORWARDING).2.programmed := by
  unfold BridgeStp.delPortVlanStpState
  simp only [setPortVlanStpState_phys hp, program_sw, program_states]
  have hdel := lookup_delPvlanState s.states p v
  cases hlast : (s.states.delPvlanState p v).2 with
  | false =>
    refine ⟨⟨?_, fun w hw => ?_⟩, rfl⟩
    · exact h.wf
    · exact h.own w ((hdel w).1 hw)
  | true =>
    obtain ⟨hwf, hcases⟩ := h.wf.ofdpaStgDestroy_cases v rpcDestroy
    refine ⟨⟨hwf, fun w hw => ?_⟩, rfl⟩
    have hold := h.own w ((hdel w).1 hw)
    have hne : w ≠ v := by rintro rfl; exact hw ((hdel w).2 hlast)
    rcases hcases with hsame | hsame
    · simp only [if_true, hsame]; exact hold
    · simp only [if_true, hsame]; grind

theorem Inv.default_dropPvlan (h : Inv s) (hd : DefaultIsGlobal (some (s, g))) (hp : p < 2 ^ 16)
    (v : Nat) (rpcDestroy : Int) :
    DefaultIsGlobal (some ((BridgeStp.delPortVlanStpState members s p v rpcDestroy).2, g)) ↔
      s.sw.lookupStpid v ≠ 0 ∨ g.lookup p = some BR_STATE_FORWARDING := by
  simp only [DefaultIsGlobal, (h.delPortVlanStpState members hp v rpcDestroy).2]
  by_cases hv : s.sw.lookupStpid v = 0
  · have hb : Stgs.bcmState BR_STATE_FORWARDING = some "forward" := rfl
    simp only [program_default hv hb]
    rw [or_iff_right (not_not.mpr hv)]
    constructor
    · intro hall
      have hp' := hall p
      rw [if_pos rfl, Option.map_some] at hp'
      obtain ⟨st', hst', he⟩ := Option.map_eq_some_iff.mp hp'.symm
      rw [hst', Stgs.bcmState_inj he hb]
    · intro hg q
      split
      · subst_vars; rw [hg]; rfl
      · exact hd q
  · refine iff_of_true (fun q => ?_) (.inl hv)
    rw [program_own h.wf (mt h.wf.lookupStpid_eq_zero.mpr hv) q]
    exact hd q

/-- The invariant of a run: the handlers have all returned. -/
def Good : Option (BridgeStp × Given) → Prop
  | none => False
  | some (s, _) => Inv s

theorem step_good (o : Option (BridgeStp × Given)) (e : PhysEv) (h : Good o)
    (hd : DefaultIsGlobal o) :
    Good (step members o e) ∧ (DefaultIsGlobal (step members o e) ↔ Keeps o e) := by
  obtain ⟨e, hp⟩ := e
  match o, e, hp, h, hd with
  | some (s, g), .setPortStpState p st, hp, h, hd =>
    exact ⟨(Inv.setPortStpState h members hp st).1, Inv.default_setPortStpState h hd hp⟩
  | some (s, g), .setPvlanStp isBridge p v st rpcCreate rpcVlanAdd, hp, h, hd =>
    by_cases hskip : isBridge = true ∨ ¬ p > 0
    · have hx : setPvlanStp members s isBridge p v st rpcCreate rpcVlanAdd = some (0, s) := by
        unfold setPvlanStp
        rcases hskip with hs | hs <;> simp [hs]
      simp only [step, exec, hx]
      exact ⟨h, iff_of_true hd trivial⟩
    · obtain ⟨hb, hpos⟩ := not_or.mp hskip
      obtain ⟨rv, s', hx, hi, hs⟩ :=
        Inv.addPortVlanStpState h members (show p < 2 ^ 16 from hp) v st rpcCreate rpcVlanAdd
      have hx' : setPvlanStp members s isBridge p v st rpcCreate rpcVlanAdd = some (rv, s') := by
        rw [setPvlanStp, if_neg hb, if_pos (not_not.mp hpos), hx]
      simp only [step, exec, hx']
      exact ⟨hi, iff_of_true (fun q => by rw [hs q]; exact hd q) trivial⟩
  | some (s, g), .dropPvlanStp isBridge p v rpcDestroy, hp, h, hd =>
    by_cases hskip : isBridge = true ∨ p = 0
    · have hx : dropPvlanStp members s isBridge p v rpcDestroy = (0, s) := by
        unfold dropPvlanStp
        rcases hskip with hs | hs <;> simp [hs]
      simp only [step, exec, hx]
      exact ⟨h, iff_of_true hd (hskip.imp_right .inl)⟩
    · obtain ⟨hb, hpos⟩ := not_or.mp hskip
      have hx : dropPvlanStp members s isBridge p v rpcDestroy =
          BridgeStp.delPortVlanStpState members s p v rpcDestroy := by
        rw [dropPvlanStp, if_neg hb, if_pos (by omega)]
      have hkeeps : Keeps (some (s, g)) ⟨.dropPvlanStp isBridge p v rpcDestroy, hp⟩ ↔
          s.sw.lookupStpid v ≠ 0 ∨ g.lookup p = some BR_STATE_FORWARDING := by
        change isBridge = true ∨ p = 0 ∨ _ ↔ _
        rw [or_iff_right hb, or_iff_right hpos]
      rw [hkeeps]
      simp only [step, exec, hx]
      exact ⟨(Inv.delPortVlanStpState h members hp v rpcDestroy).1,
        Inv.default_dropPvlan h hd hp v rpcDestroy⟩

end Step

/-- **The default group.** Along a run of events on physical ports, with any results of the calls
that create and destroy groups, STG 1 has in every state the global states given last exactly if
every event of the run meets `Keeps`. -/
theorem defaultIsGlobal_iff_along (members : Nat → List Nat) (es : List PhysEv) :
    (∀ n, DefaultIsGlobal (run (step members) (some ({}, ∅)) (es.take n))) ↔
      Along (step members) Keeps (some ({}, ∅)) es := by
  refine along_iff_of_inv (I := Good) ?_ ?_ ?_ ?_ es
  · exact inv_init
  · exact fun _ => rfl
  · exact fun o e h hd => (step_good o e h hd).1
  · exact fun o e h hd => (step_good o e h hd).2

/-- A port is blocked, and then leaves a VLAN that has no group: it forwards again. -/
theorem dropVlan10_not_default :
    ¬ DefaultIsGlobal (run (step fun _ => []) (some ({}, ∅))
      [⟨.setPortStpState 1 BR_STATE_BLOCKING, by decide⟩, ⟨.dropPvlanStp false 1 10 0, by decide⟩]) := by
  intro h
  have := h 1
  revert this
  decide

end BridgeStp

end Basebox
