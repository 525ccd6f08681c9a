import Basebox.OfDpa.Flood
import Basebox.OfDpa.Lag
import Basebox.OfDpa.McMembers
import Basebox.OfDpa.StgSwitch

/-!
# The controller across connections (`handle_dpt_open`, `handle_dpt_close`)

The maps in which the controller keeps what it has put on the switch, next to the switch, over
connections that come and go. `handle_dpt_open` clears the switch; `handle_dpt_close` clears
`l2_domain` and `lag`, but neither `mc_groups` nor the spanning tree groups.

* `Ctl`, `step`: the controller and the switch, and the calls. Without a datapath a call of OpenFlow
  fails before it changes anything; between the loss of the connection and `handle_dpt_close` it
  fails at its first message.
* `Reconnects`: the maps are empty after each opening, every spanning tree group of a VLAN is on the
  switch, and the next join of a group creates it there.
* `reconnects_iff_along`: that is so in a run exactly if no multicast group and no spanning tree
  group of a VLAN is left when a connection is opened.
-/

namespace Basebox

namespace McGroups

/-- A call on a connected switch: the new list and the messages. -/
def exec (fm : FmDriver) (s : McGroups) : Ev → McGroups × List Msg
  | .join port vid mac => join fm s port vid mac
  | .leave port vid mac disableOnly =>
    ((leave fm s port vid mac disableOnly).1, (leave fm s port vid mac disableOnly).2.1)
  | .rejoinAllInVlan port vid => rejoinAllInVlan fm s port vid
  | .leaveAllInVlan port vid => leaveAllInVlan fm s port vid

/-- `l2_multicast_group_leave` when its first message throws `eRofConnNotConnected`: an entry
without ports then stays. -/
def leaveLost (fm : FmDriver) (s : McGroups) (port vid : Nat) (mac : Mac) (disableOnly : Bool) :
    McGroups :=
  let groupId := fm.interfaceGroup port vid
  match s.find? (hasKey mac vid) with
  | none => s
  | some e =>
    if groupId ∈ e.l2Interface then
      modifyFirst (hasKey mac vid) (fun _ => { e with
        l2Interface := e.l2Interface.erase groupId
        disabledL2Interface :=
          if disableOnly then insert groupId e.disabledL2Interface else e.disabledL2Interface }) s
    else (leave fm s port vid mac disableOnly).1

/-- To only disable a port does not drop the entry anyway, so `leave_all_in_vlan` leaves the same
list with and without a connection. -/
theorem leaveLost_disableOnly (fm : FmDriver) (s : McGroups) (port vid : Nat) (mac : Mac) :
    leaveLost fm s port vid mac true = (leave fm s port vid mac true).1 := by
  unfold leaveLost leave
  cases s.find? (hasKey mac vid) with
  | none => rfl
  | some e =>
    by_cases hin : fm.interfaceGroup port vid ∈ e.l2Interface
    · simp only [hin, not_true_eq_false, if_true, if_false, Finset.insert_ne_empty]
      split <;> rfl
    · simp [hin]

/-- A call after the connection was lost. The messages throw after the changes to the list. -/
def execLost (fm : FmDriver) (s : McGroups) : Ev → McGroups
  | .leave port vid mac disableOnly => leaveLost fm s port vid mac disableOnly
  | e => (exec fm s e).1

/-- The call is a join of the group. -/
def Ev.JoinsKey (k : Mac × Nat) (e : Ev) : Prop := ∃ port, e = .join port k.2 k.1

end McGroups

namespace Lags

/-- The calls on LAGs, with the results of the OF-DPA calls. -/
inductive Ev where
  | create (rpc : Int)
  | remove (lagId : Nat) (rpc : Int)
  | addMember (lagId portId : Nat) (rpc : Int)
  | removeMember (lagId portId : Nat) (rpc : Int)
  deriving DecidableEq

/-- The LAGs after a call. -/
def step (c : Lags) : Ev → Lags
  | .create rpc => (c.lagCreate rpc).2.2
  | .remove lagId rpc => (c.lagRemove lagId rpc).2
  | .addMember lagId portId rpc => (c.lagAddMember lagId portId rpc).2
  | .removeMember lagId portId rpc => (c.lagRemoveMember lagId portId rpc).2

end Lags

/-- The controller and the switch. -/
structure Ctl where
  /-- `none` if `dptid` names no datapath, else whether its connection is up. -/
  dpt : Option Bool := none
  connected : Bool := false
  l2Domain : L2Domain := ∅
  lags : Lags := {}
  mcGroups : McGroups := []
  /-- The spanning tree groups of the controller and of the switch. -/
  stgs : Option StgSwitch := some {}
  sw : Switch := {}

namespace Ctl

/-- The connection goes up and down, and the program calls in between. -/
inductive Ev where
  /-- `handle_dpt_open`. It gives up on another OpenFlow version or an invalid address. -/
  | dptOpen (ok : Bool)
  /-- The connection is lost; `handle_dpt_close` comes later. -/
  | connLost
  | dptClose
  | l2Domain (e : L2Domain.Ev)
  | multicast (e : McGroups.Ev)
  | stg (e : Stgs.Ev)
  | lag (e : Lags.Ev)

/-- The switch after `flow_mod_reset`, `group_mod_reset` and `ofdpaStgReset`. -/
def clearSwitch (s : Ctl) : Ctl :=
  { s with sw := {}, stgs := s.stgs.map fun t => { t with groups := ∅ } }

/-- `handle_dpt_open`, with the flag `clear_switch_configuration`. -/
def handleDptOpen (clear : Bool) (s : Ctl) (ok : Bool) : Ctl :=
  let s := { s with dpt := some true }
  if ok then
    let s := if clear then s.clearSwitch else s
    { s with connected := true }
  else s

/-- `handle_dpt_close`. `tunnel_dlf_flood` is not part of the model. -/
def handleDptClose (s : Ctl) : Ctl :=
  { s with dpt := none, connected := false, l2Domain := ∅, lags := { s.lags with lag := ∅ } }

/-- The messages that a call sends. -/
def sent (fm : FmDriver) (s : Ctl) : Ev → List Msg
  | .l2Domain e => if s.dpt = some true then (s.l2Domain.exec fm e).2 else []
  | .multicast e => if s.dpt = some true then (s.mcGroups.exec fm e).2 else []
  | _ => []

/-- The controller after an event. -/
def step (fm : FmDriver) (clear : Bool) (s : Ctl) (e : Ev) : Ctl :=
  match e with
  | .dptOpen ok => handleDptOpen clear s ok
  | .connLost => { s with dpt := s.dpt.map fun _ => false }
  | .dptClose => handleDptClose s
  | .l2Domain ev =>
    match s.dpt, ev with
    | none, _ => s
    | some true, ev => { s with l2Domain := (s.l2Domain.exec fm ev).1
                                sw := s.sw.applyAll (sent fm s e) }
    -- The interface group of the port comes first, and its message fails.
    | some false, .add _ _ _ => s
    | some false, .remove port vid => { s with l2Domain := (s.l2Domain.exec fm (.remove port vid)).1 }
  | .multicast ev =>
    match s.dpt with
    | none => s
    | some true => { s with mcGroups := (s.mcGroups.exec fm ev).1
                            sw := s.sw.applyAll (sent fm s e) }
    | some false => { s with mcGroups := s.mcGroups.execLost fm ev }
  | .stg ev => { s with stgs := StgSwitch.step s.stgs ev }
  | .lag ev => if s.connected then { s with lags := s.lags.step ev } else s

/-- `lookup_stpid`. -/
def lookupStpid (s : Ctl) (vlanId : Nat) : Nat :=
  s.stgs.elim 0 fun t => t.controller.lookupStpid vlanId

/-- The spanning tree groups of the switch, other than STG 1. -/
def switchStgs (s : Ctl) : Finset Nat := s.stgs.elim ∅ StgSwitch.groups

/-! ## What is to hold -/

/-- The maps of the controller are those of an empty switch. -/
structure DescribesEmpty (s : Ctl) : Prop where
  l2Domain : s.l2Domain = ∅
  lag : s.lags.lag = ∅
  mcGroups : s.mcGroups = []
  stgs : ∃ t, s.stgs = some t ∧ t.controller.vlanToStg = ∅ ∧ t.controller.stgInUse = ∅

/-- The messages that create a group with one port, and its flow. -/
def CreatesGroup (fm : FmDriver) (port vid : Nat) (mac : Mac) (ms : List Msg) : Prop :=
  ∃ index, ms = [.groupAdd (fm.groupIdL2Multicast index vid) (.buckets {fm.interfaceGroup port vid}),
    .flowAdd (.multicastVlan vid mac) (fm.groupIdL2Multicast index vid)]

/-- What is to hold in a run of a controller that clears the switch. -/
structure Reconnects (fm : FmDriver) (es : List Ev) : Prop where
  /-- After an opening, the maps are empty. -/
  empty : ∀ es₁ es₂, es = es₁ ++ .dptOpen true :: es₂ →
    DescribesEmpty (run (step fm true) {} (es₁ ++ [.dptOpen true]))
  /-- In every state, the group of a VLAN is on the switch. -/
  stgs : ∀ n vlanId, (run (step fm true) {} (es.take n)).lookupStpid vlanId ≠ 0 →
    (run (step fm true) {} (es.take n)).lookupStpid vlanId ∈
      (run (step fm true) {} (es.take n)).switchStgs
  /-- After an opening, the next join of a group creates it and its flow. -/
  joins : ∀ n port vid mac,
    Since (· = .dptOpen true) (fun e => ∃ ev, e = .multicast ev ∧ ev.JoinsKey (mac, vid))
      (es.take n) →
    (run (step fm true) {} (es.take n)).dpt = some true →
    CreatesGroup fm port vid mac
      (sent fm (run (step fm true) {} (es.take n)) (.multicast (.join port vid mac)))

/-- A datapath is opened only when there is none. -/
def OpensClosed (s : Ctl) : Ev → Prop
  | .dptOpen _ => s.dpt = none
  | _ => True

/-- When a connection is opened, no multicast group is left and no VLAN has a group. -/
def OpensEmpty (s : Ctl) : Ev → Prop
  | .dptOpen true => s.mcGroups = [] ∧ ∀ vlanId, s.lookupStpid vlanId = 0
  | _ => True

/-! ## The multicast groups -/

section Multicast

variable {fm : FmDriver} {s : McGroups} {k : Mac × Nat}

/-- A call adds no other entry than that of the group it joins. -/
theorem mem_keys_exec {ev : McGroups.Ev} (hev : ¬ ev.JoinsKey k)
    (hk : k ∈ (s.exec fm ev).1.map McEntry.key) : k ∈ s.map McEntry.key := by
  cases ev with
  | join port vid mac =>
    rcases McGroups.mem_keys_join hk with rfl | hk
    · exact absurd ⟨port, rfl⟩ hev
    · exact hk
  | leave port vid mac d => exact (McGroups.map_leave_sublist (fun _ _ _ => rfl) d).subset hk
  | rejoinAllInVlan port vid =>
    simp only [McGroups.exec, McGroups.rejoinAllInVlan, McGroups.rejoinLoop_eq_walk] at hk
    rwa [map_walk fun t e he => McGroups.keys_rejoinBody he] at hk
  | leaveAllInVlan port vid =>
    simp only [McGroups.exec, McGroups.leaveAllInVlan, McGroups.leaveLoop_eq_walk] at hk
    rwa [map_walk fun t e _ => McGroups.keys_leaveBody e] at hk

theorem mem_keys_execLost {ev : McGroups.Ev} (hev : ¬ ev.JoinsKey k)
    (hk : k ∈ (s.execLost fm ev).map McEntry.key) : k ∈ s.map McEntry.key := by
  cases ev with
  | leave port vid mac d =>
    simp only [McGroups.execLost, McGroups.leaveLost] at hk
    cases hf : s.find? (McGroups.hasKey mac vid) with
    | none => simpa only [hf] using hk
    | some e =>
      simp only [hf] at hk
      split at hk
      · rwa [map_modifyFirst_of_find? hf (by rfl)] at hk
      · exact (McGroups.map_leave_sublist (fun _ _ _ => rfl) d).subset hk
  | join port vid mac => exact mem_keys_exec hev hk
  | rejoinAllInVlan port vid => exact mem_keys_exec hev hk
  | leaveAllInVlan port vid => exact mem_keys_exec hev hk

/-- A join of a group without an entry creates it. -/
theorem createsGroup_join (fm : FmDriver) (port vid : Nat) (mac : Mac)
    (hs : (mac, vid) ∉ s.map McEntry.key) :
    CreatesGroup fm port vid mac (McGroups.join fm s port vid mac).2 := by
  have hf : s.find? (McGroups.hasKey mac vid) = none := by
    rw [List.find?_eq_none]
    intro e he hk
    exact hs (List.mem_map.mpr ⟨e, he, beq_iff_eq.mp hk⟩)
  refine ⟨McGroups.freeIndex s vid, ?_⟩
  simp [McGroups.join, hf, McGroups.joinMsgs, Msg.group]

end Multicast

/-! ## One step -/

/-- Without a datapath there are no flood sets and no LAGs, and the spanning tree groups of the
VLANs are on the switch. -/
structure Inv (s : Ctl) : Prop where
  closed : s.dpt = none → s.connected = false ∧ s.l2Domain = ∅ ∧ s.lags.lag = ∅
  stgs : ∃ t, s.stgs = some t ∧ t.controller.WF ∧ t.Covers

section Step

variable {fm : FmDriver} {s : Ctl}

theorem inv_init : Inv {} :=
  ⟨fun _ => ⟨rfl, rfl, rfl⟩, {}, rfl, Stgs.wf_init, fun v i h => by simp at h⟩

theorem mcGroups_dptOpen (ok : Bool) : (handleDptOpen true s ok).mcGroups = s.mcGroups := by
  cases ok <;> rfl

theorem Inv.lookup_of_opensEmpty (h : Inv s) (he : ∀ vlanId, s.lookupStpid vlanId = 0)
    {t : StgSwitch} (ht : s.stgs = some t) (v : Nat) :
    t.controller.vlanToStg.lookup v = none := by
  obtain ⟨t', ht', hwf, -⟩ := h.stgs
  rw [ht, Option.some.injEq] at ht'
  subst ht'
  have hv := he v
  simp only [lookupStpid, ht, Option.elim_some] at hv
  exact hwf.lookupStpid_eq_zero.mp hv

theorem Inv.stg (h : Inv s) (e : Stgs.Ev) :
    ∃ t, StgSwitch.step s.stgs e = some t ∧ t.controller.WF ∧ t.Covers := by
  obtain ⟨t, ht, hwf, hc⟩ := h.stgs
  obtain ⟨t', ht', hwf'⟩ := StgSwitch.step_inv e ⟨t, ht, hwf⟩
  refine ⟨t', ht', hwf', ?_⟩
  rw [ht] at ht'
  cases e with
  | create v c a =>
    obtain ⟨⟨rv, t''⟩, he, rfl⟩ := Option.map_eq_some_iff.mp ht'
    exact hc.create hwf v c a he
  | destroy v d =>
    cases ht'
    exact hc.destroy hwf v d

theorem Inv.dptOpen (h : Inv s) (ok : Bool) (he : OpensEmpty s (.dptOpen ok)) :
    Inv (handleDptOpen true s ok) := by
  obtain ⟨t, ht, hwf, hc⟩ := h.stgs
  cases ok with
  | false => exact ⟨fun hd => by simp [handleDptOpen] at hd, t, ht, hwf, hc⟩
  | true =>
    refine ⟨fun hd => by simp [handleDptOpen, clearSwitch] at hd, { t with groups := ∅ }, ?_, hwf,
      fun v i hv => ?_⟩
    · simp [handleDptOpen, clearSwitch, ht]
    · have := h.lookup_of_opensEmpty he.2 ht v
      rw [this] at hv
      cases hv

theorem Inv.step (h : Inv s) (e : Ev) (he : OpensEmpty s e) : Inv (step fm true s e) := by
  cases e with
  | dptOpen ok => exact h.dptOpen ok he
  | connLost =>
    refine ⟨fun hd => h.closed ?_, h.stgs⟩
    simpa [Ctl.step] using hd
  | dptClose => exact ⟨fun _ => ⟨rfl, rfl, rfl⟩, h.stgs⟩
  | l2Domain ev =>
    rcases hd : s.dpt with _ | _ | _
    · simpa only [Ctl.step, hd] using h
    · cases ev with
      | add _ _ _ => simpa only [Ctl.step, hd] using h
      | remove port vid =>
        simp only [Ctl.step, hd]
        exact ⟨nofun, h.stgs⟩
    · simp only [Ctl.step, hd]
      exact ⟨nofun, h.stgs⟩
  | multicast ev =>
    rcases hd : s.dpt with _ | _ | _
    · simpa only [Ctl.step, hd] using h
    · simp only [Ctl.step, hd]
      exact ⟨nofun, h.stgs⟩
    · simp only [Ctl.step, hd]
      exact ⟨nofun, h.stgs⟩
  | stg ev => exact ⟨h.closed, h.stg ev⟩
  | lag ev =>
    simp only [Ctl.step]
    split
    · rename_i hcon
      refine ⟨fun hd => ?_, h.stgs⟩
      have := (h.closed hd).1
      simp [hcon] at this
    · exact h

/-- After the opening of a connection the maps are empty exactly if no group was left. -/
theorem describesEmpty_dptOpen_iff (h : Inv s) (hd : s.dpt = none) :
    DescribesEmpty (step fm true s (.dptOpen true)) ↔ OpensEmpty s (.dptOpen true) := by
  obtain ⟨t, ht, hwf, -⟩ := h.stgs
  obtain ⟨-, hdom, hlag⟩ := h.closed hd
  constructor
  · intro hE
    refine ⟨hE.mcGroups, fun v => ?_⟩
    obtain ⟨t', ht', hv, -⟩ := hE.stgs
    simp only [step, handleDptOpen, clearSwitch, if_true, ht, Option.map_some,
      Option.some.injEq] at ht'
    subst ht'
    have hv' : t.controller.vlanToStg = ∅ := hv
    simp [lookupStpid, ht, Stgs.lookupStpid, hv']
  · intro hE
    have hnone := h.lookup_of_opensEmpty hE.2 ht
    refine ⟨hdom, hlag, hE.1, { t with groups := ∅ }, by simp [step, handleDptOpen, clearSwitch, ht],
      Table.eq_empty_of_lookup hnone, ?_⟩
    refine Finset.eq_empty_of_forall_notMem fun i hi => ?_
    obtain ⟨v, hv⟩ := (hwf.inUse i).mp hi
    rw [hnone] at hv
    cases hv

/-- Only a join adds the entry of a group. -/
theorem mem_keys_step {k : Mac × Nat} {e : Ev}
    (he : ¬ ∃ ev, e = .multicast ev ∧ ev.JoinsKey k)
    (hk : k ∈ (step fm true s e).mcGroups.map McEntry.key) : k ∈ s.mcGroups.map McEntry.key := by
  cases e with
  | multicast ev =>
    have hev : ¬ ev.JoinsKey k := fun hj => he ⟨ev, rfl, hj⟩
    rcases hd : s.dpt with _ | _ | _
    · simpa only [step, hd] using hk
    · simp only [step, hd] at hk
      exact mem_keys_execLost hev hk
    · simp only [step, hd] at hk
      exact mem_keys_exec hev hk
  | dptOpen ok =>
    simp only [step, mcGroups_dptOpen] at hk
    exact hk
  | connLost => exact hk
  | dptClose => exact hk
  | stg ev => exact hk
  | l2Domain ev =>
    rcases hd : s.dpt with _ | _ | _
    · simpa only [step, hd] using hk
    · cases ev <;> simpa only [step, hd] using hk
    · simpa only [step, hd] using hk
  | lag ev =>
    simp only [step] at hk
    split at hk <;> exact hk

end Step

/-! ## Runs -/

section Runs

variable {fm : FmDriver} {es : List Ev}

theorem inv_run (hes : Along (step fm true) OpensEmpty {} es) : Inv (run (step fm true) {} es) :=
  run_inv inv_init (fun _ e h he => h.step e he) hes

/-- Since an opening, only a join has added the entry of a group. -/
theorem notMem_keys_run (k : Mac × Nat) (hes : Along (step fm true) OpensEmpty {} es)
    (hk : Since (· = .dptOpen true) (fun e => ∃ ev, e = .multicast ev ∧ ev.JoinsKey k) es) :
    k ∉ (run (step fm true) {} es).mcGroups.map McEntry.key := by
  revert hes hk
  refine run_history (R := fun es (s : Ctl) => Along (step fm true) OpensEmpty {} es →
    Since (· = .dptOpen true) (fun e => ∃ ev, e = .multicast ev ∧ ev.JoinsKey k) es →
    k ∉ s.mcGroups.map McEntry.key) (fun _ hk => absurd hk (since_nil _ _))
    (fun es e ih hes hk => ?_) es
  rw [Along.append] at hes
  rcases (since_concat _ _ es e).mp hk with rfl | ⟨hk, hn⟩
  · have hmc : (run (step fm true) {} es).mcGroups = [] := hes.2.1.1
    simp only [step, mcGroups_dptOpen, hmc]
    simp
  · exact fun hmem => ih hes.1 hk (mem_keys_step hn hmem)

/-- In a run that opens a datapath only when there is none, the maps are empty after each opening,
every spanning tree group of a VLAN is on the switch and the next join of a group creates it,
exactly if no multicast group is left and no VLAN has a spanning tree group when a connection is
opened. -/
theorem reconnects_iff_along (fm : FmDriver) (es : List Ev)
    (hes : Along (step fm true) OpensClosed {} es) :
    Reconnects fm es ↔ Along (step fm true) OpensEmpty {} es := by
  rw [along_iff_split] at hes
  constructor
  · intro h
    -- The condition holds at each opening because it held at those before it.
    suffices hpre : ∀ n, Along (step fm true) OpensEmpty {} (es.take n) by
      simpa using hpre es.length
    intro n
    induction n with
    | zero => trivial
    | succ n ih =>
      rcases lt_or_ge n es.length with hn | hn
      · have hsplit : es = es.take n ++ es[n] :: es.drop (n + 1) := by simp
        rw [List.take_succ_eq_append_getElem hn, Along.append]
        refine ⟨ih, ?_, trivial⟩
        have hclosed := hes _ _ _ hsplit
        have hempty := h.empty (es.take n) (es.drop (n + 1))
        generalize es[n] = e at hsplit hclosed ⊢
        cases e with
        | dptOpen ok =>
          cases ok with
          | false => trivial
          | true =>
            rw [run_concat] at hempty
            exact (describesEmpty_dptOpen_iff (inv_run ih) hclosed).mp (hempty hsplit)
        | _ => trivial
      · rwa [List.take_of_length_le (by omega), ← List.take_of_length_le hn]
  · intro h
    refine ⟨?_, fun n v hv => ?_, fun n port vid mac hk hd => ?_⟩
    · rintro es₁ es₂ rfl
      rw [run_concat]
      have h' := Along.append.mp h
      exact (describesEmpty_dptOpen_iff (inv_run h'.1) (hes _ _ _ rfl)).mpr h'.2.1
    · obtain ⟨t, ht, hwf, hc⟩ := (inv_run (h.take n)).stgs
      simp only [lookupStpid, switchStgs, ht, Option.elim_some] at hv ⊢
      have hv' := hv
      rw [ne_eq, hwf.lookupStpid_eq_zero] at hv'
      obtain ⟨i, hi⟩ := Option.ne_none_iff_exists'.mp hv'
      have hlook : t.controller.lookupStpid v = i := by simp [Stgs.lookupStpid, hi]
      rw [hlook]
      exact hc v i hi
    · simp only [sent, hd, if_true]
      exact createsGroup_join fm port vid mac (notMem_keys_run (mac, vid) (h.take n) hk)

/-- A connection after which nothing is left: the port leaves the group, and the VLAN gives up its
spanning tree group. -/
def cleanRun : List Ev :=
  [.dptOpen true, .multicast (.join 1 1 0x01005e000001), .stg (.create 10 0 0),
    .multicast (.leave 1 1 0x01005e000001 false), .stg (.destroy 10 0), .dptClose, .dptOpen true]

theorem cleanRun_reconnects : Reconnects ofdpaDriver cleanRun :=
  (reconnects_iff_along ofdpaDriver cleanRun
    ⟨rfl, trivial, trivial, trivial, trivial, trivial, rfl, trivial⟩).mpr
    ⟨⟨rfl, fun _ => rfl⟩, trivial, trivial, trivial, trivial, trivial, ⟨rfl, fun _ => rfl⟩, trivial⟩

/-- Port 1 joins a group in VLAN 1, VLAN 10 gets a spanning tree group, and the connection is closed
and opened again. -/
def staleRun : List Ev :=
  [.dptOpen true, .multicast (.join 1 1 0x01005e000001), .stg (.create 10 0 0), .dptClose,
    .dptOpen true]

/-- The entry and the group of the VLAN are still there, and the next join of the group, by port 2,
is sent as a change of a group that the switch does not have, without a flow. -/
theorem staleRun_not_reconnects :
    ¬ Reconnects ofdpaDriver staleRun ∧
    (run (step ofdpaDriver true) {} staleRun).lookupStpid 10 = 2 ∧
    (run (step ofdpaDriver true) {} staleRun).switchStgs = ∅ ∧
    (run (step ofdpaDriver true) {} staleRun).sw.groups.entries = [] ∧
    sent ofdpaDriver (run (step ofdpaDriver true) {} staleRun)
        (.multicast (.join 2 1 0x01005e000001)) =
      [.groupModify (ofdpaDriver.groupIdL2Multicast 1 1)
        (.buckets {ofdpaDriver.interfaceGroup 2 1, ofdpaDriver.interfaceGroup 1 1})] := by
  refine ⟨fun h => ?_, by decide, by decide, by decide, rfl⟩
  have hE := h.empty [.dptOpen true, .multicast (.join 1 1 0x01005e000001), .stg (.create 10 0 0),
    .dptClose] [] rfl
  have hne : (run (step ofdpaDriver true) {} staleRun).mcGroups ≠ [] := by decide
  exact hne hE.mcGroups

end Runs

end Ctl

end Basebox
