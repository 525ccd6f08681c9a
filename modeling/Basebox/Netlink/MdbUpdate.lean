import Basebox.Lib.SortedDiff
import Basebox.Netlink.Mdb
import Basebox.OfDpa.McMembers

/-!
# Updates of the multicast database (`nl_bridge::mdb_update`, `src/netlink/nl_bridge.cc`)

The kernel sends the whole database with the one before it. Both become sets of (port, VLAN, MAC),
and one walk over them leaves the groups that are gone and joins those that are new. A set goes
through its elements in the order of their `operator<`; the one of `rofl::caddress_ll` is not part of
the repository, so it is an arbitrary strict total order here.

* `updateSets`: the walk with its calls, in their order. It is total: every turn goes on in at least
  one of the sets.
* `mem_updateSets`, `nodup_updateSets`: the calls are those for the two differences.
* `updateSets_exact`: along every chain of databases, whatever the VLANs of the ports do in between,
  the members of the groups are the elements of the last database.
-/

namespace Basebox

namespace Mdb

/-- `operator<` of the tuples. -/
def ElemLt (macLt : Mac → Mac → Prop) (x y : McElem) : Prop :=
  x.1 < y.1 ∨ ¬ y.1 < x.1 ∧ (x.2.1 < y.2.1 ∨ ¬ y.2.1 < x.2.1 ∧ macLt x.2.2 y.2.2)

instance (macLt : Mac → Mac → Prop) [DecidableRel macLt] : DecidableRel (ElemLt macLt) :=
  fun x y => by unfold ElemLt; infer_instance

instance (macLt : Mac → Mac → Prop) [IsStrictTotalOrder Mac macLt] :
    IsStrictTotalOrder McElem (ElemLt macLt) where
  irrefl := by
    rintro ⟨p, v, m⟩ h
    have := irrefl_of macLt m
    simp only [ElemLt] at h
    grind
  trans := by
    rintro ⟨p, v, m⟩ ⟨p', v', m'⟩ ⟨p'', v'', m''⟩ h h'
    have := @trans_of _ macLt m m' m'' _
    simp only [ElemLt] at h h' ⊢
    grind
  trichotomous := by
    rintro ⟨p, v, m⟩ ⟨p', v', m'⟩ h h'
    have := trichotomous_of macLt m m'
    simp only [ElemLt, Prod.mk.injEq] at h h' ⊢
    grind

/-- The call for a change. -/
def call : McElem ⊕ McElem → McGroups.Ev
  | .inl (port, vid, mac) => .leave port vid mac false
  | .inr (port, vid, mac) => .join port vid mac

section Walk

variable (macLt : Mac → Mac → Prop) [DecidableRel macLt] [IsStrictTotalOrder Mac macLt]

/-- The three loops of `mdb_update`, for the sets of the old and the new database. -/
def updateSets (old new : Finset McElem) : List McGroups.Ev :=
  (changes (ElemLt macLt) (inOrder (ElemLt macLt) old) (inOrder (ElemLt macLt) new)).map call

/-- The set of a database, empty without one. -/
def entrySet (getPortId : Int → Nat) (brIfindex : Int) (uninit : Nat → Mac) :
    Option Mdb → Finset McElem
  | none => ∅
  | some mdb => (mdbToSet getPortId brIfindex uninit mdb ∅).2

/-- `mdb_update`: the calls to the controller. `uninitOld` and `uninitNew` are what the buffers of
`mdb_to_set` contain. -/
def mdbUpdate (getPortId : Int → Nat) (brIfindex : Int) (uninitOld uninitNew : Nat → Mac)
    (oldMdb newMdb : Option Mdb) : List McGroups.Ev :=
  updateSets macLt (entrySet getPortId brIfindex uninitOld oldMdb)
    (entrySet getPortId brIfindex uninitNew newMdb)

/-! ## Chains of databases -/

/-- What happens to the groups: an update to a database with the set `new`, and the two calls for
the VLANs of the ports. -/
inductive UpdateEv where
  | update (new : Finset McElem)
  | rejoinAllInVlan (port vid : Nat)
  | leaveAllInVlan (port vid : Nat)

/-- The set of the last database, the calls so far and the groups of the controller. -/
structure UpdateState where
  last : Finset McElem
  calls : List McGroups.Ev
  groups : McGroups

/-- Before the first update. -/
def UpdateState.init : UpdateState := ⟨∅, [], []⟩

/-- The calls of an event, in their order. -/
def UpdateEv.calls (s : UpdateState) : UpdateEv → List McGroups.Ev
  | .update new => updateSets macLt s.last new
  | .rejoinAllInVlan port vid => [.rejoinAllInVlan port vid]
  | .leaveAllInVlan port vid => [.leaveAllInVlan port vid]

/-- The state after an event. -/
def updateStep (fm : FmDriver) (s : UpdateState) (e : UpdateEv) : UpdateState where
  last := match e with
    | .update new => new
    | _ => s.last
  calls := s.calls ++ e.calls macLt s
  groups := run (McGroups.step fm) s.groups (e.calls macLt s)

/-- The ports of an event are ones that `get_port_id` may return. -/
def UpdateEv.PortsOk : UpdateEv → Prop
  | .update new => ∀ x ∈ new, Nbi.IsPort x.1
  | .rejoinAllInVlan port _ => Nbi.IsPort port
  | .leaveAllInVlan port _ => Nbi.IsPort port

/-! ## The calls of one update -/

variable {macLt} {O N : Finset McElem}

theorem call_injective : Function.Injective call := by
  rintro (⟨p, v, m⟩ | ⟨p, v, m⟩) (⟨p', v', m'⟩ | ⟨p', v', m'⟩) h <;> cases h <;> rfl

theorem nodup_updateSets (O N : Finset McElem) : (updateSets macLt O N).Nodup :=
  (nodup_changes (pairwise_inOrder O) (pairwise_inOrder N)).map call_injective

theorem mem_updateSets {e : McGroups.Ev} : e ∈ updateSets macLt O N ↔
    (∃ x ∈ O \ N, e = call (.inl x)) ∨ ∃ x ∈ N \ O, e = call (.inr x) := by
  have hmem := @mem_changes _ (ElemLt macLt) _ _ _ _ (pairwise_inOrder O) (pairwise_inOrder N)
  simp only [updateSets, List.mem_map, Sum.exists, (hmem _).1, (hmem _).2, mem_inOrder,
    Finset.mem_sdiff, @eq_comm _ e]

/-- With the two sets of entries that all get their MAC, the calls are those for the two sets that the
databases are for. -/
theorem mdbUpdate_of_filled {getPortId : Int → Nat} {br : Int} {uninitOld uninitNew : Nat → Mac}
    {old new : Mdb} (hold : old.ifindex.toInt = br) (hnew : new.ifindex.toInt = br)
    (hfold : ∀ e ∈ old.entries, Filled br e) (hfnew : ∀ e ∈ new.entries, Filled br e) :
    mdbUpdate macLt getPortId br uninitOld uninitNew (some old) (some new) =
      updateSets macLt (groupsOf getPortId br old.entries) (groupsOf getPortId br new.entries) := by
  simp only [mdbUpdate, entrySet, (mdbToSet_iff old hold).mpr hfold,
    (mdbToSet_iff new hnew).mpr hfnew]

/-! ## The members after a chain -/

/-- `P` is the set of the members that the calls give. -/
def Members (calls : List McGroups.Ev) (P : McElem → Prop) : Prop :=
  ∀ port vid mac, McGroups.Member calls port (mac, vid) ↔ P (port, vid, mac)

theorem leaves_call (c : McElem ⊕ McElem) (port vid : Nat) (mac : Mac) :
    (call c).Leaves port (mac, vid) ↔ c = .inl (port, vid, mac) := by
  unfold McGroups.Ev.Leaves
  exact @call_injective.eq_iff _ _ _ c (.inl (port, vid, mac))

theorem joins_call (c : McElem ⊕ McElem) (port vid : Nat) (mac : Mac) :
    (call c).Joins port (mac, vid) ↔ c = .inr (port, vid, mac) := by
  unfold McGroups.Ev.Joins
  exact @call_injective.eq_iff _ _ _ c (.inr (port, vid, mac))

theorem members_leave {calls : List McGroups.Ev} {P : McElem → Prop} (h : Members calls P)
    (x : McElem) : Members (calls ++ [call (.inl x)]) fun y => P y ∧ y ≠ x := by
  intro port vid mac
  rw [McGroups.Member, since_concat, joins_call, leaves_call]
  simp only [reduceCtorEq, false_or, Sum.inl.injEq]
  exact and_congr (h port vid mac) (not_congr eq_comm)

theorem members_join {calls : List McGroups.Ev} {P : McElem → Prop} (h : Members calls P)
    (x : McElem) : Members (calls ++ [call (.inr x)]) fun y => y = x ∨ P y := by
  intro port vid mac
  rw [McGroups.Member, since_concat, joins_call, leaves_call]
  simp only [reduceCtorEq, not_false_eq_true, and_true, Sum.inr.injEq]
  exact or_congr eq_comm (h port vid mac)

/-- The VLANs of the ports do not change who is a member. -/
theorem members_of_vlan {calls : List McGroups.Ev} {P : McElem → Prop} (h : Members calls P)
    {e : McGroups.Ev} (he : ∀ port k, ¬ e.Joins port k ∧ ¬ e.Leaves port k) :
    Members (calls ++ [e]) P := by
  intro port vid mac
  rw [McGroups.Member, since_concat]
  simp only [(he port (mac, vid)).1, (he port (mac, vid)).2, false_or, not_false_eq_true, and_true]
  exact h port vid mac

theorem run_call (l : List (McElem ⊕ McElem)) (calls : List McGroups.Ev) :
    run (fun calls c => calls ++ [call c]) calls l = calls ++ l.map call := by
  induction l generalizing calls with
  | nil => simp
  | cons c l ih => rw [run_cons, ih, List.map_cons, List.append_assoc, List.singleton_append]

theorem members_updateSets {calls : List McGroups.Ev} (h : Members calls (· ∈ O)) :
    Members (calls ++ updateSets macLt O N) (· ∈ N) := by
  rw [updateSets, ← run_call]
  exact run_changes (R := Members) (fun _ _ x hs => members_leave hs x)
    (fun _ _ x hs => members_join hs x) O N h

/-- The invariant of the chains. -/
structure UpdateState.Inv (fm : FmDriver) (s : UpdateState) : Prop where
  members : Members s.calls (· ∈ s.last)
  groups : s.groups = run (McGroups.step fm) [] s.calls
  lastOk : ∀ x ∈ s.last, Nbi.IsPort x.1
  callsOk : ∀ e ∈ s.calls, Nbi.IsPort e.port

theorem port_call (c : McElem ⊕ McElem) : (call c).port = (c.elim id id).1 := by
  rcases c with ⟨p, v, m⟩ | ⟨p, v, m⟩ <;> rfl

theorem UpdateState.Inv.step {fm : FmDriver} {s : UpdateState} (h : s.Inv fm) (e : UpdateEv)
    (he : e.PortsOk) : (updateStep macLt fm s e).Inv fm := by
  have hgroups : (updateStep macLt fm s e).groups =
      run (McGroups.step fm) [] (updateStep macLt fm s e).calls := by
    simp only [updateStep, run_append, h.groups]
  cases e with
  | update new =>
    refine ⟨members_updateSets h.members, hgroups, he, fun e hmem => ?_⟩
    rcases List.mem_append.mp hmem with hmem | hmem
    · exact h.callsOk e hmem
    · rcases mem_updateSets.mp hmem with ⟨x, hx, rfl⟩ | ⟨x, hx, rfl⟩
      · rw [port_call]
        exact h.lastOk x (Finset.mem_sdiff.mp hx).1
      · rw [port_call]
        exact he x (Finset.mem_sdiff.mp hx).1
  | rejoinAllInVlan port vid =>
    refine ⟨members_of_vlan h.members fun port k => ?_, hgroups, h.lastOk, fun e hmem => ?_⟩
    · simp [McGroups.Ev.Joins, McGroups.Ev.Leaves]
    · rcases List.mem_append.mp hmem with hmem | hmem
      · exact h.callsOk e hmem
      · exact List.mem_singleton.mp hmem ▸ he
  | leaveAllInVlan port vid =>
    refine ⟨members_of_vlan h.members fun port k => ?_, hgroups, h.lastOk, fun e hmem => ?_⟩
    · simp [McGroups.Ev.Joins, McGroups.Ev.Leaves]
    · rcases List.mem_append.mp hmem with hmem | hmem
      · exact h.callsOk e hmem
      · exact List.mem_singleton.mp hmem ▸ he

theorem UpdateState.inv_run (fm : FmDriver) {es : List UpdateEv} (hes : ∀ e ∈ es, e.PortsOk) :
    (run (updateStep macLt fm) UpdateState.init es).Inv fm := by
  have h0 : UpdateState.init.Inv fm :=
    ⟨fun port vid mac => by simp [UpdateState.init, McGroups.Member, since_nil], rfl,
      by simp [UpdateState.init], by simp [UpdateState.init]⟩
  refine run_inv (C := fun _ e => e.PortsOk) h0 (fun s e h he => h.step e he) ?_
  rw [along_iff_split]
  rintro es₁ e es₂ rfl
  exact hes e (by simp)

/-- **The updates of the database.** The calls of the walk are one leave for each element that is in
the old set only and one join for each that is in the new set only. After any chain of databases
from the empty one, with the calls for the VLANs of the ports anywhere between them, the members of
each group and VLAN are the ports of the last database: these have joined and not left, their
interface groups are the ones that the controller has, and those are enabled that the VLANs have not
disabled. -/
theorem updateSets_exact (fm : FmDriver) (hfm : fm.SeparatesPorts) :
    (∀ O N : Finset McElem, (updateSets macLt O N).Nodup ∧ ∀ e, e ∈ updateSets macLt O N ↔
      (∃ x ∈ O \ N, e = .leave x.1 x.2.1 x.2.2 false) ∨
        ∃ x ∈ N \ O, e = .join x.1 x.2.1 x.2.2) ∧
    ∀ es : List UpdateEv, (∀ e ∈ es, e.PortsOk) →
      let s := run (updateStep macLt fm) UpdateState.init es
      ∀ mac vid,
        (∀ port, McGroups.Member s.calls port (mac, vid) ↔ (port, vid, mac) ∈ s.last) ∧
        (∀ g, McGroups.Enabled s.groups (mac, vid) g ∨ McGroups.Disabled s.groups (mac, vid) g ↔
          ∃ port, (port, vid, mac) ∈ s.last ∧ fm.interfaceGroup port vid = g) ∧
        ∀ port, Nbi.IsPort port →
          (McGroups.Enabled s.groups (mac, vid) (fm.interfaceGroup port vid) ↔
            (port, vid, mac) ∈ s.last ∧ ¬ McGroups.Off s.calls port (mac, vid)) := by
  refine ⟨fun O N => ⟨nodup_updateSets O N, fun e => mem_updateSets⟩, fun es hes => ?_⟩
  intro s mac vid
  have h : s.Inv fm := UpdateState.inv_run fm hes
  have hmem : ∀ port, McGroups.Member s.calls port (mac, vid) ↔ (port, vid, mac) ∈ s.last :=
    fun port => h.members port vid mac
  have hby := McGroups.byPorts_run hfm s.calls h.callsOk
  rw [← h.groups] at hby
  refine ⟨hmem, fun g => ⟨fun hg => ?_, ?_⟩, fun port hp => ?_⟩
  · obtain ⟨port, hp, rfl⟩ := hby.group (mac, vid) g hg
    rw [hby.enabled port (mac, vid) hp, hby.disabled port (mac, vid) hp, hmem] at hg
    exact ⟨port, by tauto, rfl⟩
  · rintro ⟨port, hm, rfl⟩
    have hp := h.lastOk _ hm
    have hon := hby.enabled port (mac, vid) hp
    have hoff := hby.disabled port (mac, vid) hp
    rw [hmem] at hon hoff
    tauto
  · rw [← hmem]
    exact hby.enabled port (mac, vid) hp

/-- MACs by their numbers. -/
instance : IsStrictTotalOrder Mac (· < ·) where
  irrefl := BitVec.lt_irrefl
  trans := fun _ _ _ => BitVec.lt_trans
  trichotomous := fun _ _ h h' => BitVec.le_antisymm (BitVec.not_lt.mp h') (BitVec.not_lt.mp h)

/-- Port 1 joins a group in VLAN 10, is disabled with the VLAN, and a LAG joins too. -/
def twoUpdates : List UpdateEv :=
  [.update {(1, 10, 0x01005e000001)}, .leaveAllInVlan 1 10,
    .update {(1, 10, 0x01005e000001), (0x20001, 10, 0x01005e000001)}]

theorem updateSets_exact_two :
    McGroups.Member (run (updateStep (· < ·) ofdpaDriver) UpdateState.init twoUpdates).calls 1
        (0x01005e000001, 10) ∧
      ¬ McGroups.Member (run (updateStep (· < ·) ofdpaDriver) UpdateState.init twoUpdates).calls 2
        (0x01005e000001, 10) := by
  have hports : ∀ e ∈ twoUpdates, e.PortsOk := by
    simp only [twoUpdates, List.forall_mem_cons, UpdateEv.PortsOk, Finset.mem_singleton,
      Finset.mem_insert, forall_eq, forall_eq_or_imp, Nbi.isPort_iff]
    simp
  have h := (@updateSets_exact (· < ·) _ _ ofdpaDriver ofdpaDriver_encodes.separatesPorts).2
    twoUpdates hports 0x01005e000001 10
  have hlast : (run (updateStep (· < ·) ofdpaDriver) UpdateState.init twoUpdates).last =
      {(1, 10, 0x01005e000001), (0x20001, 10, 0x01005e000001)} := rfl
  rw [h.1, h.1, hlast]
  simp

end Walk

end Mdb

end Basebox
