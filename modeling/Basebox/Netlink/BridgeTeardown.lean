import Basebox.Netlink.BridgePorts

/-!
# A port that leaves the bridge (`src/netlink/cnetlink.cc`, `src/netlink/nl_bridge.cc`)

When a bridge port is released, `link_deleted` takes back what `nl_bridge` has set for it. On the way
`delete_vlan_proto` reads the VLAN protocol of the bridge from sysfs. The file is gone if the bridge
is, and may have another content than when the port was added.

* `loadFromFile`, `getVlanProto`: the content of the file. `stoi` throws if that is no number.
* `setVlanProto`, `deleteVlanProto`: the entries for outer VLANs and the egress TPIDs of a port.
* `deleteInterface`, `linkDeleted`: the handlers. An exception ends the first, and is logged by the
  second, which does nothing more.
* `CleanedUp`: what is left to be found when the port is gone.
* `cleanedUp_iff`: it is found, and nothing was thrown, exactly if `CanCleanUp`: the file has a
  number, and with this protocol `delete_vlan_proto` takes back what there is.

No call to the switch fails here.
-/

namespace Basebox

/-- What `std::stoi` throws. -/
inductive StoiError where
  | invalidArgument
  | outOfRange
  deriving DecidableEq

/-- The protocol of a customer VLAN. -/
def ETH_P_8021Q : Nat := 0x8100
/-- The protocol of a service VLAN. -/
def ETH_P_8021AD : Nat := 0x88a8

namespace Sysfs

/-- `isspace`. -/
def isSpace (c : Char) : Bool := c == ' ' || (9 ≤ c.toNat && c.toNat ≤ 13)

/-- The value of a digit in bases up to 36. -/
def digitVal (c : Char) : Option Nat :=
  if '0' ≤ c ∧ c ≤ '9' then some (c.toNat - '0'.toNat)
  else if 'a' ≤ c ∧ c ≤ 'z' then some (c.toNat - 'a'.toNat + 10)
  else if 'A' ≤ c ∧ c ≤ 'Z' then some (c.toNat - 'A'.toNat + 10)
  else none

/-- The digits that a string starts with. -/
def digits (base : Nat) : List Char → List Nat
  | [] => []
  | c :: cs =>
    match digitVal c with
    | none => []
    | some d => if d < base then d :: digits base cs else []

/-- The prefix `0x` of a number in base 16. -/
def dropPrefix (base : Nat) : List Char → List Char
  | '0' :: x :: cs =>
    if base = 16 ∧ (x = 'x' ∨ x = 'X') ∧ digits base cs ≠ [] then cs else '0' :: x :: cs
  | cs => cs

/-- `std::stoi`, with its two exceptions. -/
def stoi (base : Nat) (s : List Char) : Except StoiError Int :=
  let s := s.dropWhile isSpace
  let (sign, s) := match s with
    | '-' :: s => (-1, s)
    | '+' :: s => (1, s)
    | s => ((1 : Int), s)
  match digits base (dropPrefix base s) with
  | [] => .error .invalidArgument
  | ds =>
    let value := sign * (ds.foldl (fun n d => base * n + d) 0 : Nat)
    if -2 ^ 31 ≤ value ∧ value < 2 ^ 31 then .ok value else .error .outOfRange

/-- The last word of a text, as `operator>>` reads it until the end; nothing if there is none. -/
def lastWord : List Char → List Char → List Char
  | word, [] => word
  | word, c :: cs =>
    if isSpace c then
      match lastWord [] cs with
      | [] => word
      | w => w
    else lastWord (word ++ [c]) cs

/-- `load_from_file`, for a file with its content if it can be opened. -/
def loadFromFile (base : Nat) (file : Option (List Char)) : Except StoiError Int :=
  stoi base (lastWord [] (file.getD []))

/-- The files of the two protocols. -/
example : loadFromFile 16 (some "0x8100\n".toList) = .ok 0x8100 := by decide

example : loadFromFile 16 (some "0x88a8\n".toList) = .ok 0x88a8 := by decide

/-- `get_vlan_proto`, as a `uint16_t`. -/
def getVlanProto (file : Option (List Char)) : Except StoiError Nat :=
  (loadFromFile 16 file).map fun value => (value % 2 ^ 16).toNat

end Sysfs

/-! ## The VLANs of the port -/

section Vlans

variable {M : Type} [DecidableEq M]

/-- Neither `nl_vlan` nor the switch has the VLANs of a bridge port any more, with its PVID if that
is a VLAN. What `port_vlan` has for the port is its own. -/
structure VlansGone (env : VlanEnv M) (p : PortId) (b : BrVlan) (outerVid : Nat) (s : NlVlan M) :
    Prop where
  record : ∀ v ∈ b.vlanBitmap, v ∉ s.vlansOfPort p
  portPvid : NlVlan.isVidValid b.pvid = true → s.portPvid.lookup p = none
  pvid : NlVlan.isVidValid b.pvid = true → (p, env.portUntaggedVid) ∉ s.portVlan →
    ∀ q ∈ NlVlan.bridgeVlanPorts env p, ∀ v < 2 ^ 12, (s.swi.entries env.fm q v).pvid = none
  flood : ∀ v ∈ b.vlanBitmap, ∀ q ∈ NlVlan.bridgeVlanPorts env p,
    env.fm.groupIdL2Interface q v ∉ s.swi.l2Domain.members v
  egress : ∀ v ∈ b.vlanBitmap, (p, v) ∉ s.portVlan → ∀ q ∈ NlVlan.bridgeVlanPorts env p,
    (s.swi.entries env.fm q v).egress = none
  ingress : outerVid = 0 → ∀ v ∈ b.vlanBitmap, (p, v) ∉ s.portVlan →
    ∀ q ∈ NlVlan.bridgeVlanPorts env p, (s.swi.entries env.fm q v).ingress = none
  popTags : 0 < outerVid → ∀ v ∈ b.vlanBitmap, ∀ q ∈ NlVlan.bridgeVlanPorts env p,
    s.swi.popTags.lookup (env.fm.portPopTagIngress q v outerVid) = none
  pushTags : 0 < outerVid → ∀ v ∈ b.vlanBitmap, ∀ q ∈ NlVlan.bridgeVlanPorts env p,
    s.swi.pushTags.lookup (env.fm.vlanEgressPushTag q v outerVid) = none

/-- The calls of `remove_bridge_vlan`, for a port that may be a VLAN interface. -/
def takeVlanCalls (env : VlanEnv M) (p : PortId) (outerVid v vrfId : Nat) : List SwiCall :=
  (NlVlan.bridgeVlanPorts env p).flatMap fun q =>
    .egressBridgePortVlanRemove q v ::
      if outerVid > 0 then
        [.ingressPortPopVlanRemove q outerVid v vrfId, .egressPortPushVlanRemove q v outerVid]
      else [.ingressPortVlanRemove q v false vrfId]

/-- From `s` to `s'` the VLANs `taken` of a port have been taken back. -/
structure Taking (env : VlanEnv M) (p : PortId) (outerVid : Nat) (s : NlVlan M) (taken : Nat → Prop)
    (s' : NlVlan M) : Prop where
  portVlan : s'.portVlan = s.portVlan
  vlanVrf : s'.vlanVrf = s.vlanVrf
  portPvid : s'.portPvid = s.portPvid
  record : ∀ v, taken v → v ∉ s'.vlansOfPort p
  calls : ∃ cs, (∀ c ∈ cs, c.vid < 2 ^ 12 ∧ c.TakesBack) ∧ s'.swi = execAll env.fm cs s.swi ∧
    ∀ v, taken v → ∀ c ∈ takeVlanCalls env p outerVid v (s.getVrfId v), c ∈ cs

variable {env : VlanEnv M} {p : PortId} {outerVid : Nat} {s s' : NlVlan M} {v : Nat}
  {taken : Nat → Prop} {b : BrVlan}

omit [DecidableEq M] in
theorem takeVlanCalls_takeBack {vrfId : Nat} (hv : v < 2 ^ 12) :
    ∀ c ∈ takeVlanCalls env p outerVid v vrfId, c.vid < 2 ^ 12 ∧ c.TakesBack := by
  intro c hc
  obtain ⟨q, -, hc⟩ := List.mem_flatMap.mp hc
  split at hc
  · simp only [List.mem_cons, List.not_mem_nil, or_false] at hc
    rcases hc with rfl | rfl | rfl <;> exact ⟨hv, trivial⟩
  · simp only [List.mem_cons, List.not_mem_nil, or_false] at hc
    rcases hc with rfl | rfl <;> exact ⟨hv, trivial⟩

theorem taking_refl (env : VlanEnv M) (p : PortId) (outerVid : Nat) (s : NlVlan M) :
    Taking env p outerVid s (fun _ => False) s where
  portVlan := rfl
  vlanVrf := rfl
  portPvid := rfl
  record _ h := h.elim
  calls := ⟨[], by simp, rfl, fun _ h => h.elim⟩

/-- The turn of the loop for a VLAN. -/
theorem Taking.vlan (h : Taking env p outerVid s taken s') (hport : p.1 ≠ 0)
    (hvid : NlVlan.isVidValid v = true) :
    Taking env p outerVid s (fun w => taken w ∨ w = v)
      (NlVlan.removeBridgeVlan env allOk s' p outerVid v false) := by
  have hrecord : ∀ w, ((NlVlan.removeBridgeVlan env allOk s' p outerVid v false).vlansOfPort
      p).lookup w = if w = v then none else (s'.vlansOfPort p).lookup w := by
    intro w
    have hlookup : ((NlVlan.removeBridgeVlan env allOk s' p 0 v false).vlansOfPort p).lookup w = _ :=
      lookup_removeBridgeVlan hport hvid w
    rw [← hlookup]
    unfold NlVlan.removeBridgeVlan NlVlan.vlansOfPort
    simp only [hvid, hport, Bool.not_true, Bool.false_eq_true, if_false]
  obtain ⟨cs, hcs, hswi, hall⟩ := h.calls
  have hcalls : (NlVlan.removeBridgeVlan env allOk s' p outerVid v false).swi =
      execAll env.fm (takeVlanCalls env p outerVid v (s'.getVrfId v)) s'.swi := by
    unfold NlVlan.removeBridgeVlan
    simp only [hvid, hport, Bool.not_true, Bool.false_eq_true, if_false]
    rfl
  constructor
  · rw [← h.portVlan]
    unfold NlVlan.removeBridgeVlan
    simp only [hvid, hport, Bool.not_true, Bool.false_eq_true, if_false]
  · rw [← h.vlanVrf]
    unfold NlVlan.removeBridgeVlan
    simp only [hvid, hport, Bool.not_true, Bool.false_eq_true, if_false]
  · rw [← h.portPvid]
    unfold NlVlan.removeBridgeVlan
    simp only [hvid, hport, Bool.not_true, Bool.false_eq_true, if_false]
  · intro w hw
    rw [Table.not_mem_iff_lookup, hrecord w]
    split
    · rfl
    · rename_i hne
      exact Table.not_mem_iff_lookup.mp (h.record w (hw.resolve_right hne))
  · refine ⟨cs ++ takeVlanCalls env p outerVid v (s.getVrfId v), fun c hc => ?_, ?_, ?_⟩
    · rcases List.mem_append.mp hc with hc | hc
      · exact hcs c hc
      · exact takeVlanCalls_takeBack (NlVlan.isVidValid_iff.mp hvid).2 c hc
    · rw [hcalls, hswi, execAll_append, NlVlan.getVrfId_congr h.vlanVrf]
    · rintro w (hw | rfl) c hc
      · exact List.mem_append_left _ (hall w hw c hc)
      · exact List.mem_append_right _ hc

/-- The turn of the loop for a VLAN that is no longer untagged, but was none of the port. -/
theorem Taking.untagged (h : Taking env p outerVid s taken s') (hport : p.1 ≠ 0) (untagged : Bool) :
    Taking env p outerVid s taken (NlVlan.updateEgressBridgeVlan env allOk s' p v untagged).2 := by
  cases hvid : NlVlan.isVidValid v with
  | false => simpa only [NlVlan.updateEgressBridgeVlan, hvid, Bool.not_false, if_true] using h
  | true =>
    rw [NlVlan.updateEgressBridgeVlan_ok hport hvid]
    cases hl : (s'.vlansOfPort p).lookup v with
    | none => exact h
    | some x =>
      obtain ⟨outer, tagged⟩ := x
      obtain ⟨cs, hcs, hswi, hall⟩ := h.calls
      refine ⟨h.portVlan, h.vlanVrf, h.portPvid, fun w hw => ?_, ?_⟩
      · have hw := h.record w hw
        have hne : w ≠ v := fun hwv => hw (hwv ▸ Table.mem_iff_lookup.mpr ⟨_, hl⟩)
        simp only [NlVlan.vlansOfPort, Table.lookup_insert_ite, if_true, Option.getD_some,
          AList.mem_insert, hne, false_or]
        exact hw
      · refine ⟨cs ++ (NlVlan.bridgeVlanPorts env p).map fun q => .egressPortVlanAdd q v untagged true,
          fun c hc => ?_, ?_, fun w hw c hc => List.mem_append_left _ (hall w hw c hc)⟩
        · rcases List.mem_append.mp hc with hc | hc
          · exact hcs c hc
          · obtain ⟨q, -, rfl⟩ := List.mem_map.mp hc
            exact ⟨(NlVlan.isVidValid_iff.mp hvid).2, rfl⟩
        · rw [execAll_append, ← hswi]

/-- From `s` to `s'` the VLANs and the PVID of a port have been taken back. -/
structure TakenBack (env : VlanEnv M) (p : PortId) (b : BrVlan) (outerVid : Nat) (s s' : NlVlan M) :
    Prop where
  portVlan : s'.portVlan = s.portVlan
  vlanVrf : s'.vlanVrf = s.vlanVrf
  portPvid : NlVlan.isVidValid b.pvid = true → s'.portPvid.lookup p = none
  record : ∀ v ∈ b.vlanBitmap, v ∉ s'.vlansOfPort p
  calls : ∃ cs, (∀ c ∈ cs, c.vid < 2 ^ 12 ∧ c.TakesBack) ∧ s'.swi = execAll env.fm cs s.swi ∧
    (∀ v ∈ b.vlanBitmap, ∀ c ∈ takeVlanCalls env p outerVid v (s.getVrfId v), c ∈ cs) ∧
    (NlVlan.isVidValid b.pvid = true → ∀ q ∈ NlVlan.bridgeVlanPorts env p,
      .ingressPortPvidRemove q b.pvid ∈ cs)

/-- `update_vlans` finds the PVID that it takes back. -/
def FindsPvid (s : NlVlan M) (p : PortId) (b : BrVlan) : Prop :=
  NlVlan.isVidValid b.pvid = true → s.portPvid.lookup p = some b.pvid

omit [DecidableEq M] in
instance (s : NlVlan M) (p : PortId) (b : BrVlan) : Decidable (FindsPvid s p b) :=
  inferInstanceAs (Decidable (_ → _))

/-- A port without VLANs. -/
theorem takenBack_noVlans : TakenBack env p .noVlans outerVid s s where
  portVlan := rfl
  vlanVrf := rfl
  portPvid h := nomatch h
  record _ h := nomatch h
  calls := ⟨[], by simp, rfl, by simp, fun h => nomatch h⟩

/-- The PVID first, the VLANs then. -/
theorem Taking.takenBack {vlan : NlVlan M}
    (h : Taking env p outerVid vlan (· ∈ b.vlanBitmap) s') (cs : List SwiCall)
    (hcs : ∀ c ∈ cs, c.vid < 2 ^ 12 ∧ c.TakesBack) (hswi : vlan.swi = execAll env.fm cs s.swi)
    (hportVlan : vlan.portVlan = s.portVlan) (hvlanVrf : vlan.vlanVrf = s.vlanVrf)
    (hportPvid : NlVlan.isVidValid b.pvid = true → vlan.portPvid.lookup p = none)
    (hpvid : NlVlan.isVidValid b.pvid = true → ∀ q ∈ NlVlan.bridgeVlanPorts env p,
      .ingressPortPvidRemove q b.pvid ∈ cs) : TakenBack env p b outerVid s s' := by
  obtain ⟨cs', hcs', hswi', hall⟩ := h.calls
  refine ⟨h.portVlan.trans hportVlan, h.vlanVrf.trans hvlanVrf, fun hv => ?_, h.record,
    cs ++ cs', fun c hc => ?_, ?_, fun v hv c hc => ?_, fun hv q hq => ?_⟩
  · rw [h.portPvid]
    exact hportPvid hv
  · rcases List.mem_append.mp hc with hc | hc
    · exact hcs c hc
    · exact hcs' c hc
  · rw [hswi', hswi, execAll_append]
  · rw [← NlVlan.getVrfId_congr hvlanVrf] at hc
    exact List.mem_append_right _ (hall v hv c hc)
  · exact List.mem_append_left _ (hpvid hv q hq)

/-- The loop of `update_vlans` when the link is removed. -/
theorem taking_loop (s : NlBridge M) (hport : p.1 ≠ 0) (b : BrVlan) :
    Runs (fun s' => Taking env p outerVid s.vlan (· ∈ b.vlanBitmap) s'.vlan)
      ((NlBridge.changes b .noVlans).foldlM (NlBridge.changePort env {} outerVid p .noVlans) s) := by
  have hloop : Runs (fun s' : NlBridge M => Taking env p outerVid s.vlan
      (fun v => .vlan v ∈ NlBridge.changes b .noVlans) s'.vlan)
      ((NlBridge.changes b .noVlans).foldlM (NlBridge.changePort env {} outerVid p .noVlans) s) := by
    refine runs_foldlM_turns
      (I := fun (done : List NlBridge.Change) (s' : NlBridge M) => Taking env p outerVid s.vlan
        (fun v => .vlan v ∈ done) s'.vlan) ?_ ?_
    · simpa using taking_refl env p outerVid s.vlan
    · intro done c s' hc h
      cases c with
      | vlan v =>
        have hvid := NlVlan.isVidValid_iff.mpr (NlBridge.valid_of_change hc)
        have hturn := h.vlan hport hvid
        simp only [List.mem_append, List.mem_singleton, NlBridge.Change.vlan.injEq]
        exact hturn
      | untagged v =>
        have hturn := h.untagged hport (v := v) false
        simp only [List.mem_append, List.mem_singleton, reduceCtorEq, or_false]
        exact hturn
  have htaken : (fun v => .vlan v ∈ NlBridge.changes b .noVlans) = (· ∈ b.vlanBitmap) := by
    funext v
    simp [NlBridge.mem_changes_vlan, BrVlan.noVlans]
  rwa [htaken] at hloop

variable (env outerVid) in
/-- **`update_vlans`** of a link that is removed. -/
theorem takenBack_updatePortVlans (s : NlBridge M) (hport : p.1 ≠ 0) (old : Option BrVlan)
    (hfinds : FindsPvid s.vlan p (old.getD .noVlans)) :
    Runs (fun s' => TakenBack env p (old.getD .noVlans) outerVid s.vlan s'.vlan)
      (s.updatePortVlans env {} outerVid p old none) := by
  generalize hb : old.getD .noVlans = b at hfinds
  unfold NlBridge.updatePortVlans
  simp only [hb, Option.getD_none, hport, if_false]
  split
  · rename_i heq
    rw [heq]
    exact takenBack_noVlans
  · have hadd : ∀ vlan : NlVlan M, NlBridge.addNewPvid env {} vlan p b .noVlans = vlan :=
      fun vlan => if_neg fun h => nomatch h.2
    simp only [hadd, NlBridge.removeOldPvid]
    cases hvid : NlVlan.isVidValid b.pvid with
    | false =>
      simp only [Bool.false_eq_true, and_false, if_false, Int.lt_irrefl]
      rw [runs_map]
      refine Runs.imp (fun s' h => ?_) (taking_loop s hport b)
      have hnot : ¬ NlVlan.isVidValid b.pvid = true := by simp [hvid]
      exact h.takenBack [] (by simp) rfl rfl rfl (fun h => absurd h hnot)
        fun h => absurd h hnot
    | true =>
      have hne : BrVlan.noVlans.pvid ≠ b.pvid := fun h => by
        rw [← h] at hvid
        cases hvid
      have hremove : NlVlan.removeIngressPvid env (fun _ => true) s.vlan p b.pvid = _ :=
        NlVlan.removeIngressPvid_ok (hfinds hvid)
      simp only [hne, ne_eq, not_false_eq_true, and_self, if_true]
      rw [hremove]
      simp only [Int.lt_irrefl, if_false]
      rw [runs_map]
      refine Runs.imp (fun s' h => ?_) (taking_loop _ hport b)
      refine h.takenBack ((NlVlan.bridgeVlanPorts env p).map fun q =>
        .ingressPortPvidRemove q b.pvid) (fun c hc => ?_) rfl rfl rfl (fun _ => ?_) fun _ q hq => ?_
      · obtain ⟨q, -, rfl⟩ := List.mem_map.mp hc
        exact ⟨(NlVlan.isVidValid_iff.mp hvid).2, trivial⟩
      · exact AList.lookup_erase _ _
      · exact List.mem_map_of_mem hq

/-- Without it, it does nothing. -/
theorem updatePortVlans_of_not_finds (s : NlBridge M) (hport : p.1 ≠ 0) (old : Option BrVlan)
    (hfinds : ¬ FindsPvid s.vlan p (old.getD .noVlans)) :
    s.updatePortVlans env {} outerVid p old none = .ok s := by
  obtain ⟨hvid, hne⟩ := Classical.not_imp.mp hfinds
  have hne' : BrVlan.noVlans.pvid ≠ (old.getD .noVlans).pvid := fun h => by
    rw [← h] at hvid
    cases hvid
  unfold NlBridge.updatePortVlans
  have hremove : NlBridge.removeOldPvid env {} s.vlan p (old.getD .noVlans) .noVlans =
      (-EINVAL, s.vlan) := by
    simp only [NlBridge.removeOldPvid, hne', hvid, ne_eq, not_false_eq_true, and_self, if_true,
      NlVlan.removeIngressPvid]
    cases hl : s.vlan.portPvid.lookup p with
    | none => rfl
    | some configured =>
      rw [hl, Option.some.injEq] at hne
      simp only [hne, not_false_eq_true, if_true]
  simp only [Option.getD_none, hport, if_false, hremove]
  split
  · rfl
  · rfl

/-- Taken back are the VLANs of which the interface groups are found: those that `l2_domain` has. -/
theorem TakenBack.vlansGone_iff (hE : env.fm.Encodes) (h : TakenBack env p b outerVid s s') :
    VlansGone env p b outerVid s' ↔ ∀ v ∈ b.vlanBitmap, (p, v) ∉ s.portVlan →
      ∀ q ∈ NlVlan.bridgeVlanPorts env p,
        v ∈ s.swi.l2Domain ∨ (s.swi.entries env.fm q v).egress = none := by
  obtain ⟨cs, hcs, hswi, hall, hpvid⟩ := h.calls
  have hfewer : Fewer env.fm s.swi s'.swi := by
    rw [hswi]
    exact fewer_execAll hE hcs
  constructor
  · intro hgone v hv hown q hq
    by_cases hd : v ∈ s.swi.l2Domain
    · exact .inl hd
    · rw [← h.portVlan] at hown
      exact .inr (hfewer.egress_kept q v (b.vlan_valid v hv).2 hd (hgone.egress v hv hown q hq))
  · intro hdom
    have hegress : ∀ v ∈ b.vlanBitmap, ∀ q ∈ NlVlan.bridgeVlanPorts env p,
        .egressBridgePortVlanRemove q v ∈ cs := fun v hv q hq =>
      hall v hv _ (List.mem_flatMap.mpr ⟨q, hq, List.mem_cons_self⟩)
    rw [← h.portVlan] at hdom
    constructor
    · exact h.record
    · exact h.portPvid
    · intro hvid _ q hq v hv
      rw [hswi]
      refine taken_of_mem hE (P := fun sw => (sw.entries env.fm q v).pvid = none)
        (hpvid hvid q hq) hcs (fun _ _ hf => hf.pvid q v hv) fun sw => ?_
      rw [entries_exec hE sw q hv (.ingressPortPvidRemove q b.pvid) ⟨b.pvid_lt, by simp⟩]
      simp [SwiCall.effect]
    · intro v hv q hq
      rw [hswi]
      refine taken_of_mem hE (P := fun sw => env.fm.groupIdL2Interface q v ∉ sw.l2Domain.members v)
        (hegress v hv q hq) hcs (fun _ _ hf hs hm => hs (hf.members v hm)) fun sw => ?_
      rw [members_egressBridgePortVlanRemove, if_pos rfl]
      exact Finset.notMem_erase _ _
    · intro v hv hown q hq
      have hlt := (b.vlan_valid v hv).2
      rw [hswi]
      refine taken_execAll hE
        (J := fun sw => v ∈ sw.l2Domain ∨ (sw.entries env.fm q v).egress = none)
        (P := fun sw => (sw.entries env.fm q v).egress = none) (hegress v hv q hq) hcs
        (hdom v hv hown q hq) (fun _ _ hf hs => hs.imp (hf.domain v).mpr (hf.egress q v hlt))
        (fun _ _ hf => hf.egress q v hlt) fun sw hs => ?_
      rw [entries_egressBridgePortVlanRemove hE sw q q hlt hlt]
      rcases hs with hs | hs <;> simp [hs]
    · intro houter v hv _ q hq
      have hlt := (b.vlan_valid v hv).2
      have hmem : .ingressPortVlanRemove q v false (s.getVrfId v) ∈ cs :=
        hall v hv _ (List.mem_flatMap.mpr ⟨q, hq, by simp [houter]⟩)
      rw [hswi]
      refine taken_of_mem hE (P := fun sw => (sw.entries env.fm q v).ingress = none) hmem hcs
        (fun _ _ hf => hf.ingress q v hlt) fun sw => ?_
      rw [entries_exec hE sw q hlt (.ingressPortVlanRemove q v false (s.getVrfId v))
        ⟨hlt, by simp⟩]
      simp [SwiCall.effect]
    · intro houter v hv q hq
      have hmem : .ingressPortPopVlanRemove q outerVid v (s.getVrfId v) ∈ cs :=
        hall v hv _ (List.mem_flatMap.mpr ⟨q, hq, by simp [houter]⟩)
      rw [hswi]
      refine taken_of_mem hE
        (P := fun sw => sw.popTags.lookup (env.fm.portPopTagIngress q v outerVid) = none) hmem hcs
        (fun _ _ hf => hf.popTags _) fun sw => ?_
      exact AList.lookup_erase _ _
    · intro houter v hv q hq
      have hmem : .egressPortPushVlanRemove q v outerVid ∈ cs :=
        hall v hv _ (List.mem_flatMap.mpr ⟨q, hq, by simp [houter]⟩)
      rw [hswi]
      refine taken_of_mem hE
        (P := fun sw => sw.pushTags.lookup (env.fm.vlanEgressPushTag q v outerVid) = none)
        hmem hcs (fun _ _ hf => hf.pushTags _) fun sw => ?_
      exact AList.lookup_erase _ _

/-! ## The VLANs that the port has of its own -/

/-- The VLANs of the port itself are on the switch, with the VRFs that `nl_vlan` has. -/
structure OwnEnabled (env : VlanEnv M) (p : PortId) (s : NlVlan M) : Prop where
  ingress : ∀ v, (p, v) ∈ s.portVlan → ∀ q ∈ NlVlan.bridgeVlanPorts env p,
    (s.swi.entries env.fm q v).ingress = some (.filter (s.getVrfId v))
  egress : ∀ v, (p, v) ∈ s.portVlan → ∀ q ∈ NlVlan.bridgeVlanPorts env p,
    (s.swi.entries env.fm q v).egress ≠ none
  pvid : (p, env.portUntaggedVid) ∈ s.portVlan → ∀ q ∈ NlVlan.bridgeVlanPorts env p,
    ∀ v < 2 ^ 12, (s.swi.entries env.fm q v).pvid = some (.assign env.portUntaggedVid)

/-- The calls of `enable_vlan`, for a port that may be a bond. -/
def enablePortVlanCalls (env : VlanEnv M) (p : PortId) (s : NlVlan M) (v : Nat) : List SwiCall :=
  let untagged := v == env.portUntaggedVid
  let ports := p :: env.lagMembers p
  ports.map (fun q => .ingressPortVlanAdd q v untagged (s.getVrfId v)) ++
    ports.map fun q => .egressPortVlanAdd q v untagged false

omit [DecidableEq M] in
theorem mem_enablePortVlanCalls {c : SwiCall} : c ∈ enablePortVlanCalls env p s v ↔
    ∃ q ∈ NlVlan.bridgeVlanPorts env p,
      c = .ingressPortVlanAdd q v (v == env.portUntaggedVid) (s.getVrfId v) ∨
        c = .egressPortVlanAdd q v (v == env.portUntaggedVid) false := by
  have hports : ∀ q, q ∈ NlVlan.bridgeVlanPorts env p ↔ q ∈ p :: env.lagMembers p := by
    intro q
    simp only [NlVlan.bridgeVlanPorts, List.mem_append, List.mem_cons, List.not_mem_nil, or_false]
    exact or_comm
  simp only [enablePortVlanCalls, List.mem_append, List.mem_map, hports]
  constructor
  · rintro (⟨q, hq, rfl⟩ | ⟨q, hq, rfl⟩)
    · exact ⟨q, hq, .inl rfl⟩
    · exact ⟨q, hq, .inr rfl⟩
  · rintro ⟨q, hq, rfl | rfl⟩
    · exact .inl ⟨q, hq, rfl⟩
    · exact .inr ⟨q, hq, rfl⟩

theorem enableVlans_allOk (hport : p.1 ≠ 0) :
    (s.enableVlans env allOk p).2 =
      { s with swi := execAll env.fm ((s.vlansOf p).flatMap (enablePortVlanCalls env p s)) s.swi } := by
  simp only [NlVlan.enableVlans, hport, if_false, execAll, List.foldl_flatMap]
  congr 2
  funext sw v
  have hturn : ∀ u vrfId, (NlVlan.enableVlan env allOk p v (!u) vrfId sw).2 =
      execAll env.fm ((p :: env.lagMembers p).map (fun q => .ingressPortVlanAdd q v u vrfId) ++
        (p :: env.lagMembers p).map fun q => .egressPortVlanAdd q v u false) sw := by
    intro u vrfId
    simp only [NlVlan.enableVlan, NlVlan.addIngressVlan, swiCall, allOk, if_true,
      Int.lt_irrefl, if_false, swiUntilFail_allOk, Bool.not_not, List.map_cons, List.cons_append,
      execAll_cons, execAll_append]
  exact hturn (v == env.portUntaggedVid) (s.getVrfId v)

/-- The VLANs of the port itself are valid. -/
def OwnValid (s : NlVlan M) : Prop := ∀ k ∈ s.portVlan, NlVlan.isVidValid k.2 = true

omit [DecidableEq M] in
theorem OwnValid.vlansOf (h : OwnValid s) (hv : v ∈ s.vlansOf p) : v < 2 ^ 12 :=
  (NlVlan.isVidValid_iff.mp (h _ (VlanUsers.mem_vlansOf.mp hv))).2

omit [DecidableEq M] in
/-- A call of the loop over the VLANs of a port. -/
theorem enableVlans_call {c : SwiCall}
    (hc : c ∈ (s.vlansOf p).flatMap (enablePortVlanCalls env p s)) :
    ∃ v ∈ s.vlansOf p, ∃ q ∈ NlVlan.bridgeVlanPorts env p,
      c = .ingressPortVlanAdd q v (v == env.portUntaggedVid) (s.getVrfId v) ∨
        c = .egressPortVlanAdd q v (v == env.portUntaggedVid) false := by
  obtain ⟨v, hv, hc⟩ := List.mem_flatMap.mp hc
  exact ⟨v, hv, mem_enablePortVlanCalls.mp hc⟩

theorem ownEnabled_enableVlans (hE : env.fm.Encodes) (hport : p.1 ≠ 0) (hown : OwnValid s) :
    OwnEnabled env p (s.enableVlans env allOk p).2 := by
  rw [enableVlans_allOk hport]
  have hmem : ∀ v, (p, v) ∈ s.portVlan → ∀ q ∈ NlVlan.bridgeVlanPorts env p,
      ∀ c, c = .ingressPortVlanAdd q v (v == env.portUntaggedVid) (s.getVrfId v) ∨
        c = .egressPortVlanAdd q v (v == env.portUntaggedVid) false →
      c ∈ (s.vlansOf p).flatMap (enablePortVlanCalls env p s) := fun v hv q hq c hc =>
    List.mem_flatMap.mpr ⟨v, VlanUsers.mem_vlansOf.mpr hv, mem_enablePortVlanCalls.mpr ⟨q, hq, hc⟩⟩
  -- What each call does to the entries of a port.
  have hcall : ∀ c ∈ (s.vlansOf p).flatMap (enablePortVlanCalls env p s), ∀ q, ∀ v < 2 ^ 12,
      ∀ sw : PortSwitch M, (c.exec env.fm sw).entries env.fm q v =
        c.effect q v (sw.entries env.fm q v) := by
    intro c hc q v hv sw
    obtain ⟨w, hw, q', -, hc⟩ := enableVlans_call hc
    refine entries_exec hE sw q hv c ⟨?_, ?_⟩
    · rcases hc with rfl | rfl <;> exact hown.vlansOf hw
    · rcases hc with rfl | rfl <;> simp
  constructor
  · intro v hv q hq
    have hlt := (NlVlan.isVidValid_iff.mp (hown _ hv)).2
    have hc := hmem v hv q hq _ (.inl rfl)
    refine execAll_of_mem
      (P := fun sw => (sw.entries env.fm q v).ingress = some (.filter (s.getVrfId v))) hc
      (fun c hc sw h => ?_) fun sw => ?_
    · rw [hcall c hc q v hlt]
      obtain ⟨w, -, q', -, rfl | rfl⟩ := enableVlans_call hc
      · simp only [SwiCall.effect]
        split
        · rename_i heq
          rw [heq.2]
        · exact h
      · exact h
    · rw [hcall _ hc q v hlt]
      simp [SwiCall.effect]
  · intro v hv q hq
    have hlt := (NlVlan.isVidValid_iff.mp (hown _ hv)).2
    have hc := hmem v hv q hq _ (.inr rfl)
    refine execAll_of_mem (P := fun sw => (sw.entries env.fm q v).egress ≠ none) hc
      (fun c hc sw h => ?_) fun sw => ?_
    · rw [hcall c hc q v hlt]
      obtain ⟨w, -, q', -, rfl | rfl⟩ := enableVlans_call hc
      · exact h
      · simp only [SwiCall.effect]
        split
        · simp
        · exact h
    · rw [hcall _ hc q v hlt]
      simp [SwiCall.effect]
  · intro hv q hq v hlt
    have hc := hmem _ hv q hq _ (.inl rfl)
    refine execAll_of_mem
      (P := fun sw => (sw.entries env.fm q v).pvid = some (.assign env.portUntaggedVid)) hc
      (fun c hc sw h => ?_) fun sw => ?_
    · rw [hcall c hc q v hlt]
      obtain ⟨w, -, q', -, rfl | rfl⟩ := enableVlans_call hc
      · simp only [SwiCall.effect]
        split
        · rename_i heq
          rw [beq_iff_eq.mp heq.2]
        · exact h
      · exact h
    · rw [hcall _ hc q v hlt]
      simp [SwiCall.effect]

/-- What is gone stays gone if only the entries of the port itself change. -/
theorem VlansGone.of_same (h : VlansGone env p b outerVid s) {sw : PortSwitch M}
    (hdom : sw.l2Domain = s.swi.l2Domain) (hpop : sw.popTags = s.swi.popTags)
    (hpush : sw.pushTags = s.swi.pushTags)
    (hinOut : ∀ v ∈ b.vlanBitmap, (p, v) ∉ s.portVlan → ∀ q,
      (sw.entries env.fm q v).inOut = (s.swi.entries env.fm q v).inOut)
    (hpvid : (p, env.portUntaggedVid) ∉ s.portVlan → ∀ q, ∀ v < 2 ^ 12,
      (sw.entries env.fm q v).pvid = (s.swi.entries env.fm q v).pvid) :
    VlansGone env p b outerVid { s with swi := sw } := by
  simp only [PortEntries.inOut, Prod.mk.injEq] at hinOut
  constructor
  · exact h.record
  · exact h.portPvid
  · intro hvid hnot q hq v hv
    rw [hpvid hnot q v hv]
    exact h.pvid hvid hnot q hq v hv
  · rw [hdom]
    exact h.flood
  · intro v hv hnot q hq
    rw [(hinOut v hv hnot q).2]
    exact h.egress v hv hnot q hq
  · intro houter v hv hnot q hq
    rw [(hinOut v hv hnot q).1]
    exact h.ingress houter v hv hnot q hq
  · rw [hpop]
    exact h.popTags
  · rw [hpush]
    exact h.pushTags

/-- What is gone of the bridge does not come back with the VLANs of the port itself. -/
theorem vlansGone_enableVlans (hE : env.fm.Encodes) (hport : p.1 ≠ 0) (hown : OwnValid s) :
    VlansGone env p b outerVid (s.enableVlans env allOk p).2 ↔ VlansGone env p b outerVid s := by
  rw [enableVlans_allOk hport]
  have hkeep : ∀ {α : Type} (f : PortSwitch M → α),
      (∀ c ∈ (s.vlansOf p).flatMap (enablePortVlanCalls env p s), ∀ sw,
        f (c.exec env.fm sw) = f sw) →
      f (execAll env.fm ((s.vlansOf p).flatMap (enablePortVlanCalls env p s)) s.swi) = f s.swi :=
    fun f hf => execAll_keeps (I := fun sw => f sw = f s.swi) rfl fun c hc sw h => (hf c hc sw).trans h
  have hdom := hkeep (·.l2Domain) fun c hc sw => by
    obtain ⟨w, -, q, -, rfl | rfl⟩ := enableVlans_call hc <;> rfl
  have hpop := hkeep (·.popTags) fun c hc sw => by
    obtain ⟨w, -, q, -, rfl | rfl⟩ := enableVlans_call hc <;> rfl
  have hpush := hkeep (·.pushTags) fun c hc sw => by
    obtain ⟨w, -, q, -, rfl | rfl⟩ := enableVlans_call hc <;> rfl
  have hinOut : ∀ v ∈ b.vlanBitmap, (p, v) ∉ s.portVlan → ∀ q,
      ((execAll env.fm ((s.vlansOf p).flatMap (enablePortVlanCalls env p s)) s.swi).entries env.fm q
        v).inOut = (s.swi.entries env.fm q v).inOut := by
    intro v hv hnot q
    refine hkeep (fun sw => (sw.entries env.fm q v).inOut) fun c hc sw => ?_
    obtain ⟨w, hw, q', -, hc⟩ := enableVlans_call hc
    have hvid : c.vid = w := by rcases hc with rfl | rfl <;> rfl
    have hlt := hown.vlansOf hw
    have hne : v ≠ w := fun h => hnot (h ▸ VlanUsers.mem_vlansOf.mp hw)
    rw [← hvid] at hlt hne
    exact inOut_exec_of_vid_ne hE (b.vlan_valid v hv).2 hlt hne sw
  have hpvid : (p, env.portUntaggedVid) ∉ s.portVlan → ∀ q, ∀ v < 2 ^ 12,
      ((execAll env.fm ((s.vlansOf p).flatMap (enablePortVlanCalls env p s)) s.swi).entries env.fm q
        v).pvid = (s.swi.entries env.fm q v).pvid := by
    intro hnot q v hv
    refine hkeep (fun sw => (sw.entries env.fm q v).pvid) fun c hc sw => ?_
    obtain ⟨w, hw, q', -, hc⟩ := enableVlans_call hc
    have hvid : c.vid = w := by rcases hc with rfl | rfl <;> rfl
    have hlt := hown.vlansOf hw
    have hne : (w == env.portUntaggedVid) = false :=
      beq_false_of_ne fun h => hnot (h ▸ VlanUsers.mem_vlansOf.mp hw)
    have hkeeps : c.KeepsPvid := by
      rcases hc with rfl | rfl
      · exact hne
      · trivial
    rw [← hvid] at hlt
    exact pvid_exec hE hv hlt hkeeps sw
  constructor
  · intro h
    exact h.of_same hdom.symm hpop.symm hpush.symm (fun v hv hnot q => (hinOut v hv hnot q).symm)
      fun hnot q v hv => (hpvid hnot q v hv).symm
  · intro h
    exact h.of_same hdom hpop hpush hinOut hpvid

end Vlans

/-! ## The handlers -/

/-- The protocol of the tags of a VLAN interface, else 0. -/
def BaseLink.linkProto (base : BaseLink) : Nat :=
  match base.vlan with
  | none => 0
  | some (_, proto) => if proto = 0 then ETH_P_8021Q else proto

/-- `get_port_id` of the `AF_BRIDGE` link. If that has no type (`typed`), a VLAN interface is looked
up by its own index, which is that of no port. -/
def PortLink.brPortId (link : PortLink) (typed : Bool) : PortId :=
  if (link.base.bind (·.vlan)).isSome && !typed then noPort else link.portId

namespace BridgePorts

variable {M : Type} [DecidableEq M] (env : VlanEnv M)

omit [DecidableEq M] in
/-- `set_vlan_proto`, for the protocol of the bridge. -/
def setVlanProto (s : BridgePorts M) (base : BaseLink) (portId : PortId) (bridgeProto : Nat) :
    Int × BridgePorts M :=
  -- nothing to do if bridge is 802.1Q and no vlan member
  if bridgeProto = ETH_P_8021Q ∧ base.linkProto = 0 then (0, s)
  -- cannot set inner tag to 802.1AD
  else if bridgeProto = ETH_P_8021AD ∧ base.linkProto ≠ 0 then (-EINVAL, s)
  else
    (0, (portsOf env portId).foldl (fun s port =>
      let s :=
        if base.outerVid > 0 then
          { s with stackedVlans := insert (port, base.outerVid) s.stackedVlans }
        else s
      if bridgeProto = ETH_P_8021AD ∨ base.linkProto = ETH_P_8021AD then
        { s with egressTpid := insert port s.egressTpid }
      else s) s)

omit [DecidableEq M] in
/-- `delete_vlan_proto`, for the protocol of the bridge. -/
def deleteVlanProto (s : BridgePorts M) (base : BaseLink) (portId : PortId) (bridgeProto : Nat) :
    BridgePorts M :=
  if bridgeProto = ETH_P_8021Q ∧ base.linkProto = 0 then s
  else if bridgeProto = ETH_P_8021AD ∧ base.linkProto ≠ 0 then s
  else
    (portsOf env portId).foldl (fun s port =>
      let s :=
        if base.outerVid > 0 then
          { s with stackedVlans := s.stackedVlans.erase (port, base.outerVid) }
        else s
      if bridgeProto = ETH_P_8021AD ∨ base.linkProto = ETH_P_8021AD then
        { s with egressTpid := s.egressTpid.erase port }
      else s) s

/-- `delete_interface`, with what it throws. `file` is the VLAN protocol of the bridge in sysfs. -/
def deleteInterface (bridge : Option Int) (typed : Bool) (s : BridgePorts M) (link : PortLink)
    (file : Option (List Char)) : Except Crash (Option StoiError × BridgePorts M) :=
  match bridge with
  | none => .ok (none, s)
  | some ifindex =>
    if ifindex ≠ link.master then .ok (none, s)
    else
      (s.updateVlans env link (some link) none).map fun s =>
        match link.base with
        | none => (none, s.setPortLocked env (link.brPortId typed) false)
        | some base =>
          if link.portId.1 > 0 then
            match Sysfs.getVlanProto file with
            | .error e => (some e, s)
            | .ok bridgeProto =>
              let s := s.deleteVlanProto env base link.portId bridgeProto
              -- interface default is to STP state forward by default
              let s := s.setPortStpState env link.portId BR_STATE_FORWARDING
              (none, s.setPortLocked env (link.brPortId typed) false)
          else (none, s.setPortLocked env (link.brPortId typed) false)

/-- `link_deleted` of a bridge slave, with the exception that it logs. -/
def linkDeleted (bridge : Option Int) (typed : Bool) (s : BridgePorts M) (link : PortLink)
    (file : Option (List Char)) : Except Crash (Option StoiError × BridgePorts M) :=
  if bridge = some link.master then
    (s.deleteInterface env bridge typed link file).map fun (exception, s) =>
      match exception with
      | some e => (some e, s)
      | none =>
        (none, { s with
          vlans := { s.vlans with
            vlan := (s.vlans.vlan.enableVlans env allOk (link.brPortId typed)).2 } })
  else .ok (none, s)

/-! ## What is left -/

/-- The port of a link is as before it joined the bridge; `s` is before the handler, `s'` after it.
A port that `nl_vlan` did not find by the `AF_BRIDGE` link was not locked, and its own VLANs were not
disabled. -/
structure CleanedUp (link : PortLink) (base : BaseLink) (typed : Bool) (s s' : BridgePorts M) :
    Prop where
  portVlan : s'.vlans.vlan.portVlan = s.vlans.vlan.portVlan
  vlans : VlansGone env link.portId link.vlans base.outerVid s'.vlans.vlan
  egressTpid : ∀ q ∈ portsOf env link.portId, q ∉ s'.egressTpid
  stackedVlans : 0 < base.outerVid → ∀ q ∈ portsOf env link.portId,
    (q, base.outerVid) ∉ s'.stackedVlans
  state : ∀ q ∈ portsOf env link.portId,
    s'.stp.programmed.lookup (q.1, 1) = Stgs.bcmState BR_STATE_FORWARDING
  learning : (link.brPortId typed).1 ≠ 0 → ∀ q ∈ portsOf env (link.brPortId typed),
    s'.learning.lookup q = some (.ofLocked false)
  own : (link.brPortId typed).1 ≠ 0 → OwnEnabled env (link.brPortId typed) s'.vlans.vlan

/-- With this protocol `delete_vlan_proto` takes back the entries that there are. -/
structure ProtoTakesBack (s : BridgePorts M) (base : BaseLink) (portId : PortId)
    (bridgeProto : Nat) : Prop where
  egressTpid : (∀ q ∈ portsOf env portId, q ∉ s.egressTpid) ∨
    if base.linkProto = 0 then bridgeProto = ETH_P_8021AD
    else bridgeProto ≠ ETH_P_8021AD ∧ base.linkProto = ETH_P_8021AD
  stackedVlans : base.outerVid = 0 ∨ (∀ q ∈ portsOf env portId, (q, base.outerVid) ∉ s.stackedVlans) ∨
    bridgeProto ≠ ETH_P_8021AD

/-- The state before `link_deleted`, and the file, from which everything is taken back. -/
structure CanCleanUp (link : PortLink) (base : BaseLink) (s : BridgePorts M)
    (file : Option (List Char)) : Prop where
  proto : ∃ bridgeProto, Sysfs.getVlanProto file = .ok bridgeProto ∧
    ProtoTakesBack env s base link.portId bridgeProto
  /-- The PVID is the one that was set, and the VLANs that are taken back are in `l2_domain`. -/
  vlans : if FindsPvid s.vlans.vlan link.portId link.vlans then
      ∀ v ∈ link.vlans.vlanBitmap, (link.portId, v) ∉ s.vlans.vlan.portVlan →
        ∀ q ∈ NlVlan.bridgeVlanPorts env link.portId, v ∈ s.vlans.vlan.swi.l2Domain ∨
          (s.vlans.vlan.swi.entries env.fm q v).egress = none
    else VlansGone env link.portId link.vlans base.outerVid s.vlans.vlan
  /-- The state of the port is that of the default group. -/
  state : s.stp.sw.lookupStpid 0 = 0 ∨ ∀ q ∈ portsOf env link.portId,
    s.stp.programmed.lookup (q.1, 1) = Stgs.bcmState BR_STATE_FORWARDING

section CleanUp

variable {env : VlanEnv M} {s : BridgePorts M} {link : PortLink} {base : BaseLink} {p : PortId}
  {bridgeProto : Nat}

/-! ### The protocol -/

variable (env s base p bridgeProto) in
omit [DecidableEq M] in
/-- `delete_vlan_proto` is about the two sets of entries only. -/
theorem deleteVlanProto_same : (s.deleteVlanProto env base p bridgeProto).vlans = s.vlans ∧
    (s.deleteVlanProto env base p bridgeProto).stp = s.stp ∧
    (s.deleteVlanProto env base p bridgeProto).learning = s.learning := by
  unfold deleteVlanProto
  split
  · exact ⟨rfl, rfl, rfl⟩
  split
  · exact ⟨rfl, rfl, rfl⟩
  refine List.foldlRecOn (motive := fun t : BridgePorts M => t.vlans = s.vlans ∧ t.stp = s.stp ∧
    t.learning = s.learning) _ _ ⟨rfl, rfl, rfl⟩ fun t ht q _ => ?_
  split <;> split <;> exact ht

omit [DecidableEq M] in
/-- The loop over the ports. -/
theorem mem_deleteLoop (outerVid : Nat) (tpid : Prop) [Decidable tpid] (ports : List PortId)
    (q : PortId) :
    let s' := ports.foldl (fun (s : BridgePorts M) port =>
      let s := if outerVid > 0 then
          { s with stackedVlans := s.stackedVlans.erase (port, outerVid) } else s
      if tpid then { s with egressTpid := s.egressTpid.erase port } else s) s
    (q ∈ s'.egressTpid ↔ q ∈ s.egressTpid ∧ ¬ (tpid ∧ q ∈ ports)) ∧
    ((q, outerVid) ∈ s'.stackedVlans ↔
      (q, outerVid) ∈ s.stackedVlans ∧ ¬ (0 < outerVid ∧ q ∈ ports)) := by
  induction ports generalizing s with
  | nil => simp
  | cons port ports ih =>
    obtain ⟨htpid, hstacked⟩ := @ih
      (let s := if outerVid > 0 then
          { s with stackedVlans := s.stackedVlans.erase (port, outerVid) } else s
        if tpid then { s with egressTpid := s.egressTpid.erase port } else s)
    simp only [List.foldl_cons, List.mem_cons]
    constructor
    · rw [htpid]
      by_cases ht : tpid <;> by_cases ho : outerVid > 0 <;> simp [ht, ho, Finset.mem_erase] <;> tauto
    · rw [hstacked]
      by_cases ht : tpid <;> by_cases ho : outerVid > 0 <;> simp [ht, ho, Finset.mem_erase] <;> tauto

/-- An interface without a protocol is no VLAN interface. -/
theorem outerVid_of_linkProto (h : base.linkProto = 0) : base.outerVid = 0 := by
  unfold BaseLink.linkProto at h
  split at h
  · rename_i hnone
    simp [BaseLink.outerVid, hnone]
  · split at h
    · cases h
    · rename_i hne
      exact absurd h hne

omit [DecidableEq M] in
/-- What `delete_vlan_proto` leaves. -/
theorem mem_deleteVlanProto {q : PortId} (hq : q ∈ portsOf env p) :
    (q ∈ (s.deleteVlanProto env base p bridgeProto).egressTpid ↔ q ∈ s.egressTpid ∧
      ¬ if base.linkProto = 0 then bridgeProto = ETH_P_8021AD
        else bridgeProto ≠ ETH_P_8021AD ∧ base.linkProto = ETH_P_8021AD) ∧
    (0 < base.outerVid →
      ((q, base.outerVid) ∈ (s.deleteVlanProto env base p bridgeProto).stackedVlans ↔
        (q, base.outerVid) ∈ s.stackedVlans ∧ bridgeProto = ETH_P_8021AD)) := by
  have hne : ETH_P_8021Q ≠ ETH_P_8021AD := by decide
  have hloop := mem_deleteLoop (s := s) base.outerVid
    (bridgeProto = ETH_P_8021AD ∨ base.linkProto = ETH_P_8021AD) (portsOf env p) q
  unfold deleteVlanProto
  split
  · rename_i h
    refine ⟨?_, fun hpos => ?_⟩
    · simp [h.1, h.2, hne]
    · rw [outerVid_of_linkProto h.2] at hpos
      exact absurd hpos (Nat.lt_irrefl 0)
  split
  · rename_i h
    simp [h.1, h.2]
  · rename_i hskip had
    refine ⟨hloop.1.trans ?_, fun hpos => hloop.2.trans ?_⟩
    · by_cases hlink : base.linkProto = 0
      · have hzero : ¬ 0 = ETH_P_8021AD := by decide
        simp [hlink, hq, hzero]
      · have hbridge : bridgeProto ≠ ETH_P_8021AD := fun h => had ⟨h, hlink⟩
        simp [hlink, hq, hbridge]
    · have hbridge : bridgeProto ≠ ETH_P_8021AD := fun h => had ⟨h, fun hlink => by
        rw [outerVid_of_linkProto hlink] at hpos
        exact absurd hpos (Nat.lt_irrefl 0)⟩
      simp [hpos, hq, hbridge]

variable (env s base p bridgeProto) in
omit [DecidableEq M] in
/-- When `delete_vlan_proto` takes back what there is. -/
theorem protoTakesBack_iff : ProtoTakesBack env s base p bridgeProto ↔
    (∀ q ∈ portsOf env p, q ∉ (s.deleteVlanProto env base p bridgeProto).egressTpid) ∧
    (0 < base.outerVid → ∀ q ∈ portsOf env p,
      (q, base.outerVid) ∉ (s.deleteVlanProto env base p bridgeProto).stackedVlans) := by
  constructor
  · rintro ⟨htpid, hstacked⟩
    refine ⟨fun q hq hmem => ?_, fun hpos q hq hmem => ?_⟩
    · obtain ⟨hs, hnot⟩ := (mem_deleteVlanProto hq).1.mp hmem
      rcases htpid with h | h
      · exact h q hq hs
      · exact hnot h
    · obtain ⟨hs, had⟩ := ((mem_deleteVlanProto hq).2 hpos).mp hmem
      rcases hstacked with h | h | h
      · omega
      · exact h q hq hs
      · exact h had
  · rintro ⟨htpid, hstacked⟩
    constructor
    · refine or_iff_not_imp_right.mpr fun hnot q hq hs => ?_
      exact htpid q hq ((mem_deleteVlanProto hq).1.mpr ⟨hs, hnot⟩)
    · by_cases hzero : base.outerVid = 0
      · exact .inl hzero
      · refine .inr (or_iff_not_imp_right.mpr fun had q hq hs => ?_)
        have hpos := Nat.pos_of_ne_zero hzero
        exact hstacked hpos q hq (((mem_deleteVlanProto hq).2 hpos).mpr ⟨hs, not_not.mp had⟩)

omit [DecidableEq M] in
/-- With the protocol that they were set for, the entries are taken back. -/
theorem protoTakesBack_setVlanProto (htpid : ∀ q ∈ portsOf env p, q ∉ s.egressTpid)
    (hstacked : ∀ q ∈ portsOf env p, (q, base.outerVid) ∉ s.stackedVlans) :
    ProtoTakesBack env (s.setVlanProto env base p bridgeProto).2 base p bridgeProto := by
  unfold setVlanProto
  split
  · exact ⟨.inl htpid, .inr (.inl hstacked)⟩
  split
  · exact ⟨.inl htpid, .inr (.inl hstacked)⟩
  · rename_i hskip had
    have hvlan : bridgeProto = ETH_P_8021AD → base.linkProto = 0 := fun h =>
      not_not.mp fun hlink => had ⟨h, hlink⟩
    constructor
    · by_cases hset : bridgeProto = ETH_P_8021AD ∨ base.linkProto = ETH_P_8021AD
      · refine .inr ?_
        split
        · rename_i hlink
          exact hset.resolve_right (by rw [hlink]; decide)
        · rename_i hlink
          have hbridge : bridgeProto ≠ ETH_P_8021AD := fun h => hlink (hvlan h)
          exact ⟨hbridge, hset.resolve_left hbridge⟩
      · refine .inl ?_
        simp only [hset, if_false]
        refine List.foldlRecOn (motive := fun t : BridgePorts M => ∀ q ∈ portsOf env p,
          q ∉ t.egressTpid) _ _ htpid fun t ht q _ => ?_
        split <;> exact ht
    · by_cases hbridge : bridgeProto = ETH_P_8021AD
      · exact .inl (outerVid_of_linkProto (hvlan hbridge))
      · exact .inr (.inr hbridge)

/-! ### The STP state -/

variable (env) in
omit [DecidableEq M] in
/-- The ports of the STP groups are those of the other settings. -/
theorem mem_portsOf {q : PortId} : q ∈ portsOf env p ↔
    q.1 ∈ (if Nbi.isLag p.1 then env.memberIds p.1 else [p.1]) := by
  unfold portsOf
  split
  · rw [VlanEnv.memberIds, dif_pos p.2]
    constructor
    · intro h
      exact List.mem_map_of_mem h
    · intro h
      obtain ⟨m, hm, hmq⟩ := List.mem_map.mp h
      rwa [← Subtype.ext hmq]
  · simp only [List.mem_singleton, Subtype.ext_iff]

variable (env p) in
omit [DecidableEq M] in
/-- The ports forward exactly if the default group has their state, or had it before. -/
theorem forwards_iff (hstp : s.stp.Inv) :
    (∀ q ∈ portsOf env p,
      (s.setPortStpState env p BR_STATE_FORWARDING).stp.programmed.lookup (q.1, 1) =
        Stgs.bcmState BR_STATE_FORWARDING) ↔
    s.stp.sw.lookupStpid 0 = 0 ∨ ∀ q ∈ portsOf env p,
      s.stp.programmed.lookup (q.1, 1) = Stgs.bcmState BR_STATE_FORWARDING := by
  obtain ⟨b, hb⟩ := Stgs.bcmState_isSome.mpr (show BR_STATE_FORWARDING ≤ BR_STATE_BLOCKING by decide)
  have hlookup := hstp.lookup_setPortStpState env.memberIds p.1 hb
  simp only [setPortStpState, hlookup, hb]
  by_cases h0 : s.stp.sw.lookupStpid 0 = 0
  · refine iff_of_true (fun q hq => ?_) (.inl h0)
    rw [if_pos ⟨h0, (mem_portsOf env).mp hq⟩]
  · simp only [h0, false_and, if_false, false_or]

/-! ### The learning mode -/

variable (env s) in
omit [DecidableEq M] in
theorem learning_setPortLocked (hport : p.1 ≠ 0) (locked : Bool) {q : PortId}
    (hq : q ∈ portsOf env p) :
    (s.setPortLocked env p locked).learning.lookup q = some (.ofLocked locked) := by
  have hloop : ∀ (ports : List PortId) (t : Table PortId PortLearning),
      (ports.foldl (fun learning port => learning.insert port (.ofLocked locked)) t).lookup q =
        if q ∈ ports then some (.ofLocked locked) else t.lookup q := by
    intro ports
    induction ports with
    | nil => simp
    | cons port ports ih =>
      intro t
      rw [List.foldl_cons, ih, Table.lookup_insert_ite]
      by_cases hport : q = port <;> simp [hport]
  unfold setPortLocked
  rw [if_neg hport]
  exact (hloop _ _).trans (if_pos hq)

variable (env s p) in
omit [DecidableEq M] in
/-- `set_port_locked` is about the learning mode only. -/
theorem setPortLocked_same (locked : Bool) :
    ∃ learning, s.setPortLocked env p locked = { s with learning := learning } := by
  unfold setPortLocked
  split
  · exact ⟨s.learning, rfl⟩
  · exact ⟨_, rfl⟩

/-! ### The whole -/

/-- `update_vlans` of the link that is removed. -/
theorem updateVlans_removed (hE : env.fm.Encodes) (hport : link.portId.1 ≠ 0)
    (hbase : link.base = some base) :
    Runs (fun s' => ∃ vlans, s' = { s with vlans := vlans } ∧
      vlans.vlan.portVlan = s.vlans.vlan.portVlan ∧
      (VlansGone env link.portId link.vlans base.outerVid vlans.vlan ↔
        if FindsPvid s.vlans.vlan link.portId link.vlans then
          ∀ v ∈ link.vlans.vlanBitmap, (link.portId, v) ∉ s.vlans.vlan.portVlan →
            ∀ q ∈ NlVlan.bridgeVlanPorts env link.portId, v ∈ s.vlans.vlan.swi.l2Domain ∨
              (s.vlans.vlan.swi.entries env.fm q v).egress = none
        else VlansGone env link.portId link.vlans base.outerVid s.vlans.vlan))
      (s.updateVlans env link (some link) none) := by
  unfold updateVlans
  simp only [hbase, Option.bind_some, Option.bind_none]
  rw [runs_map]
  by_cases hfinds : FindsPvid s.vlans.vlan link.portId link.vlans
  · have htaken := takenBack_updatePortVlans env base.outerVid s.vlans hport link.portVlan
      hfinds
    refine Runs.imp (fun vlans h => ⟨vlans, rfl, h.portVlan, ?_⟩) htaken
    rw [if_pos hfinds]
    exact h.vlansGone_iff hE
  · rw [updatePortVlans_of_not_finds s.vlans hport link.portVlan hfinds]
    refine ⟨s.vlans, rfl, rfl, ?_⟩
    rw [if_neg hfinds]

/-- The port of the `AF_BRIDGE` link. -/
theorem brPortId_cases (link : PortLink) (typed : Bool) :
    (link.brPortId typed).1 = 0 ∨ link.brPortId typed = link.portId := by
  unfold PortLink.brPortId
  split
  · exact .inl rfl
  · exact .inr rfl

/-- The VLANs of the bridge after the own ones of the port are enabled. -/
theorem vlansGone_enableBrVlans (hE : env.fm.Encodes) {vlan : NlVlan M} (hown : OwnValid vlan)
    (link : PortLink) (typed : Bool) (b : BrVlan) (outerVid : Nat) :
    VlansGone env link.portId b outerVid (vlan.enableVlans env allOk (link.brPortId typed)).2 ↔
      VlansGone env link.portId b outerVid vlan := by
  by_cases hzero : (link.brPortId typed).1 = 0
  · rw [NlVlan.enableVlans, if_pos hzero]
  · have hsame := (brPortId_cases link typed).resolve_left hzero
    rw [hsame] at hzero ⊢
    exact vlansGone_enableVlans hE hzero hown

theorem portVlan_enableVlans (vlan : NlVlan M) (p : PortId) :
    (vlan.enableVlans env allOk p).2.portVlan = vlan.portVlan := by
  unfold NlVlan.enableVlans
  split <;> rfl

variable (env s) in
/-- Without a protocol, the exception is logged, and that is all. -/
theorem linkDeleted_of_error (hE : env.fm.Encodes) (hport : link.portId.1 ≠ 0)
    (hbase : link.base = some base) (typed : Bool) {file : Option (List Char)} {e : StoiError}
    (hfile : Sysfs.getVlanProto file = .error e) :
    Runs (fun x => x.1 = some e) (linkDeleted env (some link.master) typed s link file) := by
  obtain ⟨_, hs', vlans, rfl, -, -⟩ :=
    runs_iff.mp (updateVlans_removed (s := s) hE hport hbase)
  unfold linkDeleted deleteInterface
  simp only [if_true, ne_eq, not_true_eq_false, if_false, hs', hbase, Nat.pos_of_ne_zero hport,
    hfile]
  rw [runs_map, runs_map]
  rfl

variable (env s) in
theorem not_cleanedUp_of_error (hE : env.fm.Encodes) (hport : link.portId.1 ≠ 0)
    (hbase : link.base = some base) (typed : Bool) {file : Option (List Char)} {e : StoiError}
    (hfile : Sysfs.getVlanProto file = .error e) :
    ¬ Runs (fun x => x.1 = none ∧ CleanedUp env link base typed s x.2)
      (linkDeleted env (some link.master) typed s link file) := by
  have hthrows := linkDeleted_of_error env s hE hport hbase typed hfile
  refine hthrows.not_of fun x hx hclean => ?_
  rw [hx] at hclean
  cases hclean.1

end CleanUp

/-- Port 1 blocks, is locked and has VLAN 100. -/
def lockedInVlan : PortLink :=
  { blocking with
    locked := true
    portVlan := some { BrVlan.noVlans with vlanBitmap := {100}, vlan_valid := by decide } }

/-- The switch then. -/
def lockedPort : BridgePorts (Nat × List Nat) :=
  (setVlanProto .noBonds
    { vlans := { vlan := (NlVlan.addBridgeVlan .noBonds allOk {} port1 0 100 false true).2 }
      stp := BridgeStp.setPortStpState VlanEnv.noBonds.memberIds {} port1 BR_STATE_BLOCKING
      learning := (∅ : Table PortId PortLearning).insert port1 (.ofLocked true) }
    {} port1 ETH_P_8021AD).2

theorem lockedPort_stp : lockedPort.stp.Inv := by
  have hinv := BridgeStp.inv_init.setPortStpState VlanEnv.noBonds.memberIds
    (show port1.1 < 2 ^ 16 by decide) BR_STATE_BLOCKING
  exact hinv.1

theorem lockedPort_own : OwnValid lockedPort.vlans.vlan := fun _ h => nomatch h

end BridgePorts

end Basebox
