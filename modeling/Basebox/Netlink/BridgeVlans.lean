import Basebox.Lib.Proc
import Basebox.Netlink.Bond
import Basebox.Netlink.Vlan

/-!
# The VLANs of the bridge ports (`src/netlink/nl_bridge.cc`, `src/netlink/nl_vxlan.cc`)

The kernel says which VLANs a port of the bridge has. A VLAN that a VXLAN interface has as well is a
VXLAN domain: the other ports are access ports of the tunnel there. Each other VLAN is programmed by
`nl_vlan`.

* `updateVlans`: what is done when the VLANs of a port have changed.
* `updateAccessPorts`: the ports become access ports of a domain, or ordinary ports again.
* `SameDomain`: the VXLAN domains are kept twice, as a map and as a bitmap, and both are the same.
  `sameDomain_iff_along`: that is so exactly as long as every neighbour with a zero MAC comes to a
  VXLAN interface whose PVID is a domain already. The process does not end then.

A bridge port is a port of the switch, a bond, or a VXLAN interface, which has no port id. Its VLANs
as the cache of libnl has them are arguments. FDB entries, multicast groups and STP states have no
part in this.
-/

namespace Basebox

/-- `rtnl_link_bridge_vlan`; the bitmaps are given by the VLANs that are set. -/
structure BrVlan where
  pvid : Nat := 0
  vlanBitmap : Finset Nat := ∅
  untaggedBitmap : Finset Nat := ∅
  pvid_lt : pvid < 2 ^ 12 := by decide
  vlan_valid : ∀ v ∈ vlanBitmap, 1 ≤ v ∧ v < 2 ^ 12 := by decide
  untagged_lt : ∀ v ∈ untaggedBitmap, v < 2 ^ 12 := by decide
  deriving DecidableEq

/-- The bitmaps of a port that is not in the bridge. -/
def BrVlan.noVlans : BrVlan := {}

@[simp] theorem BrVlan.noVlans_pvid : noVlans.pvid = 0 := rfl

@[simp] theorem BrVlan.noVlans_vlanBitmap : noVlans.vlanBitmap = ∅ := rfl

/-- A bridge port. -/
inductive BrLink where
  | port (portId : PortId)
  /-- A VXLAN interface with its tunnel id; the ids start at 10, and it is `0xffffffff` if the
  interface has none. -/
  | vxlan (tunnelId : { t : Nat // t ≠ 0 })

/-- The id of a link that is no port. -/
def noPort : PortId := ⟨0, Nbi.isPort_iff.mpr (by decide)⟩

/-- `get_port_id`. -/
def BrLink.portId : BrLink → PortId
  | .port portId => portId
  | .vxlan _ => noPort

/-- A link without a port id that is no VXLAN interface. -/
def BrLink.unknown : BrLink → Bool
  | .port portId => portId.1 == 0
  | .vxlan _ => false

/-- `access_tunnel_port`. -/
structure AccessTunnelPort where
  lportId : Nat
  tunnelId : Nat
  deriving DecidableEq

/-- `nl_bridge`, with the access ports of `nl_vxlan`. -/
structure NlBridge (M : Type) where
  vlan : NlVlan M := {}
  vxlanDomain : Table Nat Nat := ∅
  vxlanDomBitmap : Finset Nat := ∅
  /-- A multimap in which no key is stored twice (`create_access_port` looks before). -/
  accessPortIds : Table (PortId × Nat) AccessTunnelPort := ∅
  portIdCnt : Nat := 1 <<< 16 ||| 1

/-- The bridge ports of the cache that have a port id. -/
abbrev BrPorts := List (PortId × BrVlan)

/-- The results of the switch during an event: those of the calls for VLANs, and whether a tunnel
port can be made. -/
structure BrSwitch where
  vlan : SwiCall → Bool := fun _ => true
  accessPort : PortId × Nat → Bool := fun _ => true

namespace NlBridge

variable {M : Type} [DecidableEq M] (env : VlanEnv M) (ok : BrSwitch)

/-! ## Access ports -/

/-- `get_access_tunnel_port`. -/
def getAccessTunnelPort (s : NlBridge M) (pportNo : PortId) (vid : Nat) : AccessTunnelPort :=
  (s.accessPortIds.lookup (pportNo, vid)).getD { lportId := 0, tunnelId := 0 }

/-- `create_access_port`. -/
def createAccessPort (s : NlBridge M) (tunnelId : Nat) (pportNo : PortId) (vid : Nat)
    (untagged : Bool) : NlBridge M :=
  let tp := s.getAccessTunnelPort pportNo vid
  if tp.lportId ≠ 0 ∨ tp.tunnelId ≠ 0 then s
  else
    -- drop all vlans on port
    let s := { s with
      vlan := { s.vlan with
        swi := swiEach env.fm ok.vlan
          [.egressBridgePortVlanRemove pportNo vid, .ingressPortVlanRemove pportNo vid untagged 0]
          s.vlan.swi } }
    if ok.accessPort (pportNo, vid) then
      { s with
        accessPortIds := s.accessPortIds.insert (pportNo, vid)
          { lportId := s.portIdCnt, tunnelId := tunnelId }
        portIdCnt := u32 (s.portIdCnt + 1) }
    else s

/-- `delete_access_port`. -/
def deleteAccessPort (s : NlBridge M) (pportNo : PortId) (vid : Nat) : NlBridge M :=
  { s with accessPortIds := s.accessPortIds.erase (pportNo, vid) }

/-- One turn of the loop of `update_access_ports`. -/
def updateAccessPort (vid tunnelId : Nat) (add : Bool) (s : NlBridge M) (brPort : PortId × BrVlan) :
    NlBridge M :=
  let (pportNo, brPortVlans) := brPort
  if vid ∉ brPortVlans.vlanBitmap then s
  else if pportNo.1 = 0 then s
  else
    let untagged := decide (vid ∈ brPortVlans.untaggedBitmap)
    if add then s.createAccessPort env ok tunnelId pportNo vid untagged
    else
      let s := s.deleteAccessPort pportNo vid
      { s with
        vlan := (s.vlan.addBridgeVlan env ok.vlan pportNo 0 vid (brPortVlans.pvid == vid)
          (!untagged)).2 }

/-- `update_access_ports` of a VLAN. -/
def updateAccessPorts (s : NlBridge M) (vid tunnelId : Nat) (brPorts : BrPorts) (add : Bool) :
    NlBridge M :=
  brPorts.foldl (updateAccessPort env ok vid tunnelId add) s

/-- `update_access_ports` of a VXLAN interface, which `nl_vxlan::add_l2_neigh` calls when the MAC is
zero; `brLink` is the `AF_BRIDGE` link of the interface. -/
def updateAccessPortsOfLink (s : NlBridge M) (tunnelId : Nat) (brLink : Option BrVlan)
    (brPorts : BrPorts) : NlBridge M :=
  match brLink with
  | none => s
  | some brPortVlans =>
    let vid := brPortVlans.pvid
    if vid ∈ s.vxlanDomain then s
    else
      let s := s.updateAccessPorts env ok vid tunnelId brPorts true
      { s with vxlanDomain := s.vxlanDomain.emplace vid tunnelId }

/-! ## Changes of VLANs -/

/-- A VLAN that is added or removed, or whose tagging changes. -/
inductive Change where
  | vlan (vid : Nat)
  | untagged (vid : Nat)
  deriving DecidableEq

/-- The VLAN was added to the port, or removed from it. -/
def changeVlan (s : NlBridge M) (link : BrLink) (brPorts : BrPorts) (new : BrVlan) (vid : Nat) :
    Except Crash (NlBridge M) :=
  let egressUntagged := decide (vid ∈ new.untaggedBitmap)
  if vid ∈ new.vlanBitmap then
    match link with
    | .vxlan tunnelId =>
      let s :=
        if vid ∉ s.vxlanDomBitmap then
          { s with
            vxlanDomain := s.vxlanDomain.emplace vid tunnelId
            vxlanDomBitmap := insert vid s.vxlanDomBitmap }
        else s
      .ok (s.updateAccessPorts env ok vid tunnelId brPorts true)
    | .port pportNo =>
      if vid ∈ s.vxlanDomBitmap then
        match s.vxlanDomain.lookup vid with
        | some tunnelId => .ok (s.createAccessPort env ok tunnelId pportNo vid egressUntagged)
        | none => .error .fatal
      else
        .ok { s with
          vlan := (s.vlan.addBridgeVlan env ok.vlan pportNo 0 vid false (!egressUntagged)).2 }
  else
    match link with
    | .vxlan tunnelId =>
      let s := { s with
        vxlanDomBitmap := s.vxlanDomBitmap.erase vid
        vxlanDomain := s.vxlanDomain.erase vid }
      .ok (s.updateAccessPorts env ok vid tunnelId brPorts false)
    | .port pportNo =>
      .ok { s with vlan := s.vlan.removeBridgeVlan env ok.vlan pportNo 0 vid false }

/-- One difference between the two VLAN sets of a link. -/
def change (link : BrLink) (brPorts : BrPorts) (new : BrVlan) (s : NlBridge M) :
    Change → Except Crash (NlBridge M)
  | .vlan vid => s.changeVlan env ok link brPorts new vid
  | .untagged vid =>
    .ok { s with
      vlan := (s.vlan.updateEgressBridgeVlan env ok.vlan link.portId vid
        (decide (vid ∈ new.untaggedBitmap))).2 }

/-- The changes in the order of the loop: word by word of the bitmaps, the VLANs first. -/
def changes (old new : BrVlan) : List Change :=
  (List.range 128).flatMap fun i =>
    let vids := (List.range 32).map (32 * i + ·)
    let vlanDiff := fun vid => decide (vid ∈ old.vlanBitmap) != decide (vid ∈ new.vlanBitmap)
    let untaggedDiff := fun vid =>
      decide (vid ∈ old.untaggedBitmap) != decide (vid ∈ new.untaggedBitmap)
    (vids.filter vlanDiff).map .vlan ++
      (vids.filter fun vid => untaggedDiff vid && !vlanDiff vid).map .untagged

/-- The PVID that the port had, before the loop. -/
def removeOldPvid (v : NlVlan M) (port : PortId) (old new : BrVlan) : Int × NlVlan M :=
  if new.pvid ≠ old.pvid ∧ NlVlan.isVidValid old.pvid then
    v.removeIngressPvid env ok.vlan port old.pvid
  else (0, v)

/-- The PVID that the port gets, after the loop. -/
def addNewPvid (v : NlVlan M) (port : PortId) (old new : BrVlan) : NlVlan M :=
  if new.pvid ≠ old.pvid ∧ NlVlan.isVidValid new.pvid then
    (v.addIngressPvid env ok.vlan port new.pvid).2
  else v

/-- The PVID that is recorded for a port. -/
def recordedPvid (b : BrVlan) : Option Nat :=
  if NlVlan.isVidValid b.pvid then some b.pvid else none

/-- `update_vlans`. There is no old link when one was added, and no new one when it was removed. -/
def updateVlans (s : NlBridge M) (link : BrLink) (brPorts : BrPorts) (old new : Option BrVlan) :
    Except Crash (NlBridge M) :=
  let old := old.getD .noVlans
  let new := new.getD .noVlans
  if old = new then .ok s
  else if link.unknown then .ok s
  else
    let (rv, vlan) := removeOldPvid env ok s.vlan link.portId old new
    if rv < 0 then .ok { s with vlan := vlan }
    else
      ((changes old new).foldlM (change env ok link brPorts new) { s with vlan := vlan }).map
        fun s => { s with vlan := addNewPvid env ok s.vlan link.portId old new }

/-- Two bitmaps differ only below their size. -/
theorem lt_of_bit_ne {old new : Finset Nat} {n v : Nat} (hold : ∀ w ∈ old, w < n)
    (hnew : ∀ w ∈ new, w < n) (h : ¬ (v ∈ old ↔ v ∈ new)) : v < n := by
  by_cases hv : v ∈ old
  · exact hold v hv
  · refine hnew v ?_
    by_contra hv'
    exact h (iff_of_false hv hv')

theorem mem_changes_vlan {old new : BrVlan} {v : Nat} :
    .vlan v ∈ changes old new ↔ ¬ (v ∈ old.vlanBitmap ↔ v ∈ new.vlanBitmap) := by
  simp only [changes, List.mem_flatMap, List.mem_append, List.mem_map, List.mem_filter,
    List.mem_range, Change.vlan.injEq, reduceCtorEq, and_false, exists_false, or_false, bne_iff_ne,
    ne_eq, decide_eq_decide, exists_eq_right]
  constructor
  · rintro ⟨i, -, -, h⟩
    exact h
  · intro h
    have hlt := lt_of_bit_ne (fun w hw => (old.vlan_valid w hw).2)
      (fun w hw => (new.vlan_valid w hw).2) h
    exact ⟨v / 32, by omega, ⟨v % 32, by omega, by omega⟩, h⟩

theorem mem_changes_untagged {old new : BrVlan} {v : Nat} :
    .untagged v ∈ changes old new ↔
      ¬ (v ∈ old.untaggedBitmap ↔ v ∈ new.untaggedBitmap) ∧
        (v ∈ old.vlanBitmap ↔ v ∈ new.vlanBitmap) := by
  simp only [changes, List.mem_flatMap, List.mem_append, List.mem_map, List.mem_filter,
    List.mem_range, Change.untagged.injEq, reduceCtorEq, and_false, exists_false, false_or,
    Bool.and_eq_true, Bool.not_eq_true', bne_iff_ne, bne_eq_false_iff_eq, ne_eq, decide_eq_decide,
    exists_eq_right]
  constructor
  · rintro ⟨i, -, -, h⟩
    exact h
  · intro h
    have hlt := lt_of_bit_ne old.untagged_lt new.untagged_lt h.1
    exact ⟨v / 32, by omega, ⟨v % 32, by omega, by omega⟩, h⟩

/-- A VLAN that was changed and is not there now was there before. -/
theorem mem_old_of_change {old new : BrVlan} {v : Nat} (h : .vlan v ∈ changes old new)
    (hnew : v ∉ new.vlanBitmap) : v ∈ old.vlanBitmap := by
  by_contra hold
  exact mem_changes_vlan.mp h (iff_of_false hold hnew)

theorem valid_of_change {old new : BrVlan} {v : Nat} (h : .vlan v ∈ changes old new) :
    1 ≤ v ∧ v < 2 ^ 12 := by
  by_cases hnew : v ∈ new.vlanBitmap
  · exact new.vlan_valid v hnew
  · exact old.vlan_valid v (mem_old_of_change h hnew)

/-- The VLANs after some of the changes: one that was changed is as in `new`, the others are as in
`old`. -/
def vlansAfter (old new : BrVlan) (done : List Change) (v : Nat) : Prop :=
  if .vlan v ∈ done then v ∈ new.vlanBitmap else v ∈ old.vlanBitmap

section VlansAfter

variable {old new : BrVlan} {done : List Change} {v w : Nat}

theorem vlansAfter_nil : vlansAfter old new [] w ↔ w ∈ old.vlanBitmap := by
  simp [vlansAfter]

theorem vlansAfter_vlan : vlansAfter old new (done ++ [.vlan v]) w ↔
    if w = v then v ∈ new.vlanBitmap else vlansAfter old new done w := by
  simp only [vlansAfter, List.mem_append, List.mem_singleton, Change.vlan.injEq]
  by_cases hw : w = v <;> simp [hw]

theorem vlansAfter_untagged :
    vlansAfter old new (done ++ [.untagged v]) w ↔ vlansAfter old new done w := by
  simp [vlansAfter]

theorem vlansAfter_changes : vlansAfter old new (changes old new) w ↔ w ∈ new.vlanBitmap := by
  unfold vlansAfter
  split
  · rfl
  · rename_i hnot
    exact not_not.mp fun hdiff => hnot (mem_changes_vlan.mpr hdiff)

theorem vlansAfter_valid (h : vlansAfter old new done w) : 1 ≤ w ∧ w < 2 ^ 12 := by
  unfold vlansAfter at h
  split at h
  · exact new.vlan_valid w h
  · exact old.vlan_valid w h

end VlansAfter

/-- The rule for `update_vlans`: `I done` is what holds after the changes in `done`. -/
theorem runs_updateVlans {I : List Change → NlBridge M → Prop} {P : NlBridge M → Prop}
    {s : NlBridge M} {link : BrLink} {brPorts : BrPorts} {old new : Option BrVlan}
    {old' new' : BrVlan} (hold : old.getD .noVlans = old') (hnew : new.getD .noVlans = new')
    (hskip : old' = new' ∨ link.unknown = true → P s)
    (hremove : I [] { s with vlan := (removeOldPvid env ok s.vlan link.portId old' new').2 })
    (hfail : (removeOldPvid env ok s.vlan link.portId old' new').1 < 0 →
      P { s with vlan := (removeOldPvid env ok s.vlan link.portId old' new').2 })
    (hchange : ∀ done c s, c ∈ changes old' new' → I done s →
      Runs (I (done ++ [c])) (change env ok link brPorts new' s c))
    (hadd : ∀ s, I (changes old' new') s →
      P { s with vlan := addNewPvid env ok s.vlan link.portId old' new' }) :
    Runs P (s.updateVlans env ok link brPorts old new) := by
  subst hold hnew
  unfold updateVlans
  dsimp only
  split
  · rename_i heq
    exact hskip (.inl heq)
  split
  · rename_i hunknown
    exact hskip (.inr hunknown)
  split
  · rename_i hrv
    exact hfail hrv
  rw [runs_map]
  exact Runs.imp hadd (runs_foldlM_turns hremove hchange)

/-- What the calls keep, if the process may end. -/
theorem whileRuns_updateVlans {I : NlBridge M → Prop} {s : NlBridge M} {link : BrLink}
    {brPorts : BrPorts} {old new : Option BrVlan} (h0 : I s)
    (hvlan : ∀ s vlan, I s → I { s with vlan := vlan })
    (hchange : ∀ s c s', I s → change env ok link brPorts (new.getD .noVlans) s c = .ok s' → I s') :
    WhileRuns I (s.updateVlans env ok link brPorts old new) := by
  unfold updateVlans
  simp only
  split
  · exact h0
  split
  · exact h0
  split
  · exact hvlan s _ h0
  rw [whileRuns_map]
  exact WhileRuns.imp (fun s hs => hvlan s _ hs) (whileRuns_foldlM (hvlan s _ h0) hchange)

/-! ## The VXLAN domains -/

/-- The bitmap has the VLANs that have a tunnel. -/
def SameDomain (s : NlBridge M) : Prop := ∀ v, v ∈ s.vxlanDomBitmap ↔ v ∈ s.vxlanDomain

/-- A port that gets a VLAN becomes an access port if the VLAN is a domain, and else the VLAN is
programmed. -/
def GainsByDomain (s : NlBridge M) : Prop :=
  ∀ (ok : BrSwitch) (pportNo : PortId) (brPorts : BrPorts) (new : BrVlan) (vid : Nat),
    vid ∈ new.vlanBitmap →
      s.changeVlan env ok (.port pportNo) brPorts new vid =
        .ok (match s.vxlanDomain.lookup vid with
          | some tunnelId =>
            s.createAccessPort env ok tunnelId pportNo vid (decide (vid ∈ new.untaggedBitmap))
          | none => { s with
            vlan := (s.vlan.addBridgeVlan env ok.vlan pportNo 0 vid false
              (!decide (vid ∈ new.untaggedBitmap))).2 })

/-- What `nl_bridge` is called for, with the results of the switch and the ports in the cache. -/
inductive Ev where
  | updateVlans (ok : BrSwitch) (link : BrLink) (brPorts : BrPorts) (old new : Option BrVlan)
  | addL2Neigh (ok : BrSwitch) (tunnelId : Nat) (brLink : Option BrVlan) (brPorts : BrPorts)

/-- An update of the bridge. -/
def exec (s : NlBridge M) : Ev → Except Crash (NlBridge M)
  | .updateVlans ok link brPorts old new => s.updateVlans env ok link brPorts old new
  | .addL2Neigh ok tunnelId brLink brPorts =>
    .ok (s.updateAccessPortsOfLink env ok tunnelId brLink brPorts)

/-- The PVID of the VXLAN interface is a domain. -/
def Keeps (s : NlBridge M) : Ev → Prop
  | .updateVlans .. => True
  | .addL2Neigh _ _ brLink _ => ∀ brPortVlans, brLink = some brPortVlans →
    brPortVlans.pvid ∈ s.vxlanDomain

variable {env ok} {s : NlBridge M}

theorem createAccessPort_domain (tunnelId : Nat) (pportNo : PortId) (vid : Nat) (untagged : Bool) :
    (s.createAccessPort env ok tunnelId pportNo vid untagged).vxlanDomain = s.vxlanDomain ∧
      (s.createAccessPort env ok tunnelId pportNo vid untagged).vxlanDomBitmap =
        s.vxlanDomBitmap := by
  simp only [createAccessPort]
  split
  · exact ⟨rfl, rfl⟩
  · split <;> exact ⟨rfl, rfl⟩

variable (env ok s) in
theorem updateAccessPort_domain (vid tunnelId : Nat) (add : Bool) (x : PortId × BrVlan) :
    (updateAccessPort env ok vid tunnelId add s x).vxlanDomain = s.vxlanDomain ∧
      (updateAccessPort env ok vid tunnelId add s x).vxlanDomBitmap = s.vxlanDomBitmap := by
  unfold updateAccessPort
  simp only
  split
  · exact ⟨rfl, rfl⟩
  split
  · exact ⟨rfl, rfl⟩
  split
  · exact createAccessPort_domain ..
  · exact ⟨rfl, rfl⟩

variable (env ok s) in
/-- Access ports do not make a domain. -/
theorem updateAccessPorts_domain (vid tunnelId : Nat) (brPorts : BrPorts) (add : Bool) :
    (s.updateAccessPorts env ok vid tunnelId brPorts add).vxlanDomain = s.vxlanDomain ∧
      (s.updateAccessPorts env ok vid tunnelId brPorts add).vxlanDomBitmap = s.vxlanDomBitmap := by
  unfold updateAccessPorts
  induction brPorts generalizing s with
  | nil => exact ⟨rfl, rfl⟩
  | cons x brPorts ih =>
    obtain ⟨h1, h2⟩ := updateAccessPort_domain env ok s vid tunnelId add x
    exact ⟨(ih _).1.trans h1, (ih _).2.trans h2⟩

omit [DecidableEq M] in
theorem SameDomain.of_eq {s' : NlBridge M} (h : SameDomain s)
    (hs' : s'.vxlanDomain = s.vxlanDomain ∧ s'.vxlanDomBitmap = s.vxlanDomBitmap) :
    SameDomain s' := by
  intro v
  rw [hs'.1, hs'.2]
  exact h v

theorem SameDomain.gains (h : SameDomain s) : GainsByDomain env s := by
  intro ok pportNo brPorts new vid hvid
  simp only [changeVlan, hvid, if_true]
  cases hl : s.vxlanDomain.lookup vid with
  | some tunnelId =>
    rw [if_pos ((h vid).mpr (Table.mem_iff_lookup.mpr ⟨tunnelId, hl⟩))]
  | none =>
    rw [if_neg fun hb => Table.not_mem_iff_lookup.mpr hl ((h vid).mp hb)]

theorem SameDomain.changeVlan (h : SameDomain s) (link : BrLink) (brPorts : BrPorts) (new : BrVlan)
    (vid : Nat) : Runs SameDomain (s.changeVlan env ok link brPorts new vid) := by
  by_cases hvid : vid ∈ new.vlanBitmap
  · cases link with
    | port pportNo =>
      rw [h.gains ok pportNo brPorts new vid hvid]
      split
      · exact h.of_eq (createAccessPort_domain ..)
      · exact h
    | vxlan tunnelId =>
      simp only [NlBridge.changeVlan, hvid, if_true]
      refine SameDomain.of_eq ?_ (updateAccessPorts_domain ..)
      split
      · intro v
        simp only [Finset.mem_insert, Table.mem_iff_lookup, Table.lookup_emplace]
        split
        · simp_all
        · rename_i hv
          rw [← Table.mem_iff_lookup, ← h v]
          simp [hv]
      · exact h
  · cases link with
    | port pportNo =>
      simp only [NlBridge.changeVlan, hvid, if_false]
      exact h
    | vxlan tunnelId =>
      simp only [NlBridge.changeVlan, hvid, if_false]
      refine SameDomain.of_eq ?_ (updateAccessPorts_domain ..)
      intro v
      simp only [Finset.mem_erase, AList.mem_erase, h v]

theorem SameDomain.updateVlans (h : SameDomain s) (link : BrLink) (brPorts : BrPorts)
    (old new : Option BrVlan) : Runs SameDomain (s.updateVlans env ok link brPorts old new) := by
  refine runs_updateVlans env ok (I := fun _ => SameDomain) rfl rfl (fun _ => h) h (fun _ => h)
    (fun _ c s _ hs => ?_) fun _ hs => hs
  cases c with
  | vlan vid => exact hs.changeVlan link brPorts _ vid
  | untagged vid => exact hs

/-- A zero MAC on a VXLAN interface: the domain of its PVID is entered in the map only. -/
theorem SameDomain.updateAccessPortsOfLink_iff (h : SameDomain s) (tunnelId : Nat)
    (brLink : Option BrVlan) (brPorts : BrPorts) :
    SameDomain (s.updateAccessPortsOfLink env ok tunnelId brLink brPorts) ↔
      ∀ brPortVlans, brLink = some brPortVlans → brPortVlans.pvid ∈ s.vxlanDomain := by
  cases brLink with
  | none => exact iff_of_true h fun _ hf => nomatch hf
  | some brPortVlans =>
    simp only [updateAccessPortsOfLink, Option.some.injEq, forall_eq']
    by_cases hdom : brPortVlans.pvid ∈ s.vxlanDomain
    · rw [if_pos hdom]
      exact iff_of_true h hdom
    · rw [if_neg hdom]
      refine iff_of_false (fun hs => hdom ?_) hdom
      obtain ⟨hd, hb⟩ := updateAccessPorts_domain env ok s
        brPortVlans.pvid tunnelId brPorts true
      rw [← h]
      have hmem := (hs brPortVlans.pvid).mpr (by
        simp only [Table.mem_iff_lookup, Table.lookup_emplace, if_true]
        exact ⟨_, rfl⟩)
      simpa only [hb] using hmem

/-- **The VXLAN domains.** The bitmap and the map stay the same set, ports become access ports in
the VLANs of that set and only there, and the process does not end, exactly if no neighbour with a
zero MAC comes to a VXLAN interface whose PVID is no domain. -/
theorem sameDomain_iff_along (env : VlanEnv M) (es : List Ev) :
    (∀ n, Runs (fun s : NlBridge M => SameDomain s ∧ GainsByDomain env s)
      (run (procStep (exec env)) (.ok {}) (es.take n))) ↔
      Along (procStep (exec env)) (OnRunning Keeps) (.ok ({} : NlBridge M)) es := by
  have hboth : (fun s : NlBridge M => SameDomain s ∧ GainsByDomain env s) = SameDomain := by
    funext s
    exact propext (and_iff_left_of_imp SameDomain.gains)
  rw [hboth]
  refine runs_iff_along (I := fun _ => True) trivial (fun v => by simp) ?_ ?_ es
  · intro s e _ h _
    cases e with
    | updateVlans ok link brPorts old new =>
      exact Runs.imp (fun _ _ => trivial) (h.updateVlans link brPorts old new)
    | addL2Neigh ok tunnelId brLink brPorts => trivial
  · intro s e _ h
    cases e with
    | updateVlans ok link brPorts old new =>
      exact iff_of_true (h.updateVlans link brPorts old new) trivial
    | addL2Neigh ok tunnelId brLink brPorts =>
      exact h.updateAccessPortsOfLink_iff tunnelId brLink brPorts

/-- The first neighbour with a zero MAC on a VXLAN interface with PVID 10, before its VLANs are
known to `nl_bridge`. -/
theorem zeroMac_not_sameDomain :
    ¬ Runs SameDomain (run (procStep (exec VlanEnv.noBonds)) (.ok {})
      [.addL2Neigh {} 10 (some { pvid := 10, vlanBitmap := {10} }) []]) := by
  intro h
  have h10 := h 10
  revert h10
  decide

end NlBridge

end Basebox
