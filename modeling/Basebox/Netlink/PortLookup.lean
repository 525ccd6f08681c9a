import Basebox.Netlink.L3Neigh
import Basebox.Netlink.TapDevices
import Basebox.Netlink.Wakeup

/-!
# From links to ports and back (`src/netlink/cnetlink.cc`)

`get_port_id` asks the port manager and then `nl_bond`; `get_ifindex_by_port_id` asks the port
manager only. The way back is taken when an entry of the FDB has timed out, and when a neighbour on
a bridge is gone from the FDB before its egress entry is removed.

* `Ports`: the two stores, with the calls that change them.
* `RoundTrip`: the way back leads to the link, in both places.
* `roundTrip_iff_run`: that is so exactly in the states without bonds, or with bonds only on links
  that are ports themselves (`NoBonds`).
-/

namespace Basebox

/-- The port manager and the bonds. -/
structure Ports where
  man : PortMan
  bonds : Bonds := {}

/-- `fdb_ev`. -/
structure FdbEv where
  portId : Nat
  vid : Nat
  mac : Mac
  deriving DecidableEq

namespace Ports

/-- `cnetlink::get_port_id`. -/
def getPortId (s : Ports) (ifindex : Int) : Nat :=
  if ifindex = 0 then 0
  else if 0 < s.man.maps.getPortId ifindex then s.man.maps.getPortId ifindex
  else (s.bonds.ifi2lag.lookup ifindex).getD 0

/-- `cnetlink::get_ifindex_by_port_id`. -/
def getIfindexByPortId (s : Ports) (portId : Nat) : Int := s.man.maps.getIfindex portId

/-- The loop of `handle_fdb_timeout`, with so many turns left: the calls of `nl_bridge::fdb_timeout`,
and the events that are left. `brLinks` are the `AF_BRIDGE` links of the cache, by ifindex. -/
def handleFdbTimeout (s : Ports) (brLinks : Finset Int) :
    Nat → List FdbEv → List (Int × Nat × Mac) × List FdbEv
  | 0, evts => ([], evts)
  | _ + 1, [] => ([], [])
  | n + 1, ev :: evts =>
    let ifindex := s.getIfindexByPortId ev.portId
    let (delivered, rest) := s.handleFdbTimeout brLinks n evts
    if ifindex ∈ brLinks then ((ifindex, ev.vid, ev.mac) :: delivered, rest) else (delivered, rest)

/-! ## The calls -/

/-- What happens to ports and bonds. -/
inductive Ev where
  | port (e : PortEv)
  | bond (e : Bonds.Ev)
  /-- `shutdown_subsystems`. -/
  | shutdown

/-- The calls that are made to the port manager: `port_notification` passes on the physical ports,
and `clear` is called by `shutdown_subsystems`. -/
def passedOn : PortEv → Bool
  | .createPortdev portId .. | .destroyPortdev portId _ =>
    Nbi.getPortType portId == Nbi.PortType.physical.code
  | .portdevReady .. | .portdevRemoved .. => true
  | .clear => false

/-- The ports and bonds after an event, unless the process ends. -/
def exec (alloc : FdAlloc) (s : Ports) : Ev → Except Crash Ports
  | .port e =>
    if passedOn e then (s.man.exec alloc e).map fun man => { s with man := man } else .ok s
  | .bond e => (s.bonds.exec e).map fun r => { s with bonds := r.2 }
  | .shutdown => (s.man.exec alloc .clear).map fun man =>
    { man := man, bonds := { s.bonds with ifi2lag := ∅, lagMembers := ∅ } }

/-! ## The way back -/

/-- The lookups are inverse to each other where a link has a port; a timeout of an entry on a port of
the bridge gets to the link of the port; and the egress entry of a neighbour that the FDB does not
have any more is taken from the link that it was made for. -/
def RoundTrip (s : Ports) : Prop :=
  (∀ i, 0 < s.getPortId i → s.getIfindexByPortId (s.getPortId i) = i) ∧
  (∀ (brLinks : Finset Int) (l : List (Int × Nat × Mac)),
    (∀ x ∈ l, x.1 ∈ brLinks ∧ 0 < s.getPortId x.1) →
      s.handleFdbTimeout brLinks Cnetlink.nlProcMax (l.map fun x => ⟨s.getPortId x.1, x.2.1, x.2.2⟩) =
        (l.take Cnetlink.nlProcMax,
          (l.drop Cnetlink.nlProcMax).map fun x => ⟨s.getPortId x.1, x.2.1, x.2.2⟩)) ∧
  ∀ (env : L3Env) (l3 : L3) (n : Int × Addr) (dMac : Mac) (link : L3Link) (i : Int),
    env.ifindexByPortId = s.getIfindexByPortId → env.link n.1 = some link → link.isBridge = true →
      env.searchFdb link.vid dMac = none → 0 < s.getPortId i →
      l3.egressPort env link.vid link.addr dMac = some (s.getPortId i) →
        l3.delL3NeighEgress env n dMac =
          (l3.delL3Egress env i link.vid link.addr dMac).removeVlan (env.link i) link.vid

/-- No link has a LAG, unless it is a port of the switch as well. -/
def NoBonds (s : Ports) : Prop :=
  ∀ i, i ≠ 0 → i ∈ s.bonds.ifi2lag → 0 < s.man.maps.getPortId i

end Ports

/-! ## The ids in the stores -/

/-- All ports of a manager are such ports. -/
def PortManager.Ids (Q : Nat → Prop) (s : PortManager) : Prop :=
  (∀ name p, s.portNames2id.lookup name = some p → Q p) ∧
    ∀ i p, s.ifindexToId.lookup i = some p → Q p

section Ids

variable {Q : Nat → Prop}

theorem PortManager.Ids.portdevReady {s : PortManager} (h : s.Ids Q) (i : Int) (name : String) :
    (s.portdevReady i name).2.Ids Q := by
  constructor
  · intro n p hn
    have hnames : (s.portdevReady i name).2.portNames2id = s.portNames2id := by
      unfold PortManager.portdevReady
      split <;> rfl
    exact h.1 n p (hnames ▸ hn)
  · intro j p hj
    rcases PortManager.lookup_portdevReady hj with hj | hn
    · exact h.2 j p hj
    · exact h.1 name p hn

theorem PortManager.Ids.unregister {s : PortManager} (h : s.Ids Q) (i : Int) (id : Nat) :
    (s.unregister i id).Ids Q := by
  refine ⟨h.1, fun j p hj => ?_⟩
  simp only [PortManager.unregister, Table.lookup_erase_ite] at hj
  split at hj
  · cases hj
  · exact h.2 j p hj

theorem PortManager.Ids.emplace {s : PortManager} (h : s.Ids Q) {id : Nat} (hid : Q id)
    (name : String) : PortManager.Ids Q { s with portNames2id := s.portNames2id.emplace name id } := by
  refine ⟨fun n p hn => ?_, h.2⟩
  simp only [Table.lookup_emplace] at hn
  split at hn
  · cases hl : s.portNames2id.lookup name with
    | none =>
      rw [hl] at hn
      cases hn
      exact hid
    | some q =>
      rw [hl] at hn
      cases hn
      exact h.1 name q hl
  · exact h.1 n p hn

theorem PortManager.Ids.erase {s : PortManager} (h : s.Ids Q) (name : String) :
    PortManager.Ids Q { s with portNames2id := s.portNames2id.erase name } := by
  refine ⟨fun n p hn => ?_, h.2⟩
  simp only [Table.lookup_erase_ite] at hn
  split at hn
  · cases hn
  · exact h.1 n p hn

/-- Ports come into a manager by `create_portdev` only. -/
theorem TapManager.ids_exec {alloc : FdAlloc} {s s' : TapManager} {e : PortEv}
    (h : s.toPortManager.Ids Q)
    (hnew : ∀ portId name hwaddr r, e = .createPortdev portId name hwaddr r → Q portId)
    (he : s.exec alloc e = .ok s') : s'.toPortManager.Ids Q := by
  cases e with
  | createPortdev portId name hwaddr r =>
    obtain ⟨⟨rv, s₁⟩, h₁, rfl⟩ := map_eq_ok.mp he
    rcases createPortdev_cases h₁ with rfl | ⟨-, -, -, -, rfl⟩
    · exact h
    · exact h.emplace (hnew _ _ _ _ rfl) name
  | destroyPortdev portId name =>
    cases he
    unfold destroyPortdev
    split
    · exact h
    · exact h.erase name
  | portdevReady isTun i name mtu =>
    cases he
    rw [portdevReady_maps]
    split
    · exact h.portdevReady i name
    · exact h
  | portdevRemoved isTun i name =>
    obtain ⟨⟨handled, s₁⟩, h₁, rfl⟩ := map_eq_ok.mp he
    rcases portdevRemoved_cases h₁ with
      ⟨rfl, -⟩ | ⟨id, -, hi, ⟨-, -, rfl⟩ | ⟨-, dev, -, rfl⟩⟩
    · exact h
    · exact h.unregister i id
    · refine PortManager.Ids.unregister ?_ i id
      unfold recreateTapdev
      split
      · exact h
      · exact h.emplace (h.2 i id hi) name
  | clear =>
    cases he
    exact ⟨h.1, fun i p hi => by simp [PortManager.clear] at hi⟩

theorem KnetManager.ids_exec {s s' : KnetManager} {e : PortEv} (h : s.toPortManager.Ids Q)
    (hnew : ∀ portId name hwaddr r, e = .createPortdev portId name hwaddr r → Q portId)
    (he : s.exec e = .ok s') : s'.toPortManager.Ids Q := by
  cases e with
  | createPortdev portId name hwaddr r =>
    obtain ⟨⟨rv, s₁⟩, h₁, rfl⟩ := map_eq_ok.mp he
    unfold createPortdev at h₁
    split at h₁
    · cases h₁; exact h
    split at h₁
    · cases h₁
    split at h₁
    · cases h₁
    · cases h₁; exact h.emplace (hnew _ _ _ _ rfl) name
  | destroyPortdev portId name =>
    cases he
    exact h.erase name
  | portdevReady isTun i name mtu =>
    cases he
    exact h.portdevReady i name
  | portdevRemoved isTun i name =>
    obtain ⟨⟨handled, s₁⟩, h₁, rfl⟩ := map_eq_ok.mp he
    unfold portdevRemoved at h₁
    split at h₁
    · cases h₁; exact h
    · rename_i id hi
      split at h₁
      · cases h₁
      split at h₁
      · cases h₁
      · cases h₁
        exact h.unregister i id
  | clear =>
    cases he
    exact ⟨h.1, fun i p hi => by simp [PortManager.clear] at hi⟩

theorem PortMan.ids_exec {alloc : FdAlloc} {m m' : PortMan} {e : PortEv} (h : m.maps.Ids Q)
    (hnew : ∀ portId name hwaddr r, e = .createPortdev portId name hwaddr r → Q portId)
    (he : m.exec alloc e = .ok m') : m'.maps.Ids Q := by
  cases m with
  | tap s =>
    obtain ⟨s', hs', rfl⟩ := map_eq_ok.mp he
    exact TapManager.ids_exec h hnew hs'
  | knet s =>
    obtain ⟨s', hs', rfl⟩ := map_eq_ok.mp he
    exact KnetManager.ids_exec h hnew hs'

end Ids

/-- The ids that `nl_bond` has are those of LAGs. -/
def Bonds.LagIds (b : Bonds) : Prop :=
  ∀ bond l, b.ifi2lag.lookup bond = some l → Nbi.isLag l = true

theorem Bonds.LagIds.addLag {b : Bonds} (h : b.LagIds) (bond : Int) :
    (b.addLag bond).2.LagIds := by
  by_cases hfull : b.swi.lagId ∈ b.swi.lag
  · rw [addLag_full hfull]
    exact h
  · cases hb : b.ifi2lag.lookup bond with
    | none =>
      rw [addLag_new hfull hb]
      intro bond' l hl
      simp only [Table.lookup_insert_ite] at hl
      split at hl
      · cases hl
        exact Nbi.isLag_combine_lag _
      · exact h bond' l hl
    | some old =>
      unfold Bonds.addLag
      simp only [Lags.lagCreate, if_neg hfull, hb]
      exact h

theorem Bonds.LagIds.exec {b : Bonds} {e : Bonds.Ev} {r : Int × Bonds} (h : b.LagIds)
    (he : b.exec e = .ok r) : r.2.LagIds := by
  cases e with
  | addLag bond =>
    cases he
    exact h.addLag bond
  | removeLag bond =>
    cases he
    unfold removeLag
    split
    · exact h
    · simp only
      split
      · exact h
      · intro bond' l hl
        simp only [Table.lookup_erase_ite] at hl
        split at hl
        · cases hl
        · exact h bond' l hl
  | addLagMember bond portId =>
    simp only [Bonds.exec, addLagMember] at he
    split at he
    · split at he
      · cases he
        exact h.addLag bond
      · split at he
        · cases he
          exact h.addLag bond
        · cases he
    · split at he
      · cases he
        exact h
      · cases he
        exact h
  | removeLagMember bond portId =>
    simp only [Bonds.exec, removeLagMember] at he
    split at he
    · cases he
    · split at he
      · cases he
        exact h
      · split at he
        · cases he
          exact h
        · cases he
          exact h

/-! ## Runs -/

namespace Ports

/-- What holds in every state. -/
structure Inv (s : Ports) : Prop where
  inverse : Inverse s.man.maps.ifindexToId s.man.maps.idToIfindex
  ids : s.man.maps.Ids (· < 2 ^ 16)
  lags : s.bonds.LagIds

theorem inv_init (useKnet : Bool) : Inv { man := .init useKnet } where
  inverse := PortMan.inverse_init useKnet
  ids := by
    cases useKnet with
    | false => exact ⟨fun _ _ h => (nomatch h), fun _ _ h => (nomatch h)⟩
    | true => exact ⟨fun _ _ h => (nomatch h), fun _ _ h => (nomatch h)⟩
  lags _ _ h := by cases h

theorem Inv.exec {alloc : FdAlloc} {s s' : Ports} {e : Ev} (h : Inv s)
    (he : s.exec alloc e = .ok s') : Inv s' := by
  cases e with
  | port e =>
    simp only [Ports.exec] at he
    split at he
    · rename_i hpass
      obtain ⟨man, hman, rfl⟩ := map_eq_ok.mp he
      refine ⟨PortMan.inverse_exec h.inverse hman, PortMan.ids_exec h.ids ?_ hman, h.lags⟩
      rintro portId name hwaddr r rfl
      simp only [passedOn, beq_iff_eq, Nbi.getPortType_eq, Nbi.PortType.code] at hpass
      omega
    · cases he
      exact h
  | bond e =>
    obtain ⟨r, hr, rfl⟩ := map_eq_ok.mp he
    exact ⟨h.inverse, h.ids, h.lags.exec hr⟩
  | shutdown =>
    obtain ⟨man, hman, rfl⟩ := map_eq_ok.mp he
    refine ⟨PortMan.inverse_exec h.inverse hman, PortMan.ids_exec h.ids ?_ hman, ?_⟩
    · intro _ _ _ _ hf
      cases hf
    · intro _ _ hf
      cases hf

variable {s : Ports}

theorem Inv.getIfindexByPortId_lag (h : Inv s) {p : Nat} (hp : Nbi.isLag p = true) :
    s.getIfindexByPortId p = 0 := by
  have hnone : s.man.maps.idToIfindex.lookup p = none := by
    cases hl : s.man.maps.idToIfindex.lookup p with
    | none => rfl
    | some i =>
      have hlt := h.ids.2 i p ((h.inverse i p).mpr hl)
      have := Nbi.isLag_iff.mp hp
      omega
  rw [getIfindexByPortId, PortManager.getIfindex, hnone]
  rfl

theorem Inv.roundTrip_ifindex (h : Inv s) (hb : NoBonds s) {i : Int} (hi : 0 < s.getPortId i) :
    s.getIfindexByPortId (s.getPortId i) = i := by
  unfold getPortId at hi ⊢
  by_cases hi0 : i = 0
  · simp [hi0] at hi
  rw [if_neg hi0] at hi ⊢
  by_cases hman : 0 < s.man.maps.getPortId i
  · rw [if_pos hman]
    exact (PortManager.mutuallyInverse_of_inverse h.inverse).2.1 i _ hman rfl
  · rw [if_neg hman] at hi
    have hmem : i ∈ s.bonds.ifi2lag := by
      by_contra hn
      rw [Table.not_mem_iff_lookup.mp hn] at hi
      exact absurd hi (by decide)
    exact absurd (hb i hi0 hmem) hman

theorem handleFdbTimeout_eq (brLinks : Finset Int) (n : Nat) (l : List (Int × Nat × Mac))
    (h : ∀ x ∈ l, x.1 ∈ brLinks ∧ s.getIfindexByPortId (s.getPortId x.1) = x.1) :
    s.handleFdbTimeout brLinks n (l.map fun x => ⟨s.getPortId x.1, x.2.1, x.2.2⟩) =
      (l.take n, (l.drop n).map fun x => ⟨s.getPortId x.1, x.2.1, x.2.2⟩) := by
  induction l generalizing n with
  | nil => cases n <;> rfl
  | cons x l ih =>
    cases n with
    | zero => rfl
    | succ n =>
      obtain ⟨hmem, hx⟩ := h x (List.mem_cons_self ..)
      have hrest := ih n fun y hy => h y (List.mem_cons_of_mem _ hy)
      simp only [List.map_cons, handleFdbTimeout, hx, hmem, if_true, hrest, List.take_succ_cons,
        List.drop_succ_cons]

theorem Inv.roundTrip_iff (h : Inv s) : RoundTrip s ↔ NoBonds s := by
  constructor
  · intro hr i hi hmem
    obtain ⟨l, hl⟩ := Table.mem_iff_lookup.mp hmem
    have hlag := h.lags i l hl
    by_contra hman
    have hid : s.getPortId i = l := by
      rw [getPortId, if_neg hi, if_neg hman, hl]
      rfl
    have hpos : 0 < l := by
      have := Nbi.isLag_iff.mp hlag
      omega
    have hback := hr.1 i (hid ▸ hpos)
    rw [hid, h.getIfindexByPortId_lag hlag] at hback
    exact hi hback.symm
  · intro hb
    refine ⟨fun i => h.roundTrip_ifindex hb, fun brLinks l hl => ?_, ?_⟩
    · exact handleFdbTimeout_eq brLinks _ l fun x hx =>
        ⟨(hl x hx).1, h.roundTrip_ifindex hb (hl x hx).2⟩
    · intro env l3 n dMac link i henv hlink hbr hfdb hi hport
      have hback := h.roundTrip_ifindex hb hi
      obtain ⟨p, hp⟩ : ∃ p, s.getPortId i = p + 1 := ⟨s.getPortId i - 1, by omega⟩
      rw [hp] at hback hport
      simp only [L3.delL3NeighEgress, hlink, hbr, if_true, hfdb, hport, henv, hback]

/-- **The lookups.** In every state that is reached, with tap devices or with knet devices, the way
from a port back to its link is right exactly if no link has a LAG, unless it is a port itself. -/
theorem roundTrip_iff_run (alloc : FdAlloc) (useKnet : Bool) (es : List Ev) :
    WhileRuns (fun s => RoundTrip s ↔ NoBonds s)
      (run (procStep (exec alloc)) (.ok { man := .init useKnet }) es) :=
  WhileRuns.imp (fun _ h => Inv.roundTrip_iff h)
    (whileRuns_run (P := Inv) (inv_init useKnet) (fun _ _ _ h he => h.exec he) es)

/-- A bond gets a LAG: there is no way back from it. -/
theorem bond5_not_roundTrip :
    ¬ WhileRuns RoundTrip (run (procStep (exec TapManager.nextFd)) (.ok { man := .init false })
      [.bond (.addLag 5)]) := by
  intro h
  have hback := h.1 5 (by decide)
  revert hback
  decide

end Ports

end Basebox
