import Basebox.Netlink.VxlanFailures
import Basebox.Netlink.VxlanNextHops
import Basebox.Netlink.VxlanTunnels
import Mathlib.Logic.Relation

/-!
# The references of `nl_vxlan` when calls of the switch fail (`src/netlink/nl_vxlan.cc`)

The references to endpoints and to tunnel next hops, and what the handlers of `VxlanSwitch` do with
them. Calls that create something may fail; calls that delete something succeed.

* `Act`: a reference that is taken or given back. Whatever the switch answers, a handler does
  nothing else, but for the one next hop that it may take first (`Turn`).
* `exec_turn`: what an event does.
* `accountInv_of_reachable`: in every state that is reached every count is positive and fits its
  type, and the two maps of next hops are inverse to each other.
-/

namespace Basebox

/-! ## References -/

/-- `delete_next_hop(tnh)`. -/
def NhView.drop (v : NhView) (tnh : TunnelNh) : NhView :=
  match v.hops.find tnh with
  | none => v
  | some x =>
    if x.refcnt - 1 = 0 then
      { v with
        hops := v.hops.erase tnh
        back := v.back.erase x.nhId
        onSwitch := v.onSwitch.erase x.nhId }
    else { v with hops := v.hops.modify tnh fun x => { x with refcnt := x.refcnt - 1 } }

theorem NhView.put_eq (v : NhView) (nhId : Nat) :
    v.put nhId = match v.back.lookup nhId with
      | none => v
      | some tnh => v.drop tnh := rfl

/-- The references to endpoints, and those to next hops. -/
abbrev VxlanAccount := Endpoints × NhView

namespace VxlanAccount

/-- What the handlers do with references. -/
inductive Act : VxlanAccount → VxlanAccount → Prop
  | ref (e : Endpoints) (v : NhView) (ep : EndpointPort) (vni : Nat) : Act (e, v) (e.ref ep vni, v)
  | create (e : Endpoints) (v : NhView) (ep : EndpointPort) (vni lportId nhId : Nat)
      (hnone : e.endpointId.find ep = none) : Act (e, v) (e.create ep vni lportId nhId, v)
  | unref (e : Endpoints) (v : NhView) (ep : EndpointPort) (vni : Nat) (x : EndpointTunnelPort)
      (hx : e.endpointId.find ep = some x) : Act (e, v) (e.unref ep vni x, v)
  | drop (e : Endpoints) (v : NhView) (tnh : TunnelNh) : Act (e, v) (e, v.drop tnh)

/-- Any number of acts. -/
abbrev Acts : VxlanAccount → VxlanAccount → Prop := Relation.ReflTransGen Act

/-- What an event does: it may take a next hop first. -/
inductive Turn (a a' : VxlanAccount) : Prop
  | acts (h : Acts a a')
  | take (tnh : TunnelNh) (h : Acts (a.1, (a.2.get tnh).2) a')

/-- Every count is positive and fits its type, and the maps of the next hops are inverse to each
other. -/
structure Inv (a : VxlanAccount) : Prop where
  endpoints : a.1.Inv
  refcnt : ∀ ep x, a.1.endpointId.find ep = some x → 0 < x.refcnt
  map : IdMap TunnelNhPort.nhId (2 ^ 32) a.2.hops a.2.back a.2.cnt
  pos : ∀ tnh x, a.2.hops.find tnh = some x → 0 < x.refcnt

variable {a a' : VxlanAccount}

theorem Acts.put (e : Endpoints) (v : NhView) (nhId : Nat) : Acts (e, v) (e, v.put nhId) := by
  rw [NhView.put_eq]
  cases v.back.lookup nhId with
  | none => exact .refl
  | some tnh => exact .single (.drop e v tnh)

theorem Act.cnt (h : Act a a') : a'.2.cnt = a.2.cnt := by
  cases h with
  | drop e v tnh =>
    unfold NhView.drop
    cases v.hops.find tnh with
    | none => rfl
    | some x => simp only; split <;> rfl
  | _ => rfl

theorem Acts.cnt (h : Acts a a') : a'.2.cnt = a.2.cnt := by
  induction h with
  | refl => rfl
  | tail _ hact ih => exact hact.cnt.trans ih

theorem Inv.act (h : Inv a) (hact : Act a a') : Inv a' := by
  cases hact with
  | ref e v ep vni =>
    refine ⟨h.endpoints.ref ep vni, fun q y hy => ?_, h.map, h.pos⟩
    simp only [Endpoints.find_ref] at hy
    split at hy
    · obtain ⟨x, hx, rfl⟩ := Option.map_eq_some_iff.mp hy
      have := h.refcnt ep x hx
      simp only
      omega
    · exact h.refcnt q y hy
  | create e v ep vni lportId nhId hnone =>
    refine ⟨h.endpoints.create hnone vni lportId nhId, fun q y hy => ?_, h.map, h.pos⟩
    simp only [Endpoints.find_create hnone] at hy
    split at hy
    · cases hy
      exact Int.one_pos
    · exact h.refcnt q y hy
  | unref e v ep vni x hx =>
    refine ⟨h.endpoints.unref ep vni x, fun q y hy => ?_, h.map, h.pos⟩
    simp only [h.endpoints.find_unref hx] at hy
    split at hy
    · split at hy
      · cases hy
      · cases hy
        have := h.refcnt ep x hx
        simp only
        omega
    · exact h.refcnt q y hy
  | drop e v tnh =>
    unfold NhView.drop
    cases hx : v.hops.find tnh with
    | none => exact h
    | some x =>
      simp only
      split
      · refine ⟨h.endpoints, h.refcnt, h.map.erase hx, fun t y hy => ?_⟩
        simp only [MultiMap.find_erase h.map.nodup] at hy
        split at hy
        · cases hy
        · exact h.pos t y hy
      · refine ⟨h.endpoints, h.refcnt,
          h.map.modify tnh (fun x => { x with refcnt := x.refcnt - 1 }) fun _ => rfl,
          fun t y hy => ?_⟩
        simp only [MultiMap.find_modify, hx] at hy
        split at hy
        · cases hy
          have := h.pos tnh x hx
          simp only
          omega
        · exact h.pos t y hy

theorem Inv.acts (h : Inv a) (hacts : Acts a a') : Inv a' := by
  induction hacts with
  | refl => exact h
  | tail _ hact ih => exact ih.act hact

/-- A next hop is taken. A new one gets the value of the counter. -/
theorem Inv.get (h : Inv a) {tnh : TunnelNh} (hc : a.2.hops.find tnh = none → a.2.cnt ≠ 0) :
    Inv (a.1, (a.2.get tnh).2) := by
  refine ⟨h.endpoints, h.refcnt, ?_, fun t y hy => ?_⟩
  · cases hx : a.2.hops.find tnh with
    | some x =>
      rw [NhView.get_of_some hx]
      exact h.map.modify tnh (fun x => { x with refcnt := x.refcnt + 1 }) fun _ => rfl
    | none =>
      rw [NhView.get_of_none hx]
      exact h.map.emplace (hc hx) hx rfl
  · rw [NhView.find_get] at hy
    split at hy
    · cases hy
      unfold NhView.refs
      cases hx : a.2.hops.find tnh with
      | none => exact Int.one_pos
      | some x =>
        have := h.pos tnh x hx
        simp only [Option.map_some, Option.getD_some]
        omega
    · exact h.pos t y hy

/-- An event keeps the counts in order, unless it gives out an id after the counter has come
round. -/
theorem Inv.turn (h : Inv a) (hturn : Turn a a') (hc : a.2.cnt = 0 → a'.2.cnt = 0) : Inv a' := by
  cases hturn with
  | acts hacts => exact h.acts hacts
  | take tnh hacts =>
    refine (h.get fun hnone hzero => ?_).acts hacts
    have hcnt := hacts.cnt
    simp only [NhView.get_of_none hnone, hzero, hc hzero] at hcnt
    revert hcnt
    decide

theorem inv_init : Inv (({} : Endpoints), (⟨[], ∅, 1, 0, ∅⟩ : NhView)) where
  endpoints := ⟨List.nodup_nil, fun _ _ h => (by cases h)⟩
  refcnt _ _ h := by cases h
  map := IdMap.empty (by decide)
  pos _ _ h := by cases h

end VxlanAccount

namespace NlVxlan

/-- The next hops of the maps and those on the switch. -/
def hopView (s : NlVxlan) : NhView where
  hops := s.tunnelNextHopId
  back := s.tunnelNextHop2tnh
  cnt := s.nextHopIdCnt
  used := 0
  onSwitch := s.switch.nextHops

/-- The part of the state that the account is about. -/
def account (s : NlVxlan) : VxlanAccount := (s.endpoints, s.hopView)

/-- Calls that delete something. -/
def deletes : SwCall → Bool
  | .tunnelNextHopDelete _ | .tunnelPortDelete _ | .tunnelPortTenantRemove .. |
    .delL2OverlayFlood .. => true
  | _ => false

/-- A call gives zero or a negative value, and no call that deletes something fails. -/
structure Answers (r : SwResults) : Prop where
  nonpos : ∀ log c, r log c ≤ 0
  deletes : ∀ log c, deletes c = true → 0 ≤ r log c

/-! ## What the handlers do -/

open VxlanAccount

section Handlers

variable {r : SwResults} (s : NlVxlan)

/-- The result of a handler does not matter. -/
theorem acts_snd {a : VxlanAccount} {rv : Int} {s' : NlVxlan} (h : Acts a s'.account) :
    Acts a (rv, s').2.account := h

/-- Calls that are not about next hops. -/
theorem account_send (c : SwCall) (h : ∀ w : TunnelSwitch, (w.after c).nextHops = w.nextHops) :
    (s.send r c).2.account = s.account := by
  have hhops : (s.send r c).2.switch.nextHops = s.switch.nextHops := by
    by_cases hc : 0 ≤ r s.calls c
    · rw [switch_send hc, h]
    · rw [switch_send_of_neg (not_le.mp hc)]
  simp only [account, hopView, hhops]
  rfl

theorem account_enableFlooding (tunnelId lportId : Nat) :
    (s.enableFlooding r tunnelId lportId).2.account = s.account := account_send s _ fun _ => rfl

theorem account_disableFlooding (tunnelId lportId : Nat) :
    (s.disableFlooding r tunnelId lportId).2.account = s.account := account_send s _ fun _ => rfl

theorem account_deleteAccessPort (flooding : Bool) (pportNo vid : Nat) (wipe : Bool) :
    (s.deleteAccessPort r flooding pportNo vid wipe).2.account = s.account := by
  unfold deleteAccessPort
  cases s.accessPortIds.find ⟨pportNo, vid⟩ with
  | none => rfl
  | some tp =>
    simp only
    refine (account_send _ _ fun _ => rfl).trans ((account_send _ _ fun _ => rfl).trans ?_)
    cases wipe <;> cases flooding
    · rfl
    · exact account_disableFlooding s _ _
    · exact account_send s _ fun _ => rfl
    · exact (account_disableFlooding _ _ _).trans (account_send s _ fun _ => rfl)

theorem account_tryAccessPort (pportNo vid : Nat) (untagged : Bool) (retries : Nat) :
    (tryAccessPort r pportNo vid untagged retries s).2.account = s.account := by
  induction retries generalizing s with
  | zero => exact account_send s _ fun _ => rfl
  | succ n ih =>
    have hsend := account_send (r := r) s
      (.tunnelAccessPortCreate s.portIdCnt pportNo vid untagged) fun _ => rfl
    simp only [tryAccessPort]
    split
    · exact (ih _).trans hsend
    · exact hsend

theorem account_createAccessPort (flooding : Bool) (tunnelId pportNo vid : Nat)
    (untagged : Bool) :
    (s.createAccessPort r flooding tunnelId pportNo vid untagged).2.account = s.account := by
  unfold createAccessPort
  simp only
  split
  · rfl
  · have htry := (account_tryAccessPort (r := r) _ pportNo vid untagged 49).trans
      ((account_send (r := r) _ (.ingressPortVlanRemove pportNo vid untagged) fun _ => rfl).trans
        (account_send (r := r) s (.egressBridgePortVlanRemove pportNo vid) fun _ => rfl))
    generalize tryAccessPort r pportNo vid untagged 49 _ = tried at htry ⊢
    split
    · exact htry
    · have hadd := (account_send (r := r) tried.2
        (.tunnelPortTenantAdd tried.2.portIdCnt tunnelId) fun _ => rfl).trans htry
      generalize tried.2.send r (.tunnelPortTenantAdd tried.2.portIdCnt tunnelId) = added
        at hadd ⊢
      split
      · exact (account_deleteAccessPort _ _ _ _ _).trans hadd
      · cases flooding with
        | false =>
          simp only [Bool.false_eq_true, if_false]
          split
          · next hneg hpos => exact absurd hpos hneg
          · exact hadd
        | true =>
          simp only [if_true]
          have hflood := (account_enableFlooding (r := r) added.2 tunnelId
            added.2.portIdCnt).trans hadd
          split
          · exact (account_deleteAccessPort _ _ _ _ _).trans
              ((account_send _ _ fun _ => rfl).trans ((account_disableFlooding _ _ _).trans hflood))
          · exact hflood

/-- `delete_next_hop(tnh)`. -/
theorem account_deleteNextHopTnh (hr : Answers r) (tnh : TunnelNh) :
    (s.deleteNextHopTnh r tnh).2.account = (s.endpoints, s.hopView.drop tnh) := by
  unfold deleteNextHopTnh NhView.drop
  change _ = (s.endpoints, match s.tunnelNextHopId.find tnh with | none => _ | some x => _)
  cases s.tunnelNextHopId.find tnh with
  | none => rfl
  | some x =>
    simp only
    split
    · have hdelete := switch_send (s := s) (hr.deletes s.calls (.tunnelNextHopDelete x.nhId) rfl)
      have hhops : (s.send r (.tunnelNextHopDelete x.nhId)).2.switch.nextHops =
          s.switch.nextHops.erase x.nhId := by
        rw [hdelete]
        rfl
      rw [hopView, ← hhops]
      rfl
    · rfl

theorem account_deleteNextHop (hr : Answers r) (nhId : Nat) :
    (s.deleteNextHop r nhId).2.account = (s.endpoints, s.hopView.put nhId) := by
  unfold deleteNextHop
  rw [NhView.put_eq]
  change _ = (s.endpoints, match s.tunnelNextHop2tnh.lookup nhId with | none => _ | some tnh => _)
  cases s.tunnelNextHop2tnh.lookup nhId with
  | none => rfl
  | some tnh => exact account_deleteNextHopTnh s hr tnh

theorem acts_deleteNextHopNeigh (hr : Answers r) (k : Kernel) (ifindex : Int)
    (dstMac : Mac) : Acts s.account (deleteNextHopNeigh r k s ifindex dstMac).2.account := by
  unfold deleteNextHopNeigh
  cases k.linkByIfindex ifindex with
  | none => exact .refl
  | some link =>
    simp only
    split
    · exact .refl
    · cases link.addr with
      | none => exact .refl
      | some srcMac =>
        rw [account_deleteNextHopTnh s hr]
        exact .single (.drop _ _ _)

theorem account_addL2NeighPort (mac : Mac) (lport tunnelId : Nat) :
    (s.addL2NeighPort r mac lport tunnelId).2.account = s.account := by
  unfold addL2NeighPort
  split
  · rfl
  · exact account_send s _ fun _ => rfl

/-- The neighbours at a remote, one after the other. -/
theorem account_addL2NeighPorts (macs : List Mac) (lport tunnelId : Nat) (rv : Int) :
    (macs.foldl (fun (_, s) mac => s.addL2NeighPort r mac lport tunnelId) (rv, s)).2.account =
      s.account := by
  induction macs generalizing s rv with
  | nil => rfl
  | cons mac macs ih =>
    rw [List.foldl_cons]
    exact (ih _ _).trans (account_addL2NeighPort s mac lport tunnelId)

/-- A reference is given back when nothing that is deleted fails. -/
theorem dec_eq_unref (e : Endpoints) (ep : EndpointPort) (vni : Nat) (x : EndpointTunnelPort) :
    (if x.refcnt - 1 = 0 then (e.dec ep vni).eraseEntry ep else e.dec ep vni) =
      e.unref ep vni x := by
  unfold Endpoints.unref Endpoints.eraseEntry Endpoints.dec
  split
  · simp only [MultiMap.erase_modify]
  · rfl

theorem leaveTenant_nonneg (hr : Answers r) (vni tunnelId : Nat) (x : EndpointTunnelPort) :
    0 ≤ (s.leaveTenant r vni tunnelId x).1 := by
  unfold leaveTenant
  split
  · exact hr.deletes _ _ rfl
  · exact le_rfl

theorem account_leaveTenant (vni tunnelId : Nat) (x : EndpointTunnelPort) :
    (s.leaveTenant r vni tunnelId x).2.account = s.account := by
  unfold leaveTenant
  split
  · exact account_send s _ fun _ => rfl
  · rfl

/-- The last reference: the port and the next hop go. -/
theorem account_releasePort (hr : Answers r) (ep : EndpointPort) (x : EndpointTunnelPort)
    {left : Int × NlVxlan} (hleft : 0 ≤ left.1) :
    (releasePort r ep x left).2.account =
      (if x.refcnt - 1 = 0 then left.2.endpoints.eraseEntry ep else left.2.endpoints,
        if x.refcnt - 1 = 0 then left.2.hopView.put x.nhId else left.2.hopView) := by
  unfold releasePort
  rw [if_neg (not_lt.mpr hleft)]
  by_cases hlast : x.refcnt - 1 = 0
  · simp only [hlast, if_true]
    have hdelete := account_send (r := r) left.2 (.tunnelPortDelete x.lportId) fun _ => rfl
    have hput := account_deleteNextHop (left.2.send r (.tunnelPortDelete x.lportId)).2 hr x.nhId
    generalize (left.2.send r (.tunnelPortDelete x.lportId)).2 = s' at hdelete hput ⊢
    obtain ⟨hendpoints, hhops⟩ := Prod.mk.inj hput
    obtain ⟨hendpoints', hhops'⟩ := Prod.mk.inj hdelete
    rw [← hendpoints', ← hhops', ← hendpoints, ← hhops]
    rfl
  · simp only [hlast, if_false]
    rfl

theorem account_releaseEndpoint (hr : Answers r) (ep : EndpointPort) (vni tunnelId : Nat)
    (x : EndpointTunnelPort) :
    (s.releaseEndpoint r ep vni tunnelId x).2.account =
      (s.endpoints.unref ep vni x,
        if x.refcnt - 1 = 0 then s.hopView.put x.nhId else s.hopView) := by
  have hleft := leaveTenant_nonneg { s with endpoints := s.endpoints.dec ep vni } hr vni tunnelId x
  have haccount : (leaveTenant r { s with endpoints := s.endpoints.dec ep vni } vni tunnelId
      x).2.account = (s.endpoints.dec ep vni, s.hopView) := account_leaveTenant _ vni tunnelId x
  unfold releaseEndpoint
  generalize leaveTenant r { s with endpoints := s.endpoints.dec ep vni } vni tunnelId x = left
    at hleft haccount ⊢
  obtain ⟨hendpoints, hhops⟩ := Prod.mk.inj haccount
  rw [account_releasePort hr ep x hleft, hendpoints, hhops, dec_eq_unref]

theorem acts_releaseEndpoint (hr : Answers r) {ep : EndpointPort} {x : EndpointTunnelPort}
    (hx : s.endpoints.endpointId.find ep = some x) (vni tunnelId : Nat) :
    Acts s.account (s.releaseEndpoint r ep vni tunnelId x).2.account := by
  rw [account_releaseEndpoint s hr]
  refine .head (.unref s.endpoints s.hopView ep vni x hx) ?_
  split
  · exact Acts.put _ _ _
  · exact .refl

theorem acts_deleteEndpointRemote (hr : Answers r) (link : VxlanLink) (loc remote : Addr) :
    Acts s.account (s.deleteEndpointRemote r link loc remote).2.account := by
  unfold deleteEndpointRemote
  cases s.vni2tunnel.lookup link.vni with
  | none => exact .refl
  | some tunnelId =>
    simp only
    cases hx : s.endpoints.endpointId.find (link.endpointPort loc remote) with
    | none => exact .refl
    | some x =>
      rw [← account_disableFlooding (r := r) s tunnelId x.lportId]
      exact acts_releaseEndpoint (s.disableFlooding r tunnelId x.lportId).2 hr hx link.vni tunnelId

theorem acts_deleteNextHop (hr : Answers r) (nhId : Nat) :
    Acts s.account (s.deleteNextHop r nhId).2.account := by
  rw [account_deleteNextHop s hr]
  exact Acts.put _ _ _

theorem acts_deleteEndpoint (hr : Answers r) (link : VxlanLink) :
    Acts s.account (s.deleteEndpoint r link).2.account := by
  unfold deleteEndpoint
  cases link.localAddr with
  | none => exact .refl
  | some loc =>
    cases link.group with
    | none => exact .refl
    | some remote => exact acts_deleteEndpointRemote s hr link loc remote

theorem acts_deleteL2NeighEndpoint (hr : Answers r) (link : VxlanLink) (loc remote : Addr)
    (mac : Mac) : Acts s.account (s.deleteL2NeighEndpoint r link loc remote mac).2.account := by
  unfold deleteL2NeighEndpoint
  cases s.vni2tunnel.lookup link.vni with
  | none => exact .refl
  | some tunnelId =>
    simp only
    split
    · exact .refl
    · rw [← account_send (r := r) s (.l2OverlayAddrRemove tunnelId 0 mac) fun _ => rfl]
      generalize (s.send r (.l2OverlayAddrRemove tunnelId 0 mac)).2 = s'
      cases hx : s'.endpoints.endpointId.find (link.endpointPort loc remote) with
      | none => exact .refl
      | some x => exact acts_snd (acts_releaseEndpoint s' hr hx link.vni tunnelId)

theorem acts_deleteL2Neigh (hr : Answers r) (link : VxlanLink) (mac : Mac)
    (dst : Option Addr) {res : Int × NlVxlan} (h : s.deleteL2Neigh r link mac dst = some res) :
    Acts s.account res.2.account := by
  unfold deleteL2Neigh at h
  repeat' split at h
  all_goals cases h
  all_goals first
    | exact acts_deleteEndpointRemote s hr link _ _
    | exact acts_deleteL2NeighEndpoint s hr link _ _ mac
    | exact .refl

theorem account_createVni (link : VxlanLink) : (s.createVni r link).2.account = s.account := by
  unfold createVni
  cases link.isVxlan with
  | false => rfl
  | true =>
    cases s.vni2tunnel.lookup link.vni with
    | some tunnelId => rfl
    | none =>
      have hcreate := account_send (r := r) s (.tunnelTenantCreate s.tunnelIdCnt link.vni)
        fun _ => rfl
      have hadd := (account_send (r := r) (s.send r (.tunnelTenantCreate s.tunnelIdCnt link.vni)).2
        (.overlayTunnelAdd s.tunnelIdCnt) fun _ => rfl).trans hcreate
      simp only [Bool.not_true, Bool.false_eq_true, if_false]
      split
      · exact hcreate
      · split
        · exact (account_send _ _ fun _ => rfl).trans hadd
        · exact hadd

theorem account_removeVni (link : VxlanLink) : (s.removeVni r link).2.account = s.account := by
  unfold removeVni
  cases link.isVxlan with
  | false => rfl
  | true =>
    cases s.vni2tunnel.lookup link.vni with
    | none => rfl
    | some tunnelId =>
      have hdelete := (account_send (r := r) (s.send r (.overlayTunnelRemove tunnelId)).2
        (.tunnelTenantDelete tunnelId) fun _ => rfl).trans (account_send s _ fun _ => rfl)
      simp only [Bool.not_true, Bool.false_eq_true, if_false]
      split
      · exact hdelete
      · exact hdelete

end Handlers

/-! ## Next hops and endpoints that are created -/

/-- The next hop that `create_next_hop(vxlan_link, remote, next_hop_id)` is about. -/
def nextHopOf (k : Kernel) (remote : Addr) : Option TunnelNh :=
  (k.nextHopNeigh remote).bind fun neigh => k.tunnelNh neigh.1 neigh.2

/-- Nothing has changed but the references to next hops, and the next hops on the switch. -/
structure HopFrame (s s' : NlVxlan) : Prop where
  vni2tunnel : s'.vni2tunnel = s.vni2tunnel
  portIdCnt : s'.portIdCnt = s.portIdCnt
  switch : s'.switch = { s.switch with nextHops := s'.switch.nextHops }

/-- What `create_next_hop` leaves: nothing when it fails, and a reference to the next hop when it
does not. -/
inductive HopOutcome (s : NlVxlan) (tnh : Option TunnelNh) : Int × Nat × NlVxlan → Prop
  | failed {rv : Int} {nhId : Nat} {s' : NlVxlan} (hrv : rv < 0) (hframe : HopFrame s s')
      (haccount : s'.account = s.account) : HopOutcome s tnh (rv, nhId, s')
  | taken {rv : Int} {s' : NlVxlan} {t : TunnelNh} (htnh : tnh = some t) (hrv : 0 ≤ rv)
      (hframe : HopFrame s s') (haccount : s'.account = (s.endpoints, (s.hopView.get t).2)) :
      HopOutcome s tnh (rv, (s.hopView.get t).1, s')

/-- What `create_endpoint(vxlan_link, local, group, next_hop_id, lport_id)` leaves. -/
inductive PortOutcome (s : NlVxlan) (ep : EndpointPort) (vni nhId : Nat) :
    Int × Nat × NlVxlan → Prop
  | shared {s' : NlVxlan} {x : EndpointTunnelPort} (hx : s.endpoints.endpointId.find ep = some x)
      (hvni : s'.vni2tunnel = s.vni2tunnel) (hswitch : s'.switch = s.switch)
      (haccount : s'.account = (s.endpoints.ref ep vni, s.hopView)) :
      PortOutcome s ep vni nhId (0, x.lportId, s')
  | failed {s' : NlVxlan} (hx : s.endpoints.endpointId.find ep = none)
      (hvni : s'.vni2tunnel = s.vni2tunnel) (hswitch : s'.switch = s.switch)
      (haccount : s'.account = s.account) : PortOutcome s ep vni nhId (-EINVAL, 0, s')
  | created {s' : NlVxlan} (hx : s.endpoints.endpointId.find ep = none)
      (hvni : s'.vni2tunnel = s.vni2tunnel)
      (hswitch : s'.switch = s.switch.after (.tunnelEndpointCreate s.portIdCnt ep nhId))
      (haccount : s'.account = (s.endpoints.create ep vni s.portIdCnt nhId, s.hopView)) :
      PortOutcome s ep vni nhId (0, s.portIdCnt, s')

section Creations

variable {r : SwResults} (s : NlVxlan) (k : Kernel) (link : VxlanLink)

theorem HopFrame.refl : HopFrame s s := ⟨rfl, rfl, rfl⟩

theorem hopFrame_create (nhId : Nat) (tnh : TunnelNh) :
    HopFrame s (s.send r (.tunnelNextHopCreate nhId tnh)).2 := by
  refine ⟨rfl, rfl, ?_⟩
  by_cases hc : 0 ≤ r s.calls (.tunnelNextHopCreate nhId tnh)
  · rw [switch_send hc]
    rfl
  · rw [switch_send_of_neg (not_le.mp hc)]

/-- `create_next_hop(neigh, next_hop_id)`. -/
theorem createNextHopNeigh_outcome (ifindex : Int) (mac : Mac) :
    HopOutcome s (k.tunnelNh ifindex mac) (createNextHopNeigh r k s ifindex mac) := by
  have hneg : (-EINVAL : Int) < 0 := by decide
  unfold createNextHopNeigh Kernel.tunnelNh
  cases k.linkByIfindex ifindex with
  | none => exact .failed hneg (.refl s) rfl
  | some l =>
    by_cases hp : l.portId = 0
    · simp only [hp, if_true]
      exact .failed hneg (.refl s) rfl
    simp only [hp, if_false]
    cases l.addr with
    | none => exact .failed hneg (.refl s) rfl
    | some srcMac =>
      simp only [Option.map_some]
      generalize (⟨srcMac, mac, l.portId, k.portUntaggedVid⟩ : TunnelNh) = tnh
      cases hx : s.tunnelNextHopId.find tnh with
      | some x =>
        have hget := NhView.get_of_some (v := s.hopView) hx
        have hout : HopOutcome s (some tnh) (0, (s.hopView.get tnh).1, { s with
            tunnelNextHopId :=
              s.tunnelNextHopId.modify tnh fun x => { x with refcnt := x.refcnt + 1 } }) := by
          refine .taken rfl le_rfl ⟨rfl, rfl, rfl⟩ ?_
          rw [hget]
          rfl
        rw [hget] at hout
        exact hout
      | none =>
        have hframe := hopFrame_create (r := r) s s.nextHopIdCnt tnh
        by_cases hc : r s.calls (.tunnelNextHopCreate s.nextHopIdCnt tnh) < 0
        · simp only [send_fst, hc, if_true]
          refine .failed hc hframe ?_
          simp only [account, hopView, switch_send_of_neg hc]
          rfl
        · simp only [send_fst, hc, if_false]
          have hget := NhView.get_of_none (v := s.hopView) hx
          have hcreated := switch_send (not_lt.mp hc)
          have hout : HopOutcome s (some tnh)
              (r s.calls (.tunnelNextHopCreate s.nextHopIdCnt tnh), (s.hopView.get tnh).1,
                { (s.send r (.tunnelNextHopCreate s.nextHopIdCnt tnh)).2 with
                  tunnelNextHopId :=
                    s.tunnelNextHopId.emplace tnh { refcnt := 1, nhId := s.nextHopIdCnt }
                  tunnelNextHop2tnh := s.tunnelNextHop2tnh.emplace s.nextHopIdCnt tnh
                  nextHopIdCnt := u32 (s.nextHopIdCnt + 1) }) := by
            refine .taken rfl (not_lt.mp hc) ⟨rfl, rfl, hframe.switch⟩ ?_
            have hhops : (s.send r (.tunnelNextHopCreate s.nextHopIdCnt tnh)).2.switch.nextHops =
                insert s.nextHopIdCnt s.switch.nextHops := by
              rw [hcreated]
              rfl
            rw [hget]
            change _ = (s.endpoints, (⟨_, _, _, 0, insert s.nextHopIdCnt s.switch.nextHops⟩ : NhView))
            rw [← hhops]
            rfl
          rw [hget] at hout
          exact hout

/-- `create_next_hop(vxlan_link, remote, next_hop_id)`. -/
theorem createNextHop_outcome (remote : Addr) :
    HopOutcome s (nextHopOf k remote) (createNextHop r k s link remote) := by
  have hneg : (-EINVAL : Int) < 0 := by decide
  unfold createNextHop nextHopOf Kernel.nextHopNeigh
  cases k.queryRoute remote with
  | none => exact .failed hneg (.refl s) rfl
  | some route =>
    simp only
    cases Vxlan.getNexthopsOfRoute k route with
    | nil => exact .failed (by decide) (.refl s) rfl
    | cons nh nhs =>
      simp only
      generalize Vxlan.pickNextHop (nh :: nhs) 0 = picked
      cases k.getNeighbour picked.1 (picked.2.getD remote) with
      | none => exact .failed (by decide) ⟨rfl, rfl, rfl⟩ rfl
      | some m =>
        cases m with
        | none => exact .failed (by decide) ⟨rfl, rfl, rfl⟩ rfl
        | some mac =>
          simp only [Option.bind_some]
          have hout := createNextHopNeigh_outcome (r := r) s k picked.1 mac
          generalize createNextHopNeigh r k s picked.1 mac = out at hout ⊢
          cases hout with
          | failed hrv hframe haccount =>
            simp only [hrv, if_true]
            exact .failed hneg hframe haccount
          | taken htnh hrv hframe haccount =>
            simp only [not_lt.mpr hrv, if_false]
            exact .taken htnh hrv hframe haccount

/-- `create_endpoint(vxlan_link, local, group, next_hop_id, lport_id)`. -/
theorem createEndpointPort_outcome (hr : Answers r) (loc remote : Addr) (nhId : Nat) :
    PortOutcome s (link.endpointPort loc remote) link.vni nhId
      (s.createEndpointPort r link loc remote nhId) := by
  unfold createEndpointPort
  simp only
  generalize link.endpointPort loc remote = ep
  cases hx : s.endpoints.endpointId.find ep with
  | some x => exact .shared hx rfl rfl rfl
  | none =>
    have haccount := account_send (r := r) s (.tunnelEndpointCreate s.portIdCnt ep nhId) fun _ => rfl
    by_cases hc : r s.calls (.tunnelEndpointCreate s.portIdCnt ep nhId) = 0
    · simp only [send_fst, hc, ne_eq, not_true_eq_false, if_false]
      refine .created hx rfl (switch_send hc.ge) ?_
      obtain ⟨-, hhops⟩ := Prod.mk.inj haccount
      rw [← hhops]
      rfl
    · simp only [send_fst, hc, ne_eq, not_false_iff, if_true]
      exact .failed hx rfl (switch_send_of_neg (lt_of_le_of_ne (hr.nonpos _ _) hc)) haccount

theorem PortOutcome.acts {s : NlVxlan} {ep : EndpointPort} {vni nhId : Nat}
    {out : Int × Nat × NlVxlan} (h : PortOutcome s ep vni nhId out) :
    Acts s.account out.2.2.account := by
  cases h with
  | shared hx hvni hswitch haccount =>
    rw [haccount]
    exact .single (.ref s.endpoints s.hopView ep vni)
  | failed hx hvni hswitch haccount =>
    rw [haccount]
  | created hx hvni hswitch haccount =>
    rw [haccount]
    exact .single (.create s.endpoints s.hopView ep vni s.portIdCnt nhId hx)

theorem acts_setupEndpoint (hr : Answers r) (loc remote : Addr) (nhId lport tunnelId : Nat) :
    Acts s.account (setupEndpoint r k s link loc remote nhId lport tunnelId).2.account := by
  have hback : ∀ s' : NlVxlan, s'.account = s.account → Acts s.account
      ((s'.deleteEndpointRemote r link loc remote).2.deleteNextHop r nhId).2.account := by
    intro s' hs'
    rw [← hs']
    exact (acts_deleteEndpointRemote s' hr link loc remote).trans (acts_deleteNextHop _ hr nhId)
  have hadd := account_send (r := r) s (.tunnelPortTenantAdd lport tunnelId) fun _ => rfl
  unfold setupEndpoint
  generalize s.send r (.tunnelPortTenantAdd lport tunnelId) = added at hadd ⊢
  simp only
  split
  · exact hback _ hadd
  · refine Eq.subst (motive := fun a => Acts s.account a)
      (account_addL2NeighPorts _ _ lport tunnelId _).symm ?_
    have hflood := (account_enableFlooding (r := r) added.2 tunnelId lport).trans hadd
    split
    · split
      · exact hback _ ((account_send _ _ fun _ => rfl).trans
          ((account_disableFlooding _ _ _).trans hflood))
      · rw [← hflood]
    · rw [← hadd]

/-- `create_endpoint(vxlan_link, br_link, remote)`. -/
theorem turn_createEndpointRemote (hr : Answers r) (remote : Addr) :
    VxlanAccount.Turn s.account (createEndpointRemote r k s link remote).2.account := by
  unfold createEndpointRemote
  split
  · exact .acts .refl
  cases link.localAddr with
  | none => exact .acts .refl
  | some loc =>
    simp only
    split
    · exact .acts .refl
    have hhop := createNextHop_outcome (r := r) s k link remote
    generalize createNextHop r k s link remote = out at hhop ⊢
    cases hhop with
    | @failed rv nhId s' hrv hframe haccount =>
      simp only [hrv, if_true]
      split
      · exact .acts (haccount ▸ .refl)
      · exact .acts (haccount ▸ .refl)
    | @taken rv s' tnh htnh hrv hframe haccount =>
      have hunreach : rv ≠ -ENETUNREACH := by
        have : (-ENETUNREACH : Int) < 0 := by decide
        omega
      refine .take tnh ?_
      change Acts (s.endpoints, (s.hopView.get tnh).2) _
      rw [← haccount]
      simp only [hunreach, not_lt.mpr hrv, if_false]
      cases s'.vni2tunnel.lookup link.vni with
      | none => exact .refl
      | some tunnelId =>
        have hport := (createEndpointPort_outcome s' link hr loc remote
          (s.hopView.get tnh).1).acts
        generalize s'.createEndpointPort r link loc remote (s.hopView.get tnh).1 = port at hport ⊢
        simp only
        split
        · exact hport.trans (acts_deleteNextHop _ hr _)
        · exact hport.trans (acts_setupEndpoint _ k link hr loc remote _ _ tunnelId)

theorem turn_createEndpoint (hr : Answers r) :
    VxlanAccount.Turn s.account (createEndpoint r k s link).2.account := by
  unfold createEndpoint
  split
  · exact .acts .refl
  · cases link.group with
    | none => exact .acts .refl
    | some group =>
      simp only
      split
      · exact .acts .refl
      · exact turn_createEndpointRemote s k link hr group

theorem turn_netReachableNotification (hr : Answers r) (params : NetParams) :
    VxlanAccount.Turn s.account (netReachableNotification r k s params).account := by
  unfold netReachableNotification
  cases k.vxlanLink params.ifindex with
  | none => exact .acts .refl
  | some link =>
    simp only
    split
    · exact .acts .refl
    · exact turn_createEndpointRemote s k link hr params.addr

theorem turn_addL2NeighRemote (hr : Answers r) (mac : Mac) (loc remote : Addr) :
    VxlanAccount.Turn s.account (addL2NeighRemote r k s link mac loc remote).2.account := by
  have href : ∀ s' : NlVxlan, s'.account = s.account → Acts s.account
      (account { s' with endpoints := s'.endpoints.ref (link.endpointPort loc remote) link.vni }) := by
    intro s' hs'
    rw [← hs']
    exact .single (.ref s'.endpoints s'.hopView _ _)
  unfold addL2NeighRemote
  split
  · exact .acts .refl
  cases s.vni2tunnel.lookup link.vni with
  | none => exact .acts .refl
  | some tunnelId =>
    simp only
    generalize ((s.endpoints.endpointId.find (link.endpointPort loc remote)).map
      (·.lportId)).getD 0 = lport
    split
    · split
      · exact turn_createEndpointRemote s k link hr remote
      · have hadd := href (s.send r (.tunnelPortTenantAdd lport tunnelId)).2
          (account_send s _ fun _ => rfl)
        split
        · exact .acts hadd
        · split
          · rw [account_enableFlooding]
            exact .acts hadd
          · exact .acts hadd
    · split
      · exact .acts .refl
      · have hadd := account_addL2NeighPort (r := r) s mac lport tunnelId
        split
        · rw [hadd]
          exact .acts .refl
        · exact .acts (href _ hadd)

theorem turn_addL2Neigh (hr : Answers r) (mac : Mac) (dst : Option Addr) :
    VxlanAccount.Turn s.account (addL2Neigh r k s link mac dst).2.account := by
  unfold addL2Neigh
  split
  · exact .acts .refl
  · split
    · exact turn_addL2NeighRemote s k link hr mac _ _
    · exact .acts .refl

/-- What an event does to the references. -/
theorem exec_turn (hr : Answers r) {e : Ev} {s' : NlVxlan} (h : s.exec r e = some s') :
    VxlanAccount.Turn s.account s'.account := by
  cases e with
  | createAccessPort flooding tunnelId pportNo vid untagged =>
    cases h
    rw [account_createAccessPort]
    exact .acts .refl
  | deleteAccessPort flooding pportNo vid wipe =>
    cases h
    rw [account_deleteAccessPort]
    exact .acts .refl
  | createEndpoint k link => cases h; exact turn_createEndpoint s k link hr
  | netReachable k params => cases h; exact turn_netReachableNotification s k hr params
  | addL2Neigh k link mac dst => cases h; exact turn_addL2Neigh s k link hr mac dst
  | deleteL2Neigh link mac dst =>
    obtain ⟨res, hres, rfl⟩ := Option.map_eq_some_iff.mp h
    exact .acts (acts_deleteL2Neigh s hr link mac dst hres)
  | deleteEndpoint link => cases h; exact .acts (acts_deleteEndpoint s hr link)
  | createNextHop k link remote =>
    cases h
    have hhop := createNextHop_outcome (r := r) s k link remote
    generalize createNextHop r k s link remote = out at hhop ⊢
    cases hhop with
    | failed hrv hframe haccount => exact .acts (haccount ▸ .refl)
    | @taken rv s' tnh htnh hrv hframe haccount =>
      refine .take tnh ?_
      rw [haccount]
      exact .refl
  | deleteNextHop nhId => cases h; exact .acts (acts_deleteNextHop s hr nhId)
  | deleteNextHopNeigh k ifindex dstMac =>
    cases h
    exact .acts (acts_deleteNextHopNeigh s hr k ifindex dstMac)
  | createVni link =>
    cases h
    rw [account_createVni]
    exact .acts .refl
  | removeVni link =>
    cases h
    rw [account_removeVni]
    exact .acts .refl

end Creations

/-! ## Runs -/

/-- `assert(next_hop_id_cnt)` in `create_next_hop`: when the counter has come round, no further id
is given out. -/
def NoZeroId (r : SwResults) (o : Option NlVxlan) (e : Ev) : Prop :=
  ∀ s s', o = some s → s.exec r e = some s' → s.nextHopIdCnt = 0 → s'.nextHopIdCnt = 0

/-- While the process runs the account holds. -/
def AccountInv : Option NlVxlan → Prop
  | none => True
  | some s => s.account.Inv

theorem accountInv_step {r : SwResults} (hr : Answers r) (o : Option NlVxlan) (e : Ev)
    (h : AccountInv o) (he : NoZeroId r o e) : AccountInv (NlVxlan.step r o e) := by
  cases o with
  | none => trivial
  | some s =>
    simp only [NlVxlan.step]
    cases hs' : s.exec r e with
    | none => trivial
    | some s' => exact VxlanAccount.Inv.turn h (exec_turn s hr hs') (he s s' rfl hs')

/-- **The counts of `nl_vxlan`** are in order in every state that is reached. -/
theorem accountInv_of_reachable {r : SwResults} (hr : Answers r) {es : List Ev}
    (hes : Along (NlVxlan.step r) (NoZeroId r) (some {}) es) :
    AccountInv (run (NlVxlan.step r) (some {}) es) :=
  run_inv (show AccountInv (some {}) from inv_init) (accountInv_step hr) hes


end NlVxlan

end Basebox
