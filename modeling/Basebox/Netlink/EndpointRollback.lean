import Basebox.Netlink.VxlanAccount

/-!
# An endpoint that cannot be set up (`nl_vxlan::create_endpoint`)

`create_endpoint(vxlan_link, br_link, remote)` takes a next hop, takes an endpoint, adds its port to
the tenant and to the flooding, and installs the neighbours behind it. When a step fails, the ones
before it are to be taken back.

* `NhView.same_get`, `NhView.same_put_get`, `NhView.same_put_put_get`: a next hop that is taken and
  given back not at all, once, or twice.
* `Shows`: the references and the switch in a state, through the calls of the roll-back.
* `createEndpoint_undone_iff`: for each step, when its failure is undone.
-/

namespace Basebox

/-! ## Next hops that are given back -/

namespace NhView

/-- The same next hops, in the maps and on the switch. -/
structure Same (v' v : NhView) : Prop where
  hops : ∀ tnh, v'.hops.find tnh = v.hops.find tnh
  back : ∀ id, v'.back.lookup id = v.back.lookup id
  onSwitch : v'.onSwitch = v.onSwitch

variable {v : NhView} {tnh : TunnelNh}

theorem Same.refl (v : NhView) : Same v v := ⟨fun _ => rfl, fun _ => rfl, rfl⟩

/-- A reference that is not given back. -/
theorem not_same_get (v : NhView) (tnh : TunnelNh) : ¬ Same (v.get tnh).2 v := by
  intro h
  have hfind := h.hops tnh
  rw [find_get, if_pos rfl, refs] at hfind
  cases hx : v.hops.find tnh with
  | none =>
    rw [hx] at hfind
    cases hfind
  | some x =>
    rw [hx] at hfind
    have hrefcnt := congrArg TunnelNhPort.refcnt (Option.some.inj hfind)
    simp only [Option.map_some, Option.getD_some] at hrefcnt
    omega

/-- A reference that is given back. -/
theorem find_put {x : TunnelNhPort}
    (hmap : IdMap TunnelNhPort.nhId (2 ^ 32) v.hops v.back v.cnt) (hx : v.hops.find tnh = some x)
    (t : TunnelNh) : (v.put x.nhId).hops.find t =
      if t = tnh then if x.refcnt - 1 = 0 then none else some { x with refcnt := x.refcnt - 1 }
      else v.hops.find t := by
  unfold put
  simp only [hmap.lookup_of_find hx, hx]
  by_cases hlast : x.refcnt - 1 = 0
  · simp only [hlast, if_true]
    exact MultiMap.find_erase hmap.nodup tnh t
  · simp only [hlast, if_false, MultiMap.find_modify, hx]
    rfl

section Shared

variable {x : TunnelNhPort} (hmap : IdMap TunnelNhPort.nhId (2 ^ 32) v.hops v.back v.cnt)
  (hx : v.hops.find tnh = some x) (hpos : 0 < x.refcnt)

include hmap hx hpos

/-- A reference to a next hop that others use, given back. -/
theorem put_get_of_some : (v.get tnh).2.put (v.get tnh).1 = { v with
    hops := (v.hops.modify tnh fun x => { x with refcnt := x.refcnt + 1 }).modify tnh
      fun x => { x with refcnt := x.refcnt - 1 } } := by
  have hfind : (v.hops.modify tnh fun x => { x with refcnt := x.refcnt + 1 }).find tnh =
      some { x with refcnt := x.refcnt + 1 } := by
    rw [MultiMap.find_modify, if_pos rfl, hx]
    rfl
  have hmore : x.refcnt + 1 - 1 ≠ 0 := by omega
  rw [get_of_some hx]
  unfold put
  simp only [hmap.lookup_of_find hx, hfind, hmore, if_false]

theorem same_put_get_of_some : Same ((v.get tnh).2.put (v.get tnh).1) v := by
  rw [put_get_of_some hmap hx hpos]
  refine ⟨fun t => ?_, fun _ => rfl, rfl⟩
  simp only [MultiMap.find_modify]
  by_cases ht : t = tnh
  · subst ht
    simp [hx]
  · simp [ht]

/-- The reference of another is given back as well. -/
theorem not_same_put_put_get :
    ¬ Same (((v.get tnh).2.put (v.get tnh).1).put (v.get tnh).1) v := by
  intro h
  have hsame := same_put_get_of_some hmap hx hpos
  have hmap' : IdMap TunnelNhPort.nhId (2 ^ 32) ((v.get tnh).2.put (v.get tnh).1).hops
      ((v.get tnh).2.put (v.get tnh).1).back ((v.get tnh).2.put (v.get tnh).1).cnt := by
    rw [put_get_of_some hmap hx hpos]
    exact (hmap.modify tnh (fun x => { x with refcnt := x.refcnt + 1 }) fun _ => rfl).modify tnh
      (fun x => { x with refcnt := x.refcnt - 1 }) fun _ => rfl
  have hid : (v.get tnh).1 = x.nhId := by rw [get_of_some hx]
  have hfind := find_put hmap' ((hsame.hops tnh).trans hx) tnh
  rw [← hid, if_pos rfl, h.hops tnh, hx] at hfind
  split at hfind
  · cases hfind
  · have hrefcnt := congrArg TunnelNhPort.refcnt (Option.some.inj hfind)
    simp only at hrefcnt
    omega

end Shared

section New

variable (hmap : IdMap TunnelNhPort.nhId (2 ^ 32) v.hops v.back v.cnt)
  (hx : v.hops.find tnh = none) (hc : v.cnt ≠ 0)

include hmap hx hc

/-- A new next hop, given back. -/
theorem put_get_of_none : (v.get tnh).2.put (v.get tnh).1 = { (v.get tnh).2 with
    hops := (v.hops.emplace tnh { refcnt := 1, nhId := v.cnt }).erase tnh
    back := (v.back.emplace v.cnt tnh).erase v.cnt
    onSwitch := (insert v.cnt v.onSwitch).erase v.cnt } := by
  have hfind : (v.hops.emplace tnh { refcnt := 1, nhId := v.cnt }).find tnh =
      some { refcnt := 1, nhId := v.cnt } := by
    rw [MultiMap.find_emplace, hx, if_pos rfl]
    rfl
  have hback : (v.back.emplace v.cnt tnh).lookup v.cnt = some tnh := by
    rw [Table.lookup_emplace, if_pos rfl, hmap.lookup_cnt hc]
    rfl
  rw [get_of_none hx]
  unfold put
  simp only [hback, hfind, show (1 : Int) - 1 = 0 from rfl, if_true]

theorem same_put_get_of_none :
    Same ((v.get tnh).2.put (v.get tnh).1) v ↔ v.cnt ∉ v.onSwitch := by
  rw [put_get_of_none hmap hx hc]
  constructor
  · intro h
    rw [← h.onSwitch]
    exact Finset.notMem_erase _ _
  · intro hnot
    refine ⟨fun t => ?_, fun id => ?_, Finset.erase_insert hnot⟩
    · simp only [MultiMap.find_erase (hmap.nodup.emplace hx _), MultiMap.find_emplace]
      by_cases ht : t = tnh
      · simp [ht, hx]
      · simp [ht]
    · simp only [Table.lookup_erase_ite, Table.lookup_emplace]
      by_cases hid : id = v.cnt
      · rw [hid, hmap.lookup_cnt hc]
        simp
      · simp [hid]

/-- It is not there any more when it is given back again. -/
theorem put_put_get_of_none : ((v.get tnh).2.put (v.get tnh).1).put (v.get tnh).1 =
    (v.get tnh).2.put (v.get tnh).1 := by
  have hid : (v.get tnh).1 = v.cnt := by rw [get_of_none hx]
  have hback : ((v.get tnh).2.put (v.get tnh).1).back.lookup v.cnt = none := by
    rw [put_get_of_none hmap hx hc]
    simp only [Table.lookup_erase_ite, if_true]
  generalize (v.get tnh).2.put (v.get tnh).1 = w at hback ⊢
  rw [hid]
  unfold put
  rw [hback]

end New

/-- **A next hop that is taken and given back once**: all is as before, unless the id of a new one
was in use. -/
theorem same_put_get (hmap : IdMap TunnelNhPort.nhId (2 ^ 32) v.hops v.back v.cnt)
    (hpos : ∀ x, v.hops.find tnh = some x → 0 < x.refcnt)
    (hc : v.hops.find tnh = none → v.cnt ≠ 0) :
    Same ((v.get tnh).2.put (v.get tnh).1) v ↔
      (v.hops.find tnh = none → v.cnt ∉ v.onSwitch) := by
  cases hx : v.hops.find tnh with
  | some x => exact iff_of_true (same_put_get_of_some hmap hx (hpos x hx)) (by simp)
  | none => simpa using same_put_get_of_none hmap hx (hc hx)

/-- **A next hop that is taken once and given back twice**: all is as before only if it was new. -/
theorem same_put_put_get (hmap : IdMap TunnelNhPort.nhId (2 ^ 32) v.hops v.back v.cnt)
    (hpos : ∀ x, v.hops.find tnh = some x → 0 < x.refcnt)
    (hc : v.hops.find tnh = none → v.cnt ≠ 0) :
    Same (((v.get tnh).2.put (v.get tnh).1).put (v.get tnh).1) v ↔
      v.hops.find tnh = none ∧ v.cnt ∉ v.onSwitch := by
  cases hx : v.hops.find tnh with
  | some x => exact iff_of_false (not_same_put_put_get hmap hx (hpos x hx)) (by simp)
  | none =>
    rw [put_put_get_of_none hmap hx (hc hx), same_put_get_of_none hmap hx (hc hx)]
    simp

end NhView

/-! ## Endpoints that are given back -/

/-- What an entry of `endpoint_id` says: its counts, its port and its next hop. -/
def EndpointTunnelPort.content (x : EndpointTunnelPort) : Int × Nat × Nat × (Nat → Nat) :=
  (x.refcnt, x.lportId, x.nhId, fun vni => x.vniCount vni)

namespace Endpoints

/-- The same entries. -/
def Same (e' e : Endpoints) : Prop :=
  ∀ ep, (e'.endpointId.find ep).map EndpointTunnelPort.content =
    (e.endpointId.find ep).map EndpointTunnelPort.content

variable {e : Endpoints} {ep : EndpointPort} {x : EndpointTunnelPort} {vni : Nat}

/-- The entry after another reference. -/
def moreRefs (x : EndpointTunnelPort) (vni : Nat) : EndpointTunnelPort :=
  { x with refcnt := x.refcnt + 1, refcntVni := x.refcntVni.insert vni (u32 (x.vniCount vni + 1)) }

theorem find_ref_self (hx : e.endpointId.find ep = some x) :
    (e.ref ep vni).endpointId.find ep = some (moreRefs x vni) := by
  rw [find_ref, if_pos rfl, hx]
  rfl

theorem vniCount_moreRefs (x : EndpointTunnelPort) (vni : Nat) :
    (moreRefs x vni).vniCount vni = u32 (x.vniCount vni + 1) := by
  unfold moreRefs
  rw [vniCount_insert, if_pos rfl]

theorem pred32_u32_succ {n : Nat} (hn : n < 2 ^ 32) : pred32 (u32 (n + 1)) = n := by
  unfold pred32 u32
  omega

/-- A reference to an endpoint that others use, given back. -/
theorem Inv.same_unref_ref (h : Inv e) (hx : e.endpointId.find ep = some x) (hpos : 0 < x.refcnt) :
    Same ((e.ref ep vni).unref ep vni (moreRefs x vni)) e := by
  intro q
  rw [(h.ref ep vni).find_unref (find_ref_self hx)]
  have hmore : (moreRefs x vni).refcnt - 1 ≠ 0 := by
    unfold moreRefs
    simp only
    omega
  by_cases hq : q = ep
  · subst hq
    rw [if_pos rfl, if_neg hmore, hx]
    refine congrArg some (Prod.ext ?_ (Prod.ext rfl (Prod.ext rfl (funext fun w => ?_))))
    · exact Int.add_sub_cancel x.refcnt 1
    · simp only [EndpointTunnelPort.content, vniCount_insert, vniCount_moreRefs,
        pred32_u32_succ (h.lt _ x hx vni)]
      by_cases hw : w = vni
      · rw [if_pos hw, hw]
      · rw [if_neg hw, moreRefs, Table.lookup_insert_ite, if_neg hw]
        rfl
  · rw [if_neg hq, find_ref, if_neg hq]

/-- A new endpoint, given back. -/
theorem Inv.same_unref_create (h : Inv e) (hx : e.endpointId.find ep = none) (lportId nhId : Nat)
    (hnew : (e.create ep vni lportId nhId).endpointId.find ep = some x) :
    Same ((e.create ep vni lportId nhId).unref ep vni x) e := by
  intro q
  rw [(h.create hx vni lportId nhId).find_unref hnew]
  rw [find_create hx, if_pos rfl, Option.some.injEq] at hnew
  by_cases hq : q = ep
  · subst hq
    rw [if_pos rfl, ← hnew, hx]
    rfl
  · rw [if_neg hq, find_create hx, if_neg hq]

end Endpoints

namespace NlVxlan

/-! ## The calls of the roll-back -/

/-- The references and the switch in a state; the next hops on the switch are those of the
account. -/
structure Shows (s : NlVxlan) (a : VxlanAccount) (w : TunnelSwitch) : Prop where
  account : s.account = a
  switch : s.switch = { w with nextHops := a.2.onSwitch }

/-- A call that does nothing to next hops. -/
def NotHop (c : SwCall) : Prop :=
  ∀ (w : TunnelSwitch) (ids : Finset Nat),
    ({ w with nextHops := ids } : TunnelSwitch).after c = { w.after c with nextHops := ids }

/-- What the release of a reference to an endpoint does on the switch. -/
def released (w : TunnelSwitch) (x : EndpointTunnelPort) (vni tunnelId : Nat) : TunnelSwitch :=
  { w with
    floods := w.floods.erase (tunnelId, x.lportId)
    members :=
      if pred32 (x.vniCount vni) = 0 then w.members.erase (x.lportId, tunnelId) else w.members
    ports := if x.refcnt - 1 = 0 then w.ports.erase x.lportId else w.ports }

namespace Shows

variable {r : SwResults} {s s' : NlVxlan} {a : VxlanAccount} {e : Endpoints} {v : NhView}
  {w : TunnelSwitch}

theorem self (s : NlVxlan) : Shows s s.account s.switch := ⟨rfl, rfl⟩

theorem endpoints (h : Shows s (e, v) w) : s.endpoints = e := congrArg Prod.fst h.account

theorem hopView (h : Shows s (e, v) w) : s.hopView = v := congrArg Prod.snd h.account

/-- A next hop is taken or given back. -/
theorem of_frame (h : Shows s a w) (hframe : HopFrame s s') {a' : VxlanAccount}
    (haccount : s'.account = a') : Shows s' a' w where
  account := haccount
  switch := by
    rw [hframe.switch, h.switch, ← haccount]
    rfl

/-- A call that succeeds. -/
theorem send (h : Shows s a w) {c : SwCall} (hc : NotHop c) (hr : 0 ≤ r s.calls c) :
    Shows (s.send r c).2 a (w.after c) where
  account := by
    rw [account_send s c fun w => by simpa using congrArg TunnelSwitch.nextHops (hc w w.nextHops)]
    exact h.account
  switch := by
    rw [switch_send hr, h.switch]
    exact hc w a.2.onSwitch

/-- A call that fails. -/
theorem refused (h : Shows s a w) {c : SwCall} (hc : NotHop c) (hr : r s.calls c < 0) :
    Shows (s.send r c).2 a w where
  account := by
    rw [account_send s c fun w => by simpa using congrArg TunnelSwitch.nextHops (hc w w.nextHops)]
    exact h.account
  switch := by
    rw [switch_send_of_neg hr]
    exact h.switch

theorem hopFrame_deleteNextHop (hr : Answers r) (s : NlVxlan) (nhId : Nat) :
    HopFrame s (s.deleteNextHop r nhId).2 := by
  unfold NlVxlan.deleteNextHop deleteNextHopTnh
  cases s.tunnelNextHop2tnh.lookup nhId with
  | none => exact .refl s
  | some tnh =>
    simp only
    cases s.tunnelNextHopId.find tnh with
    | none => exact .refl s
    | some x =>
      simp only
      split
      · have hdelete := switch_send (s := s) (hr.deletes s.calls (.tunnelNextHopDelete x.nhId) rfl)
        have hswitch : (s.send r (.tunnelNextHopDelete x.nhId)).2.switch = { s.switch with
            nextHops := (s.send r (.tunnelNextHopDelete x.nhId)).2.switch.nextHops } := by
          rw [hdelete]
          rfl
        exact ⟨rfl, rfl, hswitch⟩
      · exact ⟨rfl, rfl, rfl⟩

theorem deleteNextHop (hr : Answers r) (h : Shows s (e, v) w) (nhId : Nat) :
    Shows (s.deleteNextHop r nhId).2 (e, v.put nhId) w :=
  h.of_frame (hopFrame_deleteNextHop hr s nhId) (by
    rw [account_deleteNextHop s hr, h.endpoints, h.hopView])

/-- `disable_flooding`. -/
theorem disableFlooding (hr : Answers r) (h : Shows s a w) (tunnelId lportId : Nat) :
    Shows (s.disableFlooding r tunnelId lportId).2 a
      { w with floods := w.floods.erase (tunnelId, lportId) } :=
  h.send (c := .delL2OverlayFlood tunnelId lportId) (fun _ _ => rfl) (hr.deletes _ _ rfl)

/-- The port leaves the tenant with the last reference of the VNI. -/
theorem leaveTenant (hr : Answers r) (h : Shows s a w) (vni tunnelId : Nat)
    (x : EndpointTunnelPort) :
    Shows (s.leaveTenant r vni tunnelId x).2 a { w with
      members :=
        if pred32 (x.vniCount vni) = 0 then w.members.erase (x.lportId, tunnelId)
        else w.members } := by
  unfold NlVxlan.leaveTenant
  by_cases hlast : pred32 (x.vniCount vni) = 0
  · simp only [hlast, if_true]
    exact h.send (c := .tunnelPortTenantRemove x.lportId tunnelId) (fun _ _ => rfl)
      (hr.deletes _ _ rfl)
  · simp only [hlast, if_false]
    exact h

/-- The port and the next hop go with the last reference. -/
theorem releasePort (hr : Answers r) (ep : EndpointPort) (x : EndpointTunnelPort)
    {left : Int × NlVxlan} (hleft : 0 ≤ left.1) (h : Shows left.2 (e, v) w) :
    Shows (NlVxlan.releasePort r ep x left).2
      (if x.refcnt - 1 = 0 then e.eraseEntry ep else e,
        if x.refcnt - 1 = 0 then v.put x.nhId else v)
      { w with ports := if x.refcnt - 1 = 0 then w.ports.erase x.lportId else w.ports } := by
  unfold NlVxlan.releasePort
  rw [if_neg (not_lt.mpr hleft)]
  by_cases hlast : x.refcnt - 1 = 0
  · simp only [hlast, if_true]
    have hput := (h.send (r := r) (c := .tunnelPortDelete x.lportId) (fun _ _ => rfl)
      (hr.deletes _ _ rfl)).deleteNextHop hr x.nhId
    refine ⟨Prod.ext ?_ hput.hopView, hput.switch⟩
    exact congrArg (Endpoints.eraseEntry · ep) hput.endpoints
  · simp only [hlast, if_false]
    exact h

/-- `delete_endpoint(vxlan_link, local, remote)`. -/
theorem deleteEndpointRemote (hr : Answers r) (h : Shows s (e, v) w) (link : VxlanLink)
    (loc remote : Addr) {tunnelId : Nat} (ht : s.vni2tunnel.lookup link.vni = some tunnelId)
    {x : EndpointTunnelPort} (hx : e.endpointId.find (link.endpointPort loc remote) = some x) :
    Shows (s.deleteEndpointRemote r link loc remote).2
      (e.unref (link.endpointPort loc remote) link.vni x,
        if x.refcnt - 1 = 0 then v.put x.nhId else v)
      (released w x link.vni tunnelId) := by
  unfold NlVxlan.deleteEndpointRemote
  rw [← h.endpoints] at hx
  simp only [ht, hx]
  have hflood := h.disableFlooding hr tunnelId x.lportId
  generalize (s.disableFlooding r tunnelId x.lportId).2 = s₁ at hflood ⊢
  have hdec : Shows { s₁ with endpoints := s₁.endpoints.dec (link.endpointPort loc remote) link.vni }
      (e.dec (link.endpointPort loc remote) link.vni, v)
      { w with floods := w.floods.erase (tunnelId, x.lportId) } := by
    refine ⟨Prod.ext ?_ hflood.hopView, hflood.switch⟩
    exact congrArg (Endpoints.dec · (link.endpointPort loc remote) link.vni) hflood.endpoints
  have hrelease := (hdec.leaveTenant hr link.vni tunnelId x).releasePort hr
    (link.endpointPort loc remote) x (leaveTenant_nonneg _ hr link.vni tunnelId x)
  rw [dec_eq_unref] at hrelease
  simp only at hrelease
  unfold releaseEndpoint released
  exact hrelease

end Shows

/-! ## What is left after a failure -/

/-- A step of `create_endpoint(vxlan_link, br_link, remote)` behind the addresses. -/
inductive CreateStep where
  | nextHop
  | tunnelId
  | endpoint
  | tenant
  | flooding
  deriving DecidableEq

/-- The step that fails. -/
def failedStep (r : SwResults) (k : Kernel) (s : NlVxlan) (link : VxlanLink) (loc remote : Addr) :
    Option CreateStep :=
  let (rv, nhId, s) := createNextHop r k s link remote
  if rv < 0 then some .nextHop
  else
    match s.vni2tunnel.lookup link.vni with
    | none => some .tunnelId
    | some tunnelId =>
      let (rv, lport, s) := s.createEndpointPort r link loc remote nhId
      if rv < 0 then some .endpoint
      else
        let (rv, s) := s.send r (.tunnelPortTenantAdd lport tunnelId)
        if rv < 0 then some .tenant
        else if k.isPortFlooding link.ifindex ∧ (s.enableFlooding r tunnelId lport).1 < 0 then
          some .flooding
        else none

/-- An error is returned, the references are as before, and so is the switch. That says that no
overlay address has been installed. -/
structure EndpointUndone (s : NlVxlan) (out : Int × NlVxlan) : Prop where
  error : out.1 < 0
  endpoints : out.2.endpoints.Same s.endpoints
  nextHops : out.2.hopView.Same s.hopView
  switch : out.2.switch = s.switch

/-- The next hop is a new one. -/
def NewHop (k : Kernel) (s : NlVxlan) (remote : Addr) : Prop :=
  ∃ tnh, nextHopOf k remote = some tnh ∧ s.tunnelNextHopId.find tnh = none

/-- The port of an endpoint, also of one that is created. -/
def portOf (s : NlVxlan) (ep : EndpointPort) : Nat :=
  ((s.endpoints.endpointId.find ep).map (·.lportId)).getD s.portIdCnt

/-- The references of a VNI to an endpoint. -/
def countOf (s : NlVxlan) (ep : EndpointPort) (vni : Nat) : Nat :=
  ((s.endpoints.endpointId.find ep).map (·.vniCount vni)).getD 0

/-- The next hop is given back twice if the endpoint is new, and the port leaves the flooding
anyway. -/
structure Rollable (k : Kernel) (s : NlVxlan) (remote : Addr) (ep : EndpointPort) (tunnelId : Nat) :
    Prop where
  hop : NewHop k s remote → s.nextHopIdCnt ∉ s.switch.nextHops
  endpoint : s.endpoints.endpointId.find ep = none →
    NewHop k s remote ∧ s.portIdCnt ∉ s.switch.ports
  flood : (tunnelId, s.portOf ep) ∉ s.switch.floods

/-- The neighbours that are installed behind a remote. -/
def neighbours (k : Kernel) (link : VxlanLink) (remote : Addr) : List Mac :=
  (k.fdb link.ifindex remote).filter (· ≠ 0)

/-- When the failure of a step is undone. -/
def Undoable (k : Kernel) (s : NlVxlan) (link : VxlanLink) (loc remote : Addr) : CreateStep → Prop
  | .nextHop => True
  | .tunnelId => False
  | .endpoint => NewHop k s remote → s.nextHopIdCnt ∉ s.switch.nextHops
  | .tenant => ∃ tunnelId, s.vni2tunnel.lookup link.vni = some tunnelId ∧
      Rollable k s remote (link.endpointPort loc remote) tunnelId ∧
      (s.countOf (link.endpointPort loc remote) link.vni = 0 →
        (s.portOf (link.endpointPort loc remote), tunnelId) ∉ s.switch.members)
  | .flooding => ∃ tunnelId, s.vni2tunnel.lookup link.vni = some tunnelId ∧
      Rollable k s remote (link.endpointPort loc remote) tunnelId ∧
      (s.portOf (link.endpointPort loc remote), tunnelId) ∉ s.switch.members ∧
      (neighbours k link remote = [] ∨ s.portOf (link.endpointPort loc remote) = 0 ∨ tunnelId = 0)

section Neighbours

variable (r : SwResults)

/-- Without a port or a tunnel no neighbour is installed. -/
theorem addL2NeighPorts_of_zero {lport tunnelId : Nat} (hz : lport = 0 ∨ tunnelId = 0)
    (macs : List Mac) (s : NlVxlan) {rv : Int} (hrv : rv < 0) :
    (macs.foldl (fun out mac => out.2.addL2NeighPort r mac lport tunnelId) (rv, s)).1 < 0 ∧
      (macs.foldl (fun out mac => out.2.addL2NeighPort r mac lport tunnelId) (rv, s)).2 = s := by
  induction macs generalizing rv with
  | nil => exact ⟨hrv, rfl⟩
  | cons mac macs ih =>
    have hskip : s.addL2NeighPort r mac lport tunnelId = (-EINVAL, s) := by
      unfold addL2NeighPort
      rw [if_pos hz]
    rw [List.foldl_cons]
    simp only [hskip]
    exact ih (show (-EINVAL : Int) < 0 by decide)

/-- The result is that of the last neighbour, which is zero whatever the switch answers. -/
theorem addL2NeighPorts_fst {lport tunnelId : Nat} (hz : ¬ (lport = 0 ∨ tunnelId = 0))
    {macs : List Mac} (hmacs : macs ≠ []) (out : Int × NlVxlan) :
    (macs.foldl (fun out mac => out.2.addL2NeighPort r mac lport tunnelId) out).1 = 0 := by
  induction macs generalizing out with
  | nil => exact absurd rfl hmacs
  | cons mac macs ih =>
    rw [List.foldl_cons]
    cases macs with
    | nil => simp [addL2NeighPort, hz]
    | cons mac' macs => exact ih (by simp) _

end Neighbours

section Undone

variable {r : SwResults} {k : Kernel} {s s' : NlVxlan} {link : VxlanLink} {loc remote : Addr}
  {e : Endpoints} {v : NhView} {w : TunnelSwitch} {tnh : TunnelNh}

/-- What is to be compared. -/
theorem Shows.undone_iff (h : Shows s' (e, v) w) (rv : Int) :
    EndpointUndone s (rv, s') ↔ rv < 0 ∧ e.Same s.endpoints ∧ v.Same s.hopView ∧
      { w with nextHops := s.switch.nextHops } = s.switch := by
  constructor
  · intro hu
    have hswitch := hu.switch
    have hhops := hu.nextHops
    have hendpoints := hu.endpoints
    simp only [h.switch] at hswitch
    simp only [h.hopView] at hhops
    simp only [h.endpoints] at hendpoints
    refine ⟨hu.error, hendpoints, hhops, ?_⟩
    rw [← hswitch]
  · rintro ⟨hrv, hendpoints, hhops, hswitch⟩
    refine ⟨hrv, h.endpoints ▸ hendpoints, h.hopView ▸ hhops, ?_⟩
    rw [h.switch, ← hswitch]
    exact congrArg (fun ids => ({ w with nextHops := ids } : TunnelSwitch)) hhops.onSwitch

/-- What `create_endpoint` has when it has the port: one reference more to the endpoint, which
`x` is the entry of. -/
structure Joined (s : NlVxlan) (ep : EndpointPort) (vni nhId : Nat) (e : Endpoints)
    (x : EndpointTunnelPort) (w : TunnelSwitch) : Prop where
  find : e.endpointId.find ep = some x
  same : (e.unref ep vni x).Same s.endpoints
  lportId : x.lportId = s.portOf ep
  last : x.refcnt - 1 = 0 ↔ s.endpoints.endpointId.find ep = none
  nhId : s.endpoints.endpointId.find ep = none → x.nhId = nhId
  count : pred32 (x.vniCount vni) = 0 ↔ s.countOf ep vni = 0
  ports : w = { s.switch with ports :=
    if s.endpoints.endpointId.find ep = none then insert s.portIdCnt s.switch.ports
    else s.switch.ports }

/-- The endpoint is shared. -/
theorem joined_ref (hinv : s.account.Inv) {ep : EndpointPort} {x : EndpointTunnelPort}
    (hx : s.endpoints.endpointId.find ep = some x) (vni nhId : Nat) :
    Joined s ep vni nhId (s.endpoints.ref ep vni) (Endpoints.moreRefs x vni) s.switch where
  find := Endpoints.find_ref_self hx
  same := hinv.endpoints.same_unref_ref hx (hinv.refcnt ep x hx)
  lportId := by simp [portOf, hx, Endpoints.moreRefs]
  last := by
    have hpos := hinv.refcnt ep x hx
    simp only [hx, reduceCtorEq, iff_false, Endpoints.moreRefs]
    omega
  nhId h := by simp [hx] at h
  count := by
    rw [Endpoints.vniCount_moreRefs, Endpoints.pred32_u32_succ (hinv.endpoints.lt ep x hx vni)]
    simp [countOf, hx]
  ports := by simp [hx]

/-- The endpoint is new. -/
theorem joined_create (hinv : s.account.Inv) {ep : EndpointPort}
    (hx : s.endpoints.endpointId.find ep = none) (vni nhId : Nat) :
    Joined s ep vni nhId (s.endpoints.create ep vni s.portIdCnt nhId)
      ⟨1, s.portIdCnt, nhId, (∅ : Table Nat Nat).insert vni 1⟩
      (s.switch.after (.tunnelEndpointCreate s.portIdCnt ep nhId)) where
  find := by rw [Endpoints.find_create hx, if_pos rfl]
  same :=
    have hfind : (s.endpoints.create ep vni s.portIdCnt nhId).endpointId.find ep = some _ := by
      rw [Endpoints.find_create hx, if_pos rfl]
    hinv.endpoints.same_unref_create hx s.portIdCnt nhId hfind
  lportId := by simp [portOf, hx]
  last := by simp [hx]
  nhId _ := rfl
  count := by
    rw [Endpoints.vniCount_insert, if_pos rfl]
    simp only [countOf, hx, Option.map_none, Option.getD_none, iff_true]
    decide
  ports := by simp [hx, TunnelSwitch.after]

/-- The calls that give back the endpoint and the next hop. -/
theorem Shows.rollBack (hr : Answers r) (h : Shows s' (e, v) w) (nhId : Nat) {tunnelId : Nat}
    (ht : s'.vni2tunnel.lookup link.vni = some tunnelId) {x : EndpointTunnelPort}
    (hx : e.endpointId.find (link.endpointPort loc remote) = some x) :
    Shows ((s'.deleteEndpointRemote r link loc remote).2.deleteNextHop r nhId).2
      (e.unref (link.endpointPort loc remote) link.vni x,
        (if x.refcnt - 1 = 0 then v.put x.nhId else v).put nhId)
      (released w x link.vni tunnelId) :=
  (h.deleteEndpointRemote hr link loc remote ht hx).deleteNextHop hr nhId

/-- The next hop is given back once, and once more with a new endpoint. -/
theorem Joined.same_hops {ep : EndpointPort} {vni : Nat} {x : EndpointTunnelPort}
    (hinv : s.account.Inv) (hc : s.tunnelNextHopId.find tnh = none → s.nextHopIdCnt ≠ 0)
    (h : Joined s ep vni (s.hopView.get tnh).1 e x w) :
    ((if x.refcnt - 1 = 0 then (s.hopView.get tnh).2.put x.nhId
        else (s.hopView.get tnh).2).put (s.hopView.get tnh).1).Same s.hopView ↔
      (s.tunnelNextHopId.find tnh = none → s.nextHopIdCnt ∉ s.switch.nextHops) ∧
        (s.endpoints.endpointId.find ep = none → s.tunnelNextHopId.find tnh = none) := by
  by_cases hnew : s.endpoints.endpointId.find ep = none
  · rw [if_pos (h.last.mpr hnew), h.nhId hnew,
      NhView.same_put_put_get (v := s.hopView) hinv.map (hinv.pos tnh) hc]
    simp only [hnew, true_implies]
    exact ⟨fun ⟨hx, hid⟩ => ⟨fun _ => hid, hx⟩, fun ⟨hid, hx⟩ => ⟨hx, hid hx⟩⟩
  · rw [if_neg fun hlast => hnew (h.last.mp hlast),
      NhView.same_put_get (v := s.hopView) hinv.map (hinv.pos tnh) hc]
    simp only [hnew, false_implies, and_true]
    rfl

/-- The port of a new endpoint is deleted again. -/
theorem Joined.same_ports {ep : EndpointPort} {vni nhId : Nat} {x : EndpointTunnelPort}
    (h : Joined s ep vni nhId e x w) :
    (if x.refcnt - 1 = 0 then w.ports.erase x.lportId else w.ports) = s.switch.ports ↔
      (s.endpoints.endpointId.find ep = none → s.portIdCnt ∉ s.switch.ports) := by
  rw [h.ports, h.lportId]
  by_cases hnew : s.endpoints.endpointId.find ep = none
  · have hport : s.portOf ep = s.portIdCnt := by simp [portOf, hnew]
    rw [if_pos (h.last.mpr hnew), hport]
    simp only [hnew, if_true, true_implies, Finset.erase_insert_eq_erase, Finset.erase_eq_self]
  · rw [if_neg fun hlast => hnew (h.last.mp hlast)]
    simp only [hnew, if_false, false_implies]

/-- What the roll-back leaves on the switch, where it finds the memberships `m` and the flooding
`f`. -/
theorem Joined.same_switch {ep : EndpointPort} {vni nhId : Nat} {x : EndpointTunnelPort}
    (h : Joined s ep vni nhId e x w) (tunnelId : Nat) (m f : Finset (Nat × Nat)) :
    { released { w with members := m, floods := f } x vni tunnelId with
        nextHops := s.switch.nextHops } = s.switch ↔
      (s.endpoints.endpointId.find ep = none → s.portIdCnt ∉ s.switch.ports) ∧
        (if s.countOf ep vni = 0 then m.erase (s.portOf ep, tunnelId) else m) =
          s.switch.members ∧
        f.erase (tunnelId, s.portOf ep) = s.switch.floods := by
  have hinstalled : w.installed = s.switch.installed := by rw [h.ports]
  rw [TunnelSwitch.ext_iff, ← h.same_ports]
  simp only [released, h.lportId, h.count, hinstalled, and_true, true_and]

/-- The port could not be added to the tenant. -/
theorem Joined.same_switch_tenant {ep : EndpointPort} {vni nhId : Nat} {x : EndpointTunnelPort}
    (h : Joined s ep vni nhId e x w) (tunnelId : Nat) :
    { released w x vni tunnelId with nextHops := s.switch.nextHops } = s.switch ↔
      (s.endpoints.endpointId.find ep = none → s.portIdCnt ∉ s.switch.ports) ∧
        (s.countOf ep vni = 0 → (s.portOf ep, tunnelId) ∉ s.switch.members) ∧
        (tunnelId, s.portOf ep) ∉ s.switch.floods := by
  have hmembers : w.members = s.switch.members := by rw [h.ports]
  have hfloods : w.floods = s.switch.floods := by rw [h.ports]
  refine (h.same_switch tunnelId w.members w.floods).trans ?_
  rw [hmembers, hfloods, Finset.erase_eq_self]
  by_cases hcount : s.countOf ep vni = 0
  · simp only [hcount, if_true, true_implies, Finset.erase_eq_self]
  · simp only [hcount, if_false, false_implies, true_and]

/-- The port could not be added to the flooding: it has left the tenant before the roll-back. -/
theorem Joined.same_switch_flooding {ep : EndpointPort} {vni nhId : Nat} {x : EndpointTunnelPort}
    (h : Joined s ep vni nhId e x w) (tunnelId : Nat) :
    { released { w with
          members := (insert (s.portOf ep, tunnelId) w.members).erase (s.portOf ep, tunnelId)
          floods := w.floods.erase (tunnelId, s.portOf ep) } x vni tunnelId with
        nextHops := s.switch.nextHops } = s.switch ↔
      (s.endpoints.endpointId.find ep = none → s.portIdCnt ∉ s.switch.ports) ∧
        (s.portOf ep, tunnelId) ∉ s.switch.members ∧
        (tunnelId, s.portOf ep) ∉ s.switch.floods := by
  have hmembers : w.members = s.switch.members := by rw [h.ports]
  have hfloods : w.floods = s.switch.floods := by rw [h.ports]
  refine (h.same_switch tunnelId _ _).trans ?_
  rw [hmembers, hfloods, Finset.erase_insert_eq_erase, Finset.erase_idem, Finset.erase_idem,
    ite_self, Finset.erase_eq_self, Finset.erase_eq_self]

theorem newHop_iff (htnh : nextHopOf k remote = some tnh) :
    NewHop k s remote ↔ s.tunnelNextHopId.find tnh = none := by
  simp [NewHop, htnh]

/-- The roll-back as a whole. -/
theorem rollable_iff (htnh : nextHopOf k remote = some tnh) {ep : EndpointPort} {tunnelId : Nat} :
    Rollable k s remote ep tunnelId ↔
      ((s.tunnelNextHopId.find tnh = none → s.nextHopIdCnt ∉ s.switch.nextHops) ∧
        (s.endpoints.endpointId.find ep = none → s.tunnelNextHopId.find tnh = none)) ∧
      (s.endpoints.endpointId.find ep = none → s.portIdCnt ∉ s.switch.ports) ∧
      (tunnelId, s.portOf ep) ∉ s.switch.floods := by
  rw [← newHop_iff htnh]
  constructor
  · intro h
    exact ⟨⟨h.hop, fun hep => (h.endpoint hep).1⟩, fun hep => (h.endpoint hep).2, h.flood⟩
  · rintro ⟨⟨hhop, hnew⟩, hport, hflood⟩
    exact ⟨hhop, fun hep => ⟨hnew hep, hport hep⟩, hflood⟩

/-- The result of `enable_flooding` is negative only if that of the switch is. -/
theorem enableFlooding_neg {tunnelId lport : Nat} (h : (s.enableFlooding r tunnelId lport).1 < 0) :
    r s.calls (.addL2OverlayFlood tunnelId lport) < 0 := by
  by_contra hpos
  have heq : (s.enableFlooding r tunnelId lport).1 = r s.calls (.addL2OverlayFlood tunnelId lport) :=
    if_neg hpos
  exact hpos (heq ▸ h)

section Setup

variable {tunnelId nhId lport : Nat} {x : EndpointTunnelPort} (hr : Answers r)
  (hinv : s.account.Inv) (hc : s.tunnelNextHopId.find tnh = none → s.nextHopIdCnt ≠ 0)
  (htnh : nextHopOf k remote = some tnh) (hnhId : nhId = (s.hopView.get tnh).1)
  (hvni : s.vni2tunnel.lookup link.vni = some tunnelId)
  (hvni' : s'.vni2tunnel.lookup link.vni = some tunnelId)
  (h : Shows s' (e, (s.hopView.get tnh).2) w)
  (hj : Joined s (link.endpointPort loc remote) link.vni (s.hopView.get tnh).1 e x w)

include hr hinv hc htnh hnhId hvni hvni' h hj

/-- The port cannot be added to the tenant. -/
theorem setupEndpoint_tenant (hfail : r s'.calls (.tunnelPortTenantAdd lport tunnelId) < 0) :
    EndpointUndone s (setupEndpoint r k s' link loc remote nhId lport tunnelId) ↔
      Undoable k s link loc remote .tenant := by
  have hrefused := h.refused (c := .tunnelPortTenantAdd lport tunnelId) (fun _ _ => rfl) hfail
  have hback := hrefused.rollBack hr nhId hvni' hj.find
  unfold setupEndpoint
  simp only [send_fst, hfail, if_true]
  rw [hback.undone_iff, hnhId, hj.same_hops hinv hc, hj.same_switch_tenant]
  simp only [Undoable, hvni, Option.some.injEq, exists_eq_left', rollable_iff htnh]
  constructor
  · rintro ⟨-, -, hhops, hports, hmembers, hfloods⟩
    exact ⟨⟨hhops, hports, hfloods⟩, hmembers⟩
  · rintro ⟨⟨hhops, hports, hfloods⟩, hmembers⟩
    exact ⟨by decide, hj.same, hhops, hports, hmembers, hfloods⟩

/-- The port cannot be added to the flooding. All but the result is undone before the neighbours are
installed. -/
theorem setupEndpoint_flooding (hlport : lport = s.portOf (link.endpointPort loc remote))
    (hadd : 0 ≤ r s'.calls (.tunnelPortTenantAdd lport tunnelId))
    (hflooding : k.isPortFlooding link.ifindex = true)
    (hfail : ((s'.send r (.tunnelPortTenantAdd lport tunnelId)).2.enableFlooding r tunnelId
      lport).1 < 0) :
    EndpointUndone s (setupEndpoint r k s' link loc remote nhId lport tunnelId) ↔
      Undoable k s link loc remote .flooding := by
  have hrefused : r (s'.send r (.tunnelPortTenantAdd lport tunnelId)).2.calls
      (.addL2OverlayFlood tunnelId lport) < 0 := enableFlooding_neg hfail
  have hflooded : Shows ((s'.send r (.tunnelPortTenantAdd lport tunnelId)).2.enableFlooding r
      tunnelId lport).2 (e, (s.hopView.get tnh).2)
      (w.after (.tunnelPortTenantAdd lport tunnelId)) :=
    (h.send (c := .tunnelPortTenantAdd lport tunnelId) (fun _ _ => rfl) hadd).refused
      (c := .addL2OverlayFlood tunnelId lport) (fun _ _ => rfl) hrefused
  have hleft := (hflooded.disableFlooding hr tunnelId lport).send
    (c := .tunnelPortTenantRemove lport tunnelId) (fun _ _ => rfl) (hr.deletes _ _ rfl)
  have hback := hleft.rollBack hr nhId hvni' hj.find
  have hswitch := hj.same_switch_flooding tunnelId
  rw [← hlport] at hswitch
  unfold setupEndpoint
  simp only [send_fst, not_lt.mpr hadd, hflooding, hfail, if_true, if_false]
  generalize (deleteNextHop r _ nhId).2 = s₁ at hback ⊢
  generalize (enableFlooding r _ tunnelId lport).1 = rv at hfail ⊢
  change EndpointUndone s (List.foldl _ (rv, s₁) (neighbours k link remote)) ↔ _
  have hundo : ∀ rv < 0, (EndpointUndone s (rv, s₁) ↔ Rollable k s remote
      (link.endpointPort loc remote) tunnelId ∧ (lport, tunnelId) ∉ s.switch.members) := by
    intro rv hrv
    refine (hback.undone_iff rv).trans ?_
    rw [hnhId, hj.same_hops hinv hc, rollable_iff htnh, ← hlport]
    constructor
    · rintro ⟨-, -, hhops, hleft⟩
      obtain ⟨hports, hmembers, hfloods⟩ := hswitch.mp hleft
      exact ⟨⟨hhops, hports, hfloods⟩, hmembers⟩
    · rintro ⟨⟨hhops, hports, hfloods⟩, hmembers⟩
      exact ⟨hrv, hj.same, hhops, hswitch.mpr ⟨hports, hmembers, hfloods⟩⟩
  have hundoable : Undoable k s link loc remote .flooding ↔ (Rollable k s remote
      (link.endpointPort loc remote) tunnelId ∧ (lport, tunnelId) ∉ s.switch.members) ∧
      (neighbours k link remote = [] ∨ lport = 0 ∨ tunnelId = 0) := by
    simp only [Undoable, hvni, Option.some.injEq, exists_eq_left', ← hlport, and_assoc]
  rw [hundoable]
  by_cases hz : lport = 0 ∨ tunnelId = 0
  · obtain ⟨herror, hstate⟩ := addL2NeighPorts_of_zero r hz (neighbours k link remote) s₁ hfail
    generalize List.foldl _ (rv, s₁) (neighbours k link remote) = out at herror hstate ⊢
    obtain ⟨rv', s₂⟩ := out
    subst hstate
    simp only [hz, or_true, and_true]
    exact hundo rv' herror
  · by_cases hmacs : neighbours k link remote = []
    · simp only [hmacs, List.foldl_nil, true_or, and_true]
      exact hundo rv hfail
    · refine iff_of_false (fun hu => ?_) fun h => hz (h.2.resolve_left hmacs)
      have herror := hu.error
      rw [addL2NeighPorts_fst r hz hmacs] at herror
      exact lt_irrefl _ herror

/-- The steps that follow when there is a port. -/
theorem setupEndpoint_undone (hlport : lport = s.portOf (link.endpointPort loc remote))
    {step : CreateStep}
    (hfail : (if (s'.send r (.tunnelPortTenantAdd lport tunnelId)).1 < 0 then
        some CreateStep.tenant
      else if k.isPortFlooding link.ifindex ∧
          ((s'.send r (.tunnelPortTenantAdd lport tunnelId)).2.enableFlooding r tunnelId
            lport).1 < 0 then
        some .flooding
      else none) = some step) :
    EndpointUndone s (setupEndpoint r k s' link loc remote nhId lport tunnelId) ↔
      Undoable k s link loc remote step := by
  split at hfail
  · next hadd =>
    cases hfail
    exact setupEndpoint_tenant hr hinv hc htnh hnhId hvni hvni' h hj hadd
  · next hadd =>
    split at hfail
    · next hflood =>
      cases hfail
      exact setupEndpoint_flooding hr hinv hc htnh hnhId hvni hvni' h hj hlport (not_lt.mp hadd)
        hflood.1 hflood.2
    · cases hfail

end Setup

/-- `create_endpoint(vxlan_link, br_link, remote)` once it has a next hop and a tunnel. -/
def joinEndpoint (r : SwResults) (k : Kernel) (s : NlVxlan) (link : VxlanLink) (loc remote : Addr)
    (nhId tunnelId : Nat) : Int × NlVxlan :=
  let (rv, lport, s) := s.createEndpointPort r link loc remote nhId
  if rv < 0 then (-EINVAL, (s.deleteNextHop r nhId).2)
  else setupEndpoint r k s link loc remote nhId lport tunnelId

/-- The step that fails then. -/
def failedJoin (r : SwResults) (k : Kernel) (s : NlVxlan) (link : VxlanLink) (loc remote : Addr)
    (nhId tunnelId : Nat) : Option CreateStep :=
  let (rv, lport, s) := s.createEndpointPort r link loc remote nhId
  if rv < 0 then some .endpoint
  else
    let (rv, s) := s.send r (.tunnelPortTenantAdd lport tunnelId)
    if rv < 0 then some .tenant
    else if k.isPortFlooding link.ifindex ∧ (s.enableFlooding r tunnelId lport).1 < 0 then
      some .flooding
    else none

/-- The roll-back when there is a next hop, of which a reference was taken, and a tunnel. -/
theorem joinEndpoint_undone (hr : Answers r) (hinv : s.account.Inv)
    (hc : s.tunnelNextHopId.find tnh = none → s.nextHopIdCnt ≠ 0)
    (htnh : nextHopOf k remote = some tnh) (hframe : HopFrame s s')
    (hshows : Shows s' (s.endpoints, (s.hopView.get tnh).2) s.switch) {tunnelId : Nat}
    (hvni : s'.vni2tunnel.lookup link.vni = some tunnelId) {step : CreateStep}
    (hfail : failedJoin r k s' link loc remote (s.hopView.get tnh).1 tunnelId = some step) :
    EndpointUndone s (joinEndpoint r k s' link loc remote (s.hopView.get tnh).1 tunnelId) ↔
      Undoable k s link loc remote step := by
  have hlookup : s'.vni2tunnel = s.vni2tunnel := hframe.vni2tunnel
  unfold failedJoin at hfail
  unfold joinEndpoint
  have hport := createEndpointPort_outcome s' link hr loc remote (s.hopView.get tnh).1
  generalize s'.createEndpointPort r link loc remote (s.hopView.get tnh).1 = port at hport hfail ⊢
  cases hport with
  | @failed s₂ hx hvni₂ hswitch₂ haccount₂ =>
    have hneg : (-EINVAL : Int) < 0 := by decide
    have hback := (Shows.mk (haccount₂.trans hshows.account)
      (hswitch₂.trans hshows.switch)).deleteNextHop hr (s.hopView.get tnh).1
    simp only [hneg, if_true, Option.some.injEq] at hfail ⊢
    subst hfail
    rw [hback.undone_iff, NhView.same_put_get (v := s.hopView) hinv.map (hinv.pos tnh) hc]
    simp only [Undoable, newHop_iff htnh]
    exact ⟨fun h => h.2.2.1, fun h => ⟨hneg, fun _ => rfl, h, trivial⟩⟩
  | @shared s₂ x hx hvni₂ hswitch₂ haccount₂ =>
    have hzero : ¬ (0 : Int) < 0 := lt_irrefl 0
    rw [hshows.endpoints] at hx haccount₂
    rw [hshows.hopView] at haccount₂
    simp only [hzero, if_false] at hfail ⊢
    exact setupEndpoint_undone hr hinv hc htnh rfl (hlookup ▸ hvni) (hvni₂ ▸ hvni)
      ⟨haccount₂, hswitch₂.trans hshows.switch⟩ (joined_ref hinv hx _ _)
      (by simp [portOf, hx]) hfail
  | @created s₂ hx hvni₂ hswitch₂ haccount₂ =>
    have hzero : ¬ (0 : Int) < 0 := lt_irrefl 0
    rw [hshows.endpoints] at hx haccount₂
    rw [hshows.hopView, hframe.portIdCnt] at haccount₂
    rw [hframe.portIdCnt, hshows.switch] at hswitch₂
    simp only [hzero, if_false, hframe.portIdCnt] at hfail ⊢
    exact setupEndpoint_undone hr hinv hc htnh rfl (hlookup ▸ hvni) (hvni₂ ▸ hvni)
      ⟨haccount₂, hswitch₂⟩ (joined_create hinv hx _ _) (by simp [portOf, hx]) hfail

/-- The roll-back in a state in which the counts are in order. -/
theorem undone_iff_of_inv (hr : Answers r) (hinv : s.account.Inv)
    (hlocal : link.localAddr = some loc) (hloc : loc.isInet = true) (hremote : remote.isInet = true)
    (hassert : s.nextHopIdCnt = 0 → nextHopOf k remote = none) {step : CreateStep}
    (hfail : failedStep r k s link loc remote = some step) :
    EndpointUndone s (createEndpointRemote r k s link remote) ↔
      Undoable k s link loc remote step := by
  unfold createEndpointRemote
  unfold failedStep at hfail
  simp only [hremote, hlocal, hloc, Bool.not_true, Bool.false_eq_true, if_false]
  have hhop := createNextHop_outcome (r := r) s k link remote
  generalize createNextHop r k s link remote = out at hhop hfail ⊢
  cases hhop with
  | @failed rv nhId s₁ hrv hframe haccount =>
    simp only [hrv, if_true, Option.some.injEq] at hfail ⊢
    subst hfail
    have hshows := (Shows.self s).of_frame hframe haccount
    have hnote : Shows { s₁ with netCallbacks :=
        s₁.netCallbacks ++ [{ addr := remote, ifindex := link.ifindex }] } s.account s.switch :=
      ⟨hshows.account, hshows.switch⟩
    refine iff_of_true ?_ trivial
    split
    · exact (hnote.undone_iff _).mpr ⟨hrv, fun _ => rfl, .refl _, rfl⟩
    · exact (hshows.undone_iff _).mpr ⟨hrv, fun _ => rfl, .refl _, rfl⟩
  | @taken rv s₁ tnh htnh hrv hframe haccount =>
    have hunreach : rv ≠ -ENETUNREACH := by
      have : (-ENETUNREACH : Int) < 0 := by decide
      omega
    have hc : s.tunnelNextHopId.find tnh = none → s.nextHopIdCnt ≠ 0 := by
      intro _ hzero
      rw [hassert hzero] at htnh
      cases htnh
    have hshows := (Shows.self s).of_frame hframe haccount
    simp only [hunreach, not_lt.mpr hrv, if_false] at hfail ⊢
    cases hvni : s₁.vni2tunnel.lookup link.vni with
    | none =>
      -- The next hop is not given back.
      simp only [hvni, Option.some.injEq] at hfail ⊢
      subst hfail
      refine iff_of_false (fun hu => ?_) id
      have hhops := hu.nextHops
      simp only [hshows.hopView] at hhops
      exact NhView.not_same_get _ _ hhops
    | some tunnelId =>
      simp only [hvni] at hfail ⊢
      exact joinEndpoint_undone hr hinv hc htnh hframe hshows hvni hfail

/-- **The roll-back of `create_endpoint`.** In every state that is reached: when a step fails, an
error is returned and the references and the switch are as before exactly if the step is undoable.
That is: a next hop that is not obtained always; a missing tunnel never; an endpoint that is not
created if the id of a new next hop was free on the switch; a port that does not get into the tenant
or into the flooding if a new endpoint also has a new next hop, if all ids that are given out were
free, and if the port was not in what it is taken out of; for the flooding also only if there is no
neighbour to install. -/
theorem createEndpoint_undone_iff (hr : Answers r) {es : List Ev}
    (hes : Along (NlVxlan.step r) (NoZeroId r) (some {}) es)
    (hs : run (NlVxlan.step r) (some {}) es = some s) (hlocal : link.localAddr = some loc)
    (hloc : loc.isInet = true) (hremote : remote.isInet = true)
    (hassert : s.nextHopIdCnt = 0 → nextHopOf k remote = none) {step : CreateStep}
    (hfail : failedStep r k s link loc remote = some step) :
    EndpointUndone s (createEndpointRemote r k s link remote) ↔
      Undoable k s link loc remote step := by
  have hinv := accountInv_of_reachable hr hes
  rw [hs] at hinv
  exact undone_iff_of_inv hr hinv hlocal hloc hremote hassert hfail

end Undone

/-- The switch refuses to create endpoints. -/
def noEndpoints : SwResults
  | _, .tunnelEndpointCreate .. => -EINVAL
  | _, _ => 0

theorem noEndpoints_answers : Answers noEndpoints where
  nonpos log c := by
    unfold noEndpoints
    split <;> decide
  deletes log c h := by
    unfold noEndpoints
    split
    · cases h
    · exact le_rfl

/-- The first endpoint of VNI 1 is not created, and the next hop is given back. -/
theorem createEndpoint_undone_iff_refused :
    EndpointUndone (createVni noEndpoints {} (Vxlan.tunnelLink 1)).2
        (createEndpointRemote noEndpoints Vxlan.reachableKernel
          (createVni noEndpoints {} (Vxlan.tunnelLink 1)).2 (Vxlan.tunnelLink 1)
          (.inet 0x0a000002)) ↔
      Undoable Vxlan.reachableKernel (createVni noEndpoints {} (Vxlan.tunnelLink 1)).2
        (Vxlan.tunnelLink 1) (.inet 0x0a000001) (.inet 0x0a000002) .endpoint :=
  createEndpoint_undone_iff noEndpoints_answers
    (show Along (NlVxlan.step noEndpoints) (NoZeroId noEndpoints) (some {})
        [.createVni (Vxlan.tunnelLink 1)] from
      ⟨fun _ _ hs _ hzero => (by cases hs; cases hzero), trivial⟩)
    rfl rfl rfl rfl (fun hzero => absurd hzero (by decide)) (by decide)

/-- The switch refuses to add a port to the flooding. -/
def noFlooding : SwResults
  | _, .addL2OverlayFlood .. => -EINVAL
  | _, _ => 0

/-- A kernel that has learned a neighbour behind every remote. -/
def neighbourKernel : Kernel := { Vxlan.reachableKernel with fdb := fun _ _ => [7] }

/-- The port of the first endpoint of VNI 1 does not get into the flooding. It is deleted, the
neighbour is installed behind it, and there is no error. -/
theorem noFlooding_not_undone :
    failedStep noFlooding neighbourKernel (createVni noFlooding {} (Vxlan.tunnelLink 1)).2
        (Vxlan.tunnelLink 1) (.inet 0x0a000001) (.inet 0x0a000002) = some .flooding ∧
      ¬ EndpointUndone (createVni noFlooding {} (Vxlan.tunnelLink 1)).2
        (createEndpointRemote noFlooding neighbourKernel
          (createVni noFlooding {} (Vxlan.tunnelLink 1)).2 (Vxlan.tunnelLink 1)
          (.inet 0x0a000002)) :=
  ⟨by decide, fun h => absurd h.error (by decide)⟩

end NlVxlan

end Basebox
