import Basebox.Netlink.Vxlan

/-!
# References to VXLAN endpoints over whole runs

Each VNI takes and releases references to the endpoints of its links.

* `Accounted`: every entry counts, for each VNI and in total, the references that are held; and
  where there is no entry, none is held.
* `refOp`: the reference that an event takes or releases.
* `accounted_iff_along`: the states of a run are all accounted for exactly if every release is for
  a VNI that holds a reference (and no VNI holds `2 ^ 32` of them). The handlers do not see to
  that: a link gives back a reference when it is deleted, also one that never took any.
-/

namespace Basebox

/-! ## One reference -/

namespace Endpoints

/-- The counts of every entry are those of the references held; without an entry none is held. So
an entry is never erased, nor its port deleted, while some VNI holds a reference. -/
def Accounted (e : Endpoints) : Prop :=
  (∀ ep x, (ep, x) ∈ e.endpointId →
    (∀ v, x.vniCount v = e.held ep v) ∧ x.refcnt = x.refcntVni.total) ∧
  ∀ ep, e.endpointId.find ep = none → ∀ v, e.held ep v = 0

/-- One entry an endpoint, with counts that fit. -/
structure Inv (e : Endpoints) : Prop where
  nodup : e.endpointId.NodupKeys
  lt : ∀ ep x, e.endpointId.find ep = some x → ∀ v, x.vniCount v < 2 ^ 32

variable {e : Endpoints} {ep : EndpointPort} {x : EndpointTunnelPort} {v : Nat}

/-- The account of one endpoint. -/
def AccountedAt (e : Endpoints) (ep : EndpointPort) : Prop :=
  (∀ x, e.endpointId.find ep = some x →
    (∀ v, x.vniCount v = e.held ep v) ∧ x.refcnt = x.refcntVni.total) ∧
  (e.endpointId.find ep = none → ∀ v, e.held ep v = 0)

theorem accountedAt_of_some (hx : e.endpointId.find ep = some x) :
    AccountedAt e ep ↔ (∀ v, x.vniCount v = e.held ep v) ∧ x.refcnt = x.refcntVni.total := by
  simp [AccountedAt, hx]

theorem accountedAt_of_none (hx : e.endpointId.find ep = none) :
    AccountedAt e ep ↔ ∀ v, e.held ep v = 0 := by
  simp [AccountedAt, hx]

theorem accounted_iff_forall (h : Inv e) : Accounted e ↔ ∀ ep, AccountedAt e ep := by
  constructor
  · intro ha ep
    exact ⟨fun x hx => ha.1 ep x ((MultiMap.mem_iff_find h.nodup).mpr hx), ha.2 ep⟩
  · intro ha
    exact ⟨fun ep x hx => (ha ep).1 x ((MultiMap.mem_iff_find h.nodup).mp hx), fun ep => (ha ep).2⟩

/-- Where only one endpoint changes, only that one has to be looked at. -/
theorem Inv.accounted_iff_at (h : Inv e) (ha : Accounted e) {e' : Endpoints} (h' : Inv e')
    (ep : EndpointPort) (hfind : ∀ q, q ≠ ep → e'.endpointId.find q = e.endpointId.find q)
    (hheld : ∀ q w, q ≠ ep → e'.held q w = e.held q w) : Accounted e' ↔ AccountedAt e' ep := by
  rw [accounted_iff_forall h']
  constructor
  · intro hall
    exact hall ep
  · intro hat q
    by_cases hq : q = ep
    · exact hq ▸ hat
    · have hold := (accounted_iff_forall h).mp ha q
      simpa only [AccountedAt, hfind q hq, hheld q _ hq] using hold

theorem vniCount_insert (t : Table Nat Nat) (v w n : Nat) (r : Int) (l m : Nat) :
    EndpointTunnelPort.vniCount ⟨r, l, m, t.insert v n⟩ w =
      if w = v then n else (t.lookup w).getD 0 := by
  unfold EndpointTunnelPort.vniCount
  grind

theorem find_ref (e : Endpoints) (ep : EndpointPort) (v : Nat) (q : EndpointPort) :
    (e.ref ep v).endpointId.find q =
      if q = ep then (e.endpointId.find ep).map fun x => { x with
        refcnt := x.refcnt + 1, refcntVni := x.refcntVni.insert v (u32 (x.vniCount v + 1)) }
      else e.endpointId.find q := by
  simp only [Endpoints.ref, MultiMap.find_modify]

theorem find_create (hnone : e.endpointId.find ep = none) (v lport nh : Nat) (q : EndpointPort) :
    (e.create ep v lport nh).endpointId.find q =
      if q = ep then some ⟨1, lport, nh, (∅ : Table Nat Nat).insert v 1⟩
      else e.endpointId.find q := by
  by_cases hq : q = ep <;> simp [Endpoints.create, MultiMap.find_emplace, hq, hnone]

theorem Inv.find_unref (h : Inv e) (hx : e.endpointId.find ep = some x) (v : Nat)
    (q : EndpointPort) : (e.unref ep v x).endpointId.find q =
      if q = ep then
        if x.refcnt - 1 = 0 then none else some { x with
          refcnt := x.refcnt - 1, refcntVni := x.refcntVni.insert v (pred32 (x.vniCount v)) }
      else e.endpointId.find q := by
  unfold Endpoints.unref
  by_cases hlast : x.refcnt - 1 = 0
  · simp only [hlast, if_true]
    exact MultiMap.find_erase h.nodup ep q
  · simp only [hlast, if_false, MultiMap.find_modify, hx]
    rfl

theorem Inv.ref (h : Inv e) (ep : EndpointPort) (v : Nat) : Inv (e.ref ep v) where
  nodup := by
    simp only [Endpoints.ref]
    exact h.nodup.modify ep _
  lt q y hy w := by
    simp only [Endpoints.ref, MultiMap.find_modify] at hy
    split at hy
    · obtain ⟨x, hx, rfl⟩ := Option.map_eq_some_iff.mp hy
      rw [vniCount_insert]
      split
      · exact Nat.mod_lt _ (by decide)
      · exact h.lt ep x hx w
    · exact h.lt q y hy w

theorem Inv.create (h : Inv e) (hnone : e.endpointId.find ep = none) (v lport nh : Nat) :
    Inv (e.create ep v lport nh) where
  nodup := h.nodup.emplace hnone _
  lt q y hy w := by
    simp only [Endpoints.create, MultiMap.find_emplace] at hy
    rcases Option.or_eq_some_iff.mp hy with hy | ⟨-, hy⟩
    · exact h.lt q y hy w
    · split at hy
      · cases hy
        rw [vniCount_insert]
        split
        · decide
        · simp
      · cases hy

theorem Inv.unref (h : Inv e) (ep : EndpointPort) (v : Nat) (x : EndpointTunnelPort) :
    Inv (e.unref ep v x) := by
  unfold Endpoints.unref
  split
  · refine ⟨h.nodup.erase ep, fun q y hy w => ?_⟩
    rw [MultiMap.find_erase h.nodup] at hy
    split at hy
    · cases hy
    · exact h.lt q y hy w
  · refine ⟨by simp only; exact h.nodup.modify ep _, fun q y hy w => ?_⟩
    simp only [MultiMap.find_modify] at hy
    split at hy
    · obtain ⟨x, hx, rfl⟩ := Option.map_eq_some_iff.mp hy
      rw [vniCount_insert]
      split
      · exact Nat.mod_lt _ (by decide)
      · exact h.lt ep x hx w
    · exact h.lt q y hy w

/-- Another reference to an entry. -/
theorem Inv.accounted_ref (h : Inv e) (ha : Accounted e) (hx : e.endpointId.find ep = some x)
    (v : Nat) : Accounted (e.ref ep v) ↔ e.held ep v + 1 < 2 ^ 32 := by
  obtain ⟨hcount, htotal⟩ := (accountedAt_of_some hx).mp ((accounted_iff_forall h).mp ha ep)
  have hv := h.lt ep x hx v
  have hheld : ∀ q w, (e.ref ep v).held q w =
      if q = ep ∧ w = v then e.held ep v + 1 else e.held q w := fun _ _ => rfl
  have hfind := find_ref e ep v ep
  rw [if_pos rfl, hx, Option.map_some] at hfind
  rw [h.accounted_iff_at ha (h.ref ep v) ep, accountedAt_of_some hfind]
  · constructor
    · rintro ⟨hc, -⟩
      have hcv := hc v
      rw [vniCount_insert, if_pos rfl, hheld, if_pos ⟨rfl, rfl⟩, hcount v, u32] at hcv
      omega
    · intro hlt
      constructor
      · intro w
        rw [vniCount_insert, hheld]
        by_cases hw : w = v
        · subst hw
          simp only [if_true, and_self, hcount w, u32]
          omega
        · simp only [hw, if_false, and_false]
          exact hcount w
      · have hins := Table.total_insert x.refcntVni v (u32 (x.vniCount v + 1))
        have hvt : (x.refcntVni.lookup v).getD 0 = e.held ep v := hcount v
        simp only [hcount v, u32, hvt] at hins ⊢
        omega
  · intro q hq
    simp only [Endpoints.ref, MultiMap.find_modify, hq, if_false]
  · intro q w hq
    rw [hheld, if_neg (fun hc => hq hc.1)]

theorem Inv.accounted_create (h : Inv e) (ha : Accounted e) (hnone : e.endpointId.find ep = none)
    (v lport nh : Nat) : Accounted (e.create ep v lport nh) := by
  have hzero := ha.2 ep hnone
  have hfind := find_create hnone v lport nh ep
  rw [if_pos rfl] at hfind
  rw [h.accounted_iff_at ha (h.create hnone v lport nh) ep, accountedAt_of_some hfind]
  · constructor
    · intro w
      rw [vniCount_insert]
      by_cases hw : w = v
      · subst hw
        simp [Endpoints.create, bump, hzero]
      · simp [hw, Endpoints.create, bump, hzero]
    · have hins := Table.total_insert (∅ : Table Nat Nat) v 1
      have hempty : Table.total (∅ : Table Nat Nat) = 0 := rfl
      simp only [AList.lookup_empty, Option.getD_none] at hins ⊢
      omega
  · intro q hq
    simp [Endpoints.create, MultiMap.find_emplace, hq]
  · intro q w hq
    simp [Endpoints.create, bump, hq]

theorem held_unref (e : Endpoints) (ep : EndpointPort) (v : Nat) (x : EndpointTunnelPort)
    (q : EndpointPort) (w : Nat) : (e.unref ep v x).held q w =
      if q = ep ∧ w = v then e.held ep v - 1 else e.held q w := rfl

/-- The last reference in total: it is the one of the VNI exactly if the VNI holds one. -/
theorem held_unref_last (hcount : ∀ w, x.vniCount w = e.held ep w)
    (htotal : x.refcntVni.total = 1) (v : Nat) :
    (∀ w, (e.unref ep v x).held ep w = 0) ↔ 0 < e.held ep v := by
  have hle := Table.le_total x.refcntVni v
  have hv : (x.refcntVni.lookup v).getD 0 = e.held ep v := hcount v
  constructor
  · intro hall
    by_contra hzero
    have hnone : ∀ w, (x.refcntVni.lookup w).getD 0 = 0 := by
      intro w
      have hcw : (x.refcntVni.lookup w).getD 0 = e.held ep w := hcount w
      have hw := hall w
      rw [held_unref] at hw
      split at hw
      · next heq =>
        rw [hcw, heq.2]
        omega
      · rw [hcw]
        exact hw
    have := Table.total_eq_zero hnone
    omega
  · intro hpos w
    rw [held_unref]
    by_cases hw : w = v
    · simp only [hw, and_self, if_true]
      omega
    · have hadd := Table.add_le_total x.refcntVni (Ne.symm hw)
      have hcw : (x.refcntVni.lookup w).getD 0 = e.held ep w := hcount w
      simp only [hw, and_false, if_false]
      omega

/-- The counts of an entry that stays, once the VNI has one reference less. -/
theorem counts_unref (h : Inv e) (hx : e.endpointId.find ep = some x)
    (hcount : ∀ w, x.vniCount w = e.held ep w) (htotal : x.refcnt = x.refcntVni.total) (v : Nat) :
    let y : EndpointTunnelPort := { x with
      refcnt := x.refcnt - 1, refcntVni := x.refcntVni.insert v (pred32 (x.vniCount v)) }
    ((∀ w, y.vniCount w = (e.unref ep v x).held ep w) ∧ y.refcnt = y.refcntVni.total) ↔
      0 < e.held ep v := by
  have hlt := h.lt ep x hx v
  have hv : (x.refcntVni.lookup v).getD 0 = e.held ep v := hcount v
  constructor
  · rintro ⟨hc, -⟩
    have hcv := hc v
    rw [vniCount_insert, if_pos rfl, held_unref, hcount v] at hcv
    simp only [and_self, if_true, pred32, u32] at hcv
    omega
  · intro hpos
    constructor
    · intro w
      rw [vniCount_insert, held_unref]
      by_cases hw : w = v
      · subst hw
        simp only [if_true, and_self, hcount w, pred32, u32] at hlt ⊢
        omega
      · simp only [hw, if_false, and_false]
        exact hcount w
    · have hins := Table.total_insert x.refcntVni v (pred32 (x.vniCount v))
      simp only [hcount v, pred32, u32, hv] at hins hlt ⊢
      omega

/-- A reference is released. It has to be one that the VNI holds: otherwise its count wraps around,
or the entry goes while another VNI holds it. -/
theorem Inv.accounted_unref (h : Inv e) (ha : Accounted e) (hx : e.endpointId.find ep = some x)
    (v : Nat) : Accounted (e.unref ep v x) ↔ 0 < e.held ep v := by
  obtain ⟨hcount, htotal⟩ := (accountedAt_of_some hx).mp ((accounted_iff_forall h).mp ha ep)
  have hfind := h.find_unref hx v
  rw [h.accounted_iff_at ha (h.unref ep v x) ep]
  · have hep := hfind ep
    rw [if_pos rfl] at hep
    by_cases hlast : x.refcnt - 1 = 0
    · rw [if_pos hlast] at hep
      rw [accountedAt_of_none hep]
      exact held_unref_last hcount (by omega) v
    · rw [if_neg hlast] at hep
      rw [accountedAt_of_some hep]
      exact counts_unref h hx hcount htotal v
  · intro q hq
    rw [hfind, if_neg hq]
  · intro q w hq
    rw [held_unref, if_neg (fun hc => hq hc.1)]

end Endpoints

/-! ## The events -/

namespace Vxlan

/-- The events that create and delete endpoints. -/
inductive Ev where
  /-- A VXLAN link is created. -/
  | linkCreated (link : VxlanLink)
  /-- It is enslaved to the bridge. -/
  | enslaved (k : Kernel) (link : VxlanLink)
  /-- A registered remote becomes reachable. -/
  | netReachable (k : Kernel) (params : NetParams)
  | addL2Neigh (k : Kernel) (link : VxlanLink) (mac : Mac) (dst : Option Addr) (accessPorts : Nat)
  | deleteL2Neigh (link : VxlanLink) (mac : Mac) (dst : Option Addr)
  | linkDeleted (link : VxlanLink)

/-- The state after an event; `none` is `LOG(FATAL)`. -/
def exec (s : Vxlan) : Ev → Option Vxlan
  | .linkCreated link => some (s.createVni link).2
  | .enslaved k link => some (createEndpoint k s link).2
  | .netReachable k params => some (netReachableNotification k s params)
  | .addL2Neigh k link mac dst accessPorts => some (addL2Neigh k s link mac dst accessPorts).2
  | .deleteL2Neigh link mac dst => (s.deleteL2Neigh link mac dst).map (·.2)
  | .linkDeleted link => some (s.linkDeleted link)

/-- The state after an event, unless the process has aborted. -/
def step : Option Vxlan → Ev → Option Vxlan
  | none, _ => none
  | some s, e => s.exec e

/-- What happens to the references of an endpoint. -/
inductive RefOp where
  | take (ep : EndpointPort) (vni : Nat)
  | release (ep : EndpointPort) (vni : Nat)

/-- `create_endpoint` for a remote takes a reference if it gets as far as the endpoint: the
addresses are supported, the next hop is there and the VNI has a tunnel. -/
def createTakes (k : Kernel) (s : Vxlan) (link : VxlanLink) (remote : Addr) : Option RefOp :=
  match link.localAddr with
  | none => none
  | some loc =>
    if remote.isInet ∧ loc.isInet ∧ 0 ≤ (createNextHop k s link remote).1 ∧
        link.vni ∈ s.vni2tunnel then
      some (.take (link.endpointPort loc remote) link.vni)
    else none

/-- `add_l2_neigh` takes a reference for a further VNI at a remote, and for a MAC at a remote that
is there; for a new remote `create_endpoint` does. -/
def addTakes (k : Kernel) (s : Vxlan) (link : VxlanLink) (mac : Mac) (loc remote : Addr) :
    Option RefOp :=
  if mac = 0 ∧ link.group = some remote then none
  else
    match s.vni2tunnel.lookup link.vni with
    | none => none
    | some tunnelId =>
      let ep := link.endpointPort loc remote
      let lport : Nat := ((s.endpoints.endpointId.find ep).map (·.lportId)).getD 0
      if mac = 0 then
        if lport = 0 then createTakes k s link remote else some (.take ep link.vni)
      else if lport = 0 ∨ tunnelId = 0 then none
      else some (.take ep link.vni)

/-- A deletion releases a reference if the VNI has a tunnel and the endpoint is there. -/
def deleteReleases (s : Vxlan) (link : VxlanLink) (loc remote : Addr) : Option RefOp :=
  let ep := link.endpointPort loc remote
  if link.vni ∈ s.vni2tunnel ∧ (s.endpoints.endpointId.find ep).isSome then
    some (.release ep link.vni)
  else none

/-- What enslaving a link takes. -/
def enslavedTakes (k : Kernel) (s : Vxlan) (link : VxlanLink) : Option RefOp :=
  if link.isVxlan then link.group.bind (createTakes k s link) else none

/-- What the notification about a next hop takes. -/
def notificationTakes (k : Kernel) (s : Vxlan) (params : NetParams) : Option RefOp :=
  (k.vxlanLink params.ifindex).bind fun link =>
    if link.isVxlan then createTakes k s link params.addr else none

/-- What a new neighbour takes. -/
def addNeighTakes (k : Kernel) (s : Vxlan) (link : VxlanLink) (mac : Mac) (dst : Option Addr) :
    Option RefOp :=
  if mac = link.mac then none
  else
    match link.localAddr, dst with
    | some loc, some remote => addTakes k s link mac loc remote
    | _, _ => none

/-- What a deleted neighbour gives back. -/
def deleteNeighReleases (s : Vxlan) (link : VxlanLink) (mac : Mac) (dst : Option Addr) :
    Option RefOp :=
  match link.port, link.localAddr, dst with
  | some _, some loc, some remote =>
    if !loc.isInet then none
    else if mac = 0 then
      if link.group = some remote then none else s.deleteReleases link loc remote
    else if s.vni2tunnel.lookup link.vni = some 0 then none
    else s.deleteReleases link loc remote
  | _, _, _ => none

/-- What a deleted link gives back. -/
def deleteLinkReleases (s : Vxlan) (link : VxlanLink) : Option RefOp :=
  match link.localAddr, link.group with
  | some loc, some remote => s.deleteReleases link loc remote
  | _, _ => none

/-- The reference that an event takes or releases. -/
def refOp (s : Vxlan) : Ev → Option RefOp
  | .linkCreated _ => none
  | .enslaved k link => enslavedTakes k s link
  | .netReachable k params => notificationTakes k s params
  | .addL2Neigh k link mac dst _ => addNeighTakes k s link mac dst
  | .deleteL2Neigh link mac dst => s.deleteNeighReleases link mac dst
  | .linkDeleted link => s.deleteLinkReleases link

/-- The endpoints after such an operation. -/
def RefOp.apply (e : Endpoints) (lport nh : Nat) : Option RefOp → Endpoints
  | none => e
  | some (.take ep v) =>
    match e.endpointId.find ep with
    | some _ => e.ref ep v
    | none => e.create ep v lport nh
  | some (.release ep v) =>
    match e.endpointId.find ep with
    | some x => e.unref ep v x
    | none => e

/-- The events that keep the account: a reference is released by a VNI that holds one, and taken
by one that does not hold `2 ^ 32 - 1` already. -/
def Keeps : Option Vxlan → Ev → Prop
  | none, _ => True
  | some s, e =>
    match s.refOp e with
    | none => True
    | some (.take ep v) => s.endpoints.held ep v + 1 < 2 ^ 32
    | some (.release ep v) => 0 < s.endpoints.held ep v

/-! ## What each handler does to the endpoints -/

section Frame

variable (k : Kernel) (s : Vxlan) (link : VxlanLink)

theorem createNextHopNeigh_frame (ifindex : Int) (mac : Mac) :
    (createNextHopNeigh k s ifindex mac).2.2.endpoints = s.endpoints ∧
      (createNextHopNeigh k s ifindex mac).2.2.vni2tunnel = s.vni2tunnel := by
  unfold createNextHopNeigh
  cases k.linkByIfindex ifindex with
  | none => exact ⟨rfl, rfl⟩
  | some l =>
    simp only
    by_cases hp : l.portId = 0
    · simp only [hp, if_true, and_self]
    · simp only [hp, if_false]
      cases l.addr with
      | none => exact ⟨rfl, rfl⟩
      | some srcMac =>
        simp only
        split <;> exact ⟨rfl, rfl⟩

theorem createNextHop_frame (remote : Addr) :
    (createNextHop k s link remote).2.2.endpoints = s.endpoints ∧
      (createNextHop k s link remote).2.2.vni2tunnel = s.vni2tunnel := by
  unfold createNextHop
  split
  · exact ⟨rfl, rfl⟩
  · split
    · exact ⟨rfl, rfl⟩
    · simp only
      split
      · exact createNextHopNeigh_frame k s _ _
      · exact ⟨rfl, rfl⟩

theorem deleteNextHop_endpoints (nhId : Nat) : (s.deleteNextHop nhId).2.endpoints = s.endpoints := by
  unfold deleteNextHop deleteNextHopTnh
  repeat' split
  all_goals rfl

theorem addL2NeighPort_endpoints (mac : Mac) (lport tunnelId : Nat) :
    (s.addL2NeighPort mac lport tunnelId).2.endpoints = s.endpoints := by
  unfold addL2NeighPort
  split <;> rfl

theorem setupEndpoint_endpoints (remote : Addr) (lport tunnelId : Nat) :
    (setupEndpoint k s link remote lport tunnelId).2.endpoints = s.endpoints := by
  unfold setupEndpoint
  refine (run_frame (f := fun p : Int × Vxlan => p.2.endpoints)
    (fun p mac => addL2NeighPort_endpoints p.2 mac lport tunnelId) _ _).trans ?_
  simp only
  split <;> rfl

theorem releaseEndpoint_endpoints (ep : EndpointPort) (vni tunnelId : Nat) (x : EndpointTunnelPort) :
    (s.releaseEndpoint ep vni tunnelId x).2.endpoints = s.endpoints.unref ep vni x := by
  unfold releaseEndpoint
  generalize s.endpoints.unref ep vni x = e
  by_cases hv : pred32 (x.vniCount vni) = 0 <;> by_cases hr : x.refcnt - 1 = 0 <;>
    simp only [hv, hr, if_true, if_false, deleteNextHop_endpoints, call]

theorem createEndpointPort_endpoints (loc remote : Addr) (nhId : Nat) :
    ∃ lport, (s.createEndpointPort link loc remote nhId).2.endpoints =
      RefOp.apply s.endpoints lport nhId (some (.take (link.endpointPort loc remote) link.vni)) := by
  refine ⟨s.portIdCnt, ?_⟩
  simp only [createEndpointPort, RefOp.apply]
  cases s.endpoints.endpointId.find (link.endpointPort loc remote) <;> rfl

/-- What `create_endpoint` for a remote comes to: no reference is taken, or the endpoint is set up on
the path on which nothing fails. -/
theorem createEndpointRemote_cases (remote : Addr) :
    (createTakes k s link remote = none ∧
      ((createEndpointRemote k s link remote).2 = s ∨
        ∃ callbacks, (createEndpointRemote k s link remote).2 =
          { (createNextHop k s link remote).2.2 with netCallbacks := callbacks })) ∨
    (∃ loc t, createTakes k s link remote = some (.take (link.endpointPort loc remote) link.vni) ∧
      s.vni2tunnel.lookup link.vni = some t ∧
      let taken := createNextHop k s link remote
      let port := taken.2.2.createEndpointPort link loc remote taken.2.1
      (createEndpointRemote k s link remote).2 = (setupEndpoint k port.2 link remote port.1 t).2) := by
  unfold createEndpointRemote createTakes
  cases hr : remote.isInet with
  | false => exact .inl ⟨by cases link.localAddr <;> simp, .inl rfl⟩
  | true =>
    cases link.localAddr with
    | none => exact .inl ⟨rfl, .inl rfl⟩
    | some loc =>
      cases hl : loc.isInet with
      | false => exact .inl ⟨by simp [hl], .inl (by simp [hl])⟩
      | true =>
        obtain ⟨-, hvni⟩ := createNextHop_frame k s link remote
        generalize createNextHop k s link remote = r at hvni ⊢
        obtain ⟨rv, nhId, s₁⟩ := r
        simp only at hvni
        simp only [Bool.not_true, Bool.false_eq_true, if_false, hl, true_and]
        by_cases hnet : rv = -ENETUNREACH
        · have hneg : ¬ (0 ≤ rv ∧ link.vni ∈ s.vni2tunnel) := by
            rw [hnet]; exact fun h => absurd h.1 (by decide)
          exact .inl ⟨if_neg hneg, .inr ⟨_, by rw [if_pos hnet]⟩⟩
        by_cases hrv : rv < 0
        · have hneg : ¬ (0 ≤ rv ∧ link.vni ∈ s.vni2tunnel) := fun h => by omega
          exact .inl ⟨if_neg hneg, .inr ⟨s₁.netCallbacks, by rw [if_neg hnet, if_pos hrv]⟩⟩
        rw [if_neg hnet, if_neg hrv]
        cases hv : s₁.vni2tunnel.lookup link.vni with
        | none =>
          rw [hvni] at hv
          have hneg : ¬ (0 ≤ rv ∧ link.vni ∈ s.vni2tunnel) :=
            fun h => Table.not_mem_iff_lookup.mpr hv h.2
          exact .inl ⟨if_neg hneg, .inr ⟨s₁.netCallbacks, rfl⟩⟩
        | some t =>
          rw [hvni] at hv
          have hpos : 0 ≤ rv ∧ link.vni ∈ s.vni2tunnel :=
            ⟨by omega, Table.mem_iff_lookup.mpr ⟨_, hv⟩⟩
          exact .inr ⟨loc, t, if_pos hpos, hv, rfl⟩

theorem createEndpointRemote_endpoints (remote : Addr) :
    ∃ lport nh, (createEndpointRemote k s link remote).2.endpoints =
      RefOp.apply s.endpoints lport nh (createTakes k s link remote) := by
  obtain ⟨hends, -⟩ := createNextHop_frame k s link remote
  rcases createEndpointRemote_cases k s link remote with
    ⟨hop, hr | ⟨callbacks, hr⟩⟩ | ⟨loc, t, hop, -, hr⟩
  · exact ⟨0, 0, by rw [hop, hr]; rfl⟩
  · exact ⟨0, 0, by rw [hop, hr]; exact hends⟩
  · obtain ⟨lport, hport⟩ := createEndpointPort_endpoints (createNextHop k s link remote).2.2 link
      loc remote (createNextHop k s link remote).2.1
    refine ⟨lport, (createNextHop k s link remote).2.1, ?_⟩
    rw [hop, hr, setupEndpoint_endpoints, hport, hends]

/-- What the deletion of an endpoint comes to: nothing, or a reference is released. -/
theorem deleteEndpointRemote_cases (loc remote : Addr) :
    ((s.deleteEndpointRemote link loc remote).2 = s ∧ s.deleteReleases link loc remote = none) ∨
    (∃ t x, s.vni2tunnel.lookup link.vni = some t ∧
      s.endpoints.endpointId.find (link.endpointPort loc remote) = some x ∧
      s.deleteReleases link loc remote = some (.release (link.endpointPort loc remote) link.vni) ∧
      (s.deleteEndpointRemote link loc remote).2 =
        ((s.call (.delL2OverlayFlood t x.lportId)).releaseEndpoint (link.endpointPort loc remote)
          link.vni t x).2) := by
  unfold deleteEndpointRemote deleteReleases
  cases hv : s.vni2tunnel.lookup link.vni with
  | none =>
    have hmem : link.vni ∉ s.vni2tunnel := Table.not_mem_iff_lookup.mpr hv
    exact .inl ⟨rfl, by simp [hmem]⟩
  | some t =>
    have hmem : link.vni ∈ s.vni2tunnel := Table.mem_iff_lookup.mpr ⟨_, hv⟩
    cases hf : s.endpoints.endpointId.find (link.endpointPort loc remote) with
    | none => exact .inl ⟨by simp [hf], by simp [hf]⟩
    | some x => exact .inr ⟨t, x, rfl, rfl, by simp [hf, hmem], by simp [hf]⟩

theorem deleteEndpointRemote_endpoints (loc remote : Addr) :
    (s.deleteEndpointRemote link loc remote).2.endpoints =
      RefOp.apply s.endpoints 0 0 (s.deleteReleases link loc remote) := by
  rcases deleteEndpointRemote_cases s link loc remote with ⟨hr, hop⟩ | ⟨t, x, -, hx, hop, hr⟩
  · rw [hr, hop]
    rfl
  · rw [hr, hop, releaseEndpoint_endpoints]
    simp only [RefOp.apply, hx, call]

/-- What the deletion of a MAC comes to: nothing but a call, or a reference is released. -/
theorem deleteL2NeighEndpoint_cases (loc remote : Addr) (mac : Mac) :
    (((s.deleteL2NeighEndpoint link loc remote mac).2 = s ∨
        ∃ t, (s.deleteL2NeighEndpoint link loc remote mac).2 =
          s.call (.l2OverlayAddrRemove t 0 mac)) ∧
      (if s.vni2tunnel.lookup link.vni = some 0 then none
        else s.deleteReleases link loc remote) = none) ∨
    (∃ t x, s.vni2tunnel.lookup link.vni = some t ∧
      s.endpoints.endpointId.find (link.endpointPort loc remote) = some x ∧
      (if s.vni2tunnel.lookup link.vni = some 0 then none
        else s.deleteReleases link loc remote) =
        some (.release (link.endpointPort loc remote) link.vni) ∧
      (s.deleteL2NeighEndpoint link loc remote mac).2 =
        ((s.call (.l2OverlayAddrRemove t 0 mac)).releaseEndpoint (link.endpointPort loc remote)
          link.vni t x).2) := by
  unfold deleteL2NeighEndpoint deleteReleases
  cases hv : s.vni2tunnel.lookup link.vni with
  | none =>
    have hmem : link.vni ∉ s.vni2tunnel := Table.not_mem_iff_lookup.mpr hv
    exact .inl ⟨.inl rfl, by simp [hmem]⟩
  | some t =>
    have hmem : link.vni ∈ s.vni2tunnel := Table.mem_iff_lookup.mpr ⟨_, hv⟩
    by_cases ht : t = 0
    · exact .inl ⟨.inl (by simp [ht]), by simp [ht]⟩
    · cases hf : s.endpoints.endpointId.find (link.endpointPort loc remote) with
      | none => exact .inl ⟨.inr ⟨t, by simp [hf, ht, call]⟩, by simp [hf, ht]⟩
      | some x =>
        exact .inr ⟨t, x, rfl, rfl, by simp [hf, ht, hmem], by simp [hf, ht, call]⟩

theorem deleteL2NeighEndpoint_endpoints (loc remote : Addr) (mac : Mac) :
    (s.deleteL2NeighEndpoint link loc remote mac).2.endpoints =
      RefOp.apply s.endpoints 0 0 (if s.vni2tunnel.lookup link.vni = some 0 then none
        else s.deleteReleases link loc remote) := by
  rcases deleteL2NeighEndpoint_cases s link loc remote mac with
    ⟨hr | ⟨t, hr⟩, hop⟩ | ⟨t, x, -, hx, hop, hr⟩
  · rw [hr, hop]
    rfl
  · rw [hr, hop]
    rfl
  · rw [hr, hop, releaseEndpoint_endpoints]
    simp only [RefOp.apply, hx, call]

/-- What `add_l2_neigh` comes to: nothing, the creation of an endpoint, a reference with the port
added to the tenant, or a MAC with a reference. -/
theorem addL2NeighRemote_cases (mac : Mac) (loc remote : Addr) (accessPorts : Nat) :
    (addTakes k s link mac loc remote = none ∧
      (addL2NeighRemote k s link mac loc remote accessPorts).2 = s) ∨
    (mac = 0 ∧ addTakes k s link mac loc remote = createTakes k s link remote ∧
      ∃ n, (addL2NeighRemote k s link mac loc remote accessPorts).2 =
        { (createEndpointRemote k s link remote).2 with portIdCnt := n }) ∨
    (∃ t x, s.vni2tunnel.lookup link.vni = some t ∧
      s.endpoints.endpointId.find (link.endpointPort loc remote) = some x ∧
      addTakes k s link mac loc remote = some (.take (link.endpointPort loc remote) link.vni) ∧
      let e := s.endpoints.ref (link.endpointPort loc remote) link.vni
      ((mac = 0 ∧
          let s₁ := { s.call (.tunnelPortTenantAdd x.lportId t) with endpoints := e }
          ∃ n, (addL2NeighRemote k s link mac loc remote accessPorts).2 =
            { (if k.isPortFlooding link.ifindex then s₁.call (.addL2OverlayFlood t x.lportId)
                else s₁) with portIdCnt := n }) ∨
        (mac ≠ 0 ∧ (addL2NeighRemote k s link mac loc remote accessPorts).2 =
          { s.call (.l2OverlayAddrAdd x.lportId t mac) with endpoints := e }))) := by
  unfold addL2NeighRemote addTakes
  by_cases hg : mac = 0 ∧ link.group = some remote
  · rw [if_pos hg, if_pos hg]
    exact .inl ⟨rfl, rfl⟩
  rw [if_neg hg, if_neg hg]
  cases hv : s.vni2tunnel.lookup link.vni with
  | none => exact .inl ⟨rfl, rfl⟩
  | some t =>
    by_cases h0 : mac = 0
    · simp only [h0, if_true]
      by_cases hl : ((s.endpoints.endpointId.find (link.endpointPort loc remote)).map
          (·.lportId)).getD 0 = 0
      · simp only [hl, if_true]
        exact .inr (.inl ⟨trivial, trivial, _, rfl⟩)
      · -- A port that is not zero is that of an entry.
        obtain ⟨x, hx⟩ : ∃ x, s.endpoints.endpointId.find (link.endpointPort loc remote) = some x :=
          Option.ne_none_iff_exists'.mp fun hn => hl (by rw [hn]; rfl)
        rw [hx] at hl
        simp only [Option.map_some, Option.getD_some] at hl
        simp only [hx, Option.map_some, Option.getD_some, hl, if_false]
        exact .inr (.inr ⟨t, x, rfl, rfl, trivial, .inl ⟨trivial, _, rfl⟩⟩)
    · simp only [h0, if_false]
      cases hx : s.endpoints.endpointId.find (link.endpointPort loc remote) with
      | none => exact .inl ⟨rfl, rfl⟩
      | some x =>
        simp only [Option.map_some, Option.getD_some, addL2NeighPort]
        by_cases hz : x.lportId = 0 ∨ t = 0
        · have hneg : (-EINVAL : Int) < 0 := by decide
          simp only [hz, if_true, hneg]
          exact .inl ⟨trivial, trivial⟩
        · simp only [hz, if_false, Int.lt_irrefl]
          exact .inr (.inr ⟨t, x, rfl, rfl, trivial, .inr ⟨h0, rfl⟩⟩)

theorem addL2NeighRemote_endpoints (mac : Mac) (loc remote : Addr) (accessPorts : Nat) :
    ∃ lport nh, (addL2NeighRemote k s link mac loc remote accessPorts).2.endpoints =
      RefOp.apply s.endpoints lport nh (addTakes k s link mac loc remote) := by
  rcases addL2NeighRemote_cases k s link mac loc remote accessPorts with
    ⟨hop, hr⟩ | ⟨-, hop, n, hr⟩ | ⟨t, x, -, hx, hop, ⟨-, n, hr⟩ | ⟨-, hr⟩⟩
  · exact ⟨0, 0, by rw [hop, hr]; rfl⟩
  · rw [hop, hr]
    exact createEndpointRemote_endpoints k s link remote
  · refine ⟨0, 0, ?_⟩
    rw [hop, hr]
    simp only [RefOp.apply, hx]
    split <;> rfl
  · refine ⟨0, 0, ?_⟩
    rw [hop, hr]
    simp only [RefOp.apply, hx]

theorem createVni_endpoints : (s.createVni link).2.endpoints = s.endpoints := by
  unfold createVni
  cases link.isVxlan with
  | false => rfl
  | true => cases s.vni2tunnel.lookup link.vni <;> rfl

theorem removeVni_endpoints : (s.removeVni link).2.endpoints = s.endpoints := by
  unfold removeVni
  cases s.vni2tunnel.lookup link.vni <;> rfl

theorem createEndpoint_endpoints : ∃ lport nh, (createEndpoint k s link).2.endpoints =
    RefOp.apply s.endpoints lport nh (enslavedTakes k s link) := by
  unfold createEndpoint enslavedTakes
  cases link.isVxlan with
  | false => exact ⟨0, 0, rfl⟩
  | true =>
    cases link.group with
    | none => exact ⟨0, 0, rfl⟩
    | some group =>
      cases hg : group.isInet with
      | false =>
        refine ⟨0, 0, ?_⟩
        cases hl : link.localAddr <;> simp [createTakes, hg, hl, RefOp.apply]
      | true => simpa [hg] using createEndpointRemote_endpoints k s link group

theorem netReachableNotification_endpoints (params : NetParams) :
    ∃ lport nh, (netReachableNotification k s params).endpoints =
      RefOp.apply s.endpoints lport nh (notificationTakes k s params) := by
  unfold netReachableNotification notificationTakes
  cases k.vxlanLink params.ifindex with
  | none => exact ⟨0, 0, rfl⟩
  | some link =>
    cases hl : link.isVxlan with
    | false => exact ⟨0, 0, by simp [hl, RefOp.apply]⟩
    | true => simpa [hl] using createEndpointRemote_endpoints k s link params.addr

theorem addL2Neigh_endpoints (mac : Mac) (dst : Option Addr) (accessPorts : Nat) :
    ∃ lport nh, (addL2Neigh k s link mac dst accessPorts).2.endpoints =
      RefOp.apply s.endpoints lport nh (addNeighTakes k s link mac dst) := by
  unfold addL2Neigh addNeighTakes
  by_cases hm : mac = link.mac
  · simp only [hm, if_true]
    exact ⟨0, 0, rfl⟩
  simp only [hm, if_false]
  cases link.localAddr with
  | none => exact ⟨0, 0, rfl⟩
  | some loc =>
    cases dst with
    | none => exact ⟨0, 0, rfl⟩
    | some remote => exact addL2NeighRemote_endpoints k s link mac loc remote accessPorts

/-- What `delete_l2_neigh` comes to: nothing, the deletion of an endpoint, or that of a MAC. -/
theorem deleteL2Neigh_cases {mac : Mac} {dst : Option Addr} {r : Int × Vxlan}
    (h : s.deleteL2Neigh link mac dst = some r) :
    (r.2 = s ∧ s.deleteNeighReleases link mac dst = none) ∨
    (∃ loc remote, r.2 = (s.deleteEndpointRemote link loc remote).2 ∧
      s.deleteNeighReleases link mac dst = s.deleteReleases link loc remote) ∨
    (∃ loc remote, r.2 = (s.deleteL2NeighEndpoint link loc remote mac).2 ∧
      s.deleteNeighReleases link mac dst =
        if s.vni2tunnel.lookup link.vni = some 0 then none
        else s.deleteReleases link loc remote) := by
  unfold deleteL2Neigh at h
  unfold deleteNeighReleases
  cases hp : link.port with
  | none => rw [hp] at h; cases h
  | some port =>
    rw [hp] at h
    cases hloc : link.localAddr with
    | none => rw [hloc] at h; cases h; exact .inl ⟨rfl, rfl⟩
    | some loc =>
      rw [hloc] at h
      cases dst with
      | none =>
        cases hl : loc.isInet <;> simp only [hl] at h <;> cases h <;> exact .inl ⟨rfl, rfl⟩
      | some remote =>
        simp only at h ⊢
        cases hl : loc.isInet with
        | false => simp only [hl] at h; cases h; exact .inl ⟨rfl, rfl⟩
        | true =>
          simp only [hl, Bool.not_true, Bool.false_eq_true, if_false] at h ⊢
          by_cases h0 : mac = 0
          · simp only [h0, if_true] at h ⊢
            by_cases hg : link.group = some remote
            · simp only [hg, if_true] at h ⊢
              cases h
              exact .inl ⟨rfl, trivial⟩
            · simp only [hg, if_false] at h ⊢
              cases h
              exact .inr (.inl ⟨loc, remote, rfl, rfl⟩)
          · simp only [h0, if_false] at h ⊢
            cases h
            exact .inr (.inr ⟨loc, remote, rfl, rfl⟩)

theorem deleteL2Neigh_endpoints (mac : Mac) (dst : Option Addr) {r : Int × Vxlan}
    (h : s.deleteL2Neigh link mac dst = some r) :
    r.2.endpoints = RefOp.apply s.endpoints 0 0 (s.deleteNeighReleases link mac dst) := by
  rcases deleteL2Neigh_cases s link h with ⟨hr, hop⟩ | ⟨loc, remote, hr, hop⟩ | ⟨loc, remote, hr, hop⟩
  · rw [hr, hop]
    rfl
  · rw [hr, hop]
    exact deleteEndpointRemote_endpoints s link loc remote
  · rw [hr, hop]
    exact deleteL2NeighEndpoint_endpoints s link loc remote mac

theorem linkDeleted_endpoints :
    (s.linkDeleted link).endpoints = RefOp.apply s.endpoints 0 0 (s.deleteLinkReleases link) := by
  rw [linkDeleted, removeVni_endpoints]
  unfold deleteEndpoint deleteLinkReleases
  cases link.localAddr with
  | none => rfl
  | some loc =>
    cases link.group with
    | none => rfl
    | some remote => exact deleteEndpointRemote_endpoints s link loc remote

/-- What an event does to the endpoints. -/
theorem exec_endpoints (e : Ev) {s' : Vxlan} (h : s.exec e = some s') :
    ∃ lport nh, s'.endpoints = RefOp.apply s.endpoints lport nh (s.refOp e) := by
  cases e with
  | linkCreated link => cases h; exact ⟨0, 0, createVni_endpoints s link⟩
  | enslaved k link => cases h; exact createEndpoint_endpoints k s link
  | netReachable k params => cases h; exact netReachableNotification_endpoints k s params
  | addL2Neigh k link mac dst accessPorts =>
    cases h
    exact addL2Neigh_endpoints k s link mac dst accessPorts
  | deleteL2Neigh link mac dst =>
    obtain ⟨r, hr, rfl⟩ := Option.map_eq_some_iff.mp h
    exact ⟨0, 0, deleteL2Neigh_endpoints s link mac dst hr⟩
  | linkDeleted link => cases h; exact ⟨0, 0, linkDeleted_endpoints s link⟩

end Frame

/-! ## Runs -/

section Step

variable {k : Kernel} {s : Vxlan} {link : VxlanLink} {ep : EndpointPort} {v : Nat}

theorem createTakes_ne_release (remote : Addr) : createTakes k s link remote ≠ some (.release ep v) := by
  unfold createTakes
  cases link.localAddr with
  | none => simp
  | some loc => simp only; split <;> simp

theorem addTakes_ne_release (mac : Mac) (loc remote : Addr) :
    addTakes k s link mac loc remote ≠ some (.release ep v) := by
  unfold addTakes
  split
  · simp
  · cases s.vni2tunnel.lookup link.vni with
    | none => simp
    | some tunnelId =>
      simp only
      split
      · split
        · exact createTakes_ne_release remote
        · simp
      · split <;> simp

theorem find_of_deleteReleases {loc remote : Addr}
    (h : s.deleteReleases link loc remote = some (.release ep v)) :
    ∃ x, s.endpoints.endpointId.find ep = some x := by
  unfold deleteReleases at h
  simp only at h
  split at h
  · rename_i hc
    cases h
    exact Option.isSome_iff_exists.mp hc.2
  · cases h

/-- A reference is released of an endpoint that is there. -/
theorem find_of_refOp {e : Ev} (h : s.refOp e = some (.release ep v)) :
    ∃ x, s.endpoints.endpointId.find ep = some x := by
  cases e with
  | linkCreated link => cases h
  | enslaved k link =>
    simp only [refOp, enslavedTakes] at h
    split at h
    · obtain ⟨g, -, hg⟩ := Option.bind_eq_some_iff.mp h
      exact absurd hg (createTakes_ne_release g)
    · cases h
  | netReachable k params =>
    obtain ⟨l, -, hl⟩ := Option.bind_eq_some_iff.mp h
    split at hl
    · exact absurd hl (createTakes_ne_release _)
    · cases hl
  | addL2Neigh k link mac dst accessPorts =>
    simp only [refOp, addNeighTakes] at h
    split at h
    · cases h
    · split at h
      · exact absurd h (addTakes_ne_release _ _ _)
      · cases h
  | deleteL2Neigh link mac dst =>
    simp only [refOp, deleteNeighReleases] at h
    repeat' split at h
    all_goals first | exact find_of_deleteReleases h | cases h
  | linkDeleted link =>
    simp only [refOp, deleteLinkReleases] at h
    split at h
    · exact find_of_deleteReleases h
    · cases h

end Step

/-- A run that has not ended, in a state with distinct endpoints. -/
def Inv : Option Vxlan → Prop
  | none => True
  | some s => s.endpoints.Inv

/-- The references are accounted for, while the process runs. -/
def Accounted : Option Vxlan → Prop
  | none => True
  | some s => s.endpoints.Accounted

theorem step_accounted (o : Option Vxlan) (e : Ev) (h : Inv o) (ha : Accounted o) :
    Inv (step o e) ∧ (Accounted (step o e) ↔ Keeps o e) := by
  cases o with
  | none => exact ⟨trivial, Iff.rfl⟩
  | some s =>
    cases hx : s.exec e with
    | none =>
      -- `LOG(FATAL)` ends the process before a reference is released.
      have hop : s.refOp e = none := by
        cases e with
        | deleteL2Neigh link mac dst =>
          have hport : link.port = none := by
            cases hp : link.port with
            | none => rfl
            | some port =>
              simp only [exec, deleteL2Neigh, hp, Option.map_eq_none_iff] at hx
              repeat' split at hx
              all_goals cases hx
          simp [refOp, deleteNeighReleases, hport]
        | _ => cases hx
      simp [step, hx, Inv, Accounted, Keeps, hop]
    | some s' =>
      obtain ⟨lport, nh, hs'⟩ := exec_endpoints s e hx
      simp only [step, hx, Inv, Accounted, Keeps, hs']
      cases hop : s.refOp e with
      | none => exact ⟨h, iff_of_true ha trivial⟩
      | some op =>
        cases op with
        | take ep v =>
          simp only [RefOp.apply]
          cases hf : s.endpoints.endpointId.find ep with
          | some x => exact ⟨h.ref ep v, h.accounted_ref ha hf v⟩
          | none =>
            refine ⟨h.create hf v lport nh, iff_of_true (h.accounted_create ha hf v lport nh) ?_⟩
            rw [ha.2 ep hf v]
            decide
        | release ep v =>
          obtain ⟨x, hf⟩ := find_of_refOp hop
          simp only [RefOp.apply, hf]
          exact ⟨h.unref ep v x, h.accounted_unref ha hf v⟩

/-- **References to endpoints.** In every state of a run every endpoint counts the references that
the VNIs took and have not released, for each VNI and in total, and none is gone that is still
referenced, exactly if every event of the run keeps the account. -/
theorem accounted_iff_along (es : List Ev) :
    (∀ n, Accounted (run step (some {}) (es.take n))) ↔ Along step Keeps (some {}) es := by
  refine along_iff_of_inv (I := Inv) ?_ ?_ ?_ ?_ es
  · exact ⟨List.nodup_nil, fun _ _ h => by cases h⟩
  · exact ⟨fun _ _ h => (by cases h), fun _ _ _ => rfl⟩
  · exact fun o e h ha => (step_accounted o e h ha).1
  · exact fun o e h ha => (step_accounted o e h ha).2

/-- A kernel in which every remote is reachable through port 1. -/
def reachableKernel : Kernel where
  queryRoute _ := some [{ ifindex := 3, gateway := none, via := none }]
  isSwitchInterface _ := true
  getNeighbour _ _ := some (some 2)
  linkByIfindex _ := some { portId := 1, addr := some 1 }
  vxlanLink _ := none
  ifindex_vxlanLink h := by cases h
  isPortFlooding _ := true
  fdb _ _ := []
  portUntaggedVid := 1

/-- A VXLAN link from 10.0.0.1 to 10.0.0.2. -/
def tunnelLink (vni : Nat) : VxlanLink where
  ifindex := 10 + vni
  vni := vni
  group := some (.inet 0x0a000002)
  localAddr := some (.inet 0x0a000001)
  port := some 4789
  mac := 5

/-- A link of VNI 1 is enslaved; a link of VNI 2 to the same remote is only created, and deleted.
That takes the reference of VNI 1: the endpoint is gone. -/
theorem deleteUnused_not_accounted :
    ¬ Accounted (run step (some {}) [.linkCreated (tunnelLink 1),
      .enslaved reachableKernel (tunnelLink 1), .linkCreated (tunnelLink 2),
      .linkDeleted (tunnelLink 2)]) := by
  intro h
  have hheld := h.2 ⟨0x0a000001, 0x0a000002, 4789⟩ (by decide) 1
  revert hheld
  decide

end Vxlan

end Basebox
