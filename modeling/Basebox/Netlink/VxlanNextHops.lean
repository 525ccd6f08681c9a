import Basebox.Lib.IdMap
import Basebox.Netlink.VxlanRefs
import Mathlib.Data.Finset.Insert
import Mathlib.Data.Multiset.AddSub
import Mathlib.Data.Multiset.Count

/-!
# References to tunnel next hops (`src/netlink/nl_vxlan.cc`)

An endpoint holds one reference to its tunnel next hop. `create_endpoint` takes the reference
before it knows whether there will be a new endpoint; the reference is given back with the
endpoint.

* `NhView`: the maps of the next hops, the next hops of the endpoints, and those on the switch.
  `get`, `use` and `release` are what the handlers do with them.
* `NhView.Balanced`: a next hop counts its endpoints.
* `exec_nhView`: what an event does to the view.
* `balanced_iff_along`: the next hops are balanced in every state of a run exactly if every
  next hop that is taken is for a new endpoint of a VNI with a tunnel.
-/

namespace Basebox

/-- What there is of tunnel next hops. -/
structure NhView where
  hops : MultiMap TunnelNh TunnelNhPort
  back : Table Nat TunnelNh
  cnt : Nat
  /-- The next hop of each endpoint. -/
  used : Multiset Nat
  onSwitch : Finset Nat

namespace NhView

/-- `create_next_hop`: the id of the next hop, with a reference more. -/
def get (v : NhView) (tnh : TunnelNh) : Nat × NhView :=
  match v.hops.find tnh with
  | some x =>
    (x.nhId, { v with hops := v.hops.modify tnh fun x => { x with refcnt := x.refcnt + 1 } })
  | none =>
    (v.cnt, { v with
      hops := v.hops.emplace tnh { refcnt := 1, nhId := v.cnt }
      back := v.back.emplace v.cnt tnh
      cnt := u32 (v.cnt + 1)
      onSwitch := insert v.cnt v.onSwitch })

/-- `delete_next_hop`: a reference less. -/
def put (v : NhView) (nhId : Nat) : NhView :=
  match v.back.lookup nhId with
  | none => v
  | some tnh =>
    match v.hops.find tnh with
    | none => v
    | some x =>
      if x.refcnt - 1 = 0 then
        { v with
          hops := v.hops.erase tnh
          back := v.back.erase x.nhId
          onSwitch := v.onSwitch.erase x.nhId }
      else { v with hops := v.hops.modify tnh fun x => { x with refcnt := x.refcnt - 1 } }

theorem put_used (v : NhView) (used : Multiset Nat) (nhId : Nat) :
    put { v with used := used } nhId = { v.put nhId with used := used } := by
  unfold put
  simp only
  repeat' split
  all_goals rfl

/-- A new endpoint. -/
def use (v : NhView) (nhId : Nat) : NhView := { v with used := nhId ::ₘ v.used }

/-- An endpoint goes. -/
def release (v : NhView) (nhId : Nat) : NhView :=
  { v.put nhId with used := v.used.erase nhId }

/-- Every next hop counts its endpoints, and those on the switch are those of the endpoints. -/
structure Balanced (v : NhView) : Prop where
  counts : ∀ tnh x, v.hops.find tnh = some x → x.refcnt = v.used.count x.nhId
  onSwitch : ∀ id, id ∈ v.onSwitch ↔ id ∈ v.used

/-- The two maps and the switch agree on the next hops. -/
structure Inv (v : NhView) : Prop where
  map : IdMap TunnelNhPort.nhId (2 ^ 32) v.hops v.back v.cnt
  pos : ∀ tnh x, v.hops.find tnh = some x → 0 < x.refcnt
  onSwitch : ∀ id, id ∈ v.onSwitch ↔ ∃ tnh, v.back.lookup id = some tnh
  used : ∀ id ∈ v.used, ∃ tnh, v.back.lookup id = some tnh

section Steps

variable {v : NhView} {tnh : TunnelNh} {x : TunnelNhPort}

/-- It is enough to look at the counts. -/
theorem Inv.balanced_iff (h : Inv v) : Balanced v ↔
    ∀ tnh x, v.hops.find tnh = some x → x.refcnt = v.used.count x.nhId := by
  refine ⟨fun hb => hb.counts, fun hcounts => ⟨hcounts, fun id => ?_⟩⟩
  rw [h.onSwitch]
  constructor
  · rintro ⟨tnh, htnh⟩
    obtain ⟨x, hx, rfl⟩ := Option.map_eq_some_iff.mp ((h.map.back id tnh).mp htnh)
    have hpos := h.pos tnh x hx
    rw [hcounts tnh x hx] at hpos
    exact Multiset.count_pos.mp (by omega)
  · exact h.used id

theorem get_of_some (hx : v.hops.find tnh = some x) : v.get tnh =
    (x.nhId, { v with hops := v.hops.modify tnh fun x => { x with refcnt := x.refcnt + 1 } }) := by
  unfold NhView.get
  rw [hx]

theorem get_of_none (hx : v.hops.find tnh = none) : v.get tnh =
    (v.cnt, { v with
      hops := v.hops.emplace tnh { refcnt := 1, nhId := v.cnt }
      back := v.back.emplace v.cnt tnh
      cnt := u32 (v.cnt + 1)
      onSwitch := insert v.cnt v.onSwitch }) := by
  unfold NhView.get
  rw [hx]

/-- The references to a next hop, also to one that is not there. -/
def refs (v : NhView) (tnh : TunnelNh) : Int := ((v.hops.find tnh).map (·.refcnt)).getD 0

theorem find_get (v : NhView) (tnh t : TunnelNh) : (v.get tnh).2.hops.find t =
    if t = tnh then some { refcnt := v.refs tnh + 1, nhId := (v.get tnh).1 }
    else v.hops.find t := by
  unfold refs
  cases hx : v.hops.find tnh with
  | some x =>
    rw [get_of_some hx, MultiMap.find_modify, hx]
    rfl
  | none =>
    rw [get_of_none hx, MultiMap.find_emplace]
    by_cases ht : t = tnh
    · simp [ht, hx]
    · simp [ht]

theorem used_get (v : NhView) (tnh : TunnelNh) : (v.get tnh).2.used = v.used := by
  cases hx : v.hops.find tnh with
  | some x => rw [get_of_some hx]
  | none => rw [get_of_none hx]

theorem Inv.get (h : Inv v) (hc : v.cnt ≠ 0) (tnh : TunnelNh) : Inv (v.get tnh).2 := by
  cases hx : v.hops.find tnh with
  | some x =>
    rw [get_of_some hx]
    refine ⟨h.map.modify tnh (fun x => { x with refcnt := x.refcnt + 1 }) fun _ => rfl,
      fun t y hy => ?_, h.onSwitch, h.used⟩
    rw [MultiMap.find_modify] at hy
    split at hy
    · obtain ⟨z, hz, rfl⟩ := Option.map_eq_some_iff.mp hy
      have := h.pos tnh z hz
      simp only
      omega
    · exact h.pos t y hy
  | none =>
    have hnew := h.map.lookup_cnt hc
    rw [get_of_none hx]
    refine ⟨h.map.emplace hc hx rfl, fun t y hy => ?_, fun id => ?_, fun id hid => ?_⟩
    · rw [MultiMap.find_emplace] at hy
      rcases Option.or_eq_some_iff.mp hy with hy | ⟨-, hy⟩
      · exact h.pos t y hy
      · split at hy
        · cases hy
          exact Int.one_pos
        · cases hy
    · simp only [Finset.mem_insert, Table.lookup_emplace, h.onSwitch]
      by_cases hid : id = v.cnt
      · simp [hid, hnew]
      · simp [hid]
    · obtain ⟨t, ht⟩ := h.used id hid
      have hne : id ≠ v.cnt := by
        rintro rfl
        rw [hnew] at ht
        cases ht
      exact ⟨t, by rw [Table.lookup_emplace, if_neg hne, ht]⟩

/-- Where the counts are right, the references to a next hop are those of its endpoints, also if
the next hop is new. -/
theorem Balanced.refs_eq (hb : Balanced v) (h : Inv v) (hc : v.cnt ≠ 0) (tnh : TunnelNh) :
    v.refs tnh = v.used.count (v.get tnh).1 := by
  unfold refs
  cases hx : v.hops.find tnh with
  | some x =>
    rw [get_of_some hx]
    exact hb.counts tnh x hx
  | none =>
    have hnot : v.cnt ∉ v.used := by
      intro hmem
      obtain ⟨t, ht⟩ := h.used _ hmem
      rw [h.map.lookup_cnt hc] at ht
      cases ht
    rw [get_of_none hx, Multiset.count_eq_zero_of_notMem hnot]
    rfl

/-- A next hop that is taken for no endpoint. -/
theorem Balanced.not_get (hb : Balanced v) (h : Inv v) (hc : v.cnt ≠ 0) (tnh : TunnelNh) :
    ¬ Balanced (v.get tnh).2 := by
  intro hb'
  have hcount := hb'.counts tnh _ (by rw [find_get, if_pos rfl])
  rw [used_get, hb.refs_eq h hc] at hcount
  simp only at hcount
  omega

/-- A next hop that is taken for a new endpoint. -/
theorem Balanced.use_get (hb : Balanced v) (h : Inv v) (hc : v.cnt ≠ 0) (tnh : TunnelNh) :
    Inv ((v.get tnh).2.use (v.get tnh).1) ∧ Balanced ((v.get tnh).2.use (v.get tnh).1) := by
  have hget := h.get hc tnh
  have hfound : (v.get tnh).2.hops.find tnh =
      some { refcnt := v.refs tnh + 1, nhId := (v.get tnh).1 } := by rw [find_get, if_pos rfl]
  have hinv : Inv ((v.get tnh).2.use (v.get tnh).1) := by
    refine ⟨hget.map, hget.pos, hget.onSwitch, fun id hid => ?_⟩
    rcases Multiset.mem_cons.mp hid with rfl | hid
    · exact ⟨tnh, hget.map.lookup_of_find hfound⟩
    · exact hget.used id hid
  refine ⟨hinv, hinv.balanced_iff.mpr fun t y hy => ?_⟩
  simp only [use, used_get] at hy ⊢
  by_cases ht : t = tnh
  · subst ht
    rw [hfound] at hy
    cases hy
    simp only [hb.refs_eq h hc, Multiset.count_cons_self]
    omega
  · have hne : y.nhId ≠ (v.get tnh).1 := fun hid => ht (hget.map.inj hy hfound hid)
    rw [find_get, if_neg ht] at hy
    rw [Multiset.count_cons_of_ne hne]
    exact hb.counts t y hy

/-- The endpoint that goes is one of those that the next hop counts. -/
theorem Balanced.release (hb : Balanced v) (h : Inv v) {nhId : Nat} (hused : nhId ∈ v.used) :
    Inv (v.release nhId) ∧ Balanced (v.release nhId) := by
  obtain ⟨tnh, htnh⟩ := h.used nhId hused
  obtain ⟨x, hx, rfl⟩ := Option.map_eq_some_iff.mp ((h.map.back nhId tnh).mp htnh)
  have hcount := hb.counts tnh x hx
  have hne : ∀ t y, t ≠ tnh → v.hops.find t = some y → y.nhId ≠ x.nhId :=
    fun t y ht hy hid => ht (h.map.inj hy hx hid)
  by_cases hlast : x.refcnt - 1 = 0
  · have hput : v.put x.nhId = { v with
        hops := v.hops.erase tnh
        back := v.back.erase x.nhId
        onSwitch := v.onSwitch.erase x.nhId } := by
      unfold put
      rw [htnh]
      simp only [hx, hlast, if_true]
    have hgone : x.nhId ∉ v.used.erase x.nhId := by
      rw [← Multiset.count_eq_zero, Multiset.count_erase_self]
      omega
    have hinv : Inv (v.release x.nhId) := by
      unfold NhView.release
      rw [hput]
      refine ⟨h.map.erase hx, fun t y hy => ?_, fun id => ?_, fun id hid => ?_⟩
      · rw [MultiMap.find_erase h.map.nodup] at hy
        split at hy
        · cases hy
        · exact h.pos t y hy
      · simp only [Finset.mem_erase, Table.lookup_erase_ite, h.onSwitch]
        by_cases hid : id = x.nhId <;> simp [hid]
      · have hid' : id ≠ x.nhId := fun he => hgone (he ▸ hid)
        obtain ⟨t, ht⟩ := h.used id (Multiset.mem_of_mem_erase hid)
        exact ⟨t, by rw [Table.lookup_erase_ite, if_neg hid', ht]⟩
    refine ⟨hinv, hinv.balanced_iff.mpr fun t y hy => ?_⟩
    unfold NhView.release at hy ⊢
    rw [hput] at hy
    simp only [MultiMap.find_erase h.map.nodup] at hy
    split at hy
    · cases hy
    · rw [Multiset.count_erase_of_ne (hne t y ‹_› hy)]
      exact hb.counts t y hy
  · have hput : v.put x.nhId = { v with
        hops := v.hops.modify tnh fun x => { x with refcnt := x.refcnt - 1 } } := by
      unfold put
      rw [htnh]
      simp only [hx, hlast, if_false]
    have hpos := h.pos tnh x hx
    have hinv : Inv (v.release x.nhId) := by
      unfold NhView.release
      rw [hput]
      refine ⟨h.map.modify tnh (fun x => { x with refcnt := x.refcnt - 1 }) fun _ => rfl,
        fun t y hy => ?_, h.onSwitch, fun id hid => h.used id (Multiset.mem_of_mem_erase hid)⟩
      rw [MultiMap.find_modify] at hy
      split at hy
      · rw [hx] at hy
        cases hy
        simp only
        omega
      · exact h.pos t y hy
    refine ⟨hinv, hinv.balanced_iff.mpr fun t y hy => ?_⟩
    unfold NhView.release at hy ⊢
    rw [hput] at hy
    simp only [MultiMap.find_modify, hx] at hy
    split at hy
    · cases hy
      simp only [Multiset.count_erase_self]
      omega
    · rw [Multiset.count_erase_of_ne (hne t y ‹_› hy)]
      exact hb.counts t y hy

end Steps

end NhView

/-! ## Which next hop an event takes -/

/-- The neighbour that `create_next_hop(vxlan_link, remote, next_hop_id)` creates a next hop
for. -/
def Kernel.nextHopNeigh (k : Kernel) (remote : Addr) : Option (Int × Mac) :=
  match k.queryRoute remote with
  | none => none
  | some route =>
    match Vxlan.getNexthopsOfRoute k route with
    | [] => none
    | nhs =>
      let nh := Vxlan.pickNextHop nhs 0
      match k.getNeighbour nh.1 (nh.2.getD remote) with
      | some (some mac) => some (nh.1, mac)
      | _ => none

/-- The next hop of a neighbour. -/
def Kernel.tunnelNh (k : Kernel) (ifindex : Int) (dstMac : Mac) : Option TunnelNh :=
  match k.linkByIfindex ifindex with
  | none => none
  | some link =>
    if link.portId = 0 then none
    else link.addr.map fun srcMac =>
      { smac := srcMac, dmac := dstMac, pport := link.portId, vid := k.portUntaggedVid }

namespace Vxlan

/-- The calls of `create_endpoint(vxlan_link, br_link, remote)`. -/
structure CreateCall where
  k : Kernel
  link : VxlanLink
  remote : Addr

/-- The call that an event makes. -/
def creates (s : Vxlan) : Ev → Option CreateCall
  | .enslaved k link =>
    link.group.bind fun group =>
      if link.isVxlan ∧ group.isInet then some ⟨k, link, group⟩ else none
  | .netReachable k params =>
    (k.vxlanLink params.ifindex).bind fun link =>
      if link.isVxlan then some ⟨k, link, params.addr⟩ else none
  | .addL2Neigh k link mac dst _ =>
    match link.localAddr, dst with
    | some loc, some remote =>
      if mac ≠ link.mac ∧ mac = 0 ∧ link.group ≠ some remote ∧ link.vni ∈ s.vni2tunnel ∧
          ((s.endpoints.endpointId.find (link.endpointPort loc remote)).map
            (·.lportId)).getD 0 = 0 then
        some ⟨k, link, remote⟩
      else none
    | _, _ => none
  | _ => none

/-- The endpoint and the neighbour of the next hop of a call. -/
def CreateCall.target (c : CreateCall) : Option (EndpointPort × Int × Mac) :=
  c.link.localAddr.bind fun loc =>
    if c.remote.isInet ∧ loc.isInet then
      (c.k.nextHopNeigh c.remote).map fun neigh => (c.link.endpointPort loc c.remote, neigh)
    else none

/-- What happens to the next hops. -/
inductive NhOp where
  | take (tnh : TunnelNh) (ep : EndpointPort) (vni : Nat)
  | release (nhId : Nat)

/-- What a call does to the next hops. -/
def CreateCall.nhOp (c : CreateCall) : Option NhOp :=
  c.target.bind fun (ep, ifindex, mac) =>
    (c.k.tunnelNh ifindex mac).map fun tnh => .take tnh ep c.link.vni

/-- The next hop that goes with the last reference to an endpoint. -/
def RefOp.nhOp (e : Endpoints) : Option RefOp → Option NhOp
  | some (.release ep _) =>
    (e.endpointId.find ep).bind fun x =>
      if x.refcnt - 1 = 0 then some (.release x.nhId) else none
  | _ => none

/-- What an event does to the next hops. -/
def nhOp (s : Vxlan) (e : Ev) : Option NhOp :=
  match s.creates e with
  | some c => c.nhOp
  | none => RefOp.nhOp s.endpoints (s.refOp e)

/-- The endpoint that a next hop is taken for is a new one, and its VNI has a tunnel. -/
def ForNewEndpoint (s : Vxlan) (ep : EndpointPort) (vni : Nat) : Prop :=
  vni ∈ s.vni2tunnel ∧ s.endpoints.endpointId.find ep = none

instance (s : Vxlan) (ep : EndpointPort) (vni : Nat) : Decidable (s.ForNewEndpoint ep vni) :=
  inferInstanceAs (Decidable (_ ∧ _ = none))

/-- The next hops after such an operation. -/
def NhOp.apply (s : Vxlan) (v : NhView) : Option NhOp → NhView
  | none => v
  | some (.take tnh ep vni) =>
    if s.ForNewEndpoint ep vni then (v.get tnh).2.use (v.get tnh).1 else (v.get tnh).2
  | some (.release nhId) => v.release nhId

/-! ## The view of a state -/

/-- The next hops of the switch after a call. -/
def nextHopsAfter (ids : Finset Nat) : SwCall → Finset Nat
  | .tunnelNextHopCreate nhId _ => insert nhId ids
  | .tunnelNextHopDelete nhId => ids.erase nhId
  | _ => ids

/-- The next hop of each endpoint. -/
def nhIds (t : MultiMap EndpointPort EndpointTunnelPort) : Multiset Nat :=
  (t.map fun e => e.2.nhId : List Nat)

/-- The part of the state that is about next hops. -/
def nhView (s : Vxlan) : NhView where
  hops := s.tunnelNextHopId
  back := s.tunnelNextHop2tnh
  cnt := s.nextHopIdCnt
  used := nhIds s.endpoints.endpointId
  onSwitch := s.calls.foldl nextHopsAfter ∅

section View

variable (k : Kernel) (s : Vxlan) (link : VxlanLink)

/-- A call that is not about next hops. -/
theorem nhView_call {c : SwCall} (h : ∀ ids, nextHopsAfter ids c = ids) :
    (s.call c).nhView = s.nhView := by
  unfold call nhView
  simp only [List.foldl_append, List.foldl_cons, List.foldl_nil, h]

/-- `create_next_hop(neigh, next_hop_id)`. -/
theorem createNextHopNeigh_nhView (ifindex : Int) (mac : Mac) :
    match k.tunnelNh ifindex mac with
    | none => (createNextHopNeigh k s ifindex mac).1 < 0 ∧
        (createNextHopNeigh k s ifindex mac).2.2 = s
    | some tnh => (createNextHopNeigh k s ifindex mac).1 = 0 ∧
        (createNextHopNeigh k s ifindex mac).2.1 = (s.nhView.get tnh).1 ∧
        (createNextHopNeigh k s ifindex mac).2.2.nhView = (s.nhView.get tnh).2 := by
  have hneg : (-EINVAL : Int) < 0 := by decide
  unfold createNextHopNeigh Kernel.tunnelNh
  cases k.linkByIfindex ifindex with
  | none => exact ⟨hneg, rfl⟩
  | some l =>
    by_cases hp : l.portId = 0
    · simp only [hp, if_true]
      exact ⟨hneg, trivial⟩
    · simp only [hp, if_false]
      cases l.addr with
      | none => exact ⟨hneg, rfl⟩
      | some srcMac =>
        simp only [Option.map_some]
        generalize (⟨srcMac, mac, l.portId, k.portUntaggedVid⟩ : TunnelNh) = tnh
        cases hx : s.tunnelNextHopId.find tnh with
        | some x =>
          rw [NhView.get_of_some (v := s.nhView) hx]
          exact ⟨rfl, rfl, rfl⟩
        | none =>
          rw [NhView.get_of_none (v := s.nhView) hx]
          refine ⟨rfl, rfl, ?_⟩
          simp only [nhView, call, List.foldl_append, List.foldl_cons, List.foldl_nil,
            nextHopsAfter]

/-- `create_next_hop(vxlan_link, remote, next_hop_id)`. -/
theorem createNextHop_nhView (remote : Addr) :
    match (k.nextHopNeigh remote).bind fun neigh => k.tunnelNh neigh.1 neigh.2 with
    | none => (createNextHop k s link remote).1 < 0 ∧
        (createNextHop k s link remote).2.2.nhView = s.nhView
    | some tnh => (createNextHop k s link remote).1 = 0 ∧
        (createNextHop k s link remote).2.1 = (s.nhView.get tnh).1 ∧
        (createNextHop k s link remote).2.2.nhView = (s.nhView.get tnh).2 := by
  have hneg : (-EINVAL : Int) < 0 := by decide
  have hnet : (-ENETUNREACH : Int) < 0 := by decide
  have hdest : (-EDESTADDRREQ : Int) < 0 := by decide
  unfold createNextHop Kernel.nextHopNeigh
  cases k.queryRoute remote with
  | none => exact ⟨hneg, rfl⟩
  | some route =>
    simp only
    cases getNexthopsOfRoute k route with
    | nil => exact ⟨hnet, rfl⟩
    | cons nh nhs =>
      simp only
      generalize pickNextHop (nh :: nhs) 0 = picked
      cases k.getNeighbour picked.1 (picked.2.getD remote) with
      | none => exact ⟨hdest, rfl⟩
      | some m =>
        cases m with
        | none => exact ⟨hdest, rfl⟩
        | some mac =>
          have h := createNextHopNeigh_nhView k s picked.1 mac
          simp only [Option.bind_some]
          cases hn : k.tunnelNh picked.1 mac with
          | none =>
            rw [hn] at h
            refine ⟨?_, by rw [h.2]⟩
            rw [if_pos h.1]
            exact hneg
          | some tnh =>
            rw [hn] at h
            refine ⟨?_, h.2⟩
            rw [h.1]
            rfl

theorem addL2NeighPort_nhView (mac : Mac) (lport tunnelId : Nat) :
    (s.addL2NeighPort mac lport tunnelId).2.nhView = s.nhView := by
  unfold addL2NeighPort
  split
  · rfl
  · exact nhView_call s fun _ => rfl

theorem setupEndpoint_nhView (remote : Addr) (lport tunnelId : Nat) :
    (setupEndpoint k s link remote lport tunnelId).2.nhView = s.nhView := by
  unfold setupEndpoint
  refine (run_frame (f := fun p : Int × Vxlan => p.2.nhView)
    (fun p mac => addL2NeighPort_nhView p.2 mac lport tunnelId) _ _).trans ?_
  have hadd : (s.call (.tunnelPortTenantAdd lport tunnelId)).nhView = s.nhView :=
    nhView_call s fun _ => rfl
  simp only
  split
  · exact (nhView_call _ fun _ => rfl).trans hadd
  · exact hadd

/-- References do not change the next hop of an endpoint. -/
theorem nhIds_modify (t : MultiMap EndpointPort EndpointTunnelPort) (ep : EndpointPort)
    (f : EndpointTunnelPort → EndpointTunnelPort) (hf : ∀ x, (f x).nhId = x.nhId) :
    nhIds (t.modify ep f) = nhIds t := by
  have hmap : List.map (fun e => e.2.nhId) (t.modify ep f) = List.map (fun e => e.2.nhId) t :=
    map_modifyFirst fun x _ _ => hf x.2
  unfold nhIds
  rw [hmap]

theorem nhIds_emplace (t : MultiMap EndpointPort EndpointTunnelPort) (ep : EndpointPort)
    (x : EndpointTunnelPort) : nhIds (t.emplace ep x) = x.nhId ::ₘ nhIds t := by
  have hmap : List.map (fun e => e.2.nhId) (t.emplace ep x) =
      List.map (fun e => e.2.nhId) t ++ [x.nhId] := List.map_append
  unfold nhIds
  rw [hmap, Multiset.cons_coe, Multiset.coe_eq_coe]
  exact List.perm_append_singleton _ _

theorem nhIds_erase {t : MultiMap EndpointPort EndpointTunnelPort} {ep : EndpointPort}
    {x : EndpointTunnelPort} (hx : t.find ep = some x) :
    nhIds (t.erase ep) = (nhIds t).erase x.nhId := by
  have hperm : nhIds t = x.nhId ::ₘ nhIds (t.erase ep) :=
    Multiset.coe_eq_coe.mpr ((MultiMap.perm_erase hx).map fun e => e.2.nhId)
  rw [hperm, Multiset.erase_cons_head]

theorem createEndpointPort_nhView (loc remote : Addr) (nhId : Nat) :
    (s.createEndpointPort link loc remote nhId).2.nhView =
      if s.endpoints.endpointId.find (link.endpointPort loc remote) = none then s.nhView.use nhId
      else s.nhView := by
  unfold createEndpointPort
  simp only
  generalize link.endpointPort loc remote = ep
  cases hx : s.endpoints.endpointId.find ep with
  | some x =>
    have hids := nhIds_modify s.endpoints.endpointId ep (fun x => { x with
      refcnt := x.refcnt + 1
      refcntVni := x.refcntVni.insert link.vni (u32 (x.vniCount link.vni + 1)) }) fun _ => rfl
    simp only [reduceCtorEq, if_false, nhView, Endpoints.ref, hids]
  | none =>
    simp only [if_true, nhView, Endpoints.create, call, nhIds_emplace, NhView.use,
      List.foldl_append, List.foldl_cons, List.foldl_nil, nextHopsAfter]

theorem deleteNextHop_nhView (nhId : Nat) :
    (s.deleteNextHop nhId).2.nhView = s.nhView.put nhId := by
  unfold deleteNextHop deleteNextHopTnh NhView.put
  change _ = match s.tunnelNextHop2tnh.lookup nhId with | none => _ | some tnh => _
  cases s.tunnelNextHop2tnh.lookup nhId with
  | none => rfl
  | some tnh =>
    change _ = match s.tunnelNextHopId.find tnh with | none => _ | some x => _
    simp only
    cases s.tunnelNextHopId.find tnh with
    | none => rfl
    | some x =>
      simp only
      split
      · simp only [nhView, call, List.foldl_append, List.foldl_cons, List.foldl_nil, nextHopsAfter]
      · rfl

/-- The view of the endpoints that stay. -/
theorem nhIds_unref {e : Endpoints} {ep : EndpointPort} {x : EndpointTunnelPort}
    (hx : e.endpointId.find ep = some x) (vni : Nat) :
    nhIds (e.unref ep vni x).endpointId =
      if x.refcnt - 1 = 0 then (nhIds e.endpointId).erase x.nhId else nhIds e.endpointId := by
  unfold Endpoints.unref
  by_cases hlast : x.refcnt - 1 = 0
  · simp only [hlast, if_true]
    exact nhIds_erase hx
  · simp only [hlast, if_false]
    exact nhIds_modify _ ep _ fun _ => rfl

/-- The endpoint goes with its last reference. -/
theorem releaseEndpoint_nhView {ep : EndpointPort} {x : EndpointTunnelPort}
    (hx : s.endpoints.endpointId.find ep = some x) (vni tunnelId : Nat) :
    (s.releaseEndpoint ep vni tunnelId x).2.nhView =
      if x.refcnt - 1 = 0 then s.nhView.release x.nhId else s.nhView := by
  have hids := nhIds_unref hx vni
  have hview : ∀ e : Endpoints, nhView { s with endpoints := e } =
      { s.nhView with used := nhIds e.endpointId } := fun _ => rfl
  unfold releaseEndpoint
  generalize s.endpoints.unref ep vni x = e at hids ⊢
  have hcalls : ∀ s' : Vxlan, (if pred32 (x.vniCount vni) = 0 then
      s'.call (.tunnelPortTenantRemove x.lportId tunnelId) else s').nhView = s'.nhView := by
    intro s'
    split
    · exact nhView_call s' fun _ => rfl
    · rfl
  by_cases hlast : x.refcnt - 1 = 0
  · simp only [hlast, if_true] at hids ⊢
    rw [deleteNextHop_nhView, nhView_call _ fun _ => rfl, hcalls, hview, NhView.put_used, hids]
    rfl
  · simp only [hlast, if_false] at hids ⊢
    rw [hcalls, hview, hids]
    rfl

/-- The operation of a call with supported addresses. -/
theorem nhOp_of_inet {remote loc : Addr} (hl : link.localAddr = some loc)
    (hr : remote.isInet = true) (hloc : loc.isInet = true) :
    CreateCall.nhOp ⟨k, link, remote⟩ =
      ((k.nextHopNeigh remote).bind fun neigh => k.tunnelNh neigh.1 neigh.2).map fun tnh =>
        .take tnh (link.endpointPort loc remote) link.vni := by
  unfold CreateCall.nhOp CreateCall.target
  simp only [hl, Option.bind_some, hr, hloc, and_self, if_true]
  cases k.nextHopNeigh remote <;> rfl

/-- The operation of a call with other addresses. -/
theorem nhOp_of_not_inet {remote : Addr}
    (h : ∀ loc, link.localAddr = some loc → ¬ (remote.isInet = true ∧ loc.isInet = true)) :
    CreateCall.nhOp ⟨k, link, remote⟩ = none := by
  unfold CreateCall.nhOp CreateCall.target
  cases hl : link.localAddr with
  | none => rfl
  | some loc => simp [h loc hl]

theorem createEndpointRemote_nhView (remote : Addr) :
    (createEndpointRemote k s link remote).2.nhView =
      NhOp.apply s s.nhView (CreateCall.nhOp ⟨k, link, remote⟩) := by
  unfold createEndpointRemote
  by_cases hr : remote.isInet = true
  swap
  · rw [nhOp_of_not_inet k link fun loc _ h => hr h.1]
    simp [hr, NhOp.apply]
  cases hl : link.localAddr with
  | none =>
    rw [nhOp_of_not_inet k link (by simp [hl])]
    simp [hr, NhOp.apply]
  | some loc =>
    by_cases hloc : loc.isInet = true
    swap
    · rw [nhOp_of_not_inet k link (by simp [hl, hloc])]
      simp [hr, hloc, NhOp.apply]
    rw [nhOp_of_inet k link hl hr hloc]
    have h := createNextHop_nhView k s link remote
    have hf := createNextHop_frame k s link remote
    simp only [hr, hloc, Bool.not_true, Bool.false_eq_true, if_false]
    generalize createNextHop k s link remote = taken at h hf ⊢
    obtain ⟨rv, nhId, s₁⟩ := taken
    simp only at h hf ⊢
    generalize (k.nextHopNeigh remote).bind (fun neigh => k.tunnelNh neigh.1 neigh.2) = found at h ⊢
    cases found with
    | none =>
      obtain ⟨hneg, hview⟩ := h
      simp only [Option.map_none, NhOp.apply]
      split
      · exact hview
      · exact hview
    | some tnh =>
      obtain ⟨hzero, hid, hview⟩ := h
      subst hzero hid
      simp only [Option.map_some, NhOp.apply, ForNewEndpoint]
      rw [if_neg (by decide), if_neg (by decide)]
      cases hv : s₁.vni2tunnel.lookup link.vni with
      | none =>
        -- The reference is taken, and there is no endpoint.
        have hnot : link.vni ∉ s.vni2tunnel := by
          rw [← hf.2]
          exact Table.not_mem_iff_lookup.mpr hv
        simp only [hnot, false_and, if_false]
        exact hview
      | some tunnelId =>
        have hmem : link.vni ∈ s.vni2tunnel := by
          rw [← hf.2]
          exact Table.mem_iff_lookup.mpr ⟨_, hv⟩
        simp only [hmem, true_and, setupEndpoint_nhView, createEndpointPort_nhView, hf.1, hview]

/-- Only a release can be the last one. -/
theorem RefOp.nhOp_of_ne (e : Endpoints) {o : Option RefOp}
    (h : ∀ ep v, o ≠ some (.release ep v)) : RefOp.nhOp e o = none := by
  cases o with
  | none => rfl
  | some op =>
    cases op with
    | take ep v => rfl
    | release ep v => exact absurd rfl (h ep v)

/-- The release of a reference. -/
theorem releaseEndpoint_apply {ep : EndpointPort} {x : EndpointTunnelPort}
    (hx : s.endpoints.endpointId.find ep = some x) (vni tunnelId : Nat) :
    (s.releaseEndpoint ep vni tunnelId x).2.nhView =
      NhOp.apply s s.nhView (RefOp.nhOp s.endpoints (some (.release ep vni))) := by
  rw [releaseEndpoint_nhView s hx]
  simp only [RefOp.nhOp, hx, Option.bind_some]
  split <;> rfl

theorem deleteEndpointRemote_nhView (loc remote : Addr) :
    (s.deleteEndpointRemote link loc remote).2.nhView =
      NhOp.apply s s.nhView (RefOp.nhOp s.endpoints (s.deleteReleases link loc remote)) := by
  rcases deleteEndpointRemote_cases s link loc remote with ⟨hr, hop⟩ | ⟨t, x, -, hx, hop, hr⟩
  · rw [hr, hop]
    rfl
  · have hcall := nhView_call s (c := .delL2OverlayFlood t x.lportId) fun _ => rfl
    have hrelease := @releaseEndpoint_apply (s.call (.delL2OverlayFlood t x.lportId))
      (link.endpointPort loc remote) x hx link.vni t
    rw [hcall] at hrelease
    rw [hr, hop]
    exact hrelease

theorem deleteL2NeighEndpoint_nhView (loc remote : Addr) (mac : Mac) :
    (s.deleteL2NeighEndpoint link loc remote mac).2.nhView =
      NhOp.apply s s.nhView (RefOp.nhOp s.endpoints
        (if s.vni2tunnel.lookup link.vni = some 0 then none
          else s.deleteReleases link loc remote)) := by
  rcases deleteL2NeighEndpoint_cases s link loc remote mac with
    ⟨hr | ⟨t, hr⟩, hop⟩ | ⟨t, x, -, hx, hop, hr⟩
  · rw [hr, hop]
    rfl
  · rw [hr, hop]
    exact nhView_call s fun _ => rfl
  · have hcall := nhView_call s (c := .l2OverlayAddrRemove t 0 mac) fun _ => rfl
    have hrelease := @releaseEndpoint_apply (s.call (.l2OverlayAddrRemove t 0 mac))
      (link.endpointPort loc remote) x hx link.vni t
    rw [hcall] at hrelease
    rw [hr, hop]
    exact hrelease

theorem createTakes_nhOp (remote : Addr) :
    RefOp.nhOp s.endpoints (createTakes k s link remote) = none :=
  RefOp.nhOp_of_ne _ fun _ _ => createTakes_ne_release remote

theorem createEndpoint_nhView :
    (createEndpoint k s link).2.nhView = NhOp.apply s s.nhView (s.nhOp (.enslaved k link)) := by
  unfold createEndpoint nhOp creates
  simp only [refOp, enslavedTakes]
  by_cases hx : link.isVxlan = true
  swap
  · cases link.group <;> simp [hx, RefOp.nhOp, NhOp.apply]
  cases link.group with
  | none => simp [hx, RefOp.nhOp, NhOp.apply]
  | some group =>
    by_cases hg : group.isInet = true
    · simpa [hx, hg] using createEndpointRemote_nhView k s link group
    · simp [hx, hg, createTakes_nhOp, NhOp.apply]

theorem netReachableNotification_nhView (params : NetParams) :
    (netReachableNotification k s params).nhView =
      NhOp.apply s s.nhView (s.nhOp (.netReachable k params)) := by
  unfold netReachableNotification nhOp creates
  simp only [refOp, notificationTakes]
  cases k.vxlanLink params.ifindex with
  | none => rfl
  | some link =>
    by_cases hx : link.isVxlan = true
    · simpa [hx] using createEndpointRemote_nhView k s link params.addr
    · simp [hx, RefOp.nhOp, NhOp.apply]

theorem addL2NeighRemote_nhView (mac : Mac) (loc remote : Addr) (accessPorts : Nat) :
    (addL2NeighRemote k s link mac loc remote accessPorts).2.nhView =
      if mac = 0 ∧ link.group ≠ some remote ∧ link.vni ∈ s.vni2tunnel ∧
          ((s.endpoints.endpointId.find (link.endpointPort loc remote)).map
            (·.lportId)).getD 0 = 0 then
        NhOp.apply s s.nhView (CreateCall.nhOp ⟨k, link, remote⟩)
      else s.nhView := by
  have href : ∀ s' : Vxlan, nhView { s' with
      endpoints := s'.endpoints.ref (link.endpointPort loc remote) link.vni } = s'.nhView := by
    intro s'
    have hids := nhIds_modify s'.endpoints.endpointId (link.endpointPort loc remote)
      (fun x => { x with
        refcnt := x.refcnt + 1
        refcntVni := x.refcntVni.insert link.vni (u32 (x.vniCount link.vni + 1)) }) fun _ => rfl
    simp only [nhView, Endpoints.ref, hids]
  unfold addL2NeighRemote
  by_cases hg : mac = 0 ∧ link.group = some remote
  · rw [if_pos hg, if_neg fun h => h.2.1 hg.2]
  rw [if_neg hg]
  cases hv : s.vni2tunnel.lookup link.vni with
  | none =>
    have hmem : link.vni ∉ s.vni2tunnel := Table.not_mem_iff_lookup.mpr hv
    rw [if_neg fun h => hmem h.2.2.1]
  | some tunnelId =>
    have hmem : link.vni ∈ s.vni2tunnel := Table.mem_iff_lookup.mpr ⟨_, hv⟩
    generalize hlport : ((s.endpoints.endpointId.find (link.endpointPort loc remote)).map
      (·.lportId)).getD 0 = lport
    simp only [hlport]
    by_cases h0 : mac = 0
    · have hgroup : link.group ≠ some remote := fun h => hg ⟨h0, h⟩
      simp only [h0, if_true, hgroup, ne_eq, not_false_iff, hmem, true_and]
      by_cases hl : lport = 0
      · simp only [hl, if_true]
        exact createEndpointRemote_nhView k s link remote
      · simp only [hl, if_false]
        have hadd : (s.call (.tunnelPortTenantAdd lport tunnelId)).nhView = s.nhView :=
          nhView_call s fun _ => rfl
        have hports : ∀ (s' : Vxlan) (n : Nat), nhView { s' with portIdCnt := n } = s'.nhView :=
          fun _ _ => rfl
        rw [hports]
        split
        · exact (nhView_call _ fun _ => rfl).trans ((href _).trans hadd)
        · exact (href _).trans hadd
    · simp only [h0, if_false, false_and]
      cases s.endpoints.endpointId.find (link.endpointPort loc remote) with
      | none => rfl
      | some x =>
        have hadd := addL2NeighPort_nhView s mac lport tunnelId
        simp only
        split
        · exact hadd
        · exact (href _).trans hadd

theorem addL2Neigh_nhView (mac : Mac) (dst : Option Addr) (accessPorts : Nat) :
    (addL2Neigh k s link mac dst accessPorts).2.nhView =
      NhOp.apply s s.nhView (s.nhOp (.addL2Neigh k link mac dst accessPorts)) := by
  have hrefs : RefOp.nhOp s.endpoints (addNeighTakes k s link mac dst) = none := by
    refine RefOp.nhOp_of_ne _ fun ep v => ?_
    unfold addNeighTakes
    split
    · simp
    · split
      · exact addTakes_ne_release _ _ _
      · simp
  unfold addL2Neigh nhOp creates
  simp only [refOp, hrefs]
  by_cases hm : mac = link.mac
  · cases link.localAddr <;> cases dst <;> simp [hm, NhOp.apply]
  · cases link.localAddr with
    | none => simp [hm, NhOp.apply]
    | some loc =>
      cases dst with
      | none => simp [hm, NhOp.apply]
      | some remote =>
        simp only [hm, if_false, ne_eq, not_false_iff, true_and]
        rw [addL2NeighRemote_nhView]
        simp only [ne_eq]
        split <;> rfl

theorem deleteL2Neigh_nhView (mac : Mac) (dst : Option Addr) {r : Int × Vxlan}
    (h : s.deleteL2Neigh link mac dst = some r) :
    r.2.nhView = NhOp.apply s s.nhView
      (RefOp.nhOp s.endpoints (s.deleteNeighReleases link mac dst)) := by
  rcases deleteL2Neigh_cases s link h with ⟨hr, hop⟩ | ⟨loc, remote, hr, hop⟩ | ⟨loc, remote, hr, hop⟩
  · rw [hr, hop]
    rfl
  · rw [hr, hop]
    exact deleteEndpointRemote_nhView s link loc remote
  · rw [hr, hop]
    exact deleteL2NeighEndpoint_nhView s link loc remote mac

theorem createVni_nhView : (s.createVni link).2.nhView = s.nhView := by
  unfold createVni
  cases link.isVxlan with
  | false => rfl
  | true =>
    cases s.vni2tunnel.lookup link.vni with
    | some tunnelId => rfl
    | none =>
      exact (nhView_call (s.call (.tunnelTenantCreate s.tunnelIdCnt link.vni))
        (c := .overlayTunnelAdd s.tunnelIdCnt) fun _ => rfl).trans (nhView_call s fun _ => rfl)

theorem removeVni_nhView : (s.removeVni link).2.nhView = s.nhView := by
  unfold removeVni
  cases s.vni2tunnel.lookup link.vni with
  | none => rfl
  | some tunnelId =>
    exact (nhView_call (s.call (.overlayTunnelRemove tunnelId))
      (c := .tunnelTenantDelete tunnelId) fun _ => rfl).trans (nhView_call s fun _ => rfl)

theorem linkDeleted_nhView : (s.linkDeleted link).nhView =
    NhOp.apply s s.nhView (RefOp.nhOp s.endpoints (s.deleteLinkReleases link)) := by
  rw [linkDeleted, removeVni_nhView]
  unfold deleteEndpoint deleteLinkReleases
  cases link.localAddr with
  | none => rfl
  | some loc =>
    cases link.group with
    | none => rfl
    | some remote => exact deleteEndpointRemote_nhView s link loc remote

/-- What an event does to the next hops. -/
theorem exec_nhView (e : Ev) {s' : Vxlan} (h : s.exec e = some s') :
    s'.nhView = NhOp.apply s s.nhView (s.nhOp e) := by
  cases e with
  | linkCreated link => cases h; exact createVni_nhView s link
  | enslaved k link => cases h; exact createEndpoint_nhView k s link
  | netReachable k params => cases h; exact netReachableNotification_nhView k s params
  | addL2Neigh k link mac dst accessPorts =>
    cases h
    exact addL2Neigh_nhView k s link mac dst accessPorts
  | deleteL2Neigh link mac dst =>
    obtain ⟨r, hr, rfl⟩ := Option.map_eq_some_iff.mp h
    exact deleteL2Neigh_nhView s link mac dst hr
  | linkDeleted link => cases h; exact linkDeleted_nhView s link

end View

/-! ## Runs -/

/-- The events, and `create_vni` of a link when the switch refuses the tenant or the tunnel. -/
inductive NhEv where
  | handled (e : Ev)
  | createVniFails (link : VxlanLink) (tenantCreated : Bool)

/-- `create_vni` when the switch fails: a tenant that was created is deleted again. -/
def createVniFails (s : Vxlan) (link : VxlanLink) (tenantCreated : Bool) : Vxlan :=
  if !link.isVxlan then s
  else
    match s.vni2tunnel.lookup link.vni with
    | some _ => s
    | none =>
      if tenantCreated then
        (s.call (.tunnelTenantCreate s.tunnelIdCnt link.vni)).call
          (.tunnelTenantDelete s.tunnelIdCnt)
      else s

/-- `create_next_hop(neigh, next_hop_id)` starts with `assert(next_hop_id_cnt)`. -/
def assertFails (s : Vxlan) (e : Ev) : Bool :=
  s.nextHopIdCnt == 0 && ((s.creates e).bind CreateCall.target).isSome

/-- The state after an event; `none` is `LOG(FATAL)` or a failed assertion. -/
def nhStep : Option Vxlan → NhEv → Option Vxlan
  | none, _ => none
  | some s, .createVniFails link tenantCreated => some (s.createVniFails link tenantCreated)
  | some s, .handled e => if s.assertFails e then none else s.exec e

/-- Every tunnel next hop counts its endpoints, and those on the switch are those of the
endpoints. -/
structure Balanced (s : Vxlan) : Prop where
  refcnt : ∀ tnh x, (tnh, x) ∈ s.tunnelNextHopId →
    x.refcnt = (s.endpoints.endpointId.filter fun e => e.2.nhId = x.nhId).length
  onSwitch : ∀ id, id ∈ s.calls.foldl nextHopsAfter ∅ ↔
    ∃ ep y, (ep, y) ∈ s.endpoints.endpointId ∧ y.nhId = id

/-- The next hops are balanced, while the process runs. -/
def NextHopsBalanced : Option Vxlan → Prop
  | none => True
  | some s => s.Balanced

/-- Every next hop that the event takes is for a new endpoint of a VNI that has a tunnel. -/
def TakesForNew : Option Vxlan → NhEv → Prop
  | some s, .handled e =>
    match s.nhOp e with
    | some (.take _ ep vni) => s.nextHopIdCnt ≠ 0 → s.ForNewEndpoint ep vni
    | _ => True
  | _, _ => True

section Step

variable {s : Vxlan}

theorem count_nhIds (t : MultiMap EndpointPort EndpointTunnelPort) (id : Nat) :
    (nhIds t).count id = (t.filter fun e => e.2.nhId = id).length := by
  unfold nhIds
  rw [Multiset.coe_count, List.count, List.countP_map, List.countP_eq_length_filter]
  congr 1

theorem balanced_iff (h : s.nhView.Inv) : s.Balanced ↔ s.nhView.Balanced := by
  constructor
  · intro hb
    refine h.balanced_iff.mpr fun tnh x hx => ?_
    rw [hb.refcnt tnh x ((MultiMap.mem_iff_find h.map.nodup).mpr hx)]
    exact congrArg _ (count_nhIds _ _).symm
  · intro hb
    refine ⟨fun tnh x hx => ?_, fun id => ?_⟩
    · rw [hb.counts tnh x ((MultiMap.mem_iff_find h.map.nodup).mp hx)]
      exact congrArg _ (count_nhIds _ _)
    · refine (hb.onSwitch id).trans ?_
      simp [nhView, nhIds]

/-- A next hop is released by an endpoint that is there. -/
theorem mem_used_of_nhOp {e : Ev} {nhId : Nat} (h : s.nhOp e = some (.release nhId)) :
    nhId ∈ s.nhView.used := by
  unfold nhOp at h
  cases hc : s.creates e with
  | some c =>
    rw [hc] at h
    obtain ⟨p, -, hp⟩ := Option.bind_eq_some_iff.mp h
    obtain ⟨tnh, -, hnone⟩ := Option.map_eq_some_iff.mp hp
    cases hnone
  | none =>
    rw [hc] at h
    cases hop : s.refOp e with
    | none => rw [hop] at h; cases h
    | some op =>
      cases op with
      | take ep v => rw [hop] at h; cases h
      | release ep v =>
        rw [hop] at h
        obtain ⟨x, hx, hlast⟩ := Option.bind_eq_some_iff.mp h
        split at hlast
        · cases hlast
          refine Multiset.mem_coe.mpr (List.mem_map.mpr ⟨(ep, x), ?_, rfl⟩)
          exact (MultiMap.perm_erase hx).mem_iff.mpr List.mem_cons_self
        · cases hlast

/-- `create_next_hop` is called with the counter at zero. -/
theorem assertFails_of_take {e : Ev} {tnh : TunnelNh} {ep : EndpointPort} {vni : Nat}
    (h : s.nhOp e = some (.take tnh ep vni)) :
    s.assertFails e = true ↔ s.nextHopIdCnt = 0 := by
  unfold nhOp at h
  cases hc : s.creates e with
  | none =>
    rw [hc] at h
    cases hop : s.refOp e with
    | none => rw [hop] at h; cases h
    | some op =>
      cases op with
      | take ep v => rw [hop] at h; cases h
      | release ep v =>
        rw [hop] at h
        obtain ⟨x, -, hlast⟩ := Option.bind_eq_some_iff.mp h
        split at hlast <;> cases hlast
  | some c =>
    rw [hc] at h
    obtain ⟨p, hp, -⟩ := Option.bind_eq_some_iff.mp h
    simp [assertFails, hc, hp]

theorem exec_of_take {e : Ev} {tnh : TunnelNh} {ep : EndpointPort} {vni : Nat}
    (h : s.nhOp e = some (.take tnh ep vni)) : ∃ s', s.exec e = some s' := by
  cases e with
  | deleteL2Neigh link mac dst =>
    unfold nhOp at h
    simp only [creates, RefOp.nhOp] at h
    split at h
    · obtain ⟨x, -, hlast⟩ := Option.bind_eq_some_iff.mp h
      split at hlast <;> cases hlast
    · cases h
  | _ => exact ⟨_, rfl⟩

theorem createVniFails_nhView (link : VxlanLink) (tenantCreated : Bool) :
    (s.createVniFails link tenantCreated).nhView = s.nhView := by
  unfold createVniFails
  split
  · rfl
  · split
    · rfl
    · split
      · exact (nhView_call _ fun _ => rfl).trans (nhView_call s fun _ => rfl)
      · rfl

end Step

/-- A run that has not ended, with next hops in order. -/
def NextHopsInv : Option Vxlan → Prop
  | none => True
  | some s => s.nhView.Inv

theorem nextHopsInv_init : NextHopsInv (some {}) :=
  ⟨IdMap.empty (by decide), fun _ _ h => (by cases h), fun id => (by simp [nhView]),
    fun id h => (by cases h)⟩

/-- An event keeps the next hops balanced exactly if what it takes is for a new endpoint. -/
theorem nhStep_balanced (o : Option Vxlan) (e : NhEv) (h : NextHopsInv o)
    (hb : NextHopsBalanced o) :
    NextHopsInv (nhStep o e) ∧ (NextHopsBalanced (nhStep o e) ↔ TakesForNew o e) := by
  cases o with
  | none => exact ⟨trivial, Iff.rfl⟩
  | some s =>
    have hbv : s.nhView.Balanced := (balanced_iff h).mp hb
    cases e with
    | createVniFails link tenantCreated =>
      have hview := createVniFails_nhView (s := s) link tenantCreated
      have hinv : (s.createVniFails link tenantCreated).nhView.Inv := hview ▸ h
      exact ⟨hinv, iff_of_true ((balanced_iff hinv).mpr (hview ▸ hbv)) trivial⟩
    | handled e =>
      simp only [nhStep, TakesForNew]
      cases hop : s.nhOp e with
      | none =>
        split
        · exact ⟨trivial, Iff.rfl⟩
        · cases hx : s.exec e with
          | none => exact ⟨trivial, Iff.rfl⟩
          | some s' =>
            have hview := exec_nhView s e hx
            rw [hop, NhOp.apply] at hview
            have hinv : s'.nhView.Inv := hview ▸ h
            exact ⟨hinv, iff_of_true ((balanced_iff hinv).mpr (hview ▸ hbv)) trivial⟩
      | some op =>
        cases op with
        | release nhId =>
          split
          · exact ⟨trivial, Iff.rfl⟩
          · cases hx : s.exec e with
            | none => exact ⟨trivial, Iff.rfl⟩
            | some s' =>
              have hview := exec_nhView s e hx
              rw [hop, NhOp.apply] at hview
              obtain ⟨hinv, hbal⟩ := hbv.release h (mem_used_of_nhOp hop)
              rw [← hview] at hinv hbal
              exact ⟨hinv, iff_of_true ((balanced_iff hinv).mpr hbal) trivial⟩
        | take tnh ep vni =>
          have hassert := assertFails_of_take hop
          by_cases hc : s.nextHopIdCnt = 0
          · rw [if_pos (hassert.mpr hc)]
            exact ⟨trivial, iff_of_true trivial fun hne => absurd hc hne⟩
          · rw [if_neg fun hf => hc (hassert.mp hf)]
            obtain ⟨s', hx⟩ := exec_of_take hop
            have hview := exec_nhView s e hx
            rw [hop, NhOp.apply] at hview
            rw [hx]
            by_cases hnew : s.ForNewEndpoint ep vni
            · rw [if_pos hnew] at hview
              obtain ⟨hinv, hbal⟩ := hbv.use_get h hc tnh
              rw [← hview] at hinv hbal
              exact ⟨hinv, iff_of_true ((balanced_iff hinv).mpr hbal) fun _ => hnew⟩
            · rw [if_neg hnew] at hview
              have hinv := NhView.Inv.get h hc tnh
              have hnot := hbv.not_get h hc tnh
              rw [← hview] at hinv hnot
              exact ⟨hinv, iff_of_false (fun hb' => hnot ((balanced_iff hinv).mp hb'))
                fun himp => hnew (himp hc)⟩

/-- **References to tunnel next hops.** In every state of a run every next hop counts its
endpoints, and the switch has exactly the next hops of the endpoints, exactly if every next hop
that an event of the run takes is for a new endpoint of a VNI that has a tunnel. -/
theorem balanced_iff_along (es : List NhEv) :
    (∀ n, NextHopsBalanced (run nhStep (some {}) (es.take n))) ↔
      Along nhStep TakesForNew (some {}) es :=
  along_iff_of_inv nextHopsInv_init ((balanced_iff nextHopsInv_init).mpr
      ⟨fun _ _ h => (by cases h), fun id => (by simp [nhView, nhIds])⟩)
    (fun o e h hb => (nhStep_balanced o e h hb).1) (fun o e h hb => (nhStep_balanced o e h hb).2) es

/-- Links of two VNIs to the same remote: the next hop has two references, and there is one
endpoint. -/
theorem twoVnis_not_balanced : ¬ NextHopsBalanced (run nhStep (some {})
    [.handled (.linkCreated (tunnelLink 1)), .handled (.enslaved reachableKernel (tunnelLink 1)),
      .handled (.linkCreated (tunnelLink 2)),
      .handled (.enslaved reachableKernel (tunnelLink 2))]) := by
  intro h
  have hrefs := h.refcnt ⟨1, 2, 1, 1⟩ ⟨2, 1⟩ List.mem_cons_self
  revert hrefs
  decide

end Vxlan

end Basebox
