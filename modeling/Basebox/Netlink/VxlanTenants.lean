import Basebox.Netlink.VxlanRefs
import Mathlib.Data.Finset.Insert
import Mathlib.Data.Finset.Filter

/-!
# Endpoints in the tenants of the switch (`src/netlink/nl_vxlan.cc`)

The port of an endpoint is added to the tenant of each VNI that has references to it, and removed
with the last one. Some handlers that take a reference do not add the port.

* `TenantView`: the endpoints, the tunnels, and the ports in the tenants. Its operations are what
  the handlers do.
* `TenantView.Exact`: the port of an endpoint is in the tenant of a VNI exactly if the VNI counts a
  reference, and no MAC was installed on a port outside of its tenant.
* `exec_tenantView`: what an event does to the view.
* `tenantsExact_iff_along`: the tenants are exact in every state of a run exactly if its events keep them
  so.

A port or a tenant that is deleted is no longer part of a membership.
-/

namespace Basebox

/-- The port of an endpoint. -/
def Endpoints.lport (e : Endpoints) (ep : EndpointPort) : Option Nat :=
  (e.endpointId.find ep).map (·.lportId)

/-- The part of the state that is about tenants. -/
structure TenantView where
  endpoints : Endpoints
  tunnels : Table Nat Nat
  /-- The pairs of a port and the id of a tenant it has been added to. -/
  members : Finset (Nat × Nat)
  /-- Every MAC so far was installed on a port that was in the tenant. -/
  addrsOk : Bool

namespace TenantView

/-- The view after a call of the switch. -/
def after (v : TenantView) : SwCall → TenantView
  | .tunnelPortTenantAdd lport t => { v with members := insert (lport, t) v.members }
  | .tunnelPortTenantRemove lport t => { v with members := v.members.erase (lport, t) }
  | .tunnelPortDelete lport => { v with members := v.members.filter (·.1 ≠ lport) }
  | .tunnelTenantDelete t => { v with members := v.members.filter (·.2 ≠ t) }
  | .l2OverlayAddrAdd lport t _ => { v with addrsOk := v.addrsOk && decide ((lport, t) ∈ v.members) }
  | _ => v

/-- The ports of the endpoints in the tenant of a VNI are those that the VNI counts. -/
def MembersMatch (v : TenantView) (vni : Nat) : Prop :=
  ∀ ep x t, v.endpoints.endpointId.find ep = some x → v.tunnels.lookup vni = some t →
    ((x.lportId, t) ∈ v.members ↔ 0 < x.vniCount vni)

/-- The switch has the members that the endpoints ask for. -/
structure Exact (v : TenantView) : Prop where
  addrs : v.addrsOk = true
  members : ∀ vni, v.MembersMatch vni

/-- What every operation preserves. -/
structure Inv (v : TenantView) : Prop where
  endpoints : v.endpoints.Inv
  lports : ∀ ep ep' l, v.endpoints.lport ep = some l → v.endpoints.lport ep' = some l → ep = ep'
  tunnels : ∀ vni vni' t, v.tunnels.lookup vni = some t → v.tunnels.lookup vni' = some t →
    vni = vni'
  /-- Only ports of endpoints are in tenants, and only tenants of tunnels have ports. -/
  ports : ∀ p ∈ v.members, ∃ ep, v.endpoints.lport ep = some p.1
  tenants : ∀ p ∈ v.members, ∃ vni, v.tunnels.lookup vni = some p.2

/-! ## What the handlers do -/

/-- A VNI takes a reference to an endpoint, and the port is added to its tenant. -/
def join (v : TenantView) (ep : EndpointPort) (vni t lport nh : Nat) : TenantView :=
  match v.endpoints.endpointId.find ep with
  | some x => after { v with endpoints := v.endpoints.ref ep vni } (.tunnelPortTenantAdd x.lportId t)
  | none =>
    after { v with endpoints := v.endpoints.create ep vni lport nh } (.tunnelPortTenantAdd lport t)

/-- A MAC is installed on the port of an endpoint, and the VNI takes a reference. -/
def learn (v : TenantView) (ep : EndpointPort) (vni t : Nat) (x : EndpointTunnelPort) (mac : Mac) :
    TenantView :=
  { v.after (.l2OverlayAddrAdd x.lportId t mac) with endpoints := v.endpoints.ref ep vni }

/-- The port leaves the tenant with the last reference of the VNI. -/
def leave (v : TenantView) (vni t : Nat) (x : EndpointTunnelPort) : TenantView :=
  if pred32 (x.vniCount vni) = 0 then v.after (.tunnelPortTenantRemove x.lportId t) else v

/-- A reference is released. -/
def release (v : TenantView) (ep : EndpointPort) (vni t : Nat) (x : EndpointTunnelPort) :
    TenantView :=
  let left := leave { v with endpoints := v.endpoints.unref ep vni x } vni t x
  if x.refcnt - 1 = 0 then left.after (.tunnelPortDelete x.lportId) else left

/-- A VNI gets a tunnel. -/
def openVni (v : TenantView) (vni t : Nat) : TenantView :=
  { v with tunnels := v.tunnels.insert vni t }

/-- It loses it. -/
def closeVni (v : TenantView) (vni t : Nat) : TenantView :=
  { v.after (.tunnelTenantDelete t) with tunnels := v.tunnels.erase vni }

section Steps

variable {v : TenantView} {ep : EndpointPort} {x : EndpointTunnelPort} {vni t lport nh : Nat}

theorem lport_of_find (hx : v.endpoints.endpointId.find ep = some x) :
    v.endpoints.lport ep = some x.lportId := by
  simp [Endpoints.lport, hx]

theorem lport_ref (e : Endpoints) (ep : EndpointPort) (vni : Nat) (q : EndpointPort) :
    (e.ref ep vni).lport q = e.lport q := by
  unfold Endpoints.lport
  rw [Endpoints.find_ref]
  by_cases hq : q = ep
  · rw [if_pos hq, hq, Option.map_map]
    rfl
  · rw [if_neg hq]

theorem lport_create {e : Endpoints} (hnone : e.endpointId.find ep = none) (q : EndpointPort) :
    (e.create ep vni lport nh).lport q = if q = ep then some lport else e.lport q := by
  unfold Endpoints.lport
  rw [Endpoints.find_create hnone]
  split <;> rfl

theorem lport_unref {e : Endpoints} (h : e.Inv) (hx : e.endpointId.find ep = some x)
    (q : EndpointPort) : (e.unref ep vni x).lport q =
      if q = ep ∧ x.refcnt - 1 = 0 then none else e.lport q := by
  unfold Endpoints.lport
  rw [h.find_unref hx]
  by_cases hq : q = ep
  · subst hq
    by_cases hlast : x.refcnt - 1 = 0 <;> simp [hlast, hx]
  · simp [hq]

/-- Endpoints have ports of their own. -/
theorem Inv.lport_ne (h : Inv v) (hx : v.endpoints.endpointId.find ep = some x)
    {q : EndpointPort} {y : EndpointTunnelPort} (hy : v.endpoints.endpointId.find q = some y)
    (hq : q ≠ ep) : y.lportId ≠ x.lportId :=
  fun hl => hq (h.lports q ep x.lportId (hl ▸ lport_of_find hy) (lport_of_find hx))

/-- VNIs have tunnels of their own. -/
theorem Inv.tunnel_ne (h : Inv v) (ht : v.tunnels.lookup vni = some t) {w u : Nat}
    (hu : v.tunnels.lookup w = some u) (hw : w ≠ vni) : u ≠ t :=
  fun hut => hw (h.tunnels w vni u hu (hut ▸ ht))

/-! ### A reference to an endpoint that is there -/

theorem Inv.ref (h : Inv v) (ep : EndpointPort) (vni : Nat) :
    Inv { v with endpoints := v.endpoints.ref ep vni } where
  endpoints := h.endpoints.ref ep vni
  lports q q' l hq hq' := by
    rw [lport_ref] at hq hq'
    exact h.lports q q' l hq hq'
  tunnels := h.tunnels
  ports p hp := by
    obtain ⟨q, hq⟩ := h.ports p hp
    exact ⟨q, by rw [lport_ref, hq]⟩
  tenants := h.tenants

/-- A port of an endpoint is added to a tenant of a tunnel. -/
theorem Inv.add (h : Inv v) (ep : EndpointPort) (hl : v.endpoints.lport ep = some lport)
    (ht : v.tunnels.lookup vni = some t) : Inv (v.after (.tunnelPortTenantAdd lport t)) where
  endpoints := h.endpoints
  lports := h.lports
  tunnels := h.tunnels
  ports p hp := by
    rcases Finset.mem_insert.mp hp with rfl | hp
    · exact ⟨ep, hl⟩
    · exact h.ports p hp
  tenants p hp := by
    rcases Finset.mem_insert.mp hp with rfl | hp
    · exact ⟨vni, ht⟩
    · exact h.tenants p hp

/-- The counts of the endpoints, after a reference of a VNI to one of them. -/
theorem find_ref_count {e : Endpoints} {q : EndpointPort} {y : EndpointTunnelPort}
    (hy : (e.ref ep vni).endpointId.find q = some y) :
    ∃ x, e.endpointId.find q = some x ∧ y.lportId = x.lportId ∧
      ∀ w, y.vniCount w = if q = ep ∧ w = vni then u32 (x.vniCount vni + 1) else x.vniCount w := by
  rw [Endpoints.find_ref] at hy
  split at hy
  · next hq =>
    obtain ⟨x, hx, rfl⟩ := Option.map_eq_some_iff.mp hy
    refine ⟨x, hq ▸ hx, rfl, fun w => ?_⟩
    rw [Endpoints.vniCount_insert]
    simp only [hq, true_and]
    rfl
  · next hq => exact ⟨y, hy, rfl, fun w => by simp [hq]⟩

theorem Inv.u32_count (h : Inv v) (hx : v.endpoints.endpointId.find ep = some x) (vni : Nat) :
    0 < u32 (x.vniCount vni + 1) ↔ x.vniCount vni + 1 < 2 ^ 32 := by
  have hlt := h.endpoints.lt ep x hx vni
  unfold u32
  omega

/-- The port of an endpoint is added to the tenant with the reference. -/
theorem Exact.join_iff (he : Exact v) (h : Inv v) (hx : v.endpoints.endpointId.find ep = some x)
    (ht : v.tunnels.lookup vni = some t) :
    Exact (v.join ep vni t lport nh) ↔ x.vniCount vni + 1 < 2 ^ 32 := by
  have hjoin : v.join ep vni t lport nh =
      after { v with endpoints := v.endpoints.ref ep vni } (.tunnelPortTenantAdd x.lportId t) := by
    unfold join
    rw [hx]
  rw [hjoin, ← h.u32_count hx]
  have hself : (v.endpoints.ref ep vni).endpointId.find ep = some { x with
      refcnt := x.refcnt + 1, refcntVni := x.refcntVni.insert vni (u32 (x.vniCount vni + 1)) } := by
    rw [Endpoints.find_ref, if_pos rfl, hx]
    rfl
  constructor
  · intro he'
    have hcount := (he'.members vni ep _ t hself ht).mp (Finset.mem_insert_self _ _)
    rwa [Endpoints.vniCount_insert, if_pos rfl] at hcount
  · intro hpos
    refine ⟨he.addrs, fun w q y u hy hu => ?_⟩
    change v.tunnels.lookup w = some u at hu
    obtain ⟨z, hz, hl, hcount⟩ := find_ref_count hy
    have hold := he.members w q z u hz hu
    have hmem : (y.lportId, u) ∈ insert (x.lportId, t) v.members ↔
        (q = ep ∧ w = vni) ∨ (z.lportId, u) ∈ v.members := by
      rw [Finset.mem_insert, hl, Prod.mk.injEq]
      refine or_congr ?_ Iff.rfl
      constructor
      · rintro ⟨hlport, rfl⟩
        refine ⟨h.lports q ep x.lportId ?_ (lport_of_find hx), h.tunnels w vni u hu ht⟩
        rw [lport_of_find hz, hlport]
      · rintro ⟨rfl, rfl⟩
        rw [hz] at hx
        rw [hu] at ht
        cases hx
        cases ht
        exact ⟨rfl, rfl⟩
    refine hmem.trans ?_
    rw [hcount w]
    by_cases hqw : q = ep ∧ w = vni
    · rw [if_pos hqw]
      rw [hqw.1, hx] at hz
      cases hz
      exact iff_of_true (.inl hqw) hpos
    · rw [if_neg hqw]
      simpa [hqw] using hold

/-- A new endpoint, with a port that no endpoint has. -/
theorem Inv.create (h : Inv v) (hnone : v.endpoints.endpointId.find ep = none)
    (hfresh : ∀ q, v.endpoints.lport q ≠ some lport) (vni nh : Nat) :
    Inv { v with endpoints := v.endpoints.create ep vni lport nh } where
  endpoints := h.endpoints.create hnone vni lport nh
  lports q q' l hq hq' := by
    rw [lport_create hnone] at hq hq'
    by_cases he : q = ep <;> by_cases he' : q' = ep
    · rw [he, he']
    · rw [if_pos he] at hq
      rw [if_neg he', ← Option.some.inj hq] at hq'
      exact absurd hq' (hfresh q')
    · rw [if_pos he'] at hq'
      rw [if_neg he, ← Option.some.inj hq'] at hq
      exact absurd hq (hfresh q)
    · rw [if_neg he] at hq
      rw [if_neg he'] at hq'
      exact h.lports q q' l hq hq'
  tunnels := h.tunnels
  ports p hp := by
    obtain ⟨q, hq⟩ := h.ports p hp
    refine ⟨q, ?_⟩
    rw [lport_create hnone, if_neg]
    · exact hq
    · rintro rfl
      simp [Endpoints.lport, hnone] at hq
  tenants := h.tenants

theorem Exact.join_new (he : Exact v) (h : Inv v)
    (hnone : v.endpoints.endpointId.find ep = none)
    (hfresh : ∀ q, v.endpoints.lport q ≠ some lport) (ht : v.tunnels.lookup vni = some t) :
    Exact (v.join ep vni t lport nh) := by
  have hjoin : v.join ep vni t lport nh =
      after { v with endpoints := v.endpoints.create ep vni lport nh }
        (.tunnelPortTenantAdd lport t) := by
    unfold join
    rw [hnone]
  -- The port is in no tenant yet.
  have hnot : ∀ u, (lport, u) ∉ v.members := fun u hmem => by
    obtain ⟨q, hq⟩ := h.ports _ hmem
    exact hfresh q hq
  rw [hjoin]
  refine ⟨he.addrs, fun w q y u hy hu => ?_⟩
  change v.tunnels.lookup w = some u at hu
  change (v.endpoints.create ep vni lport nh).endpointId.find q = some y at hy
  change (y.lportId, u) ∈ insert (lport, t) v.members ↔ _
  rw [Endpoints.find_create hnone] at hy
  rw [Finset.mem_insert, Prod.mk.injEq]
  split at hy
  · cases hy
    rw [Endpoints.vniCount_insert]
    simp only [hnot, or_false, true_and]
    by_cases hw : w = vni
    · subst hw
      rw [hu] at ht
      simpa using ht
    · have hut := h.tunnel_ne ht hu hw
      simp [hw, hut]
  · have hne : y.lportId ≠ lport := fun hl => hfresh q (hl ▸ lport_of_find hy)
    simp only [hne, false_and, false_or]
    exact he.members w q y u hy hu

theorem Inv.join (h : Inv v) (ht : v.tunnels.lookup vni = some t)
    (hfresh : v.endpoints.endpointId.find ep = none → ∀ q, v.endpoints.lport q ≠ some lport) :
    Inv (v.join ep vni t lport nh) := by
  unfold TenantView.join
  cases hx : v.endpoints.endpointId.find ep with
  | some x =>
    refine (h.ref ep vni).add ep ?_ ht
    exact (lport_ref v.endpoints ep vni ep).trans (lport_of_find hx)
  | none =>
    refine (h.create hx (hfresh hx) vni nh).add ep ?_ ht
    exact (lport_create hx ep).trans (if_pos rfl)

/-! ### A MAC at an endpoint -/

theorem Inv.learn (h : Inv v) (ep : EndpointPort) (vni t : Nat) (x : EndpointTunnelPort)
    (mac : Mac) : Inv (v.learn ep vni t x mac) :=
  have href := h.ref ep vni
  ⟨href.endpoints, href.lports, href.tunnels, href.ports, href.tenants⟩

/-- The MAC is installed in the tenant if the VNI has a reference already. -/
theorem Exact.learn_iff (he : Exact v) (h : Inv v) (hx : v.endpoints.endpointId.find ep = some x)
    (ht : v.tunnels.lookup vni = some t) (mac : Mac) :
    Exact (v.learn ep vni t x mac) ↔ 0 < x.vniCount vni ∧ x.vniCount vni + 1 < 2 ^ 32 := by
  have hmember := he.members vni ep x t hx ht
  by_cases hpos : 0 < x.vniCount vni
  · -- The port is in the tenant: to add it would change nothing.
    have hmem := hmember.mpr hpos
    have hjoin : v.learn ep vni t x mac = v.join ep vni t 0 0 := by
      unfold TenantView.learn TenantView.join
      rw [hx]
      simp only [after, Finset.insert_eq_of_mem hmem, hmem, decide_true, Bool.and_true]
    rw [hjoin, he.join_iff h hx ht]
    exact (and_iff_right hpos).symm
  · have hnot : (x.lportId, t) ∉ v.members := fun hmem => hpos (hmember.mp hmem)
    refine iff_of_false (fun he' => ?_) fun hc => hpos hc.1
    have haddrs := he'.addrs
    simp [TenantView.learn, after, hnot] at haddrs

/-! ### A reference is released -/

theorem mem_leave (p : Nat × Nat) : p ∈ (v.leave vni t x).members ↔
    p ∈ v.members ∧ ¬ (pred32 (x.vniCount vni) = 0 ∧ p = (x.lportId, t)) := by
  unfold leave
  by_cases hz : pred32 (x.vniCount vni) = 0
  · simp only [hz, if_true, after, Finset.mem_erase, true_and]
    exact and_comm
  · simp only [hz, if_false, false_and, not_false_iff, and_true]

/-- What is left in the tenants after a release. -/
theorem mem_release (p : Nat × Nat) : p ∈ (v.release ep vni t x).members ↔
    p ∈ v.members ∧ ¬ (pred32 (x.vniCount vni) = 0 ∧ p = (x.lportId, t)) ∧
      ¬ (x.refcnt - 1 = 0 ∧ p.1 = x.lportId) := by
  have hleave : p ∈ (leave { v with endpoints := v.endpoints.unref ep vni x } vni t x).members ↔ _ :=
    mem_leave p
  unfold release
  by_cases hlast : x.refcnt - 1 = 0
  · simp only [hlast, if_true, after, Finset.mem_filter, hleave, true_and, ne_eq]
    exact and_assoc
  · simp only [hlast, if_false, hleave, false_and, not_false_iff, and_true]

/-- What a release does not touch. -/
theorem release_frame (v : TenantView) (ep : EndpointPort) (vni t : Nat) (x : EndpointTunnelPort) :
    (v.release ep vni t x).endpoints = v.endpoints.unref ep vni x ∧
    (v.release ep vni t x).tunnels = v.tunnels ∧ (v.release ep vni t x).addrsOk = v.addrsOk := by
  unfold release leave
  by_cases hz : pred32 (x.vniCount vni) = 0 <;> by_cases hlast : x.refcnt - 1 = 0 <;>
    simp only [hz, hlast, if_true, if_false, after, and_self]

theorem pred32_eq_zero {n : Nat} (hn : n < 2 ^ 32) : pred32 n = 0 ↔ n = 1 := by
  unfold pred32 u32
  omega

theorem Inv.release (h : Inv v) (hx : v.endpoints.endpointId.find ep = some x) (vni t : Nat) :
    Inv (v.release ep vni t x) := by
  obtain ⟨hendpoints, htunnels, -⟩ := release_frame v ep vni t x
  have hlport : ∀ q, (v.endpoints.unref ep vni x).lport q =
      if q = ep ∧ x.refcnt - 1 = 0 then none else v.endpoints.lport q :=
    lport_unref h.endpoints hx
  constructor
  · rw [hendpoints]
    exact h.endpoints.unref ep vni x
  · intro q q' l hq hq'
    rw [hendpoints, hlport] at hq hq'
    split at hq
    · cases hq
    · split at hq'
      · cases hq'
      · exact h.lports q q' l hq hq'
  · rw [htunnels]
    exact h.tunnels
  · intro p hp
    obtain ⟨hmem, -, hstay⟩ := (mem_release p).mp hp
    obtain ⟨q, hq⟩ := h.ports p hmem
    refine ⟨q, ?_⟩
    rw [hendpoints, hlport, if_neg]
    · exact hq
    · rintro ⟨rfl, hlast⟩
      rw [lport_of_find hx] at hq
      exact hstay ⟨hlast, (Option.some.inj hq).symm⟩
  · intro p hp
    rw [htunnels]
    exact h.tenants p ((mem_release p).mp hp).1

/-- A release does not matter to other VNIs. -/
theorem MembersMatch.release (h : Inv v) (hx : v.endpoints.endpointId.find ep = some x)
    (ht : v.tunnels.lookup vni = some t) {w : Nat} (hw : w ≠ vni) (hm : v.MembersMatch w) :
    (v.release ep vni t x).MembersMatch w := by
  obtain ⟨hendpoints, htunnels, -⟩ := release_frame v ep vni t x
  intro q y u hy hu
  rw [htunnels] at hu
  rw [hendpoints, h.endpoints.find_unref hx] at hy
  have hut := h.tunnel_ne ht hu hw
  rw [mem_release, Prod.mk.injEq]
  split at hy
  · next hq =>
    split at hy
    · cases hy
    · next hlast =>
      cases hy
      subst hq
      simp only [hut, hlast, and_false, not_false_iff, and_true]
      rw [Endpoints.vniCount_insert, if_neg hw]
      exact hm q x u hx hu
  · next hq =>
    have hne := h.lport_ne hx hy hq
    simp only [hut, hne, and_false, not_false_iff, and_true]
    exact hm q y u hy hu

/-- A release has to be of a reference that the VNI holds, unless it is the last one in total. -/
theorem Exact.release_iff (he : Exact v) (h : Inv v)
    (hx : v.endpoints.endpointId.find ep = some x) (ht : v.tunnels.lookup vni = some t) :
    Exact (v.release ep vni t x) ↔ 0 < x.vniCount vni ∨ x.refcnt - 1 = 0 := by
  obtain ⟨hendpoints, htunnels, haddrs⟩ := release_frame v ep vni t x
  have hlt := h.endpoints.lt ep x hx vni
  have hmember := he.members vni ep x t hx ht
  have hfind := h.endpoints.find_unref hx vni
  -- Only the VNI itself has to be looked at, and only at the endpoint.
  have hiff : Exact (v.release ep vni t x) ↔ (v.release ep vni t x).MembersMatch vni := by
    refine ⟨fun he' => he'.members vni, fun hm => ⟨haddrs.trans he.addrs, fun w => ?_⟩⟩
    by_cases hw : w = vni
    · rw [hw]
      exact hm
    · exact (he.members w).release h hx ht hw
  rw [hiff]
  by_cases hlast : x.refcnt - 1 = 0
  · refine iff_of_true (fun q y u hy hu => ?_) (.inr hlast)
    rw [hendpoints, hfind] at hy
    rw [htunnels] at hu
    split at hy
    · cases hy
    · next hq =>
      have hne := h.lport_ne hx hy hq
      rw [mem_release, Prod.mk.injEq]
      simp only [hne, false_and, and_false, not_false_iff, and_true]
      exact he.members vni q y u hy hu
  · simp only [hlast, or_false]
    have hself := hfind ep
    rw [if_pos rfl, if_neg hlast, ← hendpoints] at hself
    constructor
    · intro hm
      have hiff := hm ep _ t hself (by rw [htunnels]; exact ht)
      rw [mem_release, Endpoints.vniCount_insert, if_pos rfl] at hiff
      simp only [hlast, not_false_iff, and_true, hmember] at hiff
      by_contra hzero
      have hwrap : 0 < pred32 (x.vniCount vni) := by
        rw [Nat.pos_iff_ne_zero, Ne, pred32_eq_zero hlt]
        omega
      exact hzero (hiff.mpr hwrap).1
    · intro hpos q y u hy hu
      rw [hendpoints, hfind] at hy
      rw [htunnels, ht] at hu
      cases hu
      rw [mem_release, Prod.mk.injEq]
      split at hy
      · next hq =>
        cases hy
        subst hq
        rw [Endpoints.vniCount_insert, if_pos rfl, Nat.pos_iff_ne_zero (n := pred32 _)]
        simp only [hlast, not_false_iff, and_true, hmember, hpos, true_and, and_self]
      · next hq =>
        have hne := h.lport_ne hx hy hq
        simp only [hne, and_false, not_false_iff, and_true]
        exact he.members vni q y t hy ht

/-! ### Tunnels -/

/-- A VNI gets a tunnel with an id that no VNI has. -/
theorem Inv.openVni (h : Inv v) (hnone : v.tunnels.lookup vni = none)
    (hfresh : ∀ w, v.tunnels.lookup w ≠ some t) : Inv (v.openVni vni t) where
  endpoints := h.endpoints
  lports := h.lports
  tunnels w w' u hw hw' := by
    simp only [TenantView.openVni, Table.lookup_insert_ite] at hw hw'
    split at hw <;> split at hw'
    · rw [‹w = vni›, ‹w' = vni›]
    · exact absurd (hw'.trans hw.symm) (hfresh w')
    · exact absurd (hw.trans hw'.symm) (hfresh w)
    · exact h.tunnels w w' u hw hw'
  ports := h.ports
  tenants p hp := by
    obtain ⟨w, hw⟩ := h.tenants p hp
    refine ⟨w, ?_⟩
    simp only [TenantView.openVni, Table.lookup_insert_ite]
    rw [if_neg]
    · exact hw
    · rintro rfl
      rw [hnone] at hw
      cases hw

/-- A VNI that gets a tunnel has to count no reference yet: the new tenant is empty. -/
theorem Exact.openVni_iff (he : Exact v) (h : Inv v)
    (hfresh : ∀ w, v.tunnels.lookup w ≠ some t) :
    Exact (v.openVni vni t) ↔
      ∀ ep x, v.endpoints.endpointId.find ep = some x → x.vniCount vni = 0 := by
  have hempty : ∀ l, (l, t) ∉ v.members := fun l hmem => by
    obtain ⟨w, hw⟩ := h.tenants _ hmem
    exact hfresh w hw
  constructor
  · intro he' ep x hx
    have hiff := he'.members vni ep x t hx (by simp [TenantView.openVni])
    have hnot : ¬ 0 < x.vniCount vni := fun hpos => hempty _ (hiff.mpr hpos)
    omega
  · refine fun hall => ⟨he.addrs, fun w q y u hy hu => ?_⟩
    simp only [TenantView.openVni, Table.lookup_insert_ite] at hu
    split at hu
    · next hw =>
      cases hu
      subst hw
      have hzero := hall q y hy
      refine iff_of_false (hempty _) ?_
      omega
    · exact he.members w q y u hy hu

theorem Inv.closeVni (h : Inv v) (ht : v.tunnels.lookup vni = some t) : Inv (v.closeVni vni t) where
  endpoints := h.endpoints
  lports := h.lports
  tunnels w w' u hw hw' := by
    simp only [TenantView.closeVni, Table.lookup_erase_ite] at hw hw'
    split at hw
    · cases hw
    · split at hw'
      · cases hw'
      · exact h.tunnels w w' u hw hw'
  ports p hp := h.ports p (Finset.mem_filter.mp hp).1
  tenants p hp := by
    obtain ⟨hmem, hne⟩ := Finset.mem_filter.mp hp
    obtain ⟨w, hw⟩ := h.tenants p hmem
    refine ⟨w, ?_⟩
    simp only [TenantView.closeVni, Table.lookup_erase_ite]
    rw [if_neg]
    · exact hw
    · rintro rfl
      rw [ht] at hw
      simp [Option.some.inj hw] at hne

/-- When a VNI loses its tunnel, only the other VNIs count. -/
theorem Exact.closeVni (haddrs : v.addrsOk = true) (h : Inv v)
    (ht : v.tunnels.lookup vni = some t) (hm : ∀ w, w ≠ vni → v.MembersMatch w) :
    Exact (v.closeVni vni t) := by
  refine ⟨haddrs, fun w q y u hy hu => ?_⟩
  simp only [TenantView.closeVni, Table.lookup_erase_ite] at hu
  split at hu
  · cases hu
  · next hw =>
    have hut := h.tunnel_ne ht hu hw
    change (y.lportId, u) ∈ v.members.filter (·.2 ≠ t) ↔ _
    rw [Finset.mem_filter]
    simpa [hut] using hm w hw q y u hy hu

end Steps

end TenantView

namespace Vxlan

/-! ## What an event does -/

/-- What happens to the tenants of an endpoint. -/
inductive TenantOp where
  | join (ep : EndpointPort) (vni : Nat)
  | learn (ep : EndpointPort) (vni : Nat) (mac : Mac)
  | release (ep : EndpointPort) (vni : Nat)
  | openVni (vni : Nat)
  | closeVni (vni : Nat) (released : Option RefOp)

/-- A reference is taken for a MAC, or with the port added to the tenant. -/
def RefOp.tenantOp (mac : Mac) : RefOp → TenantOp
  | .take ep vni => if mac = 0 then .join ep vni else .learn ep vni mac
  | .release ep vni => .release ep vni

/-- What an event does to the tenants. -/
def tenantOp (s : Vxlan) : Ev → Option TenantOp
  | .linkCreated link =>
    if link.isVxlan ∧ link.vni ∉ s.vni2tunnel then some (.openVni link.vni) else none
  | .enslaved k link => (enslavedTakes k s link).map (RefOp.tenantOp 0)
  | .netReachable k params => (notificationTakes k s params).map (RefOp.tenantOp 0)
  | .addL2Neigh k link mac dst _ => (addNeighTakes k s link mac dst).map (RefOp.tenantOp mac)
  | .deleteL2Neigh link mac dst => (s.deleteNeighReleases link mac dst).map (RefOp.tenantOp 0)
  | .linkDeleted link =>
    if link.vni ∈ s.vni2tunnel then some (.closeVni link.vni (s.deleteLinkReleases link)) else none

/-- The release of a reference to an endpoint that is there. -/
def RefOp.applyRelease (v : TenantView) : Option RefOp → TenantView
  | some (.release ep vni) =>
    match v.endpoints.endpointId.find ep, v.tunnels.lookup vni with
    | some x, some t => v.release ep vni t x
    | _, _ => v
  | _ => v

/-- The tenants after such an operation, where `lport`, `tunnelId` and `nh` are the ids of what is
new. -/
def TenantOp.apply (v : TenantView) (lport tunnelId nh : Nat) : Option TenantOp → TenantView
  | none => v
  | some (.join ep vni) =>
    match v.tunnels.lookup vni with
    | some t => v.join ep vni t lport nh
    | none => v
  | some (.learn ep vni mac) =>
    match v.endpoints.endpointId.find ep, v.tunnels.lookup vni with
    | some x, some t => v.learn ep vni t x mac
    | _, _ => v
  | some (.release ep vni) => RefOp.applyRelease v (some (.release ep vni))
  | some (.openVni vni) => v.openVni vni tunnelId
  | some (.closeVni vni released) =>
    match v.tunnels.lookup vni with
    | some t => (RefOp.applyRelease v released).closeVni vni t
    | none => v

/-- The operation is of a VNI with a tunnel, and a MAC or a release of an endpoint that is there. -/
def TenantOp.Valid (v : TenantView) : TenantOp → Prop
  | .join _ vni => vni ∈ v.tunnels
  | .learn ep vni _ => vni ∈ v.tunnels ∧ (v.endpoints.endpointId.find ep).isSome
  | .release ep vni => vni ∈ v.tunnels ∧ (v.endpoints.endpointId.find ep).isSome
  | .openVni vni => vni ∉ v.tunnels
  | .closeVni vni released =>
    vni ∈ v.tunnels ∧ ∀ op, released = some op → ∃ ep, op = .release ep vni

/-- The id of a new port is that of no endpoint, and that of a new tunnel that of no VNI. -/
def TenantOp.Fresh (v : TenantView) (lport tunnelId : Nat) : TenantOp → Prop
  | .join ep _ =>
    v.endpoints.endpointId.find ep = none → ∀ q, v.endpoints.lport q ≠ some lport
  | .openVni _ => ∀ vni, v.tunnels.lookup vni ≠ some tunnelId
  | _ => True

/-- The operations that keep the tenants exact. A MAC has to be at an endpoint that the VNI has a
reference to already; a reference is released by a VNI that holds one, or is the last one in total;
and a VNI gets a tunnel before it has references. No VNI holds `2 ^ 32` references. -/
def TenantOp.Keeps (v : TenantView) : TenantOp → Prop
  | .join ep vni =>
    ∀ x, v.endpoints.endpointId.find ep = some x → x.vniCount vni + 1 < 2 ^ 32
  | .learn ep vni _ =>
    ∀ x, v.endpoints.endpointId.find ep = some x → 0 < x.vniCount vni ∧ x.vniCount vni + 1 < 2 ^ 32
  | .release ep vni =>
    ∀ x, v.endpoints.endpointId.find ep = some x → 0 < x.vniCount vni ∨ x.refcnt - 1 = 0
  | .openVni vni => ∀ ep x, v.endpoints.endpointId.find ep = some x → x.vniCount vni = 0
  | .closeVni _ _ => True

/-- An operation keeps the tenants exact exactly as `Keeps` says. -/
theorem TenantOp.apply_exact {v : TenantView} (h : v.Inv) (he : v.Exact) (lport tunnelId nh : Nat)
    (op : TenantOp) (hvalid : op.Valid v) (hfresh : op.Fresh v lport tunnelId) :
    (TenantOp.apply v lport tunnelId nh (some op)).Inv ∧
      ((TenantOp.apply v lport tunnelId nh (some op)).Exact ↔ op.Keeps v) := by
  cases op with
  | join ep vni =>
    obtain ⟨t, ht⟩ := Table.mem_iff_lookup.mp hvalid
    simp only [TenantOp.apply, ht, TenantOp.Keeps]
    refine ⟨h.join ht hfresh, ?_⟩
    cases hx : v.endpoints.endpointId.find ep with
    | none => exact iff_of_true (he.join_new h hx (hfresh hx) ht) fun _ hs => (by cases hs)
    | some x => simpa using he.join_iff h hx ht
  | learn ep vni mac =>
    obtain ⟨t, ht⟩ := Table.mem_iff_lookup.mp hvalid.1
    obtain ⟨x, hx⟩ := Option.isSome_iff_exists.mp hvalid.2
    simp only [TenantOp.apply, ht, hx, TenantOp.Keeps]
    exact ⟨h.learn ep vni t x mac, by simpa using he.learn_iff h hx ht mac⟩
  | release ep vni =>
    obtain ⟨t, ht⟩ := Table.mem_iff_lookup.mp hvalid.1
    obtain ⟨x, hx⟩ := Option.isSome_iff_exists.mp hvalid.2
    simp only [TenantOp.apply, RefOp.applyRelease, ht, hx, TenantOp.Keeps]
    exact ⟨h.release hx vni t, by simpa using he.release_iff h hx ht⟩
  | openVni vni =>
    exact ⟨h.openVni (Table.not_mem_iff_lookup.mp hvalid) hfresh, he.openVni_iff h hfresh⟩
  | closeVni vni released =>
    obtain ⟨t, ht⟩ := Table.mem_iff_lookup.mp hvalid.1
    simp only [TenantOp.apply, ht, TenantOp.Keeps, iff_true]
    cases released with
    | none => exact ⟨h.closeVni ht, .closeVni he.addrs h ht fun w _ => he.members w⟩
    | some op =>
      obtain ⟨ep, rfl⟩ := hvalid.2 op rfl
      simp only [RefOp.applyRelease, ht]
      cases hx : v.endpoints.endpointId.find ep with
      | none => exact ⟨h.closeVni ht, .closeVni he.addrs h ht fun w _ => he.members w⟩
      | some x =>
        obtain ⟨-, htunnels, haddrs⟩ := TenantView.release_frame v ep vni t x
        have ht' : (v.release ep vni t x).tunnels.lookup vni = some t := by rw [htunnels, ht]
        have hinv := h.release hx vni t
        -- What the release does to the tenant of the VNI does not matter.
        exact ⟨hinv.closeVni ht', .closeVni (haddrs.trans he.addrs) hinv ht' fun w hw =>
          (he.members w).release h hx ht hw⟩

/-! ## The view of a state -/

/-- The ports in the tenants, from the calls of the switch alone. -/
def switchView (calls : List SwCall) : TenantView :=
  calls.foldl TenantView.after { endpoints := {}, tunnels := ∅, members := ∅, addrsOk := true }

/-- The view of a state. -/
def tenantView (s : Vxlan) : TenantView :=
  { switchView s.calls with endpoints := s.endpoints, tunnels := s.vni2tunnel }

section View

variable (k : Kernel) (s : Vxlan) (link : VxlanLink)

theorem tenantView_call (c : SwCall) : (s.call c).tenantView = s.tenantView.after c := by
  unfold tenantView switchView call
  rw [List.foldl_append]
  cases c <;> rfl

/-- A call that is not about tenants. -/
theorem tenantView_call_of_eq {c : SwCall} (h : ∀ v, TenantView.after v c = v) :
    (s.call c).tenantView = s.tenantView := by
  rw [tenantView_call, h]

/-- A call, and a change of the endpoints. -/
theorem tenantView_call_endpoints (c : SwCall) (e : Endpoints) :
    tenantView { s.call c with endpoints := e } = { s.tenantView.after c with endpoints := e } :=
  congrArg (fun v : TenantView => { v with endpoints := e }) (tenantView_call s c)

theorem tenantView_portIdCnt (n : Nat) : tenantView { s with portIdCnt := n } = s.tenantView := rfl

theorem createNextHopNeigh_tenantView (ifindex : Int) (mac : Mac) :
    (createNextHopNeigh k s ifindex mac).2.2.tenantView = s.tenantView ∧
      (createNextHopNeigh k s ifindex mac).2.2.portIdCnt = s.portIdCnt := by
  unfold createNextHopNeigh
  cases k.linkByIfindex ifindex with
  | none => exact ⟨rfl, rfl⟩
  | some l =>
    simp only
    by_cases hp : l.portId = 0
    · simp only [hp, if_true, and_self]
    · simp only [hp, if_false]
      cases l.addr with
      | none => exact ⟨rfl, rfl⟩
      | some srcMac =>
        simp only
        split
        · exact ⟨rfl, rfl⟩
        · exact ⟨tenantView_call_of_eq s fun _ => rfl, rfl⟩

theorem createNextHop_tenantView (remote : Addr) :
    (createNextHop k s link remote).2.2.tenantView = s.tenantView ∧
      (createNextHop k s link remote).2.2.portIdCnt = s.portIdCnt := by
  unfold createNextHop
  split
  · exact ⟨rfl, rfl⟩
  · split
    · exact ⟨rfl, rfl⟩
    · simp only
      split
      · exact createNextHopNeigh_tenantView k s _ _
      · exact ⟨rfl, rfl⟩

theorem deleteNextHop_tenantView (nhId : Nat) :
    (s.deleteNextHop nhId).2.tenantView = s.tenantView := by
  unfold deleteNextHop deleteNextHopTnh
  split
  · rfl
  · split
    · rfl
    · simp only
      split
      · exact tenantView_call_of_eq s fun _ => rfl
      · rfl

/-- A MAC on a port that is in the tenant. -/
theorem addL2NeighPort_tenantView {mac : Mac} {lport tunnelId : Nat}
    (hmem : (lport, tunnelId) ∈ s.tenantView.members) :
    (s.addL2NeighPort mac lport tunnelId).2.tenantView = s.tenantView := by
  unfold addL2NeighPort
  split
  · rfl
  · rw [tenantView_call]
    simp only [TenantView.after, hmem, decide_true, Bool.and_true]

/-- The MACs come after the port is in the tenant. -/
theorem setupEndpoint_tenantView (remote : Addr) (lport tunnelId : Nat) :
    (setupEndpoint k s link remote lport tunnelId).2.tenantView =
      s.tenantView.after (.tunnelPortTenantAdd lport tunnelId) := by
  have hadd := tenantView_call s (.tunnelPortTenantAdd lport tunnelId)
  unfold setupEndpoint
  refine run_inv_all
    (I := fun p : Int × Vxlan =>
      p.2.tenantView = s.tenantView.after (.tunnelPortTenantAdd lport tunnelId))
    ?_ (fun p mac hp => ?_) _
  · simp only
    split
    · exact (tenantView_call_of_eq _ fun _ => rfl).trans hadd
    · exact hadd
  · refine (addL2NeighPort_tenantView p.2 ?_).trans hp
    rw [hp]
    exact Finset.mem_insert_self _ _

/-- The endpoint is joined to the VNI when its port is added to the tenant. -/
theorem createEndpointPort_join (loc remote : Addr) (nhId t : Nat) :
    (s.createEndpointPort link loc remote nhId).2.tenantView.after
        (.tunnelPortTenantAdd (s.createEndpointPort link loc remote nhId).1 t) =
      s.tenantView.join (link.endpointPort loc remote) link.vni t s.portIdCnt nhId := by
  have hends : s.tenantView.endpoints = s.endpoints := rfl
  simp only [createEndpointPort, TenantView.join, hends]
  cases s.endpoints.endpointId.find (link.endpointPort loc remote) with
  | some x => rfl
  | none =>
    have hcall : (s.call (.tunnelEndpointCreate s.portIdCnt (link.endpointPort loc remote)
        nhId)).tenantView = s.tenantView := tenantView_call_of_eq s fun _ => rfl
    have hmembers := congrArg (insert (s.portIdCnt, t) ·.members) hcall
    have haddrs := congrArg TenantView.addrsOk hcall
    simp only [TenantView.after, TenantView.mk.injEq]
    exact ⟨rfl, rfl, hmembers, haddrs⟩

theorem createEndpointRemote_tenantView (remote : Addr) (tunnelId : Nat) :
    ∃ nh, (createEndpointRemote k s link remote).2.tenantView =
      TenantOp.apply s.tenantView s.portIdCnt tunnelId nh
        ((createTakes k s link remote).map (RefOp.tenantOp 0)) := by
  obtain ⟨hview, hport⟩ := createNextHop_tenantView k s link remote
  rcases createEndpointRemote_cases k s link remote with
    ⟨hop, hr | ⟨callbacks, hr⟩⟩ | ⟨loc, t, hop, hv, hr⟩
  · exact ⟨0, by rw [hop, hr]; rfl⟩
  · exact ⟨0, by rw [hop, hr]; exact hview⟩
  · have hlookup : s.tenantView.tunnels.lookup link.vni = some t := hv
    refine ⟨(createNextHop k s link remote).2.1, ?_⟩
    rw [hop, hr, setupEndpoint_tenantView, createEndpointPort_join, hview, hport]
    simp only [Option.map_some, RefOp.tenantOp, if_true, TenantOp.apply, hlookup]

theorem createEndpoint_tenantView (tunnelId : Nat) :
    ∃ nh, (createEndpoint k s link).2.tenantView =
      TenantOp.apply s.tenantView s.portIdCnt tunnelId nh
        ((enslavedTakes k s link).map (RefOp.tenantOp 0)) := by
  unfold createEndpoint enslavedTakes
  cases link.isVxlan with
  | false => exact ⟨0, rfl⟩
  | true =>
    cases link.group with
    | none => exact ⟨0, rfl⟩
    | some group =>
      cases hg : group.isInet with
      | false =>
        refine ⟨0, ?_⟩
        cases hl : link.localAddr <;> simp [createTakes, hg, hl, TenantOp.apply]
      | true => simpa [hg] using createEndpointRemote_tenantView k s link group tunnelId

theorem netReachableNotification_tenantView (params : NetParams) (tunnelId : Nat) :
    ∃ nh, (netReachableNotification k s params).tenantView =
      TenantOp.apply s.tenantView s.portIdCnt tunnelId nh
        ((notificationTakes k s params).map (RefOp.tenantOp 0)) := by
  unfold netReachableNotification notificationTakes
  cases k.vxlanLink params.ifindex with
  | none => exact ⟨0, rfl⟩
  | some link =>
    cases hl : link.isVxlan with
    | false => exact ⟨0, by simp [hl, TenantOp.apply]⟩
    | true => simpa [hl] using createEndpointRemote_tenantView k s link params.addr tunnelId

/-- For a further VNI the port is added to the tenant; for a MAC it is not. -/
theorem addL2NeighRemote_tenantView (mac : Mac) (loc remote : Addr) (accessPorts tunnelId : Nat) :
    ∃ nh, (addL2NeighRemote k s link mac loc remote accessPorts).2.tenantView =
      TenantOp.apply s.tenantView s.portIdCnt tunnelId nh
        ((addTakes k s link mac loc remote).map (RefOp.tenantOp mac)) := by
  have hends : s.tenantView.endpoints = s.endpoints := rfl
  have htunnels : s.tenantView.tunnels = s.vni2tunnel := rfl
  rcases addL2NeighRemote_cases k s link mac loc remote accessPorts with
    ⟨hop, hr⟩ | ⟨h0, hop, n, hr⟩ | ⟨t, x, hv, hx, hop, ⟨h0, n, hr⟩ | ⟨h0, hr⟩⟩
  · exact ⟨0, by rw [hop, hr]; rfl⟩
  · rw [hop, hr, h0, tenantView_portIdCnt]
    exact createEndpointRemote_tenantView k s link remote tunnelId
  · refine ⟨0, ?_⟩
    rw [hop, hr, tenantView_portIdCnt]
    simp only [Option.map_some, RefOp.tenantOp, h0, if_true, TenantOp.apply, htunnels, hv,
      TenantView.join, hends, hx]
    have href := tenantView_call_endpoints s (.tunnelPortTenantAdd x.lportId t)
      (s.endpoints.ref (link.endpointPort loc remote) link.vni)
    split
    · exact (tenantView_call_of_eq _ fun _ => rfl).trans href
    · exact href
  · refine ⟨0, ?_⟩
    rw [hop, hr, tenantView_call_endpoints]
    simp only [Option.map_some, RefOp.tenantOp, h0, if_false, TenantOp.apply, htunnels, hv, hends,
      hx, TenantView.learn]

theorem addL2Neigh_tenantView (mac : Mac) (dst : Option Addr) (accessPorts tunnelId : Nat) :
    ∃ nh, (addL2Neigh k s link mac dst accessPorts).2.tenantView =
      TenantOp.apply s.tenantView s.portIdCnt tunnelId nh
        ((addNeighTakes k s link mac dst).map (RefOp.tenantOp mac)) := by
  unfold addL2Neigh addNeighTakes
  by_cases hm : mac = link.mac
  · simp only [hm, if_true]
    exact ⟨0, rfl⟩
  simp only [hm, if_false]
  cases link.localAddr with
  | none => exact ⟨0, rfl⟩
  | some loc =>
    cases dst with
    | none => exact ⟨0, rfl⟩
    | some remote => exact addL2NeighRemote_tenantView k s link mac loc remote accessPorts tunnelId

/-! ### Releases -/

theorem releaseEndpoint_tenantView (ep : EndpointPort) (vni t : Nat) (x : EndpointTunnelPort) :
    (s.releaseEndpoint ep vni t x).2.tenantView = s.tenantView.release ep vni t x := by
  have hunref : tenantView { s with endpoints := s.endpoints.unref ep vni x } =
      { s.tenantView with endpoints := s.tenantView.endpoints.unref ep vni x } := rfl
  unfold releaseEndpoint TenantView.release TenantView.leave
  generalize s.endpoints.unref ep vni x = e at hunref ⊢
  rw [← hunref]
  by_cases hv : pred32 (x.vniCount vni) = 0 <;> by_cases hr : x.refcnt - 1 = 0 <;>
    simp only [hv, hr, if_true, if_false, deleteNextHop_tenantView, tenantView_call]

/-- The release of an endpoint that is there. -/
theorem applyRelease_release {t : Nat} {x : EndpointTunnelPort} {ep : EndpointPort} {vni : Nat}
    (ht : s.vni2tunnel.lookup vni = some t) (hx : s.endpoints.endpointId.find ep = some x) :
    RefOp.applyRelease s.tenantView (some (.release ep vni)) = s.tenantView.release ep vni t x := by
  have hends : s.tenantView.endpoints = s.endpoints := rfl
  have htunnels : s.tenantView.tunnels = s.vni2tunnel := rfl
  simp only [RefOp.applyRelease, hends, hx, htunnels, ht]

theorem deleteEndpointRemote_tenantView (loc remote : Addr) :
    (s.deleteEndpointRemote link loc remote).2.tenantView =
      RefOp.applyRelease s.tenantView (s.deleteReleases link loc remote) := by
  rcases deleteEndpointRemote_cases s link loc remote with ⟨hr, hop⟩ | ⟨t, x, hv, hx, hop, hr⟩
  · rw [hr, hop]
    rfl
  · rw [hr, hop, releaseEndpoint_tenantView, tenantView_call_of_eq s fun _ => rfl,
      applyRelease_release s hv hx]

theorem deleteL2NeighEndpoint_tenantView (loc remote : Addr) (mac : Mac) :
    (s.deleteL2NeighEndpoint link loc remote mac).2.tenantView =
      RefOp.applyRelease s.tenantView (if s.vni2tunnel.lookup link.vni = some 0 then none
        else s.deleteReleases link loc remote) := by
  rcases deleteL2NeighEndpoint_cases s link loc remote mac with
    ⟨hr | ⟨t, hr⟩, hop⟩ | ⟨t, x, hv, hx, hop, hr⟩
  · rw [hr, hop]
    rfl
  · rw [hr, hop]
    exact tenantView_call_of_eq s fun _ => rfl
  · rw [hr, hop, releaseEndpoint_tenantView, tenantView_call_of_eq s fun _ => rfl,
      applyRelease_release s hv hx]

theorem deleteL2Neigh_tenantView (mac : Mac) (dst : Option Addr) {r : Int × Vxlan}
    (h : s.deleteL2Neigh link mac dst = some r) :
    r.2.tenantView = RefOp.applyRelease s.tenantView (s.deleteNeighReleases link mac dst) := by
  rcases deleteL2Neigh_cases s link h with ⟨hr, hop⟩ | ⟨loc, remote, hr, hop⟩ | ⟨loc, remote, hr, hop⟩
  · rw [hr, hop]
    rfl
  · rw [hr, hop]
    exact deleteEndpointRemote_tenantView s link loc remote
  · rw [hr, hop]
    exact deleteL2NeighEndpoint_tenantView s link loc remote mac

theorem deleteReleases_ne_take (loc remote : Addr) (ep : EndpointPort) (vni : Nat) :
    s.deleteReleases link loc remote ≠ some (.take ep vni) := by
  unfold deleteReleases
  simp only
  split <;> simp

theorem deleteNeighReleases_ne_take (mac : Mac) (dst : Option Addr) (ep : EndpointPort) (vni : Nat) :
    s.deleteNeighReleases link mac dst ≠ some (.take ep vni) := by
  unfold deleteNeighReleases
  repeat' split
  all_goals first | exact deleteReleases_ne_take s link _ _ ep vni | simp

/-- The operation of an event that only releases. -/
theorem apply_tenantOp_of_ne {o : Option RefOp} (h : ∀ ep vni, o ≠ some (.take ep vni))
    (v : TenantView) (lport tunnelId nh : Nat) :
    TenantOp.apply v lport tunnelId nh (o.map (RefOp.tenantOp 0)) = RefOp.applyRelease v o := by
  cases o with
  | none => rfl
  | some op =>
    cases op with
    | take ep vni => exact absurd rfl (h ep vni)
    | release ep vni => rfl

/-! ### Links -/

theorem createVni_tenantView (lport nh : Nat) : (s.createVni link).2.tenantView =
    TenantOp.apply s.tenantView lport s.tunnelIdCnt nh (s.tenantOp (.linkCreated link)) := by
  simp only [createVni, tenantOp]
  cases hl : link.isVxlan with
  | false => simp [TenantOp.apply]
  | true =>
    cases hv : s.vni2tunnel.lookup link.vni with
    | some t =>
      have hmem : link.vni ∈ s.vni2tunnel := Table.mem_iff_lookup.mpr ⟨_, hv⟩
      simp [hmem, TenantOp.apply]
    | none =>
      have hmem : link.vni ∉ s.vni2tunnel := Table.not_mem_iff_lookup.mpr hv
      have htunnel : ((s.call (.tunnelTenantCreate s.tunnelIdCnt link.vni)).call
          (.overlayTunnelAdd s.tunnelIdCnt)).tenantView = s.tenantView :=
        (tenantView_call_of_eq _ fun _ => rfl).trans (tenantView_call_of_eq s fun _ => rfl)
      simp only [hmem, not_false_iff, and_self, if_true, TenantOp.apply, Bool.not_true,
        Bool.false_eq_true, if_false]
      exact congrArg (fun v : TenantView => v.openVni link.vni s.tunnelIdCnt) htunnel

theorem removeVni_tenantView {t : Nat} (ht : s.vni2tunnel.lookup link.vni = some t) :
    (s.removeVni link).2.tenantView = s.tenantView.closeVni link.vni t := by
  unfold removeVni
  rw [ht]
  have htenant : ((s.call (.overlayTunnelRemove t)).call (.tunnelTenantDelete t)).tenantView =
      s.tenantView.after (.tunnelTenantDelete t) := by
    rw [tenantView_call, tenantView_call_of_eq s fun _ => rfl]
  exact congrArg (fun v : TenantView => { v with tunnels := s.vni2tunnel.erase link.vni }) htenant

theorem deleteEndpoint_tenantView : (s.deleteEndpoint link).2.tenantView =
    RefOp.applyRelease s.tenantView (s.deleteLinkReleases link) := by
  unfold deleteEndpoint deleteLinkReleases
  cases link.localAddr with
  | none => rfl
  | some loc =>
    cases link.group with
    | none => rfl
    | some remote => exact deleteEndpointRemote_tenantView s link loc remote

theorem applyRelease_tunnels (v : TenantView) (o : Option RefOp) :
    (RefOp.applyRelease v o).tunnels = v.tunnels := by
  unfold RefOp.applyRelease
  split
  · split
    · exact (TenantView.release_frame v _ _ _ _).2.1
    · rfl
  · rfl

theorem linkDeleted_tenantView (lport tunnelId nh : Nat) : (s.linkDeleted link).tenantView =
    TenantOp.apply s.tenantView lport tunnelId nh (s.tenantOp (.linkDeleted link)) := by
  have hview := deleteEndpoint_tenantView s link
  have htunnels : (s.deleteEndpoint link).2.vni2tunnel = s.vni2tunnel :=
    (congrArg TenantView.tunnels hview).trans (applyRelease_tunnels _ _)
  simp only [linkDeleted, tenantOp]
  cases hv : s.vni2tunnel.lookup link.vni with
  | none =>
    -- Without a tunnel nothing is released.
    have hmem : link.vni ∉ s.vni2tunnel := Table.not_mem_iff_lookup.mpr hv
    have hnone : s.deleteLinkReleases link = none := by
      unfold deleteLinkReleases deleteReleases
      split <;> simp [hmem]
    have hremove : ((s.deleteEndpoint link).2.removeVni link).2 = (s.deleteEndpoint link).2 := by
      unfold removeVni
      rw [htunnels, hv]
    rw [hremove, hview, hnone, if_neg hmem]
    rfl
  | some t =>
    have hmem : link.vni ∈ s.vni2tunnel := Table.mem_iff_lookup.mpr ⟨_, hv⟩
    have hlookup : s.tenantView.tunnels.lookup link.vni = some t := hv
    rw [removeVni_tenantView _ _ (by rw [htunnels, hv]), hview, if_pos hmem]
    simp only [TenantOp.apply, hlookup]

/-- What an event does to the tenants. -/
theorem exec_tenantView (e : Ev) {s' : Vxlan} (h : s.exec e = some s') :
    ∃ nh, s'.tenantView =
      TenantOp.apply s.tenantView s.portIdCnt s.tunnelIdCnt nh (s.tenantOp e) := by
  cases e with
  | linkCreated link => cases h; exact ⟨0, createVni_tenantView s link _ 0⟩
  | enslaved k link => cases h; exact createEndpoint_tenantView k s link _
  | netReachable k params => cases h; exact netReachableNotification_tenantView k s params _
  | addL2Neigh k link mac dst accessPorts =>
    cases h
    exact addL2Neigh_tenantView k s link mac dst accessPorts _
  | deleteL2Neigh link mac dst =>
    obtain ⟨r, hr, rfl⟩ := Option.map_eq_some_iff.mp h
    refine ⟨0, (deleteL2Neigh_tenantView s link mac dst hr).trans ?_⟩
    exact (apply_tenantOp_of_ne (deleteNeighReleases_ne_take s link mac dst) _ _ _ 0).symm
  | linkDeleted link => cases h; exact ⟨0, linkDeleted_tenantView s link _ _ 0⟩

end View

/-! ## Runs -/

section Step

variable {k : Kernel} {s : Vxlan} {link : VxlanLink} {op : RefOp}

theorem eq_of_createTakes {remote : Addr} (h : createTakes k s link remote = some op) :
    ∃ ep vni, op = .take ep vni ∧ vni ∈ s.vni2tunnel := by
  unfold createTakes at h
  cases hl : link.localAddr with
  | none => rw [hl] at h; cases h
  | some loc =>
    rw [hl] at h
    simp only at h
    split at h
    · next hc =>
      cases h
      exact ⟨_, _, rfl, hc.2.2.2⟩
    · cases h

theorem eq_of_addTakes {mac : Mac} {loc remote : Addr}
    (h : addTakes k s link mac loc remote = some op) :
    ∃ ep vni, op = .take ep vni ∧ vni ∈ s.vni2tunnel ∧
      (mac ≠ 0 → (s.endpoints.endpointId.find ep).isSome) := by
  unfold addTakes at h
  split at h
  · cases h
  · cases hv : s.vni2tunnel.lookup link.vni with
    | none => rw [hv] at h; cases h
    | some t =>
      have hmem : link.vni ∈ s.vni2tunnel := Table.mem_iff_lookup.mpr ⟨_, hv⟩
      rw [hv] at h
      simp only at h
      split at h
      · next h0 =>
        split at h
        · obtain ⟨ep, vni, hop, hmem⟩ := eq_of_createTakes h
          exact ⟨ep, vni, hop, hmem, fun hne => absurd h0 hne⟩
        · cases h
          exact ⟨_, _, rfl, hmem, fun hne => absurd h0 hne⟩
      · split at h
        · cases h
        · next hz =>
          cases h
          refine ⟨_, _, rfl, hmem, fun _ => ?_⟩
          rw [Option.isSome_iff_ne_none]
          intro hnone
          exact hz (.inl (by rw [hnone]; rfl))

theorem eq_of_deleteReleases {loc remote : Addr} (h : s.deleteReleases link loc remote = some op) :
    ∃ ep, op = .release ep link.vni ∧ link.vni ∈ s.vni2tunnel ∧
      (s.endpoints.endpointId.find ep).isSome := by
  unfold deleteReleases at h
  simp only at h
  split at h
  · next hc =>
    cases h
    exact ⟨_, rfl, hc⟩
  · cases h

theorem valid_of_createTakes {remote : Addr} (h : createTakes k s link remote = some op) :
    (op.tenantOp 0).Valid s.tenantView := by
  obtain ⟨ep, vni, rfl, hmem⟩ := eq_of_createTakes h
  exact hmem

/-- The operation of an event is valid. -/
theorem tenantOp_valid {e : Ev} {op : TenantOp} (h : s.tenantOp e = some op) :
    op.Valid s.tenantView := by
  cases e with
  | linkCreated link =>
    simp only [tenantOp] at h
    split at h
    · next hc =>
      cases h
      exact hc.2
    · cases h
  | enslaved k link =>
    obtain ⟨o, ho, rfl⟩ := Option.map_eq_some_iff.mp h
    unfold enslavedTakes at ho
    split at ho
    · obtain ⟨group, -, ho⟩ := Option.bind_eq_some_iff.mp ho
      exact valid_of_createTakes ho
    · cases ho
  | netReachable k params =>
    obtain ⟨o, ho, rfl⟩ := Option.map_eq_some_iff.mp h
    obtain ⟨link, -, ho⟩ := Option.bind_eq_some_iff.mp ho
    split at ho
    · exact valid_of_createTakes ho
    · cases ho
  | addL2Neigh k link mac dst accessPorts =>
    obtain ⟨o, ho, rfl⟩ := Option.map_eq_some_iff.mp h
    unfold addNeighTakes at ho
    split at ho
    · cases ho
    · split at ho
      · obtain ⟨ep, vni, rfl, hmem, hfind⟩ := eq_of_addTakes ho
        simp only [RefOp.tenantOp]
        split
        · exact hmem
        · next h0 => exact ⟨hmem, hfind h0⟩
      · cases ho
  | deleteL2Neigh link mac dst =>
    obtain ⟨o, ho, rfl⟩ := Option.map_eq_some_iff.mp h
    have hrelease : ∃ loc remote, s.deleteReleases link loc remote = some o := by
      unfold deleteNeighReleases at ho
      repeat' split at ho
      all_goals first | exact ⟨_, _, ho⟩ | cases ho
    obtain ⟨loc, remote, hrelease⟩ := hrelease
    obtain ⟨ep, rfl, hvalid⟩ := eq_of_deleteReleases hrelease
    exact hvalid
  | linkDeleted link =>
    simp only [tenantOp] at h
    split at h
    · next hmem =>
      cases h
      refine ⟨hmem, fun o ho => ?_⟩
      unfold deleteLinkReleases at ho
      split at ho
      · obtain ⟨ep, hop, -⟩ := eq_of_deleteReleases ho
        exact ⟨ep, hop⟩
      · cases ho
    · cases h

/-- The ports in the tenants are those that the VNIs count, and no MAC was installed on a port
outside of its tenant. -/
structure ExactTenants (s : Vxlan) : Prop where
  members : ∀ ep x vni t, (ep, x) ∈ s.endpoints.endpointId → s.vni2tunnel.lookup vni = some t →
    ((x.lportId, t) ∈ s.tenantView.members ↔ 0 < x.vniCount vni)
  addrs : s.tenantView.addrsOk = true

theorem exactTenants_iff (h : s.tenantView.Inv) : s.ExactTenants ↔ s.tenantView.Exact := by
  have hfind := fun ep x => MultiMap.mem_iff_find (k := ep) (v := x) h.endpoints.nodup
  constructor
  · exact fun he => ⟨he.addrs, fun vni ep x t hx => he.members ep x vni t ((hfind ep x).mpr hx)⟩
  · exact fun he => ⟨fun ep x vni t hx => he.members vni ep x t ((hfind ep x).mp hx), he.addrs⟩

end Step

/-- A run that has not ended, with its ports and tenants in order. -/
def TenantsInv : Option Vxlan → Prop
  | none => True
  | some s => s.tenantView.Inv

/-- The tenants are exact, while the process runs. -/
def TenantsExact : Option Vxlan → Prop
  | none => True
  | some s => s.ExactTenants

/-- The event hands out no id that is in use. The counters wrap around. -/
def FreshIds : Option Vxlan → Ev → Prop
  | none, _ => True
  | some s, e =>
    ∀ op, s.tenantOp e = some op → op.Fresh s.tenantView s.portIdCnt s.tunnelIdCnt

/-- The events that keep the tenants exact. -/
def KeepsTenants : Option Vxlan → Ev → Prop
  | none, _ => True
  | some s, e => ∀ op, s.tenantOp e = some op → op.Keeps s.tenantView

theorem tenantsInv_init : TenantsInv (some {}) where
  endpoints := ⟨List.nodup_nil, fun _ _ h => by cases h⟩
  lports _ _ _ h := by cases h
  tunnels _ _ _ h := by cases h
  ports _ h := by cases h
  tenants _ h := by cases h

theorem step_tenantsExact (o : Option Vxlan) (e : Ev) (h : TenantsInv o) (he : TenantsExact o)
    (hfresh : FreshIds o e) :
    TenantsInv (step o e) ∧ (TenantsExact (step o e) ↔ KeepsTenants o e) := by
  cases o with
  | none => exact ⟨trivial, Iff.rfl⟩
  | some s =>
    have hev : s.tenantView.Exact := (exactTenants_iff h).mp he
    cases hx : s.exec e with
    | none =>
      -- `LOG(FATAL)` ends the process before anything is done.
      have hop : s.tenantOp e = none := by
        cases e with
        | deleteL2Neigh link mac dst =>
          have hnone : s.deleteL2Neigh link mac dst = none := Option.map_eq_none_iff.mp hx
          have hport : link.port = none := by
            cases hp : link.port with
            | none => rfl
            | some port =>
              simp only [deleteL2Neigh, hp] at hnone
              repeat' split at hnone
              all_goals cases hnone
          simp [tenantOp, deleteNeighReleases, hport]
        | _ => cases hx
      simp [step, hx, TenantsInv, TenantsExact, KeepsTenants, hop]
    | some s' =>
      obtain ⟨nh, hview⟩ := exec_tenantView s e hx
      simp only [step, hx]
      cases hop : s.tenantOp e with
      | none =>
        rw [hop, TenantOp.apply] at hview
        have hinv : s'.tenantView.Inv := hview ▸ h
        refine ⟨hinv, iff_of_true ((exactTenants_iff hinv).mpr (hview ▸ hev)) fun op ho => ?_⟩
        rw [hop] at ho
        cases ho
      | some op =>
        obtain ⟨hinv, hiff⟩ := TenantOp.apply_exact h hev s.portIdCnt s.tunnelIdCnt nh op
          (tenantOp_valid hop) (hfresh op hop)
        rw [← hop, ← hview] at hinv hiff
        refine ⟨hinv, (exactTenants_iff hinv).trans (hiff.trans ⟨fun hk op' ho => ?_, fun hk => hk op hop⟩)⟩
        rw [hop] at ho
        cases ho
        exact hk

/-- **Endpoints in tenants.** As long as no id comes back, the port of every endpoint is in the
tenants of exactly the VNIs that count a reference, and MACs are installed only on ports in their
tenants, in every state of a run, exactly if every event of the run keeps it so. -/
theorem tenantsExact_iff_along (es : List Ev) (hfresh : Along step FreshIds (some {}) es) :
    (∀ n, TenantsExact (run step (some {}) (es.take n))) ↔
      Along step KeepsTenants (some {}) es := by
  refine along_iff_of_inv_under (I := TenantsInv) tenantsInv_init ?_ ?_ ?_ hfresh
  · exact (exactTenants_iff tenantsInv_init).mpr ⟨rfl, fun _ _ _ _ h => by cases h⟩
  · exact fun o e h he hf => (step_tenantsExact o e h he hf).1
  · exact fun o e h he hf => (step_tenantsExact o e h he hf).2

theorem tenantsExact_iff_along_enslaved :
    (∀ n, TenantsExact (run step (some {}) ([.linkCreated (tunnelLink 1),
      .enslaved reachableKernel (tunnelLink 1)].take n))) ↔
    Along step KeepsTenants (some {}) [.linkCreated (tunnelLink 1),
      .enslaved reachableKernel (tunnelLink 1)] := by
  refine tenantsExact_iff_along _ ⟨fun op hop => ?_, fun op hop => ?_, trivial⟩
  · cases hop
    exact fun vni h => by cases h
  · cases hop
    exact fun _ q h => by cases h

/-- A MAC is learned on VNI 2 before the remote is: the endpoint is that of VNI 1, whose port is
not in the tenant of VNI 2. -/
theorem learnedFirst_not_exact : ¬ TenantsExact (run step (some {}) [.linkCreated (tunnelLink 1),
    .enslaved reachableKernel (tunnelLink 1), .linkCreated (tunnelLink 2),
    .addL2Neigh reachableKernel (tunnelLink 2) 7 (some (.inet 0x0a000002)) 0]) := by
  intro h
  have haddrs := h.addrs
  revert haddrs
  decide

end Vxlan

end Basebox
