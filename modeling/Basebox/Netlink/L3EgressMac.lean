import Basebox.Netlink.L3Egress

/-!
# The egress groups after a MAC change (`nl_l3::update_l3_egress`, `src/netlink/nl_l3.cc`)

When the MAC of an interface changes, its egress groups on the switch and their keys in
`l3_interface_mapping` get the new one, so that the deletions of its neighbours, which follow,
find them. The entries are collected by VLAN and old MAC only, since a bridge interface has no port
of its own and its entries are those of the ports in the FDB. The new keys have the port that was
passed all the same.

* `egressUpdates`: the calls to the switch.
* `MovesMac`: every entry of the VLAN and the old MAC is found under the new MAC, with its port and
  its value, the switch is told so, and nothing else changes.
* `movesMac_iff`: this holds exactly if these entries all have the port that was passed.
-/

namespace Basebox

/-- A call of `l3_egress_update`: what the group `id` is to be. -/
structure EgressUpdate where
  key : EgressKey
  id : Nat
  deriving DecidableEq

namespace L3Groups

variable {Nh : Type}

/-- What `update_l3_egress` collects. -/
def updateL3 (s : L3Groups Nh) (vid : Nat) (oMac : Mac) : List Entry :=
  s.l3InterfaceMapping.entries.filter fun it => it.1.vid == vid && it.1.srcMac == oMac

/-- The calls of `update_l3_egress` to the switch, in their order. -/
def egressUpdates (s : L3Groups Nh) (order : Table.VisitOrder Entry) (vid : Nat)
    (oMac nMac : Mac) : List EgressUpdate :=
  (order.1 (s.updateL3 vid oMac)).map fun it => { key := { it.1 with srcMac := nMac }, id := it.2.id }

/-- What `update_l3_egress` is for: `rv` and `s'` are its results, `calls` its calls. -/
structure MovesMac (s : L3Groups Nh) (vid : Nat) (oMac nMac : Mac) (rv : Int) (s' : L3Groups Nh)
    (calls : List EgressUpdate) : Prop where
  success : rv = 0
  /-- Each entry has the new MAC, and is otherwise the same. -/
  moved : ∀ k x, s.l3InterfaceMapping.lookup k = some x → k.vid = vid → k.srcMac = oMac →
    s'.l3InterfaceMapping.lookup { k with srcMac := nMac } = some x
  /-- There are no others under the two MACs. -/
  only : ∀ k x, s'.l3InterfaceMapping.lookup k = some x → k.vid = vid →
    (k.srcMac = oMac → False) ∧
    (k.srcMac = nMac → s.l3InterfaceMapping.lookup { k with srcMac := oMac } = some x)
  frame : ∀ k, ¬ (k.vid = vid ∧ (k.srcMac = oMac ∨ k.srcMac = nMac)) →
    s'.l3InterfaceMapping.lookup k = s.l3InterfaceMapping.lookup k
  rest : s' = { s with l3InterfaceMapping := s'.l3InterfaceMapping }
  /-- The switch is called once for each of them, and for no other. -/
  nodup : calls.Nodup
  called : ∀ k i, { key := k, id := i } ∈ calls ↔ ∃ x, x.id = i ∧ k.srcMac = nMac ∧ k.vid = vid ∧
    s.l3InterfaceMapping.lookup { k with srcMac := oMac } = some x

section Moves

variable {s : L3Groups Nh} {order : Table.VisitOrder Entry} {portId vid : Nat} {oMac nMac : Mac}

theorem mem_updateL3 {it : Entry} : it ∈ s.updateL3 vid oMac ↔
    s.l3InterfaceMapping.lookup it.1 = some it.2 ∧ it.1.vid = vid ∧ it.1.srcMac = oMac := by
  rw [updateL3, List.mem_filter, ← AList.mem_lookup_iff]
  simp

theorem nodup_updateL3 : ((s.updateL3 vid oMac).map (·.1)).Nodup :=
  (List.filter_sublist.map _).nodup s.l3InterfaceMapping.nodupKeys

theorem mem_order {it : Entry} :
    it ∈ order.1 (s.updateL3 vid oMac) ↔ it ∈ s.updateL3 vid oMac := (order.2 _).mem_iff

theorem nodup_order : ((order.1 (s.updateL3 vid oMac)).map (·.1)).Nodup :=
  ((order.2 _).map _).nodup_iff.mpr nodup_updateL3

/-- The key that an entry gets. -/
def newKey (portId vid : Nat) (nMac : Mac) (k : EgressKey) : EgressKey where
  portId := portId
  vid := vid
  srcMac := nMac
  dstMac := k.dstMac

/-- The table after the second loop; without an entry the loop does nothing. -/
theorem updateL3Egress_eq (send : EgressKey → Int) :
    (s.updateL3Egress order portId vid oMac nMac send).2 = { s with
      l3InterfaceMapping := Table.rekey (newKey portId vid nMac) s.l3InterfaceMapping
        (order.1 (s.updateL3 vid oMac)) } := by
  unfold updateL3Egress
  simp only
  split
  · rename_i hnil
    have hnil' : s.updateL3 vid oMac = [] := List.isEmpty_iff.mp hnil
    have hperm := order.2 []
    rw [hnil', List.perm_nil.mp hperm]
    rfl
  · rfl

theorem updateL3Egress_fst :
    (s.updateL3Egress order portId vid oMac nMac fun _ => 0).1 = 0 := by
  unfold updateL3Egress
  simp only
  split
  · rfl
  · cases (order.1 _).getLast? <;> rfl

/-- The calls, whatever port is passed. -/
theorem mem_egressUpdates (u : EgressUpdate) : u ∈ s.egressUpdates order vid oMac nMac ↔
    ∃ x, x.id = u.id ∧ u.key.srcMac = nMac ∧ u.key.vid = vid ∧
      s.l3InterfaceMapping.lookup { u.key with srcMac := oMac } = some x := by
  obtain ⟨⟨p, v, m, d⟩, i⟩ := u
  rw [egressUpdates, List.mem_map]
  constructor
  · rintro ⟨⟨⟨p', v', m', d'⟩, x⟩, hit, he⟩
    obtain ⟨hl, hv, hm⟩ := mem_updateL3.mp (mem_order.mp hit)
    simp only [EgressUpdate.mk.injEq, EgressKey.mk.injEq] at he hv hm hl
    obtain ⟨⟨rfl, rfl, rfl, rfl⟩, rfl⟩ := he
    subst hm
    exact ⟨x, rfl, rfl, hv, hl⟩
  · rintro ⟨x, rfl, rfl, rfl, hl⟩
    exact ⟨⟨⟨p, v, oMac, d⟩, x⟩, mem_order.mpr (mem_updateL3.mpr ⟨hl, rfl, rfl⟩), rfl⟩

theorem nodup_egressUpdates : (s.egressUpdates order vid oMac nMac).Nodup := by
  have hkeys : (order.1 (s.updateL3 vid oMac)).Pairwise fun a b => a.1 ≠ b.1 :=
    List.pairwise_map.mp nodup_order
  rw [egressUpdates, List.Nodup, List.pairwise_map]
  refine hkeys.imp_of_mem fun {a b} ha hb hne he => hne ?_
  have hma := (mem_updateL3.mp (mem_order.mp ha)).2.2
  have hmb := (mem_updateL3.mp (mem_order.mp hb)).2.2
  obtain ⟨⟨p, v, m, d⟩, x⟩ := a
  obtain ⟨⟨p', v', m', d'⟩, x'⟩ := b
  simp only [EgressUpdate.mk.injEq, EgressKey.mk.injEq] at he hma hmb
  simp only [EgressKey.mk.injEq]
  exact ⟨he.1.1, he.1.2.1, hma.trans hmb.symm, he.1.2.2.2⟩

/-- **The update after a MAC change.** With no entry under the new MAC yet, and the switch calls
succeeding: the entries of the VLAN and the old MAC are moved as they are to be exactly if they all
have the port that is passed. -/
theorem movesMac_iff (s : L3Groups Nh) (order : Table.VisitOrder Entry) (portId vid : Nat)
    (oMac nMac : Mac)
    (hnew : ∀ k x, s.l3InterfaceMapping.lookup k = some x → k.vid = vid → k.srcMac ≠ nMac) :
    MovesMac s vid oMac nMac (s.updateL3Egress order portId vid oMac nMac fun _ => 0).1
        (s.updateL3Egress order portId vid oMac nMac fun _ => 0).2
        (s.egressUpdates order vid oMac nMac) ↔
      ∀ k x, s.l3InterfaceMapping.lookup k = some x → k.vid = vid → k.srcMac = oMac →
        k.portId = portId := by
  rw [updateL3Egress_eq, updateL3Egress_fst]
  generalize hits : order.1 (s.updateL3 vid oMac) = its
  have hmem : ∀ it : Entry, it ∈ its ↔ s.l3InterfaceMapping.lookup it.1 = some it.2 ∧
      it.1.vid = vid ∧ it.1.srcMac = oMac := by
    intro it
    rw [← hits, mem_order, mem_updateL3]
  have hkeys : (its.map (·.1)).Nodup := hits ▸ nodup_order
  constructor
  · intro h k x hk hv hm
    -- The moved entry is under a key that the loop made, and these have the port that was passed.
    have hmoved := Table.mem_iff_lookup.mpr ⟨x, h.moved k x hk hv hm⟩
    rcases Table.mem_of_mem_rekey hmoved with hold | ⟨it, -, he⟩
    · obtain ⟨y, hy⟩ := Table.mem_iff_lookup.mp hold
      exact absurd rfl (hnew _ y hy hv)
    · exact congrArg EgressKey.portId he
  · intro hport
    have hkey : ∀ it ∈ its, newKey portId vid nMac it.1 = { it.1 with srcMac := nMac } := by
      intro it hit
      obtain ⟨hl, hv, hm⟩ := (hmem it).mp hit
      simp only [newKey, EgressKey.mk.injEq, and_true]
      exact ⟨(hport _ _ hl hv hm).symm, hv.symm⟩
    have hback : ∀ it ∈ its, { newKey portId vid nMac it.1 with srcMac := oMac } = it.1 := by
      intro it hit
      rw [hkey it hit, ← ((hmem it).mp hit).2.2]
    have hinj : (its.map fun it => newKey portId vid nMac it.1).Nodup := by
      rw [List.Nodup, List.pairwise_map] at hkeys ⊢
      refine hkeys.imp_of_mem fun ha hb hne he => hne ?_
      rw [← hback _ ha, ← hback _ hb, he]
    have hfree : ∀ it ∈ its, newKey portId vid nMac it.1 ∉ s.l3InterfaceMapping := by
      intro it _ hm
      obtain ⟨x, hx⟩ := Table.mem_iff_lookup.mp hm
      exact hnew _ x hx rfl rfl
    have hold : ∀ a ∈ its, ∀ b ∈ its, newKey portId vid nMac a.1 ≠ b.1 := by
      intro a ha b hb he
      refine hfree a ha (Table.mem_iff_lookup.mpr ⟨b.2, ?_⟩)
      rw [he]
      exact ((hmem b).mp hb).1
    refine ⟨rfl, fun k x hk hv hm => ?_, fun k x hk hv => ?_, fun k hk => ?_, rfl,
      nodup_egressUpdates, fun k i => ?_⟩
    · have hit : (⟨k, x⟩ : Entry) ∈ its := (hmem ⟨k, x⟩).mpr ⟨hk, hv, hm⟩
      rw [← hkey _ hit]
      exact (Table.lookup_rekey hinj hfree hold hit).1
    · rcases Table.mem_of_mem_rekey (Table.mem_iff_lookup.mpr ⟨x, hk⟩) with hmap | ⟨it, hit, rfl⟩
      · obtain ⟨y, hy⟩ := Table.mem_iff_lookup.mp hmap
        refine ⟨fun hm => ?_, fun hm => absurd hm (hnew k y hy hv)⟩
        have hgone := (Table.lookup_rekey hinj hfree hold ((hmem ⟨k, y⟩).mpr ⟨hy, hv, hm⟩)).2
        rw [hgone] at hk
        cases hk
      · obtain ⟨hl, hv', hm'⟩ := (hmem it).mp hit
        have hx : it.2 = x :=
          Option.some.inj ((Table.lookup_rekey hinj hfree hold hit).1.symm.trans hk)
        refine ⟨fun hm => ?_, fun _ => ?_⟩
        · exact hnew it.1 it.2 hl hv' (hm'.trans hm.symm)
        · rw [hback it hit, hl, hx]
    · refine Table.lookup_rekey_of_ne fun it hit => ⟨?_, ?_⟩
      · rintro rfl
        exact hk ⟨((hmem it).mp hit).2.1, .inl ((hmem it).mp hit).2.2⟩
      · rintro rfl
        exact hk ⟨rfl, .inr rfl⟩
    · exact mem_egressUpdates _

end Moves

/-- Two groups of port 1 in VLAN 10 with MAC 1, and one of port 2 in VLAN 20 with the same MAC. -/
def threeGroups : L3Groups Nat where
  l3InterfaceMapping :=
    (((∅ : Table EgressKey Counted).insert ⟨1, 10, 1, 2⟩ { id := 1 }).insert
      ⟨1, 10, 1, 4⟩ { id := 2 }).insert ⟨2, 20, 1, 2⟩ { id := 3 }

/-- What holds of its entries. -/
theorem threeGroups_forall {p : EgressKey → Counted → Prop}
    (h : ∀ e ∈ threeGroups.l3InterfaceMapping.entries, p e.1 e.2) (k : EgressKey)
    (x : Counted) (hk : threeGroups.l3InterfaceMapping.lookup k = some x) : p k x :=
  h ⟨k, x⟩ (AList.mem_lookup_iff.mp hk)

theorem threeGroups_new : ∀ k x, threeGroups.l3InterfaceMapping.lookup k = some x → k.vid = 10 →
    k.srcMac ≠ 3 :=
  threeGroups_forall (by decide)

/-- The interface is port 1 itself. -/
theorem movesMac_iff_port :
    MovesMac threeGroups 10 1 3 (threeGroups.updateL3Egress ⟨id, .refl⟩ 1 10 1 3 fun _ => 0).1
      (threeGroups.updateL3Egress ⟨id, .refl⟩ 1 10 1 3 fun _ => 0).2
      (threeGroups.egressUpdates ⟨id, .refl⟩ 10 1 3) :=
  (movesMac_iff threeGroups _ 1 10 1 3 threeGroups_new).mpr (threeGroups_forall (by decide))

/-- The interface is a bridge, for which port 0 is passed: the entries go to port 0, where no
deletion looks for them. -/
theorem bridge_egress_moves_port :
    (∀ k x, threeGroups.l3InterfaceMapping.lookup k = some x → k.vid = 10 → k.srcMac ≠ 3) ∧
    ¬ MovesMac threeGroups 10 1 3 (threeGroups.updateL3Egress ⟨id, .refl⟩ 0 10 1 3 fun _ => 0).1
      (threeGroups.updateL3Egress ⟨id, .refl⟩ 0 10 1 3 fun _ => 0).2
      (threeGroups.egressUpdates ⟨id, .refl⟩ 10 1 3) := by
  refine ⟨threeGroups_new, fun h => ?_⟩
  have hmoved := h.moved ⟨1, 10, 1, 2⟩ { id := 1 } rfl rfl rfl
  revert hmoved
  decide

end L3Groups

end Basebox
