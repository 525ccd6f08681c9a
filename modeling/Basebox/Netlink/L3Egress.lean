import Basebox.Lib.IdPool
import Basebox.Lib.Run
import Basebox.OfDpa.Switch

/-!
# Egress and ECMP groups of the router (`src/netlink/nl_l3.cc`, `src/of-dpa/controller.cc`)

`nl_l3` keeps an L3 unicast group for every (port, VLAN, source MAC, destination MAC) in use and
an ECMP group for every set of next hops, each with a reference count. The ids of the groups come
from the controller: a counter and a set of freed ids for each kind. What the controller does to
its state does not depend on whether the message to the switch could be sent; the result of the
send is the argument `send`.

* `addL3Egress`, `delL3Egress`, `updateL3Egress`, `updateL3NeighLl`, `addL3EcmpGroup`,
  `delL3EcmpGroup`: the operations. Reference counts (`int`) are taken as unbounded.
* `live_run`: as long as no counter has wrapped around, no id of a group in use is handed out
  again, over every run and whether or not the sends succeed.
-/

namespace Basebox

/-- The key of `l3_interface_mapping`. -/
structure EgressKey where
  portId : Nat
  vid : Nat
  srcMac : Mac
  dstMac : Mac
  deriving DecidableEq

/-! ## The controller -/

/-- `l3_egress_create`, `l3_ecmp_add`: the result, the id and the pool. -/
def IdPool.create (p : IdPool) (send : Int) : Int × Nat × IdPool := (send, p.take (2 ^ 32))

/-- `l3_egress_remove`. -/
def IdPool.l3EgressRemove (p : IdPool) (id : Nat) (send : Int) : Int × IdPool := (send, p.give id)

/-- `l3_ecmp_remove`: an id out of range is not given back. -/
def IdPool.l3EcmpRemove (p : IdPool) (id : Nat) (send : Int) : Int × IdPool :=
  if id > 0x0fffffff then (-EINVAL, p) else (send, p.give id)

/-- The group tables of `nl_l3`, and the pools of the controller. -/
structure L3Groups (Nh : Type) where
  l3InterfaceMapping : Table EgressKey Counted := ∅
  nhGrpToL3EcmpMapping : Table (Finset Nh) Counted := ∅
  /-- `egress_interface_id` and `freed_egress_interfaces_ids`. -/
  egress : IdPool := {}
  /-- `ecmp_interface_id` and `freed_ecmp_interfaces_ids`. -/
  ecmp : IdPool := {}

namespace L3Groups

variable {Nh : Type} [DecidableEq Nh]

/-- `add_l3_egress`: the result, and the id if one was written. -/
def addL3Egress (s : L3Groups Nh) (k : EgressKey) (send : Int) : Int × Option Nat × L3Groups Nh :=
  if k.portId = 0 then (-EINVAL, none, s)
  else
    match s.l3InterfaceMapping.lookup k with
    | none =>
      let (rv, id, egress) := s.egress.create send
      let s := { s with egress := egress }
      if rv < 0 then (rv, some id, s)
      else (rv, some id,
        { s with l3InterfaceMapping := s.l3InterfaceMapping.insert k { id := id } })
    | some x =>
      (0, some x.id, { s with
        l3InterfaceMapping := s.l3InterfaceMapping.insert k { x with refcnt := x.refcnt + 1 } })

/-- `del_l3_egress`. An entry that was there gives `-EEXIST`, also when it is removed. -/
def delL3Egress (s : L3Groups Nh) (k : EgressKey) (send : Int) : Int × L3Groups Nh :=
  if k.portId = 0 then (-EINVAL, s)
  else
    match s.l3InterfaceMapping.lookup k with
    | none => (-ENODATA, s)
    | some x =>
      if x.refcnt - 1 = 0 then
        let (rv, egress) := s.egress.l3EgressRemove x.id send
        let s := { s with l3InterfaceMapping := s.l3InterfaceMapping.erase k, egress := egress }
        (if rv < 0 then rv else -EEXIST, s)
      else
        (-EEXIST, { s with
          l3InterfaceMapping := s.l3InterfaceMapping.insert k { x with refcnt := x.refcnt - 1 } })

/-- An entry of `l3_interface_mapping`. -/
abbrev Entry := Sigma fun _ : EgressKey => Counted

/-- The body of the second loop of `update_l3_egress`. -/
def moveEntry (portId vid : Nat) (nMac : Mac) (t : Table EgressKey Counted) (it : Entry) :
    Table EgressKey Counted :=
  Table.emplace (t.erase it.1)
    { portId := portId, vid := vid, srcMac := nMac, dstMac := it.1.dstMac } it.2

/-- `update_l3_egress`: the entries of a VLAN with the old MAC get the new one, and the port that
was passed. `order` is the order of the unordered map `update_l3`, `send` the result of
`l3_egress_update` for each entry. -/
def updateL3Egress (s : L3Groups Nh) (order : Table.VisitOrder Entry) (portId vid : Nat)
    (oMac nMac : Mac) (send : EgressKey → Int) : Int × L3Groups Nh :=
  let updateL3 := s.l3InterfaceMapping.entries.filter
    fun it => it.1.vid == vid && it.1.srcMac == oMac
  if updateL3.isEmpty then (0, s)
  else
    let its := order.1 updateL3
    ((its.getLast?.map fun it => send it.1).getD 0,
      { s with l3InterfaceMapping := its.foldl (moveEntry portId vid nMac) s.l3InterfaceMapping })

/-- `update_l3_neigh` for a neighbour with an old and a new link-layer address, which it goes on
with if they differ. `unroutable`: it is in `unroutable_l3_neighs`; `linkFound`: its link is known;
`portId`, `vid`, `sMac`: from the link, or from the FDB entry of a bridge. The value of the old
entry is read after it is erased; it is taken as before. -/
def updateL3NeighLl (s : L3Groups Nh) (unroutable linkFound : Bool) (portId vid : Nat)
    (sMac nLlOld nLlNew : Mac) (send : Int) : Int × L3Groups Nh :=
  if nLlOld = nLlNew then (0, s)
  else if unroutable || !linkFound then (-EINVAL, s)
  else
    let l3IfOld : EgressKey := { portId := portId, vid := vid, srcMac := sMac, dstMac := nLlOld }
    let l3IfNew : EgressKey := { portId := portId, vid := vid, srcMac := sMac, dstMac := nLlNew }
    match s.l3InterfaceMapping.lookup l3IfOld with
    | none => (-EINVAL, s)
    | some x =>
      if send < 0 then (-EINVAL, s)
      else if l3IfNew ∈ s.l3InterfaceMapping then (-EINVAL, s)
      else (send, { s with
        l3InterfaceMapping := Table.emplace (s.l3InterfaceMapping.erase l3IfOld) l3IfNew x })

/-- `add_l3_ecmp_group`: the result of `l3_ecmp_add` is not looked at. -/
def addL3EcmpGroup (s : L3Groups Nh) (nhs : Finset Nh) (send : Int) : Int × Nat × L3Groups Nh :=
  match s.nhGrpToL3EcmpMapping.lookup nhs with
  | some x =>
    (0, x.id, { s with
      nhGrpToL3EcmpMapping := s.nhGrpToL3EcmpMapping.insert nhs { x with refcnt := x.refcnt + 1 } })
  | none =>
    let (_, id, ecmp) := s.ecmp.create send
    (0, id, { s with
      ecmp := ecmp, nhGrpToL3EcmpMapping := s.nhGrpToL3EcmpMapping.insert nhs { id := id } })

/-- `del_l3_ecmp_group`. -/
def delL3EcmpGroup (s : L3Groups Nh) (nhs : Finset Nh) (send : Int) : Int × L3Groups Nh :=
  match s.nhGrpToL3EcmpMapping.lookup nhs with
  | none => (-EINVAL, s)
  | some x =>
    if x.refcnt - 1 ≤ 0 then
      let (rv, ecmp) := s.ecmp.l3EcmpRemove x.id send
      (rv, { s with nhGrpToL3EcmpMapping := s.nhGrpToL3EcmpMapping.erase nhs, ecmp := ecmp })
    else
      (0, { s with
        nhGrpToL3EcmpMapping :=
          s.nhGrpToL3EcmpMapping.insert nhs { x with refcnt := x.refcnt - 1 } })

/-! ## Runs -/

/-- The calls for egress groups, with the results of the switch. -/
inductive Ev (Nh : Type) where
  | addL3Egress (k : EgressKey) (send : Int)
  | delL3Egress (k : EgressKey) (send : Int)
  | updateL3Egress (order : Table.VisitOrder Entry) (portId vid : Nat) (oMac nMac : Mac)
      (send : EgressKey → Int)
  | updateL3Neigh (unroutable linkFound : Bool) (portId vid : Nat) (sMac nLlOld nLlNew : Mac)
      (send : Int)
  | addL3EcmpGroup (nhs : Finset Nh) (send : Int)
  | delL3EcmpGroup (nhs : Finset Nh) (send : Int)

/-- The groups after a call. -/
def step (s : L3Groups Nh) : Ev Nh → L3Groups Nh
  | .addL3Egress k send => (s.addL3Egress k send).2.2
  | .delL3Egress k send => (s.delL3Egress k send).2
  | .updateL3Egress order portId vid oMac nMac send =>
    (s.updateL3Egress order portId vid oMac nMac send).2
  | .updateL3Neigh unroutable linkFound portId vid sMac nLlOld nLlNew send =>
    (s.updateL3NeighLl unroutable linkFound portId vid sMac nLlOld nLlNew send).2
  | .addL3EcmpGroup nhs send => (s.addL3EcmpGroup nhs send).2.2
  | .delL3EcmpGroup nhs send => (s.delL3EcmpGroup nhs send).2

/-- No counter has wrapped around: each starts at 1 and would be 0 then. -/
def NotWrapped (s : L3Groups Nh) : Prop := s.egress.next ≠ 0 ∧ s.ecmp.next ≠ 0

/-- The groups in use have ids of their own, of each kind. -/
structure Inv (s : L3Groups Nh) : Prop where
  egress : Live (2 ^ 32) s.l3InterfaceMapping s.egress
  ecmp : Live (2 ^ 32) s.nhGrpToL3EcmpMapping s.ecmp

theorem inv_init : Inv ({} : L3Groups Nh) where
  egress := .init (by decide)
  ecmp := .init (by decide)

section Step

variable {s : L3Groups Nh}

theorem Inv.addL3Egress (h : Inv s) (k : EgressKey) (send : Int)
    (hw : NotWrapped (s.addL3Egress k send).2.2) : Inv (s.addL3Egress k send).2.2 := by
  unfold L3Groups.addL3Egress at hw ⊢
  by_cases hp : k.portId = 0
  · simp only [hp, if_true]
    exact h
  · simp only [hp, if_false] at hw ⊢
    cases hl : s.l3InterfaceMapping.lookup k with
    | none =>
      simp only [hl, IdPool.create] at hw ⊢
      by_cases hneg : send < 0
      · -- The id is lost: it is neither stored nor given back.
        simp only [hneg, if_true] at hw ⊢
        exact ⟨(h.egress.take hw.1).1, h.ecmp⟩
      · simp only [hneg, if_false] at hw ⊢
        exact ⟨h.egress.take_insert hw.1 k, h.ecmp⟩
    | some x =>
      have hx := h.egress.counted k x hl
      exact ⟨h.egress.recount hl (by omega), h.ecmp⟩

theorem Inv.delL3Egress (h : Inv s) (k : EgressKey) (send : Int) :
    Inv (s.delL3Egress k send).2 := by
  unfold L3Groups.delL3Egress
  by_cases hp : k.portId = 0
  · simp only [hp, if_true]
    exact h
  · simp only [hp, if_false]
    cases hl : s.l3InterfaceMapping.lookup k with
    | none => exact h
    | some x =>
      have hx := h.egress.counted k x hl
      simp only
      by_cases hz : x.refcnt - 1 = 0
      · simp only [hz, if_true]
        exact ⟨h.egress.release hl, h.ecmp⟩
      · simp only [hz, if_false]
        exact ⟨h.egress.recount hl (by omega), h.ecmp⟩

/-- The loop of `update_l3_egress`. Each entry that is still to be moved is where it was: moving
another one erases another key, and stores nothing under a key that is taken. -/
theorem live_moveEntries {p : IdPool} (portId vid : Nat) (nMac : Mac) (its : List Entry)
    {t : Table EgressKey Counted} (h : Live (2 ^ 32) t p)
    (hthere : ∀ it ∈ its, t.lookup it.1 = some it.2) (hkeys : (its.map (·.1)).Nodup) :
    Live (2 ^ 32) (its.foldl (moveEntry portId vid nMac) t) p := by
  induction its generalizing t with
  | nil => exact h
  | cons it its ih =>
    obtain ⟨hnew, hkeys⟩ := List.nodup_cons.mp hkeys
    rw [List.foldl_cons]
    refine ih (h.rekey (hthere it (by simp))) (fun it' hit' => ?_) hkeys
    have hne : it'.1 ≠ it.1 := by
      intro e
      exact hnew (List.mem_map.mpr ⟨it', hit', e⟩)
    have hold : (t.erase it.1).lookup it'.1 = some it'.2 := by
      rw [Table.lookup_erase_ite, if_neg hne]
      exact hthere it' (by simp [hit'])
    rw [moveEntry, Table.lookup_emplace]
    split
    · rename_i he
      rw [← he, hold]
      rfl
    · exact hold

theorem Inv.updateL3Egress (h : Inv s) (order : Table.VisitOrder Entry) (portId vid : Nat)
    (oMac nMac : Mac) (send : EgressKey → Int) :
    Inv (s.updateL3Egress order portId vid oMac nMac send).2 := by
  unfold L3Groups.updateL3Egress
  simp only
  split
  · exact h
  · refine ⟨live_moveEntries portId vid nMac _ h.egress (fun it hit => ?_) ?_, h.ecmp⟩
    · have hmem := (List.mem_filter.mp ((order.2 _).mem_iff.mp hit)).1
      exact AList.mem_lookup_iff.mpr hmem
    · refine ((order.2 _).map _).nodup_iff.mpr ?_
      exact (List.filter_sublist.map _).nodup s.l3InterfaceMapping.nodupKeys

theorem Inv.updateL3NeighLl (h : Inv s) (unroutable linkFound : Bool) (portId vid : Nat)
    (sMac nLlOld nLlNew : Mac) (send : Int) :
    Inv (s.updateL3NeighLl unroutable linkFound portId vid sMac nLlOld nLlNew send).2 := by
  unfold L3Groups.updateL3NeighLl
  split
  · exact h
  split
  · exact h
  simp only
  split
  · exact h
  · rename_i x hl
    split
    · exact h
    split
    · exact h
    · exact ⟨h.egress.rekey hl, h.ecmp⟩

theorem Inv.addL3EcmpGroup (h : Inv s) (nhs : Finset Nh) (send : Int)
    (hw : NotWrapped (s.addL3EcmpGroup nhs send).2.2) : Inv (s.addL3EcmpGroup nhs send).2.2 := by
  unfold L3Groups.addL3EcmpGroup at hw ⊢
  cases hl : s.nhGrpToL3EcmpMapping.lookup nhs with
  | none =>
    simp only [hl, IdPool.create] at hw ⊢
    exact ⟨h.egress, h.ecmp.take_insert hw.2 nhs⟩
  | some x =>
    have hx := h.ecmp.counted nhs x hl
    exact ⟨h.egress, h.ecmp.recount hl (by omega)⟩

theorem Inv.delL3EcmpGroup (h : Inv s) (nhs : Finset Nh) (send : Int) :
    Inv (s.delL3EcmpGroup nhs send).2 := by
  unfold L3Groups.delL3EcmpGroup
  cases hl : s.nhGrpToL3EcmpMapping.lookup nhs with
  | none => exact h
  | some x =>
    simp only
    by_cases hz : x.refcnt - 1 ≤ 0
    · simp only [hz, if_true, IdPool.l3EcmpRemove]
      split
      · exact ⟨h.egress, h.ecmp.erase nhs⟩
      · exact ⟨h.egress, h.ecmp.release hl⟩
    · simp only [hz, if_false]
      exact ⟨h.egress, h.ecmp.recount hl (by omega)⟩

theorem Inv.step (h : Inv s) (e : Ev Nh) (hw : NotWrapped (s.step e)) : Inv (s.step e) := by
  cases e with
  | addL3Egress k send => exact h.addL3Egress k send hw
  | delL3Egress k send => exact h.delL3Egress k send
  | updateL3Egress order portId vid oMac nMac send =>
    exact h.updateL3Egress order portId vid oMac nMac send
  | updateL3Neigh unroutable linkFound portId vid sMac nLlOld nLlNew send =>
    exact h.updateL3NeighLl unroutable linkFound portId vid sMac nLlOld nLlNew send
  | addL3EcmpGroup nhs send => exact h.addL3EcmpGroup nhs send hw
  | delL3EcmpGroup nhs send => exact h.delL3EcmpGroup nhs send

end Step

/-- **No group in use is handed out again.** After every run in which no counter has wrapped
around, whatever the sends return: the ids of the egress groups are distinct, not zero, below the
counter and not among the freed ones, every count is at least one, and the next id to be handed
out is none of them; and so for the ECMP groups. -/
theorem live_run (es : List (Ev Nh))
    (hw : ∀ n, NotWrapped (run step ({} : L3Groups Nh) (es.take n))) :
    let s := run step ({} : L3Groups Nh) es
    (Live (2 ^ 32) s.l3InterfaceMapping s.egress ∧
      ∀ k x, s.l3InterfaceMapping.lookup k = some x → x.id ≠ (s.egress.create 0).2.1) ∧
    Live (2 ^ 32) s.nhGrpToL3EcmpMapping s.ecmp ∧
      ∀ nhs x, s.nhGrpToL3EcmpMapping.lookup nhs = some x → x.id ≠ (s.ecmp.create 0).2.1 := by
  have hinv : Inv (run step ({} : L3Groups Nh) es) :=
    run_inv_of_reached inv_init (fun _ e hi hn => hi.step e hn) hw
  exact ⟨⟨hinv.egress, fun k x hx => hinv.egress.take_fresh hx⟩, hinv.ecmp,
    fun nhs x hx => hinv.ecmp.take_fresh hx⟩

/-- `live_run` on a run with two users of one egress group, a failed send and an ECMP group: the
next egress id is not that of the group in use. -/
theorem live_run_shared_egress :
    let k : EgressKey := { portId := 1, vid := 10, srcMac := 1, dstMac := 2 }
    let k' : EgressKey := { portId := 2, vid := 10, srcMac := 1, dstMac := 3 }
    let es : List (Ev Nat) :=
      [.addL3Egress k 0, .addL3Egress k' (-EINVAL), .addL3Egress k 0, .addL3EcmpGroup {1, 2} 0]
    let s := run step ({} : L3Groups Nat) es
    s.l3InterfaceMapping.lookup k = some { id := 1, refcnt := 2 } ∧
      (s.egress.create 0).2.1 = 3 ∧ Live (2 ^ 32) s.l3InterfaceMapping s.egress := by
  intro k k' es s
  have hw : ∀ n, NotWrapped (run step ({} : L3Groups Nat) (es.take n)) := by
    intro n
    match n with
    | 0 | 1 | 2 | 3 => exact ⟨by decide, by decide⟩
    | n + 4 =>
      rw [List.take_of_length_le (by simp [es])]
      exact ⟨by decide, by decide⟩
  exact ⟨by decide, by decide, (live_run es hw).1.1⟩

end L3Groups

end Basebox
