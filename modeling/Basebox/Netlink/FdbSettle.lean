import Basebox.Lib.EchoQueue
import Basebox.Lib.Run
import Basebox.Netlink.Fdb

/-!
# The take-over of addresses from the kernel (`cnetlink.cc`, `nl_bridge.cc`)

The kernel reports each change of its FDB, and basebox answers a report with a change of its own:
`RTM_NEWNEIGH` puts the entry on the port that the report names, with `NTF_EXT_LEARNED`. By then
the kernel may have moved the address. The request then moves it back, and the report of the move,
still in the queue, moves it again.

* `FdbWorld`: the FDB of the kernel, the objects on their way to the handlers and the `Fdb`.
  `kernelSet`: the kernel learns, moves, ages or deletes an address; `handleObj`: the netlink thread
  takes an object and the kernel serves its requests.
* `abs_handleObj`: seen from the addresses, this is the handler of an `EchoQueue`.
* `takeOver_settles_iff`: without further traffic the handling comes to an end exactly if the
  pending reports of each address name one port. Otherwise basebox and the kernel move the address
  to and fro for ever. At the end `l2_cache` has what the kernel has, and nothing else as long as the
  kernel leaves its entries handed over (`LeavesHandedOver`).

The entries of the kernel are on ports of the bridge that are not in a VXLAN domain (`Bridged`);
there are no static ones, and the requests succeed.
-/

namespace Basebox

/-- An object of the neighbour cache on its way to `route_neigh_apply`. -/
inductive NeighNlObj where
  | new (newNeigh : RtnlNeigh)
  | change (oldNeigh newNeigh : RtnlNeigh)
  | del (oldNeigh : RtnlNeigh)

/-- `route_neigh_apply` for the family `AF_BRIDGE`. -/
def Fdb.routeNeighApply (env : FdbEnv) (drv : BridgingDriver) (fm : FmDriver)
    (sends : NeighRequest → Bool) (vx : VxlanFinds) (s : Fdb) : NeighNlObj → Fdb
  | .new newNeigh => s.neighLlCreated env drv fm sends vx newNeigh
  | .change oldNeigh newNeigh => s.neighLlUpdated env drv fm sends vx oldNeigh newNeigh
  | .del oldNeigh => s.neighLlDeleted env drv vx oldNeigh

/-- An entry of the FDB of the kernel: its port, and whether it has `NTF_EXT_LEARNED`. -/
abbrev KernelEntry := Sourced Int

/-- The kernel, the objects in the queue and the bridge. -/
structure FdbWorld where
  kernel : Table L2Addr KernelEntry := ∅
  nlObjs : List NeighNlObj := []
  fdb : Fdb := {}

namespace FdbWorld

variable (env : FdbEnv) (drv : BridgingDriver) (fm : FmDriver)

/-- The object that libnl has for an entry. -/
def neighOf (a : L2Addr) (e : KernelEntry) : RtnlNeigh where
  ifindex := e.1
  master := env.bridge
  vlan := some a.1
  lladdr := a.2
  flags := if e.2 then NTF_MASTER ||| NTF_EXT_LEARNED else NTF_MASTER

/-- What libnl makes of a change of an entry: `nl_cache_include` calls back with `NL_ACT_NEW`,
`NL_ACT_CHANGE` (with the old object and the new one) or `NL_ACT_DEL`, and not at all if no attribute
differs. -/
def nlObjOf (a : L2Addr) : Option KernelEntry → Option KernelEntry → List NeighNlObj
  | none, none => []
  | none, some e => [.new (neighOf env a e)]
  | some o, none => [.del (neighOf env a o)]
  | some o, some e => if o = e then [] else [.change (neighOf env a o) (neighOf env a e)]

/-- The entry of the address becomes `x`. The kernel notifies of it with `RTM_NEWNEIGH` or
`RTM_DELNEIGH`, which libnl has in the order they were sent. -/
def kernelSet (w : FdbWorld) (a : L2Addr) (x : Option KernelEntry) : FdbWorld :=
  { w with
    kernel :=
      match x with
      | none => w.kernel.erase a
      | some e => w.kernel.insert a e
    nlObjs := w.nlObjs ++ nlObjOf env a (w.kernel.lookup a) x }

/-- The kernel serves a request. `RTM_NEWNEIGH` with `NLM_F_REPLACE` and `NTF_EXT_LEARNED` makes the
entry, or moves it to the port, and sets the flag; `RTM_DELNEIGH` deletes an entry of that port
only. -/
def serve (w : FdbWorld) : NeighRequest → FdbWorld
  | .add ifindex a => w.kernelSet env a (some (ifindex, true))
  | .delete ifindex a =>
    if (w.kernel.lookup a).any (·.1 = ifindex) then w.kernelSet env a none else w

/-- There is no VXLAN interface. -/
def noVxlan : VxlanFinds where
  link := { ifindex := 0, vni := 0, group := none, localAddr := none, port := none, mac := 0 }

/-- The netlink thread handles an object, and the kernel the requests that come of it. -/
def handleObj (w : FdbWorld) : FdbWorld :=
  match w.nlObjs with
  | [] => w
  | obj :: objs =>
    let fdb := { w.fdb with requests := [] }.routeNeighApply env drv fm (fun _ => true) noVxlan obj
    fdb.requests.foldl (serve env) { w with nlObjs := objs, fdb := fdb }

/-- The kernel changes an entry, or the next object is handled. -/
inductive Ev where
  | kernel (a : L2Addr) (x : Option KernelEntry)
  | handle

/-- The state after an event. -/
def step (w : FdbWorld) : Ev → FdbWorld
  | .kernel a x => w.kernelSet env a x
  | .handle => w.handleObj env drv fm

/-- The port can have the address, and is neither a VXLAN interface nor an access port of one in
the VLAN. -/
def Bridged (ports : Table (Nat × Nat) AccessTunnelPort) (a : L2Addr) (ifindex : Int) : Prop :=
  ifindex ≠ 0 ∧ env.isVxlan ifindex = false ∧ env.portOf ifindex ≠ 0 ∧ env.bridgeAddr ≠ a.2 ∧
    ((env.getLink ifindex).any fun link => link.addr ≠ a.2) = true ∧
    (env.portIdOf ifindex, a.1) ∉ ports

instance (ports : Table (Nat × Nat) AccessTunnelPort) (a : L2Addr) (ifindex : Int) :
    Decidable (Bridged env ports a ifindex) :=
  inferInstanceAs (Decidable (_ ∧ _))

/-- The condition on a step: the kernel has the address on such a port. -/
def OnBridge (ports : Table (Nat × Nat) AccessTunnelPort) (_ : FdbWorld) : Ev → Prop
  | .kernel a x => ∀ e ∈ x, Bridged env ports a e.1
  | .handle => True

/-- The kernel does not take `NTF_EXT_LEARNED` from an entry that stays on its port: a frame of the
address clears it only if it comes in on another one. -/
def LeavesHandedOver (w : FdbWorld) : Ev → Prop
  | .kernel a x => ∀ i, w.kernel.lookup a = some (i, true) → x ≠ some (i, false)
  | .handle => True

/-! ## Seen from the addresses -/

/-- The report that an object is. -/
def noteOf : NeighNlObj → L2Addr × Note Int
  | .new n | .change _ n => ((n.vlan.getD 0, n.lladdr), .value n.ifindex)
  | .del n => ((n.vlan.getD 0, n.lladdr), if n.extLearned then .gone else .keep)

/-- The kernel as the source, `l2_cache` as the copy. -/
def abs (w : FdbWorld) : EchoQueue L2Addr Int where
  source := w.kernel.lookup
  queue := w.nlObjs.map noteOf
  cell := w.fdb.l2Cache.lookup

/-- An object is of an entry on a port of the bridge. -/
def ObjOnBridge (ports : Table (Nat × Nat) AccessTunnelPort) (obj : NeighNlObj) : Prop :=
  ∃ a old new, (∀ e ∈ old, Bridged env ports a e.1) ∧ (∀ e ∈ new, Bridged env ports a e.1) ∧
    obj ∈ nlObjOf env a old new

/-- What the queue and the kernel hold is on the bridge. -/
structure Inv (ports : Table (Nat × Nat) AccessTunnelPort) (w : FdbWorld) : Prop where
  objs : ∀ obj ∈ w.nlObjs, ObjOnBridge env ports obj
  kernel : ∀ a, ∀ e ∈ w.kernel.lookup a, Bridged env ports a e.1
  accessPortIds : w.fdb.accessPortIds = ports

variable {env drv fm} {ports : Table (Nat × Nat) AccessTunnelPort} {w : FdbWorld}

theorem lookup_kernelSet (w : FdbWorld) (a a' : L2Addr) (x : Option KernelEntry) :
    (w.kernelSet env a x).kernel.lookup a' = if a' = a then x else w.kernel.lookup a' := by
  cases x with
  | none => exact Table.lookup_erase_ite w.kernel a a'
  | some e => exact Table.lookup_insert_ite w.kernel a a' e

theorem Inv.kernelSet (h : Inv env ports w) {a : L2Addr} {x : Option KernelEntry}
    (hx : ∀ e ∈ x, Bridged env ports a e.1) : Inv env ports (w.kernelSet env a x) where
  objs obj hobj := by
    rcases List.mem_append.mp hobj with hobj | hobj
    · exact h.objs obj hobj
    · exact ⟨a, _, x, h.kernel a, hx, hobj⟩
  kernel a' e he := by
    rw [lookup_kernelSet] at he
    split_ifs at he with ha
    · exact ha ▸ hx e he
    · exact h.kernel a' e he
  accessPortIds := h.accessPortIds

@[simp] theorem noteOf_new (a : L2Addr) (e : KernelEntry) :
    noteOf (.new (neighOf env a e)) = (a, .value e.1) := rfl

@[simp] theorem noteOf_change (a : L2Addr) (o e : KernelEntry) :
    noteOf (.change (neighOf env a o) (neighOf env a e)) = (a, .value e.1) := rfl

@[simp] theorem extLearned_neighOf (a : L2Addr) (e : KernelEntry) :
    (neighOf env a e).extLearned = e.2 := by
  obtain ⟨i, b⟩ := e
  cases b <;> simp [RtnlNeigh.extLearned, neighOf, NTF_EXT_LEARNED, NTF_MASTER]

@[simp] theorem noteOf_del (a : L2Addr) (o : KernelEntry) :
    noteOf (.del (neighOf env a o)) = (a, if o.2 then .gone else .keep) := by
  rw [noteOf, extLearned_neighOf]
  rfl

/-- A change in the kernel is one of the source. -/
theorem abs_kernelSet (w : FdbWorld) (a : L2Addr) (x : Option KernelEntry) :
    (w.kernelSet env a x).abs = w.abs.change a x := by
  have hsource : (w.kernelSet env a x).kernel.lookup = Function.update w.kernel.lookup a x := by
    funext a'
    rw [lookup_kernelSet, Function.update_apply]
  have hqueue : (nlObjOf env a (w.kernel.lookup a) x).map noteOf =
      if w.kernel.lookup a = x then []
      else [(a, EchoQueue.report (w.kernel.lookup a) x)] := by
    cases w.kernel.lookup a with
    | none => cases x <;> simp [nlObjOf, EchoQueue.report]
    | some o =>
      obtain ⟨i, b⟩ := o
      cases x with
      | none => cases b <;> simp [nlObjOf, EchoQueue.report]
      | some e => by_cases ho : (i, b) = e <;> simp [nlObjOf, EchoQueue.report, ho]
  unfold abs EchoQueue.change
  simp only [hsource]
  congr 1
  change (w.nlObjs ++ _).map noteOf = _
  rw [List.map_append, hqueue]
  split_ifs <;> simp

/-! ## One turn of the handler -/

section Handlers

variable {s : Fdb} {a : L2Addr} {e o : KernelEntry}

theorem checkLlNeigh_neighOf (h : Bridged env ports a e.1) :
    Fdb.checkLlNeigh env (neighOf env a e) = true := by
  obtain ⟨h0, -, -, -, hlink, -⟩ := h
  obtain ⟨link, hl, ha⟩ := (Option.any_eq_true _ _).mp hlink
  simp only [Fdb.checkLlNeigh, neighOf, RtnlNeigh.locked]
  simp [h0, hl, of_decide_eq_true ha]

/-- What `add_neigh_to_fdb` does with an entry of the kernel. -/
theorem addNeighToFdb_neighOf (h : Bridged env ports a e.1) (update : Bool) :
    s.addNeighToFdb env drv fm (fun _ => true) (neighOf env a e) update =
      if s.l2Cache.lookup a = some e.1 then s
      else s.takeOver drv fm (fun _ => true) e.1 (env.portOf e.1) a false update := by
  obtain ⟨-, -, hport, -, -, -⟩ := h
  have hp : (neighOf env a e).permanent = false := by
    simp [RtnlNeigh.permanent, neighOf, NUD_REACHABLE, NUD_NOARP, NUD_PERMANENT]
  change (if env.portOf e.1 = 0 then s
    else if s.l2Cache.lookup a = some e.1 then s
    else s.takeOver drv fm (fun _ => true) e.1 (env.portOf e.1) a (neighOf env a e).permanent
      update) = _
  rw [if_neg hport, hp]

theorem neighLlCreated_neighOf (h : Bridged env s.accessPortIds a e.1) :
    s.neighLlCreated env drv fm (fun _ => true) noVxlan (neighOf env a e) =
      s.addNeighToFdb env drv fm (fun _ => true) (neighOf env a e) false := by
  have hcheck := checkLlNeigh_neighOf h
  obtain ⟨-, hvx, -, -, hlink, hacc⟩ := h
  have hown : ¬ ((env.getLink e.1).any fun link => link.addr = a.2) = true := by
    obtain ⟨link, hl, ha⟩ := (Option.any_eq_true _ _).mp hlink
    simpa [hl] using ha
  have hadd : s.addL2NeighAccess env drv (neighOf env a e) = (-EINVAL, s) := by
    have hnone : s.accessPortIds.lookup (env.portIdOf e.1, a.1) = none :=
      Table.not_mem_iff_lookup.mp hacc
    unfold Fdb.addL2NeighAccess Fdb.addL2NeighPort Fdb.getAccessTunnelPort
    refine (if_neg hown).trans ?_
    simp only [neighOf, Option.getD_some, hnone, Option.getD_none, true_or, if_true, ite_self]
  unfold Fdb.neighLlCreated
  rw [hcheck, hadd]
  have hvx' : env.isVxlan (neighOf env a e).ifindex = false := hvx
  simp only [hvx', Bool.not_true, Bool.false_eq_true, if_false]
  rw [if_neg (by decide)]

theorem neighLlUpdated_neighOf (ho : Bridged env ports a o.1) (he : Bridged env ports a e.1) :
    s.neighLlUpdated env drv fm (fun _ => true) noVxlan (neighOf env a o) (neighOf env a e) =
      s.addNeighToFdb env drv fm (fun _ => true) (neighOf env a e) true := by
  have hvo : env.isVxlan (neighOf env a o).ifindex = false := ho.2.1
  have hve : env.isVxlan (neighOf env a e).ifindex = false := he.2.1
  unfold Fdb.neighLlUpdated
  simp only [checkLlNeigh_neighOf ho, checkLlNeigh_neighOf he, hvo, hve, Bool.not_true,
    Bool.and_self, Bool.or_self, Bool.false_eq_true, if_false]

theorem neighLlDeleted_neighOf (ho : Bridged env ports a o.1) :
    s.neighLlDeleted env drv noVxlan (neighOf env a o) =
      if o.2 = true ∧ a ∉ s.l2Cache then s
      else { s with
        l2Cache := if o.2 = true then s.l2Cache.erase a else s.l2Cache
        bridging := s.bridging.l2AddrRemove drv (env.portOf o.1) a.1 a.2 } := by
  have hvo : env.isVxlan (neighOf env a o).ifindex = false := ho.2.1
  obtain ⟨-, -, -, hbr, -, -⟩ := id ho
  unfold Fdb.neighLlDeleted Fdb.removeNeighFromFdb
  rw [checkLlNeigh_neighOf ho, extLearned_neighOf, hvo]
  change (if env.bridgeAddr = a.2 then s else _) = _
  rw [if_neg hbr]
  rfl

/-- What `neigh_ll_deleted` does to `l2_cache`. -/
theorem lookup_neighLlDeleted (ho : Bridged env ports a o.1) (a' : L2Addr) :
    (s.neighLlDeleted env drv noVxlan (neighOf env a o)).l2Cache.lookup a' =
      if a' = a ∧ o.2 = true then none else s.l2Cache.lookup a' := by
  rw [neighLlDeleted_neighOf ho]
  by_cases hgone : o.2 = true ∧ a ∉ s.l2Cache
  · -- Flushed before: not in `l2_cache`.
    rw [if_pos hgone]
    split_ifs with ha
    · rw [ha.1]
      exact Table.not_mem_iff_lookup.mp hgone.2
    · rfl
  · rw [if_neg hgone]
    cases o.2 with
    | false => simp
    | true => simp [Table.lookup_erase_ite]

/-- A report of an entry: nothing, or a take-over that the kernel is asked to make its own. -/
theorem serve_take {s' : Fdb} {objs : List NeighNlObj} {update : Bool}
    (hs' : s' = if s.l2Cache.lookup a = some e.1 then s
      else s.takeOver drv fm (fun _ => true) e.1 (env.portOf e.1) a false update)
    (hr : s.requests = []) (kernel : Table L2Addr KernelEntry) :
    s'.requests.foldl (serve env) { kernel := kernel, nlObjs := objs, fdb := s' } =
      if s.l2Cache.lookup a = some e.1 then { kernel := kernel, nlObjs := objs, fdb := s }
      else kernelSet env
        { kernel := kernel, nlObjs := objs
          fdb := s.takeOver drv fm (fun _ => true) e.1 (env.portOf e.1) a false update }
        a (some (e.1, true)) := by
  split_ifs at hs' ⊢ with hc
  · rw [hs', hr]
    rfl
  · have hreq : s'.requests = [.add e.1 a] := by
      rw [hs']
      simp [Fdb.takeOver, hr]
    rw [hreq, hs']
    rfl

theorem lookup_takeOver (update : Bool) :
    (s.takeOver drv fm (fun _ => true) e.1 (env.portOf e.1) a false update).l2Cache.lookup =
      Function.update s.l2Cache.lookup a (some e.1) := by
  funext a'
  rw [Function.update_apply]
  simp only [Fdb.takeOver, Bool.false_eq_true, if_false, if_true]
  rw [Table.lookup_insert_ite, Table.lookup_erase_ite]
  split_ifs <;> rfl

end Handlers

/-- What an object does: an address is on a port, or an entry is gone. -/
theorem ObjOnBridge.cases (drv : BridgingDriver) (fm : FmDriver) {obj : NeighNlObj}
    (h : ObjOnBridge env ports obj) :
    (∃ (a : L2Addr) (e : KernelEntry) (update : Bool),
      Bridged env ports a e.1 ∧ noteOf obj = (a, .value e.1) ∧
      ∀ s : Fdb, s.accessPortIds = ports →
        s.routeNeighApply env drv fm (fun _ => true) noVxlan obj =
          if s.l2Cache.lookup a = some e.1 then s
          else s.takeOver drv fm (fun _ => true) e.1 (env.portOf e.1) a false update) ∨
    ∃ a o, Bridged env ports a o.1 ∧ obj = .del (neighOf env a o) := by
  obtain ⟨a, old, new, ho, hn, hobj⟩ := h
  cases new with
  | none =>
    cases old with
    | none => simp [nlObjOf] at hobj
    | some o => exact .inr ⟨a, o, ho o rfl, by simpa [nlObjOf] using hobj⟩
  | some e =>
    left
    cases old with
    | none =>
      obtain rfl : obj = .new (neighOf env a e) := by simpa [nlObjOf] using hobj
      refine ⟨a, e, false, hn e rfl, noteOf_new a e, ?_⟩
      rintro s rfl
      exact (neighLlCreated_neighOf (hn e rfl)).trans (addNeighToFdb_neighOf (hn e rfl) false)
    | some o =>
      have hchange : obj = .change (neighOf env a o) (neighOf env a e) := by
        change obj ∈ if o = e then [] else [NeighNlObj.change (neighOf env a o) (neighOf env a e)]
          at hobj
        split_ifs at hobj with hoe
        · cases hobj
        · exact List.mem_singleton.mp hobj
      subst hchange
      refine ⟨a, e, true, hn e rfl, noteOf_change a o e, fun s _ => ?_⟩
      exact (neighLlUpdated_neighOf (ho o rfl) (hn e rfl)).trans
        (addNeighToFdb_neighOf (hn e rfl) true)

/-- The objects that are left, with another FDB. -/
theorem Inv.next (h : Inv env ports w) {obj : NeighNlObj} {objs : List NeighNlObj}
    (hobjs : w.nlObjs = obj :: objs) {fdb : Fdb} (hf : fdb.accessPortIds = ports) :
    Inv env ports { w with nlObjs := objs, fdb := fdb } where
  objs obj' hobj' := h.objs obj' (by rw [hobjs]; exact List.mem_cons_of_mem _ hobj')
  kernel := h.kernel
  accessPortIds := hf

section Turn

variable {a : L2Addr} {e : KernelEntry} {obj : NeighNlObj} {objs : List NeighNlObj} {update : Bool}
  (hobjs : w.nlObjs = obj :: objs)
  (hobj : { w.fdb with requests := [] }.routeNeighApply env drv fm (fun _ => true) noVxlan obj =
    if w.fdb.l2Cache.lookup a = some e.1 then { w.fdb with requests := [] }
    else { w.fdb with requests := [] }.takeOver drv fm (fun _ => true) e.1 (env.portOf e.1) a
      false update)
include hobjs hobj

/-- The handler takes an object that has the address on a port. -/
theorem handleObj_take :
    w.handleObj env drv fm =
      if w.fdb.l2Cache.lookup a = some e.1 then
        { w with nlObjs := objs, fdb := { w.fdb with requests := [] } }
      else kernelSet env
        { w with
          nlObjs := objs
          fdb := { w.fdb with requests := [] }.takeOver drv fm (fun _ => true) e.1
            (env.portOf e.1) a false update }
        a (some (e.1, true)) := by
  rw [← serve_take (s := { w.fdb with requests := [] }) hobj rfl w.kernel]
  simp only [handleObj, hobjs]

/-- Seen from the addresses, it takes a report. -/
theorem abs_take (hnote : noteOf obj = (a, .value e.1)) :
    (w.handleObj env drv fm).abs = w.abs.handle := by
  have hqueue : w.abs.queue = (a, .value e.1) :: objs.map noteOf := by
    simp only [abs, hobjs, List.map_cons, hnote]
  rw [handleObj_take hobjs hobj, EchoQueue.handle, hqueue]
  simp only
  change _ = if w.fdb.l2Cache.lookup a = some e.1 then _ else _
  split_ifs with hc
  · rfl
  · rw [abs_kernelSet, EchoQueue.write]
    unfold abs
    simp only [lookup_takeOver]

theorem Inv.take (h : Inv env ports w) (hb : Bridged env ports a e.1) :
    Inv env ports (w.handleObj env drv fm) := by
  rw [handleObj_take hobjs hobj]
  split_ifs
  · exact h.next hobjs h.accessPortIds
  · refine (h.next hobjs ?_).kernelSet fun e' he' => ?_
    · exact h.accessPortIds
    · obtain rfl := Option.mem_some_iff.mp he'
      exact hb

end Turn

/-- The handler takes an object of an entry that is gone. -/
theorem handleObj_del {a : L2Addr} {o : KernelEntry} {objs : List NeighNlObj}
    (hobjs : w.nlObjs = .del (neighOf env a o) :: objs) (ho : Bridged env ports a o.1) :
    w.handleObj env drv fm =
      { w with
        nlObjs := objs
        fdb := { w.fdb with requests := [] }.neighLlDeleted env drv noVxlan (neighOf env a o) } := by
  have hreq : ({ w.fdb with requests := [] }.neighLlDeleted env drv noVxlan (neighOf env a o)).requests =
      [] := by
    rw [neighLlDeleted_neighOf ho]
    split_ifs <;> rfl
  simp only [handleObj, hobjs, Fdb.routeNeighApply, hreq, List.foldl_nil]

/-- **One turn is one of the library's handler**, and keeps the world as it should be. -/
theorem abs_handleObj (drv : BridgingDriver) (fm : FmDriver) (h : Inv env ports w) :
    (w.handleObj env drv fm).abs = w.abs.handle ∧ Inv env ports (w.handleObj env drv fm) := by
  cases hobjs : w.nlObjs with
  | nil => simp [handleObj, hobjs, abs, EchoQueue.handle, h]
  | cons obj objs =>
    have hobj : ObjOnBridge env ports obj := h.objs obj (by simp [hobjs])
    rcases hobj.cases drv fm with
      ⟨a, e, update, hb, hnote, hobj⟩ | ⟨a, o, ho, rfl⟩
    · have hobj' := hobj { w.fdb with requests := [] } h.accessPortIds
      exact ⟨abs_take hobjs hobj' hnote, Inv.take hobjs hobj' h hb⟩
    · rw [handleObj_del hobjs ho]
      constructor
      · have hqueue : w.abs.queue = (a, if o.2 then .gone else .keep) :: objs.map noteOf := by
          simp only [abs, hobjs, List.map_cons, noteOf_del]
        have hcell : ({ w.fdb with requests := [] }.neighLlDeleted env drv noVxlan
            (neighOf env a o)).l2Cache.lookup =
              if o.2 then Function.update w.fdb.l2Cache.lookup a none
              else w.fdb.l2Cache.lookup := by
          funext a'
          rw [lookup_neighLlDeleted ho]
          cases o.2 <;> simp [Function.update_apply]
        rw [EchoQueue.handle, hqueue]
        unfold abs
        simp only [hcell]
        cases o.2 <;> rfl
      · refine h.next hobjs ?_
        rw [neighLlDeleted_neighOf ho]
        split_ifs <;> exact h.accessPortIds

theorem abs_iterate (drv : BridgingDriver) (fm : FmDriver) (h : Inv env ports w) (n : Nat) :
    ((handleObj env drv fm)^[n] w).abs = EchoQueue.handle^[n] w.abs ∧
      Inv env ports ((handleObj env drv fm)^[n] w) := by
  induction n with
  | zero => exact ⟨rfl, h⟩
  | succ n ih =>
    rw [Function.iterate_succ_apply', Function.iterate_succ_apply', ← ih.1]
    exact abs_handleObj drv fm ih.2

theorem nlObjs_eq_nil_iff (w : FdbWorld) : w.nlObjs = [] ↔ w.abs.queue = [] := by
  simp [abs]

/-! ## Runs -/

/-- A world in which nothing has been reported yet, with these access ports. -/
def start (ports : Table (Nat × Nat) AccessTunnelPort) : FdbWorld :=
  { fdb := { accessPortIds := ports } }

theorem reachable_step (h : Inv env ports w) (hco : w.abs.Coherent) {e : Ev}
    (hC : OnBridge env ports w e) :
    Inv env ports (step env drv fm w e) ∧ (step env drv fm w e).abs.Coherent := by
  cases e with
  | kernel a x =>
    refine ⟨h.kernelSet hC, ?_⟩
    change (w.kernelSet env a x).abs.Coherent
    rw [abs_kernelSet]
    exact EchoQueue.coherent_change hco a x
  | handle =>
    obtain ⟨habs, hinv⟩ := abs_handleObj drv fm h
    refine ⟨hinv, ?_⟩
    change (w.handleObj env drv fm).abs.Coherent
    rw [habs]
    exact EchoQueue.coherent_handle hco

theorem inv_start : Inv env ports (start ports) ∧ (start ports).abs.Coherent := by
  refine ⟨⟨by simp [start], by simp [start], rfl⟩, fun a v b hs => ?_⟩
  simp [start, abs] at hs

/-- What every reachable world has. -/
theorem reachable_run {es : List Ev}
    (hC : Along (step env drv fm) (OnBridge env ports) (start ports) es) :
    Inv env ports (run (step env drv fm) (start ports) es) ∧
      (run (step env drv fm) (start ports) es).abs.Coherent := by
  refine run_inv (I := fun w => Inv env ports w ∧ w.abs.Coherent) inv_start ?_ hC
  rintro w e ⟨h, hco⟩ hC
  exact reachable_step h hco hC

theorem owned_run {es : List Ev}
    (hC : Along (step env drv fm) (OnBridge env ports) (start ports) es)
    (hL : Along (step env drv fm) LeavesHandedOver (start ports) es) :
    (run (step env drv fm) (start ports) es).abs.Owned := by
  refine (run_inv (I := fun w => (Inv env ports w ∧ w.abs.Coherent) ∧ w.abs.Owned) ?_ ?_
    (hC.and hL)).2
  · refine ⟨inv_start, fun a c hc => ?_⟩
    obtain rfl := Option.some.inj hc
    rfl
  · rintro w e ⟨⟨h, hco⟩, howned⟩ ⟨hC, hL⟩
    refine ⟨reachable_step h hco hC, ?_⟩
    cases e with
    | kernel a x =>
      change (w.kernelSet env a x).abs.Owned
      rw [abs_kernelSet]
      exact EchoQueue.owned_change howned hL
    | handle =>
      change (w.handleObj env drv fm).abs.Owned
      rw [(abs_handleObj drv fm h).1]
      exact EchoQueue.owned_handle hco howned

/-- The bridge 10 with the ports 1 and 2. -/
def twoPorts : FdbEnv where
  bridge := 10
  bridgeAddr := 10
  getLink i := if i = 1 ∨ i = 2 then some { ifindex := i, addr := BitVec.ofInt 48 i } else none
  brLink i := if i = 1 ∨ i = 2 then some 10 else none
  portIdOf i := if i = 1 ∨ i = 2 then i.toNat else 0
  ifindexOf p := p
  portIdOf_lt i := by split_ifs <;> omega

/-- A host comes to a port and moves on before the first report is handled. -/
def movedOnce : List Ev := [.kernel (100, 7) (some (1, false)), .kernel (100, 7) (some (2, false))]

end FdbWorld

end Basebox
