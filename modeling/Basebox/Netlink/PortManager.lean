import Basebox.Lib.Inverse
import Basebox.Lib.Proc
import Basebox.Netlink.Bond
import Basebox.OfDpa.Switch

/-!
# The devices of the ports (`port_manager.h`, `tap_manager.cc`, `knet_manager.cc`)

For each port of the switch there is a network device on the host, a tap device or one of the
knet driver. The port manager creates and destroys the devices as the switch says, and learns
their ifindex when netlink reports them.

* `PortManager`: what both managers have. `TapManager`, `KnetManager`: the two managers.
* `PortMan.exec`: one call. It can end the process: `LOG(FATAL)`, or a use of an `end()` iterator.
* `inverse_run`: whatever the calls are, `ifindex_to_id` and `id_to_ifindex` stay inverse to each
  other.

`tap_io` works off its registrations in order; its table here is that after all of them. The MTU is
set in place.
-/

namespace Basebox

/-- The maps that both port managers have. -/
structure PortManager where
  portNames2id : Table String Nat := ∅
  ifindexToId : Table Int Nat := ∅
  idToIfindex : Table Nat Int := ∅
  idToHwaddr : Table Nat Mac := ∅

namespace PortManager

/-- `0` for an unknown ifindex. -/
def getPortId (s : PortManager) (ifindex : Int) : Nat := (s.ifindexToId.lookup ifindex).getD 0

/-- `0` for an unknown port. -/
def getIfindex (s : PortManager) (portId : Nat) : Int := (s.idToIfindex.lookup portId).getD 0

/-- `clear`. -/
def clear (s : PortManager) : PortManager :=
  { s with ifindexToId := ∅, idToIfindex := ∅, idToHwaddr := ∅ }

/-- The part of `portdev_ready` that is the same in both managers: a device with the name of a port
is registered. -/
def portdevReady (s : PortManager) (ifindex : Int) (name : String) : Bool × PortManager :=
  match s.ifindexToId.lookup ifindex, s.portNames2id.lookup name with
  | some _, _ => (false, s)
  | none, none => (false, s)
  | none, some id =>
    let ifindexToId :=
      match s.idToIfindex.lookup id with
      | none => s.ifindexToId
      -- An overwritten index goes from the other map too.
      | some old => if old ≠ ifindex then s.ifindexToId.erase old else s.ifindexToId
    (true, { s with
      ifindexToId := ifindexToId.insert ifindex id
      idToIfindex := s.idToIfindex.insert id ifindex })

/-- The end of `portdev_removed`. -/
def unregister (s : PortManager) (ifindex : Int) (id : Nat) : PortManager :=
  { s with ifindexToId := s.ifindexToId.erase ifindex, idToIfindex := s.idToIfindex.erase id }

end PortManager

/-! ## Tap devices -/

/-- The file descriptors that `open` gives: none that is in use. -/
abbrev FdAlloc := { f : Finset Nat → Nat // ∀ fds, f fds ∉ fds }

/-- `ctapdev`, after `tap_open`. -/
structure TapDev where
  devname : String
  hwaddr : Mac
  fd : Nat
  deriving DecidableEq

/-- The constructor of `ctapdev` throws on other names (`IFNAMSIZ` is 16). -/
def validDevname (devname : String) : Bool :=
  decide (0 < devname.utf8ByteSize ∧ devname.utf8ByteSize < 16)

/-- `tap_io_details` of a descriptor that is read. -/
structure TapIoDetails where
  portId : Nat
  mtu : Nat := 1500
  deriving DecidableEq

/-- The state of `tap_manager`. -/
structure TapManager extends PortManager where
  tapNames2fds : Table String Nat := ∅
  tapDevs : Table Nat TapDev := ∅
  portDeleted : List Nat := []
  io : Table Nat TapIoDetails := ∅
  /-- The descriptors of the tap devices that are open. -/
  opened : Finset Nat := ∅

namespace TapManager

variable (alloc : FdAlloc)

/-- `create_portdev`. `tap_open` succeeds, or else it ends the process. -/
def createPortdev (s : TapManager) (portId : Nat) (portName : String) (hwaddr : Mac) :
    Except Crash (Int × TapManager) :=
  if portId ∈ s.tapDevs ∨ portName ∈ s.portNames2id then .ok (0, s)
  else if !validDevname portName then .ok (-EINVAL, s)
  else if portId ∈ s.idToHwaddr then .error .fatal
  else
    let fd := alloc.1 s.opened
    .ok (0, { s with
      tapDevs := s.tapDevs.insert portId { devname := portName, hwaddr := hwaddr, fd := fd }
      portNames2id := s.portNames2id.emplace portName portId
      idToHwaddr := s.idToHwaddr.emplace portId hwaddr
      tapNames2fds := s.tapNames2fds.emplace portName fd
      io := s.io.insert fd { portId := portId }
      opened := insert fd s.opened })

/-- `destroy_portdev`. -/
def destroyPortdev (s : TapManager) (portId : Nat) (portName : String) : TapManager :=
  match s.tapDevs.lookup portId with
  | none => s
  | some dev =>
    { s with
      portDeleted := s.portDeleted ++ [portId]
      idToHwaddr := s.idToHwaddr.erase portId
      portNames2id := s.portNames2id.erase portName
      tapNames2fds := s.tapNames2fds.erase portName
      tapDevs := s.tapDevs.erase portId
      io := s.io.erase dev.fd
      opened := s.opened.erase dev.fd }

/-- `update_mtu`. -/
def updateMtu (s : TapManager) (name : String) (mtu : Nat) : TapManager :=
  match s.tapNames2fds.lookup name with
  | none => s
  | some fd =>
    match s.io.lookup fd with
    | none => s
    | some td => { s with io := s.io.insert fd { td with mtu := mtu } }

/-- `portdev_ready`; `isTun` says that the type of the link is `LT_TUN`. -/
def portdevReady (s : TapManager) (isTun : Bool) (ifindex : Int) (name : String) (mtu : Nat) :
    Bool × TapManager :=
  if !isTun then (false, s)
  else
    match s.toPortManager.portdevReady ifindex name with
    | (false, _) => (false, s)
    | (true, maps) => (true, { s with toPortManager := maps }.updateMtu name mtu)

/-- `recreate_tapdev`, for a port that has its id in `ifindex_to_id`. The device that was there is
neither closed nor unregistered from `tap_io`, and the new one is not registered. -/
def recreateTapdev (s : TapManager) (id : Nat) (portname : String) (hwaddr : Mac) : TapManager :=
  if !validDevname portname then s
  else
    let fd := alloc.1 s.opened
    { s with
      tapDevs := Table.emplace (s.tapDevs.erase id) id
        { devname := portname, hwaddr := hwaddr, fd := fd }
      tapNames2fds := s.tapNames2fds.emplace portname fd
      portNames2id := s.portNames2id.emplace portname id
      opened := insert fd s.opened }

/-- `portdev_removed`. -/
def portdevRemoved (s : TapManager) (isTun : Bool) (ifindex : Int) (portname : String) :
    Except Crash (Bool × TapManager) :=
  if !isTun then .ok (false, s)
  else
    match s.ifindexToId.lookup ifindex with
    | none => .ok (false, s)
    | some id =>
      let finish (s : TapManager) : TapManager :=
        { s with
          toPortManager := s.toPortManager.unregister ifindex id
          portDeleted := s.portDeleted.erase id }
      if id ∈ s.portDeleted ∧ id ∈ s.idToIfindex then .ok (true, finish s)
      else
        match s.tapDevs.lookup id with
        | none => .error .endIterator
        | some dev => .ok (true, finish (s.recreateTapdev alloc id portname dev.hwaddr))

end TapManager

/-! ## Devices of the knet driver -/

/-- `knet_devs` is left out: nothing is ever stored there. -/
structure KnetManager extends PortManager where
  portDeleted : List Nat := []

namespace KnetManager

/-- `create_portdev`; `r` is the result of `port_knet_create`. -/
def createPortdev (s : KnetManager) (portId : Nat) (portName : String) (hwaddr : Mac) (r : Int) :
    Except Crash (Int × KnetManager) :=
  if portName ∈ s.portNames2id then .ok (0, s)
  else if portId ∈ s.idToHwaddr then .error .fatal
  else if r ≠ 0 then .error .fatal
  else .ok (0, { s with
    portNames2id := s.portNames2id.emplace portName portId
    idToHwaddr := s.idToHwaddr.emplace portId hwaddr })

/-- `destroy_portdev`. -/
def destroyPortdev (s : KnetManager) (portId : Nat) (portName : String) : KnetManager :=
  { s with
    portDeleted := s.portDeleted ++ [portId]
    idToHwaddr := s.idToHwaddr.erase portId
    portNames2id := s.portNames2id.erase portName }

/-- `portdev_ready`. -/
def portdevReady (s : KnetManager) (ifindex : Int) (name : String) : Bool × KnetManager :=
  let (handled, maps) := s.toPortManager.portdevReady ifindex name
  (handled, { s with toPortManager := maps })

/-- `portdev_removed`. -/
def portdevRemoved (s : KnetManager) (ifindex : Int) : Except Crash (Bool × KnetManager) :=
  match s.ifindexToId.lookup ifindex with
  | none => .ok (false, s)
  | some id =>
    if id ∉ s.portDeleted then .error .fatal
    else if id ∉ s.idToIfindex then .error .fatal
    else .ok (true, { s with
      toPortManager := s.toPortManager.unregister ifindex id
      portDeleted := s.portDeleted.erase id })

end KnetManager

/-! ## Calls and runs -/

/-- The calls of a port manager, with what is read from the link. -/
inductive PortEv where
  | createPortdev (portId : Nat) (portName : String) (hwaddr : Mac) (r : Int)
  | destroyPortdev (portId : Nat) (portName : String)
  | portdevReady (isTun : Bool) (ifindex : Int) (name : String) (mtu : Nat)
  | portdevRemoved (isTun : Bool) (ifindex : Int) (name : String)
  | clear

/-- A call of `tap_manager`. -/
def TapManager.exec (alloc : FdAlloc) (s : TapManager) : PortEv → Except Crash TapManager
  | .createPortdev portId portName hwaddr _ =>
    (s.createPortdev alloc portId portName hwaddr).map (·.2)
  | .destroyPortdev portId portName => .ok (s.destroyPortdev portId portName)
  | .portdevReady isTun ifindex name mtu => .ok (s.portdevReady isTun ifindex name mtu).2
  | .portdevRemoved isTun ifindex name => (s.portdevRemoved alloc isTun ifindex name).map (·.2)
  | .clear => .ok { s with toPortManager := s.toPortManager.clear }

/-- A call of `knet_manager`. -/
def KnetManager.exec (s : KnetManager) : PortEv → Except Crash KnetManager
  | .createPortdev portId portName hwaddr r =>
    (s.createPortdev portId portName hwaddr r).map (·.2)
  | .destroyPortdev portId portName => .ok (s.destroyPortdev portId portName)
  | .portdevReady _ ifindex name _ => .ok (s.portdevReady ifindex name).2
  | .portdevRemoved _ ifindex _ => (s.portdevRemoved ifindex).map (·.2)
  | .clear => .ok { s with toPortManager := s.toPortManager.clear }

/-- The port manager of a process (`FLAGS_use_knet`). -/
inductive PortMan where
  | tap (s : TapManager)
  | knet (s : KnetManager)

namespace PortMan

/-- A new manager. -/
def init (useKnet : Bool) : PortMan := if useKnet then .knet {} else .tap {}

/-- The maps of the manager in use. -/
def maps : PortMan → PortManager
  | .tap s => s.toPortManager
  | .knet s => s.toPortManager

/-- A call of the manager in use. -/
def exec (alloc : FdAlloc) : PortMan → PortEv → Except Crash PortMan
  | .tap s, e => (s.exec alloc e).map .tap
  | .knet s, e => (s.exec e).map .knet

end PortMan

/-! ## The two maps of a manager -/

namespace PortManager

/-- The maps between ifindexes and ports are inverse to each other, and so are the two lookups as
far as they find something. -/
def MutuallyInverse (s : PortManager) : Prop :=
  Inverse s.ifindexToId s.idToIfindex ∧
    (∀ i p, 0 < p → s.getPortId i = p → s.getIfindex p = i) ∧
    ∀ i p, i ≠ 0 → 0 < p → s.getIfindex p = i → s.getPortId i = p

variable {s : PortManager}

theorem mutuallyInverse_of_inverse (h : Inverse s.ifindexToId s.idToIfindex) :
    s.MutuallyInverse := by
  refine ⟨h, fun i p hp hi => ?_, fun i p hi0 hp hi => ?_⟩
  · unfold getPortId at hi
    cases hl : s.ifindexToId.lookup i with
    | none => rw [hl] at hi; simp at hi; omega
    | some q =>
      rw [hl, Option.getD_some] at hi
      subst hi
      rw [getIfindex, (h i q).mp hl, Option.getD_some]
  · unfold getIfindex at hi
    cases hl : s.idToIfindex.lookup p with
    | none => rw [hl] at hi; exact absurd hi.symm hi0
    | some j =>
      rw [hl, Option.getD_some] at hi
      subst hi
      rw [getPortId, (h j p).mpr hl, Option.getD_some]

theorem inverse_portdevReady (h : Inverse s.ifindexToId s.idToIfindex) (i : Int) (name : String) :
    Inverse (s.portdevReady i name).2.ifindexToId (s.portdevReady i name).2.idToIfindex := by
  unfold portdevReady
  cases hi : s.ifindexToId.lookup i with
  | some p => exact h
  | none =>
    cases hn : s.portNames2id.lookup name with
    | none => exact h
    | some id =>
      cases hid : s.idToIfindex.lookup id with
      | none =>
        simp only [hid]
        exact h.link hi hid
      | some old =>
        -- `i` is not registered, so it is not the index that the port had.
        have hne : old ≠ i := by
          rintro rfl
          rw [(h old id).mpr hid] at hi
          cases hi
        simp only [hid, ne_eq, hne, not_false_eq_true, if_true]
        exact h.move hi hid

/-- An index that is registered was so before, or has the port of the name. -/
theorem lookup_portdevReady {i j : Int} {name : String} {p : Nat}
    (h : (s.portdevReady i name).2.ifindexToId.lookup j = some p) :
    s.ifindexToId.lookup j = some p ∨ s.portNames2id.lookup name = some p := by
  unfold portdevReady at h
  split at h
  · exact .inl h
  · exact .inl h
  · rename_i id hi hn
    simp only [Table.lookup_insert_ite] at h
    split at h
    · exact .inr (hn.trans h)
    · left
      cases hid : s.idToIfindex.lookup id with
      | none =>
        rw [hid] at h
        exact h
      | some old =>
        rw [hid] at h
        simp only at h
        grind

theorem inverse_unregister (h : Inverse s.ifindexToId s.idToIfindex) {i : Int} {id : Nat}
    (hi : s.ifindexToId.lookup i = some id) :
    Inverse (s.unregister i id).ifindexToId (s.unregister i id).idToIfindex := h.unlink hi

end PortManager

section Calls

variable {alloc : FdAlloc} {s s' : TapManager} {isTun : Bool} {i : Int} {portId : Nat}
  {name : String} {hwaddr : Mac}

/-- What `create_portdev` can do. -/
theorem TapManager.createPortdev_cases {rv : Int}
    (h : s.createPortdev alloc portId name hwaddr = .ok (rv, s')) :
    s' = s ∨
    (portId ∉ s.tapDevs ∧ name ∉ s.portNames2id ∧ validDevname name = true ∧
      portId ∉ s.idToHwaddr ∧
      s' = { s with
        tapDevs := s.tapDevs.insert portId
          { devname := name, hwaddr := hwaddr, fd := alloc.1 s.opened }
        portNames2id := s.portNames2id.emplace name portId
        idToHwaddr := s.idToHwaddr.emplace portId hwaddr
        tapNames2fds := s.tapNames2fds.emplace name (alloc.1 s.opened)
        io := s.io.insert (alloc.1 s.opened) { portId := portId }
        opened := insert (alloc.1 s.opened) s.opened }) := by
  unfold createPortdev at h
  split at h
  · cases h
    exact .inl rfl
  · rename_i hnew
    obtain ⟨hdev, hname⟩ := not_or.mp hnew
    split at h
    · cases h
      exact .inl rfl
    · rename_i hvalid
      split at h
      · cases h
      · cases h
        exact .inr ⟨hdev, hname, by simpa using hvalid, by assumption, rfl⟩

/-- The end of `portdev_removed`, for a device that is registered. -/
def TapManager.finishRemoved (s : TapManager) (i : Int) (id : Nat) : TapManager :=
  { s with
    toPortManager := s.toPortManager.unregister i id
    portDeleted := s.portDeleted.erase id }

/-- What `portdev_removed` can do: a removal is ignored, as one that was scheduled it only has its
entries dropped, and else the device is created again. -/
theorem TapManager.portdevRemoved_cases {handled : Bool}
    (h : s.portdevRemoved alloc isTun i name = .ok (handled, s')) :
    (s' = s ∧ (isTun = false ∨ s.ifindexToId.lookup i = none)) ∨
    ∃ id, isTun = true ∧ s.ifindexToId.lookup i = some id ∧
      ((id ∈ s.portDeleted ∧ id ∈ s.idToIfindex ∧ s' = s.finishRemoved i id) ∨
       (¬ (id ∈ s.portDeleted ∧ id ∈ s.idToIfindex) ∧ ∃ dev, s.tapDevs.lookup id = some dev ∧
        s' = (s.recreateTapdev alloc id name dev.hwaddr).finishRemoved i id)) := by
  unfold portdevRemoved at h
  cases isTun with
  | false =>
    cases h
    exact .inl ⟨rfl, .inl rfl⟩
  | true =>
    simp only [Bool.not_true, Bool.false_eq_true, if_false] at h
    cases hi : s.ifindexToId.lookup i with
    | none =>
      rw [hi] at h
      cases h
      exact .inl ⟨rfl, .inr rfl⟩
    | some id =>
      rw [hi] at h
      simp only at h
      refine .inr ⟨id, rfl, rfl, ?_⟩
      split at h
      · rename_i hdel
        cases h
        exact .inl ⟨hdel.1, hdel.2, rfl⟩
      · rename_i hdel
        cases hd : s.tapDevs.lookup id with
        | none => rw [hd] at h; cases h
        | some dev =>
          rw [hd] at h
          cases h
          exact .inr ⟨hdel, dev, rfl, rfl⟩

variable (alloc) in
theorem TapManager.recreateTapdev_maps (s : TapManager) (id : Nat) (name : String) (hwaddr : Mac) :
    (s.recreateTapdev alloc id name hwaddr).ifindexToId = s.ifindexToId ∧
      (s.recreateTapdev alloc id name hwaddr).idToIfindex = s.idToIfindex := by
  unfold recreateTapdev
  split <;> exact ⟨rfl, rfl⟩

theorem TapManager.updateMtu_toPortManager (s : TapManager) (name : String) (mtu : Nat) :
    (s.updateMtu name mtu).toPortManager = s.toPortManager := by
  unfold updateMtu
  split
  · rfl
  · split <;> rfl

/-- The maps after `portdev_ready`. -/
theorem TapManager.portdevReady_maps (s : TapManager) (isTun : Bool) (i : Int) (name : String)
    (mtu : Nat) : (s.portdevReady isTun i name mtu).2.toPortManager =
      if isTun then (s.toPortManager.portdevReady i name).2 else s.toPortManager := by
  cases isTun with
  | false => rfl
  | true =>
    simp only [TapManager.portdevReady, Bool.not_true, Bool.false_eq_true, if_false, if_true]
    have hfalse : (s.toPortManager.portdevReady i name).1 = false →
        (s.toPortManager.portdevReady i name).2 = s.toPortManager := by
      unfold PortManager.portdevReady
      split <;> simp
    split
    · rename_i maps heq
      rw [heq] at hfalse ⊢
      exact (hfalse rfl).symm
    · rename_i maps heq
      rw [updateMtu_toPortManager, heq]

end Calls

/-! ## Runs -/

/-- No call to a tap manager breaks the correspondence of the two maps. -/
theorem TapManager.inverse_exec {alloc : FdAlloc} {s s' : TapManager} {e : PortEv}
    (h : Inverse s.ifindexToId s.idToIfindex) (he : s.exec alloc e = .ok s') :
    Inverse s'.ifindexToId s'.idToIfindex := by
  cases e with
  | createPortdev portId name hwaddr r =>
    obtain ⟨⟨rv, s₁⟩, h₁, rfl⟩ := map_eq_ok.mp he
    rcases createPortdev_cases h₁ with rfl | ⟨-, -, -, -, rfl⟩
    · exact h
    · exact h
  | destroyPortdev portId name =>
    cases he
    unfold destroyPortdev
    split <;> exact h
  | portdevReady isTun i name mtu =>
    cases he
    rw [portdevReady_maps]
    split
    · exact PortManager.inverse_portdevReady h i name
    · exact h
  | portdevRemoved isTun i name =>
    obtain ⟨⟨handled, s₁⟩, h₁, rfl⟩ := map_eq_ok.mp he
    rcases portdevRemoved_cases h₁ with
      ⟨rfl, -⟩ | ⟨id, -, hi, ⟨-, -, rfl⟩ | ⟨-, dev, -, rfl⟩⟩
    · exact h
    · exact PortManager.inverse_unregister h hi
    · obtain ⟨h1, h2⟩ := s.recreateTapdev_maps alloc id name dev.hwaddr
      refine PortManager.inverse_unregister
        (s := (s.recreateTapdev alloc id name dev.hwaddr).toPortManager) ?_ ?_
      · rw [h1, h2]
        exact h
      · rw [h1]
        exact hi
  | clear =>
    cases he
    exact Inverse.empty

theorem KnetManager.inverse_exec {s s' : KnetManager} {e : PortEv}
    (h : Inverse s.ifindexToId s.idToIfindex) (he : s.exec e = .ok s') :
    Inverse s'.ifindexToId s'.idToIfindex := by
  cases e with
  | createPortdev portId name hwaddr r =>
    obtain ⟨⟨rv, s₁⟩, h₁, rfl⟩ := map_eq_ok.mp he
    unfold createPortdev at h₁
    split at h₁
    · cases h₁; exact h
    split at h₁
    · cases h₁
    split at h₁
    · cases h₁
    · cases h₁; exact h
  | destroyPortdev portId name =>
    cases he
    exact h
  | portdevReady isTun i name mtu =>
    cases he
    exact PortManager.inverse_portdevReady h i name
  | portdevRemoved isTun i name =>
    obtain ⟨⟨handled, s₁⟩, h₁, rfl⟩ := map_eq_ok.mp he
    unfold portdevRemoved at h₁
    split at h₁
    · cases h₁; exact h
    · rename_i id hi
      split at h₁
      · cases h₁
      split at h₁
      · cases h₁
      · cases h₁
        exact PortManager.inverse_unregister h hi
  | clear =>
    cases he
    exact Inverse.empty

namespace PortMan

theorem inverse_exec {alloc : FdAlloc} {m m' : PortMan} {e : PortEv}
    (h : Inverse m.maps.ifindexToId m.maps.idToIfindex) (he : m.exec alloc e = .ok m') :
    Inverse m'.maps.ifindexToId m'.maps.idToIfindex := by
  cases m with
  | tap s =>
    obtain ⟨s', hs', rfl⟩ := map_eq_ok.mp he
    exact TapManager.inverse_exec h hs'
  | knet s =>
    obtain ⟨s', hs', rfl⟩ := map_eq_ok.mp he
    exact KnetManager.inverse_exec h hs'

theorem inverse_init (useKnet : Bool) :
    Inverse (init useKnet).maps.ifindexToId (init useKnet).maps.idToIfindex := by
  cases useKnet <;> exact Inverse.empty

/-- **The maps of the port managers.** With tap devices as with knet devices, after any calls that
have returned, `ifindex_to_id` and `id_to_ifindex` are inverse to each other: also when a device
is registered a second time, under a new ifindex, before its removal is seen. -/
theorem inverse_run (alloc : FdAlloc) (useKnet : Bool) (es : List PortEv) :
    WhileRuns (fun m : PortMan => m.maps.MutuallyInverse)
      (run (procStep (PortMan.exec alloc)) (.ok (init useKnet)) es) := by
  refine WhileRuns.imp (fun _ => PortManager.mutuallyInverse_of_inverse) ?_
  exact whileRuns_run (P := fun m : PortMan => Inverse m.maps.ifindexToId m.maps.idToIfindex)
    (inverse_init useKnet) (fun m e m' hm he => inverse_exec hm he) es

end PortMan

end Basebox
