import Basebox.Lib.LateTable
import Basebox.Netlink.TapQueue
import Basebox.Netlink.TapRemovals

/-!
# Packets between the tap devices and the ports (`tap_manager.cc`, `tap_io.cc`)

The manager creates and destroys the devices in one thread; the thread of `tap_io` reads and writes
their descriptors. It learns of a new or closed descriptor from `events`, which it works off when it
is woken, and it gets packets in `pout_queue`, each with the descriptor that its port had. A
descriptor that is closed may be the next one that is opened.

* `TapPath`: the manager, `tap_io` and the entries of `sw_cbs`.
* `settled_run`: after its events, `tap_io` reads the descriptors that `TapManager.io` has, each for
  the same port.
* `routed_iff_along`: no packet waits for the device of another port, and no device is read for
  another port, in all states exactly if each device gets a descriptor that has no entry in `sw_cbs`
  and no packets in the queue, or those of its own port.
* `inStep_iff_along`: the entries have the MTU that was set last exactly if no `update_mtu` comes
  before the registration that it is about was handled.
-/

namespace Basebox

/-- The packets have the port that they are for, which the program does not keep. -/
structure TapPath (Pkt : Type) where
  man : TapManager := {}
  io : TapIo (Nat × Pkt) := {}
  /-- `sw_cbs` and `events`, of which `io` has the descriptors. -/
  cbs : LateTable Nat TapIoDetails := {}

namespace TapPath

variable {Pkt : Type} (capacity : Nat) (s : TapPath Pkt)

/-- `register_tap`, with the callback for what is read. -/
def registerTap (fd : Nat) (td : TapIoDetails) : TapPath Pkt :=
  { s with io := s.io.registerTap fd, cbs := s.cbs.register fd (some td) }

/-- `unregister_tap`. -/
def unregisterTap (fd : Nat) : TapPath Pkt :=
  { s with io := s.io.unregisterTap fd, cbs := s.cbs.register fd none }

/-- `tap_io::update_mtu`, for the descriptor of a name. -/
def setMtu (name : String) (mtu : Nat) : TapPath Pkt :=
  match s.man.fdOfName name with
  | none => s
  | some fd => { s with cbs := s.cbs.edit fd fun td => { td with mtu := mtu } }

/-- `create_portdev`; a new device is registered. -/
def createPortdev (alloc : FdAlloc) (portId : Nat) (portName : String) (hwaddr : Mac) :
    Except Crash (TapPath Pkt) :=
  (s.man.createPortdev alloc portId portName hwaddr).map fun (_, man) =>
    match s.man.getFd portId, man.getFd portId with
    | none, some fd => { s with man := man }.registerTap fd { portId := portId }
    | _, _ => { s with man := man }

/-- `destroy_portdev`; the device is unregistered. -/
def destroyPortdev (portId : Nat) (portName : String) : TapPath Pkt :=
  let man := s.man.destroyPortdev portId portName
  match s.man.getFd portId with
  | none => { s with man := man }
  | some fd => { s with man := man }.unregisterTap fd

/-- `portdev_ready`, with the MTU of the device. -/
def portdevReady (isTun : Bool) (ifindex : Int) (name : String) (mtu : Nat) : TapPath Pkt :=
  let (handled, man) := s.man.portdevReady isTun ifindex name mtu
  if handled then { s with man := man }.setMtu name mtu else { s with man := man }

/-- `update_mtu`. -/
def updateMtu (name : String) (mtu : Nat) : TapPath Pkt :=
  { s with man := s.man.updateMtu name mtu }.setMtu name mtu

/-- `tap_manager::enqueue`. -/
def enqueue (portId : Nat) (pkt : Pkt) : TapPath Pkt :=
  match s.man.getFd portId with
  | none => s
  | some fd => { s with io := s.io.enqueue capacity fd (portId, pkt) }

/-- `tap_io::handle_wakeup`, until `tx` is called. -/
def handleWakeup : TapPath Pkt :=
  if s.io.pc = .idle then
    { s with io := s.io.step capacity .handleWakeup, cbs := s.cbs.handle }
  else s

/-- What the two threads do. -/
inductive Ev (Pkt : Type) where
  /-- A call of the manager, with the descriptors that `open` may give. -/
  | man (alloc : FdAlloc) (e : PortEv)
  | updateMtu (name : String) (mtu : Nat)
  | enqueue (portId : Nat) (pkt : Pkt)
  | handleWakeup
  | handleWriteEvent
  | tx (rc : WriteResult)

/-- The state after an event, unless the process ends. -/
def exec : Ev Pkt → Except Crash (TapPath Pkt)
  | .man alloc (.createPortdev p name hwaddr _) => s.createPortdev alloc p name hwaddr
  | .man _ (.destroyPortdev p name) => .ok (s.destroyPortdev p name)
  | .man _ (.portdevReady isTun i name mtu) => .ok (s.portdevReady isTun i name mtu)
  | .man alloc (.portdevRemoved isTun i name) =>
    (s.man.portdevRemoved alloc isTun i name).map fun (_, man) => { s with man := man }
  | .man _ .clear => .ok { s with man.toPortManager := s.man.toPortManager.clear }
  | .updateMtu name mtu => .ok (s.updateMtu name mtu)
  | .enqueue p pkt => .ok (s.enqueue capacity p pkt)
  | .handleWakeup => .ok (s.handleWakeup capacity)
  | .handleWriteEvent => .ok { s with io := s.io.step capacity .handleWriteEvent }
  | .tx rc => .ok { s with io := s.io.step capacity (.tx rc) }

/-- The runs of the process. -/
abbrev after (es : List (Ev Pkt)) : Except Crash (TapPath Pkt) :=
  run (procStep (exec capacity)) (.ok {}) es

/-! ## What the runs keep -/

/-- What every event preserves. -/
structure Inv : Prop where
  opened : ∀ p fd, s.man.getFd p = some fd → fd ∈ s.man.opened
  inj : ∀ p q fd, s.man.getFd p = some fd → s.man.getFd q = some fd → p = q
  /-- The descriptors that are registered are open, each for the port that has it, if one does. -/
  io : ∀ fd p, s.man.portOfFd fd = some p →
    fd ∈ s.man.opened ∧ ∀ q, s.man.getFd q = some fd → p = q
  /-- What `TapManager.io` says comes true when the events are handled. -/
  settled : ∀ fd, (s.cbs.settled fd).map (·.portId) = s.man.portOfFd fd
  /-- `io` and `cbs` are about the same entries. -/
  events : s.io.events = s.cbs.pending.map fun x =>
    (if x.2.isSome then .tapIoAdd else .tapIoRem, x.1)
  swCbs : ∀ fd, s.io.swCbs fd = if (s.cbs.tab fd).isSome then (fd : Int) else -1

/-- The port that a call opens a device for. -/
def opens (s : TapManager) : PortEv → Option Nat
  | .createPortdev p name _ _ =>
    if p ∉ s.tapDevs ∧ name ∉ s.portNames2id ∧ validDevname name = true ∧ p ∉ s.idToHwaddr then
      some p
    else none
  | .portdevRemoved isTun i name =>
    if isTun && validDevname name then
      (s.ifindexToId.lookup i).filter fun p =>
        p ∈ s.tapDevs ∧ ¬ (p ∈ s.portDeleted ∧ p ∈ s.idToIfindex)
    else none
  | _ => none

/-- The name and the MTU that a call hands to `update_mtu`. -/
def newMtu (s : TapManager) : PortEv → Option (String × Nat)
  | .portdevReady isTun i name mtu =>
    if isTun = true ∧ i ∉ s.ifindexToId ∧ name ∈ s.portNames2id then some (name, mtu) else none
  | _ => none

/-- What a call of the manager does to the descriptors. -/
inductive Call (alloc : FdAlloc) (e : PortEv) (s s' : TapPath Pkt) : Prop
  | created (p : Nat) (hopens : opens s.man e = some p) (hmtu : newMtu s.man e = none)
    (hfree : s.man.getFd p = none)
    (hfd : ∀ q, s'.man.getFd q = if q = p then some (alloc.1 s.man.opened) else s.man.getFd q)
    (hopened : s'.man.opened = insert (alloc.1 s.man.opened) s.man.opened)
    (hman : s'.man.io = s.man.io.insert (alloc.1 s.man.opened) { portId := p })
    (hio : s'.io = s.io.registerTap (alloc.1 s.man.opened))
    (hcbs : s'.cbs = s.cbs.register (alloc.1 s.man.opened) (some { portId := p }))
  | recreated (p : Nat) (hopens : opens s.man e = some p) (hmtu : newMtu s.man e = none)
    (hfd : ∀ q, s'.man.getFd q = if q = p then some (alloc.1 s.man.opened) else s.man.getFd q)
    (hopened : s'.man.opened = insert (alloc.1 s.man.opened) s.man.opened)
    (hman : s'.man.io = s.man.io) (hio : s'.io = s.io) (hcbs : s'.cbs = s.cbs)
  | destroyed (p fd : Nat) (hopens : opens s.man e = none) (hmtu : newMtu s.man e = none)
    (hp : s.man.getFd p = some fd)
    (hfd : ∀ q, s'.man.getFd q = if q = p then none else s.man.getFd q)
    (hopened : s'.man.opened = s.man.opened.erase fd) (hman : s'.man.io = s.man.io.erase fd)
    (hio : s'.io = s.io.unregisterTap fd) (hcbs : s'.cbs = s.cbs.register fd none)
  | mtu (name : String) (n : Nat) (hopens : opens s.man e = none)
    (hmtu : newMtu s.man e = some (name, n))
    (hfd : ∀ q, s'.man.getFd q = s.man.getFd q) (hopened : s'.man.opened = s.man.opened)
    (hman : s'.man.io = (s.man.updateMtu name n).io) (hio : s'.io = s.io)
    (hcbs : s'.cbs = (s.setMtu name n).cbs)
  | quiet (hopens : opens s.man e = none) (hmtu : newMtu s.man e = none)
    (hfd : ∀ q, s'.man.getFd q = s.man.getFd q)
    (hopened : s'.man.opened = s.man.opened) (hman : s'.man.io = s.man.io) (hio : s'.io = s.io)
    (hcbs : s'.cbs = s.cbs)

section Calls

variable {capacity} {s} {alloc : FdAlloc} {s' : TapPath Pkt}

theorem call_createPortdev {p : Nat} {name : String} {hwaddr : Mac} (r : Int)
    (h : s.createPortdev alloc p name hwaddr = .ok s') :
    Call alloc (.createPortdev p name hwaddr r) s s' := by
  obtain ⟨⟨rv, man⟩, hman, rfl⟩ := map_eq_ok.mp h
  by_cases hnew : p ∉ s.man.tapDevs ∧ name ∉ s.man.portNames2id ∧ validDevname name = true ∧
      p ∉ s.man.idToHwaddr
  · obtain ⟨hdev, hname, hvalid, hhw⟩ := hnew
    have hfree : s.man.getFd p = none := TapManager.getFd_eq_none.mpr hdev
    have hfd := TapManager.getFd_insert s.man
      { devname := name, hwaddr := hwaddr, fd := alloc.1 s.man.opened } p
    have hnew : man.getFd p = some (alloc.1 s.man.opened) ∧
        (∀ q, man.getFd q = if q = p then some (alloc.1 s.man.opened) else s.man.getFd q) ∧
        man.opened = insert (alloc.1 s.man.opened) s.man.opened ∧
        man.io = s.man.io.insert (alloc.1 s.man.opened) { portId := p } := by
      simp only [TapManager.createPortdev, hdev, hname, hvalid, hhw, or_self, if_false,
        Bool.not_true, Bool.false_eq_true] at hman
      cases hman
      exact ⟨(hfd p).trans (if_pos rfl), hfd, rfl, rfl⟩
    obtain ⟨hp, hfd, hopened, hio⟩ := hnew
    dsimp only
    rw [hfree, hp]
    exact .created p (by simp [opens, hdev, hname, hvalid, hhw]) rfl hfree hfd hopened hio rfl rfl
  · have hman' : man = s.man := by
      unfold TapManager.createPortdev at hman
      split_ifs at hman
      · cases hman
        rfl
      · cases hman
        rfl
      · rename_i h1 h2 h3
        exact absurd ⟨fun h => h1 (.inl h), fun h => h1 (.inr h), by simpa using h2, h3⟩ hnew
    subst hman'
    have hsame : (match s.man.getFd p, s.man.getFd p with
        | none, some fd => { s with man := s.man }.registerTap fd { portId := p }
        | _, _ => { s with man := s.man }) = s := by
      cases s.man.getFd p <;> rfl
    dsimp only
    rw [hsame]
    exact .quiet (by simp only [opens, if_neg hnew]) rfl (fun _ => rfl) rfl rfl rfl rfl

theorem call_destroyPortdev (p : Nat) (name : String) :
    Call alloc (.destroyPortdev p name) s (s.destroyPortdev p name) := by
  have hfd := fun q => TapHost.getFd_destroyPortdev s.man p q name
  unfold destroyPortdev
  cases hp : s.man.getFd p with
  | none =>
    have hp' := TapManager.getFd_eq_none.mp hp
    dsimp only
    rw [TapManager.destroyPortdev_of_none hp']
    exact .quiet rfl rfl (fun _ => rfl) rfl rfl rfl rfl
  | some fd =>
    obtain ⟨dev, hdev, rfl⟩ := Option.map_eq_some_iff.mp hp
    have hrest : (s.man.destroyPortdev p name).opened = s.man.opened.erase dev.fd ∧
        (s.man.destroyPortdev p name).io = s.man.io.erase dev.fd := by
      simp [TapManager.destroyPortdev, hdev]
    exact .destroyed p dev.fd rfl rfl hp hfd hrest.1 hrest.2 rfl rfl

/-- Registrations have no part in `update_mtu`. -/
theorem setMtu_congr {t : TapPath Pkt} (name : String) (mtu : Nat)
    (hnames : t.man.tapNames2fds = s.man.tapNames2fds) (hio : t.io = s.io) (hcbs : t.cbs = s.cbs) :
    (t.setMtu name mtu).man = t.man ∧ (t.setMtu name mtu).io = s.io ∧
      (t.setMtu name mtu).cbs = (s.setMtu name mtu).cbs := by
  unfold setMtu TapManager.fdOfName
  rw [hnames]
  cases s.man.tapNames2fds.lookup name with
  | none => exact ⟨rfl, hio, hcbs⟩
  | some fd => exact ⟨rfl, hio, by dsimp only; rw [hcbs]⟩

theorem call_portdevReady (isTun : Bool) (i : Int) (name : String) (mtu : Nat) :
    Call alloc (.portdevReady isTun i name mtu) s (s.portdevReady isTun i name mtu) := by
  obtain ⟨-, -, hnames, hdevs, -, hopened, -⟩ :=
    s.man.portdevReady_frame isTun i name mtu
  have hfd : ∀ q, (s.man.portdevReady isTun i name mtu).2.getFd q = s.man.getFd q := by
    intro q
    rw [TapManager.getFd, hdevs]
    rfl
  by_cases hready : isTun = true ∧ i ∉ s.man.ifindexToId ∧ name ∈ s.man.portNames2id
  · have hmtu : newMtu s.man (.portdevReady isTun i name mtu) = some (name, mtu) := if_pos hready
    obtain ⟨rfl, hi, hname⟩ := hready
    obtain ⟨p, hp⟩ := Table.mem_iff_lookup.mp hname
    have hres : (s.man.portdevReady true i name mtu).1 = true ∧
        (s.man.portdevReady true i name mtu).2.io = (s.man.updateMtu name mtu).io := by
      simp only [TapManager.portdevReady, PortManager.portdevReady,
        Table.not_mem_iff_lookup.mp hi, hp, Bool.not_true, Bool.false_eq_true, if_false]
      refine ⟨trivial, ?_⟩
      unfold TapManager.updateMtu
      dsimp only
      split
      · rfl
      · split <;> rfl
    obtain ⟨hman, hio, hcbs⟩ := setMtu_congr (s := s)
      (t := { s with man := (s.man.portdevReady true i name mtu).2 }) name mtu hnames rfl rfl
    have heq : s.portdevReady true i name mtu =
        { s with man := (s.man.portdevReady true i name mtu).2 }.setMtu name mtu := if_pos hres.1
    rw [heq]
    refine .mtu name mtu rfl hmtu ?_ ?_ ?_ hio hcbs
    · rw [hman]
      exact hfd
    · rw [hman]
      exact hopened
    · rw [hman]
      exact hres.2
  · have hmtu : newMtu s.man (.portdevReady isTun i name mtu) = none := if_neg hready
    have hsame : s.man.portdevReady isTun i name mtu = (false, s.man) := by
      unfold TapManager.portdevReady PortManager.portdevReady
      cases isTun with
      | false => rfl
      | true =>
        cases hi : s.man.ifindexToId.lookup i with
        | some p => rfl
        | none =>
          cases hp : s.man.portNames2id.lookup name with
          | none => rfl
          | some p =>
            exact absurd ⟨rfl, Table.not_mem_iff_lookup.mpr hi,
              Table.mem_iff_lookup.mpr ⟨p, hp⟩⟩ hready
    unfold portdevReady
    rw [hsame]
    exact .quiet rfl hmtu (fun _ => rfl) rfl rfl rfl rfl

theorem call_portdevRemoved {isTun : Bool} {i : Int} {name : String} {handled : Bool}
    {man : TapManager} (h : s.man.portdevRemoved alloc isTun i name = .ok (handled, man)) :
    Call alloc (.portdevRemoved isTun i name) s { s with man := man } := by
  obtain ⟨rfl, hign⟩ | ⟨id, rfl, hi, ⟨hdel, hmem, rfl⟩ | ⟨hdel, dev, hdev, rfl⟩⟩ :=
    TapManager.portdevRemoved_cases h
  · refine .quiet ?_ rfl (fun _ => rfl) rfl rfl rfl rfl
    rcases hign with rfl | hnone
    · rfl
    · simp [opens, hnone]
  · refine .quiet ?_ rfl (fun _ => rfl) rfl rfl rfl rfl
    simp [opens, hi, hdel, hmem]
  · have hmem : id ∈ s.man.tapDevs := Table.mem_iff_lookup.mpr ⟨dev, hdev⟩
    cases hv : validDevname name with
    | false =>
      have hsame : s.man.recreateTapdev alloc id name dev.hwaddr = s.man := by
        simp [TapManager.recreateTapdev, hv]
      rw [hsame]
      exact .quiet (by simp [opens, hv]) rfl (fun _ => rfl) rfl rfl rfl rfl
    | true =>
      have hfd := fun q => TapManager.getFd_recreateTapdev alloc (s := s.man) hv id q dev.hwaddr
      have hopened := (TapManager.recreateTapdev_frame alloc (s := s.man) hv id dev.hwaddr).1
      have hio : (s.man.recreateTapdev alloc id name dev.hwaddr).io = s.man.io := by
        simp [TapManager.recreateTapdev, hv]
      have hcond : decide (id ∈ s.man.tapDevs ∧
          ¬ (id ∈ s.man.portDeleted ∧ id ∈ s.man.idToIfindex)) = true :=
        decide_eq_true ⟨hmem, hdel⟩
      exact .recreated id (by simp only [opens, hv, hi, Option.filter, hcond]; rfl) rfl hfd hopened
        hio rfl rfl

theorem call_exec {e : PortEv} (h : s.exec capacity (.man alloc e) = .ok s') :
    Call alloc e s s' := by
  cases e with
  | createPortdev p name hwaddr r => exact call_createPortdev r h
  | destroyPortdev p name =>
    cases h
    exact call_destroyPortdev p name
  | portdevReady isTun i name mtu =>
    cases h
    exact call_portdevReady isTun i name mtu
  | portdevRemoved isTun i name =>
    obtain ⟨⟨handled, man⟩, hman, rfl⟩ := map_eq_ok.mp h
    exact call_portdevRemoved hman
  | clear =>
    cases h
    exact .quiet rfl rfl (fun _ => rfl) rfl rfl rfl rfl

end Calls

section Step

variable {capacity} {s} {alloc : FdAlloc} {e : PortEv} {s' : TapPath Pkt}

theorem inv_init : Inv ({} : TapPath Pkt) where
  opened _ _ h := by simp [TapManager.getFd] at h
  inj _ _ _ h := by simp [TapManager.getFd] at h
  io _ _ h := by simp [TapManager.portOfFd] at h
  settled _ := rfl
  events := rfl
  swCbs _ := rfl

theorem Inv.fresh (h : s.Inv) (p : Nat) : s.man.getFd p ≠ some (alloc.1 s.man.opened) :=
  fun hp => alloc.2 _ (h.opened p _ hp)

/-- A descriptor for a port, whether it had one or not. -/
theorem Inv.openFd (h : s.Inv) {p : Nat}
    (hfd : ∀ q, s'.man.getFd q = if q = p then some (alloc.1 s.man.opened) else s.man.getFd q)
    (hopened : s'.man.opened = insert (alloc.1 s.man.opened) s.man.opened) :
    (∀ q fd, s'.man.getFd q = some fd → fd ∈ s'.man.opened) ∧
      ∀ q q' fd, s'.man.getFd q = some fd → s'.man.getFd q' = some fd → q = q' := by
  refine ⟨fun q fd hq => ?_, fun q q' fd hq hq' => ?_⟩
  · rw [hopened]
    rw [hfd] at hq
    split_ifs at hq
    · cases hq
      exact Finset.mem_insert_self _ _
    · exact Finset.mem_insert_of_mem (h.opened q fd hq)
  · rw [hfd] at hq hq'
    split_ifs at hq hq' with h1 h2 h2
    · rw [h1, h2]
    · cases hq
      exact absurd hq' (h.fresh q')
    · cases hq'
      exact absurd hq (h.fresh q)
    · exact h.inj q q' fd hq hq'

theorem portOfFd_congr {man man' : TapManager} (h : man'.io = man.io) (fd : Nat) :
    man'.portOfFd fd = man.portOfFd fd := by
  rw [TapManager.portOfFd, h]
  rfl

theorem Inv.created (h : s.Inv) {p : Nat}
    (hfd : ∀ q, s'.man.getFd q = if q = p then some (alloc.1 s.man.opened) else s.man.getFd q)
    (hopened : s'.man.opened = insert (alloc.1 s.man.opened) s.man.opened)
    (hman : s'.man.io = s.man.io.insert (alloc.1 s.man.opened) { portId := p })
    (hio : s'.io = s.io.registerTap (alloc.1 s.man.opened))
    (hcbs : s'.cbs = s.cbs.register (alloc.1 s.man.opened) (some { portId := p })) : s'.Inv := by
  obtain ⟨h1, h2⟩ := h.openFd hfd hopened
  have hport : ∀ fd, s'.man.portOfFd fd =
      if fd = alloc.1 s.man.opened then some p else s.man.portOfFd fd := by
    intro fd
    rw [TapManager.portOfFd, hman, Table.lookup_insert_ite]
    split <;> rfl
  refine ⟨h1, h2, fun fd q hq => ?_, fun fd => ?_, ?_, fun fd => ?_⟩
  · rw [hport] at hq
    split_ifs at hq with hnew
    · cases hq
      subst hnew
      refine ⟨by rw [hopened]; exact Finset.mem_insert_self _ _, fun q' hq' => ?_⟩
      exact h2 _ _ _ (by rw [hfd, if_pos rfl]) hq'
    · obtain ⟨hmem, huniq⟩ := h.io fd q hq
      refine ⟨by rw [hopened]; exact Finset.mem_insert_of_mem hmem, fun q' hq' => ?_⟩
      rw [hfd] at hq'
      split_ifs at hq'
      · exact absurd (Option.some.inj hq').symm hnew
      · exact huniq q' hq'
  · rw [hcbs, LateTable.settled_register, hport, Function.update_apply]
    split_ifs
    · rfl
    · exact h.settled fd
  · rw [hio, hcbs]
    simp only [TapIo.registerTap, LateTable.register, List.map_append, h.events]
    rfl
  · rw [hio, hcbs]
    exact h.swCbs fd

theorem Inv.destroyed (h : s.Inv) {p fd : Nat} (hp : s.man.getFd p = some fd)
    (hfd : ∀ q, s'.man.getFd q = if q = p then none else s.man.getFd q)
    (hopened : s'.man.opened = s.man.opened.erase fd) (hman : s'.man.io = s.man.io.erase fd)
    (hio : s'.io = s.io.unregisterTap fd) (hcbs : s'.cbs = s.cbs.register fd none) : s'.Inv := by
  have hport : ∀ g, s'.man.portOfFd g = if g = fd then none else s.man.portOfFd g := by
    intro g
    rw [TapManager.portOfFd, hman, Table.lookup_erase_ite]
    split <;> rfl
  have hget : ∀ q g, s'.man.getFd q = some g → q ≠ p ∧ s.man.getFd q = some g := by
    intro q g hq
    rw [hfd] at hq
    split_ifs at hq with hne
    exact ⟨hne, hq⟩
  refine ⟨fun q g hq => ?_, fun q q' g hq hq' => ?_, fun g q hq => ?_, fun g => ?_, ?_,
    fun g => ?_⟩
  · obtain ⟨hne, hq⟩ := hget q g hq
    rw [hopened, Finset.mem_erase]
    refine ⟨?_, h.opened q g hq⟩
    rintro rfl
    exact hne (h.inj q p _ hq hp)
  · exact h.inj q q' g (hget q g hq).2 (hget q' g hq').2
  · rw [hport] at hq
    split_ifs at hq with hne
    obtain ⟨hmem, huniq⟩ := h.io g q hq
    exact ⟨by rw [hopened]; exact Finset.mem_erase.mpr ⟨hne, hmem⟩,
      fun q' hq' => huniq q' (hget q' g hq').2⟩
  · rw [hcbs, LateTable.settled_register, hport, Function.update_apply]
    split_ifs
    · rfl
    · exact h.settled g
  · rw [hio, hcbs]
    simp only [TapIo.unregisterTap, LateTable.register, List.map_append, h.events]
    rfl
  · rw [hio, hcbs]
    exact h.swCbs g

/-- A new MTU is not about ports. -/
theorem settled_setMtu (name : String) (mtu fd : Nat) :
    ((s.setMtu name mtu).cbs.settled fd).map (·.portId) =
      (s.cbs.settled fd).map (·.portId) := by
  unfold setMtu
  split
  · rfl
  · rename_i g hg
    simp only [LateTable.settled_edit]
    split_ifs with h
    · rw [h.1, Option.map_map]
      rfl
    · rfl

theorem setMtu_frame (s : TapPath Pkt) (name : String) (mtu : Nat) :
    (s.setMtu name mtu).man = s.man ∧ (s.setMtu name mtu).io = s.io ∧
      (s.setMtu name mtu).cbs.pending = s.cbs.pending ∧
      ∀ fd, ((s.setMtu name mtu).cbs.tab fd).map (·.portId) =
        (s.cbs.tab fd).map (·.portId) := by
  unfold setMtu
  split
  · exact ⟨rfl, rfl, rfl, fun _ => rfl⟩
  · rename_i g hg
    refine ⟨rfl, rfl, rfl, fun fd => ?_⟩
    simp only [LateTable.edit, Function.update_apply]
    split_ifs with h
    · rw [h, Option.map_map]
      rfl
    · rfl

/-- What leaves the descriptors alone, and the entries up to their MTU. -/
theorem Inv.same (h : s.Inv) (hfd : ∀ q, s'.man.getFd q = s.man.getFd q)
    (hopened : s'.man.opened = s.man.opened)
    (hman : ∀ fd, s'.man.portOfFd fd = s.man.portOfFd fd) (hio : s'.io = s.io)
    (hsettled : ∀ fd, (s'.cbs.settled fd).map (·.portId) = (s.cbs.settled fd).map (·.portId))
    (hpending : s'.cbs.pending = s.cbs.pending)
    (htab : ∀ fd, (s'.cbs.tab fd).map (·.portId) = (s.cbs.tab fd).map (·.portId)) : s'.Inv := by
  refine ⟨fun p fd hp => ?_, fun p q fd hp hq => ?_, fun fd p hp => ?_, fun fd => ?_, ?_,
    fun fd => ?_⟩
  · rw [hopened]
    exact h.opened p fd (hfd p ▸ hp)
  · exact h.inj p q fd (hfd p ▸ hp) (hfd q ▸ hq)
  · rw [hopened]
    rw [hman] at hp
    obtain ⟨hmem, huniq⟩ := h.io fd p hp
    exact ⟨hmem, fun q hq => huniq q (hfd q ▸ hq)⟩
  · rw [hsettled, hman]
    exact h.settled fd
  · rw [hio, hpending]
    exact h.events
  · have hsome : (s'.cbs.tab fd).isSome = (s.cbs.tab fd).isSome := by
      have := congrArg Option.isSome (htab fd)
      simpa using this
    rw [hio, hsome]
    exact h.swCbs fd

theorem Inv.call (h : s.Inv) (hcall : Call alloc e s s') : s'.Inv := by
  cases hcall with
  | created p _ _ _ hfd hopened hman hio hcbs => exact h.created hfd hopened hman hio hcbs
  | recreated p _ _ hfd hopened hman hio hcbs =>
    obtain ⟨h1, h2⟩ := h.openFd hfd hopened
    refine ⟨h1, h2, fun fd q hq => ?_, fun fd => ?_, by rw [hio, hcbs]; exact h.events,
      fun fd => by rw [hio, hcbs]; exact h.swCbs fd⟩
    · rw [portOfFd_congr hman] at hq
      obtain ⟨hmem, huniq⟩ := h.io fd q hq
      refine ⟨by rw [hopened]; exact Finset.mem_insert_of_mem hmem, fun q' hq' => ?_⟩
      rw [hfd] at hq'
      split_ifs at hq'
      · cases hq'
        exact absurd hmem (alloc.2 _)
      · exact huniq q' hq'
    · rw [hcbs, portOfFd_congr hman]
      exact h.settled fd
  | destroyed p fd _ _ hp hfd hopened hman hio hcbs =>
    exact h.destroyed hp hfd hopened hman hio hcbs
  | mtu name n _ _ hfd hopened hman hio hcbs =>
    obtain ⟨-, -, hpending, htab⟩ := setMtu_frame s name n
    refine h.same hfd hopened (fun fd => ?_) hio (fun fd => ?_) ?_ (fun fd => ?_)
    · rw [portOfFd_congr hman, TapManager.portOfFd_updateMtu]
    · rw [hcbs, settled_setMtu]
    · rw [hcbs, hpending]
    · rw [hcbs, htab]
  | quiet _ _ hfd hopened hman hio hcbs =>
    refine h.same hfd hopened (portOfFd_congr hman) hio ?_ ?_ ?_
    · exact fun fd => by rw [hcbs]
    · rw [hcbs]
    · exact fun fd => by rw [hcbs]

theorem updateMtu_frame (man : TapManager) (name : String) (mtu : Nat) :
    (man.updateMtu name mtu).tapDevs = man.tapDevs ∧
      (man.updateMtu name mtu).opened = man.opened := by
  unfold TapManager.updateMtu
  split
  · exact ⟨rfl, rfl⟩
  · split <;> exact ⟨rfl, rfl⟩

theorem Inv.updateMtu (h : s.Inv) (name : String) (mtu : Nat) : (s.updateMtu name mtu).Inv := by
  obtain ⟨hman, hio, hpending, htab⟩ :=
    setMtu_frame { s with man := s.man.updateMtu name mtu } name mtu
  refine h.same (fun q => ?_) ?_ (fun fd => ?_) hio
    (settled_setMtu (s := { s with man := s.man.updateMtu name mtu }) name mtu) hpending htab
  · rw [TapPath.updateMtu, hman, TapManager.getFd, (updateMtu_frame s.man name mtu).1]
    rfl
  · rw [TapPath.updateMtu, hman]
    exact (updateMtu_frame s.man name mtu).2
  · rw [TapPath.updateMtu, hman]
    exact TapManager.portOfFd_updateMtu s.man name mtu fd

/-- Another queue for the packets. -/
theorem Inv.withIo (h : s.Inv) {io : TapIo (Nat × Pkt)} (hevents : io.events = s.io.events)
    (hcbs : io.swCbs = s.io.swCbs) : Inv { s with io := io } where
  opened := h.opened
  inj := h.inj
  io := h.io
  settled := h.settled
  events := hevents.trans h.events
  swCbs fd := (congrFun hcbs fd).trans (h.swCbs fd)

theorem Inv.handleWakeup (h : s.Inv) : (s.handleWakeup capacity).Inv := by
  unfold TapPath.handleWakeup
  split_ifs with hpc
  · have hfold : ∀ (l : List (Nat × Option TapIoDetails)) (swCbs : Nat → Int)
        (tab : Nat → Option TapIoDetails),
        (∀ fd, swCbs fd = if (tab fd).isSome then (fd : Int) else -1) → ∀ fd,
        (l.map fun x => (if x.2.isSome then TapIoEvent.tapIoAdd else .tapIoRem, x.1)).foldl
            TapIo.handleEvent swCbs fd =
          if (l.foldl (fun tab x => Function.update tab x.1 x.2) tab fd).isSome then (fd : Int)
          else -1 := by
      intro l
      induction l with
      | nil => exact fun _ _ h => h
      | cons x l ih =>
        intro swCbs tab htab fd
        rw [List.map_cons, List.foldl_cons, List.foldl_cons]
        refine ih _ _ (fun g => ?_) fd
        cases hx : x.2 with
        | none =>
          simp only [TapIo.handleEvent, Option.isSome_none, Bool.false_eq_true, if_false,
            Function.update_apply]
          split_ifs <;> simp_all
        | some td =>
          simp only [TapIo.handleEvent, Option.isSome_some, if_true, Function.update_apply]
          split_ifs <;> simp_all
    have hio : s.io.step capacity .handleWakeup = { s.io.handleEvents with pc := .swap } :=
      if_pos hpc
    rw [hio]
    refine ⟨h.opened, h.inj, h.io, h.settled, rfl, fun fd => ?_⟩
    change (s.io.events.foldl TapIo.handleEvent s.io.swCbs) fd = _
    rw [h.events]
    exact hfold s.cbs.pending s.io.swCbs s.cbs.tab h.swCbs fd
  · exact h

/-- The queue after a step of `tx` has nothing new. -/
theorem queued_txStep (io : TapIo (Nat × Pkt)) (rc : WriteResult) {x : Int × Nat × Pkt}
    (h : x ∈ (io.txStep rc).queued) : x ∈ io.queued := by
  unfold TapIo.queued at *
  rw [List.mem_append] at *
  unfold TapIo.txStep at h
  split at h
  · exact h
  · exact .inr (by simpa [SwapQueue.swapOut] using h)
  · unfold TapIo.turn at h
    split at h
    · exact h
    · rename_i pkt l hown
      rw [hown]
      cases rc with
      | ok =>
        simp only [SwapQueue.takeFront, hown] at h
        exact h.imp_left (List.mem_cons_of_mem _)
      | eagain =>
        simpa [SwapQueue.putBack, SwapQueue.copyFront_eq, hown, or_assoc] using h
      | eio | unknown =>
        simp only [TapIo.releasePackets, SwapQueue.takeAll] at h
        exact .inr (h.resolve_left List.not_mem_nil)

theorem frame_txStep (io : TapIo (Nat × Pkt)) (rc : WriteResult) :
    (io.txStep rc).events = io.events ∧ (io.txStep rc).swCbs = io.swCbs := by
  unfold TapIo.txStep
  split
  · exact ⟨rfl, rfl⟩
  · exact ⟨rfl, rfl⟩
  · unfold TapIo.turn
    split
    · exact ⟨rfl, rfl⟩
    · cases rc <;> exact ⟨rfl, rfl⟩

theorem Inv.exec (h : s.Inv) {ev : Ev Pkt} (hexec : s.exec capacity ev = .ok s') : s'.Inv := by
  cases ev with
  | man alloc e => exact h.call (call_exec hexec)
  | updateMtu name mtu =>
    cases hexec
    exact h.updateMtu name mtu
  | enqueue p pkt =>
    cases hexec
    unfold TapPath.enqueue
    split
    · exact h
    · rename_i fd hfd
      rcases s.io.enqueue_cases capacity fd (p, pkt) with he | he
      · rw [he]
        exact h.withIo rfl rfl
      · rw [he]
        exact h.withIo rfl rfl
  | handleWakeup =>
    cases hexec
    exact h.handleWakeup
  | handleWriteEvent =>
    cases hexec
    refine h.withIo ?_ ?_
    · dsimp only [TapIo.step]
      split <;> rfl
    · dsimp only [TapIo.step]
      split <;> rfl
  | tx rc =>
    cases hexec
    exact h.withIo (frame_txStep s.io rc).1 (frame_txStep s.io rc).2

end Step

/-- What the manager says about the descriptors that are read comes true when `tap_io` has worked
off its events. -/
theorem settled_run (capacity : Nat) (es : List (Ev Pkt)) :
    WhileRuns (fun s => s.Inv) (after capacity es) :=
  whileRuns_run inv_init (fun _ _ _ h he => h.exec he) es

/-! ## Packets for the right port -/

/-- No packet goes to or comes from the wrong port. -/
structure Routed : Prop where
  /-- No packet waits for the device of another port. -/
  written : ∀ x ∈ s.io.queued, ∀ q fd, s.man.getFd q = some fd → x.1 = (fd : Int) → q = x.2.1
  /-- What is read from a device comes from its port. -/
  read : ∀ fd td q, s.cbs.tab fd = some td → s.man.getFd q = some fd → td.portId = q

/-- The condition on a step: a descriptor that is opened for a port has no packets and no entry of
another one. -/
def Fresh : Ev Pkt → Prop
  | .man alloc e => ∀ p, opens s.man e = some p →
    (∀ x ∈ s.io.queued, x.1 = (alloc.1 s.man.opened : Int) → x.2.1 = p) ∧
      ∀ td, s.cbs.tab (alloc.1 s.man.opened) = some td → td.portId = p
  | _ => True

section Step

variable {capacity} {s} {alloc : FdAlloc} {e : PortEv} {s' : TapPath Pkt}

theorem routed_init : Routed ({} : TapPath Pkt) where
  written _ hx := by simp [TapIo.queued] at hx
  read _ _ _ h := by cases h

/-- A device is opened: its descriptor is new to all others. -/
theorem routed_openFd_iff (h : s.Routed) {p : Nat}
    (hfd : ∀ q, s'.man.getFd q = if q = p then some (alloc.1 s.man.opened) else s.man.getFd q)
    (hqueued : s'.io.queued = s.io.queued) (htab : s'.cbs.tab = s.cbs.tab) :
    s'.Routed ↔ (∀ x ∈ s.io.queued, x.1 = (alloc.1 s.man.opened : Int) → x.2.1 = p) ∧
      ∀ td, s.cbs.tab (alloc.1 s.man.opened) = some td → td.portId = p := by
  have hp : s'.man.getFd p = some (alloc.1 s.man.opened) := by rw [hfd, if_pos rfl]
  constructor
  · intro h'
    refine ⟨fun x hx hxfd => ?_, fun td htd => ?_⟩
    · exact (h'.written x (hqueued ▸ hx) p _ hp hxfd).symm
    · exact h'.read _ td p (htab ▸ htd) hp
  · rintro ⟨hw, hr⟩
    refine ⟨fun x hx q fd hq hxfd => ?_, fun fd td q htd hq => ?_⟩
    · rw [hqueued] at hx
      rw [hfd] at hq
      split_ifs at hq with hqp
      · cases hq
        rw [hqp, hw x hx hxfd]
      · exact h.written x hx q fd hq hxfd
    · rw [htab] at htd
      rw [hfd] at hq
      split_ifs at hq with hqp
      · cases hq
        rw [hqp, hr td htd]
      · exact h.read fd td q htd hq

/-- Less descriptors, and no new packets and entries. -/
theorem Routed.mono (h : s.Routed)
    (hfd : ∀ q fd, s'.man.getFd q = some fd → s.man.getFd q = some fd)
    (hqueued : ∀ x ∈ s'.io.queued, x ∈ s.io.queued)
    (htab : ∀ fd, (s'.cbs.tab fd).map (·.portId) = (s.cbs.tab fd).map (·.portId)) :
    s'.Routed := by
  refine ⟨fun x hx q fd hq => h.written x (hqueued x hx) q fd (hfd q fd hq), ?_⟩
  intro fd td q htd hq
  have hport := htab fd
  rw [htd, Option.map_some] at hport
  obtain ⟨td', htd', hport⟩ := Option.map_eq_some_iff.mp hport.symm
  rw [← hport]
  exact h.read fd td' q htd' (hfd q fd hq)

theorem routed_call_iff (h : s.Routed) (hcall : Call alloc e s s') :
    s'.Routed ↔ s.Fresh (.man alloc e) := by
  have hnone : opens s.man e = none → s.Fresh (.man alloc e) := by
    intro hno p hp
    rw [hno] at hp
    cases hp
  have hone : ∀ p, opens s.man e = some p → (s.Fresh (.man alloc e) ↔
      (∀ x ∈ s.io.queued, x.1 = (alloc.1 s.man.opened : Int) → x.2.1 = p) ∧
        ∀ td, s.cbs.tab (alloc.1 s.man.opened) = some td → td.portId = p) := by
    intro p hp
    refine ⟨fun hf => hf p hp, fun hc q hq => ?_⟩
    rw [hp] at hq
    cases hq
    exact hc
  cases hcall with
  | created p hopens _ _ hfd _ _ hio hcbs =>
    rw [hone p hopens]
    exact routed_openFd_iff h hfd (by rw [hio]; rfl) (by rw [hcbs]; rfl)
  | recreated p hopens _ hfd _ _ hio hcbs =>
    rw [hone p hopens]
    exact routed_openFd_iff h hfd (by rw [hio]) (by rw [hcbs])
  | destroyed p fd hopens _ _ hfd _ _ hio hcbs =>
    refine iff_of_true (h.mono (fun q g hq => ?_) ?_ ?_) (hnone hopens)
    · rw [hfd] at hq
      split_ifs at hq
      exact hq
    · rw [hio]
      exact fun _ hx => hx
    · exact fun g => by rw [hcbs]; rfl
  | mtu name n hopens _ hfd _ _ hio hcbs =>
    refine iff_of_true (h.mono (fun q g hq => hfd q ▸ hq) ?_ ?_) (hnone hopens)
    · rw [hio]
      exact fun _ hx => hx
    · exact fun g => by rw [hcbs]; exact (setMtu_frame s name n).2.2.2 g
  | quiet hopens _ hfd _ _ hio hcbs =>
    refine iff_of_true (h.mono (fun q g hq => hfd q ▸ hq) ?_ ?_) (hnone hopens)
    · rw [hio]
      exact fun _ hx => hx
    · exact fun g => by rw [hcbs]

/-- A call that opens a device does not end the process. -/
theorem opens_of_error {c : Crash} (h : s.exec capacity (.man alloc e) = .error c) :
    opens s.man e = none := by
  by_contra hne
  obtain ⟨p, hp⟩ := Option.ne_none_iff_exists'.mp hne
  cases e with
  | createPortdev q name hwaddr r =>
    obtain ⟨⟨hdev, hname, hvalid, hhw⟩, -⟩ := Option.ite_none_right_eq_some.mp hp
    simp [exec, createPortdev, TapManager.createPortdev, hdev, hname, hvalid, hhw, Except.map] at h
  | portdevRemoved isTun i name =>
    obtain ⟨hc, hfilter⟩ := Option.ite_none_right_eq_some.mp hp
    obtain ⟨hi, hcond⟩ := Option.filter_eq_some_iff.mp hfilter
    obtain ⟨hdev, hnot⟩ := of_decide_eq_true hcond
    obtain ⟨dev, hdev⟩ := Table.mem_iff_lookup.mp hdev
    obtain ⟨rfl, -⟩ := Bool.and_eq_true_iff.mp hc
    simp [exec, TapManager.portdevRemoved, hi, hnot, hdev, Except.map] at h
  | destroyPortdev q name => cases hp
  | portdevReady isTun i name mtu => cases hp
  | clear => cases hp

theorem Routed.enqueue (h : s.Routed) (hi : s.Inv) (p : Nat) (pkt : Pkt) :
    (s.enqueue capacity p pkt).Routed := by
  unfold TapPath.enqueue
  cases hp : s.man.getFd p with
  | none => exact h
  | some g =>
    refine ⟨fun x hx q fd hq hxfd => ?_, h.read⟩
    have hold : x ∈ s.io.queued ∨ x = ((g : Int), p, pkt) := by
      dsimp only at hx
      rcases s.io.enqueue_cases capacity g (p, pkt) with he | he
      · rw [he] at hx
        simpa [TapIo.queued, SwapQueue.arrive, or_assoc] using hx
      · rw [he] at hx
        exact .inl hx
    rcases hold with hold | rfl
    · exact h.written x hold q fd hq hxfd
    · cases Int.ofNat.inj hxfd
      exact hi.inj q p g hq hp

theorem Routed.handleWakeup (h : s.Routed) (hi : s.Inv) : (s.handleWakeup capacity).Routed := by
  unfold TapPath.handleWakeup
  split_ifs with hpc
  · have hio : s.io.step capacity .handleWakeup = { s.io.handleEvents with pc := .swap } :=
      if_pos hpc
    refine ⟨fun x hx => h.written x (by rw [hio] at hx; exact hx), fun fd td q htd hq => ?_⟩
    have hport := hi.settled fd
    change s.cbs.settled fd = some td at htd
    rw [htd] at hport
    exact (hi.io fd td.portId hport.symm).2 q hq
  · exact h

theorem routed_exec_iff (hi : s.Inv) (h : s.Routed) (ev : Ev Pkt) :
    WhileRuns Routed (s.exec capacity ev) ↔ s.Fresh ev := by
  cases ev with
  | man alloc e =>
    cases hexec : s.exec capacity (.man alloc e) with
    | ok s' => exact routed_call_iff h (call_exec hexec)
    | error c =>
      refine iff_of_true trivial fun p hp => ?_
      rw [opens_of_error hexec] at hp
      cases hp
  | updateMtu name mtu =>
    obtain ⟨hman, hio, -, htab⟩ :=
      setMtu_frame { s with man := s.man.updateMtu name mtu } name mtu
    refine iff_of_true (h.mono (fun q fd hq => ?_) (fun x hx => ?_) htab) trivial
    · rw [TapPath.updateMtu, hman] at hq
      rw [← hq, TapManager.getFd, TapManager.getFd, (updateMtu_frame s.man name mtu).1]
    · rw [TapPath.updateMtu, hio] at hx
      exact hx
  | enqueue p pkt => exact iff_of_true (h.enqueue hi p pkt) trivial
  | handleWakeup => exact iff_of_true (h.handleWakeup hi) trivial
  | handleWriteEvent =>
    refine iff_of_true (h.mono (fun _ _ hq => hq) (fun x hx => ?_) fun _ => rfl) trivial
    simp only [TapIo.step] at hx
    split at hx <;> exact hx
  | tx rc =>
    exact iff_of_true (h.mono (fun _ _ hq => hq) (fun x hx => queued_txStep s.io rc hx)
      fun _ => rfl) trivial

end Step

/-- A packet waits for port 1, and port 2 gets the descriptor. -/
theorem reusedFd_not_routed :
    ¬ WhileRuns Routed (after 1024 [.man TapManager.nextFd (.createPortdev 1 "port1" 1 0),
      .handleWakeup, .tx .ok, .tx .ok, .enqueue 1 'a',
      .man TapManager.nextFd (.destroyPortdev 1 "port1"),
      .man TapManager.nextFd (.createPortdev 2 "port2" 2 0)]) := by
  intro h
  have hend : Runs (fun s => (1, 1, 'a') ∈ s.io.queued ∧ s.man.getFd 2 = some 1)
      (after 1024 [.man TapManager.nextFd (.createPortdev 1 "port1" 1 0),
        .handleWakeup, .tx .ok, .tx .ok, .enqueue 1 'a',
        .man TapManager.nextFd (.destroyPortdev 1 "port1"),
        .man TapManager.nextFd (.createPortdev 2 "port2" 2 0)]) := by decide
  obtain ⟨s, hs, hmem, hfd⟩ := runs_iff.mp hend
  rw [hs] at h
  exact absurd (h.written _ hmem 2 1 hfd rfl) (by decide)

/-! ## The MTU -/

/-- After its events, `tap_io` has the entries of the manager, MTU included. -/
def InStep : Prop := ∀ fd, s.cbs.settled fd = s.man.io.lookup fd

/-- `update_mtu` sets what is registered, or what will be set again. -/
def Registered (name : String) (mtu : Nat) : Prop :=
  ∀ fd td, s.man.fdOfName name = some fd → s.man.io.lookup fd = some td →
    fd ∈ s.cbs.pending.map Prod.fst → td.mtu = mtu

/-- The condition on a step. -/
def InTime : Ev Pkt → Prop
  | .man _ e => ∀ name mtu, newMtu s.man e = some (name, mtu) → s.Registered name mtu
  | .updateMtu name mtu => s.Registered name mtu
  | _ => True

section Step

variable {capacity} {s} {alloc : FdAlloc} {e : PortEv} {s' : TapPath Pkt}

theorem lookup_updateMtu (man : TapManager) (name : String) (mtu fd : Nat) :
    (man.updateMtu name mtu).io.lookup fd =
      if man.fdOfName name = some fd then
        (man.io.lookup fd).map fun td => { td with mtu := mtu }
      else man.io.lookup fd := by
  rw [TapManager.fdOfName]
  cases hfd : man.tapNames2fds.lookup name with
  | none => simp [TapManager.updateMtu, hfd]
  | some g =>
    cases htd : man.io.lookup g with
    | none =>
      have hsame : man.updateMtu name mtu = man := by simp [TapManager.updateMtu, hfd, htd]
      rw [hsame]
      split_ifs with h
      · cases h
        rw [htd]
        rfl
      · rfl
    | some td =>
      have hio : (man.updateMtu name mtu).io = man.io.insert g { td with mtu := mtu } := by
        simp [TapManager.updateMtu, hfd, htd]
      rw [hio, Table.lookup_insert_ite]
      by_cases h : fd = g
      · subst h
        simp [htd]
      · rw [if_neg h, if_neg fun hs => h (Option.some.inj hs).symm]

/-- An MTU that is set in place is what the events leave, too. -/
theorem inStep_setMtu_iff (h : s.InStep) (name : String) (mtu : Nat)
    (hman : s'.man.io = (s.man.updateMtu name mtu).io)
    (hcbs : s'.cbs = (s.setMtu name mtu).cbs) : s'.InStep ↔ s.Registered name mtu := by
  have hlook := lookup_updateMtu s.man name mtu
  have hs : ∀ fd, s.cbs.settled fd = s.man.io.lookup fd := h
  unfold InStep Registered
  rw [hman, hcbs]
  cases hfd : s.man.fdOfName name with
  | none =>
    refine iff_of_true (fun fd => ?_) (by simp)
    rw [hlook, hfd, if_neg (by simp), setMtu, hfd]
    exact h fd
  | some g =>
    have hset : ∀ fd, (s.setMtu name mtu).cbs.settled fd =
        if fd = g ∧ g ∉ s.cbs.pending.map Prod.fst then
          (s.man.io.lookup g).map fun td => { td with mtu := mtu }
        else s.man.io.lookup fd := by
      intro fd
      rw [setMtu, hfd]
      simp only [LateTable.settled_edit, hs]
    constructor
    · intro h' fd td hg htd hmem
      cases hg
      have hg := h' g
      rw [hset, hlook, hfd, if_neg fun hn => hn.2 hmem, if_pos rfl, htd, Option.map_some] at hg
      exact congrArg TapIoDetails.mtu (Option.some.inj hg)
    · intro hr fd
      rw [hset, hlook, hfd]
      by_cases hg : fd = g
      · subst hg
        rw [if_pos rfl]
        split_ifs with hmem
        · rfl
        · have hmem := not_not.mp fun hn => hmem ⟨rfl, hn⟩
          cases htd : s.man.io.lookup fd with
          | none => rfl
          | some td =>
            rw [Option.map_some, ← hr fd td rfl htd hmem]
      · rw [if_neg fun hn => hg hn.1, if_neg fun hs => hg (Option.some.inj hs).symm]

theorem inStep_call_iff (h : s.InStep) (hcall : Call alloc e s s') :
    s'.InStep ↔ s.InTime (.man alloc e) := by
  have hnone : newMtu s.man e = none → s.InTime (.man alloc e) := by
    intro hno name mtu hp
    rw [hno] at hp
    cases hp
  cases hcall with
  | created p _ hmtu _ _ _ hman _ hcbs =>
    refine iff_of_true (fun fd => ?_) (hnone hmtu)
    rw [hman, hcbs, LateTable.settled_register, Table.lookup_insert_ite, Function.update_apply, h]
  | recreated p _ hmtu _ _ hman _ hcbs =>
    refine iff_of_true (fun fd => ?_) (hnone hmtu)
    rw [hman, hcbs, h]
  | destroyed p fd _ hmtu _ _ _ hman _ hcbs =>
    refine iff_of_true (fun g => ?_) (hnone hmtu)
    rw [hman, hcbs, LateTable.settled_register, Table.lookup_erase_ite, Function.update_apply, h]
  | mtu name n _ hmtu _ _ hman _ hcbs =>
    rw [inStep_setMtu_iff h name n hman hcbs]
    constructor
    · intro hr name' n' he
      rw [hmtu] at he
      cases he
      exact hr
    · exact fun hr => hr name n hmtu
  | quiet _ hmtu _ _ hman _ hcbs =>
    refine iff_of_true (fun fd => ?_) (hnone hmtu)
    rw [hman, hcbs, h]

/-- A call that hands on an MTU does not end the process. -/
theorem newMtu_of_error {c : Crash} (h : s.exec capacity (.man alloc e) = .error c) :
    newMtu s.man e = none := by
  cases e with
  | portdevReady isTun i name mtu => cases h
  | createPortdev | destroyPortdev | portdevRemoved | clear => rfl

theorem inStep_exec_iff (h : s.InStep) (ev : Ev Pkt) :
    WhileRuns InStep (s.exec capacity ev) ↔ s.InTime ev := by
  cases ev with
  | man alloc e =>
    cases hexec : s.exec capacity (.man alloc e) with
    | ok s' => exact inStep_call_iff h (call_exec hexec)
    | error c =>
      refine iff_of_true trivial fun name mtu hp => ?_
      rw [newMtu_of_error hexec] at hp
      cases hp
  | updateMtu name mtu =>
    obtain ⟨hman, -, hcbs⟩ :=
      setMtu_congr (s := s) (t := { s with man := s.man.updateMtu name mtu }) name mtu
        (by unfold TapManager.updateMtu; split; rfl; split <;> rfl) rfl rfl
    exact inStep_setMtu_iff h name mtu (congrArg TapManager.io hman) hcbs
  | enqueue p pkt =>
    refine iff_of_true ?_ trivial
    change InStep (s.enqueue capacity p pkt)
    unfold enqueue
    split <;> exact h
  | handleWakeup =>
    refine iff_of_true ?_ trivial
    change InStep (s.handleWakeup capacity)
    unfold handleWakeup
    split_ifs <;> exact h
  | handleWriteEvent | tx rc => exact iff_of_true h trivial

end Step

/-- **The entries of `tap_io`** are what the manager has set, in all states exactly if no MTU comes
before the registration of its descriptor was handled, unless it is the MTU of the registration. -/
theorem inStep_iff_along (capacity : Nat) (es : List (Ev Pkt)) :
    (∀ n, WhileRuns InStep (after capacity (es.take n))) ↔
      Along (procStep (exec capacity)) (OnRunning InTime) (.ok {}) es := by
  have hinit : WhileRuns InStep (.ok {} : Except Crash (TapPath Pkt)) := fun _ => rfl
  refine along_iff_of_step_iff hinit (fun p e h => ?_) es
  cases p with
  | error c => exact iff_of_true trivial trivial
  | ok s => exact inStep_exec_iff h e

end TapPath

end Basebox
