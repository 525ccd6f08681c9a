import Basebox.Netlink.TapDevices

/-!
# Removals of tap devices (`src/netlink/tap_manager.cc`)

A tap device comes and goes with its descriptor, and netlink reports both later: first that it is
there (`portdev_ready`), then that it is gone (`portdev_removed`). Someone else may remove it too.
The manager tells the two apart by `port_deleted`, which has the ids of the ports that were
destroyed.

* `TapHost`: the manager and the devices on the host, with the reports that are outstanding.
* `Legal`: a removal had the device created again exactly if `destroy_portdev` was not called for
  it, and no id is in `port_deleted` more often than removals of the port are outstanding.
* `legal_iff_along`: so it stays exactly if every removal that is reported is that of a registered
  device, and, when it was not destroyed, none of a destroyed one of the same port is outstanding
  (`Keeps`). Then no `end()` iterator is used either.
-/

namespace Basebox

/-- A device on the host. -/
structure HostDev where
  portId : Nat
  name : String
  gone : Bool := false
  /-- `portdev_ready` was called for it. -/
  seen : Bool := false
  deriving DecidableEq

/-- The manager, the devices of the host and what has been handled. -/
structure TapHost where
  man : TapManager := {}
  /-- The devices by ifindex, until their removal is handled. -/
  devs : Table Int HostDev := ∅
  nextIfindex : Nat := 1
  /-- The device that a descriptor was opened for. -/
  fdDev : Table Nat Int := ∅
  /-- The devices that were destroyed and their ports, until their removal is handled. -/
  destroyed : List (Int × Nat) := []
  /-- The removals that were handled: whether the device had been destroyed, and whether its port
  got a new one. -/
  handled : List (Bool × Bool) := []

namespace TapHost

/-- What happens to the devices. -/
inductive Ev where
  | createPortdev (portId : Nat) (portName : String) (hwaddr : Mac)
  | destroyPortdev (portId : Nat) (portName : String)
  /-- Someone removes a device. -/
  | unplug (ifindex : Int)
  | portdevReady (ifindex : Int) (mtu : Nat)
  | portdevRemoved (ifindex : Int)
  | clear

/-- The host after a call to the manager: if the port has another descriptor, a device came with
it. -/
def attach (s : TapHost) (man : TapManager) (portId : Nat) (name : String) : TapHost :=
  match man.getFd portId with
  | none => { s with man := man }
  | some fd =>
    if s.man.getFd portId = some fd then { s with man := man }
    else
      { s with
        man := man
        devs := s.devs.insert s.nextIfindex { portId := portId, name := name }
        nextIfindex := s.nextIfindex + 1
        fdDev := s.fdDev.insert fd s.nextIfindex }

/-- `destroy_portdev` closes the descriptor, and the device goes. -/
def destroyPortdev (s : TapHost) (portId : Nat) (portName : String) : TapHost :=
  let man := s.man.destroyPortdev portId portName
  match (s.man.getFd portId).bind s.fdDev.lookup with
  | none => { s with man := man }
  | some i =>
    match s.devs.lookup i with
    | none => { s with man := man }
    | some d =>
      { s with
        man := man
        devs := s.devs.insert i { d with gone := true }
        destroyed := (i, portId) :: s.destroyed }

/-- A report of a removal, which comes after that of the device and is handled once. -/
def portdevRemoved (alloc : FdAlloc) (s : TapHost) (i : Int) : Except Crash TapHost :=
  match s.devs.lookup i with
  | none => .ok s
  | some d =>
    if d.gone && d.seen then
      (s.man.portdevRemoved alloc true i d.name).map fun (_, man) =>
        let s' := { s with devs := s.devs.erase i }.attach man (s.man.getPortId i) d.name
        { s' with
          destroyed := s.destroyed.erase (i, d.portId)
          handled := (decide ((i, d.portId) ∈ s.destroyed),
            decide (man.getFd d.portId ≠ s.man.getFd d.portId)) :: s.handled }
    else .ok s

/-- The state after an event, unless the process ends. -/
def exec (alloc : FdAlloc) (s : TapHost) : Ev → Except Crash TapHost
  | .createPortdev portId portName hwaddr =>
    (s.man.createPortdev alloc portId portName hwaddr).map fun (_, man) =>
      s.attach man portId portName
  | .destroyPortdev portId portName => .ok (s.destroyPortdev portId portName)
  | .unplug i =>
    match s.devs.lookup i with
    | none => .ok s
    | some d => .ok { s with devs := s.devs.insert i { d with gone := true } }
  | .portdevReady i mtu =>
    match s.devs.lookup i with
    | none => .ok s
    | some d =>
      if d.seen then .ok s
      else .ok { s with
        man := (s.man.portdevReady true i d.name mtu).2
        devs := s.devs.insert i { d with seen := true } }
  | .portdevRemoved i => s.portdevRemoved alloc i
  | .clear => .ok { s with man := { s.man with toPortManager := s.man.toPortManager.clear } }

/-- Only what the manager did not remove itself is reported as removed. -/
def Legal (s : TapHost) : Prop :=
  (∀ r ∈ s.handled, r.2 = !r.1) ∧
    ∀ p, s.man.portDeleted.count p ≤ (s.destroyed.map (·.2)).count p

/-- The events that leave no residue. -/
def Keeps (s : TapHost) : Ev → Prop
  | .portdevRemoved i => ∀ d, s.devs.lookup i = some d → d.gone = true → d.seen = true →
    s.man.ifindexToId.lookup i = some d.portId ∧
      ((i, d.portId) ∈ s.destroyed ∨ d.portId ∉ s.man.portDeleted)
  | _ => True

/-- What holds in the states of such a run. -/
structure Inv (s : TapHost) : Prop where
  inverse : Inverse s.man.ifindexToId s.man.idToIfindex
  hwaddr : ∀ p, p ∈ s.man.idToHwaddr → p ∈ s.man.tapDevs
  opened : ∀ p fd, s.man.getFd p = some fd → fd ∈ s.man.opened
  /-- A device that was not destroyed is that of its port. -/
  tapOf : ∀ i d, s.devs.lookup i = some d → (i, d.portId) ∉ s.destroyed →
    ∃ fd, s.man.getFd d.portId = some fd ∧ s.fdDev.lookup fd = some i
  devOf : ∀ p fd, s.man.getFd p = some fd → ∃ i d, s.fdDev.lookup fd = some i ∧
    s.devs.lookup i = some d ∧ d.portId = p ∧ (i, p) ∉ s.destroyed
  destroyed : ∀ i p, (i, p) ∈ s.destroyed → ∃ d, s.devs.lookup i = some d ∧ d.portId = p
  nodup : s.destroyed.Nodup
  count : ∀ p, s.man.portDeleted.count p = (s.destroyed.map (·.2)).count p
  fresh : ∀ i d, s.devs.lookup i = some d → i < s.nextIfindex
  valid : ∀ i d, s.devs.lookup i = some d → validDevname d.name = true

theorem inv_init : Inv {} where
  inverse := .empty
  hwaddr _ h := by simp at h
  opened _ _ h := by simp [TapManager.getFd] at h
  tapOf _ _ h := by simp at h
  devOf _ _ h := by simp [TapManager.getFd] at h
  destroyed _ _ h := by simp at h
  nodup := List.nodup_nil
  count _ := rfl
  fresh _ _ h := by simp at h
  valid _ _ h := by simp at h

section Events

variable {alloc : FdAlloc} {s : TapHost} {i : Int} {p : Nat} {d : HostDev}

/-- A port has at most one device that was not destroyed. -/
theorem Inv.live_unique (h : Inv s) {j : Int} {d' : HostDev} (hi : s.devs.lookup i = some d)
    (hli : (i, d.portId) ∉ s.destroyed) (hj : s.devs.lookup j = some d')
    (hlj : (j, d'.portId) ∉ s.destroyed) (hp : d.portId = d'.portId) : i = j := by
  obtain ⟨fd, h1, h2⟩ := h.tapOf i d hi hli
  obtain ⟨fd', h1', h2'⟩ := h.tapOf j d' hj hlj
  rw [hp, h1'] at h1
  cases h1
  exact Option.some.inj (h2.symm.trans h2')

/-- A port gets a new device. `devs` are the devices without the one it had, if any. -/
theorem Inv.newDev (h : Inv s) {man : TapManager} {devs : Table Int HostDev} {fd : Nat}
    {name : String} (hinv : Inverse man.ifindexToId man.idToIfindex)
    (hhw : ∀ p, p ∈ man.idToHwaddr → p ∈ man.tapDevs)
    (hfd : ∀ q, man.getFd q = if q = p then some fd else s.man.getFd q)
    (hnew : fd ∉ s.man.opened) (hopened : ∀ fd', fd' = fd ∨ fd' ∈ s.man.opened → fd' ∈ man.opened)
    (hcount : man.portDeleted = s.man.portDeleted) (hv : validDevname name = true)
    (hsub : ∀ j d, devs.lookup j = some d → s.devs.lookup j = some d)
    (hother : ∀ j d, s.devs.lookup j = some d → d.portId ≠ p ∨ (j, d.portId) ∈ s.destroyed →
      devs.lookup j = some d)
    (hlive : ∀ j d, devs.lookup j = some d → (j, d.portId) ∉ s.destroyed → d.portId ≠ p) :
    Inv { s with
      man := man
      devs := devs.insert s.nextIfindex { portId := p, name := name }
      nextIfindex := s.nextIfindex + 1
      fdDev := s.fdDev.insert fd s.nextIfindex } := by
  have hfdne : ∀ q fd', s.man.getFd q = some fd' → fd' ≠ fd := by
    rintro q fd' hq rfl
    exact hnew (h.opened q fd' hq)
  have hnext : ∀ q, (((s.nextIfindex : Nat) : Int), q) ∉ s.destroyed := by
    intro q hm
    obtain ⟨d, hd, -⟩ := h.destroyed _ q hm
    have := h.fresh _ d hd
    omega
  constructor
  · exact hinv
  · exact hhw
  · intro q fd' hq
    change man.getFd q = some fd' at hq
    rw [hfd] at hq
    split at hq
    · cases hq
      exact hopened fd (.inl rfl)
    · exact hopened fd' (.inr (h.opened q fd' hq))
  · intro j d hj hd
    simp only [Table.lookup_insert_ite] at hj ⊢
    split at hj
    · cases hj
      subst_vars
      exact ⟨fd, by rw [hfd, if_pos rfl], by rw [if_pos rfl]⟩
    · obtain ⟨fd', h1, h2⟩ := h.tapOf j d (hsub j d hj) hd
      refine ⟨fd', ?_, ?_⟩
      · rw [hfd, if_neg (hlive j d hj hd)]
        exact h1
      · rw [if_neg (hfdne _ _ h1)]
        exact h2
  · intro q fd' hq
    change man.getFd q = some fd' at hq
    simp only [Table.lookup_insert_ite]
    rw [hfd] at hq
    split at hq
    · cases hq
      subst_vars
      exact ⟨s.nextIfindex, _, by rw [if_pos rfl], by rw [if_pos rfl], rfl, hnext q⟩
    · rename_i hqp
      obtain ⟨j, d, h1, h2, rfl, h4⟩ := h.devOf q fd' hq
      refine ⟨j, d, by rw [if_neg (hfdne _ _ hq)]; exact h1, ?_, rfl, h4⟩
      rw [if_neg (by have := h.fresh j d h2; omega)]
      exact hother j d h2 (.inl hqp)
  · intro j q hm
    obtain ⟨d, hd, rfl⟩ := h.destroyed j q hm
    refine ⟨d, ?_, rfl⟩
    rw [Table.lookup_insert_ite, if_neg (by have := h.fresh j d hd; omega)]
    exact hother j d hd (.inr hm)
  · exact h.nodup
  · intro q
    rw [hcount]
    exact h.count q
  · intro j d hj
    simp only [Table.lookup_insert_ite] at hj
    push_cast
    split at hj
    · omega
    · have := h.fresh j d (hsub j d hj)
      omega
  · intro j d hj
    simp only [Table.lookup_insert_ite] at hj
    split at hj
    · cases hj
      exact hv
    · exact h.valid j d (hsub j d hj)

/-- The host after a call that gave the port no other descriptor. -/
theorem attach_same {man : TapManager} {name : String} (h : man.getFd p = s.man.getFd p) :
    s.attach man p name = { s with man := man } := by
  unfold attach
  rw [h]
  cases s.man.getFd p with
  | none => rfl
  | some fd => exact if_pos rfl

theorem attach_new {man : TapManager} {name : String} {fd : Nat} (h : man.getFd p = some fd)
    (hne : s.man.getFd p ≠ some fd) :
    s.attach man p name =
      { s with
        man := man
        devs := s.devs.insert s.nextIfindex { portId := p, name := name }
        nextIfindex := s.nextIfindex + 1
        fdDev := s.fdDev.insert fd s.nextIfindex } := by
  unfold attach
  rw [h]
  exact if_neg hne

theorem Inv.getFd_ne (h : Inv s) : s.man.getFd p ≠ some (alloc.1 s.man.opened) := by
  intro hp
  exact alloc.2 _ (h.opened p _ hp)

variable (alloc) in
theorem Inv.createPortdev (h : Inv s) (p : Nat) (name : String) (hwaddr : Mac) :
    Runs Inv ((s.man.createPortdev alloc p name hwaddr).map fun r => s.attach r.2 p name) := by
  obtain ⟨⟨rv, man⟩, hman⟩ := TapManager.createPortdev_ok alloc h.hwaddr p name hwaddr
  rw [hman]
  change Inv (s.attach man p name)
  obtain rfl | ⟨hdev, -, hv, hhw, rfl⟩ := TapManager.createPortdev_cases hman
  · rw [attach_same rfl]
    exact h
  have hfd := TapManager.getFd_insert s.man
    { devname := name, hwaddr := hwaddr, fd := alloc.1 s.man.opened } p
  have hnone := TapManager.getFd_eq_none.mpr hdev
  rw [attach_new (by rw [TapManager.getFd, hfd, if_pos rfl]) h.getFd_ne]
  refine h.newDev h.inverse ?_ hfd (alloc.2 _) ?_ rfl hv (fun _ _ h => h) (fun _ _ h _ => h) ?_
  · intro q hq
    change q ∈ s.man.idToHwaddr.emplace p hwaddr at hq
    rw [Table.emplace, if_neg hhw] at hq
    exact (AList.mem_insert _).mpr (((AList.mem_insert _).mp hq).imp_right (h.hwaddr q))
  · intro fd' hfd'
    exact Finset.mem_insert.mpr hfd'
  · rintro j d hj hd rfl
    obtain ⟨fd', h1, -⟩ := h.tapOf j d hj hd
    rw [hnone] at h1
    cases h1

/-- A device is marked: it is gone, or it was reported. -/
theorem Inv.mark (h : Inv s) (hd : s.devs.lookup i = some d) (d' : HostDev)
    (hp : d'.portId = d.portId) (hn : d'.name = d.name) :
    Inv { s with devs := s.devs.insert i d' } where
  inverse := h.inverse
  hwaddr := h.hwaddr
  opened := h.opened
  tapOf j e hj he := by
    simp only [Table.lookup_insert_ite] at hj
    split at hj
    · cases hj
      subst_vars
      simp only [hp] at he ⊢
      exact h.tapOf _ d hd he
    · exact h.tapOf j e hj he
  devOf q fd hq := by
    obtain ⟨j, e, h1, h2, h3, h4⟩ := h.devOf q fd hq
    by_cases hji : j = i
    · subst hji
      rw [hd] at h2
      cases h2
      exact ⟨j, d', h1, by simp, hp.trans h3, h4⟩
    · exact ⟨j, e, h1, by rw [Table.lookup_insert_ite, if_neg hji]; exact h2, h3, h4⟩
  destroyed j q hm := by
    obtain ⟨e, he, hq⟩ := h.destroyed j q hm
    by_cases hji : j = i
    · subst hji
      rw [hd] at he
      cases he
      exact ⟨d', by simp, hp.trans hq⟩
    · exact ⟨e, by rw [Table.lookup_insert_ite, if_neg hji]; exact he, hq⟩
  nodup := h.nodup
  count := h.count
  fresh j e hj := by
    simp only [Table.lookup_insert_ite] at hj
    split at hj
    · subst_vars
      exact h.fresh _ d hd
    · exact h.fresh j e hj
  valid j e hj := by
    simp only [Table.lookup_insert_ite] at hj
    split at hj
    · cases hj
      rw [hn]
      exact h.valid i d hd
    · exact h.valid j e hj

theorem getFd_destroyPortdev (man : TapManager) (p q : Nat) (name : String) :
    (man.destroyPortdev p name).getFd q = if q = p then none else man.getFd q := by
  unfold TapManager.destroyPortdev
  cases hp : man.tapDevs.lookup p with
  | none =>
    simp only
    split
    · subst_vars
      rw [TapManager.getFd, hp]
      rfl
    · rfl
  | some dev =>
    simp only [TapManager.getFd, Table.lookup_erase_ite]
    split <;> rfl

/-- The descriptor of a port is closed, and the removal of its device is scheduled. -/
theorem Inv.close (h : Inv s) {fd : Nat} (name : String) (hfd : s.man.getFd p = some fd)
    (hi : s.fdDev.lookup fd = some i) (hd : s.devs.lookup i = some d) (hp : d.portId = p)
    (hlive : (i, p) ∉ s.destroyed) :
    Inv { s with
      man := s.man.destroyPortdev p name
      destroyed := (i, p) :: s.destroyed } := by
  obtain ⟨dev, hdev, rfl⟩ := Option.map_eq_some_iff.mp hfd
  have hget := fun q => getFd_destroyPortdev s.man p q name
  have hman : (s.man.destroyPortdev p name).ifindexToId = s.man.ifindexToId ∧
      (s.man.destroyPortdev p name).idToIfindex = s.man.idToIfindex ∧
      (s.man.destroyPortdev p name).idToHwaddr = s.man.idToHwaddr.erase p ∧
      (s.man.destroyPortdev p name).tapDevs = s.man.tapDevs.erase p ∧
      (s.man.destroyPortdev p name).opened = s.man.opened.erase dev.fd ∧
      (s.man.destroyPortdev p name).portDeleted = s.man.portDeleted ++ [p] := by
    unfold TapManager.destroyPortdev
    rw [hdev]
    exact ⟨rfl, rfl, rfl, rfl, rfl, rfl⟩
  obtain ⟨h1, h2, h3, h4, h5, h6⟩ := hman
  have hother : ∀ q fd', (s.man.destroyPortdev p name).getFd q = some fd' →
      q ≠ p ∧ s.man.getFd q = some fd' := by
    intro q fd' hq
    rw [hget] at hq
    split at hq
    · cases hq
    · exact ⟨by assumption, hq⟩
  constructor
  · simp only [h1, h2]
    exact h.inverse
  · intro q hq
    simp only [h3, h4, AList.mem_erase] at hq ⊢
    exact ⟨hq.1, h.hwaddr q hq.2⟩
  · intro q fd' hq
    obtain ⟨hqp, hq⟩ := hother q fd' hq
    simp only [h5]
    refine Finset.mem_erase.mpr ⟨?_, h.opened q fd' hq⟩
    rintro rfl
    -- The two ports would have the same device.
    obtain ⟨j, e, he1, he2, he3, -⟩ := h.devOf q _ hq
    rw [hi] at he1
    cases he1
    rw [hd] at he2
    cases he2
    exact hqp (he3.symm.trans hp)
  · intro j e hj he
    simp only [List.mem_cons, not_or] at he
    have hne : e.portId ≠ p := by
      intro hep
      have hji := h.live_unique hj he.2 hd (by rwa [hp]) (hep.trans hp.symm)
      exact he.1 (by rw [hji, hep])
    obtain ⟨fd', e1, e2⟩ := h.tapOf j e hj he.2
    exact ⟨fd', by rw [hget, if_neg hne]; exact e1, e2⟩
  · intro q fd' hq
    obtain ⟨hqp, hq⟩ := hother q fd' hq
    obtain ⟨j, e, e1, e2, e3, e4⟩ := h.devOf q fd' hq
    refine ⟨j, e, e1, e2, e3, ?_⟩
    simp only [List.mem_cons, not_or]
    exact ⟨fun heq => hqp (Prod.mk.inj heq).2, e4⟩
  · intro j q hm
    rcases List.mem_cons.mp hm with heq | hm
    · cases heq
      exact ⟨d, hd, hp⟩
    · exact h.destroyed j q hm
  · exact List.nodup_cons.mpr ⟨hlive, h.nodup⟩
  · intro q
    have := h.count q
    simp only [h6, List.count_append, List.map_cons, List.count_cons, List.count_nil]
    omega
  · exact h.fresh
  · exact h.valid

theorem Inv.destroyPortdev (h : Inv s) (p : Nat) (name : String) :
    Inv (s.destroyPortdev p name) ∧ (s.destroyPortdev p name).handled = s.handled := by
  unfold TapHost.destroyPortdev
  cases hfd : s.man.getFd p with
  | none =>
    rw [TapManager.destroyPortdev_of_none (TapManager.getFd_eq_none.mp hfd)]
    exact ⟨h, rfl⟩
  | some fd =>
    obtain ⟨i, d, hi, hd, hp, hlive⟩ := h.devOf p fd hfd
    simp only [Option.bind_some, hi, hd]
    refine ⟨?_, trivial⟩
    have hmark := h.mark hd { d with gone := true } rfl rfl
    exact hmark.close name hfd hi (AList.lookup_insert _) hp hlive

theorem Inv.portdevReady (h : Inv s) (i : Int) (name : String) (mtu : Nat) :
    Inv { s with man := (s.man.portdevReady true i name mtu).2 } := by
  obtain ⟨-, h2, -, h4, h5, h6, -⟩ := TapManager.portdevReady_frame s.man true i name mtu
  have hmaps := TapManager.portdevReady_maps s.man true i name mtu
  have hfd : ∀ q, (s.man.portdevReady true i name mtu).2.getFd q = s.man.getFd q := by
    intro q
    rw [TapManager.getFd, h4]
    rfl
  constructor
  · simp only [hmaps]
    exact PortManager.inverse_portdevReady h.inverse i name
  · simpa only [h2, h4] using h.hwaddr
  · simpa only [hfd, h6] using h.opened
  · simpa only [hfd] using h.tapOf
  · simpa only [hfd] using h.devOf
  · exact h.destroyed
  · exact h.nodup
  · simpa only [h5] using h.count
  · exact h.fresh
  · exact h.valid

theorem Inv.clear (h : Inv s) :
    Inv { s with man := { s.man with toPortManager := s.man.toPortManager.clear } } where
  inverse := Inverse.empty
  hwaddr p hp := by simp [PortManager.clear] at hp
  opened := h.opened
  tapOf := h.tapOf
  devOf := h.devOf
  destroyed := h.destroyed
  nodup := h.nodup
  count := h.count
  fresh := h.fresh
  valid := h.valid

theorem Inv.mem_portDeleted (h : Inv s) (hm : (i, p) ∈ s.destroyed) : p ∈ s.man.portDeleted := by
  rw [← List.count_pos_iff, h.count, List.count_pos_iff]
  exact List.mem_map.mpr ⟨(i, p), hm, rfl⟩

theorem count_map_erase (h : (i, p) ∈ s.destroyed) (q : Nat) :
    ((s.destroyed.erase (i, p)).map (·.2)).count q + (if q = p then 1 else 0) =
      (s.destroyed.map (·.2)).count q := by
  have hperm := ((List.perm_cons_erase h).map (·.2)).count_eq q
  rw [hperm, List.map_cons, List.count_cons]
  by_cases hqp : q = p
  · simp [hqp]
  · simp [hqp, Ne.symm hqp]

/-- The removal of a device that was destroyed is handled. -/
theorem Inv.drop (h : Inv s) (hid : s.man.ifindexToId.lookup i = some p)
    (hm : (i, p) ∈ s.destroyed) :
    Inv { s with
      man := s.man.finishRemoved i p
      devs := s.devs.erase i
      destroyed := s.destroyed.erase (i, p) } := by
  have hkeep : ∀ j e, (s.devs.erase i).lookup j = some e → j ≠ i ∧ s.devs.lookup j = some e := by
    intro j e hj
    rw [Table.lookup_erase_ite] at hj
    split at hj
    · cases hj
    · exact ⟨by assumption, hj⟩
  have hne : ∀ j q, j ≠ i → ((j, q) ∈ s.destroyed.erase (i, p) ↔ (j, q) ∈ s.destroyed) := by
    intro j q hji
    exact List.mem_erase_of_ne fun heq => hji (Prod.mk.inj heq).1
  constructor
  · exact PortManager.inverse_unregister h.inverse hid
  · exact h.hwaddr
  · exact h.opened
  · intro j e hj he
    obtain ⟨hji, hj⟩ := hkeep j e hj
    exact h.tapOf j e hj fun hmem => he ((hne j _ hji).mpr hmem)
  · intro q fd hq
    obtain ⟨j, e, e1, e2, e3, e4⟩ := h.devOf q fd hq
    have hji : j ≠ i := by
      rintro rfl
      obtain ⟨d, hd, hdp⟩ := h.destroyed j p hm
      rw [hd] at e2
      cases e2
      exact e4 (by rw [← e3, hdp]; exact hm)
    refine ⟨j, e, e1, ?_, e3, fun hmem => e4 ((hne j q hji).mp hmem)⟩
    rw [Table.lookup_erase_ite, if_neg hji]
    exact e2
  · intro j q hmem
    obtain ⟨e, he, heq⟩ := h.destroyed j q (List.mem_of_mem_erase hmem)
    have hji : j ≠ i := by
      rintro rfl
      obtain ⟨d, hd, hdp⟩ := h.destroyed j p hm
      rw [hd] at he
      cases he
      subst hdp
      subst heq
      exact h.nodup.not_mem_erase hmem
    exact ⟨e, by rw [Table.lookup_erase_ite, if_neg hji]; exact he, heq⟩
  · exact h.nodup.erase _
  · intro q
    have h1 := h.count q
    have h2 := count_map_erase hm q
    have h3 : p ∈ s.man.portDeleted := h.mem_portDeleted hm
    have h4 := ((List.perm_cons_erase h3).count_eq q)
    rw [List.count_cons] at h4
    change (s.man.portDeleted.erase p).count q =
      ((s.destroyed.erase (i, p)).map (·.2)).count q
    by_cases hqp : q = p
    · simp only [hqp, if_true, beq_self_eq_true] at h1 h2 h4 ⊢
      omega
    · have hpq : (p == q) = false := by simpa using Ne.symm hqp
      simp only [hqp, if_false, hpq, Bool.false_eq_true] at h2 h4
      omega
  · intro j e hj
    exact h.fresh j e (hkeep j e hj).2
  · intro j e hj
    exact h.valid j e (hkeep j e hj).2

variable (alloc) in
/-- A device that someone removed is created again. -/
theorem Inv.recreate (h : Inv s) (hid : s.man.ifindexToId.lookup i = some d.portId)
    (hd : s.devs.lookup i = some d) (hlive : (i, d.portId) ∉ s.destroyed)
    (hp : d.portId ∉ s.man.portDeleted) (hwaddr : Mac) :
    Inv ({ s with devs := s.devs.erase i }.attach
      ((s.man.recreateTapdev alloc d.portId d.name hwaddr).finishRemoved i d.portId) d.portId
      d.name) := by
  have hv := h.valid i d hd
  have hfd := fun q => TapManager.getFd_recreateTapdev alloc (s := s.man) hv d.portId q
    hwaddr
  obtain ⟨hmaps1, hmaps2⟩ :=
    s.man.recreateTapdev_maps alloc d.portId d.name hwaddr
  obtain ⟨hopen, hhw, hdel⟩ :=
    TapManager.recreateTapdev_frame alloc (s := s.man) hv d.portId hwaddr
  have hnew : ((s.man.recreateTapdev alloc d.portId d.name hwaddr).finishRemoved i
      d.portId).getFd d.portId = some (alloc.1 s.man.opened) := by
    refine (hfd d.portId).trans ?_
    rw [if_pos rfl]
  have hold : s.man.getFd d.portId ≠ some (alloc.1 s.man.opened) := h.getFd_ne
  rw [attach_new hnew (by exact hold)]
  refine h.newDev ?_ ?_ hfd (alloc.2 _) ?_ ?_ hv ?_ ?_ ?_
  · refine PortManager.inverse_unregister
      (s := (s.man.recreateTapdev alloc d.portId d.name hwaddr).toPortManager) ?_ ?_
    · rw [hmaps1, hmaps2]
      exact h.inverse
    · rw [hmaps1]
      exact hid
  · intro q hq
    change q ∈ (s.man.recreateTapdev alloc d.portId d.name hwaddr).idToHwaddr at hq
    rw [hhw] at hq
    exact TapManager.mem_recreateTapdev hv (h.hwaddr q hq)
  · intro fd' hfd'
    change fd' ∈ (s.man.recreateTapdev alloc d.portId d.name hwaddr).opened
    rw [hopen]
    exact Finset.mem_insert.mpr hfd'
  · change (s.man.recreateTapdev alloc d.portId d.name hwaddr).portDeleted.erase d.portId = _
    rw [hdel]
    exact List.erase_of_not_mem hp
  · intro j e hj
    rw [Table.lookup_erase_ite] at hj
    split at hj
    · cases hj
    · exact hj
  · intro j e hj he
    have hji : j ≠ i := by
      rintro rfl
      rw [hd] at hj
      cases hj
      exact he.elim (fun hne => hne rfl) hlive
    rw [Table.lookup_erase_ite, if_neg hji]
    exact hj
  · intro j e hj he hep
    rw [Table.lookup_erase_ite] at hj
    split at hj
    · cases hj
    · rename_i hji
      exact hji (h.live_unique hj he hd hlive hep)

theorem handled_legal {r : Bool × Bool} (hl : Legal s) :
    (∀ r' ∈ r :: s.handled, r'.2 = !r'.1) ↔ r.2 = !r.1 := by
  constructor
  · exact fun h => h r (List.mem_cons_self ..)
  · intro h r' hr'
    rcases List.mem_cons.mp hr' with rfl | hr'
    · exact h
    · exact hl.1 r' hr'

@[simp] theorem attach_man (s : TapHost) (man : TapManager) (p : Nat) (name : String) :
    (s.attach man p name).man = man := by
  unfold attach
  split
  · rfl
  · split <;> rfl

@[simp] theorem attach_destroyed (s : TapHost) (man : TapManager) (p : Nat) (name : String) :
    (s.attach man p name).destroyed = s.destroyed := by
  unfold attach
  split
  · rfl
  · split <;> rfl

@[simp] theorem attach_handled (s : TapHost) (man : TapManager) (p : Nat) (name : String) :
    (s.attach man p name).handled = s.handled := by
  unfold attach
  split
  · rfl
  · split <;> rfl

/-- A removal is not reported while the device is there, or before the device is reported. -/
theorem portdevRemoved_early
    (h : ¬ ∃ d, s.devs.lookup i = some d ∧ d.gone = true ∧ d.seen = true) :
    s.portdevRemoved alloc i = .ok s := by
  unfold TapHost.portdevRemoved
  split
  · rfl
  · rename_i d hd
    rw [if_neg]
    intro hgs
    exact h ⟨d, hd, by simpa using hgs⟩

/-- What was handled before does not count. -/
theorem Inv.log (h : Inv s) (l : List (Bool × Bool)) : Inv { s with handled := l } :=
  ⟨h.inverse, h.hwaddr, h.opened, h.tapOf, h.devOf, h.destroyed, h.nodup, h.count, h.fresh,
    h.valid⟩

/-- The removals that are handled as they should be. -/
theorem Inv.portdevRemoved (h : Inv s) (hl : Legal s) (hd : s.devs.lookup i = some d)
    (hgone : d.gone = true) (hseen : d.seen = true)
    (hid : s.man.ifindexToId.lookup i = some d.portId)
    (hor : (i, d.portId) ∈ s.destroyed ∨ d.portId ∉ s.man.portDeleted) :
    Runs (fun s' => Inv s' ∧ Legal s') (s.portdevRemoved alloc i) := by
  have hmem : d.portId ∈ s.man.idToIfindex :=
    Table.mem_iff_lookup.mpr ⟨i, (h.inverse i d.portId).mp hid⟩
  have hport : s.man.getPortId i = d.portId := by rw [PortManager.getPortId, hid]; rfl
  unfold TapHost.portdevRemoved
  simp only [hd, hgone, hseen, Bool.and_self, if_true, hport]
  by_cases hm : (i, d.portId) ∈ s.destroyed
  · have hman : s.man.portdevRemoved alloc true i d.name =
        .ok (true, s.man.finishRemoved i d.portId) := by
      simp [TapManager.portdevRemoved, hid, h.mem_portDeleted hm, hmem, TapManager.finishRemoved]
    have hinv := h.drop hid hm
    rw [hman]
    simp only [Except.map, Runs]
    rw [attach_same (by rfl)]
    refine ⟨hinv.log _, (handled_legal hl).mpr ?_, fun q => (hinv.count q).le⟩
    simp [hm, TapManager.finishRemoved, TapManager.getFd]
  · obtain ⟨fd, hfd, -⟩ := h.tapOf i d hd hm
    obtain ⟨dev, hdev, -⟩ := Option.map_eq_some_iff.mp hfd
    have hdel := hor.resolve_left hm
    have hman : s.man.portdevRemoved alloc true i d.name =
        .ok (true, (s.man.recreateTapdev alloc d.portId d.name dev.hwaddr).finishRemoved i
          d.portId) := by
      simp [TapManager.portdevRemoved, hid, hdel, hdev, TapManager.finishRemoved]
    have hinv := h.recreate alloc hid hd hm hdel dev.hwaddr
    rw [hman]
    simp only [Except.map, Runs]
    have hfresh : ((s.man.recreateTapdev alloc d.portId d.name dev.hwaddr).finishRemoved i
        d.portId).getFd d.portId ≠ s.man.getFd d.portId := by
      refine ne_of_eq_of_ne (TapManager.getFd_recreateTapdev _ (h.valid i d hd) _ _ _) ?_
      rw [if_pos rfl]
      exact h.getFd_ne.symm
    generalize ht : attach { s with devs := s.devs.erase i } _ _ _ = t at hinv ⊢
    have hdes : t.destroyed = s.destroyed := by rw [← ht, attach_destroyed]
    rw [List.erase_of_not_mem hm, ← hdes]
    refine ⟨hinv.log _, (handled_legal hl).mpr ?_, fun q => (hinv.count q).le⟩
    simpa [hdes, hm] using hfresh

/-- And these are all. -/
theorem Inv.keeps_of_portdevRemoved (h : Inv s) (hd : s.devs.lookup i = some d)
    (hgone : d.gone = true) (hseen : d.seen = true) (hl : Runs Legal (s.portdevRemoved alloc i)) :
    s.man.ifindexToId.lookup i = some d.portId ∧
      ((i, d.portId) ∈ s.destroyed ∨ d.portId ∉ s.man.portDeleted) := by
  obtain ⟨s', hs', hhandled, hcount⟩ := runs_iff.mp hl
  unfold TapHost.portdevRemoved at hs'
  simp only [hd, hgone, hseen, Bool.and_self, if_true] at hs'
  obtain ⟨⟨handled, man⟩, hman, rfl⟩ := map_eq_ok.mp hs'
  have hrec := hhandled _ (List.mem_cons_self ..)
  simp only [attach_man] at hcount hrec
  -- No removal of the port was scheduled in vain.
  have hvain : (i, d.portId) ∈ s.destroyed →
      man.portDeleted.count d.portId ≠ s.man.portDeleted.count d.portId := by
    intro hm heq
    have h1 := hcount d.portId
    have h2 := count_map_erase hm d.portId
    have h3 := h.count d.portId
    rw [if_pos rfl] at h2
    omega
  have hsame : man.getFd d.portId = s.man.getFd d.portId → (i, d.portId) ∈ s.destroyed := by
    intro hfd
    simpa [hfd] using hrec
  rcases TapManager.portdevRemoved_cases hman with
    ⟨rfl, -⟩ | ⟨id, -, hid, ⟨hdel, -, rfl⟩ | ⟨hdel, dev, hdev, rfl⟩⟩
  · exact absurd rfl (hvain (hsame rfl))
  · have hm := hsame rfl
    by_cases hp : id = d.portId
    · exact ⟨hp ▸ hid, .inl hm⟩
    · exact absurd (List.count_erase_of_ne (Ne.symm hp)) (hvain hm)
  · have hdel' : id ∉ s.man.portDeleted := by
      intro hmem
      exact hdel ⟨hmem, Table.mem_iff_lookup.mpr ⟨i, (h.inverse i id).mp hid⟩⟩
    by_cases hp : id = d.portId
    · exact ⟨hp ▸ hid, .inr (hp ▸ hdel')⟩
    · have hv := h.valid i d hd
      have hfd := TapManager.getFd_recreateTapdev alloc (s := s.man) hv id d.portId
        dev.hwaddr
      rw [if_neg (Ne.symm hp)] at hfd
      obtain ⟨-, -, hlist⟩ :=
        TapManager.recreateTapdev_frame alloc (s := s.man) hv id dev.hwaddr
      refine absurd ?_ (hvain (hsame hfd))
      change ((s.man.recreateTapdev alloc id d.name dev.hwaddr).portDeleted.erase id).count _ = _
      rw [hlist, List.erase_of_not_mem hdel']

end Events

theorem legal_of_inv {s s' : TapHost} (hl : Legal s) (h : Inv s') (hh : s'.handled = s.handled) :
    Legal s' := ⟨hh ▸ hl.1, fun p => (h.count p).le⟩

/-- One event. -/
theorem Inv.exec {s : TapHost} (h : Inv s) (hl : Legal s) (alloc : FdAlloc) (e : Ev) :
    (Keeps s e → Runs Inv (s.exec alloc e)) ∧ (Runs Legal (s.exec alloc e) ↔ Keeps s e) := by
  have hkept : ∀ s', Inv s' → s'.handled = s.handled → Legal s' := fun s' => legal_of_inv hl
  cases e with
  | createPortdev p name hwaddr =>
    obtain ⟨s', hs', hinv⟩ := runs_iff.mp (h.createPortdev alloc p name hwaddr)
    rw [TapHost.exec, hs']
    refine ⟨fun _ => hinv, iff_of_true (hkept s' hinv ?_) trivial⟩
    obtain ⟨r, -, rfl⟩ := map_eq_ok.mp hs'
    exact attach_handled ..
  | destroyPortdev p name =>
    obtain ⟨hinv, hh⟩ := h.destroyPortdev p name
    exact ⟨fun _ => hinv, iff_of_true (hkept _ hinv hh) trivial⟩
  | unplug i =>
    rw [TapHost.exec]
    cases hd : s.devs.lookup i with
    | none => exact ⟨fun _ => h, iff_of_true hl trivial⟩
    | some d =>
      have hinv := h.mark hd { d with gone := true } rfl rfl
      exact ⟨fun _ => hinv, iff_of_true (hkept _ hinv rfl) trivial⟩
  | portdevReady i mtu =>
    rw [TapHost.exec]
    cases hd : s.devs.lookup i with
    | none => exact ⟨fun _ => h, iff_of_true hl trivial⟩
    | some d =>
      by_cases hseen : d.seen = true
      · simp only [hseen, if_true]
        exact ⟨fun _ => h, iff_of_true hl trivial⟩
      · simp only [hseen, Bool.false_eq_true, if_false]
        have hinv := (h.portdevReady i d.name mtu).mark hd { d with seen := true } rfl rfl
        exact ⟨fun _ => hinv, iff_of_true (hkept _ hinv rfl) trivial⟩
  | portdevRemoved i =>
    rw [TapHost.exec]
    have hgood : Keeps s (.portdevRemoved i) →
        Runs (fun s' => Inv s' ∧ Legal s') (s.portdevRemoved alloc i) := by
      intro hk
      by_cases hrep : ∃ d, s.devs.lookup i = some d ∧ d.gone = true ∧ d.seen = true
      · obtain ⟨d, hd, hgone, hseen⟩ := hrep
        obtain ⟨hid, hor⟩ := hk d hd hgone hseen
        exact h.portdevRemoved hl hd hgone hseen hid hor
      · rw [portdevRemoved_early hrep]
        exact ⟨h, hl⟩
    refine ⟨fun hk => Runs.imp (fun _ => And.left) (hgood hk), ?_,
      fun hk => Runs.imp (fun _ => And.right) (hgood hk)⟩
    exact fun hr d hd hgone hseen => h.keeps_of_portdevRemoved hd hgone hseen hr
  | clear =>
    exact ⟨fun _ => h.clear, iff_of_true (hkept _ h.clear rfl) trivial⟩

/-- **Scheduled and other removals.** On a host where devices come and go in any order, exactly
those removals are taken for illegal that `destroy_portdev` did not cause, and `port_deleted` has no
leftovers, exactly if all events meet `Keeps`. The process does not use an `end()` iterator then. -/
theorem legal_iff_along (alloc : FdAlloc) (es : List Ev) :
    (∀ n, Runs Legal (run (procStep (TapHost.exec alloc)) (.ok {}) (es.take n))) ↔
      Along (procStep (TapHost.exec alloc)) (OnRunning Keeps) (.ok {}) es :=
  runs_iff_along inv_init ⟨by simp, by simp⟩ (fun _ e h hl => (h.exec hl alloc e).1)
    (fun _ e h hl => (h.exec hl alloc e).2) es

/-- A port is destroyed before its device was reported. The removal is not seen, and its id stays in
`port_deleted`. -/
theorem destroyedEarly_not_legal :
    ¬ Runs Legal (run (procStep (TapHost.exec TapManager.nextFd)) (.ok {})
      [.createPortdev 1 "port1" 1, .destroyPortdev 1 "port1", .portdevReady 1 1500,
        .portdevRemoved 1]) := by
  refine Runs.not_of (P := fun s => s.man.portDeleted = [1] ∧ s.destroyed = []) (by decide)
    fun s hs hlegal => ?_
  have hcount := hlegal.2 1
  simp [hs.1, hs.2] at hcount

end TapHost

end Basebox
