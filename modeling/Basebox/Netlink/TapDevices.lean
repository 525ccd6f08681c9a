import Basebox.Netlink.PortManager
import Mathlib.Data.Finset.Lattice.Fold
import Mathlib.Order.Lattice.Nat

/-!
# The descriptors of the tap devices (`src/netlink/tap_manager.cc`)

A tap device is in four tables of the manager, and its descriptor is registered with `tap_io`.

* `Live`: every name leads to the descriptor of the device that its port has, and `tap_io` reads
  that descriptor for the port. `change_port_status` and `update_mtu` go by the name, packets by
  the port and by the descriptor.
* `live_iff_along`: a run stays so exactly if a device is not created again after an illegal
  removal, and no port is destroyed under another name than it has (`Keeps`).
-/

namespace Basebox

namespace TapManager

/-- The descriptor that `change_port_status` and `update_mtu` use. -/
def fdOfName (s : TapManager) (name : String) : Option Nat := s.tapNames2fds.lookup name

/-- `get_fd`: the descriptor that packets to a port are written to. -/
def getFd (s : TapManager) (portId : Nat) : Option Nat := (s.tapDevs.lookup portId).map (·.fd)

/-- The port that the packets read from a descriptor come from. -/
def portOfFd (s : TapManager) (fd : Nat) : Option Nat := (s.io.lookup fd).map (·.portId)

/-- Each port name leads to a descriptor and back. -/
def Live (s : TapManager) : Prop :=
  ∀ name p, s.portNames2id.lookup name = some p →
    ∃ fd, s.getFd p = some fd ∧ s.fdOfName name = some fd ∧ s.portOfFd fd = some p

/-- The calls after which the tables still are about the live devices. -/
def Keeps (s : TapManager) : PortEv → Prop
  | .destroyPortdev p name =>
    -- The port has no other name.
    p ∈ s.tapDevs → ∀ name', s.portNames2id.lookup name' = some p → name' = name
  | .portdevRemoved isTun i name =>
    -- No removal that was not scheduled, unless the port has no name and gets none.
    ∀ p, isTun = true → s.ifindexToId.lookup i = some p → p ∉ s.portDeleted →
      validDevname name = true →
        (∃ q, q ≠ p ∧ s.portNames2id.lookup name = some q) ∧
          ∀ name', s.portNames2id.lookup name' ≠ some p
  | .createPortdev .. | .portdevReady .. | .clear => True

/-- What holds in the states of such a run. -/
structure Inv (s : TapManager) : Prop where
  inverse : Inverse s.ifindexToId s.idToIfindex
  names : ∀ name, name ∈ s.portNames2id ↔ name ∈ s.tapNames2fds
  opened : ∀ p fd, s.getFd p = some fd → fd ∈ s.opened
  inj : ∀ p q fd, s.getFd p = some fd → s.getFd q = some fd → p = q
  io : ∀ fd p, s.portOfFd fd = some p → fd ∈ s.opened
  registered : ∀ i p, s.ifindexToId.lookup i = some p → p ∈ s.tapDevs ∨ p ∈ s.portDeleted
  hwaddr : ∀ p, p ∈ s.idToHwaddr → p ∈ s.tapDevs

theorem inv_init : Inv {} where
  inverse := .empty
  names _ := by simp
  opened _ _ h := by simp [getFd] at h
  inj _ _ _ h := by simp [getFd] at h
  io _ _ h := by simp [portOfFd] at h
  registered _ _ h := by simp at h
  hwaddr _ h := by simp at h

section Calls

variable {alloc : FdAlloc} {s : TapManager} {i : Int} {p : Nat} {name : String}

theorem getFd_eq_none : s.getFd p = none ↔ p ∉ s.tapDevs := by
  rw [getFd, Option.map_eq_none_iff, ← Table.not_mem_iff_lookup]

theorem mem_of_getFd {fd : Nat} (h : s.getFd p = some fd) : p ∈ s.tapDevs := by
  by_contra hp
  rw [getFd_eq_none.mpr hp] at h
  cases h

theorem getFd_insert (s : TapManager) (dev : TapDev) (p q : Nat) :
    (((s.tapDevs.insert p dev).lookup q).map (·.fd) : Option Nat) =
      if q = p then some dev.fd else s.getFd q := by
  rw [Table.lookup_insert_ite]
  split <;> rfl

/-- The descriptor of a new device is not that of another port. -/
theorem Inv.getFd_ne (h : Inv s) {q fd : Nat} (hq : s.getFd q = some fd) :
    fd ≠ alloc.1 s.opened := by
  rintro rfl
  exact alloc.2 s.opened (h.opened q _ hq)

variable (alloc) in
/-- `id_to_hwaddr` has no port that is not created, so that no `LOG(FATAL)` is reached. -/
theorem createPortdev_ok (h : ∀ p, p ∈ s.idToHwaddr → p ∈ s.tapDevs) (p : Nat) (name : String)
    (hwaddr : Mac) : ∃ r, s.createPortdev alloc p name hwaddr = .ok r := by
  unfold createPortdev
  split
  · exact ⟨_, rfl⟩
  · rename_i hnew
    split
    · exact ⟨_, rfl⟩
    · rw [if_neg fun hp => hnew (.inl (h p hp))]
      exact ⟨_, rfl⟩

variable (alloc) in
theorem Inv.createPortdev (h : Inv s) (hl : Live s) (p : Nat) (name : String) (hwaddr : Mac) :
    Runs (fun s' => Inv s' ∧ Live s')
      ((s.createPortdev alloc p name hwaddr).map (·.2)) := by
  obtain ⟨⟨rv, s'⟩, hs'⟩ := createPortdev_ok alloc h.hwaddr p name hwaddr
  rw [hs']
  change Inv s' ∧ Live s'
  obtain rfl | ⟨hdev, hname, -, hhw, rfl⟩ := createPortdev_cases hs'
  · exact ⟨h, hl⟩
  have hfd := getFd_insert s
    { devname := name, hwaddr := hwaddr, fd := alloc.1 s.opened } p
  have hnone : s.tapNames2fds.lookup name = none :=
    Table.not_mem_iff_lookup.mp fun hm => hname ((h.names name).mpr hm)
  have hname' := Table.not_mem_iff_lookup.mp hname
  constructor
  · constructor
    · exact h.inverse
    · intro name'
      simp only [Table.mem_iff_lookup, Table.lookup_emplace]
      have := h.names name'
      rw [Table.mem_iff_lookup, Table.mem_iff_lookup] at this
      split
      · simp
      · exact this
    · intro q fd hq
      simp only [getFd] at hq
      rw [hfd] at hq
      split at hq
      · cases hq
        exact Finset.mem_insert_self _ _
      · exact Finset.mem_insert_of_mem (h.opened q fd hq)
    · intro q q' fd hq hq'
      simp only [getFd] at hq hq'
      rw [hfd] at hq hq'
      split at hq <;> split at hq'
      · subst_vars; rfl
      · cases hq
        exact absurd rfl (h.getFd_ne hq')
      · cases hq'
        exact absurd rfl (h.getFd_ne hq)
      · exact h.inj q q' fd hq hq'
    · intro fd q hq
      simp only [portOfFd, Table.lookup_insert_ite] at hq
      split at hq
      · subst_vars
        exact Finset.mem_insert_self _ _
      · exact Finset.mem_insert_of_mem (h.io fd q hq)
    · intro i q hi
      exact (h.registered i q hi).imp_left fun hm => (AList.mem_insert _).mpr (.inr hm)
    · intro q hq
      change q ∈ s.idToHwaddr.emplace p hwaddr at hq
      rw [Table.emplace, if_neg hhw] at hq
      exact (AList.mem_insert _).mpr (((AList.mem_insert _).mp hq).imp_right (h.hwaddr q))
  · intro name' q hq
    simp only at hq
    rw [Table.lookup_emplace, hname'] at hq
    simp only [getFd, fdOfName, portOfFd, hfd, Table.lookup_emplace, hnone]
    split at hq
    · cases hq
      exact ⟨alloc.1 s.opened, by simp, by simp_all, by simp⟩
    · rename_i hne
      obtain ⟨fd, h1, h2, h3⟩ := hl name' q hq
      have hqp : q ≠ p := fun e => hdev (e ▸ mem_of_getFd h1)
      refine ⟨fd, by rw [if_neg hqp]; exact h1, by rw [if_neg hne]; exact h2, ?_⟩
      rw [Table.lookup_insert_ite, if_neg (h.getFd_ne h1)]
      exact h3

theorem destroyPortdev_of_none (hp : p ∉ s.tapDevs) : s.destroyPortdev p name = s := by
  unfold destroyPortdev
  rw [Table.not_mem_iff_lookup.mp hp]

theorem Inv.destroyPortdev (h : Inv s) (p : Nat) (name : String) :
    Inv (s.destroyPortdev p name) := by
  unfold TapManager.destroyPortdev
  cases hp : s.tapDevs.lookup p with
  | none => exact h
  | some dev =>
    have hfd : s.getFd p = some dev.fd := by rw [getFd, hp]; rfl
    have hget : ∀ q fd, ((s.tapDevs.erase p).lookup q).map (·.fd) = some fd →
        q ≠ p ∧ s.getFd q = some fd := by
      intro q fd hq
      rw [Table.lookup_erase_ite] at hq
      split at hq
      · cases hq
      · exact ⟨by assumption, hq⟩
    constructor
    · exact h.inverse
    · intro name'
      simp only [AList.mem_erase, h.names]
    · intro q fd hq
      obtain ⟨hqp, hq⟩ := hget q fd hq
      refine Finset.mem_erase.mpr ⟨?_, h.opened q fd hq⟩
      rintro rfl
      exact hqp (h.inj q p _ hq hfd)
    · intro q q' fd hq hq'
      exact h.inj q q' fd (hget q fd hq).2 (hget q' fd hq').2
    · intro fd q hq
      simp only [portOfFd, Table.lookup_erase_ite] at hq
      split at hq
      · cases hq
      · exact Finset.mem_erase.mpr ⟨by assumption, h.io fd q hq⟩
    · intro i q hi
      by_cases hqp : q = p
      · exact .inr (by simp [hqp])
      · refine (h.registered i q hi).imp (fun hm => ?_) fun hm => List.mem_append_left _ hm
        exact AList.mem_erase.mpr ⟨hqp, hm⟩
    · intro q hq
      obtain ⟨hqp, hq⟩ := AList.mem_erase.mp hq
      exact AList.mem_erase.mpr ⟨hqp, h.hwaddr q hq⟩

/-- A port that is destroyed under one of its names keeps the others. -/
theorem Inv.live_destroyPortdev (h : Inv s) (hl : Live s) (p : Nat) (name : String) :
    Live (s.destroyPortdev p name) ↔
      (p ∈ s.tapDevs → ∀ name', s.portNames2id.lookup name' = some p → name' = name) := by
  by_cases hp : p ∈ s.tapDevs
  · obtain ⟨dev, hdev⟩ := Table.mem_iff_lookup.mp hp
    have hfd : s.getFd p = some dev.fd := by rw [getFd, hdev]; rfl
    rw [imp_iff_right hp]
    unfold TapManager.destroyPortdev Live getFd fdOfName portOfFd
    rw [hdev]
    simp only [Table.lookup_erase_ite]
    constructor
    · intro hlive name' hn
      by_contra hne
      obtain ⟨fd, h1, -, -⟩ := hlive name' p (by rw [if_neg hne]; exact hn)
      simp at h1
    · intro hname name' q hn
      split at hn
      · cases hn
      · rename_i hne
        obtain ⟨fd, h1, h2, h3⟩ := hl name' q hn
        have hqp : q ≠ p := by
          rintro rfl
          exact hne (hname name' hn)
        have hfd' : fd ≠ dev.fd := by
          rintro rfl
          exact hqp (h.inj q p _ h1 hfd)
        refine ⟨fd, by rw [if_neg hqp]; exact h1, by rw [if_neg hne]; exact h2, ?_⟩
        rw [if_neg hfd']
        exact h3
  · rw [destroyPortdev_of_none hp]
    exact iff_of_true hl fun hm => absurd hm hp

/-- The MTU of a descriptor is not part of what the tables say. -/
theorem portOfFd_updateMtu (s : TapManager) (name : String) (mtu fd : Nat) :
    (s.updateMtu name mtu).portOfFd fd = s.portOfFd fd := by
  unfold updateMtu
  split
  · rfl
  · rename_i fd' hfd'
    split
    · rfl
    · rename_i td htd
      simp only [portOfFd, Table.lookup_insert_ite]
      split
      · subst_vars; rw [htd]; rfl
      · rfl

/-- What `portdev_ready` leaves alone. -/
theorem portdevReady_frame (s : TapManager) (isTun : Bool) (i : Int) (name : String) (mtu : Nat) :
    let s' := (s.portdevReady isTun i name mtu).2
    s'.portNames2id = s.portNames2id ∧ s'.idToHwaddr = s.idToHwaddr ∧
      s'.tapNames2fds = s.tapNames2fds ∧ s'.tapDevs = s.tapDevs ∧
      s'.portDeleted = s.portDeleted ∧ s'.opened = s.opened ∧ ∀ fd, s'.portOfFd fd = s.portOfFd fd := by
  intro s'
  have hmaps : s'.portNames2id = s.portNames2id ∧ s'.idToHwaddr = s.idToHwaddr := by
    have h : s'.toPortManager = _ := portdevReady_maps s isTun i name mtu
    rw [h]
    split
    · unfold PortManager.portdevReady
      split <;> exact ⟨rfl, rfl⟩
    · exact ⟨rfl, rfl⟩
  have hmtu : ∀ t : TapManager, (t.updateMtu name mtu).tapNames2fds = t.tapNames2fds ∧
      (t.updateMtu name mtu).tapDevs = t.tapDevs ∧
      (t.updateMtu name mtu).portDeleted = t.portDeleted ∧
      (t.updateMtu name mtu).opened = t.opened := by
    intro t
    unfold updateMtu
    split
    · exact ⟨rfl, rfl, rfl, rfl⟩
    · split <;> exact ⟨rfl, rfl, rfl, rfl⟩
  refine ⟨hmaps.1, hmaps.2, ?_⟩
  unfold s' TapManager.portdevReady
  split
  · exact ⟨rfl, rfl, rfl, rfl, fun _ => rfl⟩
  split
  · exact ⟨rfl, rfl, rfl, rfl, fun _ => rfl⟩
  · rename_i maps heq
    obtain ⟨h1, h2, h3, h4⟩ := hmtu { s with toPortManager := maps }
    exact ⟨h1, h2, h3, h4, portOfFd_updateMtu { s with toPortManager := maps } name mtu⟩

theorem Inv.portdevReady (h : Inv s) (hl : Live s) (isTun : Bool) (i : Int) (name : String)
    (mtu : Nat) :
    Inv (s.portdevReady isTun i name mtu).2 ∧ Live (s.portdevReady isTun i name mtu).2 := by
  have hmaps := portdevReady_maps s isTun i name mtu
  have hinv : Inverse (s.portdevReady isTun i name mtu).2.ifindexToId
      (s.portdevReady isTun i name mtu).2.idToIfindex := by
    rw [hmaps]
    split
    · exact PortManager.inverse_portdevReady h.inverse i name
    · exact h.inverse
  have hreg : ∀ j p, (s.portdevReady isTun i name mtu).2.ifindexToId.lookup j = some p →
      s.ifindexToId.lookup j = some p ∨ s.portNames2id.lookup name = some p := by
    intro j p hj
    rw [hmaps] at hj
    split at hj
    · exact PortManager.lookup_portdevReady hj
    · exact .inl hj
  obtain ⟨h1, h2, h3, h4, h5, h6, h7⟩ := portdevReady_frame s isTun i name mtu
  generalize (s.portdevReady isTun i name mtu).2 = s' at *
  constructor
  · constructor
    · exact hinv
    · simpa only [h1, h3] using h.names
    · simpa only [getFd, h4, h6] using h.opened
    · simpa only [getFd, h4] using h.inj
    · simpa only [h6, h7] using h.io
    · intro j p hj
      rw [h4, h5]
      rcases hreg j p hj with hj | hn
      · exact h.registered j p hj
      · obtain ⟨fd, hfd, -⟩ := hl name p hn
        exact .inl (mem_of_getFd hfd)
    · simpa only [h2, h4] using h.hwaddr
  · simpa only [Live, getFd, fdOfName, h1, h3, h4, h7] using hl

theorem Inv.clear (h : Inv s) : Inv { s with toPortManager := s.toPortManager.clear } where
  inverse := Inverse.empty
  names := h.names
  opened := h.opened
  inj := h.inj
  io := h.io
  registered i p hi := by simp [PortManager.clear] at hi
  hwaddr p hp := by simp [PortManager.clear] at hp

/-- The end of `portdev_removed`. -/
theorem Inv.finishRemoved (h : Inv s) {i : Int} {id : Nat} (hi : s.ifindexToId.lookup i = some id) :
    Inv (s.finishRemoved i id) where
  inverse := PortManager.inverse_unregister h.inverse hi
  names := h.names
  opened := h.opened
  inj := h.inj
  io := h.io
  registered j p hj := by
    simp only [TapManager.finishRemoved, PortManager.unregister, Table.lookup_erase_ite] at hj
    split at hj
    · cases hj
    · rename_i hne
      have hp : p ≠ id := by
        rintro rfl
        exact hne (h.inverse.inj hj hi)
      refine (h.registered j p hj).imp_right fun hm => ?_
      exact (List.mem_erase_of_ne hp).mpr hm
  hwaddr := h.hwaddr

variable (alloc) in
theorem getFd_recreateTapdev (hv : validDevname name = true) (id q : Nat) (hwaddr : Mac) :
    (s.recreateTapdev alloc id name hwaddr).getFd q =
      if q = id then some (alloc.1 s.opened) else s.getFd q := by
  simp only [recreateTapdev, hv, Bool.not_true, Bool.false_eq_true, if_false, getFd,
    Table.lookup_emplace, Table.lookup_erase_ite]
  split <;> simp

theorem mem_recreateTapdev (hv : validDevname name = true) {id q : Nat} {hwaddr : Mac}
    (hq : q ∈ s.tapDevs) : q ∈ (s.recreateTapdev alloc id name hwaddr).tapDevs := by
  by_contra hn
  rw [← getFd_eq_none, getFd_recreateTapdev _ hv] at hn
  split at hn
  · cases hn
  · exact getFd_eq_none.mp hn hq

variable (alloc) in
theorem recreateTapdev_frame (hv : validDevname name = true) (id : Nat) (hwaddr : Mac) :
    (s.recreateTapdev alloc id name hwaddr).opened = insert (alloc.1 s.opened) s.opened ∧
      (s.recreateTapdev alloc id name hwaddr).idToHwaddr = s.idToHwaddr ∧
      (s.recreateTapdev alloc id name hwaddr).portDeleted = s.portDeleted := by
  simp [recreateTapdev, hv]

theorem Inv.recreateTapdev (h : Inv s) (id : Nat) (name : String) (hwaddr : Mac) :
    Inv (s.recreateTapdev alloc id name hwaddr) := by
  cases hv : validDevname name with
  | false =>
    rw [TapManager.recreateTapdev, hv]
    exact h
  | true =>
    have hfd := fun q => getFd_recreateTapdev alloc (s := s) hv id q hwaddr
    have hio : ∀ fd, (s.recreateTapdev alloc id name hwaddr).portOfFd fd = s.portOfFd fd := by
      intro fd
      unfold TapManager.recreateTapdev
      split <;> rfl
    have hrest := recreateTapdev_frame alloc (s := s) hv id hwaddr
    obtain ⟨h1, h2⟩ := s.recreateTapdev_maps alloc id name hwaddr
    constructor
    · rw [h1, h2]
      exact h.inverse
    · intro name'
      simp only [TapManager.recreateTapdev, hv, Bool.not_true, Bool.false_eq_true, if_false,
        Table.mem_iff_lookup, Table.lookup_emplace]
      have := h.names name'
      rw [Table.mem_iff_lookup, Table.mem_iff_lookup] at this
      split
      · simp
      · exact this
    · intro q fd hq
      rw [hrest.1]
      rw [hfd] at hq
      split at hq
      · cases hq
        exact Finset.mem_insert_self _ _
      · exact Finset.mem_insert_of_mem (h.opened q fd hq)
    · intro q q' fd hq hq'
      rw [hfd] at hq hq'
      split at hq <;> split at hq'
      · subst_vars; rfl
      · cases hq
        exact absurd rfl (h.getFd_ne hq')
      · cases hq'
        exact absurd rfl (h.getFd_ne hq)
      · exact h.inj q q' fd hq hq'
    · intro fd q hq
      rw [hio] at hq
      rw [hrest.1]
      exact Finset.mem_insert_of_mem (h.io fd q hq)
    · intro i q hi
      rw [h1] at hi
      rw [hrest.2.2]
      exact (h.registered i q hi).imp_left (mem_recreateTapdev hv)
    · intro q hq
      rw [hrest.2.1] at hq
      exact mem_recreateTapdev hv (h.hwaddr q hq)

/-- A device that is created again is not registered with `tap_io`, so its port may have no name. -/
theorem Inv.live_recreateTapdev (h : Inv s) (hl : Live s) (hv : validDevname name = true) (id : Nat)
    (hwaddr : Mac) :
    Live (s.recreateTapdev alloc id name hwaddr) ↔
      (∃ q, q ≠ id ∧ s.portNames2id.lookup name = some q) ∧
        ∀ name', s.portNames2id.lookup name' ≠ some id := by
  have hfd := fun q => getFd_recreateTapdev alloc (s := s) hv id q hwaddr
  have hio : ∀ fd, (s.recreateTapdev alloc id name hwaddr).portOfFd fd = s.portOfFd fd := by
    intro fd
    unfold TapManager.recreateTapdev
    split <;> rfl
  have hnames : ∀ name', (s.recreateTapdev alloc id name hwaddr).portNames2id.lookup name' =
      if name' = name then some ((s.portNames2id.lookup name).getD id)
      else s.portNames2id.lookup name' := by
    intro name'
    simp only [TapManager.recreateTapdev, hv, Bool.not_true, Bool.false_eq_true, if_false,
      Table.lookup_emplace]
  constructor
  · intro hlive
    have hnone : ∀ name',
        (s.recreateTapdev alloc id name hwaddr).portNames2id.lookup name' ≠ some id := by
      intro name' hn
      obtain ⟨fd, h1, -, h3⟩ := hlive name' id hn
      rw [hfd, if_pos rfl] at h1
      cases h1
      rw [hio] at h3
      exact alloc.2 s.opened (h.io _ _ h3)
    have hname := hnone name
    rw [hnames, if_pos rfl] at hname
    cases hq : s.portNames2id.lookup name with
    | none => rw [hq] at hname; exact absurd rfl hname
    | some q =>
      rw [hq, Option.getD_some, ne_eq, Option.some.injEq] at hname
      refine ⟨⟨q, hname, rfl⟩, fun name' hn => ?_⟩
      by_cases he : name' = name
      · subst he
        rw [hq] at hn
        exact hname (Option.some.inj hn)
      · exact hnone name' (by rw [hnames, if_neg he]; exact hn)
  · rintro ⟨⟨q, hq, hname⟩, hnone⟩ name' r hn
    have hn' : s.portNames2id.lookup name' = some r := by
      rw [hnames, hname] at hn
      split at hn
      · subst_vars; rw [hname]; exact hn
      · exact hn
    obtain ⟨fd, h1, h2, h3⟩ := hl name' r hn'
    have hr : r ≠ id := by
      rintro rfl
      exact hnone name' hn'
    refine ⟨fd, by rw [hfd, if_neg hr]; exact h1, ?_, by rw [hio]; exact h3⟩
    simp only [fdOfName, TapManager.recreateTapdev, hv, Bool.not_true, Bool.false_eq_true, if_false,
      Table.lookup_emplace] at h2 ⊢
    split
    · subst_vars; rw [h2]; rfl
    · exact h2

variable (alloc) in
/-- A port that is registered and not scheduled for deletion has a device. -/
theorem Inv.portdevRemoved_ok (h : Inv s) (isTun : Bool) (i : Int) (name : String) :
    ∃ r, s.portdevRemoved alloc isTun i name = .ok r := by
  unfold TapManager.portdevRemoved
  split
  · exact ⟨_, rfl⟩
  cases hi : s.ifindexToId.lookup i with
  | none => exact ⟨_, rfl⟩
  | some id =>
    simp only
    split
    · exact ⟨_, rfl⟩
    · rename_i hdel
      have hmem : id ∈ s.idToIfindex := Table.mem_iff_lookup.mpr ⟨i, (h.inverse i id).mp hi⟩
      have hdev := (h.registered i id hi).resolve_right fun hp => hdel ⟨hp, hmem⟩
      obtain ⟨dev, hdev⟩ := Table.mem_iff_lookup.mp hdev
      rw [hdev]
      exact ⟨_, rfl⟩

theorem Inv.portdevRemoved (h : Inv s) (hl : Live s) (isTun : Bool) (i : Int) (name : String) :
    Runs Inv ((s.portdevRemoved alloc isTun i name).map (·.2)) ∧
      (Runs Live ((s.portdevRemoved alloc isTun i name).map (·.2)) ↔
        Keeps s (.portdevRemoved isTun i name)) := by
  obtain ⟨⟨handled, s'⟩, hs'⟩ := h.portdevRemoved_ok alloc isTun i name
  rw [hs']
  change Inv s' ∧ (Live s' ↔ _)
  obtain ⟨rfl, hign⟩ | ⟨id, htun, hi, ⟨hdel, hmem, rfl⟩ | ⟨hdel, dev, hdev, rfl⟩⟩ :=
    portdevRemoved_cases hs'
  · -- ignored
    refine ⟨h, iff_of_true hl fun p htun hp => ?_⟩
    rcases hign with hf | hnone
    · rw [htun] at hf
      cases hf
    · rw [hnone] at hp
      cases hp
  · -- scheduled
    refine ⟨h.finishRemoved hi, iff_of_true hl fun p _ hp hnot => ?_⟩
    rw [hi] at hp
    cases hp
    exact absurd hdel hnot
  · have hmem : id ∈ s.idToIfindex := Table.mem_iff_lookup.mpr ⟨i, (h.inverse i id).mp hi⟩
    have hnot : id ∉ s.portDeleted := fun hp => hdel ⟨hp, hmem⟩
    have hi' : (s.recreateTapdev alloc id name dev.hwaddr).ifindexToId.lookup i = some id := by
      rw [(s.recreateTapdev_maps alloc id name dev.hwaddr).1]
      exact hi
    refine ⟨(h.recreateTapdev id name dev.hwaddr).finishRemoved hi', ?_⟩
    change Live (s.recreateTapdev alloc id name dev.hwaddr) ↔ _
    have hkeeps : Keeps s (.portdevRemoved isTun i name) ↔ (validDevname name = true →
        (∃ q, q ≠ id ∧ s.portNames2id.lookup name = some q) ∧
          ∀ name', s.portNames2id.lookup name' ≠ some id) := by
      constructor
      · exact fun hk => hk id htun hi hnot
      · intro hk p _ hp _
        rw [hi] at hp
        cases hp
        exact hk
    rw [hkeeps]
    cases hv : validDevname name with
    | false =>
      rw [TapManager.recreateTapdev, hv]
      exact iff_of_true hl fun hf => nomatch hf
    | true =>
      rw [h.live_recreateTapdev hl hv, imp_iff_right rfl]

end Calls

/-- **The live devices.** A process stays in states in which names, devices and `tap_io` agree
exactly if all its calls meet `Keeps`. -/
theorem live_iff_along (alloc : FdAlloc) (es : List PortEv) :
    (∀ n, Runs Live (run (procStep (TapManager.exec alloc)) (.ok {}) (es.take n))) ↔
      Along (procStep (TapManager.exec alloc)) (OnRunning Keeps) (.ok {}) es := by
  have hstep : ∀ (s : TapManager) (e : PortEv), Inv s → Live s →
      Runs Inv (s.exec alloc e) ∧ (Runs Live (s.exec alloc e) ↔ Keeps s e) := by
    intro s e h hl
    cases e with
    | createPortdev p name hwaddr r =>
      obtain ⟨s', hs', hboth⟩ := runs_iff.mp (h.createPortdev alloc hl p name hwaddr)
      rw [exec, hs']
      exact ⟨hboth.1, iff_of_true hboth.2 trivial⟩
    | destroyPortdev p name => exact ⟨h.destroyPortdev p name, h.live_destroyPortdev hl p name⟩
    | portdevReady isTun i name mtu =>
      have hboth := h.portdevReady hl isTun i name mtu
      exact ⟨hboth.1, iff_of_true hboth.2 trivial⟩
    | portdevRemoved isTun i name => exact h.portdevRemoved hl isTun i name
    | clear => exact ⟨h.clear, iff_of_true hl trivial⟩
  refine runs_iff_along inv_init ?_ (fun s e h hl _ => (hstep s e h hl).1)
    (fun s e h hl => (hstep s e h hl).2) es
  intro name p h
  simp at h

/-- The least descriptor above those in use. -/
def nextFd : FdAlloc := ⟨fun fds => fds.sup id + 1, fun fds h => by
  have := Finset.le_sup (f := id) h
  simp only [id] at this
  omega⟩

/-- Someone removes the device of a port: the new device is not the one that its name leads to. -/
theorem removedPort1_not_live :
    ¬ Runs Live (run (procStep (TapManager.exec nextFd)) (.ok {})
      [.createPortdev 1 "port1" 1 0, .portdevReady true 5 "port1" 1500,
        .portdevRemoved true 5 "port1"]) := by
  refine Runs.not_of (P := fun s => s.portNames2id.lookup "port1" = some 1 ∧ s.getFd 1 = some 2 ∧
    s.portOfFd 2 = none) (by decide) fun s hs hlive => ?_
  obtain ⟨hname, hfd, hio⟩ := hs
  obtain ⟨fd, h1, -, h3⟩ := hlive "port1" 1 hname
  rw [hfd] at h1
  cases h1
  rw [hio] at h3
  cases h3

end TapManager

end Basebox
