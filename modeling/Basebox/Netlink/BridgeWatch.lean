import Basebox.Lib.Run
import Basebox.Netlink.LinkCache
import Mathlib.Data.Finset.Basic

/-!
# The bridge that is followed (`src/netlink/cnetlink.cc`)

`cnetlink` follows one bridge: the first one that a link of the switch becomes a port of, if it is
VLAN aware then. Other bridges are ignored from their first such port on. What a handler looks up
may be newer than the note that it handles, and the sysfs file of the bridge newer still.

* `bridgeSlave`: the branch `LT_BRIDGE_SLAVE` of `link_created`; `addLag`: a bond gets its port id,
  when it is created or when a tap device becomes its member; `handleNote`: what `link_created`,
  `link_updated` and `link_deleted` do about ports and bridges. They read the caches as `LinkCache` has
  them.
* `Kernel`: what the kernel does. A port is a port of a bridge and keeps it, a VLAN interface keeps
  the link below it, a bridge is no slave, and ports come and go as in `LinkCache.Kernel`.
* `bridgePorts_settle`: when all notes are handled, each port that is a tap device of the switch, or
  above one, is configured on the bridge that is followed or is a port of an ignored bridge; nothing
  else is configured but ports of the bridge that is followed, except bonds that `add_lag` configured;
  and no bridge outlives its deletion.
* `lateBond_unsettled`: a bond may get its port id from a member, after the ports above it were
  handled.
* `ignored_run`: an ignored bridge stays ignored until its deletion is handled, with all its ports,
  whatever becomes of the bridge that was followed.
-/

namespace Basebox

/-- What a link is, as `get_link_type` and `rtnl_link_is_vlan` tell. -/
inductive LinkKind where
  | tun
  | bond
  | vxlan
  | vlan
  | vrf
  | bridge
  | other
  deriving DecidableEq

namespace BridgeWatch

/-- How the process can end. -/
inductive End where
  /-- `LOG(FATAL)`. -/
  | fatal
  /-- A null pointer is dereferenced. -/
  | nullptr
  deriving DecidableEq

/-- What the handler of a note learns from elsewhere. -/
structure Answers where
  /-- `portdev_ready`, `portdev_removed`, `add_lag` or `remove_lag` succeed. -/
  handled : Bool := true
  /-- `get_tunnel_id` finds the VNI. -/
  tunnel : Bool := false
  /-- `rtnl_link_bridge_get_vlan_filtering` of the cached link, unless it fails. -/
  vlanFiltering : Option Nat := some 1
  /-- The sysfs file `vlan_filtering` of the bridge, unless it is gone. -/
  file : Option Nat := some 1

end BridgeWatch

/-- The bridge that is followed, and the links as they are seen. -/
structure BridgeWatch (Addr : Type) where
  links : LinkCache Addr := {}
  /-- The links with a port id. -/
  ports : Finset Int := ∅
  /-- The ifindex of `bridge`. -/
  bridge : Option Int := none
  /-- The constructor was left by an exception: the file of the bridge was gone. -/
  incomplete : Bool := false
  /-- `ignored_bridges`. -/
  ignored : Finset Int := ∅
  /-- The links that `add_interface` was called for, and `delete_interface` not since. -/
  attached : Finset Int := ∅
  ended : Option BridgeWatch.End := none

namespace BridgeWatch

variable {Addr : Type} [DecidableEq Addr] (kind : Int → LinkKind)

/-- `rtnl_link_is_vlan`, which only the link itself says, not a bridge port. -/
def isVlan (l : LinkObj) : Bool := decide (l.family = .afUnspec) && decide (kind l.ifindex = .vlan)

/-- `get_link_type` goes by the type of the link itself: it is no slave, or one of a bridge. -/
def hasOwnType (l : LinkObj) : Bool := decide (l.master = 0) || decide (kind l.master = .bridge)

/-- `LT_BOND_SLAVE`. -/
def isBondSlave (l : LinkObj) : Bool := decide (l.master ≠ 0) && decide (kind l.master = .bond)

/-- `LT_VRF_SLAVE`. -/
def isVrfSlave (l : LinkObj) : Bool := decide (l.master ≠ 0) && decide (kind l.master = .vrf)

/-- `get_port_id(link) > 0`. -/
def hasPortId (s : BridgeWatch Addr) (l : LinkObj) : Bool :=
  decide ((if isVlan kind l then l.link else l.ifindex) ∈ s.ports)

/-- `is_switch_interface`. -/
def isSwitchInterface (s : BridgeWatch Addr) (tunnel : Bool) (l : LinkObj) : Bool :=
  match if isVlan kind l then LinkCache.getLinkByIfindex s.links l.link else some l with
  | none => false
  | some link =>
    s.hasPortId kind link ||
      (decide (link.family = .afUnspec) && decide (kind link.ifindex = .vxlan) && tunnel) ||
      decide (s.bridge = some link.ifindex)

/-- The first port of a bridge, while none is followed. -/
def newBridge (s : BridgeWatch Addr) (a : Answers) (ifindex master : Int) : BridgeWatch Addr :=
  if a.vlanFiltering = some 1 then
    match a.file with
    | none => { s with bridge := some master, incomplete := true }
    | some 0 => { s with bridge := some master, ended := some .fatal }
    | some _ => { s with bridge := some master, attached := insert ifindex s.attached }
  else { s with ignored := insert master s.ignored }

/-- `link_created` of a bridge port. -/
def bridgeSlave (s : BridgeWatch Addr) (a : Answers) (link : LinkObj) : BridgeWatch Addr :=
  if link.master = 0 ∨ link.master ∈ s.ignored then s
  else
    match LinkCache.getLink s.links link.ifindex .afUnspec with
    | none => { s with ended := some .nullptr }
    | some baseLink =>
      if s.isSwitchInterface kind a.tunnel baseLink then
        match LinkCache.getLinkByIfindex s.links link.master, s.bridge with
        | none, _ => { s with ended := some .nullptr }
        | some _, none => s.newBridge a link.ifindex link.master
        | some _, some br =>
          if br = link.master then { s with attached := insert link.ifindex s.attached }
          else { s with ignored := insert link.master s.ignored }
      else s

/-- `add_lag`: the bond gets a port id. If it is a bridge port already, it is handled as a new one. -/
def addLag (s : BridgeWatch Addr) (a : Answers) (bond : LinkObj) : BridgeWatch Addr :=
  if a.handled then
    let registered := { s with ports := insert bond.ifindex s.ports }
    if bond.master = 0 then registered
    else
      match LinkCache.getLink s.links bond.ifindex .afBridge with
      | none => registered
      | some brLink => registered.bridgeSlave kind a brLink
  else s

/-- `add_lag_member`, as far as the bond goes. -/
def addLagMember (s : BridgeWatch Addr) (a : Answers) (master : Int) : BridgeWatch Addr :=
  match LinkCache.getLink s.links master .afUnspec with
  | none => { s with ended := some .nullptr }
  | some bond => if bond.ifindex ∈ s.ports then s else s.addLag kind a bond

/-- `remove_lag_member`, which ends the process if the bond has no port id. -/
def removeLagMember (s : BridgeWatch Addr) (master : Int) : BridgeWatch Addr :=
  match LinkCache.getLink s.links master .afUnspec with
  | none => { s with ended := some .nullptr }
  | some bond => if bond.ifindex ∈ s.ports then s else { s with ended := some .fatal }

/-- `link_created` of a link that is no bridge port. -/
def baseCreated (s : BridgeWatch Addr) (a : Answers) (link : LinkObj) : BridgeWatch Addr :=
  match kind link.ifindex with
  | .tun => if a.handled then { s with ports := insert link.ifindex s.ports } else s
  | .bond => if hasOwnType kind link then s.addLag kind a link else s
  | _ => s

/-- `link_updated` of a link that is no bridge port: a tap device of the switch becomes a member of a
bond, or is one no longer. -/
def baseUpdated (s : BridgeWatch Addr) (a : Answers) (old new : LinkObj) : BridgeWatch Addr :=
  if kind new.ifindex = .tun ∧ new.ifindex ∈ s.ports then
    if isBondSlave kind old then
      if isBondSlave kind new then s else s.removeLagMember old.master
    else if !isVrfSlave kind old && isBondSlave kind new then s.addLagMember kind a new.master
    else s
  else s

/-- `link_deleted` of a link that is no bridge port. -/
def baseDeleted (s : BridgeWatch Addr) (a : Answers) (link : LinkObj) : BridgeWatch Addr :=
  match kind link.ifindex with
  | .tun => if a.handled then { s with ports := s.ports.erase link.ifindex } else s
  | .bond =>
    if hasOwnType kind link && a.handled then { s with ports := s.ports.erase link.ifindex } else s
  | .bridge =>
    if !hasOwnType kind link then s
    else if s.bridge = some link.ifindex then { s with bridge := none, incomplete := false }
    else { s with ignored := s.ignored.erase link.ifindex }
  | _ => s

/-- `route_link_apply`. An update of a bridge port changes neither ports nor bridges here. -/
def handleNote (s : BridgeWatch Addr) (a : Answers) :
    CacheNote (CacheKey Addr) (CacheObj Addr) → BridgeWatch Addr
  | .new _ (.link l) =>
    match l.family with
    | .afInet6 => s
    | .afBridge => s.bridgeSlave kind a l
    | .afUnspec => s.baseCreated kind a l
  | .change _ (.link old) (.link new) =>
    match new.family with
    | .afUnspec => s.baseUpdated kind a old new
    | _ => s
  | .del _ (.link l) =>
    match l.family with
    | .afInet6 => s
    | .afBridge =>
      if s.bridge = some l.master then { s with attached := s.attached.erase l.ifindex } else s
    | .afUnspec => s.baseDeleted kind a l
  | _ => s

/-- What happens: libnl reports an object, or the next note is handled. -/
inductive Ev (Addr : Type) where
  /-- An object is new or changed. -/
  | report (o : CacheObj Addr)
  | gone (k : CacheKey Addr)
  | handle (a : Answers)

/-- The state after an event, unless the process has ended. -/
def step (s : BridgeWatch Addr) (e : Ev Addr) : BridgeWatch Addr :=
  if s.ended = none then
    match e with
    | .report o => { s with links := LinkCache.step s.links (.report o) }
    | .gone k => { s with links := LinkCache.step s.links (.gone k) }
    | .handle a =>
      match s.links.pending with
      | [] => s
      | n :: _ => { s with links := LinkCache.step s.links .handle }.handleNote kind a n
  else s

/-! ## The kernel -/

section Kernel

variable (lower : Int → Int)

/-- A port is a port of a bridge, a VLAN interface is above another link, and a bridge is no slave. -/
def Placed : CacheObj Addr → Prop
  | .link l =>
    match l.family with
    | .afUnspec => (kind l.ifindex = .vlan → l.link = lower l.ifindex ∧ lower l.ifindex ≠ 0) ∧
      (kind l.ifindex = .bridge → l.master = 0)
    | .afBridge => kind l.master = .bridge ∧ l.master ≠ 0
    | .afInet6 => True
  | .neigh _ _ => True

/-- What the kernel keeps to. -/
def Kernel (s : BridgeWatch Addr) : Ev Addr → Prop
  | .report o => LinkCache.Kernel s.links (.report o) ∧
    LinkCache.KeepsBridge s.links (.report o) ∧ Placed kind lower o
  | .gone k => LinkCache.Kernel s.links (.gone k)
  | .handle _ => True

/-- The link whose port id a link has. -/
def base (p : Int) : Int := if kind p = .vlan then lower p else p

/-- The bridge of a port, as the handled notes have it. -/
def portMaster (s : BridgeWatch Addr) (p : Int) : Option Int :=
  ((s.links.seen.lookup (.link p .afBridge)).bind CacheObj.asLink).map (·.master)

/-- The port is configured on the bridge that is followed, or its bridge is ignored. -/
def Settled (s : BridgeWatch Addr) (p master : Int) : Prop :=
  (s.bridge = some master ∧ (p ∈ s.attached ∨ s.incomplete = true)) ∨ master ∈ s.ignored

/-- What is known of a bridge that is followed or ignored. -/
def Known (s : BridgeWatch Addr) (m : Int) : Prop :=
  kind m = .bridge ∧ s.links.find (.link m .afUnspec) ≠ none

/-- What every state of a running process has, but for `Settled`. -/
structure Core (s : BridgeWatch Addr) : Prop where
  links : LinkCache.Inv s.links
  kept : LinkCache.KeptBridges s.links
  keyed : ∀ k o, s.links.seen.lookup k = some o → o.key = k
  placed : s.links.All (Placed kind lower)
  ports : ∀ i ∈ s.ports, kind i = .tun ∨ kind i = .bond
  disjoint : ∀ m, s.bridge = some m → m ∉ s.ignored
  complete : s.bridge = none → s.incomplete = false
  followed : ∀ m, s.bridge = some m → s.Known kind m
  ignored : ∀ m ∈ s.ignored, s.Known kind m
  attached : ∀ p ∈ s.attached, kind p ≠ .bond →
    ∃ m, s.portMaster p = some m ∧ s.bridge = some m

/-- The core, and every port of the switch in a bridge is settled. -/
structure Inv (s : BridgeWatch Addr) : Prop extends Core kind lower s where
  settled : ∀ p m, s.portMaster p = some m → kind (base kind lower p) = .tun →
    base kind lower p ∈ s.ports → s.Settled p m

/-- The process keeps track, or it was ended by `LOG(FATAL)`. -/
def Good (s : BridgeWatch Addr) : Prop :=
  s.ended ≠ some .nullptr ∧ (s.ended = none → Inv kind lower s)

end Kernel

section Lookups

variable {kind} {lower : Int → Int} {s : BridgeWatch Addr}

omit [DecidableEq Addr] in
theorem ifindex_of_getLinkByIfindex {c : LinkCache Addr} {i : Int} {l : LinkObj}
    (h : LinkCache.getLinkByIfindex c i = some l) : l.ifindex = i := by
  unfold LinkCache.getLinkByIfindex at h
  dsimp only at h
  split at h
  · next a ha =>
    cases h
    have hmem := List.mem_of_getLast? ha
    rw [List.mem_filter, List.mem_filter] at hmem
    exact of_decide_eq_true hmem.1.2
  · simpa using List.find?_some h

theorem getLink_of_find (h : Core kind lower s) {i : Int} {family : LinkFamily}
    (hf : s.links.find (.link i family) ≠ none) :
    ∃ l, LinkCache.getLink s.links i family = some l ∧ l.ifindex = i ∧ l.family = family ∧
      s.links.find (.link i family) = some (.link l) := by
  obtain ⟨o, ho⟩ := Option.ne_none_iff_exists'.mp hf
  have hkey := LinkCache.find_key h.links.keyed ho
  cases o with
  | neigh => cases hkey
  | link l =>
    simp only [CacheObj.key, CacheKey.link.injEq] at hkey
    refine ⟨l, ?_, hkey.1, hkey.2, ho⟩
    rw [LinkCache.getLink_eq h.links.keyed, ho]
    rfl

theorem getLinkByIfindex_of_find (h : Core kind lower s) {i : Int}
    (hf : s.links.find (.link i .afUnspec) ≠ none) :
    ∃ l, LinkCache.getLinkByIfindex s.links i = some l ∧ l.ifindex = i := by
  obtain ⟨l, hl⟩ := Option.ne_none_iff_exists'.mp
    (LinkCache.getLinkByIfindex_ne_none h.links.keyed hf)
  exact ⟨l, hl, ifindex_of_getLinkByIfindex hl⟩

/-- A link of the switch, and a VLAN interface above one, is a switch interface. -/
theorem isSwitchInterface_of_base (h : Core kind lower s) {i : Int}
    (hi : base kind lower i ∈ s.ports) {l : LinkObj}
    (hl : s.links.find (.link i .afUnspec) = some (.link l)) (hidx : l.ifindex = i)
    (hfam : l.family = .afUnspec) (tunnel : Bool) : s.isSwitchInterface kind tunnel l = true := by
  have hplaced := h.placed.find hl
  simp only [Placed, hfam, hidx] at hplaced
  unfold isSwitchInterface base at *
  by_cases hv : kind i = .vlan
  · obtain ⟨hlink, hne⟩ := hplaced.1 hv
    rw [if_pos hv] at hi
    have hbelow : s.links.find (.link (lower i) .afUnspec) ≠ none := by
      refine AheadCache.find_parents_of_find h.links.nested h.links.fits hl ?_
      simp [CacheObj.parents, hfam, hlink, hne]
    obtain ⟨b, hb, hbi⟩ := getLinkByIfindex_of_find h hbelow
    have hbase : isVlan kind b = false := by
      have := h.ports _ hi
      rcases this with hk | hk <;> simp [isVlan, hbi, hk]
    have hvlan : isVlan kind l = true := by simp [isVlan, hfam, hidx, hv]
    rw [if_pos hvlan, hlink, hb]
    simp [hasPortId, hbase, hbi, hi]
  · rw [if_neg hv] at hi
    have hvlan : isVlan kind l = false := by simp [isVlan, hidx, hv]
    simp [hvlan, hasPortId, hidx, hi]

end Lookups

/-! ## A new port -/

section Port

variable {kind} {lower : Int → Int} {s : BridgeWatch Addr} {a : Answers} {link : LinkObj}

/-- What `link_created` does about a bridge port. -/
inductive PortCase (s : BridgeWatch Addr) (p master : Int) (isBase : Prop) :
    BridgeWatch Addr → Prop where
  | none (h : isBase → master ∈ s.ignored) : PortCase s p master isBase s
  | ignored (h : s.bridge ≠ some master) :
    PortCase s p master isBase { s with ignored := insert master s.ignored }
  | attached (h : s.bridge = some master) :
    PortCase s p master isBase { s with attached := insert p s.attached }
  | followed (h : s.bridge = Option.none) (hi : master ∉ s.ignored) :
    PortCase s p master isBase
      { s with bridge := some master, attached := insert p s.attached }
  | incomplete (h : s.bridge = Option.none) (hi : master ∉ s.ignored) :
    PortCase s p master isBase { s with bridge := some master, incomplete := true }
  | fatal (h : s.bridge = Option.none) (hi : master ∉ s.ignored) :
    PortCase s p master isBase { s with bridge := some master, ended := some .fatal }

omit [DecidableEq Addr] in
theorem newBridge_cases (a : Answers) (p master : Int) (isBase : Prop) (h : s.bridge = none)
    (hi : master ∉ s.ignored) : PortCase s p master isBase (s.newBridge a p master) := by
  unfold newBridge
  split
  · split
    · exact .incomplete h hi
    · exact .fatal h hi
    · exact .followed h hi
  · exact .ignored (by rw [h]; simp)

/-- A handler finds the link of a new port and its bridge. -/
theorem bridgeSlave_cases (h : Core kind lower s) (hmaster : link.master ≠ 0)
    (hbase : s.links.find (.link link.ifindex .afUnspec) ≠ none)
    (hbr : s.links.find (.link link.master .afUnspec) ≠ none) :
    PortCase s link.ifindex link.master (base kind lower link.ifindex ∈ s.ports)
      (s.bridgeSlave kind a link) := by
  obtain ⟨l, hget, hidx, hfam, hl⟩ := getLink_of_find h hbase
  obtain ⟨br, hgetBr, -⟩ := getLinkByIfindex_of_find h hbr
  unfold bridgeSlave
  by_cases hign : link.master ∈ s.ignored
  · rw [if_pos (.inr hign)]
    exact .none fun _ => hign
  · rw [if_neg (by simp [hmaster, hign]), hget, hgetBr]
    dsimp only
    split
    · split
      · next he => cases he
      · next hb => exact newBridge_cases a _ _ _ hb hign
      · next b _ hb =>
        split
        · next he => exact .attached (by rw [hb, he])
        · next he => exact .ignored (by rw [hb]; simpa using he)
    · next hno =>
      refine .none fun hi => absurd ?_ hno
      exact isSwitchInterface_of_base h hi hl hidx hfam a.tunnel

/-- What a new port does to the rest. -/
theorem Core.port (h : Core kind lower s) {p master : Int} {isBase : Prop} {s' : BridgeWatch Addr}
    (hc : PortCase s p master isBase s') (hknown : s.Known kind master)
    (hp : kind p = .bond ∨ s.portMaster p = some master) : Core kind lower s' := by
  have hnone : s.bridge = none → ∀ q ∈ s.attached, kind q = .bond := by
    intro hb q hq
    by_contra hk
    obtain ⟨m, -, hm⟩ := h.attached q hq hk
    rw [hb] at hm
    cases hm
  cases hc with
  | none _ => exact h
  | ignored hne =>
    refine { h with disjoint := fun m hm => ?_, ignored := fun m hm => ?_ }
    · rw [Finset.mem_insert, not_or]
      refine ⟨?_, h.disjoint m hm⟩
      rintro rfl
      exact hne hm
    · rcases Finset.mem_insert.mp hm with rfl | hm
      · exact hknown
      · exact h.ignored m hm
  | attached hb =>
    refine { h with attached := fun q hq hk => ?_ }
    rcases Finset.mem_insert.mp hq with rfl | hq
    · exact ⟨master, hp.resolve_left hk, hb⟩
    · exact h.attached q hq hk
  | followed hb hi =>
    refine { h with
      disjoint := ?_, complete := fun hn => (by cases hn), followed := ?_
      attached := fun q hq hk => ?_ }
    · rintro m hm
      cases hm
      exact hi
    · rintro m hm
      cases hm
      exact hknown
    · rcases Finset.mem_insert.mp hq with rfl | hq
      · exact ⟨master, hp.resolve_left hk, rfl⟩
      · exact absurd (hnone hb q hq) hk
  | incomplete hb hi | fatal hb hi =>
    refine { h with
      disjoint := ?_, complete := fun hn => (by cases hn), followed := ?_
      attached := fun q hq hk => absurd (hnone hb q hq) hk }
    · rintro m hm
      cases hm
      exact hi
    · rintro m hm
      cases hm
      exact hknown

omit [DecidableEq Addr] in
/-- What is settled stays settled. -/
theorem Settled.port {p master : Int} {isBase : Prop} {s' : BridgeWatch Addr}
    (hc : PortCase s p master isBase s') {q m : Int} (h : s.Settled q m) : s'.Settled q m := by
  have hnone : s.bridge = none → m ∈ s.ignored := by
    intro hb
    refine h.resolve_left fun ⟨hm, _⟩ => ?_
    rw [hb] at hm
    cases hm
  cases hc with
  | none _ => exact h
  | ignored _ => exact h.imp id fun hm => Finset.mem_insert_of_mem hm
  | attached _ =>
    exact h.imp (fun ⟨hb, ha⟩ => ⟨hb, ha.imp (fun ha => Finset.mem_insert_of_mem ha) id⟩) id
  | followed hb _ | incomplete hb _ | fatal hb _ => exact .inr (hnone hb)

omit [DecidableEq Addr] in
/-- The new port itself is settled while the process runs. -/
theorem settled_new_port {p master : Int} {isBase : Prop} {s' : BridgeWatch Addr}
    (hc : s.PortCase p master isBase s') (hbase : isBase) (hrun : s'.ended = none) :
    s'.Settled p master := by
  cases hc with
  | none h => exact .inr (h hbase)
  | ignored _ => exact .inr (Finset.mem_insert_self _ _)
  | attached hb => exact .inl ⟨hb, .inl (Finset.mem_insert_self _ _)⟩
  | followed _ _ => exact .inl ⟨rfl, .inl (Finset.mem_insert_self _ _)⟩
  | incomplete _ _ => exact .inl ⟨rfl, .inr rfl⟩
  | fatal _ _ => cases hrun

end Port

/-! ## A note -/

section Note

variable {kind} {lower : Int → Int} {s : BridgeWatch Addr} {a : Answers}
variable {n : CacheNote (CacheKey Addr) (CacheObj Addr)}
variable {l : List (CacheNote (CacheKey Addr) (CacheObj Addr))}

/-- The state in which a note is handled. -/
def popped (s : BridgeWatch Addr) : BridgeWatch Addr :=
  { s with links := LinkCache.step s.links .handle }

theorem links_popped (h : LinkCache.Inv s.links) : LinkCache.Inv s.popped.links := by
  have hk : LinkCache.Kernel s.links .handle := trivial
  obtain ⟨h1, h2⟩ := AheadCache.nested_step h.nested h.fits hk
  exact ⟨h1, h2, LinkCache.keyed_step h.keyed .handle⟩

theorem portMaster_popped (hl : s.links.pending = n :: l) (p : Int) :
    s.popped.portMaster p =
      if CacheKey.link p .afBridge = n.key then
        (n.after.bind CacheObj.asLink).map (·.master)
      else s.portMaster p := by
  unfold portMaster
  show ((s.links.handle.seen.lookup _).bind _).map _ = _
  rw [AheadCache.seen_handle hl, CacheNote.lookup_apply]
  split_ifs <;> rfl

/-- A port whose bridge or link is known hangs on them. -/
theorem port_parents (h : Core kind lower s) {p m : Int} (hp : s.portMaster p = some m) :
    CacheKey.link (base kind lower p) .afUnspec ∈ s.links.seen ∧
      ∃ o : CacheObj Addr, s.links.seen.lookup (.link p .afBridge) = some o ∧
        CacheKey.link m .afUnspec ∈ o.parents := by
  obtain ⟨lo, hlo, rfl⟩ := Option.map_eq_some_iff.mp hp
  obtain ⟨o, ho, holo⟩ := Option.bind_eq_some_iff.mp hlo
  cases o with
  | neigh => cases holo
  | link o =>
    cases holo
    have hkey := h.keyed _ _ ho
    simp only [CacheObj.key, CacheKey.link.injEq] at hkey
    obtain ⟨rfl, hfam⟩ := hkey
    have hclosed := h.links.nested.closed
    have hself : CacheKey.link lo.ifindex .afUnspec ∈ s.links.seen :=
      hclosed _ _ ho _ (by simp [CacheObj.parents, hfam])
    refine ⟨?_, _, ho, by simp [CacheObj.parents, hfam]⟩
    unfold base
    split_ifs with hv
    · obtain ⟨b, hb⟩ := Table.mem_iff_lookup.mp hself
      have hkey := h.keyed _ _ hb
      cases b with
      | neigh => cases hkey
      | link b =>
        simp only [CacheObj.key, CacheKey.link.injEq] at hkey
        have hplaced := h.placed.seen _ _ hb
        simp only [Placed, hkey.1, hkey.2] at hplaced
        obtain ⟨hlink, hne⟩ := hplaced.1 hv
        exact hclosed _ _ hb _ (by simp [CacheObj.parents, hkey.2, hlink, hne])
    · exact hself

/-- When the deletion of a bridge is handled, it has no ports. -/
theorem no_port_of_gone (h : Core kind lower s) {m : Int} {o : CacheObj Addr}
    (hl : s.links.pending = .del (.link m .afUnspec) o :: l) (p : Int) :
    s.portMaster p ≠ some m := by
  intro hp
  obtain ⟨-, b, hb, hparent⟩ := port_parents h hp
  have hnested := h.links.nested
  rw [hl] at hnested
  have hmem := hnested.2.2.closed (.link p .afBridge) b (by
    rw [CacheNote.lookup_apply, if_neg (by simp [CacheNote.key])]
    exact hb) _ hparent
  rw [Table.mem_iff_lookup] at hmem
  obtain ⟨c, hc⟩ := hmem
  simp [CacheNote.lookup_apply, CacheNote.key, CacheNote.after] at hc

/-- A new link is no port yet, and is not below one. -/
theorem no_port_of_new (h : Core kind lower s) {i : Int} {o : CacheObj Addr}
    (hl : s.links.pending = .new (.link i .afUnspec) o :: l) {p m : Int}
    (hp : s.portMaster p = some m) : base kind lower p ≠ i := by
  rintro rfl
  obtain ⟨b, hb⟩ := Table.mem_iff_lookup.mp (port_parents h hp).1
  have hold : s.links.seen.lookup (.link (base kind lower p) .afUnspec) = none :=
    h.links.fits.lookup_seen hl
  rw [hold] at hb
  cases hb

theorem core_popped (h : Core kind lower s) (hl : s.links.pending = n :: l)
    (hgone : ∀ m o, n = .del (.link m .afUnspec) o → s.bridge ≠ some m ∧ m ∉ s.ignored)
    (hport : ∀ p ∈ s.attached, kind p ≠ .bond → ∀ m, s.portMaster p = some m →
      s.popped.portMaster p = some m) : Core kind lower s.popped := by
  have hknown : ∀ m, (∀ o, n ≠ .del (.link m .afUnspec) o) → s.Known kind m →
      s.popped.Known kind m := fun m hm hk =>
    ⟨hk.1, AheadCache.find_handle_ne_none hl hm hk.2⟩
  refine { h with
    links := links_popped h.links
    kept := LinkCache.keptBridges_step h.links.keyed h.kept fun _ _ he => (by cases he)
    keyed := fun k o ho => ?_
    placed := h.placed.handle
    followed := fun m hm => hknown m (fun o hn => (hgone m o hn).1 hm) (h.followed m hm)
    ignored := fun m hm => hknown m (fun o hn => (hgone m o hn).2 hm) (h.ignored m hm)
    attached := fun p hp hk => ?_ }
  · rw [show s.popped.links.seen = n.apply s.links.seen from AheadCache.seen_handle hl,
      CacheNote.lookup_apply] at ho
    split_ifs at ho with he
    · rw [he]
      exact h.links.keyed.pending n (hl ▸ List.mem_cons_self) o (.inr ho)
    · exact h.keyed k o ho
  · obtain ⟨m, hm, hb⟩ := h.attached p hp hk
    exact ⟨m, hport p hp hk m hm, hb⟩

/-- The notes that are not of a new or deleted port leave the ports. -/
theorem portMaster_same (h : Core kind lower s) (hl : s.links.pending = n :: l)
    (hn : ∀ p, n.key = .link p .afBridge → n.old ≠ none ∧ n.after ≠ none) (p : Int) :
    s.popped.portMaster p = s.portMaster p := by
  rw [portMaster_popped hl]
  split_ifs with hk
  · obtain ⟨hold, hafter⟩ := hn p hk.symm
    obtain ⟨o, ho⟩ := Option.ne_none_iff_exists'.mp hold
    obtain ⟨o', ho'⟩ := Option.ne_none_iff_exists'.mp hafter
    have hmem : n ∈ s.links.pending := hl ▸ List.mem_cons_self
    have hkey := h.links.keyed.pending n hmem o (.inl ho)
    have hkey' := h.links.keyed.pending n hmem o' (.inr ho')
    rw [← hk] at hkey hkey'
    cases o with
    | neigh => cases hkey
    | link b =>
      cases o' with
      | neigh => cases hkey'
      | link b' =>
        simp only [CacheObj.key, CacheKey.link.injEq] at hkey
        have hmaster := h.kept n hmem b b' ho ho' hkey.2
        unfold portMaster
        rw [hk, h.links.fits.lookup_seen hl, ho, ho']
        show some b'.master = some b.master
        rw [hmaster]
  · rfl

/-- A note that does nothing. -/
theorem inv_popped (h : Inv kind lower s) (hl : s.links.pending = n :: l)
    (hgone : ∀ m o, n = .del (.link m .afUnspec) o → s.bridge ≠ some m ∧ m ∉ s.ignored)
    (hn : ∀ p, n.key = .link p .afBridge → n.old ≠ none ∧ n.after ≠ none) :
    Inv kind lower s.popped := by
  have hsame := portMaster_same h.toCore hl hn
  refine ⟨core_popped h.toCore hl hgone fun p _ _ m hm => (hsame p).trans hm, fun p m hp => ?_⟩
  rw [hsame] at hp
  exact h.settled p m hp

theorem good_of_inv (h : Inv kind lower s) (hrun : s.ended = none) : Good kind lower s :=
  ⟨by rw [hrun]; simp, fun _ => h⟩

theorem good_port {p master : Int} {s' : BridgeWatch Addr}
    (hc : PortCase s p master (base kind lower p ∈ s.ports) s') (h : Core kind lower s)
    (hrun : s.ended = none) (hknown : s.Known kind master)
    (hp : kind p = .bond ∨ s.portMaster p = some master)
    (hsettled : ∀ q m, s.portMaster q = some m → kind (base kind lower q) = .tun →
      base kind lower q ∈ s.ports → s.Settled q m ∨ q = p ∧ m = master) : Good kind lower s' := by
  have hsame : s'.portMaster = s.portMaster ∧ s'.ports = s.ports := by
    cases hc <;> exact ⟨rfl, rfl⟩
  refine ⟨?_, fun hrun' => ⟨h.port hc hknown hp, fun q m hq hk hb => ?_⟩⟩
  · cases hc <;> simp [hrun]
  · rw [hsame.1] at hq
    rw [hsame.2] at hb
    rcases hsettled q m hq hk hb with hq | ⟨rfl, rfl⟩
    · exact hq.port hc
    · exact settled_new_port hc hb hrun'

/-- A new port. -/
theorem good_bridgeSlave (h : Inv kind lower s) (hrun : s.ended = none) {k : CacheKey Addr}
    {link : LinkObj} (hfam : link.family = .afBridge)
    (hl : s.links.pending = .new k (.link link) :: l) :
    Good kind lower (s.popped.bridgeSlave kind a link) := by
  have hkey : k = .link link.ifindex .afBridge := by
    rw [← hfam]
    exact (h.links.keyed.pending _ (hl ▸ List.mem_cons_self) _ (.inr rfl)).symm
  subst hkey
  have hold : s.portMaster link.ifindex = none := by
    unfold portMaster
    rw [show s.links.seen.lookup (.link link.ifindex .afBridge) = none from
      h.links.fits.lookup_seen hl]
    rfl
  have hmaster : ∀ p, s.popped.portMaster p =
      if p = link.ifindex then some link.master else s.portMaster p := by
    intro p
    rw [portMaster_popped hl]
    simp [CacheNote.key, CacheNote.after, CacheObj.asLink]
  have hcore : Core kind lower s.popped := by
    refine core_popped h.toCore hl (fun m o hn => (by cases hn)) fun p _ _ m hm => ?_
    rw [hmaster, if_neg]
    · exact hm
    · rintro rfl
      rw [hold] at hm
      cases hm
  have hplaced := h.placed.pending _ (hl ▸ List.mem_cons_self) _ (.inr rfl)
  simp only [Placed, hfam] at hplaced
  have hparents : ∀ q ∈ (CacheObj.link link : CacheObj Addr).parents,
      s.popped.links.find q ≠ none := fun q hq =>
    AheadCache.find_parents h.links.nested h.links.fits hl (.inr rfl) hq
  have hbr := hparents (.link link.master .afUnspec) (by simp [CacheObj.parents, hfam])
  refine good_port (bridgeSlave_cases hcore hplaced.2
    (hparents _ (by simp [CacheObj.parents, hfam])) hbr) hcore hrun ⟨hplaced.1, hbr⟩
    (.inr (by rw [hmaster, if_pos rfl])) fun q m hq hk hb => ?_
  rw [hmaster] at hq
  split_ifs at hq with he
  · exact .inr ⟨he, (Option.some.inj hq).symm⟩
  · exact .inl (h.settled q m hq hk hb)

/-- A bond that gets its port id. -/
theorem good_addLag (h : Inv kind lower s) (hrun : s.ended = none) {bond : LinkObj}
    (hk : kind bond.ifindex = .bond) : Good kind lower (s.addLag kind a bond) := by
  have hreg : Inv kind lower { s with ports := insert bond.ifindex s.ports } := by
    refine ⟨{ h.toCore with ports := fun i hi => ?_ }, fun p m hp hb hi => ?_⟩
    · rcases Finset.mem_insert.mp hi with rfl | hi
      · exact .inr hk
      · exact h.ports i hi
    · refine h.settled p m hp hb ((Finset.mem_insert.mp hi).resolve_left ?_)
      rintro he
      rw [he, hk] at hb
      cases hb
  unfold addLag
  split
  · dsimp only
    split
    · exact good_of_inv hreg hrun
    · split
      · exact good_of_inv hreg hrun
      · next br hbr =>
        rw [LinkCache.getLink_eq h.links.keyed] at hbr
        obtain ⟨o, ho, hol⟩ := Option.bind_eq_some_iff.mp hbr
        cases o with
        | neigh => cases hol
        | link o =>
          cases hol
          have hkey := LinkCache.find_key h.links.keyed ho
          simp only [CacheObj.key, CacheKey.link.injEq] at hkey
          have hplaced := h.placed.find ho
          simp only [Placed, hkey.2] at hplaced
          have hparents : ∀ q ∈ (CacheObj.link br : CacheObj Addr).parents,
              s.links.find q ≠ none := fun q hq =>
            AheadCache.find_parents_of_find h.links.nested h.links.fits ho hq
          have hbrFound := hparents (.link br.master .afUnspec) (by simp [CacheObj.parents, hkey.2])
          exact good_port (bridgeSlave_cases hreg.toCore hplaced.2
            (hparents _ (by simp [CacheObj.parents, hkey.2])) hbrFound) hreg.toCore hrun
            ⟨hplaced.1, hbrFound⟩ (.inl (by rw [hkey.1]; exact hk)) fun q m hq hb hi =>
              .inl (hreg.settled q m hq hb hi)
  · exact good_of_inv h hrun

/-- A new link. -/
theorem good_baseCreated (h : Inv kind lower s) (hrun : s.ended = none) {k : CacheKey Addr}
    {link : LinkObj} (hfam : link.family = .afUnspec)
    (hl : s.links.pending = .new k (.link link) :: l) :
    Good kind lower (s.popped.baseCreated kind a link) := by
  have hkey : k = .link link.ifindex .afUnspec := by
    rw [← hfam]
    exact (h.links.keyed.pending _ (hl ▸ List.mem_cons_self) _ (.inr rfl)).symm
  subst hkey
  have hpop : Inv kind lower s.popped :=
    inv_popped h hl (fun m o hn => (by cases hn)) fun p hp => by simp [CacheNote.key] at hp
  have hsame := portMaster_same h.toCore hl fun p hp => by simp [CacheNote.key] at hp
  -- Nothing that waits for this link is a port yet.
  have hreg (hk : kind link.ifindex = .tun) :
      Inv kind lower { s.popped with ports := insert link.ifindex s.ports } := by
    refine ⟨{ hpop.toCore with ports := fun i hi => ?_ }, fun p m hp hb hi => ?_⟩
    · rcases Finset.mem_insert.mp hi with rfl | hi
      · exact .inl hk
      · exact h.ports i hi
    · change s.popped.portMaster p = some m at hp
      rw [hsame] at hp
      refine h.settled p m hp hb ?_
      exact (Finset.mem_insert.mp hi).resolve_left (no_port_of_new h.toCore hl hp)
  unfold baseCreated
  split
  · next hk =>
    split
    · exact good_of_inv (hreg hk) hrun
    · exact good_of_inv hpop hrun
  · next hk =>
    split
    · exact good_addLag hpop hrun hk
    · exact good_of_inv hpop hrun
  · exact good_of_inv hpop hrun

/-- A link that changes. The handler finds the bond that it belongs to, or did. -/
theorem good_baseUpdated (h : Inv kind lower s) (hrun : s.ended = none) {k : CacheKey Addr}
    {old new : LinkObj} (hfam : new.family = .afUnspec)
    (hl : s.links.pending = .change k (.link old) (.link new) :: l) :
    Good kind lower (s.popped.baseUpdated kind a old new) := by
  have hpop : Inv kind lower s.popped :=
    inv_popped h hl (fun m o hn => (by cases hn)) fun p _ =>
      ⟨Option.some_ne_none _, Option.some_ne_none _⟩
  have hmem : CacheNote.change k (CacheObj.link old) (CacheObj.link new) ∈ s.links.pending := by
    rw [hl]
    exact List.mem_cons_self
  have hfamOld : old.family = .afUnspec := by
    have hkey := h.links.keyed.pending _ hmem _ (.inl rfl)
    have hkey' := h.links.keyed.pending _ hmem _ (.inr rfl)
    have heq := hkey.trans hkey'.symm
    simp only [CacheObj.key, CacheKey.link.injEq] at heq
    rw [heq.2, hfam]
  -- The master of either object is there.
  have hbond : ∀ o : LinkObj, o = old ∨ o = new → isBondSlave kind o = true →
      ∃ bond, LinkCache.getLink s.popped.links o.master .afUnspec = some bond ∧
        kind bond.ifindex = .bond := by
    intro o ho hslave
    simp only [isBondSlave, Bool.and_eq_true, decide_eq_true_eq] at hslave
    have hparent : CacheKey.link o.master .afUnspec ∈ (CacheObj.link o : CacheObj Addr).parents := by
      rcases ho with rfl | rfl
      · simp [CacheObj.parents, hfamOld, hslave.1]
      · simp [CacheObj.parents, hfam, hslave.1]
    have hfind : s.popped.links.find (.link o.master .afUnspec) ≠ none := by
      refine AheadCache.find_parents h.links.nested h.links.fits hl ?_ hparent
      rcases ho with rfl | rfl
      · exact .inl rfl
      · exact .inr rfl
    obtain ⟨bond, hget, hidx, -, -⟩ := getLink_of_find hpop.toCore hfind
    exact ⟨bond, hget, by rw [hidx]; exact hslave.2⟩
  unfold baseUpdated
  split
  · split
    · next hold =>
      split
      · exact good_of_inv hpop hrun
      · obtain ⟨bond, hget, -⟩ := hbond old (.inl rfl) hold
        unfold removeLagMember
        rw [hget]
        dsimp only
        split
        · exact good_of_inv hpop hrun
        · exact ⟨by simp, fun he => by cases he⟩
    · split
      · next hnew =>
        rw [Bool.and_eq_true] at hnew
        obtain ⟨bond, hget, hk⟩ := hbond new (.inr rfl) hnew.2
        unfold addLagMember
        rw [hget]
        dsimp only
        split
        · exact good_of_inv hpop hrun
        · exact good_addLag hpop hrun hk
      · exact good_of_inv hpop hrun
  · exact good_of_inv hpop hrun

/-- A deleted port. -/
theorem inv_portDeleted (h : Inv kind lower s) {k : CacheKey Addr} {link : LinkObj}
    (hfam : link.family = .afBridge) (hl : s.links.pending = .del k (.link link) :: l) :
    Inv kind lower (if s.bridge = some link.master then
      { s.popped with attached := s.attached.erase link.ifindex } else s.popped) := by
  have hkey : k = .link link.ifindex .afBridge := by
    rw [← hfam]
    exact (h.links.keyed.pending _ (hl ▸ List.mem_cons_self) _ (.inl rfl)).symm
  subst hkey
  have hold : s.portMaster link.ifindex = some link.master := by
    unfold portMaster
    rw [show s.links.seen.lookup (.link link.ifindex .afBridge) = some (.link link) from
      h.links.fits.lookup_seen hl]
    rfl
  have hmaster : ∀ p, s.popped.portMaster p =
      if p = link.ifindex then none else s.portMaster p := by
    intro p
    rw [portMaster_popped hl]
    simp [CacheNote.key, CacheNote.after]
  split
  · next hb =>
    have hcore : Core kind lower { s with attached := s.attached.erase link.ifindex } :=
      { h.toCore with attached := fun q hq hk => h.attached q (Finset.mem_of_mem_erase hq) hk }
    refine ⟨core_popped hcore hl (fun m o hn => (by cases hn)) fun p hp _ m hm => ?_,
      fun p m hp hk hbase => ?_⟩
    · exact ((hmaster p).trans (if_neg (Finset.ne_of_mem_erase hp))).trans hm
    · change s.popped.portMaster p = some m at hp
      rw [hmaster] at hp
      split_ifs at hp with he
      exact (h.settled p m hp hk hbase).imp
        (And.imp_right (.imp_left fun ha => Finset.mem_erase.mpr ⟨he, ha⟩)) id
  · next hb =>
    refine ⟨core_popped h.toCore hl (fun m o hn => (by cases hn)) fun p hp hk m hm => ?_,
      fun p m hp hk hbase => ?_⟩
    · rw [hmaster, if_neg]
      · exact hm
      · rintro rfl
        obtain ⟨m', hm', hbr⟩ := h.attached _ hp hk
        rw [hold] at hm'
        cases hm'
        exact hb hbr
    · rw [hmaster] at hp
      split_ifs at hp with he
      exact h.settled p m hp hk hbase

/-- A deleted link. -/
theorem inv_baseDeleted (h : Inv kind lower s) {k : CacheKey Addr} {link : LinkObj}
    (hfam : link.family = .afUnspec) (hl : s.links.pending = .del k (.link link) :: l) :
    Inv kind lower (s.popped.baseDeleted kind a link) := by
  have hkey : k = .link link.ifindex .afUnspec := by
    rw [← hfam]
    exact (h.links.keyed.pending _ (hl ▸ List.mem_cons_self) _ (.inl rfl)).symm
  subst hkey
  have hpop : kind link.ifindex ≠ .bridge → Inv kind lower s.popped := by
    refine fun hk => inv_popped h hl (fun m o hn => ?_) fun p hp => by simp [CacheNote.key] at hp
    cases hn
    exact ⟨fun hb => hk (h.followed _ hb).1, fun hi => hk (h.ignored _ hi).1⟩
  have hsame := portMaster_same h.toCore hl fun p hp => by simp [CacheNote.key] at hp
  have hports : kind link.ifindex ≠ .bridge →
      Inv kind lower { s.popped with ports := s.ports.erase link.ifindex } := fun hk =>
    ⟨{ (hpop hk).toCore with ports := fun i hi => h.ports i (Finset.mem_of_mem_erase hi) },
      fun p m hp hb hi => (hpop hk).settled p m hp hb (Finset.mem_of_mem_erase hi)⟩
  have hown : kind link.ifindex = .bridge → hasOwnType kind link = true := by
    intro hk
    have hplaced := h.placed.pending _ (hl ▸ List.mem_cons_self) _ (.inl rfl)
    simp only [Placed, hfam] at hplaced
    simp [hasOwnType, hplaced.2 hk]
  unfold baseDeleted
  split
  · next hk =>
    split
    · exact hports (by simp [hk])
    · exact hpop (by simp [hk])
  · next hk =>
    split
    · exact hports (by simp [hk])
    · exact hpop (by simp [hk])
  · next hk =>
    rw [hown hk, Bool.not_true, if_neg Bool.false_ne_true]
    split
    · next hb =>
      -- The bridge had no ports left, so nothing is configured but bonds.
      have hbonds : ∀ p ∈ s.attached, kind p ≠ .bond → False := by
        intro p hp hk
        obtain ⟨m, hm, hbr⟩ := h.attached p hp hk
        rw [show s.bridge = some link.ifindex from hb] at hbr
        cases hbr
        exact no_port_of_gone h.toCore hl p hm
      have hcore : Core kind lower { s with bridge := none, incomplete := false } :=
        { h.toCore with
          disjoint := fun m hm => (by cases hm)
          complete := fun _ => rfl
          followed := fun m hm => (by cases hm)
          attached := fun p hp hk => (hbonds p hp hk).elim }
      refine ⟨core_popped hcore hl (fun m o hn => ?_) fun p hp hk => (hbonds p hp hk).elim,
        fun p m hp ht hbase => ?_⟩
      · cases hn
        exact ⟨by simp, h.disjoint _ hb⟩
      · change s.popped.portMaster p = some m at hp
        rw [hsame] at hp
        refine .inr ((h.settled p m hp ht hbase).resolve_left fun hset => ?_)
        have hbr := hset.1
        rw [show s.bridge = some link.ifindex from hb] at hbr
        cases hbr
        exact no_port_of_gone h.toCore hl p hp
    · next hb =>
      have hcore : Core kind lower { s with ignored := s.ignored.erase link.ifindex } :=
        { h.toCore with
          disjoint := fun m hm hi => h.disjoint m hm (Finset.mem_of_mem_erase hi)
          ignored := fun m hm => h.ignored m (Finset.mem_of_mem_erase hm) }
      refine ⟨core_popped hcore hl (fun m o hn => ?_) fun p hp _ m hm => (hsame p).trans hm,
        fun p m hp ht hbase => ?_⟩
      · cases hn
        exact ⟨hb, by simp⟩
      · change s.popped.portMaster p = some m at hp
        rw [hsame] at hp
        refine (h.settled p m hp ht hbase).imp id fun hi => Finset.mem_erase.mpr ⟨?_, hi⟩
        rintro rfl
        exact no_port_of_gone h.toCore hl p hp
  · next h1 h2 h3 => exact hpop h3

end Note

/-! ## Runs -/

section Runs

variable {kind} {lower : Int → Int} {s : BridgeWatch Addr}

/-- The caches when the process starts: nothing is reported of what they have then. -/
def init (w : Table (CacheKey Addr) (CacheObj Addr)) : BridgeWatch Addr :=
  { links := { seen := w, cache := w } }

variable (kind lower) in
/-- The links that are there when the program starts. -/
structure Start (w : Table (CacheKey Addr) (CacheObj Addr)) : Prop where
  closed : AheadCache.Closed CacheObj.parents w
  keyed : ∀ k o, w.lookup k = some o → o.key = k
  placed : ∀ k o, w.lookup k = some o → Placed kind lower o

theorem inv_start {w : Table (CacheKey Addr) (CacheObj Addr)} (hw : Start kind lower w) :
    Inv kind lower (init w) where
  links := ⟨rfl, hw.closed, hw.keyed, fun _ hn => (by cases hn)⟩
  kept _ hn := by cases hn
  keyed := hw.keyed
  placed := ⟨hw.placed, fun _ hn => (by cases hn), hw.placed⟩
  ports i hi := absurd hi (Finset.notMem_empty i)
  disjoint m hm := by cases hm
  complete _ := rfl
  followed m hm := by cases hm
  ignored m hm := absurd hm (Finset.notMem_empty m)
  attached p hp := absurd hp (Finset.notMem_empty p)
  settled p m _ _ hp := absurd hp (Finset.notMem_empty _)

/-- A change of the caches leaves everything else. -/
theorem inv_links (h : Inv kind lower s) {c : LinkCache Addr} (hlinks : LinkCache.Inv c)
    (hkept : LinkCache.KeptBridges c) (hseen : c.seen = s.links.seen) (hplaced : c.All (Placed kind lower))
    (hfind : ∀ k, s.links.find k ≠ none → c.find k ≠ none) :
    Inv kind lower { s with links := c } := by
  have hknown : ∀ m, s.Known kind m → Known kind { s with links := c } m := fun m hm =>
    ⟨hm.1, hfind _ hm.2⟩
  have hports : ∀ p, portMaster { s with links := c } p = s.portMaster p := by
    intro p
    unfold portMaster
    rw [hseen]
  refine ⟨{ h.toCore with
    links := hlinks
    kept := hkept
    keyed := ?_
    placed := hplaced
    followed := fun m hm => hknown m (h.followed m hm)
    ignored := fun m hm => hknown m (h.ignored m hm)
    attached := fun p hp hk => ?_ }, fun p m hp hk hb => ?_⟩
  · show ∀ k o, c.seen.lookup k = some o → o.key = k
    rw [hseen]
    exact h.keyed
  · rw [hports]
    exact h.attached p hp hk
  · rw [hports] at hp
    exact h.settled p m hp hk hb

/-- A note of a neighbour, or of a link of IPv6. -/
theorem good_otherNote (h : Inv kind lower s) (hrun : s.ended = none)
    {n : CacheNote (CacheKey Addr) (CacheObj Addr)}
    {l : List (CacheNote (CacheKey Addr) (CacheObj Addr))} (hl : s.links.pending = n :: l)
    (hkey : ∀ i family, n.key = .link i family → family = .afInet6) :
    Good kind lower s.popped := by
  refine good_of_inv (inv_popped h hl (fun m o hn => ?_) fun p hp => ?_) hrun
  · subst hn
    cases hkey _ _ rfl
  · cases hkey _ _ hp

theorem good_changeNote (h : Inv kind lower s) (hrun : s.ended = none) (a : Answers)
    {k : CacheKey Addr} {o o' : CacheObj Addr}
    {l : List (CacheNote (CacheKey Addr) (CacheObj Addr))}
    (hl : s.links.pending = .change k o o' :: l) :
    Good kind lower (s.popped.handleNote kind a (.change k o o')) := by
  have hpop : Good kind lower s.popped := by
    refine good_of_inv (inv_popped h hl (fun m o hn => (by cases hn)) fun p _ => ?_) hrun
    exact ⟨Option.some_ne_none o, Option.some_ne_none o'⟩
  cases o with
  | neigh i d => exact hpop
  | link old =>
    cases o' with
    | neigh i d => exact hpop
    | link new =>
      cases hfam : new.family with
      | afUnspec =>
        simp only [handleNote, hfam]
        exact good_baseUpdated h hrun hfam hl
      | afBridge =>
        simp only [handleNote, hfam]
        exact hpop
      | afInet6 =>
        simp only [handleNote, hfam]
        exact hpop

theorem good_newNote (h : Inv kind lower s) (hrun : s.ended = none) (a : Answers)
    {k : CacheKey Addr} {o : CacheObj Addr}
    {l : List (CacheNote (CacheKey Addr) (CacheObj Addr))} (hl : s.links.pending = .new k o :: l) :
    Good kind lower (s.popped.handleNote kind a (.new k o)) := by
  have hmem : CacheNote.new k o ∈ s.links.pending := hl ▸ List.mem_cons_self
  have hkey : o.key = k := h.links.keyed.pending _ hmem o (.inr rfl)
  cases o with
  | neigh i d =>
    refine good_otherNote h hrun hl fun j family hj => ?_
    rw [CacheNote.key, ← hkey] at hj
    cases hj
  | link lo =>
    cases hfam : lo.family with
    | afUnspec =>
      simp only [handleNote, hfam]
      exact good_baseCreated h hrun hfam hl
    | afBridge =>
      simp only [handleNote, hfam]
      exact good_bridgeSlave h hrun hfam hl
    | afInet6 =>
      simp only [handleNote, hfam]
      refine good_otherNote h hrun hl fun j family hj => ?_
      rw [CacheNote.key, ← hkey] at hj
      cases hj
      exact hfam

omit [DecidableEq Addr] in
theorem baseDeleted_ended (s : BridgeWatch Addr) (a : Answers) (link : LinkObj) :
    (s.baseDeleted kind a link).ended = s.ended := by
  unfold baseDeleted
  split
  · split <;> rfl
  · split <;> rfl
  · split
    · rfl
    · split <;> rfl
  · rfl

theorem good_delNote (h : Inv kind lower s) (hrun : s.ended = none) (a : Answers)
    {k : CacheKey Addr} {o : CacheObj Addr}
    {l : List (CacheNote (CacheKey Addr) (CacheObj Addr))} (hl : s.links.pending = .del k o :: l) :
    Good kind lower (s.popped.handleNote kind a (.del k o)) := by
  have hmem : CacheNote.del k o ∈ s.links.pending := hl ▸ List.mem_cons_self
  have hkey : o.key = k := h.links.keyed.pending _ hmem o (.inl rfl)
  cases o with
  | neigh i d =>
    refine good_otherNote h hrun hl fun j family hj => ?_
    rw [CacheNote.key, ← hkey] at hj
    cases hj
  | link lo =>
    cases hfam : lo.family with
    | afUnspec =>
      simp only [handleNote, hfam]
      exact good_of_inv (inv_baseDeleted h hfam hl) ((baseDeleted_ended ..).trans hrun)
    | afBridge =>
      simp only [handleNote, hfam]
      refine good_of_inv (inv_portDeleted h hfam hl) ?_
      split <;> exact hrun
    | afInet6 =>
      simp only [handleNote, hfam]
      refine good_otherNote h hrun hl fun j family hj => ?_
      rw [CacheNote.key, ← hkey] at hj
      cases hj
      exact hfam

theorem good_handleNote (h : Inv kind lower s) (hrun : s.ended = none) (a : Answers)
    {n : CacheNote (CacheKey Addr) (CacheObj Addr)}
    {l : List (CacheNote (CacheKey Addr) (CacheObj Addr))} (hl : s.links.pending = n :: l) :
    Good kind lower (s.popped.handleNote kind a n) := by
  cases n with
  | change k o o' => exact good_changeNote h hrun a hl
  | new k o => exact good_newNote h hrun a hl
  | del k o => exact good_delNote h hrun a hl

theorem good_step (h : Good kind lower s) {e : Ev Addr} (he : Kernel kind lower s e) :
    Good kind lower (s.step kind e) := by
  unfold step
  split
  · next hrun =>
    have hinv := h.2 hrun
    cases e with
    | report o =>
      obtain ⟨h1, h2⟩ := AheadCache.nested_step hinv.links.nested hinv.links.fits he.1
      refine good_of_inv (inv_links hinv ⟨h1, h2, LinkCache.keyed_step hinv.links.keyed _⟩
        (LinkCache.keptBridges_step hinv.links.keyed hinv.kept he.2.1) ?_
        (hinv.placed.put he.2.2) fun k hk => ?_) hrun
      · show (s.links.put o.key o).seen = s.links.seen
        unfold AheadCache.put
        split <;> rfl
      · show (s.links.put o.key o).find k ≠ none
        unfold AheadCache.put
        split <;> exact AheadCache.find_note_ne_none hk
    | gone k =>
      obtain ⟨h1, h2⟩ :=
        AheadCache.nested_step (e := .remove k) hinv.links.nested hinv.links.fits he
      refine good_of_inv (inv_links hinv ⟨h1, h2, LinkCache.keyed_step hinv.links.keyed (.gone k)⟩
        (LinkCache.keptBridges_step (e := .gone k) hinv.links.keyed hinv.kept
          fun _ _ he => (by cases he)) ?_ hinv.placed.remove fun k' hk => ?_) hrun
      · show (s.links.remove k).seen = s.links.seen
        unfold AheadCache.remove
        split <;> rfl
      · show (s.links.remove k).find k' ≠ none
        unfold AheadCache.remove
        split
        · exact hk
        · exact AheadCache.find_note_ne_none hk
    | handle a =>
      cases hl : s.links.pending with
      | nil => exact h
      | cons n l => exact good_handleNote hinv hrun a hl
  · exact h

theorem good_run {w : Table (CacheKey Addr) (CacheObj Addr)} (hw : Start kind lower w)
    {es : List (Ev Addr)} (hes : Along (step kind) (Kernel kind lower) (init w) es) :
    Good kind lower (run (step kind) (init w) es) :=
  run_inv (good_of_inv (inv_start hw) rfl) (fun _ _ h he => good_step h he) hes

/-- The link `1` becomes a port of the bridge `2` that was there before. -/
def firstPort : List (Ev Nat) :=
  [.report (.link ⟨1, .afUnspec, 0, 0⟩), .handle {}, .report (.link ⟨1, .afBridge, 2, 0⟩),
    .handle {}]

/-- A bridge and nothing else. -/
def bridgeOnly : Table (CacheKey Nat) (CacheObj Nat) :=
  (∅ : Table (CacheKey Nat) (CacheObj Nat)).insert (.link 2 .afUnspec) (.link ⟨2, .afUnspec, 0, 0⟩)

/-- Link 2 is a bridge, the others are ports. -/
def kindOf (i : Int) : LinkKind := if i = 2 then .bridge else .tun

theorem bridgeOnly_start : Start kindOf id bridgeOnly := by
  have hall : ∀ x ∈ bridgeOnly.entries,
      x = ⟨.link 2 .afUnspec, .link ⟨2, .afUnspec, 0, 0⟩⟩ := by decide
  have hone : ∀ k o, bridgeOnly.lookup k = some o →
      k = .link 2 .afUnspec ∧ o = .link ⟨2, .afUnspec, 0, 0⟩ := by
    intro k o h
    have hx := hall ⟨k, o⟩ (AList.mem_lookup_iff.mp h)
    rw [Sigma.mk.injEq] at hx
    exact ⟨hx.1, eq_of_heq hx.2⟩
  refine ⟨fun k o h p hp => ?_, fun k o h => ?_, fun k o h => ?_⟩
  · rw [(hone k o h).2] at hp
    cases hp
  · rw [(hone k o h).1, (hone k o h).2]
    rfl
  · rw [(hone k o h).2]
    exact ⟨fun hk => (by cases hk), fun _ => rfl⟩

theorem kernel_new {s : BridgeWatch Addr} {l : LinkObj}
    (hp : ∀ p ∈ (CacheObj.link l).parents, p ∈ s.links.cache ∧ p ≠ (CacheObj.link l).key)
    (hnone : s.links.cache.lookup (CacheObj.link l).key = none)
    (hl : Placed kind lower (.link l : CacheObj Addr)) :
    Kernel kind lower s (.report (.link l)) := by
  refine ⟨hp, fun l' old he hold _ => ?_, hl⟩
  cases he
  rw [hnone] at hold
  cases hold

theorem kernel_gone {s : BridgeWatch Addr} {k : CacheKey Addr}
    (h : ∀ x ∈ s.links.cache.entries, k ∉ x.2.parents) : Kernel kind lower s (.gone k) :=
  fun k' a ha => h ⟨k', a⟩ (AList.mem_lookup_iff.mp ha)

theorem firstPort_kernel :
    Along (step kindOf) (Kernel kindOf id) (init bridgeOnly) firstPort :=
  ⟨kernel_new (by decide) (by decide) ⟨fun hk => (by cases hk), fun _ => rfl⟩, trivial,
    kernel_new (by decide) (by decide) ⟨rfl, by decide⟩, trivial, trivial⟩

/-- The VLAN interface `4` above the bond `3` is a port of the bridge `2` from the start. The tap
device `1` comes, and becomes a member of the bond. -/
def lateBond : List (Ev Nat) :=
  [.report (.link ⟨1, .afUnspec, 0, 0⟩), .handle {}, .report (.link ⟨1, .afUnspec, 3, 0⟩), .handle {}]

/-- A port, a bridge, a bond and a VLAN interface. -/
def lateBondKind (i : Int) : LinkKind :=
  if i = 1 then .tun else if i = 2 then .bridge else if i = 3 then .bond else .vlan

/-- A bond, and a VLAN interface over it that is in the bridge. -/
def lateBondLinks : Table (CacheKey Nat) (CacheObj Nat) :=
  ((bridgeOnly.insert (.link 3 .afUnspec) (.link ⟨3, .afUnspec, 0, 0⟩)).insert (.link 4 .afUnspec)
    (.link ⟨4, .afUnspec, 2, 3⟩)).insert (.link 4 .afBridge) (.link ⟨4, .afBridge, 2, 0⟩)

theorem lateBondLinks_start : Start lateBondKind (fun _ => 3) lateBondLinks := by
  have hall : ∀ x ∈ lateBondLinks.entries, (∀ p ∈ x.2.parents, p ∈ lateBondLinks) ∧
      x.2.key = x.1 ∧ (x = ⟨.link 2 .afUnspec, .link ⟨2, .afUnspec, 0, 0⟩⟩ ∨
        x = ⟨.link 3 .afUnspec, .link ⟨3, .afUnspec, 0, 0⟩⟩ ∨
        x = ⟨.link 4 .afUnspec, .link ⟨4, .afUnspec, 2, 3⟩⟩ ∨
        x = ⟨.link 4 .afBridge, .link ⟨4, .afBridge, 2, 0⟩⟩) := by decide
  have hone : ∀ k o, lateBondLinks.lookup k = some o → _ := fun k o h =>
    hall ⟨k, o⟩ (AList.mem_lookup_iff.mp h)
  refine ⟨fun k o h => (hone k o h).1, fun k o h => (hone k o h).2.1, fun k o h => ?_⟩
  rcases (hone k o h).2.2 with he | he | he | he <;> cases he
  · exact ⟨fun hk => (by cases hk), fun _ => rfl⟩
  · exact ⟨fun hk => (by cases hk), fun hk => (by cases hk)⟩
  · exact ⟨fun _ => ⟨rfl, by decide⟩, fun hk => (by cases hk)⟩
  · exact ⟨rfl, by decide⟩

/-- A bond that gets its port id from a member does not bring in the ports above it: the VLAN
interface has a port id in the end, and its bridge is neither followed nor ignored. -/
theorem lateBond_unsettled :
    Along (step lateBondKind) (Kernel lateBondKind fun _ => 3) (init lateBondLinks) lateBond ∧
      (run (step lateBondKind) (init lateBondLinks) lateBond).links.pending = [] ∧
      base lateBondKind (fun _ => 3) 4 ∈ (run (step lateBondKind) (init lateBondLinks) lateBond).ports ∧
      ¬ (run (step lateBondKind) (init lateBondLinks) lateBond).Settled 4 2 := by
  have hkeeps : ∀ (s : BridgeWatch Nat) (l : LinkObj), l.family = .afUnspec →
      LinkCache.KeepsBridge s.links (.report (.link l)) := by
    intro s l hfam l' old he _ hf
    cases he
    rw [hfam] at hf
    cases hf
  refine ⟨⟨⟨?_, hkeeps _ _ rfl, ?_⟩, trivial, ⟨?_, hkeeps _ _ rfl, ?_⟩, trivial, trivial⟩, by decide,
    by decide, ?_⟩
  · exact fun p hp => (by cases hp)
  · exact ⟨fun hk => (by cases hk), fun hk => (by cases hk)⟩
  · have hparents : ∀ p ∈ (CacheObj.link ⟨1, .afUnspec, 3, 0⟩ : CacheObj Nat).parents,
        p ∈ lateBondLinks ∧ p ≠ (.link 1 .afUnspec : CacheKey Nat) := by decide
    intro p hp
    refine ⟨?_, (hparents p hp).2⟩
    exact (AList.mem_insert _).mpr (.inr (hparents p hp).1)
  · exact ⟨fun hk => (by cases hk), fun hk => (by cases hk)⟩
  · rintro (⟨hb, -⟩ | hi)
    · revert hb
      decide
    · revert hi
      decide

/-! ## Ignored bridges -/

/-- The note of the deletion of a bridge is handled. -/
def Deletes (m : Int) (s : BridgeWatch Addr) : Ev Addr → Prop
  | .handle _ => s.ended = none ∧
    (s.links.pending.head?.bind (CacheNote.gone (.link m .afUnspec))).isSome
  | _ => False

instance (m : Int) (s : BridgeWatch Addr) : ∀ e, Decidable (Deletes m s e)
  | .handle _ => inferInstanceAs (Decidable (_ ∧ _))
  | .report _ | .gone _ => .isFalse id

/-- The bridge is ignored, and not the one that is followed. -/
def Ignores (s : BridgeWatch Addr) (m : Int) : Prop := m ∈ s.ignored ∧ s.bridge ≠ some m

omit [DecidableEq Addr] in
theorem ignores_bridgeSlave {m : Int} (h : s.Ignores m) (a : Answers) (link : LinkObj) :
    (s.bridgeSlave kind a link).Ignores m := by
  unfold bridgeSlave
  split
  · exact h
  · next hno =>
    rw [not_or] at hno
    have hne : link.master ≠ m := by
      rintro rfl
      exact hno.2 h.1
    split
    · exact h
    · split
      · split
        · exact h
        · unfold newBridge
          split
          · split <;> exact ⟨h.1, fun hm => hne (Option.some.inj hm)⟩
          · exact ⟨Finset.mem_insert_of_mem h.1, h.2⟩
        · split
          · exact h
          · exact ⟨Finset.mem_insert_of_mem h.1, h.2⟩
      · exact h

omit [DecidableEq Addr] in
theorem ignores_addLag {m : Int} (h : s.Ignores m) (a : Answers) (bond : LinkObj) :
    (s.addLag kind a bond).Ignores m := by
  unfold addLag
  split
  · have hreg : Ignores { s with ports := insert bond.ifindex s.ports } m := h
    dsimp only
    split
    · exact h
    · split
      · exact h
      · exact ignores_bridgeSlave hreg a _
  · exact h

omit [DecidableEq Addr] in
theorem ignores_baseCreated {m : Int} (h : s.Ignores m) (a : Answers) (link : LinkObj) :
    (s.baseCreated kind a link).Ignores m := by
  unfold baseCreated
  split
  · split <;> exact h
  · split
    · exact ignores_addLag h a link
    · exact h
  · exact h

omit [DecidableEq Addr] in
theorem ignores_baseUpdated {m : Int} (h : s.Ignores m) (a : Answers) (old new : LinkObj) :
    (s.baseUpdated kind a old new).Ignores m := by
  unfold baseUpdated
  split
  · split
    · split
      · exact h
      · unfold removeLagMember
        split
        · exact h
        · split <;> exact h
    · split
      · unfold addLagMember
        split
        · exact h
        · split
          · exact h
          · exact ignores_addLag h a _
      · exact h
  · exact h

omit [DecidableEq Addr] in
/-- Only its own deletion ends that. -/
theorem ignores_baseDeleted {m : Int} (h : s.Ignores m) (hm : kind m = .bridge) (a : Answers)
    {link : LinkObj} (hown : link.ifindex = m → hasOwnType kind link = true) :
    (s.baseDeleted kind a link).Ignores m ↔ link.ifindex ≠ m := by
  constructor
  · rintro hi rfl
    unfold baseDeleted at hi
    simp only [hm, hown rfl, Bool.not_true, Bool.false_eq_true, if_false, if_neg h.2] at hi
    exact absurd hi.1 (Finset.notMem_erase link.ifindex s.ignored)
  · intro hne
    unfold baseDeleted
    split
    · split <;> exact h
    · split <;> exact h
    · split
      · exact h
      · split
        · exact ⟨h.1, fun hm => by cases hm⟩
        · exact ⟨Finset.mem_erase.mpr ⟨hne.symm, h.1⟩, h.2⟩
    · exact h

theorem ignores_step (h : Good kind lower s) {m : Int} (hm : kind m = .bridge)
    (hi : s.Ignores m) (e : Ev Addr) : (s.step kind e).Ignores m ↔ ¬ Deletes m s e := by
  unfold step
  by_cases hrun : s.ended = none
  · rw [if_pos hrun]
    cases e with
    | report o => exact iff_of_true hi fun hd => hd
    | gone k => exact iff_of_true hi fun hd => hd
    | handle a =>
      cases hl : s.links.pending with
      | nil =>
        refine iff_of_true hi fun ⟨_, hd⟩ => ?_
        rw [hl] at hd
        cases hd
      | cons n l =>
        have hkeyed := (h.2 hrun).links.keyed.pending n (hl ▸ List.mem_cons_self)
        have hpop : s.popped.Ignores m := hi
        have hdel : Deletes m s (.handle a) ↔
            (n.gone (.link m .afUnspec : CacheKey Addr)).isSome := by
          show s.ended = none ∧ _ ↔ _
          rw [hl, and_iff_right hrun]
          rfl
        show (s.popped.handleNote kind a n).Ignores m ↔ _
        rw [hdel]
        cases n with
        | change k o o' =>
          refine iff_of_true ?_ (by simp [CacheNote.gone])
          cases o with
          | neigh i d => exact hpop
          | link old =>
            cases o' with
            | neigh i d => exact hpop
            | link new =>
              simp only [handleNote]
              split
              · exact ignores_baseUpdated hpop a old new
              · exact hpop
        | new k o =>
          refine iff_of_true ?_ (by simp [CacheNote.gone])
          cases o with
          | neigh i d => exact hpop
          | link lo =>
            simp only [handleNote]
            split
            · exact hpop
            · exact ignores_bridgeSlave hpop a lo
            · exact ignores_baseCreated hpop a lo
        | del k o =>
          have hkey : o.key = k := hkeyed o (.inl rfl)
          subst hkey
          cases o with
          | neigh i d => exact iff_of_true hpop (by simp [CacheNote.gone, CacheObj.key])
          | link lo =>
            cases hfam : lo.family with
            | afInet6 =>
              simp only [handleNote, hfam]
              exact iff_of_true hpop (by simp [CacheNote.gone, CacheObj.key, hfam])
            | afBridge =>
              simp only [handleNote, hfam]
              refine iff_of_true ?_ (by simp [CacheNote.gone, CacheObj.key, hfam])
              split <;> exact hpop
            | afUnspec =>
              have hplaced := (h.2 hrun).placed.pending _ (hl ▸ List.mem_cons_self) _ (.inl rfl)
              simp only [Placed, hfam] at hplaced
              simp only [handleNote, hfam]
              rw [ignores_baseDeleted hpop hm a fun he => by
                simp [hasOwnType, hplaced.2 (by rw [he, hm])]]
              simp [CacheNote.gone, CacheObj.key, hfam]
  · rw [if_neg hrun]
    refine iff_of_true hi fun hd => ?_
    cases e with
    | handle a => exact hrun hd.1
    | report o => exact hd
    | gone k => exact hd

/-- **Ignored for good.** From the first port on that makes `cnetlink` ignore a bridge, the bridge
stays ignored and is not followed exactly until its deletion is handled. -/
theorem ignored_run_iff {w : Table (CacheKey Addr) (CacheObj Addr)} (hw : Start kind lower w)
    (es fs : List (Ev Addr)) (hes : Along (step kind) (Kernel kind lower) (init w) (es ++ fs))
    (hrun : (run (step kind) (init w) es).ended = none) {m : Int}
    (hm : m ∈ (run (step kind) (init w) es).ignored) :
    (∀ n, (run (step kind) (run (step kind) (init w) es) (fs.take n)).Ignores m) ↔
      Along (step kind) (fun s e => ¬ Deletes m s e) (run (step kind) (init w) es) fs := by
  obtain ⟨hes, hfs⟩ := Along.append.mp hes
  have hgood := good_run hw hes
  have hinv := hgood.2 hrun
  exact along_iff_of_inv_under (I := Good kind lower) (P := fun s => s.Ignores m)
    (F := Kernel kind lower) hgood ⟨hm, fun hb => hinv.disjoint m hb hm⟩
    (fun s e hg _ he => good_step hg he)
    (fun s e hg hi _ => ignores_step hg (hinv.ignored m hm).1 hi e) hfs

/-- The bridge `2` is not VLAN aware when it gets its first port, and is when it gets it again. -/
def secondTry : List (Ev Nat) :=
  [.gone (.link 1 .afBridge), .handle {}, .report (.link ⟨1, .afBridge, 2, 0⟩), .handle {}]

theorem secondTry_ignored :
    (run (step kindOf) (run (step kindOf) (init bridgeOnly)
      (firstPort.take 3 ++ [.handle { vlanFiltering := some 0 }])) secondTry).Ignores 2 := by
  refine (ignored_run_iff bridgeOnly_start _ secondTry ?_ (by decide) (by decide)).mpr (by decide) 4
  refine Along.append.mpr ⟨Along.append.mpr ⟨firstPort_kernel.take 3, trivial, trivial⟩, ?_⟩
  exact ⟨kernel_gone (by decide), trivial,
    kernel_new (by decide) (by decide) ⟨rfl, by decide⟩, trivial, trivial⟩

end Runs

end BridgeWatch

end Basebox
