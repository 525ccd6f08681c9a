import Basebox.OfDpa.Switch

/-!
# The bridging table: known addresses (`src/of-dpa/controller.cc`)

A flow of the bridging table sends the frames to a MAC, in a VLAN or in a tunnel of the overlay, to
the port that the address is known on. A flow of an address that is not permanent has an idle
timeout, and the switch says when it has run out. A connected switch is assumed: no send throws.

* `L2Flows`: the idle timeout of the controller, and the flows on the switch.
* `l2AddrAdd`, `l2AddrRemove`, `l2AddrRemoveAllInVlan`, `l2OverlayAddrAdd`, `l2OverlayAddrRemove`:
  the calls, by the messages they send.
* `expire`: a flow runs out. `handleBridgingTableRm`: what the controller makes of the message.
  `handleBridgingTableRm_expire`: it gets the port of the flow back from the cookie.

The port is in the cookie of the flow, which rofl-ofdpa makes: `BridgingDriver` is its interface.
-/

namespace Basebox

/-- The functions of `rofl_ofdpa_fm_driver` for the bridging table. -/
structure BridgingDriver where
  /-- The cookie of a flow to a port. -/
  cookie (port : Nat) : Nat
  /-- A deletion for the port `asked` takes a flow to `port`. -/
  takes (asked port : Nat) : Bool

/-- The low 32 bits of the cookie are the port, and a deletion asks for the port in the cookie, or
with `0` for any. -/
structure BridgingDriver.Encodes (drv : BridgingDriver) : Prop where
  cookie_port : ∀ port < 2 ^ 32, drv.cookie port % 2 ^ 32 = port
  takes_iff : ∀ asked port, drv.takes asked port = true ↔ asked = 0 ∨ asked = port

/-- The encoding of OF-DPA: the type of the flow above the port. -/
def ofdpaBridging : BridgingDriver where
  cookie port := 11 * 2 ^ 32 + port % 2 ^ 32
  takes asked port := asked == 0 || asked == port

theorem ofdpaBridging_encodes : ofdpaBridging.Encodes where
  cookie_port port h := by
    change (11 * 2 ^ 32 + port % 2 ^ 32) % 2 ^ 32 = port
    omega
  takes_iff asked port := by simp [ofdpaBridging]

/-- How a flow ends by itself. -/
structure FlowExpiry where
  /-- In seconds, `0` for never. -/
  idleTimeout : Nat := 0
  /-- `OFPFF_SEND_FLOW_REM`. -/
  sendFlowRem : Bool := false
  deriving DecidableEq

/-- A unicast flow of a VLAN. -/
structure UnicastFlow extends FlowExpiry where
  port : Nat
  group : Nat
  deriving DecidableEq

/-- A unicast flow of a tunnel. -/
structure OverlayFlow extends FlowExpiry where
  lport : Nat
  deriving DecidableEq

/-- A MAC in a VLAN, or in a tunnel. -/
abbrev L2Addr := Nat × Mac

/-- The messages for the bridging table. -/
inductive BridgingMsg where
  | addUnicastVlan (vid : Nat) (mac : Mac) (flow : UnicastFlow)
  | removeUnicastVlan (port vid : Nat) (mac : Mac)
  | removeUnicastVlanAll (port vid : Nat)
  | addUnicastOverlay (tunnelId : Nat) (mac : Mac) (flow : OverlayFlow)
  | removeUnicastOverlay (tunnelId : Nat) (mac : Mac)
  | removeUnicastOverlayAllLport (lport : Nat)
  | barrier
  deriving DecidableEq

/-- The unicast flows of the switch. -/
structure BridgingTable where
  vlan : Table L2Addr UnicastFlow := ∅
  overlay : Table L2Addr OverlayFlow := ∅
  deriving DecidableEq

/-- `ofp_flow_removed_reason`. -/
inductive FlowRemovedReason where
  | idleTimeout
  | hardTimeout
  | delete
  | groupDelete
  deriving DecidableEq

/-- `cofmsg_flow_removed`: a field that the match of the flow does not have is not there. -/
structure FlowRemoved where
  reason : FlowRemovedReason
  ethDst : Option Mac
  vlanVid : Option Nat
  cookie : Nat
  deriving DecidableEq

namespace BridgingTable

variable (drv : BridgingDriver)

/-- What the switch does with one message. A flow that is added takes the place of one with the
same match. -/
def apply (t : BridgingTable) : BridgingMsg → BridgingTable
  | .addUnicastVlan vid mac flow => { t with vlan := t.vlan.insert (vid, mac) flow }
  | .removeUnicastVlan port vid mac =>
    { t with vlan := t.vlan.filterMap fun a flow =>
        if a = (vid, mac) ∧ drv.takes port flow.port then none else some flow }
  | .removeUnicastVlanAll port vid =>
    { t with vlan := t.vlan.filterMap fun a flow =>
        if a.1 = vid ∧ drv.takes port flow.port then none else some flow }
  | .addUnicastOverlay tunnelId mac flow =>
    { t with overlay := t.overlay.insert (tunnelId, mac) flow }
  | .removeUnicastOverlay tunnelId mac => { t with overlay := t.overlay.erase (tunnelId, mac) }
  | .removeUnicastOverlayAllLport lport =>
    { t with overlay := t.overlay.filterMap fun _ flow =>
        if flow.lport = lport then none else some flow }
  | .barrier => t

/-- The switch handles the messages in order. -/
def applyAll (t : BridgingTable) (ms : List BridgingMsg) : BridgingTable := ms.foldl (apply drv) t

/-- The flow of an address runs out. The message, if the flow asks for one, has the match of the
flow (`OFPVID_PRESENT` is set in the VLAN) and its cookie. -/
def expire (t : BridgingTable) (a : L2Addr) : BridgingTable × Option FlowRemoved :=
  match t.vlan.lookup a with
  | none => (t, none)
  | some flow =>
    if flow.idleTimeout = 0 then (t, none)
    else
      ({ t with vlan := t.vlan.erase a },
        if flow.sendFlowRem then
          some { reason := .idleTimeout, ethDst := some a.2, vlanVid := some (a.1 ||| 0x1000)
                 cookie := drv.cookie flow.port }
        else none)

/-- The same in the overlay, where the match has a tunnel in place of the VLAN. -/
def expireOverlay (t : BridgingTable) (a : L2Addr) : BridgingTable × Option FlowRemoved :=
  match t.overlay.lookup a with
  | none => (t, none)
  | some flow =>
    if flow.idleTimeout = 0 then (t, none)
    else
      ({ t with overlay := t.overlay.erase a },
        if flow.sendFlowRem then
          some { reason := .idleTimeout, ethDst := some a.2, vlanVid := none
                 cookie := drv.cookie flow.lport }
        else none)

section Lookup

theorem bind_ite_none {α : Type} (p : α → Prop) [DecidablePred p] (o : Option α) :
    (o.bind fun x => if p x then none else some x) = o.filter fun x => !decide (p x) := by
  cases o with
  | none => rfl
  | some x => by_cases h : p x <;> simp [h, Option.filter]

variable (t : BridgingTable) (port vid tunnelId lport : Nat) (mac : Mac) (a : L2Addr)

@[grind =] theorem vlan_add (flow : UnicastFlow) :
    (t.apply drv (.addUnicastVlan vid mac flow)).vlan.lookup a =
      if a = (vid, mac) then some flow else t.vlan.lookup a :=
  Table.lookup_insert_ite t.vlan (vid, mac) a flow

@[grind =] theorem vlan_remove :
    (t.apply drv (.removeUnicastVlan port vid mac)).vlan.lookup a =
      (t.vlan.lookup a).filter fun flow =>
        !decide (a = (vid, mac) ∧ drv.takes port flow.port) := by
  change (Table.filterMap _ t.vlan).lookup a = _
  rw [Table.lookup_filterMap, bind_ite_none]

@[grind =] theorem vlan_removeAll :
    (t.apply drv (.removeUnicastVlanAll port vid)).vlan.lookup a =
      (t.vlan.lookup a).filter fun flow =>
        !decide (a.1 = vid ∧ drv.takes port flow.port) := by
  change (Table.filterMap _ t.vlan).lookup a = _
  rw [Table.lookup_filterMap, bind_ite_none]

@[grind =] theorem overlay_add (flow : OverlayFlow) :
    (t.apply drv (.addUnicastOverlay tunnelId mac flow)).overlay.lookup a =
      if a = (tunnelId, mac) then some flow else t.overlay.lookup a :=
  Table.lookup_insert_ite t.overlay (tunnelId, mac) a flow

@[grind =] theorem overlay_remove :
    (t.apply drv (.removeUnicastOverlay tunnelId mac)).overlay.lookup a =
      if a = (tunnelId, mac) then none else t.overlay.lookup a :=
  Table.lookup_erase_ite t.overlay (tunnelId, mac) a

@[grind =] theorem overlay_removeAllLport :
    (t.apply drv (.removeUnicastOverlayAllLport lport)).overlay.lookup a =
      (t.overlay.lookup a).filter fun flow => !decide (flow.lport = lport) := by
  change (Table.filterMap _ t.overlay).lookup a = _
  rw [Table.lookup_filterMap, bind_ite_none]

end Lookup

end BridgingTable

/-- `default_idle_timeout` of the controller, and the flows of the switch. -/
structure L2Flows where
  defaultIdleTimeout : Nat := 300
  table : BridgingTable := {}
  deriving DecidableEq

namespace L2Flows

variable (drv : BridgingDriver) (fm : FmDriver)

/-- The flows after messages to the switch. -/
def send (s : L2Flows) (ms : List BridgingMsg) : L2Flows :=
  { s with table := s.table.applyAll drv ms }

/-- The expiry of a flow that is added. -/
def expiry (s : L2Flows) (permanent : Bool) : FlowExpiry :=
  if !permanent && 0 < s.defaultIdleTimeout then
    { idleTimeout := s.defaultIdleTimeout, sendFlowRem := true }
  else {}

/-- The timeout is kept as a `uint16_t`. -/
def l2SetIdleTimeout (s : L2Flows) (idleTimeout : Nat) : L2Flows :=
  { s with defaultIdleTimeout := u16 idleTimeout }

/-- `l2_addr_remove_all_in_vlan`. -/
def l2AddrRemoveAllInVlan (s : L2Flows) (port vid : Nat) : L2Flows :=
  s.send drv [.removeUnicastVlanAll port vid]

/-- The flow that `l2_addr_add` sends. -/
def unicastFlow (s : L2Flows) (port vid : Nat) (permanent : Bool) : UnicastFlow :=
  { s.expiry permanent with port := port, group := fm.interfaceGroup port vid }

/-- `l2_addr_add`. An update deletes the flow of any port first, since the cookie of a flow cannot
be changed. -/
def l2AddrAdd (s : L2Flows) (port vid : Nat) (mac : Mac) (permanent update : Bool) : L2Flows :=
  s.send drv <|
    (if update then [.removeUnicastVlan 0 vid mac, .barrier] else []) ++
      [.addUnicastVlan vid mac (s.unicastFlow fm port vid permanent)]

/-- `l2_addr_remove`. -/
def l2AddrRemove (s : L2Flows) (port vid : Nat) (mac : Mac) : L2Flows :=
  s.send drv [.removeUnicastVlan port vid mac]

/-- `l2_overlay_addr_add`. -/
def l2OverlayAddrAdd (s : L2Flows) (lport tunnelId : Nat) (mac : Mac) (permanent : Bool) :
    L2Flows :=
  s.send drv [.addUnicastOverlay tunnelId mac { s.expiry permanent with lport := lport }]

/-- `l2_overlay_addr_remove`: with a port all addresses of that port, in whatever tunnel. -/
def l2OverlayAddrRemove (s : L2Flows) (tunnelId lportId : Nat) (mac : Mac) : L2Flows :=
  s.send drv <|
    if lportId ≠ 0 then [.removeUnicastOverlayAllLport lportId, .barrier]
    else [.removeUnicastOverlay tunnelId mac]

/-- `handle_bridging_table_rm`: the call of `fdb_timeout`, if there is one. -/
def handleBridgingTableRm (msg : FlowRemoved) : Option (Nat × L2Addr) :=
  -- we only care about flows being timed out
  if msg.reason ≠ .idleTimeout then none
  else
    match msg.ethDst, msg.vlanVid with
    | some ethDst, some vid =>
      some (msg.cookie &&& 0xffffffff, (vid &&& 0xfff, ethDst))
    | _, _ => none

section Lookup

variable {drv} {fm} (s : L2Flows) (port vid : Nat) (mac : Mac) (a : L2Addr)

/-- Whatever flow the address had, and whether that is deleted first or not, it has the new one. -/
@[grind =] theorem vlan_l2AddrAdd (permanent update : Bool) :
    (s.l2AddrAdd drv fm port vid mac permanent update).table.vlan.lookup a =
      if a = (vid, mac) then some (s.unicastFlow fm port vid permanent)
      else s.table.vlan.lookup a := by
  cases update with
  | false => exact BridgingTable.vlan_add drv s.table vid mac a _
  | true =>
    change (((s.table.apply drv (.removeUnicastVlan 0 vid mac)).apply drv
      (.addUnicastVlan vid mac _)).vlan).lookup a = _
    rw [BridgingTable.vlan_add, BridgingTable.vlan_remove]
    split_ifs with h
    · rfl
    · cases s.table.vlan.lookup a <;> simp [h]

@[grind =] theorem vlan_l2AddrRemove :
    (s.l2AddrRemove drv port vid mac).table.vlan.lookup a =
      (s.table.vlan.lookup a).filter fun flow =>
        !decide (a = (vid, mac) ∧ drv.takes port flow.port) :=
  BridgingTable.vlan_remove drv s.table port vid mac a

@[grind =] theorem vlan_l2AddrRemoveAllInVlan :
    (s.l2AddrRemoveAllInVlan drv port vid).table.vlan.lookup a =
      (s.table.vlan.lookup a).filter fun flow =>
        !decide (a.1 = vid ∧ drv.takes port flow.port) :=
  BridgingTable.vlan_removeAll drv s.table port vid a

@[simp, grind =] theorem overlay_l2AddrAdd (permanent update : Bool) :
    (s.l2AddrAdd drv fm port vid mac permanent update).table.overlay = s.table.overlay := by
  cases update <;> rfl

end Lookup

theorem and_mask_32 (n : Nat) : n &&& 0xffffffff = n % 2 ^ 32 :=
  Nat.and_two_pow_sub_one_eq_mod n 32

theorem and_mask_12 (n : Nat) : n &&& 0xfff = n % 2 ^ 12 := Nat.and_two_pow_sub_one_eq_mod n 12

/-- A flow that runs out is reported with its port and its address. -/
theorem handleBridgingTableRm_expire {drv : BridgingDriver} (h : drv.Encodes) {t : BridgingTable}
    {a : L2Addr} {flow : UnicastFlow} {msg : FlowRemoved} (ha : a.1 < 2 ^ 12)
    (hp : flow.port < 2 ^ 32) (hf : t.vlan.lookup a = some flow)
    (hmsg : (t.expire drv a).2 = some msg) :
    handleBridgingTableRm msg = some (flow.port, a) := by
  have hvid : (a.1 ||| 0x1000) % 2 ^ 12 = a.1 := by
    rw [Nat.or_mod_two_pow, Nat.mod_eq_of_lt ha]
    simp
  unfold BridgingTable.expire at hmsg
  simp only [hf] at hmsg
  split_ifs at hmsg with hidle hrem
  obtain rfl := Option.some.inj hmsg
  simp only [handleBridgingTableRm, ne_eq, not_true_eq_false, if_false, and_mask_32, and_mask_12,
    h.cookie_port _ hp, hvid]

/-- A flow of the overlay that runs out is not: its match has no VLAN. -/
theorem handleBridgingTableRm_expireOverlay {drv : BridgingDriver} {t : BridgingTable} {a : L2Addr}
    {msg : FlowRemoved} (hmsg : (t.expireOverlay drv a).2 = some msg) :
    handleBridgingTableRm msg = none := by
  unfold BridgingTable.expireOverlay at hmsg
  cases hf : t.overlay.lookup a with
  | none => simp [hf] at hmsg
  | some flow =>
    simp only [hf] at hmsg
    split_ifs at hmsg with hidle hrem
    obtain rfl := Option.some.inj hmsg
    rfl

end L2Flows

end Basebox
