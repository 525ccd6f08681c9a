import Basebox.Netlink.VxlanSwitch

/-!
# The tunnels of `nl_vxlan` and the tenants of the switch (`src/netlink/nl_vxlan.cc`)

`create_vni` takes a tunnel id for the VNI of a link and creates a tenant with it; `remove_vni`
deletes the tenant. Each call of the switch may fail.

* `TunnelsExact`: distinct VNIs have distinct tunnels, of ids the counter has given out, and the
  tenants of the switch are those of the tunnels.
* `vniStep_change`: all that a call of one of the two does, in a state where the next id is not
  that of a tenant.
* `tunnelsExact_iff`: the tunnels are exact in every state, and no id is given to two VNIs, exactly
  as long as the counter does not come round.

The values of `vni2tunnel` are `int`s in the source; they are read back as `uint32_t`, as which
they are taken here.
-/

namespace Basebox

namespace NlVxlan

/-! ## The tenants -/

/-- The tenants of the switch after a call. -/
def tenantsAfter (tenants : Finset Nat) : SwCall → Finset Nat
  | .tunnelTenantCreate tunnelId _ => insert tunnelId tenants
  | .tunnelTenantDelete tunnelId => tenants.erase tunnelId
  | _ => tenants

/-- The tenants of the switch: those of the calls that succeeded. -/
def tenants (s : NlVxlan) : Finset Nat := s.done.foldl tenantsAfter ∅

section Send

variable (r : SwResults) (s : NlVxlan) (c : SwCall)

@[simp] theorem send_fst : (s.send r c).1 = r s.calls c := rfl
@[simp] theorem send_calls : (s.send r c).2.calls = s.calls ++ [c] := rfl
@[simp] theorem send_vni2tunnel : (s.send r c).2.vni2tunnel = s.vni2tunnel := rfl
@[simp] theorem send_tunnelIdCnt : (s.send r c).2.tunnelIdCnt = s.tunnelIdCnt := rfl

variable {r s c}

theorem tenants_send (h : 0 ≤ r s.calls c) : (s.send r c).2.tenants = tenantsAfter s.tenants c := by
  simp [send, tenants, h]

theorem tenants_send_of_neg (h : r s.calls c < 0) : (s.send r c).2.tenants = s.tenants := by
  simp [send, tenants, not_le.mpr h]

/-- Calls that are not about tenants. -/
theorem tenants_send_of_eq (h : tenantsAfter s.tenants c = s.tenants) :
    (s.send r c).2.tenants = s.tenants := by
  by_cases hc : 0 ≤ r s.calls c
  · rw [tenants_send hc, h]
  · exact tenants_send_of_neg (not_le.mp hc)

end Send

/-! ## Calls -/

/-- A VNI is created or removed. -/
inductive VniEv where
  | createVni (link : VxlanLink)
  | removeVni (link : VxlanLink)

/-- The state after an event. -/
def vniStep (r : SwResults) (s : NlVxlan) : VniEv → NlVxlan
  | .createVni link => (s.createVni r link).2
  | .removeVni link => (s.removeVni r link).2

/-- `create_vni` undoes the creation of the tenant when the tunnel cannot be added. That call does
not fail. -/
def RollBackSucceeds (r : SwResults) : Prop :=
  ∀ log tunnelId, 0 ≤ r (log ++ [.overlayTunnelAdd tunnelId]) (.tunnelTenantDelete tunnelId)

/-- The call records a tunnel: the link is a VXLAN link, its VNI has none, and the switch creates
the tenant and adds the tunnel. -/
def records (r : SwResults) (s : NlVxlan) : VniEv → Bool
  | .createVni link =>
    link.isVxlan && (s.vni2tunnel.lookup link.vni).isNone &&
      decide (0 ≤ r s.calls (.tunnelTenantCreate s.tunnelIdCnt link.vni)) &&
      decide (0 ≤ r (s.calls ++ [.tunnelTenantCreate s.tunnelIdCnt link.vni])
        (.overlayTunnelAdd s.tunnelIdCnt))
  | .removeVni _ => false

/-- How many tunnels a run records. -/
def recordings (r : SwResults) : NlVxlan → List VniEv → Nat
  | _, [] => 0
  | s, e :: es => (records r s e).toNat + recordings r (vniStep r s e) es

/-- What a call does to the tunnels and to the tenants, where `rec` says whether it records one. -/
inductive VniChange (s s' : NlVxlan) (rec : Bool) : Prop
  | recorded (hrec : rec = true) (vni : Nat) (hvni : s.vni2tunnel.lookup vni = none)
      (htunnels : s'.vni2tunnel = s.vni2tunnel.insert vni s.tunnelIdCnt)
      (hcnt : s'.tunnelIdCnt = u32 (s.tunnelIdCnt + 1))
      (htenants : s'.tenants = insert s.tunnelIdCnt s.tenants)
  | removed (hrec : rec = false) (vni tunnelId : Nat)
      (hvni : s.vni2tunnel.lookup vni = some tunnelId)
      (htunnels : s'.vni2tunnel = s.vni2tunnel.erase vni) (hcnt : s'.tunnelIdCnt = s.tunnelIdCnt)
      (htenants : s'.tenants = s.tenants.erase tunnelId)
  | same (hrec : rec = false) (htunnels : s'.vni2tunnel = s.vni2tunnel)
      (hcnt : s'.tunnelIdCnt = s.tunnelIdCnt) (htenants : s'.tenants = s.tenants)

section Step

variable {r : SwResults} {s : NlVxlan}

theorem createVni_change (hr : RollBackSucceeds r) (hnew : s.tunnelIdCnt ∉ s.tenants)
    (link : VxlanLink) :
    VniChange s (s.createVni r link).2 (records r s (.createVni link)) := by
  unfold createVni
  simp only [records]
  by_cases hx : link.isVxlan = true
  · cases hv : s.vni2tunnel.lookup link.vni with
    | some tunnelId => exact .same (by simp) (by simp [hx]) (by simp [hx]) (by simp [hx])
    | none =>
      simp only [hx, Bool.not_true, Bool.false_eq_true, if_false, Option.isNone_none, Bool.true_and]
      simp only [send_fst, send_calls, send_tunnelIdCnt]
      by_cases hc : r s.calls (.tunnelTenantCreate s.tunnelIdCnt link.vni) < 0
      · simp only [hc, if_true]
        exact .same (by simp; omega) rfl rfl (tenants_send_of_neg hc)
      · have hcreate := tenants_send (not_lt.mp hc)
        have hadd := (tenants_send_of_eq (r := r) (c := .overlayTunnelAdd s.tunnelIdCnt) rfl).trans
          hcreate
        simp only [hc, if_false]
        by_cases ha : r (s.calls ++ [.tunnelTenantCreate s.tunnelIdCnt link.vni])
            (.overlayTunnelAdd s.tunnelIdCnt) < 0
        · -- The tenant that was created is deleted again.
          simp only [ha, if_true]
          refine .same (by simp; omega) rfl rfl ((tenants_send (hr _ _)).trans ?_)
          rw [hadd, tenantsAfter, tenantsAfter, Finset.erase_insert hnew]
        · simp only [ha, if_false]
          exact .recorded (by simp; omega) link.vni hv rfl rfl hadd
  · exact .same (by simp [hx]) (by simp [hx]) (by simp [hx]) (by simp [hx])

theorem removeVni_change (link : VxlanLink) :
    VniChange s (s.removeVni r link).2 (records r s (.removeVni link)) := by
  unfold removeVni
  by_cases hx : link.isVxlan = true
  · cases hv : s.vni2tunnel.lookup link.vni with
    | none => exact .same rfl (by simp [hx]) (by simp [hx]) (by simp [hx])
    | some tunnelId =>
      simp only [hx, Bool.not_true, Bool.false_eq_true, if_false]
      have hremove : (s.send r (.overlayTunnelRemove tunnelId)).2.tenants = s.tenants :=
        tenants_send_of_eq rfl
      simp only [send_fst, send_calls]
      by_cases hd : r (s.calls ++ [.overlayTunnelRemove tunnelId]) (.tunnelTenantDelete tunnelId) < 0
      · simp only [hd, if_true]
        exact .same rfl rfl rfl ((tenants_send_of_neg hd).trans hremove)
      · simp only [hd, if_false]
        refine .removed rfl link.vni tunnelId hv rfl rfl ((tenants_send (not_lt.mp hd)).trans ?_)
        rw [hremove, tenantsAfter]
  · exact .same rfl (by simp [hx]) (by simp [hx]) (by simp [hx])

theorem vniStep_change (hr : RollBackSucceeds r) (hnew : s.tunnelIdCnt ∉ s.tenants) (e : VniEv) :
    VniChange s (vniStep r s e) (records r s e) := by
  cases e with
  | createVni link => exact createVni_change hr hnew link
  | removeVni link => exact removeVni_change link

end Step

/-! ## Runs -/

/-- What the tunnels of a state are to be. -/
structure TunnelsExact (s : NlVxlan) : Prop where
  inj : ∀ v w t, s.vni2tunnel.lookup v = some t → s.vni2tunnel.lookup w = some t → v = w
  range : ∀ v t, s.vni2tunnel.lookup v = some t → 10 ≤ t ∧ t < s.tunnelIdCnt
  tenants : ∀ t, t ∈ s.tenants ↔ ∃ v, s.vni2tunnel.lookup v = some t

/-- No id is recorded for two VNIs, in any two states of the run. -/
def NoReuse (r : SwResults) (es : List VniEv) : Prop :=
  ∀ n m v w t, (run (vniStep r) {} (es.take n)).vni2tunnel.lookup v = some t →
    (run (vniStep r) {} (es.take m)).vni2tunnel.lookup w = some t → v = w

theorem TunnelsExact.init : TunnelsExact {} where
  inj _ _ _ h := by cases h
  range _ _ h := by cases h
  tenants t := by
    constructor
    · intro h
      cases h
    · rintro ⟨v, h⟩
      cases h

namespace TunnelsExact

variable {r : SwResults} {s s' : NlVxlan} {rec : Bool}

/-- The next id is not that of a tenant. -/
theorem cnt_notMem (h : TunnelsExact s) : s.tunnelIdCnt ∉ s.tenants := by
  intro hmem
  obtain ⟨v, hv⟩ := (h.tenants _).mp hmem
  exact Nat.lt_irrefl _ (h.range v _ hv).2

/-- A call keeps the tunnels exact, unless the counter comes round. -/
theorem change_iff (h : TunnelsExact s) (hcnt : 10 ≤ s.tunnelIdCnt) (hc : VniChange s s' rec) :
    TunnelsExact s' ↔ (rec = true → s.tunnelIdCnt + 1 < 2 ^ 32) := by
  cases hc with
  | same hrec htunnels hsame htenants =>
    refine iff_of_true ?_ (by simp [hrec])
    exact ⟨by rw [htunnels]; exact h.inj, by rw [htunnels, hsame]; exact h.range,
      by rw [htunnels, htenants]; exact h.tenants⟩
  | removed hrec vni tunnelId hvni htunnels hsame htenants =>
    have hlookup : ∀ v t, s'.vni2tunnel.lookup v = some t ↔
        v ≠ vni ∧ s.vni2tunnel.lookup v = some t := by
      intro v t
      rw [htunnels, Table.lookup_erase_ite]
      by_cases hv : v = vni <;> simp [hv]
    refine iff_of_true ?_ (by simp [hrec])
    constructor
    · intro v w t hv hw
      exact h.inj v w t ((hlookup v t).mp hv).2 ((hlookup w t).mp hw).2
    · intro v t hv
      rw [hsame]
      exact h.range v t ((hlookup v t).mp hv).2
    · intro t
      rw [htenants, Finset.mem_erase, h.tenants]
      constructor
      · rintro ⟨hne, v, hv⟩
        refine ⟨v, (hlookup v t).mpr ⟨fun hvv => hne ?_, hv⟩⟩
        rw [hvv, hvni] at hv
        exact (Option.some.inj hv).symm
      · rintro ⟨v, hv⟩
        obtain ⟨hne, hv⟩ := (hlookup v t).mp hv
        exact ⟨fun ht => hne (h.inj v vni t hv (ht ▸ hvni)), v, hv⟩
  | recorded hrec vni hvni htunnels hnext htenants =>
    have hlookup : ∀ v, s'.vni2tunnel.lookup v =
        if v = vni then some s.tunnelIdCnt else s.vni2tunnel.lookup v := by
      intro v
      rw [htunnels, Table.lookup_insert_ite]
    constructor
    · -- The new tunnel is below the counter.
      intro h' _
      have hlt := (h'.range vni s.tunnelIdCnt (by rw [hlookup, if_pos rfl])).2
      rw [hnext, u32] at hlt
      omega
    · intro hlt
      have hnext' : s'.tunnelIdCnt = s.tunnelIdCnt + 1 := by
        rw [hnext, u32, Nat.mod_eq_of_lt (hlt hrec)]
      have hold : ∀ v, s.vni2tunnel.lookup v ≠ some s.tunnelIdCnt :=
        fun v hv => Nat.lt_irrefl _ (h.range v _ hv).2
      constructor
      · intro v w t hv hw
        rw [hlookup] at hv hw
        split at hv <;> split at hw
        · rw [‹v = vni›, ‹w = vni›]
        · exact absurd (hw.trans hv.symm) (hold w)
        · exact absurd (hv.trans hw.symm) (hold v)
        · exact h.inj v w t hv hw
      · intro v t hv
        rw [hlookup] at hv
        rw [hnext']
        split at hv
        · cases hv
          omega
        · have := h.range v t hv
          omega
      · intro t
        rw [htenants, Finset.mem_insert, h.tenants]
        constructor
        · rintro (rfl | ⟨v, hv⟩)
          · exact ⟨vni, by rw [hlookup, if_pos rfl]⟩
          · refine ⟨v, ?_⟩
            rw [hlookup, if_neg]
            · exact hv
            · rintro rfl
              rw [hvni] at hv
              cases hv
        · rintro ⟨v, hv⟩
          rw [hlookup] at hv
          split at hv
          · exact .inl (Option.some.inj hv).symm
          · exact .inr ⟨v, hv⟩

end TunnelsExact

section Runs

variable {r : SwResults}

/-- From a state in which `k` tunnels have been recorded. -/
theorem tunnelsExact_run_iff (hr : RollBackSucceeds r) {s : NlVxlan} {k : Nat}
    (h : TunnelsExact s) (hcnt : s.tunnelIdCnt = 10 + k) (hk : 10 + k < 2 ^ 32)
    (es : List VniEv) :
    (∀ n, TunnelsExact (run (vniStep r) s (es.take n))) ↔ k + recordings r s es + 10 < 2 ^ 32 := by
  induction es generalizing s k with
  | nil => exact iff_of_true (fun n => by simpa using h) (by simp only [recordings]; omega)
  | cons e es ih =>
    have hchange := vniStep_change hr h.cnt_notMem e
    have hstep := h.change_iff (by omega) hchange
    have hsplit : (∀ n, TunnelsExact (run (vniStep r) s ((e :: es).take n))) ↔
        ∀ n, TunnelsExact (run (vniStep r) (vniStep r s e) (es.take n)) := by
      constructor
      · exact fun hall n => hall (n + 1)
      · rintro hall (- | n)
        · exact h
        · exact hall n
    rw [hsplit]
    simp only [recordings]
    by_cases hrec : records r s e = true
    · have hnext : (vniStep r s e).tunnelIdCnt = u32 (s.tunnelIdCnt + 1) := by
        cases hchange with
        | recorded _ _ _ _ hnext _ => exact hnext
        | removed hf => rw [hrec] at hf; cases hf
        | same hf => rw [hrec] at hf; cases hf
      rw [hrec, Bool.toNat_true]
      constructor
      · intro hall
        have h' : TunnelsExact (vniStep r s e) := hall 0
        have hlt := hstep.mp h' hrec
        rw [u32, Nat.mod_eq_of_lt hlt] at hnext
        have := (ih h' (k := k + 1) (by omega) (by omega)).mp hall
        omega
      · intro hlt
        have hlt' : s.tunnelIdCnt + 1 < 2 ^ 32 := by omega
        rw [u32, Nat.mod_eq_of_lt hlt'] at hnext
        exact (ih (hstep.mpr fun _ => hlt') (k := k + 1) (by omega) (by omega)).mpr (by omega)
    · have hsame : (vniStep r s e).tunnelIdCnt = s.tunnelIdCnt := by
        cases hchange with
        | recorded hf => exact absurd hf hrec
        | removed _ _ _ _ _ hsame _ => exact hsame
        | same _ _ hsame _ => exact hsame
      rw [Bool.eq_false_iff.mpr hrec, Bool.toNat_false, Nat.zero_add]
      exact ih (hstep.mpr fun hf => absurd hf hrec) (hsame.trans hcnt) hk

/-- An id that the counter has passed is recorded for nobody new. -/
theorem lookup_of_run (hr : RollBackSucceeds r) {s : NlVxlan} {es : List VniEv}
    (h : ∀ n, TunnelsExact (run (vniStep r) s (es.take n))) (hcnt : 10 ≤ s.tunnelIdCnt) {v t : Nat}
    (ht : t < s.tunnelIdCnt) (hv : (run (vniStep r) s es).vni2tunnel.lookup v = some t) :
    s.vni2tunnel.lookup v = some t := by
  induction es generalizing s with
  | nil => exact hv
  | cons e es ih =>
    have hexact : TunnelsExact s := h 0
    have hchange := vniStep_change hr hexact.cnt_notMem e
    have hwrap := (hexact.change_iff hcnt hchange).mp (h 1)
    have hrest := fun hle hlt => ih (s := vniStep r s e) (fun n => h (n + 1)) hle hlt hv
    cases hchange with
    | same _ htunnels hsame _ =>
      rw [← htunnels]
      exact hrest (by omega) (by omega)
    | removed _ vni tunnelId _ htunnels hsame _ =>
      have hlater := hrest (by omega) (by omega)
      rw [htunnels, Table.lookup_erase_ite] at hlater
      split at hlater
      · cases hlater
      · exact hlater
    | recorded hrec vni _ htunnels hnext _ =>
      rw [u32, Nat.mod_eq_of_lt (hwrap hrec)] at hnext
      have hlater := hrest (by omega) (by omega)
      rw [htunnels, Table.lookup_insert_ite] at hlater
      split at hlater
      · cases hlater
        exact absurd ht (Nat.lt_irrefl _)
      · exact hlater

theorem noReuse_of_exact (hr : RollBackSucceeds r) {es : List VniEv}
    (h : ∀ n, TunnelsExact (run (vniStep r) {} (es.take n))) : NoReuse r es := by
  -- In the earlier of the two states both VNIs have the tunnel.
  have hle : ∀ n m v w t, n ≤ m →
      (run (vniStep r) {} (es.take n)).vni2tunnel.lookup v = some t →
      (run (vniStep r) {} (es.take m)).vni2tunnel.lookup w = some t → v = w := by
    intro n m v w t hnm hv hw
    have hsplit : ∀ i, es.take (n + i) = es.take n ++ (es.drop n).take i := fun i => List.take_add
    have hrange := (h n).range v t hv
    obtain ⟨i, rfl⟩ := Nat.exists_eq_add_of_le hnm
    rw [hsplit, run_append] at hw
    refine (h n).inj v w t hv (lookup_of_run hr (fun j => ?_) (by omega) hrange.2 hw)
    rw [List.take_take, ← run_append, ← hsplit]
    exact h _
  intro n m v w t hv hw
  rcases Nat.le_total n m with hnm | hmn
  · exact hle n m v w t hnm hv hw
  · exact (hle m n w v t hmn hw hv).symm

/-- **Tunnels and tenants.** Whatever calls of the switch fail, but for the roll-back, the tunnels
are exact in every state and no id is given to two VNIs, exactly if the run records fewer than
`2 ^ 32 - 10` tunnels. -/
theorem tunnelsExact_iff (r : SwResults) (hr : RollBackSucceeds r) (es : List VniEv) :
    ((∀ n, TunnelsExact (run (vniStep r) {} (es.take n))) ∧ NoReuse r es) ↔
      recordings r {} es + 10 < 2 ^ 32 := by
  have hall := tunnelsExact_run_iff hr TunnelsExact.init (k := 0) rfl (by decide) es
  rw [Nat.zero_add] at hall
  rw [← hall]
  exact ⟨fun h => h.1, fun h => ⟨h, noReuse_of_exact hr h⟩⟩

/-- A switch that fails to add the first tunnel. -/
def firstAddFails : SwResults
  | log, .overlayTunnelAdd _ => if log.length ≤ 1 then -1 else 0
  | _, _ => 0

/-- The tenant of the first attempt is deleted again, and the second attempt takes its id. -/
theorem tunnelsExact_firstAddFails :
    (∀ n, TunnelsExact (run (vniStep firstAddFails) {}
      ([.createVni (Vxlan.tunnelLink 1), .createVni (Vxlan.tunnelLink 2)].take n))) ∧
      NoReuse firstAddFails [.createVni (Vxlan.tunnelLink 1), .createVni (Vxlan.tunnelLink 2)] :=
  (tunnelsExact_iff firstAddFails (fun _ _ => Int.le_refl 0) _).mpr (by decide)

/-- A tunnel is recorded and removed `n` times. -/
def churnVni (n : Nat) : List VniEv :=
  (List.replicate n [.createVni (Vxlan.tunnelLink 1), .removeVni (Vxlan.tunnelLink 1)]).flatten

theorem recordings_churnVni {s : NlVxlan} (hnone : s.vni2tunnel = ∅) (n : Nat) :
    recordings (fun _ _ => 0) s (churnVni n) = n := by
  induction n generalizing s with
  | zero => rfl
  | succ n ih =>
    have hone : (vniStep (fun _ _ => 0) s (.createVni (Vxlan.tunnelLink 1))).vni2tunnel =
        (∅ : Table Nat Nat).insert 1 s.tunnelIdCnt := by
      simp [vniStep, createVni, hnone, Vxlan.tunnelLink, send]
    have hgone : (vniStep (fun _ _ => 0) (vniStep (fun _ _ => 0) s
        (.createVni (Vxlan.tunnelLink 1))) (.removeVni (Vxlan.tunnelLink 1))).vni2tunnel = ∅ := by
      generalize vniStep (fun _ _ => 0) s (.createVni (Vxlan.tunnelLink 1)) = s₁ at hone ⊢
      have hlookup : s₁.vni2tunnel.lookup 1 = some s.tunnelIdCnt := by
        rw [hone, Table.lookup_insert_ite, if_pos rfl]
      simp only [vniStep, removeVni, Vxlan.tunnelLink, hlookup, send, Bool.not_true,
        Bool.false_eq_true, if_false, Int.lt_irrefl]
      rw [hone]
      exact Table.erase_insert_of_notMem (by simp) _
    have hrest := ih hgone
    simp only [churnVni, List.replicate_succ, List.flatten_cons, List.cons_append, List.nil_append,
      recordings] at hrest ⊢
    rw [hrest]
    simp [records, hnone, Vxlan.tunnelLink]
    omega

/-- With the last id the counter comes round. -/
theorem churnVni_not_exact :
    ¬ ((∀ n, TunnelsExact (run (vniStep fun _ _ => 0) {} ((churnVni (2 ^ 32 - 10)).take n))) ∧
      NoReuse (fun _ _ => 0) (churnVni (2 ^ 32 - 10))) := by
  rintro ⟨h, -⟩
  have hall := (tunnelsExact_run_iff (r := fun _ _ => 0) (fun _ _ => Int.le_refl 0) TunnelsExact.init
    (k := 0) rfl (by decide) _).mp h
  rw [recordings_churnVni rfl] at hall
  omega

end Runs

end NlVxlan

end Basebox
