import Basebox.Netlink.LateL3

/-!
# Addresses of a new bridge and of the loopback (`src/netlink/cnetlink.cc`, `nl_l3.cc`)

The scan for a new bridge adds the addresses that the cache has, while notes about the same
addresses may wait: some are added twice, others deleted before their bridge was followed.

* `Configured`: an address is set up, or has a host entry if it is one of the loopback.
* `EvAllowed`: what the kernel does. Links and addresses come after what they hang on and go before.
* `AddrInv`: an address that no note waits for is configured if it is in the cache.
* `addrs_settle`: when all notes are handled, what is configured is what the cache has on interfaces
  of the switch, and the hosts on the loopback.
-/

namespace Basebox

namespace LateL3

/-- What an object hangs on: an address on its link, a VLAN interface on the link below it. -/
def parents (env : LateEnv) : L3Obj → List L3Key
  | .link i => if env.lower i = 0 then [] else [.link (env.lower i)]
  | .addr a => [.link a.ifindex]
  | .route _ => []

/-- An address of the loopback has no peer, so its prefix length is that of the local address. -/
def Plain (env : LateEnv) : L3Obj → Prop
  | .addr a => a.ifindex = env.lo → a.loc.len = a.prefixlen
  | .link _ | .route _ => True

/-- A host address that is not of the prefixes that the loopback always has. -/
structure IsLoHost (a : IfAddr) : Prop where
  len : a.loc.len = a.loc.addr.bits
  prefixlen : a.prefixlen = a.loc.addr.bits
  outside : a.loc.overlaps (loPrefix a.loc.addr) = false

/-- The address is to be set up while this bridge is followed. -/
def Wanted (env : LateEnv) (bridge : Option Int) (a : IfAddr) : Prop :=
  if a.ifindex = env.lo then IsLoHost a else ours env bridge a.ifindex = true

/-- The address is set up. -/
def Configured (env : LateEnv) (s : LateL3) (a : IfAddr) : Prop :=
  if a.ifindex = env.lo then IsLoHost a ∧ a.loc.addr ∈ s.loHosts else a ∈ s.addrs

/-- The host entries are of hosts. -/
def Hosts (env : LateEnv) (s : LateL3) : Prop :=
  ∀ h ∈ s.loHosts, ∃ a, a.ifindex = env.lo ∧ a.loc.addr = h ∧ IsLoHost a

/-- What the kernel does: links and addresses come after what they hang on and go before it, and the
ifindex of a link is not taken again while its deletion waits. -/
def EvAllowed (env : LateEnv) (s : LateL3) : Ev → Prop
  | .report o => AheadCache.Allowed (parents env) s.cache (.put o.key o) ∧ Plain env o ∧
      ∀ i, o = .link i → ∀ old, CacheNote.del (.link i) old ∉ s.cache.pending
  | .gone k => AheadCache.Allowed (parents env) s.cache (.remove k)
  | .handle _ => True
  | .newBridge b _ => b ≠ 0

/-- The condition on a step. -/
def Kernel (env : LateEnv) : Option LateL3 → Ev → Prop
  | none, _ => True
  | some s, e => s.EvAllowed env e

/-- The objects that do not come back while their deletion waits. -/
def IsLink : L3Key → Prop
  | .link _ => True
  | .addr _ | .route _ => False

/-- What every state has: an address that is to be set up and that no note waits for is configured
if it is in the cache, and no other address is. -/
structure AddrInv (env : LateEnv) (s : LateL3) : Prop where
  keyed : s.cache.Keyed L3Obj.key
  fits : s.cache.Inv
  nested : AheadCache.Nested (parents env) s.cache.seen s.cache.pending
  final : s.cache.Final IsLink
  plain : s.cache.All (Plain env)
  bridge : s.bridge ≠ some 0
  quiet : ∀ a, Wanted env s.bridge a → s.cache.Quiet (.addr a) →
    (Configured env s a ↔ L3Key.addr a ∈ s.cache.cache)
  wanted : ∀ a, Configured env s a → Wanted env s.bridge a
  hosts : Hosts env s

section Addrs

variable {env : LateEnv} {s t : LateL3} {fib : Prefix → Bool}

/-! ## Links -/

theorem parents_link {i : Int} (h : env.lower i ≠ 0) :
    L3Key.link (env.lower i) ∈ parents env (.link i) := by
  simp [parents, h]

/-- The objects of a state are of the kind that their keys say. -/
theorem exists_addr (h : s.cache.Keyed L3Obj.key) {a : IfAddr} {o : L3Obj}
    (hf : s.cache.find (.addr a) = some o) : o = .addr a := by
  have hkey := h.find hf
  cases o with
  | link | route => cases hkey
  | addr b => rw [show b = a by simpa [L3Obj.key] using hkey]

theorem exists_link (h : s.cache.Keyed L3Obj.key) {i : Int} {o : L3Obj}
    (hf : s.cache.find (.link i) = some o) : o = .link i := by
  have hkey := h.find hf
  cases o with
  | addr | route => cases hkey
  | link j => rw [show j = i by simpa [L3Obj.key] using hkey]

/-- Where a link is found, the link below it is. -/
theorem hasLink_base (hk : s.cache.Keyed L3Obj.key) (hf : s.cache.Inv)
    (hn : AheadCache.Nested (parents env) s.cache.seen s.cache.pending) {i : Int}
    (hi : s.hasLink i = true) : s.hasLink (base env i) = true := by
  unfold base
  split_ifs with h0
  · exact hi
  · obtain ⟨o, ho⟩ := Option.ne_none_iff_exists'.mp (hasLink_iff.mp hi)
    obtain rfl := exists_link hk ho
    exact hasLink_iff.mpr (AheadCache.find_parents_of_find hn hf ho (parents_link h0))

/-- With an address that is found, its link is. -/
theorem hasLink_of_addr (hk : s.cache.Keyed L3Obj.key) (hf : s.cache.Inv)
    (hn : AheadCache.Nested (parents env) s.cache.seen s.cache.pending) {a : IfAddr}
    (ha : s.cache.find (.addr a) ≠ none) : s.hasLink a.ifindex = true := by
  obtain ⟨o, ho⟩ := Option.ne_none_iff_exists'.mp ha
  obtain rfl := exists_addr hk ho
  exact hasLink_iff.mpr (AheadCache.find_parents_of_find hn hf ho List.mem_cons_self)

/-- `is_switch_interface` of an interface with its links. -/
theorem isSwitchInterface_eq {i : Int} (hi : s.hasLink i = true)
    (hb : s.hasLink (base env i) = true) :
    isSwitchInterface env s i = ours env s.bridge i := by
  rw [isSwitchInterface, hi, hb, Bool.and_self, Bool.true_and]

/-! ## What is configured -/

/-- The loopback's host entries are of one address each. -/
theorem IsLoHost.eq_of_addr {a b : IfAddr} (ha : IsLoHost a) (hlen : b.loc.len = b.loc.addr.bits)
    (hprefixlen : b.prefixlen = b.loc.addr.bits) (hi : a.ifindex = b.ifindex)
    (haddr : a.loc.addr = b.loc.addr) : a = b := by
  obtain ⟨i, ⟨addr, len⟩, prefixlen⟩ := a
  obtain ⟨j, ⟨addr', len'⟩, prefixlen'⟩ := b
  obtain ⟨hlen', hprefixlen', -⟩ := ha
  simp_all

/-- An address whose links are found is added. -/
theorem configured_addL3Addr {a : IfAddr} (hi : s.hasLink a.ifindex = true)
    (hb : s.hasLink (base env a.ifindex) = true) (hp : Plain env (.addr a)) (b : IfAddr) :
    Configured env (s.addL3Addr env a) b ↔
      Configured env s b ∨ (b = a ∧ Wanted env s.bridge a) := by
  unfold addL3Addr
  rw [hi, isSwitchInterface_eq hi hb, Bool.not_true, if_neg Bool.false_ne_true]
  by_cases hlo : a.ifindex = env.lo
  · rw [if_pos hlo, Wanted, if_pos hlo]
    by_cases hhost : IsLoHost a
    · have hadd : s.addLoAddr a = { s with loHosts := insert a.loc.addr s.loHosts } := by
        rw [addLoAddr, hhost.outside, if_neg Bool.false_ne_true, if_pos hhost.prefixlen]
      rw [hadd]
      unfold Configured
      by_cases hblo : b.ifindex = env.lo
      · rw [if_pos hblo, if_pos hblo, Finset.mem_insert]
        constructor
        · rintro ⟨hbhost, haddr | hmem⟩
          · exact .inr ⟨hbhost.eq_of_addr hhost.len hhost.prefixlen (hblo.trans hlo.symm) haddr,
              hhost⟩
          · exact .inl ⟨hbhost, hmem⟩
        · rintro (⟨hbhost, hmem⟩ | ⟨rfl, -⟩)
          · exact ⟨hbhost, .inr hmem⟩
          · exact ⟨hhost, .inl rfl⟩
      · rw [if_neg hblo, if_neg hblo]
        refine ⟨.inl, fun h => h.resolve_right ?_⟩
        rintro ⟨rfl, -⟩
        exact hblo hlo
    · have hsame : s.addLoAddr a = s := by
        unfold addLoAddr
        split_ifs with hout hlen
        · rfl
        · exact absurd ⟨(hp hlo).trans hlen, hlen, Bool.eq_false_of_not_eq_true hout⟩ hhost
        · rfl
      rw [hsame]
      exact ⟨.inl, fun h => h.resolve_right fun hb => hhost hb.2⟩
  · rw [if_neg hlo, Wanted, if_neg hlo]
    by_cases hours : ours env s.bridge a.ifindex = true
    · rw [if_pos hours]
      unfold Configured
      by_cases hblo : b.ifindex = env.lo
      · rw [if_pos hblo, if_pos hblo]
        refine ⟨.inl, fun h => h.resolve_right ?_⟩
        rintro ⟨rfl, -⟩
        exact hlo hblo
      · rw [if_neg hblo, if_neg hblo, Finset.mem_insert, or_comm, and_iff_left hours]
    · rw [if_neg hours]
      exact ⟨.inl, fun h => h.resolve_right fun hb => hours hb.2⟩

/-- An address whose links are found is deleted. -/
theorem configured_delL3Addr {a : IfAddr} (hi : s.hasLink a.ifindex = true)
    (hb : s.hasLink (base env a.ifindex) = true) (hp : Plain env (.addr a))
    (hwanted : Configured env s a → Wanted env s.bridge a) (b : IfAddr) :
    Configured env (s.delL3Addr env a) b ↔ Configured env s b ∧ b ≠ a := by
  unfold delL3Addr
  rw [hi, isSwitchInterface_eq hi hb, Bool.not_true, if_neg Bool.false_ne_true]
  -- Where nothing is done, the address is not configured.
  have hsame : ¬ Configured env s a → (Configured env s b ↔ Configured env s b ∧ b ≠ a) := by
    intro hnot
    refine ⟨fun h => ⟨h, ?_⟩, And.left⟩
    rintro rfl
    exact hnot h
  by_cases hlo : a.ifindex = env.lo
  · rw [if_pos hlo]
    by_cases hlen : a.loc.len = a.loc.addr.bits
    · rw [if_pos hlen]
      unfold Configured
      by_cases hblo : b.ifindex = env.lo
      · rw [if_pos hblo, if_pos hblo, Finset.mem_erase]
        constructor
        · rintro ⟨hhost, hne, hmem⟩
          exact ⟨⟨hhost, hmem⟩, fun hba => hne (hba ▸ rfl)⟩
        · rintro ⟨⟨hhost, hmem⟩, hne⟩
          refine ⟨hhost, fun haddr => hne ?_, hmem⟩
          exact hhost.eq_of_addr hlen ((hp hlo).symm.trans hlen) (hblo.trans hlo.symm) haddr
      · rw [if_neg hblo, if_neg hblo]
        refine ⟨fun h => ⟨h, ?_⟩, And.left⟩
        rintro rfl
        exact hblo hlo
    · rw [if_neg hlen]
      refine hsame fun hconf => hlen ?_
      rw [Configured, if_pos hlo] at hconf
      exact hconf.1.len
  · rw [if_neg hlo]
    by_cases hours : ours env s.bridge a.ifindex = true
    · rw [if_pos hours]
      unfold Configured
      by_cases hblo : b.ifindex = env.lo
      · rw [if_pos hblo, if_pos hblo]
        refine ⟨fun h => ⟨h, ?_⟩, And.left⟩
        rintro rfl
        exact hlo hblo
      · rw [if_neg hblo, if_neg hblo, Finset.mem_erase, and_comm]
    · rw [if_neg hours]
      refine hsame fun hconf => hours ?_
      have hw := hwanted hconf
      rwa [Wanted, if_neg hlo] at hw

/-- What is configured does not change with what routes hold. -/
theorem SameButHeld.configured (h : SameButHeld s t) (a : IfAddr) :
    Configured env t a ↔ Configured env s a := by
  rw [Configured, Configured, h.addrs, h.loHosts]

theorem Hosts.addL3Addr (h : Hosts env s) {a : IfAddr} (hp : Plain env (.addr a)) :
    Hosts env (s.addL3Addr env a) := by
  unfold LateL3.addL3Addr addLoAddr
  split_ifs with hi hlo hout hlen hsw
  · exact h
  · exact h
  · intro x hx
    rcases Finset.mem_insert.mp hx with rfl | hx
    · exact ⟨a, hlo, rfl, (hp hlo).trans hlen, hlen, Bool.eq_false_of_not_eq_true hout⟩
    · exact h x hx
  all_goals exact h

theorem Hosts.delL3Addr (h : Hosts env s) (a : IfAddr) : Hosts env (s.delL3Addr env a) := by
  unfold LateL3.delL3Addr
  split_ifs
  · exact h
  · exact fun x hx => h x (Finset.mem_of_mem_erase hx)
  all_goals exact h

/-! ## Scans -/

theorem mem_getL3Addrs (h : s.cache.Keyed L3Obj.key) {a : IfAddr} {i : Int} :
    a ∈ s.getL3Addrs i ↔ L3Key.addr a ∈ s.cache.cache ∧ a.ifindex = i := by
  unfold getL3Addrs
  rw [List.mem_filterMap]
  constructor
  · rintro ⟨⟨k, o⟩, hx, ho⟩
    have hk := AList.mem_lookup_iff.mpr hx
    have hkey := h.cache k o hk
    cases o with
    | link | route => cases ho
    | addr b =>
      simp only at ho
      split_ifs at ho with hi
      cases ho
      obtain rfl : L3Key.addr a = k := hkey
      exact ⟨Table.mem_iff_lookup.mpr ⟨_, hk⟩, hi⟩
  · rintro ⟨hk, rfl⟩
    obtain ⟨o, ho⟩ := Table.mem_iff_lookup.mp hk
    obtain rfl := exists_addr h (AheadCache.find_of_mem ho)
    exact ⟨_, AList.mem_lookup_iff.mp ho, by simp⟩

/-- The caches are such that the handlers find the links of all addresses. -/
structure Found (env : LateEnv) (s : LateL3) : Prop where
  keyed : s.cache.Keyed L3Obj.key
  link : ∀ a, L3Key.addr a ∈ s.cache.cache → s.hasLink a.ifindex = true
  base : ∀ a, L3Key.addr a ∈ s.cache.cache → s.hasLink (base env a.ifindex) = true
  plain : ∀ a, L3Key.addr a ∈ s.cache.cache → Plain env (.addr a)

theorem Found.of_cache (h : Found env s) (hc : t.cache = s.cache) : Found env t where
  keyed := by rw [hc]; exact h.keyed
  link a ha := by
    rw [hasLink, hc]
    exact h.link a (hc ▸ ha)
  base a ha := by
    rw [hasLink, hc]
    exact h.base a (hc ▸ ha)
  plain a ha := h.plain a (hc ▸ ha)

theorem mem_cache_of_addr (hk : s.cache.Keyed L3Obj.key) {a : IfAddr}
    (ha : L3Key.addr a ∈ s.cache.cache) : s.cache.cache.lookup (.addr a) = some (.addr a) := by
  obtain ⟨o, ho⟩ := Table.mem_iff_lookup.mp ha
  rw [ho, exists_addr hk (AheadCache.find_of_mem ho)]

/-- What some addresses of the cache change when they are added. -/
structure Added (env : LateEnv) (P : IfAddr → Prop) (s t : LateL3) : Prop where
  cache : t.cache = s.cache
  bridge : t.bridge = s.bridge
  configured : ∀ b, Configured env t b ↔ Configured env s b ∨ (P b ∧ Wanted env s.bridge b)
  hosts : Hosts env s → Hosts env t

theorem Added.refl (s : LateL3) : Added env (fun _ => False) s s :=
  ⟨rfl, rfl, fun b => by simp, id⟩

theorem Added.trans {P P' : IfAddr → Prop} {s₁ s₂ s₃ : LateL3} (h₁ : Added env P s₁ s₂)
    (h₂ : Added env P' s₂ s₃) : Added env (fun a => P a ∨ P' a) s₁ s₃ where
  cache := h₂.cache.trans h₁.cache
  bridge := h₂.bridge.trans h₁.bridge
  configured b := by
    rw [h₂.configured, h₁.configured, h₁.bridge]
    tauto
  hosts h := h₂.hosts (h₁.hosts h)

theorem Added.imp {P P' : IfAddr → Prop} (h : Added env P s t) (hP : ∀ a, P a ↔ P' a) :
    Added env P' s t :=
  ⟨h.cache, h.bridge, fun b => by rw [h.configured, hP], h.hosts⟩

theorem added_addL3Addr (h : Found env s) {a : IfAddr} (ha : L3Key.addr a ∈ s.cache.cache) :
    Added env (fun b => b = a) s (s.addL3Addr env a) where
  cache := (sameButAddrs_addL3Addr env s a).cache
  bridge := (sameButAddrs_addL3Addr env s a).bridge
  configured b := by
    rw [configured_addL3Addr (h.link a ha) (h.base a ha) (h.plain a ha)]
    exact or_congr_right (and_congr_right fun hb => hb ▸ Iff.rfl)
  hosts hs := hs.addL3Addr (h.plain a ha)

theorem added_foldl (h : Found env s) {as : List IfAddr}
    (has : ∀ a ∈ as, L3Key.addr a ∈ s.cache.cache) :
    Added env (fun b => b ∈ as) s (as.foldl (addL3Addr env) s) := by
  induction as generalizing s with
  | nil => exact (Added.refl s).imp fun b => by simp
  | cons a as ih =>
    have h1 := added_addL3Addr h (has a List.mem_cons_self)
    have h2 := ih (h.of_cache h1.cache) fun b hb => by
      rw [h1.cache]
      exact has b (List.mem_cons_of_mem a hb)
    exact (h1.trans h2).imp fun b => List.mem_cons.symm

/-- One interface. -/
theorem added_link (h : Found env s) {i : Int}
    (hscan : addL3Routes env (s.addL3Addresses env i) fib i = some t) :
    Added env (fun b => L3Key.addr b ∈ s.cache.cache ∧ b.ifindex = i) s t := by
  have haddrs : Added env (fun b => b ∈ s.getL3Addrs i) s (s.addL3Addresses env i) :=
    added_foldl h fun a ha => ((mem_getL3Addrs h.keyed).mp ha).1
  have hsame : SameButHeld (s.addL3Addresses env i) t := sameButHeld_foldlM hscan
  refine ⟨hsame.cache.trans haddrs.cache, hsame.bridge.trans haddrs.bridge, fun b => ?_,
    fun hs x hx => haddrs.hosts hs x (hsame.loHosts ▸ hx)⟩
  rw [hsame.configured, haddrs.configured, mem_getL3Addrs h.keyed]

theorem added_links (h : Found env s) {links : List Int}
    (hscan : links.foldlM (fun s link => addL3Routes env (s.addL3Addresses env link) fib link) s =
      some t) : Added env (fun b => L3Key.addr b ∈ s.cache.cache ∧ b.ifindex ∈ links) s t := by
  induction links generalizing s with
  | nil =>
    cases hscan
    exact (Added.refl t).imp fun b => by simp
  | cons i links ih =>
    rw [List.foldlM_cons] at hscan
    obtain ⟨u, hu, hscan⟩ := Option.bind_eq_some_iff.mp hscan
    have h1 := added_link h hu
    have h2 := ih (h.of_cache h1.cache) hscan
    refine (h1.trans h2).imp fun b => ?_
    rw [h1.cache, List.mem_cons]
    tauto

theorem AddrInv.found (h : AddrInv env s) : Found env s := by
  have hlink : ∀ a, L3Key.addr a ∈ s.cache.cache → s.hasLink a.ifindex = true := fun a ha =>
    hasLink_of_addr h.keyed h.fits h.nested (AheadCache.find_ne_none_iff_or.mpr (.inl ha))
  exact ⟨h.keyed, hlink, fun a ha => hasLink_base h.keyed h.fits h.nested (hlink a ha),
    fun a ha => h.plain.find (AheadCache.find_of_mem (mem_cache_of_addr h.keyed ha))⟩

/-- More interfaces are those of the switch while a bridge is followed. -/
theorem Wanted.follow {a : IfAddr} (h : Wanted env none a) (b : Int) : Wanted env (some b) a := by
  unfold Wanted ours at h ⊢
  split_ifs at h ⊢
  · exact h
  · simp only [decide_false, Bool.or_false] at h
    rw [h, Bool.true_or]

/-- The addresses over a new bridge are found by its scan. -/
theorem mem_scanned_links (h : AddrInv env s) {b : Int} {a : IfAddr}
    (ha : L3Key.addr a ∈ s.cache.cache) (hb : base env a.ifindex = b) :
    a.ifindex ∈ b :: s.getVlanLinks env b := by
  unfold base at hb
  split_ifs at hb with h0
  · exact List.mem_cons.mpr (.inl hb)
  · have hlink := h.nested.cache h.fits _ _ (mem_cache_of_addr h.keyed ha) _ List.mem_cons_self
    obtain ⟨l, hl⟩ := Table.mem_iff_lookup.mp hlink
    obtain rfl := exists_link h.keyed (AheadCache.find_of_mem hl)
    refine List.mem_cons_of_mem b (List.mem_filterMap.mpr ?_)
    exact ⟨⟨.link a.ifindex, .link a.ifindex⟩, AList.mem_lookup_iff.mp hl, if_pos hb⟩

/-- Addresses that are wanted with a bridge only are over it. -/
theorem base_of_wanted {b : Int} {a : IfAddr} (h : Wanted env (some b) a)
    (hnot : ¬ Wanted env none a) : base env a.ifindex = b := by
  unfold Wanted ours at h hnot
  split_ifs at h hnot
  · exact absurd h hnot
  · simp only [decide_false, Bool.or_false] at hnot
    rcases Bool.or_eq_true_iff.mp h with h | h
    · exact absurd h hnot
    · exact (Option.some.inj (of_decide_eq_true h)).symm

/-- A new bridge. -/
theorem addrInv_newBridge (h : AddrInv env s) (hb : s.bridge = none) {b : Int} (h0 : b ≠ 0)
    (hscan : addL3Configuration env (s.follow b) fib b = some t) : AddrInv env t := by
  have hadded : Added env (fun a => L3Key.addr a ∈ s.cache.cache ∧
      a.ifindex ∈ b :: s.getVlanLinks env b) (s.follow b) t :=
    added_links (s := s.follow b) (h.found.of_cache rfl) hscan
  obtain ⟨hcache, hbridge, hconf, hhosts⟩ := hadded
  have hcache : t.cache = s.cache := hcache
  have hbridge : t.bridge = some b := hbridge
  have hconf : ∀ a, Configured env t a ↔ Configured env s a ∨
      (L3Key.addr a ∈ s.cache.cache ∧ a.ifindex ∈ b :: s.getVlanLinks env b) ∧
        Wanted env (some b) a := hconf
  have hold : ∀ a, Configured env s a → Wanted env none a := fun a ha => hb ▸ h.wanted a ha
  constructor
  case keyed => rw [hcache]; exact h.keyed
  case fits => rw [hcache]; exact h.fits
  case nested => rw [hcache]; exact h.nested
  case final => rw [hcache]; exact h.final
  case plain => rw [hcache]; exact h.plain
  case bridge => rw [hbridge]; simpa using h0
  case hosts => exact hhosts h.hosts
  case wanted =>
    intro a ha
    rw [hbridge]
    rcases (hconf a).mp ha with ha | ha
    · exact (hold a ha).follow b
    · exact ha.2
  case quiet =>
    intro a ha hq
    rw [hbridge] at ha
    rw [hcache] at hq ⊢
    rw [hconf]
    constructor
    · rintro (hc | hc)
      · exact (h.quiet a (h.wanted a hc) hq).mp hc
      · exact hc.1.1
    · intro hc
      by_cases hw : Wanted env none a
      · exact .inl ((h.quiet a (hb ▸ hw) hq).mpr hc)
      · exact .inr ⟨⟨hc, mem_scanned_links h hc (base_of_wanted ha hw)⟩, ha⟩

/-! ## Steps -/

/-- More notes. -/
theorem addrInv_note (h : AddrInv env s) {c : AheadCache L3Key L3Obj} (hkeyed : c.Keyed L3Obj.key)
    (hfits : c.Inv) (hnested : AheadCache.Nested (parents env) c.seen c.pending)
    (hfinal : c.Final IsLink) (hplain : c.All (Plain env))
    (hquiet : ∀ k, c.Quiet k → s.cache.Quiet k ∧ (k ∈ c.cache ↔ k ∈ s.cache.cache)) :
    AddrInv env { s with cache := c } where
  keyed := hkeyed
  fits := hfits
  nested := hnested
  final := hfinal
  plain := hplain
  bridge := h.bridge
  quiet a ha hq := by
    obtain ⟨hqs, hmem⟩ := hquiet _ hq
    exact (h.quiet a ha hqs).trans hmem.symm
  wanted := h.wanted
  hosts := h.hosts

variable {n : CacheNote L3Key L3Obj} {l : List (CacheNote L3Key L3Obj)}

/-- The notes that wait after one is handled. -/
theorem quiet_of_handle (hl : s.cache.pending = n :: l) {k : L3Key}
    (hq : s.cache.handle.Quiet k) (hn : n.key = k → n.old ≠ none ∧ n.after ≠ none) :
    s.cache.Quiet k := by
  intro m hm hkey
  rw [hl] at hm
  rcases List.mem_cons.mp hm with rfl | hm
  · exact hn hkey
  · refine hq m ?_ hkey
    unfold AheadCache.handle
    rwa [hl]

/-- A note is handled, by what is configured then: the address of a note as the note says, all
others as before. -/
theorem addrInv_pop (h : AddrInv env s) (hl : s.cache.pending = n :: l)
    (hcache : t.cache = s.cache.handle) (hbridge : t.bridge = s.bridge) (hhosts : Hosts env t)
    (hwanted : ∀ b, Configured env t b → Wanted env s.bridge b)
    (hkey : ∀ b, Wanted env s.bridge b → n.key = .addr b → n.old = none ∨ n.after = none →
      (Configured env t b ↔ n.after ≠ none))
    (hother : ∀ b, (n.key = .addr b → n.old ≠ none ∧ n.after ≠ none) →
      (Configured env t b ↔ Configured env s b)) : AddrInv env t := by
  constructor
  case keyed => rw [hcache]; exact h.keyed.handle
  case fits => rw [hcache]; exact h.fits.handle
  case nested =>
    rw [hcache]
    exact (AheadCache.nested_step h.nested h.fits (e := .handle) trivial).2
  case final => rw [hcache]; exact h.final.handle
  case plain => rw [hcache]; exact h.plain.handle
  case bridge => rw [hbridge]; exact h.bridge
  case hosts => exact hhosts
  case wanted => rw [hbridge]; exact hwanted
  case quiet =>
    intro b hb hq
    rw [hbridge] at hb
    rw [hcache] at hq ⊢
    by_cases hn : n.key = .addr b → n.old ≠ none ∧ n.after ≠ none
    · rw [hother b hn, AheadCache.cache_handle]
      exact h.quiet b hb (quiet_of_handle hl hq hn)
    · rw [Classical.not_imp, not_and_or, not_not, not_not] at hn
      rw [hkey b hb hn.1 hn.2, h.fits.handle.mem_cache_iff hq, AheadCache.seen_handle hl,
        ← AList.lookup_isSome, CacheNote.lookup_apply, if_pos hn.1.symm, Option.isSome_iff_ne_none]

/-- A note that changes no address and no bridge. -/
theorem addrInv_other (h : AddrInv env s) (hl : s.cache.pending = n :: l)
    (hsame : SameButHeld s.popped t)
    (hn : ∀ a, n.key = .addr a → n.old ≠ none ∧ n.after ≠ none) : AddrInv env t := by
  have hconf : ∀ b, Configured env t b ↔ Configured env s b := hsame.configured
  refine addrInv_pop h hl hsame.cache hsame.bridge (fun x hx => h.hosts x (hsame.loHosts ▸ hx))
    (fun b hb => h.wanted b ((hconf b).mp hb)) (fun b _ hk hnone => ?_) fun b _ => hconf b
  obtain ⟨hold, hafter⟩ := hn b hk
  exact absurd hnone (not_or.mpr ⟨hold, hafter⟩)

/-- Whoever handles the note of an address finds its links. -/
theorem hasLink_popped (h : AddrInv env s) (hl : s.cache.pending = n :: l) {a : IfAddr}
    (ha : n.old = some (.addr a) ∨ n.after = some (.addr a)) :
    s.popped.hasLink a.ifindex = true ∧ s.popped.hasLink (base env a.ifindex) = true ∧
      Plain env (.addr a) := by
  have hlink : s.popped.hasLink a.ifindex = true :=
    hasLink_iff.mpr (AheadCache.find_parents h.nested h.fits hl ha List.mem_cons_self)
  refine ⟨hlink, hasLink_base (s := s.popped) h.keyed.handle h.fits.handle
    (AheadCache.nested_step h.nested h.fits (e := .handle) trivial).2 hlink, ?_⟩
  exact h.plain.pending n (hl ▸ List.mem_cons_self) (.addr a) ha

/-- The note of a new address. -/
theorem addrInv_new (h : AddrInv env s) {a : IfAddr}
    (hl : s.cache.pending = .new (.addr a) (.addr a) :: l) :
    AddrInv env (s.popped.addL3Addr env a) := by
  obtain ⟨hi, hb, hp⟩ := hasLink_popped h hl (.inr rfl)
  have hconf : ∀ b, Configured env (s.popped.addL3Addr env a) b ↔
      Configured env s b ∨ (b = a ∧ Wanted env s.bridge a) := configured_addL3Addr hi hb hp
  have hsame := sameButAddrs_addL3Addr env s.popped a
  refine addrInv_pop h hl hsame.cache hsame.bridge (Hosts.addL3Addr (s := s.popped) h.hosts hp)
    (fun b hb => ?_) (fun b hb hk _ => ?_) fun b hn => ?_
  · rcases (hconf b).mp hb with hb | ⟨rfl, hw⟩
    · exact h.wanted b hb
    · exact hw
  · obtain rfl : a = b := by simpa [CacheNote.key] using hk
    exact iff_of_true ((hconf a).mpr (.inr ⟨rfl, hb⟩)) (by simp [CacheNote.after])
  · rw [hconf b]
    refine or_iff_left ?_
    rintro ⟨rfl, -⟩
    exact (hn rfl).1 rfl

/-- The note of an address that is gone. -/
theorem addrInv_del (h : AddrInv env s) {a : IfAddr}
    (hl : s.cache.pending = .del (.addr a) (.addr a) :: l) :
    AddrInv env (s.popped.delL3Addr env a) := by
  obtain ⟨hi, hb, hp⟩ := hasLink_popped h hl (.inl rfl)
  have hconf : ∀ b, Configured env (s.popped.delL3Addr env a) b ↔ Configured env s b ∧ b ≠ a :=
    configured_delL3Addr hi hb hp (h.wanted a)
  have hsame := sameButAddrs_delL3Addr env s.popped a
  refine addrInv_pop h hl hsame.cache hsame.bridge (Hosts.delL3Addr (s := s.popped) h.hosts a)
    (fun b hb => h.wanted b ((hconf b).mp hb).1) (fun b _ hk _ => ?_) fun b hn => ?_
  · obtain rfl : a = b := by simpa [CacheNote.key] using hk
    exact iff_of_false (fun hc => ((hconf a).mp hc).2 rfl) (by simp [CacheNote.after])
  · rw [hconf b]
    refine and_iff_left ?_
    rintro rfl
    exact (hn rfl).2 rfl

/-- The deletion of the bridge: no address over it is left. -/
theorem addrInv_bridge (h : AddrInv env s) {b : Int} {old : L3Obj}
    (hl : s.cache.pending = .del (.link b) old :: l) (hb : s.bridge = some b) :
    AddrInv env { s.popped with bridge := none } := by
  have hkept : AddrInv env s.popped :=
    addrInv_other h hl (.refl s.popped) fun a hk => by cases hk
  have hgone : s.cache.handle.find (.link b) = none := h.final.find_handle h.fits hl trivial rfl
  have hnone : ∀ a, Configured env s.popped a → Wanted env none a := by
    intro a ha
    have hw : Wanted env (some b) a := hb ▸ hkept.wanted a ha
    by_contra hnot
    have hbase := base_of_wanted hw hnot
    -- Its link would be found, and the bridge below that.
    have hfind : s.cache.handle.find (.addr a) = none := by
      by_contra hfind
      have hlink := hasLink_of_addr (s := s.popped) hkept.keyed hkept.fits hkept.nested hfind
      have hbridge := hasLink_base hkept.keyed hkept.fits hkept.nested hlink
      rw [hbase] at hbridge
      exact hasLink_iff.mp hbridge hgone
    -- No note of the address waits, and it is not in the cache.
    have hq : s.cache.handle.Quiet (.addr a) := by
      intro n hn hkey
      exact absurd (hkey ▸ hfind) (AheadCache.find_of_note h.fits.handle hn)
    have hmem := (hkept.quiet a (hkept.wanted a ha) hq).mp ha
    exact AheadCache.find_ne_none_iff_or.mpr (.inl hmem) hfind
  refine ⟨hkept.keyed, hkept.fits, hkept.nested, hkept.final, hkept.plain, by simp,
    fun a ha hq => ?_, hnone, hkept.hosts⟩
  refine hkept.quiet a ?_ hq
  change Wanted env s.bridge a
  rw [hb]
  exact ha.follow b

theorem addrInv_handle (h : AddrInv env s) (hl : s.cache.pending = n :: l)
    (ht : handleNote env fib s.popped n = some t) : AddrInv env t := by
  have hobj : ∀ o, n.old = some o ∨ n.after = some o → o.key = n.key :=
    h.keyed.pending n (hl ▸ List.mem_cons_self)
  cases n with
  | new k o =>
    obtain rfl : o.key = k := hobj o (.inr rfl)
    cases o with
    | link i =>
      cases ht
      exact addrInv_other h hl (.refl _) fun a hk => by cases hk
    | route r =>
      obtain rfl := addL3Route_eq ht
      exact addrInv_other h hl (sameButHeld_hold _ _ _ _) fun a hk => by cases hk
    | addr a =>
      cases ht
      exact addrInv_new h hl
  | change k old new =>
    have hsame : SameButHeld s.popped t := by
      cases old with
      | link | addr =>
        cases ht
        exact .refl _
      | route r =>
        cases new with
        | link | addr =>
          cases ht
          exact .refl _
        | route r' => exact sameButHeld_updateL3Route ht
    exact addrInv_other h hl hsame fun _ _ =>
      ⟨by simp [CacheNote.old], by simp [CacheNote.after]⟩
  | del k old =>
    obtain rfl : old.key = k := hobj old (.inl rfl)
    cases old with
    | route r =>
      obtain rfl := delL3Route_eq ht
      exact addrInv_other h hl (sameButHeld_hold _ _ _ _) fun a hk => by cases hk
    | addr a =>
      cases ht
      exact addrInv_del h hl
    | link i =>
      have ht : (if s.bridge = some i then { s.popped with bridge := none } else s.popped) = t :=
        Option.some.inj ht
      split_ifs at ht with hb
      · exact ht ▸ addrInv_bridge h hl hb
      · exact ht ▸ addrInv_other h hl (.refl _) fun a hk => by cases hk

theorem addrInv_exec (h : AddrInv env s) {e : Ev} (he : s.EvAllowed env e)
    (ht : exec env s e = some t) : AddrInv env t := by
  cases e with
  | report o =>
    cases ht
    obtain ⟨hallowed, hplain, hfinal⟩ := he
    refine addrInv_note h (h.keyed.put o) (h.fits.put o.key o)
      (AheadCache.nested_step h.nested h.fits hallowed).2 (h.final.put fun hlink m hm hkey => ?_)
      (h.plain.put hplain) fun k hq => AheadCache.quiet_put hq
    cases o with
    | addr | route => cases hlink
    | link i =>
      cases m with
      | new | change => simp [CacheNote.after]
      | del k old =>
        obtain rfl : k = .link i := hkey
        exact absurd hm (hfinal i rfl old)
  | gone k =>
    cases ht
    exact addrInv_note h (h.keyed.remove k) (h.fits.remove k)
      (AheadCache.nested_step h.nested h.fits (e := .remove k) he).2 (h.final.remove h.fits k)
      h.plain.remove fun _ hq => AheadCache.quiet_remove hq
  | newBridge b fib =>
    simp only [exec] at ht
    split_ifs at ht with hb
    · exact addrInv_newBridge h hb.1 he ht
    · cases ht
      exact h
  | handle fib =>
    simp only [exec] at ht
    cases hl : s.cache.pending with
    | nil =>
      simp only [hl] at ht
      cases ht
      exact h
    | cons n l =>
      simp only [hl] at ht
      exact addrInv_handle h hl ht

/-- The caches when the switch connects. There is no port yet, and so no address on one. The IPv6
hosts that the loopback has then are not looked for. -/
structure Start (env : LateEnv) (w : Table L3Key L3Obj) : Prop where
  keyed : ∀ k o, w.lookup k = some o → o.key = k
  closed : AheadCache.Closed (parents env) w
  plain : ∀ k o, w.lookup k = some o → Plain env o
  offSwitch : ∀ a, L3Key.addr a ∈ w → a.ifindex ≠ env.lo → env.onPort (base env a.ifindex) = false
  lo : env.lo = 1
  noInet6 : ∀ a, L3Key.addr a ∈ w → a.ifindex = env.lo → IsLoHost a → a.loc.addr.isInet = true

/-- The caches as `nl_l3::init` finds them. -/
theorem found_start {w : Table L3Key L3Obj} (hw : Start env w) :
    Found env { cache := { seen := w, cache := w } } := by
  have hkeyed : AheadCache.Keyed L3Obj.key { seen := w, cache := w } :=
    ⟨hw.keyed, fun n hn => (List.not_mem_nil hn).elim, hw.keyed⟩
  have hlink : ∀ a, L3Key.addr a ∈ w →
      hasLink { cache := { seen := w, cache := w } } a.ifindex = true := fun a ha =>
    hasLink_of_addr (s := { cache := { seen := w, cache := w } }) hkeyed rfl hw.closed
      (AheadCache.find_ne_none_iff_or.mpr (.inl ha))
  refine ⟨hkeyed, hlink, fun a ha => ?_, fun a ha => ?_⟩
  · exact hasLink_base (s := { cache := { seen := w, cache := w } }) hkeyed rfl hw.closed
      (hlink a ha)
  · exact hw.plain _ _ (mem_cache_of_addr (s := { cache := { seen := w, cache := w } }) hkeyed ha)

theorem addrInv_init {w : Table L3Key L3Obj} (hw : Start env w) : AddrInv env (init env w) := by
  have hfound := found_start hw
  have hadded : Added env (fun a => (L3Key.addr a ∈ w ∧ a.ifindex = 1) ∧ a.loc.addr.isInet = true)
      { cache := { seen := w, cache := w } } (init env w) := by
    refine (added_foldl hfound fun a ha => ?_).imp fun a => ?_
    · exact ((mem_getL3Addrs hfound.keyed).mp (List.mem_of_mem_filter ha)).1
    · rw [List.mem_filter, mem_getL3Addrs hfound.keyed]
  have hconf : ∀ a, Configured env (init env w) a ↔
      ((L3Key.addr a ∈ w ∧ a.ifindex = 1) ∧ a.loc.addr.isInet = true) ∧ Wanted env none a := by
    intro a
    rw [hadded.configured]
    refine or_iff_right fun hnone => ?_
    unfold Configured at hnone
    split_ifs at hnone
    · exact absurd hnone.2 (Finset.notMem_empty _)
    · exact absurd hnone (Finset.notMem_empty _)
  constructor
  case keyed => rw [hadded.cache]; exact hfound.keyed
  case fits => rw [hadded.cache]; rfl
  case nested => rw [hadded.cache]; exact hw.closed
  case final => rw [hadded.cache]; exact List.Pairwise.nil
  case plain =>
    rw [hadded.cache]
    exact ⟨hw.plain, fun n hn => (List.not_mem_nil hn).elim, hw.plain⟩
  case bridge => rw [hadded.bridge]; simp
  case hosts => exact hadded.hosts fun h hh => absurd hh (Finset.notMem_empty h)
  case wanted =>
    rw [hadded.bridge]
    exact fun a ha => ((hconf a).mp ha).2
  case quiet =>
    intro a ha _
    rw [hadded.bridge] at ha
    rw [hconf a, hadded.cache]
    refine ⟨fun h => h.1.1.1, fun hc => ?_⟩
    have hwanted := ha
    unfold Wanted at ha
    split_ifs at ha with hlo
    · exact ⟨⟨⟨hc, hlo.trans hw.lo⟩, hw.noInet6 a hc hlo ha⟩, hwanted⟩
    · -- No address is on a port yet.
      rw [ours, hw.offSwitch a hc hlo] at ha
      simp at ha

/-- `10.255.0.1/32` on the loopback. -/
def loAddr : IfAddr where
  ifindex := 1
  loc := { addr := .inet 0x0aff0001, len := 32 }
  prefixlen := 32

/-- `10.0.0.1/24` on the VLAN interface. -/
def vlanAddr : IfAddr where
  ifindex := 11
  loc := { addr := .inet 0x0a000001, len := 24 }
  prefixlen := 24

/-- The loopback with its address, the bridge and its VLAN interface. -/
def loAndBridge : Table L3Key L3Obj :=
  ((((∅ : Table L3Key L3Obj).insert (.link 1) (.link 1)).insert (.addr loAddr)
    (.addr loAddr)).insert (.link 10) (.link 10)).insert (.link 11) (.link 11)

theorem loAndBridge_start : Start bridgeWithVlan loAndBridge := by
  have hkeyed : ∀ x ∈ loAndBridge.entries, x.2.key = x.1 := by decide
  have hclosed : ∀ x ∈ loAndBridge.entries, ∀ p ∈ parents bridgeWithVlan x.2, p ∈ loAndBridge := by
    decide
  have hkeyed : ∀ k o, loAndBridge.lookup k = some o → o.key = k := fun k o h =>
    hkeyed ⟨k, o⟩ (AList.mem_lookup_iff.mp h)
  have haddr : ∀ a, L3Key.addr a ∈ loAndBridge → a = loAddr := by
    intro a ha
    simp only [loAndBridge, AList.mem_insert, reduceCtorEq, false_or, L3Key.addr.injEq] at ha
    exact ha.resolve_right (AList.notMem_empty _)
  refine ⟨hkeyed, fun k o h => hclosed ⟨k, o⟩ (AList.mem_lookup_iff.mp h), fun k o h => ?_,
    fun _ _ _ => rfl, rfl, fun a ha _ _ => ?_⟩
  · cases o with
    | link | route => trivial
    | addr a =>
      obtain rfl : L3Key.addr a = k := hkeyed k _ h
      rw [haddr a (Table.mem_iff_lookup.mpr ⟨_, h⟩)]
      exact fun _ => rfl
  · rw [haddr a ha]
    rfl

/-- An address that is reported before the bridge is found is added twice. -/
def lateAddr : List Ev := [.report (.addr vlanAddr), .newBridge 10 noFib, .handle noFib]

end Addrs

end LateL3

end Basebox
