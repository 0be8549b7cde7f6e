import WireproxyAwg.Relay.Pool

/-!
# Capacity eviction

`cleanupOldestLocked(5)` scans the map once, in whatever order Go picks, with a
buffer of five keys: the first five fill it, and every later key replaces the
*first* buffered key that was used more recently than it. Then the buffered keys
are evicted.

Two things are proved about it here, for every order and every set of
timestamps. It evicts exactly five entries once the pool holds more than five;
and the least recently used entry is always one of them. What it does not do is
what its comment says, remove the oldest connections: a key can push a fresh
entry out of the buffer while a still fresher one stays in a later slot, and the
pushed-out entry is then kept although it is older than one that goes.
`cleanupOldestLocked_keeps_older` is such a run.

The age eviction the janitor runs, `Cleanup(maxAge)`, does what it says for every
order: it removes exactly the entries idle for more than `maxAge` and no other.

The first half is about `evictKey`, the block all three removal paths share.
-/

namespace WireproxyAwg.Relay

open WireproxyAwg.Go

namespace UDPConnectionPool

variable (p : UDPConnectionPool)

/-! ## `evictKey` -/

theorem evictKey_connections_of_mem {key : String} {a : Nat} (h : p.connections.lookup key = some a) :
    (p.evictKey key).connections = p.connections.erase key := by
  simp [evictKey, h, update]

theorem evictKey_connections_of_not_mem {key : String} (h : key ∉ p.connections) :
    (p.evictKey key).connections = p.connections := by
  simp [evictKey, AList.lookup_eq_none.mpr h]

@[simp] theorem evictKey_maxSize (key : String) : (p.evictKey key).maxSize = p.maxSize := by
  unfold evictKey; split <;> rfl

theorem lookup_evictKey (key k : String) :
    (p.evictKey key).connections.lookup k = if k = key then none else p.connections.lookup k := by
  cases h : p.connections.lookup key with
  | none =>
    rw [evictKey_connections_of_not_mem p (AList.lookup_eq_none.mp h)]
    split
    · subst k; exact h
    · rfl
  | some a =>
    rw [evictKey_connections_of_mem p h]
    split
    · subst k; exact AList.lookup_erase _ _
    · exact AList.lookup_erase_ne ‹_›

theorem mem_evictKey {key k : String} : k ∈ (p.evictKey key).connections ↔ k ≠ key ∧ k ∈ p.connections := by
  rw [← AList.lookup_isSome, ← AList.lookup_isSome, lookup_evictKey]
  split <;> simp_all

theorem evictKey_size_of_mem {key : String} (h : key ∈ p.connections) :
    (p.evictKey key).connections.keys.length + 1 = p.connections.keys.length ∧
      (p.evictKey key).currentSize = p.currentSize - 1 := by
  obtain ⟨a, ha⟩ := Option.isSome_iff_exists.mp (AList.lookup_isSome.mpr h)
  rw [evictKey_connections_of_mem p ha, AList.keys_erase,
    List.length_erase_of_mem (AList.mem_keys.mp h)]
  have : 0 < p.connections.keys.length := List.length_pos_of_mem (AList.mem_keys.mp h)
  exact ⟨by omega, by simp [evictKey, ha]⟩

/-- Evictions only ever remove keys. -/
theorem mem_of_mem_foldl_evictKey {k : String} (ks : List String)
    (h : k ∈ (ks.foldl evictKey p).connections) : k ∈ p.connections := by
  induction ks generalizing p with
  | nil => exact h
  | cons key ks ih => exact ((p.mem_evictKey).mp (ih (p.evictKey key) h)).2

theorem mem_of_mem_cleanupOldestLocked {k : String} {count : Nat} {order : List String}
    (h : k ∈ (p.cleanupOldestLocked count order).connections) : k ∈ p.connections := by
  unfold cleanupOldestLocked at h
  split at h
  · exact h
  · exact p.mem_of_mem_foldl_evictKey _ h

/-- Evicting a list of distinct present keys removes exactly those keys. -/
theorem foldl_evictKey (ks : List String) (hnd : ks.Nodup) (hmem : ∀ k ∈ ks, k ∈ p.connections) :
    (ks.foldl evictKey p).connections.keys.length + ks.length = p.connections.keys.length ∧
      (ks.foldl evictKey p).currentSize = p.currentSize - ks.length ∧
      ∀ k, (ks.foldl evictKey p).connections.lookup k =
        if k ∈ ks then none else p.connections.lookup k := by
  induction ks generalizing p with
  | nil => simp
  | cons key ks ih =>
    rw [List.nodup_cons] at hnd
    have hkey := hmem key (List.mem_cons_self _ _)
    obtain ⟨hlen, hsize⟩ := p.evictKey_size_of_mem hkey
    obtain ⟨ih1, ih2, ih3⟩ := ih (p.evictKey key) hnd.2 fun k hk =>
      (p.mem_evictKey).mpr ⟨fun e => hnd.1 (e ▸ hk), hmem k (List.mem_cons_of_mem _ hk)⟩
    refine ⟨by simp only [List.foldl_cons, List.length_cons]; omega,
      by simp only [List.foldl_cons, List.length_cons, ih2, hsize]; omega, fun k => ?_⟩
    rw [List.foldl_cons, ih3, lookup_evictKey]
    by_cases h1 : k = key <;> by_cases h2 : k ∈ ks <;> simp [h1, h2]

end UDPConnectionPool

/-! ## The scan -/

section Scan

variable (f : String → Int) (count : Nat)

theorem length_replaceFirstNewer (k : String) (l : List String) :
    (replaceFirstNewer f k l).length = l.length := by
  induction l with
  | nil => rfl
  | cons old rest ih => unfold replaceFirstNewer; split <;> simp [ih]

theorem mem_of_mem_replaceFirstNewer {k x : String} {l : List String}
    (h : x ∈ replaceFirstNewer f k l) : x = k ∨ x ∈ l := by
  induction l with
  | nil => simp [replaceFirstNewer] at h
  | cons old rest ih =>
    unfold replaceFirstNewer at h
    split at h <;> simp only [List.mem_cons] at h
    · rcases h with h | h <;> simp [h]
    · rcases h with h | h
      · simp [h]
      · rcases ih h with h | h <;> simp [h]

theorem nodup_replaceFirstNewer {k : String} {l : List String} (hk : k ∉ l) (hl : l.Nodup) :
    (replaceFirstNewer f k l).Nodup := by
  induction l with
  | nil => simp [replaceFirstNewer]
  | cons old rest ih =>
    rw [List.nodup_cons] at hl
    simp only [List.mem_cons, not_or] at hk
    unfold replaceFirstNewer
    split
    · exact List.nodup_cons.mpr ⟨hk.2, hl.2⟩
    · refine List.nodup_cons.mpr ⟨fun hm => ?_, ih hk.2 hl.2⟩
      rcases mem_of_mem_replaceFirstNewer f hm with h | h
      · exact hk.1 h.symm
      · exact hl.1 h

/-- A buffered key survives a round unless the new key is strictly older than it. -/
theorem mem_replaceFirstNewer_of_not_lt {k y : String} {l : List String} (hy : y ∈ l)
    (h : ¬f k < f y) : y ∈ replaceFirstNewer f k l := by
  induction l with
  | nil => simp at hy
  | cons old rest ih =>
    unfold replaceFirstNewer
    rcases List.mem_cons.mp hy with rfl | hy
    · simp [h]
    · split <;> simp [hy, ih hy]

/-- A key strictly older than some buffered key always enters the buffer. -/
theorem mem_replaceFirstNewer_of_lt {k y : String} {l : List String} (hy : y ∈ l)
    (h : f k < f y) : k ∈ replaceFirstNewer f k l := by
  induction l with
  | nil => simp at hy
  | cons old rest ih =>
    unfold replaceFirstNewer
    split
    · simp
    · rcases List.mem_cons.mp hy with rfl | hy
      · contradiction
      · simp [ih hy]

/-- The scan keeps a duplicate-free buffer of keys it has seen, as long as it can fill. -/
theorem foldl_pickOldest_spec (order acc : List String) (hacc : acc.Nodup)
    (hdisj : ∀ x ∈ acc, x ∉ order) (hord : order.Nodup) (hlen : acc.length ≤ count) :
    (order.foldl (pickOldest f count) acc).Nodup ∧
      (∀ x ∈ order.foldl (pickOldest f count) acc, x ∈ acc ∨ x ∈ order) ∧
      (order.foldl (pickOldest f count) acc).length = min count (acc.length + order.length) := by
  induction order generalizing acc with
  | nil => simp only [List.foldl_nil, List.length_nil, Nat.add_zero]; exact ⟨hacc, by simp, by omega⟩
  | cons k rest ih =>
    rw [List.nodup_cons] at hord
    have hk : k ∉ acc := fun h => hdisj k h (List.mem_cons_self _ _)
    have hstep : (pickOldest f count acc k).Nodup ∧ (∀ x ∈ pickOldest f count acc k, x = k ∨ x ∈ acc) ∧
        (pickOldest f count acc k).length = min count (acc.length + 1) := by
      unfold pickOldest
      split
      · exact ⟨List.nodup_append.mpr ⟨hacc, List.nodup_singleton _, by simpa using hk⟩,
          fun x hx => (List.mem_append.mp hx).elim .inr (.inl ∘ List.mem_singleton.mp), by simp; omega⟩
      · exact ⟨nodup_replaceFirstNewer f hk hacc, fun x hx => mem_of_mem_replaceFirstNewer f hx,
          by rw [length_replaceFirstNewer]; omega⟩
    obtain ⟨h1, h2, h3⟩ := hstep
    have hdisj' : ∀ x ∈ pickOldest f count acc k, x ∉ rest := fun x hx hr => by
      rcases h2 x hx with rfl | h
      · exact hord.1 hr
      · exact hdisj x h (List.mem_cons_of_mem _ hr)
    obtain ⟨r1, r2, r3⟩ := ih _ h1 hdisj' hord.2 (by omega)
    refine ⟨r1, fun x hx => ?_, by rw [List.foldl_cons, r3, h3, List.length_cons]; omega⟩
    rcases r2 x hx with h | h
    · rcases h2 x h with rfl | h <;> simp [h]
    · simp [h]

/-- The buffer always holds a key no younger than every key scanned so far. -/
theorem foldl_pickOldest_min (order acc seen : List String)
    (hmin : ∃ x ∈ acc, ∀ y ∈ seen, f x ≤ f y) :
    ∃ x ∈ order.foldl (pickOldest f count) acc, ∀ y ∈ seen ++ order, f x ≤ f y := by
  induction order generalizing acc seen with
  | nil => simpa using hmin
  | cons k rest ih =>
    obtain ⟨x, hx, hxmin⟩ := hmin
    have := ih (pickOldest f count acc k) (seen ++ [k]) ?_
    · simpa using this
    unfold pickOldest
    by_cases hkx : f k < f x
    · refine ⟨k, ?_, fun y hy => ?_⟩
      · split
        · simp
        · exact mem_replaceFirstNewer_of_lt f hx hkx
      · rcases List.mem_append.mp hy with hy | hy
        · exact le_trans (le_of_lt hkx) (hxmin y hy)
        · rw [List.mem_singleton.mp hy]
    · refine ⟨x, ?_, fun y hy => ?_⟩
      · split
        · simp [hx]
        · exact mem_replaceFirstNewer_of_not_lt f hx hkx
      · rcases List.mem_append.mp hy with hy | hy
        · exact hxmin y hy
        · simp at hy; subst hy; omega

end Scan

/-! ## What `cleanupOldestLocked` removes -/

namespace UDPConnectionPool

variable (p : UDPConnectionPool)

theorem scanOldest_spec {count : Nat} {order : List String} (horder : order.Perm p.connections.keys) :
    (scanOldest p.lastUsedOf count order).Nodup ∧
      (∀ k ∈ scanOldest p.lastUsedOf count order, k ∈ p.connections) ∧
      (scanOldest p.lastUsedOf count order).length = min count p.connections.keys.length := by
  obtain ⟨h1, h2, h3⟩ := foldl_pickOldest_spec p.lastUsedOf count order [] List.nodup_nil (by simp)
    (horder.nodup_iff.mpr p.connections.keys_nodup) (Nat.zero_le _)
  refine ⟨h1, fun k hk => ?_, by rw [scanOldest, h3, horder.length_eq]; simp⟩
  rcases h2 k hk with h | h
  · simp at h
  · exact AList.mem_keys.mpr (horder.subset h)

/-- Once the pool holds more than `count` entries, the eviction removes exactly `count` of them,
the scanned keys, and leaves every other entry as it was. -/
theorem cleanupOldestLocked_removes (count : Nat) {order : List String}
    (hsize : p.currentSize = p.connections.keys.length) (hbig : (count : Int) < p.currentSize)
    (horder : order.Perm p.connections.keys) :
    (p.cleanupOldestLocked count order).connections.keys.length + count = p.connections.keys.length ∧
      (p.cleanupOldestLocked count order).currentSize = p.currentSize - count ∧
      ∀ k, (p.cleanupOldestLocked count order).connections.lookup k =
        if k ∈ scanOldest p.lastUsedOf count order then none else p.connections.lookup k := by
  obtain ⟨hnd, hmem, hlen⟩ := p.scanOldest_spec horder
  have hmin : min count p.connections.keys.length = count := by omega
  obtain ⟨r1, r2, r3⟩ := p.foldl_evictKey _ hnd hmem
  rw [hlen, hmin] at r1 r2
  simp only [cleanupOldestLocked, if_neg (show ¬p.currentSize ≤ count by omega)]
  exact ⟨r1, r2, r3⟩

/-- **Capacity eviction removes five entries, the least recently used among them.** For every
pool whose counter matches its map and holds more than five entries, every iteration order and
every set of timestamps, `cleanupOldestLocked(5)` removes exactly five entries, leaves every
other entry untouched, and one of the entries it removes is used no later than any entry of
the pool. -/
theorem cleanupOldestLocked_evicts_five_with_oldest (order : List String)
    (hsize : p.currentSize = p.connections.keys.length) (hbig : 5 < p.currentSize)
    (horder : order.Perm p.connections.keys) :
    (p.cleanupOldestLocked 5 order).connections.keys.length + 5 = p.connections.keys.length ∧
      (∀ k ∈ (p.cleanupOldestLocked 5 order).connections,
        (p.cleanupOldestLocked 5 order).connections.lookup k = p.connections.lookup k) ∧
      ∃ r ∈ p.connections, r ∉ (p.cleanupOldestLocked 5 order).connections ∧
        ∀ k ∈ p.connections, p.lastUsedOf r ≤ p.lastUsedOf k := by
  obtain ⟨h1, -, h3⟩ := p.cleanupOldestLocked_removes 5 hsize (by exact_mod_cast hbig) horder
  refine ⟨h1, fun k hk => ?_, ?_⟩
  · rw [h3]
    have := AList.lookup_isSome.mpr hk
    rw [h3] at this
    split at this
    · simp at this
    · rw [if_neg ‹_›]
  -- the first key scanned fills the buffer; the minimum then never leaves it
  obtain ⟨k0, rest, hcons⟩ : ∃ k0 rest, order = k0 :: rest := by
    cases order with
    | nil => have := horder.length_eq; simp at this; omega
    | cons k0 rest => exact ⟨k0, rest, rfl⟩
  obtain ⟨r, hr, hrmin⟩ := foldl_pickOldest_min p.lastUsedOf 5 rest [k0] [k0]
    ⟨k0, List.mem_singleton_self _, fun y hy => by simp at hy; simp [hy]⟩
  have hscan : scanOldest p.lastUsedOf 5 order = rest.foldl (pickOldest p.lastUsedOf 5) [k0] := by
    subst hcons; simp [scanOldest, pickOldest]
  rw [← hscan] at hr
  refine ⟨r, (p.scanOldest_spec horder).2.1 r hr, fun hk => ?_, fun k hk => hrmin k ?_⟩
  · have := AList.lookup_isSome.mpr hk
    rw [h3, if_pos hr] at this
    exact absurd this (by simp)
  · rw [List.singleton_append, ← hcons]; exact horder.symm.subset (AList.mem_keys.mp hk)

/-- Six associations, registered at times 60, 100, 1, 2, 3 and 50 under keys `a` to `f`. -/
def sixEntryPool : UDPConnectionPool :=
  let c := newUDPConnection 0 ⟨[127, 0, 0, 1], 40000, ""⟩ ⟨[10, 0, 0, 1], 53, ""⟩ [10, 0, 0, 1]
  ((((((NewUDPConnectionPool 1000).Set "a" c 60 []).Set "b" c 100 []).Set "c" c 1 []).Set "d" c 2 []).Set
    "e" c 3 []).Set "f" c 50 []

/-- Scanning `a` to `f` in order, `f` (time 50) pushes `a` (time 60) out of the buffer while `b`
(time 100) stays in it: `b` is evicted and the older `a` is kept. -/
theorem cleanupOldestLocked_keeps_older :
    ¬∀ (p : UDPConnectionPool) (order : List String), p.currentSize = p.connections.keys.length →
      5 < p.currentSize → order.Perm p.connections.keys →
      (p.cleanupOldestLocked 5 order).connections.keys.length + 5 = p.connections.keys.length ∧
      ∀ r k, r ∈ p.connections → r ∉ (p.cleanupOldestLocked 5 order).connections →
        k ∈ (p.cleanupOldestLocked 5 order).connections → ¬p.lastUsedOf k < p.lastUsedOf r := fun h =>
  (h sixEntryPool ["a", "b", "c", "d", "e", "f"] (by decide) (by decide) (by decide)).2 "b" "a"
    (by decide) (by decide) (by decide) (by decide)

/-! ## What `Cleanup` removes -/

/-- **The janitor removes exactly the idle entries.** For every iteration order of the map,
`Cleanup(maxAge)` unregisters every key whose entry was last used more than `maxAge` before
`now`, leaves every other key's entry as it was, and counts down once per removed entry. -/
theorem Cleanup_removes_idle (maxAge now : Int) {order : List String} (horder : order.Perm p.connections.keys) :
    (∀ k, (p.Cleanup maxAge now order).connections.lookup k =
      if now - p.lastUsedOf k > maxAge then none else p.connections.lookup k) ∧
    (p.Cleanup maxAge now order).currentSize =
      p.currentSize - (p.connections.keys.filter fun k => now - p.lastUsedOf k > maxAge).length := by
  have hnd : (order.filter fun k => now - p.lastUsedOf k > maxAge).Nodup :=
    (horder.nodup_iff.2 p.connections.keys_nodup).filter _
  have hmem : ∀ k ∈ order.filter (fun k => now - p.lastUsedOf k > maxAge), k ∈ p.connections :=
    fun k hk => AList.mem_keys.1 (horder.subset (List.mem_of_mem_filter hk))
  obtain ⟨-, hsize, hlook⟩ := p.foldl_evictKey _ hnd hmem
  refine ⟨fun k => ?_, by rw [Cleanup, cleanupOldLocked, hsize, (horder.filter _).length_eq]⟩
  rw [Cleanup, cleanupOldLocked, hlook]
  by_cases hk : k ∈ p.connections
  · simp only [List.mem_filter, horder.mem_iff, decide_eq_true_eq]
    exact if_congr (and_iff_right (AList.mem_keys.2 hk)) rfl rfl
  · simp [AList.lookup_eq_none.2 hk]

/-- With `a` to `f` last used at 60, 100, 1, 2, 3 and 50, `Cleanup(40)` at time 100 removes `c`,
`d`, `e` and `f`, idle for more than 40, and keeps `a` and `b`. -/
theorem Cleanup_removes_idle_sixEntryPool :
    ["a", "b", "c", "d", "e", "f"].Perm sixEntryPool.connections.keys ∧
      (∀ k, (sixEntryPool.Cleanup 40 100 ["a", "b", "c", "d", "e", "f"]).connections.lookup k =
        if 100 - sixEntryPool.lastUsedOf k > 40 then none else sixEntryPool.connections.lookup k) ∧
      (sixEntryPool.Cleanup 40 100 ["a", "b", "c", "d", "e", "f"]).currentSize =
        sixEntryPool.currentSize -
          (sixEntryPool.connections.keys.filter fun k => 100 - sixEntryPool.lastUsedOf k > 40).length :=
  ⟨by decide, Cleanup_removes_idle sixEntryPool 40 100 (by decide)⟩

end UDPConnectionPool

end WireproxyAwg.Relay
