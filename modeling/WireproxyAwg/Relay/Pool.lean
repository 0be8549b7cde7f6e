import WireproxyAwg.Go.Net

/-!
# The connection pool and the DNS cache

`UDPConnectionPool` and `DNSCache` from `socks5_udp.go`. Each method is one
function here, run under the lock the Go method takes, so one call is one
atomic step of the relay in `Relay/System.lean`.

Pointers are heap addresses. `connections` maps a key to the address of its
`*UDPConnection`, and `conns` holds every `UDPConnection` ever registered, so an
association that has been evicted is still there to be looked at: closed, with
its shutdown signal sent. Two ghost fields record what the pool did to it.

Go ranges over a map in an order it randomises on purpose. Every loop over
`connections` therefore takes the iteration order as an argument, and the relay
may pass any permutation of the keys.

Times are `time.Time` as nanoseconds; durations are differences of them.
-/

namespace WireproxyAwg.Relay

open WireproxyAwg.Go

/-- One second, in the nanoseconds `time.Duration` counts. -/
def second : Int := 1000000000

/-! ## Associations -/

/-- A `UDPConnection` with the tunnel connection it owns. -/
structure UDPConnection where
  lastUsed : Int
  client : UDPAddr
  targetAddr : UDPAddr
  resolvedIP : IP
  /-- Values buffered in `readerDone`, a `chan bool` of capacity one. -/
  readerDone : Nat := 0
  /-- `conn.Close()` has run. -/
  closed : Bool := false
  /-- Ghost: how many times the pool has sent on `readerDone`. -/
  signals : Nat := 0
  deriving DecidableEq, Repr

/-- The composite literal of `createUDPConnectionAsync`: open, nothing signalled yet. -/
def newUDPConnection (now : Int) (client targetAddr : UDPAddr) (resolvedIP : IP) : UDPConnection :=
  { lastUsed := now, client, targetAddr, resolvedIP }

/-- `select { case conn.readerDone <- true: default: }` then `conn.conn.Close()`. -/
def UDPConnection.shutdown (c : UDPConnection) : UDPConnection :=
  { c with readerDone := if c.readerDone < 1 then c.readerDone + 1 else c.readerDone,
           closed := true, signals := c.signals + 1 }

/-! ## The DNS cache -/

/-- `cacheEntry`. -/
structure CacheEntry where
  ip : IP
  timestamp : Int
  deriving DecidableEq, Repr

/-- `DNSCache`. -/
structure DNSCache where
  cache : AList (fun _ : String => CacheEntry)
  ttl : Int

/-- `NewDNSCache(ttl)`. -/
def NewDNSCache (ttl : Int) : DNSCache := ⟨∅, ttl⟩

/-- The first IPv4 answer, else the first answer. -/
def pickIP (ips : List IP) : Option IP :=
  match ips.find? fun ip => ip.To4.isSome with
  | some ip => some ip
  | none => ips.head?

/-- `DNSCache.Resolve`: a fresh entry, or `net.LookupIP` (whose answer is `lookup`) and a
cache write. -/
def DNSCache.Resolve (d : DNSCache) (host : String) (now : Int) (lookup : Except String (List IP)) :
    DNSCache × Except String IP :=
  match d.cache.lookup host with
  | some e => if now - e.timestamp < d.ttl then (d, .ok e.ip) else miss
  | none => miss
where
  miss : DNSCache × Except String IP :=
    match lookup with
    | .error err => (d, .error ("DNS lookup failed for " ++ host ++ ": " ++ err))
    | .ok ips => match pickIP ips with
      | none => (d, .error ("no IP found for " ++ host))
      | some ip => ({ d with cache := d.cache.insert host ⟨ip, now⟩ }, .ok ip)

/-! ## The pool -/

/-- `UDPConnectionPool`; `mtu` is never read and is left out. -/
structure UDPConnectionPool where
  connections : AList (fun _ : String => Nat)
  /-- The heap of associations, by address. -/
  conns : List UDPConnection
  dnsCache : DNSCache
  maxSize : Int
  currentSize : Int
  /-- The keys stored in the `creationLock` `sync.Map`. -/
  creationLock : List String

/-- `NewUDPConnectionPool(maxSize, mtu)`. -/
def NewUDPConnectionPool (maxSize : Int) : UDPConnectionPool :=
  ⟨∅, [], NewDNSCache (5 * second), maxSize, 0, []⟩

namespace UDPConnectionPool

variable (p : UDPConnectionPool)

/-- The association at an address. -/
def conn (a : Nat) : Option UDPConnection := p.conns[a]?

/-- `p.connections[key].lastUsed`. -/
def lastUsedOf (key : String) : Int :=
  match p.connections.lookup key with
  | some a => ((p.conn a).map UDPConnection.lastUsed).getD 0
  | none => 0

/-- Write through the pointer at `a`. -/
def update (a : Nat) (f : UDPConnection → UDPConnection) : UDPConnectionPool :=
  { p with conns := p.conns.modify f a }

/-- `Get`: on a hit, `conn.lastUsed = time.Now()`. -/
def Get (key : String) (now : Int) : UDPConnectionPool × Option Nat :=
  match p.connections.lookup key with
  | some a => (p.update a fun c => { c with lastUsed := now }, some a)
  | none => (p, none)

/-- The block shared by `Delete` and both cleanups: signal, close, delete and count down if
`key` is present, then `p.creationLock.Delete(key)`. -/
def evictKey (key : String) : UDPConnectionPool :=
  let p := match p.connections.lookup key with
    | some a => { p.update a UDPConnection.shutdown with
        connections := p.connections.erase key, currentSize := p.currentSize - 1 }
    | none => p
  { p with creationLock := p.creationLock.filter (· ≠ key) }

/-- `Delete`. -/
def Delete (key : String) : UDPConnectionPool := p.evictKey key

/-- `cleanupOldLocked`: every entry idle for more than `maxAge`, in iteration order `order`. -/
def cleanupOldLocked (maxAge now : Int) (order : List String) : UDPConnectionPool :=
  (order.filter fun key => now - p.lastUsedOf key > maxAge).foldl evictKey p

/-- `Cleanup`. -/
def Cleanup (maxAge now : Int) (order : List String) : UDPConnectionPool :=
  p.cleanupOldLocked maxAge now order

end UDPConnectionPool

/-- The inner loop of `cleanupOldestLocked`: `key` replaces the first buffered key it is
strictly older than, if any. -/
def replaceFirstNewer (lastUsed : String → Int) (key : String) : List String → List String
  | [] => []
  | old :: rest => if lastUsed key < lastUsed old then key :: rest
                   else old :: replaceFirstNewer lastUsed key rest

/-- One round of the scan: fill the buffer, then only replace. -/
def pickOldest (lastUsed : String → Int) (count : Nat) (oldest : List String) (key : String) :
    List String :=
  if oldest.length < count then oldest ++ [key] else replaceFirstNewer lastUsed key oldest

/-- The keys `cleanupOldestLocked` chooses, scanning the map in order `order`. -/
def scanOldest (lastUsed : String → Int) (count : Nat) (order : List String) : List String :=
  order.foldl (pickOldest lastUsed count) []

namespace UDPConnectionPool

variable (p : UDPConnectionPool)

/-- `cleanupOldestLocked(count)`. -/
def cleanupOldestLocked (count : Nat) (order : List String) : UDPConnectionPool :=
  if p.currentSize ≤ count then p
  else (scanOldest p.lastUsedOf count order).foldl evictKey p

/-- `Set`: at capacity, evict up to five first; then register `conn` at a fresh address. -/
def Set (key : String) (conn : UDPConnection) (now : Int) (order : List String) : UDPConnectionPool :=
  let p := if p.currentSize ≥ p.maxSize then p.cleanupOldestLocked 5 order else p
  { p with conns := p.conns ++ [{ conn with lastUsed := now }],
           connections := p.connections.insert key p.conns.length,
           currentSize := p.currentSize + 1 }

/-- `creationLock.LoadOrStore(key, struct{}{})`: `true` when the key was already there. -/
def LoadOrStore (key : String) : UDPConnectionPool × Bool :=
  if key ∈ p.creationLock then (p, true) else ({ p with creationLock := key :: p.creationLock }, false)

/-- `creationLock.Delete(key)`. -/
def deleteMarker (key : String) : UDPConnectionPool :=
  { p with creationLock := p.creationLock.filter (· ≠ key) }

/-- `resolveTarget`: an IP literal is used as it is, anything else goes through the cache. -/
def resolveTarget (host : String) (port : UInt16) (now : Int) (lookup : Except String (List IP)) :
    UDPConnectionPool × Except String (String × IP) :=
  match ParseIP host with
  | some ip => (p, .ok (JoinHostPort host (itoa port.toNat), ip))
  | none =>
    let (d, r) := p.dnsCache.Resolve host now lookup
    ({ p with dnsCache := d }, r.map fun ip => (JoinHostPort ip.String (itoa port.toNat), ip))

end UDPConnectionPool

/-- The association `createUDPConnectionAsync` registers once the dial to `targetAddr` has
succeeded: the address is split back into host and port, and the port is what replies carry. -/
def dialedConnection (now : Int) (client : UDPAddr) (targetAddr : String) (resolvedIP : IP) :
    UDPConnection :=
  let (host, portStr) := match SplitHostPort targetAddr with
    | .ok hp => hp
    | .error _ => ("", "")
  newUDPConnection now client { IP := (ParseIP host).getD [], Port := (Atoi portStr).1 } resolvedIP

/-! ## Where a resolved address comes from -/

theorem pickIP_mem {ips : List IP} {ip : IP} (h : pickIP ips = some ip) : ip ∈ ips := by
  unfold pickIP at h
  split at h
  · next x hx => cases h; exact List.mem_of_find?_eq_some hx
  · exact List.mem_of_mem_head? h

/-- A resolved address is a cached one or one of the lookup's answers. -/
theorem DNSCache.Resolve_ok {d : DNSCache} {host : String} {now : Int}
    {lookup : Except String (List IP)} {ip : IP} (h : (d.Resolve host now lookup).2 = .ok ip) :
    (∃ e, d.cache.lookup host = some e ∧ e.ip = ip) ∨ (∃ ips, lookup = .ok ips ∧ ip ∈ ips) := by
  have hmiss : (DNSCache.Resolve.miss d host now lookup).2 = .ok ip →
      ∃ ips, lookup = .ok ips ∧ ip ∈ ips := by
    unfold DNSCache.Resolve.miss
    split
    · intro h; cases h
    · next ips =>
      split
      · intro h; cases h
      · next x hx => intro h; cases h; exact ⟨ips, rfl, pickIP_mem hx⟩
  unfold DNSCache.Resolve at h
  split at h
  · next e he =>
    split_ifs at h
    · cases h; exact .inl ⟨e, he, rfl⟩
    · exact .inr (hmiss h)
  · exact .inr (hmiss h)

/-- What `resolveTarget` answers: a literal and its own text, or a resolved address and its text. -/
theorem UDPConnectionPool.resolveTarget_ok {p : UDPConnectionPool} {host : String} {port : UInt16}
    {now : Int} {lookup : Except String (List IP)} {addr : String} {ip : IP}
    (h : (p.resolveTarget host port now lookup).2 = .ok (addr, ip)) :
    (ParseIP host = some ip ∧ addr = JoinHostPort host (itoa port.toNat)) ∨
    (ParseIP host = none ∧ addr = JoinHostPort ip.String (itoa port.toNat) ∧
      ((∃ e, p.dnsCache.cache.lookup host = some e ∧ e.ip = ip) ∨
        (∃ ips, lookup = .ok ips ∧ ip ∈ ips))) := by
  unfold UDPConnectionPool.resolveTarget at h
  split at h
  · next x hx => cases h; exact .inl ⟨hx, rfl⟩
  · next hx =>
    rcases hr : p.dnsCache.Resolve host now lookup with ⟨d, r⟩
    rw [hr] at h
    cases r with
    | error e => cases h
    | ok ip' =>
      cases h
      exact .inr ⟨hx, rfl, DNSCache.Resolve_ok (by rw [hr])⟩

end WireproxyAwg.Relay
