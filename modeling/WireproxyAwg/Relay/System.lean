import WireproxyAwg.Relay.Codec
import WireproxyAwg.Relay.DnsCache

/-!
# The relay as a transition system

`StartSocks5UDPServer` runs one receive loop; each datagram that misses the pool
spawns a `createUDPConnectionAsync` goroutine; each registered association gets a
`startUDPReader` goroutine; and a janitor calls `pool.Cleanup(60s)`. They share
the pool, the `creationLock` marks, `bufferPool` and the buffers in it. This file
writes every party as a program counter and every stretch of Go code between two
points where another goroutine can observe a difference as one atomic action:

* every pool method and every `creationLock` operation is one action, as the
  pool's mutex and `sync.Map` make them;
* a `conn.Write` of a payload is one action, reading the payload's bytes at the
  moment it runs;
* `bufferPool.Get` and `Put` are actions of their own, because the buffers are
  shared: the payload a creation task holds is a view into a receive buffer.

`sendUDPResponseFast` is one action: between its `Get` and `Put` it writes only
into the buffer it took, so nothing another party does can interleave with it
observably.

The environment's choices are arguments of the actions: which datagram arrives,
which pooled buffer `Get` hands out, what DNS answers, whether a dial succeeds,
what a tunnel `Read` returns, the map iteration order, and the passing of time.
An action that does not fit the current state (a party that is elsewhere, a
buffer that is not in the pool, data read from a closed connection) is refused.

Four ghost logs record what the relay did for the properties in the later
files: the payload of every parsed datagram as it was when it was parsed, every
write that reached a tunnel connection, every datagram sent to a client, and
every `resolveTarget` call with what DNS answered for its host. A write and a
creation goroutine also remember which parsed datagram they are for.
-/

namespace WireproxyAwg.Relay

open WireproxyAwg.Go

/-- What `udpConn.conn.Read(buf)` returns on a tunnel connection. -/
inductive ReadResult where
  | data (r : List UInt8)
  | timeout
  | error
  deriving DecidableEq

/-- Where the receive loop of `StartSocks5UDPServer` is. -/
inductive RecvPc where
  /-- At the top of the `for` loop. -/
  | top
  /-- Holding `buf`, blocked in `conn.ReadFromUDP(buf)`. -/
  | reading (buf : Slice)
  /-- About to run `handleSocks5UDPPacketSync(…, clientAddr, buf[:n], …)`. -/
  | handling (buf : Slice) (client : UDPAddr) (n : Nat)
  /-- `pool.Get(connKey)` hit association `a`: `processUDPRequestSync(udpConn, payload)` is next. -/
  | writing (buf : Slice) (key host : String) (port : UInt16) (a : Nat) (payload : Slice)
  /-- `pool.Get(connKey)` missed: `creationLock.LoadOrStore(connKey, …)` is next. -/
  | marking (buf : Slice) (key : String) (client : UDPAddr) (host : String) (port : UInt16)
      (payload : Slice)
  /-- `bufferPool.Put(buf)` is next. -/
  | putting (buf : Slice)
  deriving DecidableEq

/-- The buffer the receive loop holds, if any. -/
def RecvPc.buffer : RecvPc → Option Slice
  | .top => none
  | .reading buf | .handling buf _ _ | .writing buf _ _ _ _ _ | .marking buf _ _ _ _ _
  | .putting buf => some buf

/-- Where a `createUDPConnectionAsync` goroutine is. -/
inductive CreatePc where
  /-- `pool.resolveTarget(targetHost, targetPort)` is next. -/
  | resolving
  /-- `vt.Tnet.Dial("udp", targetAddr)` is next. -/
  | dialing (targetAddr : String) (resolvedIP : IP)
  /-- `pool.Set(connKey, conn)` and `go startUDPReader` are next. -/
  | registering (conn : UDPConnection)
  /-- `processUDPRequestSync(conn, payload)` is next. -/
  | writing (a : Nat)
  /-- Returned: the deferred `pool.creationLock.Delete(connKey)` is next. -/
  | releasing
  /-- The goroutine has exited. -/
  | finished
  deriving DecidableEq

/-- A creation goroutine, with the arguments `handleSocks5UDPPacketSync` gave it. -/
structure CreateTask where
  key : String
  client : UDPAddr
  host : String
  port : UInt16
  payload : Slice
  /-- Ghost: the index in `received` of the datagram that started it. -/
  origin : Nat
  pc : CreatePc
  /-- Ghost: the association this goroutine registered. -/
  registered : Option Nat
  deriving DecidableEq

/-- A creation goroutine is in progress until its deferred `Delete` has run. -/
def CreateTask.active (t : CreateTask) : Bool := t.pc != .finished

/-- Where a `startUDPReader` goroutine is. -/
inductive ReaderPc where
  /-- At the `select` on `udpConn.readerDone`. -/
  | polling
  /-- Blocked in `udpConn.conn.Read(buf)`. -/
  | reading
  /-- Returned. -/
  | exited
  deriving DecidableEq

/-- A reader goroutine: the key it was started with and the association it reads. -/
structure ReaderTask where
  key : String
  assoc : Nat
  pc : ReaderPc
  deriving DecidableEq

/-- A `conn.Write(payload)` that reached an open tunnel connection, with the key and the
destination of the datagram whose payload it was. -/
structure TunnelWrite where
  key : String
  host : String
  port : UInt16
  assoc : Nat
  bytes : List UInt8
  /-- Ghost: the index in `received` of the datagram the write was issued for. -/
  origin : Nat
  deriving DecidableEq

/-- The whole relay: the pool, the heap, `bufferPool`, every goroutine, and the ghost logs. -/
structure World where
  pool : UDPConnectionPool
  heap : Heap
  /-- The buffers in `bufferPool`. -/
  free : List Slice
  recv : RecvPc
  creators : List CreateTask
  readers : List ReaderTask
  /-- `time.Now()`, in nanoseconds. -/
  clock : Int
  /-- A goroutine has panicked, which stops the process. -/
  panicked : Bool
  /-- Ghost: each parsed datagram's client key and payload bytes, as parsed, in receive order. -/
  received : List (String × List UInt8)
  /-- Ghost: every write that reached a tunnel connection, in order. -/
  writes : List TunnelWrite
  /-- Ghost: every datagram sent to a client. -/
  replies : List (UDPAddr × List UInt8)
  /-- Ghost: every `resolveTarget` call: its host, `time.Now()`, and what `net.LookupIP(host)`
  answers then (consulted only for a name with no fresh cache entry). -/
  queries : List Query

/-- `StartSocks5UDPServer` before the first datagram: `NewUDPConnectionPool(1000, mtu)`. -/
def World.init : World :=
  ⟨NewUDPConnectionPool 1000, [], [], .top, [], [], 0, false, [], [], [], []⟩

/-- `bufferPool.Get()` from the pooled buffers `free`: `some i` hands out the `i`-th, `none`
calls `New`. Refused for an index past the pool. -/
def takeFree (free : List Slice) : Option Nat → Option (Option Slice × List Slice)
  | none => some (none, free)
  | some i => free[i]?.map fun b => (some b, free.eraseIdx i)

/-- `processUDPRequestSync(conn, payload)`: the bytes reach the tunnel only on an open
connection. -/
def tunnelWrite (p : UDPConnectionPool) (w : TunnelWrite) (log : List TunnelWrite) :
    List TunnelWrite :=
  match p.conn w.assoc with
  | some c => if c.closed then log else log ++ [w]
  | none => log

/-- The possible actions: one per atomic stretch of code, with the environment's choices. -/
inductive Action where
  /-- Receive loop: `buf := bufferPool.Get().([]byte)`. -/
  | recvGet (pick : Option Nat)
  /-- Receive loop: `ReadFromUDP(buf)` returns a datagram from `client`. -/
  | recvRead (client : UDPAddr) (bytes : List UInt8)
  /-- Receive loop: `ReadFromUDP(buf)` fails. -/
  | recvError
  /-- Receive loop: parse, `payload := data[headerLen:]`, `connKey`, `pool.Get(connKey)`. -/
  | recvHandle
  /-- Receive loop: `processUDPRequestSync(udpConn, payload)` after a hit. -/
  | recvWrite
  /-- Receive loop: `creationLock.LoadOrStore(connKey, …)`, and the `go` when it stored. -/
  | recvMark
  /-- Receive loop: `bufferPool.Put(buf)`. -/
  | recvPut
  /-- Creation goroutine `i`: `pool.resolveTarget`, DNS answering `lookup`. -/
  | resolve (i : Nat) (lookup : Except String (List IP))
  /-- Creation goroutine `i`: the dial, succeeding or not. -/
  | dial (i : Nat) (ok : Bool)
  /-- Creation goroutine `i`: `pool.Set(connKey, conn)`, in map order `order` should it evict,
  then `go startUDPReader`. -/
  | register (i : Nat) (order : List String)
  /-- Creation goroutine `i`: `processUDPRequestSync(conn, payload)`. -/
  | firstWrite (i : Nat)
  /-- Creation goroutine `i`: the deferred `pool.creationLock.Delete(connKey)`. -/
  | release (i : Nat)
  /-- Reader `j`: the `select` on `readerDone`. -/
  | poll (j : Nat)
  /-- Reader `j`: `conn.Read(buf)` returns `res`; `pick` is what `bufferPool.Get` hands to
  `sendUDPResponseFast`. -/
  | readerRead (j : Nat) (res : ReadResult) (pick : Option Nat)
  /-- The janitor: `pool.Cleanup(60 * time.Second)`, in map order `order`. -/
  | janitor (order : List String)
  /-- Time passes. -/
  | tick (d : Nat)

namespace World

variable (s : World)

/-! ## The receive loop -/

/-- `buf := bufferPool.Get().([]byte)`. -/
def recvGet (pick : Option Nat) : Option World :=
  match s.recv, takeFree s.free pick with
  | .top, some (got, free) =>
    let (heap, buf) := bufferPoolGet s.heap got
    some { s with heap, free, recv := .reading buf }
  | _, _ => none

/-- `n, clientAddr, err := conn.ReadFromUDP(buf)` with a datagram: its first `len(buf)` bytes
land in `buf`. -/
def recvRead (client : UDPAddr) (bytes : List UInt8) : Option World :=
  match s.recv with
  | .reading buf =>
    some { s with heap := s.heap.copy buf bytes,
                  recv := .handling buf client (min bytes.length buf.len) }
  | _ => none

/-- `ReadFromUDP` failed: `bufferPool.Put(buf); continue`. -/
def recvError : Option World :=
  match s.recv with
  | .reading buf => some { s with recv := .putting buf }
  | _ => none

/-- `handleSocks5UDPPacketSync(conn, clientAddr, buf[:n], vt, pool)` up to `pool.Get(connKey)`. -/
def recvHandle : Option World :=
  match s.recv with
  | .handling buf client n =>
    match buf.slice 0 n >>= parseRequest s.heap with
    | .error _ => some { s with panicked := true }
    | .ok none => some { s with recv := .putting buf }
    | .ok (some (host, port, payload)) =>
      let key := client.String
      let received := s.received ++ [(key, payload.bytes s.heap)]
      match s.pool.Get key s.clock with
      | (pool, some a) => some { s with pool, received, recv := .writing buf key host port a payload }
      | (pool, none) => some { s with pool, received, recv := .marking buf key client host port payload }
  | _ => none

/-- `processUDPRequestSync(udpConn, payload)` on a hit, for the datagram parsed last. -/
def recvWrite : Option World :=
  match s.recv with
  | .writing buf key host port a payload =>
    some { s with writes := tunnelWrite s.pool
                    ⟨key, host, port, a, payload.bytes s.heap, s.received.length - 1⟩ s.writes,
                  recv := .putting buf }
  | _ => none

/-- `creationLock.LoadOrStore(connKey, struct{}{})`; when it stored, `go func() { … }()` for
the datagram parsed last. -/
def recvMark : Option World :=
  match s.recv with
  | .marking buf key client host port payload =>
    match s.pool.LoadOrStore key with
    | (pool, true) => some { s with pool, recv := .putting buf }
    | (pool, false) =>
      some { s with pool, recv := .putting buf,
                    creators := s.creators ++
                      [⟨key, client, host, port, payload, s.received.length - 1, .resolving, none⟩] }
  | _ => none

/-- `bufferPool.Put(buf)`. -/
def recvPut : Option World :=
  match s.recv with
  | .putting buf => some { s with free := buf :: s.free, recv := .top }
  | _ => none

/-! ## Creation goroutines -/

/-- Replace creation goroutine `i`. -/
def setCreator (i : Nat) (t : CreateTask) : World := { s with creators := s.creators.set i t }

/-- `targetAddr, resolvedIP, err := pool.resolveTarget(targetHost, targetPort)`. -/
def resolve (i : Nat) (lookup : Except String (List IP)) : Option World :=
  match s.creators[i]? with
  | some t =>
    if t.pc = .resolving then
      let (pool, r) := s.pool.resolveTarget t.host t.port s.clock lookup
      let queries := s.queries ++ [⟨t.host, s.clock, lookup⟩]
      match r with
      | .error _ => some { s.setCreator i { t with pc := .releasing } with pool, queries }
      | .ok (targetAddr, ip) =>
        some { s.setCreator i { t with pc := .dialing targetAddr ip } with pool, queries }
    else none
  | none => none

/-- `vt.Tnet.Dial("udp", targetAddr)`; on success the association is built. -/
def dial (i : Nat) (ok : Bool) : Option World :=
  match s.creators[i]? with
  | some t =>
    match t.pc with
    | .dialing targetAddr ip =>
      if ok then
        some (s.setCreator i { t with pc := .registering (dialedConnection s.clock t.client targetAddr ip) })
      else some (s.setCreator i { t with pc := .releasing })
    | _ => none
  | none => none

/-- `pool.Set(connKey, conn)`, then `go startUDPReader(conn, serverConn, pool, connKey)`. -/
def register (i : Nat) (order : List String) : Option World :=
  match s.creators[i]? with
  | some t =>
    match t.pc with
    | .registering conn =>
      if order.Perm s.pool.connections.keys then
        let a := s.pool.conns.length
        some { s.setCreator i { t with pc := .writing a, registered := some a } with
               pool := s.pool.Set t.key conn s.clock order,
               readers := s.readers ++ [⟨t.key, a, .polling⟩] }
      else none
    | _ => none
  | none => none

/-- `processUDPRequestSync(conn, payload)` with the datagram that started the goroutine. -/
def firstWrite (i : Nat) : Option World :=
  match s.creators[i]? with
  | some t =>
    match t.pc with
    | .writing a =>
      some { s.setCreator i { t with pc := .releasing } with
             writes := tunnelWrite s.pool
               ⟨t.key, t.host, t.port, a, t.payload.bytes s.heap, t.origin⟩ s.writes }
    | _ => none
  | none => none

/-- The deferred `pool.creationLock.Delete(connKey)`. -/
def release (i : Nat) : Option World :=
  match s.creators[i]? with
  | some t =>
    if t.pc = .releasing then
      some { s.setCreator i { t with pc := .finished } with pool := s.pool.deleteMarker t.key }
    else none
  | none => none

/-! ## Reader goroutines -/

/-- Replace reader `j`. -/
def setReader (j : Nat) (r : ReaderTask) : World := { s with readers := s.readers.set j r }

/-- `select { case <-udpConn.readerDone: return; default: … }`. -/
def poll (j : Nat) : Option World :=
  match s.readers[j]?, s.pool.conn ((s.readers[j]?.map (·.assoc)).getD 0) with
  | some r, some c =>
    if r.pc = .polling then
      if 0 < c.readerDone then
        some { s.setReader j { r with pc := .exited } with
               pool := s.pool.update r.assoc fun c => { c with readerDone := c.readerDone - 1 } }
      else some (s.setReader j { r with pc := .reading })
    else none
  | _, _ => none

/-- `n, err := udpConn.conn.Read(buf)` and what the loop does with it. A closed connection
only returns errors; a reply is at most the 1500 bytes of the reader's buffer. -/
def readerRead (j : Nat) (res : ReadResult) (pick : Option Nat) : Option World :=
  match s.readers[j]?, s.pool.conn ((s.readers[j]?.map (·.assoc)).getD 0) with
  | some r, some c =>
    if r.pc ≠ .reading then none
    else match res with
      | .timeout => if c.closed then none else some (s.setReader j { r with pc := .polling })
      | .error => some { s.setReader j { r with pc := .exited } with pool := s.pool.Delete r.key }
      | .data bytes =>
        if c.closed ∨ 1500 < bytes.length then none
        else match takeFree s.free pick with
          | none => none
          | some (got, free) =>
            let pool := s.pool.update r.assoc fun c => { c with lastUsed := s.clock }
            match sendUDPResponseFast s.heap got c.resolvedIP c.targetAddr.Port bytes with
            | .error _ => some { s with pool, panicked := true }
            | .ok sent =>
              some { s.setReader j { r with pc := .polling } with
                     pool, heap := sent.heap, free := sent.put ++ free,
                     replies := s.replies ++ [(c.client, sent.datagram)] }
  | _, _ => none

/-! ## The janitor and the clock -/

/-- `pool.Cleanup(60 * time.Second)`. -/
def janitor (order : List String) : Option World :=
  if order.Perm s.pool.connections.keys then
    some { s with pool := s.pool.Cleanup (60 * second) s.clock order }
  else none

/-- One action. -/
def step : Action → Option World
  | .recvGet pick => s.recvGet pick
  | .recvRead client bytes => s.recvRead client bytes
  | .recvError => s.recvError
  | .recvHandle => s.recvHandle
  | .recvWrite => s.recvWrite
  | .recvMark => s.recvMark
  | .recvPut => s.recvPut
  | .resolve i lookup => s.resolve i lookup
  | .dial i ok => s.dial i ok
  | .register i order => s.register i order
  | .firstWrite i => s.firstWrite i
  | .release i => s.release i
  | .poll j => s.poll j
  | .readerRead j res pick => s.readerRead j res pick
  | .janitor order => s.janitor order
  | .tick d => some { s with clock := s.clock + d }

/-- Run actions in order, stopping at the first one refused. -/
def run : World → List Action → Option World
  | s, [] => some s
  | s, a :: rest => (s.step a).bind (run · rest)

end World

/-- The states the relay can reach from its start. -/
inductive Reachable : World → Prop where
  | init : Reachable World.init
  | step {s s' : World} {a : Action} : Reachable s → s.step a = some s' → Reachable s'

theorem Reachable.run {s s' : World} {l : List Action} (hs : Reachable s) (h : s.run l = some s') :
    Reachable s' := by
  induction l generalizing s with
  | nil => cases h; exact hs
  | cons a l ih =>
    simp only [World.run] at h
    cases ha : s.step a with
    | none => simp [ha] at h
    | some s1 => simp only [ha, Option.bind_some] at h; exact ih (hs.step ha) h

/-! ## The relay and its pool -/

/-- One call the relay makes on its pool: any method with any arguments, except that `Set`
scans a permutation of the map's keys and that a write through a pointer leaves `closed` alone. -/
inductive PoolCall (p : UDPConnectionPool) : UDPConnectionPool → Prop
  | get (key : String) (now : Int) : PoolCall p (p.Get key now).1
  | loadOrStore (key : String) : PoolCall p (p.LoadOrStore key).1
  | deleteMarker (key : String) : PoolCall p (p.deleteMarker key)
  | resolveTarget (host : String) (port : UInt16) (now : Int) (lookup : Except String (List IP)) :
      PoolCall p (p.resolveTarget host port now lookup).1
  | update (a : Nat) (f : UDPConnection → UDPConnection) (hf : ∀ c, (f c).closed = c.closed) :
      PoolCall p (p.update a f)
  | set (key : String) (conn : UDPConnection) (now : Int) (order : List String)
      (horder : order.Perm p.connections.keys) : PoolCall p (p.Set key conn now order)
  | delete (key : String) : PoolCall p (p.Delete key)
  | cleanup (maxAge now : Int) (order : List String) : PoolCall p (p.Cleanup maxAge now order)

namespace PoolCall

variable {p q : UDPConnectionPool}

theorem of_get {key : String} {now : Int} {r : Option Nat} (h : p.Get key now = (q, r)) :
    PoolCall p q := by
  simpa only [h] using PoolCall.get (p := p) key now

theorem of_loadOrStore {key : String} {b : Bool} (h : p.LoadOrStore key = (q, b)) : PoolCall p q := by
  simpa only [h] using PoolCall.loadOrStore (p := p) key

theorem of_resolveTarget {host : String} {port : UInt16} {now : Int} {lookup : Except String (List IP)}
    {r : Except String (String × IP)} (h : p.resolveTarget host port now lookup = (q, r)) :
    PoolCall p q := by
  simpa only [h] using PoolCall.resolveTarget (p := p) host port now lookup

end PoolCall

/-- **The relay reaches its pool only through the pool's methods.** -/
theorem World.step_pool {s s' : World} {a : Action} (h : s.step a = some s') :
    s'.pool = s.pool ∨ PoolCall s.pool s'.pool := by
  cases a <;> simp only [World.step] at h
  case recvGet =>
    unfold World.recvGet at h
    split at h <;> cases h
    exact .inl rfl
  case recvRead =>
    unfold World.recvRead at h
    split at h <;> cases h
    exact .inl rfl
  case recvError =>
    unfold World.recvError at h
    split at h <;> cases h
    exact .inl rfl
  case recvHandle =>
    unfold World.recvHandle at h
    split at h
    · split at h
      · cases h; exact .inl rfl
      · cases h; exact .inl rfl
      · dsimp only at h
        split at h <;> rename_i heq <;> cases h <;> exact .inr (.of_get heq)
    · cases h
  case recvWrite =>
    unfold World.recvWrite at h
    split at h <;> cases h
    exact .inl rfl
  case recvMark =>
    unfold World.recvMark at h
    split at h
    · split at h <;> rename_i heq <;> cases h <;> exact .inr (.of_loadOrStore heq)
    · cases h
  case recvPut =>
    unfold World.recvPut at h
    split at h <;> cases h
    exact .inl rfl
  case resolve =>
    unfold World.resolve at h
    split at h
    · split_ifs at h
      split at h
      next heq => split at h <;> cases h <;> exact .inr (.of_resolveTarget heq)
    · cases h
  case dial =>
    unfold World.dial at h
    split at h
    · split at h
      · split_ifs at h <;> cases h <;> exact .inl rfl
      · cases h
    · cases h
  case register =>
    unfold World.register at h
    split at h
    · split at h
      · split_ifs at h with horder
        cases h
        exact .inr (.set _ _ _ _ horder)
      · cases h
    · cases h
  case firstWrite =>
    unfold World.firstWrite at h
    split at h
    · split at h
      · cases h; exact .inl rfl
      · cases h
    · cases h
  case release =>
    unfold World.release at h
    split at h
    · split_ifs at h
      cases h
      exact .inr (.deleteMarker _)
    · cases h
  case poll =>
    unfold World.poll at h
    split at h
    · split_ifs at h <;> cases h
      · exact .inr (.update _ _ fun _ => rfl)
      · exact .inl rfl
    · cases h
  case readerRead res _ =>
    unfold World.readerRead at h
    split at h
    · cases res with
      | timeout =>
        dsimp only at h
        split_ifs at h
        cases h
        exact .inl rfl
      | error =>
        dsimp only at h
        split_ifs at h
        cases h
        exact .inr (.delete _)
      | data bytes =>
        dsimp only at h
        split_ifs at h
        split at h
        · cases h
        · split at h <;> cases h <;> exact .inr (.update _ _ fun _ => rfl)
    · cases h
  case janitor =>
    unfold World.janitor at h
    split_ifs at h
    cases h
    exact .inr (.cleanup _ _ _)
  case tick =>
    cases h
    exact .inl rfl

/-! ## Runs from the start

The concrete runs of the later files use one client, literal addresses so that no DNS answer
matters, and buffers from `bufferPool` handed back in the order they were put. -/

/-- A run of actions from the start that ends in a state where `p` holds. -/
theorem reach_of_run (l : List Action) (p : World → Bool) (h : (World.init.run l).map p = some true) :
    ∃ s, Reachable s ∧ p s = true := by
  cases hr : World.init.run l with
  | none => simp [hr] at h
  | some s =>
    simp only [hr, Option.map_some', Option.some.injEq] at h
    exact ⟨s, Reachable.init.run hr, h⟩

theorem mem_keys_of_lookup {m : AList (fun _ : String => Nat)} {k : String} {a : Nat}
    (h : m.lookup k = some a) : k ∈ m.keys :=
  AList.mem_keys.1 (AList.lookup_isSome.1 (by rw [h]; rfl))

/-- The client of every run. -/
def clientX : UDPAddr := ⟨[127, 0, 0, 1], 40000, ""⟩

/-- A SOCKS5 UDP request to an IPv4 address. -/
def request (ip : List UInt8) (port : UInt16) (payload : List UInt8) : List UInt8 :=
  [0x00, 0x00, 0x00, 0x01] ++ ip ++ be16 port ++ payload

/-- The receive loop handles one datagram from `clientX`, taking buffer `pick` from the pool. -/
def receiveFromX (pick : Option Nat) (bytes : List UInt8) (hit : Bool) : List Action :=
  [.recvGet pick, .recvRead clientX bytes, .recvHandle, if hit then .recvWrite else .recvMark,
   .recvPut]

/-- Creation goroutine `i` resolves a literal, dials, and registers with no eviction. -/
def createUpToRegister (i : Nat) (order : List String) : List Action :=
  [.resolve i (.ok []), .dial i true, .register i order]

end WireproxyAwg.Relay
