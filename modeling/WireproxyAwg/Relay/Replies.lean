import WireproxyAwg.Relay.Routing
import WireproxyAwg.Relay.Safety

/-!
# Where the replies go

A reader goroutine answers with `sendUDPResponseFast(serverConn, udpConn.client,
udpConn.resolvedIP, udpConn.targetAddr.Port, buf[:n])`. `Relay/Reply.lean` says what one
such call sends; this file follows the calls through the running relay. Every datagram the
relay sends goes to the client of an association that a creation goroutine registered, and
when that association's address has four or sixteen bytes, the datagram is the SOCKS5 header
of that address and of the port the goroutine's own datagram named, followed by at most 1500
bytes read from the tunnel.

Two facts about the running relay carry this. Each reader reads an association that a
creation goroutine for the reader's key registered. And every buffer in `bufferPool`, like the
one the receive loop holds, points into memory that exists: the heap only grows, and the
receive loop writes a datagram inside its buffer. So the writes of `sendUDPResponseFast` land
in the buffer it sends.
-/

namespace WireproxyAwg.Relay

open WireproxyAwg.Go

/-- What every reply is made of. -/
structure Replies (s : World) : Prop where
  /-- Every buffer in `bufferPool` points into the heap. -/
  free : ∀ b ∈ s.free, b.Valid s.heap
  /-- So does the buffer the receive loop holds. -/
  recv : ∀ b, s.recv.buffer = some b → b.Valid s.heap
  /-- Each reader reads an association a creation goroutine for its key registered. -/
  readers : ∀ r ∈ s.readers, Registers s.creators r.key r.assoc
  /-- Every datagram sent went to the client of such an association, behind the header of the
  association's address and port when that address has four or sixteen bytes. -/
  sent : ∀ x ∈ s.replies, ∃ k a route, Registers s.creators k a ∧ s.pool.routes[a]? = some route ∧
    x.1 = route.1 ∧ (route.2.2.To4.isSome ∨ route.2.2.length = 16 →
      ∃ r : List UInt8, r.length ≤ 1500 ∧ x.2 = socks5Header route.2.2 (toUInt16 route.2.1.Port) ++ r)

theorem replies_init : Replies World.init where
  free := by simp [World.init]
  recv := by simp [World.init, RecvPc.buffer]
  readers := by simp [World.init]
  sent := by simp [World.init]

theorem PoolFrame.keeps_routes {p p' : UDPConnectionPool} (h : PoolFrame p p') : p.routes <+: p'.routes :=
  h.routes ▸ List.prefix_refl _

theorem routes_getElem? {p : UDPConnectionPool} {a : Nat} {c : UDPConnection} (h : p.conn a = some c) :
    p.routes[a]? = some c.route := by
  rw [UDPConnectionPool.routes, List.getElem?_map, show p.conns[a]? = some c from h, Option.map_some']

/-- Replacing reader `j` by one with its key and association. -/
theorem readers_set {l : List ReaderTask} {j : Nat} {r : ReaderTask} (hj : l[j]? = some r) (pc : ReaderPc) :
    ∀ u ∈ l.set j { r with pc }, ∃ u' ∈ l, u'.key = u.key ∧ u'.assoc = u.assoc := fun u hu =>
  (List.mem_or_eq_of_mem_set hu).elim (fun hu => ⟨u, hu, rfl, rfl⟩) fun e => ⟨r, List.getElem?_mem hj, by rw [e], by rw [e]⟩

/-- A creation goroutine that only moves on keeps every registration. -/
theorem Registers.setPc {l : List CreateTask} {i : Nat} {t : CreateTask} (hi : l[i]? = some t) (pc : CreatePc)
    {k : String} {a : Nat} (h : Registers l k a) : Registers (l.set i { t with pc }) k a :=
  h.set { t with pc } hi rfl fun _ h => h

/-! ## Frames -/

section Frame

variable {s s' : World}

/-- A step that keeps the replies, keeps what every creation goroutine registered, and lets the
pool only add routes. -/
theorem Replies.frame (h : Replies s) (hfree : ∀ b ∈ s'.free, b.Valid s'.heap)
    (hrecv : ∀ b, s'.recv.buffer = some b → b.Valid s'.heap)
    (hreg : ∀ k a, Registers s.creators k a → Registers s'.creators k a)
    (hreaders : ∀ u ∈ s'.readers, Registers s'.creators u.key u.assoc)
    (hp : s.pool.routes <+: s'.pool.routes) (hrep : s'.replies = s.replies) : Replies s' where
  free := hfree
  recv := hrecv
  readers := hreaders
  sent x hx := by
    obtain ⟨k, a, route, hk, ha, hx⟩ := h.sent x (hrep ▸ hx)
    exact ⟨k, a, route, hreg k a hk, prefix_getElem? hp ha, hx⟩

/-- A step that also leaves the receive loop, `bufferPool`, the heap and the readers alone. -/
theorem Replies.others (h : Replies s) (hb : s'.buffers = s.buffers) (hheap : s'.heap = s.heap)
    (hreg : ∀ k a, Registers s.creators k a → Registers s'.creators k a) (hrd : s'.readers = s.readers)
    (hp : s.pool.routes <+: s'.pool.routes) (hrep : s'.replies = s.replies) : Replies s' := by
  simp only [World.buffers, Prod.mk.injEq] at hb
  exact h.frame (by rw [hb.2.1, hheap]; exact h.free) (by rw [hb.1, hheap]; exact h.recv) hreg
    (fun u hu => hreg _ _ (h.readers u (hrd ▸ hu))) hp hrep

/-- A receive-loop step that keeps its buffer, the heap and `bufferPool`. -/
theorem Replies.of_recv {buf : Slice} (h : Replies s) (hb : s.recv.buffer = some buf)
    (hb' : s'.recv.buffer = some buf) (hheap : s'.heap = s.heap) (hf : s'.free = s.free)
    (hreg : ∀ k a, Registers s.creators k a → Registers s'.creators k a) (hrd : s'.readers = s.readers)
    (hp : s.pool.routes <+: s'.pool.routes) (hrep : s'.replies = s.replies) : Replies s' :=
  h.frame (by rw [hf, hheap]; exact h.free) (fun b e => by rw [hheap]; exact h.recv b (hb.trans (hb'.symm.trans e)))
    hreg (fun u hu => hreg _ _ (h.readers u (hrd ▸ hu))) hp hrep

end Frame

/-! ## The receive loop -/

section Receive

variable {s s' : World}

theorem recvGet_replies {pick : Option Nat} (h : Replies s) (hs : s.recvGet pick = some s') : Replies s' := by
  unfold World.recvGet at hs
  split at hs
  · next got free _ ht =>
    cases hs
    have hsub := takeFree_sub ht
    obtain ⟨hv, hg⟩ := bufferPoolGet_valid s.heap got fun b hb => h.free b (hsub.1 b hb)
    exact ⟨fun b hb => (h.free b (hsub.2 b hb)).mono hg, fun b hb => Option.some.inj hb ▸ hv,
      h.readers, h.sent⟩
  · cases hs

/-- `ReadFromUDP` writes the datagram inside the buffer, so every array keeps its length. -/
theorem recvRead_replies {client : UDPAddr} {bytes : List UInt8} (h : Replies s)
    (hs : s.recvRead client bytes = some s') : Replies s' := by
  unfold World.recvRead at hs
  split at hs
  · next buf hr =>
    cases hs
    have hb := h.recv buf (by rw [hr]; rfl)
    have hfit : buf.off + (bytes.take buf.len).length ≤ (s.heap.array buf.arr).length := by
      have := List.length_take_le buf.len bytes
      have := buf.len_le_cap
      unfold Slice.Valid at hb; omega
    have hg : s.heap.Grows (s.heap.copy buf bytes) := fun a => (Heap.length_array_write hfit a).ge
    exact ⟨fun b hb' => (h.free b hb').mono hg, fun b hb' => (h.recv b (by rw [hr]; exact hb')).mono hg,
      h.readers, h.sent⟩
  · cases hs

theorem recvError_replies (h : Replies s) (hs : s.recvError = some s') : Replies s' := by
  unfold World.recvError at hs
  split at hs
  · next buf hr =>
    cases hs
    exact h.of_recv (by rw [hr]; rfl) rfl rfl rfl (fun _ _ h => h) rfl (List.prefix_refl _) rfl
  · cases hs

theorem recvHandle_replies (h : Replies s) (hs : s.recvHandle = some s') : Replies s' := by
  unfold World.recvHandle at hs
  split at hs
  · next buf client n hr =>
    have hb : s.recv.buffer = some buf := by rw [hr]; rfl
    split at hs
    · cases hs; exact h.of_recv hb hb rfl rfl (fun _ _ h => h) rfl (List.prefix_refl _) rfl
    · cases hs; exact h.of_recv hb rfl rfl rfl (fun _ _ h => h) rfl (List.prefix_refl _) rfl
    · have hget := s.pool.frame_Get client.String s.clock
      dsimp only at hs
      split at hs
      · next pool a hg =>
        cases hs; rw [hg] at hget
        exact h.of_recv hb rfl rfl rfl (fun _ _ h => h) rfl hget.keeps_routes rfl
      · next pool hg =>
        cases hs; rw [hg] at hget
        exact h.of_recv hb rfl rfl rfl (fun _ _ h => h) rfl hget.keeps_routes rfl
  · cases hs

theorem recvWrite_replies (h : Replies s) (hs : s.recvWrite = some s') : Replies s' := by
  unfold World.recvWrite at hs
  split at hs
  · next hr =>
    cases hs
    exact h.of_recv (by rw [hr]; rfl) rfl rfl rfl (fun _ _ h => h) rfl (List.prefix_refl _) rfl
  · cases hs

theorem recvMark_replies (h : Replies s) (hs : s.recvMark = some s') : Replies s' := by
  unfold World.recvMark at hs
  split at hs
  · next buf key client host port payload hr =>
    have hlo := s.pool.frame_LoadOrStore key
    split at hs
    · next pool hl =>
      cases hs; rw [hl] at hlo
      exact h.of_recv (by rw [hr]; rfl) rfl rfl rfl (fun _ _ h => h) rfl hlo.keeps_routes rfl
    · next pool hl =>
      cases hs; rw [hl] at hlo
      exact h.of_recv (by rw [hr]; rfl) rfl rfl rfl (fun _ _ h => h.append _) rfl hlo.keeps_routes rfl
  · cases hs

theorem recvPut_replies (h : Replies s) (hs : s.recvPut = some s') : Replies s' := by
  unfold World.recvPut at hs
  split at hs
  · next buf hr =>
    cases hs
    refine ⟨?_, fun _ e => (by cases e), h.readers, h.sent⟩
    rintro b (_ | ⟨_, hb⟩)
    exacts [h.recv buf (by rw [hr]; rfl), h.free b hb]
  · cases hs

end Receive

/-! ## Creation goroutines, readers and the janitor -/

section Others

variable {s s' : World}

theorem resolve_replies {i : Nat} {lookup : Except String (List IP)} (h : Replies s)
    (hs : s.resolve i lookup = some s') : Replies s' := by
  unfold World.resolve at hs
  split at hs
  · next t ht =>
    split_ifs at hs
    have hres := s.pool.routes_resolveTarget t.host t.port s.clock lookup
    rcases hr : s.pool.resolveTarget t.host t.port s.clock lookup with ⟨pool, r⟩
    rw [hr] at hs hres
    rcases r with _ | ⟨addr, ip⟩ <;> cases hs <;>
      exact h.others rfl rfl (fun _ _ hk => hk.setPc ht _) rfl (hres ▸ List.prefix_refl _) rfl
  · cases hs

theorem dial_replies {i : Nat} {ok : Bool} (h : Replies s) (hs : s.dial i ok = some s') : Replies s' := by
  unfold World.dial at hs
  split at hs
  · next t ht =>
    split at hs
    · split_ifs at hs <;> cases hs <;>
        exact h.others rfl rfl (fun _ _ hk => hk.setPc ht _) rfl (List.prefix_refl _) rfl
    · cases hs
  · cases hs

/-- **`Set` starts a reader on the association the goroutine registers.** The goroutine had
registered nothing before (`Routing`), so recording the new association takes nothing away. -/
theorem register_replies {i : Nat} {order : List String} (hR : Routing s) (h : Replies s)
    (hs : s.register i order = some s') : Replies s' := by
  unfold World.register at hs
  split at hs
  · next t ht =>
    split at hs
    · next conn hpc =>
      split_ifs at hs
      cases hs
      have hnone := (hR.tasks t (List.getElem?_mem ht)).fresh (by rw [hpc]; rfl)
      have hset := fun {k : String} {a : Nat} (hr : Registers s.creators k a) =>
        hr.set { t with pc := .writing s.pool.conns.length, registered := some s.pool.conns.length }
          ht rfl fun _ ha => by rw [hnone] at ha; cases ha
      refine h.frame h.free h.recv (fun _ _ => hset) (fun u hu => ?_)
        (s.pool.routes_Set t.key conn s.clock order ▸ List.prefix_append _ _) rfl
      rcases List.mem_append.1 hu with hu | hu
      · exact hset (h.readers u hu)
      · rw [List.mem_singleton.1 hu]
        exact Registers.of_getElem? (List.getElem?_set_self (List.getElem?_eq_some_iff.1 ht).1) rfl rfl
    · cases hs
  · cases hs

theorem firstWrite_replies {i : Nat} (h : Replies s) (hs : s.firstWrite i = some s') : Replies s' := by
  unfold World.firstWrite at hs
  split at hs
  · next t ht =>
    split at hs
    · cases hs
      exact h.others rfl rfl (fun _ _ hk => hk.setPc ht _) rfl (List.prefix_refl _) rfl
    · cases hs
  · cases hs

theorem release_replies {i : Nat} (h : Replies s) (hs : s.release i = some s') : Replies s' := by
  unfold World.release at hs
  split at hs
  · next t ht =>
    split_ifs at hs
    cases hs
    exact h.others rfl rfl (fun _ _ hk => hk.setPc ht _) rfl
      (s.pool.frame_deleteMarker t.key).keeps_routes rfl
  · cases hs

/-- Moving reader `j` on keeps its key and association. -/
theorem Replies.setReader {j : Nat} {r : ReaderTask} (h : Replies s) (hj : s.readers[j]? = some r)
    (pc : ReaderPc) : ∀ u ∈ s.readers.set j { r with pc }, Registers s.creators u.key u.assoc := fun u hu => by
  obtain ⟨u', hu', hk, ha⟩ := readers_set hj pc u hu
  exact hk ▸ ha ▸ h.readers u' hu'

theorem poll_replies {j : Nat} (h : Replies s) (hs : s.poll j = some s') : Replies s' := by
  unfold World.poll at hs
  split at hs
  · next r c hr _ =>
    split_ifs at hs <;> cases hs
    · exact h.frame h.free h.recv (fun _ _ h => h) (h.setReader hr _)
        (s.pool.frame_update r.assoc fun c =>
          (rfl : ({ c with readerDone := c.readerDone - 1 }).route = c.route)).keeps_routes rfl
    · exact h.frame h.free h.recv (fun _ _ h => h) (h.setReader hr _) (List.prefix_refl _) rfl
  · cases hs

/-- **A reply goes to the association's client, behind its header.** The reader's association
is one a creation goroutine registered, the pooled buffer points into the heap, so
`sendUDPResponseFast` sends the header and the bytes read. -/
theorem readerRead_replies {j : Nat} {res : ReadResult} {pick : Option Nat} (h : Replies s)
    (hs : s.readerRead j res pick = some s') : Replies s' := by
  unfold World.readerRead at hs
  split at hs
  · next r c hr hc =>
    have hupd := s.pool.frame_update r.assoc fun c => (rfl : ({ c with lastUsed := s.clock }).route = c.route)
    cases res with
    | timeout =>
      dsimp only at hs
      split_ifs at hs
      cases hs
      exact h.frame h.free h.recv (fun _ _ h => h) (h.setReader hr _) (List.prefix_refl _) rfl
    | error =>
      dsimp only at hs
      split_ifs at hs
      cases hs
      exact h.frame h.free h.recv (fun _ _ h => h) (h.setReader hr _)
        (s.pool.frame_evictKey r.key).keeps_routes rfl
    | data bytes =>
      dsimp only at hs
      split_ifs at hs with hcl
      split at hs
      · cases hs
      · next got free ht =>
        have hsub := takeFree_sub ht
        obtain ⟨sent, hsend, -, hv⟩ := sendUDPResponseFast_spec s.heap got c.resolvedIP c.targetAddr.Port bytes
        obtain ⟨hg, hput, hdg⟩ := hv fun b hb => h.free b (hsub.1 b hb)
        simp only [hsend] at hs
        cases hs
        have hc' : s.pool.conn r.assoc = some c := by simpa [hr] using hc
        refine ⟨fun b hb => ?_, fun b hb => (h.recv b hb).mono hg, h.setReader hr _, fun x hx => ?_⟩
        · rcases List.mem_append.1 hb with hb | hb
          exacts [hput b hb, (h.free b (hsub.2 b hb)).mono hg]
        · rcases List.mem_append.1 hx with hx | hx
          · obtain ⟨k, a, route, hk, ha, hx⟩ := h.sent x hx
            exact ⟨k, a, route, hk, prefix_getElem? hupd.keeps_routes ha, hx⟩
          · rw [List.mem_singleton.1 hx]
            refine ⟨r.key, r.assoc, c.route, h.readers r (List.getElem?_mem hr),
              hupd.routes ▸ routes_getElem? hc', rfl, fun h416 => ⟨bytes, by omega, hdg h416⟩⟩
  · cases hs

theorem janitor_replies {order : List String} (h : Replies s) (hs : s.janitor order = some s') :
    Replies s' := by
  unfold World.janitor at hs
  split_ifs at hs
  cases hs
  exact h.others rfl rfl (fun _ _ h => h) rfl (s.pool.frame_Cleanup _ _ order).keeps_routes rfl

end Others

/-- **Preserved by every step**, given `Routing` in the state before it. -/
theorem replies_step {s s' : World} {a : Action} (hR : Routing s) (h : Replies s) (hs : s.step a = some s') :
    Replies s' := by
  cases a with
  | recvGet => exact recvGet_replies h hs
  | recvRead => exact recvRead_replies h hs
  | recvError => exact recvError_replies h hs
  | recvHandle => exact recvHandle_replies h hs
  | recvWrite => exact recvWrite_replies h hs
  | recvMark => exact recvMark_replies h hs
  | recvPut => exact recvPut_replies h hs
  | resolve => exact resolve_replies h hs
  | dial => exact dial_replies h hs
  | register => exact register_replies hR h hs
  | firstWrite => exact firstWrite_replies h hs
  | release => exact release_replies h hs
  | poll => exact poll_replies h hs
  | readerRead => exact readerRead_replies h hs
  | janitor => exact janitor_replies h hs
  | tick => cases hs; exact h.others rfl rfl (fun _ _ h => h) rfl (List.prefix_refl _) rfl

theorem replies_reachable {s : World} (h : Reachable s) : Replies s := by
  induction h with
  | init => exact replies_init
  | step hr hs ih => exact replies_step (routing_reachable hr) ih hs

/-- `clientX` asks `10.0.0.1:53`; the association is registered, and its reader reads `[7]`
from the tunnel and answers. -/
def traceFirstReply : List Action :=
  receiveFromX none (request [10, 0, 0, 1] 53 [1]) false ++ createUpToRegister 0 [] ++
    [.poll 0, .readerRead 0 (.data [7]) none]

end WireproxyAwg.Relay
