import WireproxyAwg.Relay.System

/-!
# No datagram crashes the relay

A panic in any goroutine stops the process, and the receive loop serves every
client, so a single bad datagram would be a denial of service. The relay can
panic in two places: `handleSocks5UDPPacketSync` slicing a datagram it has not
checked, and `sendUDPResponseFast` slicing its buffer. `Relay/Codec.lean` shows
that neither can fail on any input. This file adds what they rely on in the
running relay: `ReadFromUDP` fills at most the buffer, so `buf[:n]` is in range,
and `bufferPool` only ever holds buffers of length and capacity 1500, both the
ones the receive loop puts back and the ones `sendUDPResponseFast` does.

`Safe` is the invariant; `safe_step` is its preservation by every action, one
lemma per party that touches the buffers and one frame lemma for the rest.
-/

namespace WireproxyAwg.Relay

open WireproxyAwg.Go

/-- A buffer as `bufferPool`'s `New` makes it: `make([]byte, 1500)`. -/
def Full (b : Slice) : Prop := b.len = 1500 ∧ b.cap = 1500

/-- What keeps every party away from a panic. -/
structure Safe (s : World) : Prop where
  /-- No goroutine has panicked. -/
  not_panicked : s.panicked = false
  /-- Every buffer in `bufferPool` is full-sized. -/
  free_full : ∀ b ∈ s.free, Full b
  /-- So is the buffer the receive loop holds. -/
  recv_full : ∀ b, s.recv.buffer = some b → Full b
  /-- `ReadFromUDP` reports at most `len(buf)` bytes. -/
  handling_le : ∀ buf client n, s.recv = .handling buf client n → n ≤ buf.len

theorem safe_init : Safe World.init where
  not_panicked := rfl
  free_full := by simp [World.init]
  recv_full := by simp [World.init, RecvPc.buffer]
  handling_le := by simp [World.init]

/-! ## What `bufferPool.Get` hands out -/

theorem takeFree_sub {free free' : List Slice} {pick : Option Nat} {got : Option Slice}
    (h : takeFree free pick = some (got, free')) :
    (∀ b, got = some b → b ∈ free) ∧ ∀ b ∈ free', b ∈ free := by
  cases pick with
  | none => cases h; simp
  | some i =>
    obtain ⟨b, hb, he⟩ := Option.map_eq_some'.1 h
    cases he
    exact ⟨fun _ h => Option.some.inj h ▸ List.getElem?_mem hb, fun _ => List.mem_of_mem_eraseIdx⟩

theorem takeFree_full {free free' : List Slice} {pick : Option Nat} {got : Option Slice}
    (hfree : ∀ b ∈ free, Full b) (h : takeFree free pick = some (got, free')) :
    (∀ b, got = some b → Full b) ∧ ∀ b ∈ free', Full b :=
  ⟨fun b hb => hfree b ((takeFree_sub h).1 b hb), fun b hb => hfree b ((takeFree_sub h).2 b hb)⟩

theorem bufferPoolGet_full (h : Heap) {got : Option Slice} (hgot : ∀ b, got = some b → Full b) :
    Full (bufferPoolGet h got).2 := by
  rcases bufferPoolGet_pooled h got with hp | hp
  exacts [hgot _ hp, hp]

/-! ## Steps that keep the buffers -/

section Frame

variable {s s' : World}

/-- What `Safe` reads: the receive loop, `bufferPool`, and the panic flag. -/
def World.buffers (s : World) : RecvPc × List Slice × Bool := (s.recv, s.free, s.panicked)

/-- A step that leaves the receive loop, `bufferPool` and the panic flag alone keeps `Safe`. -/
theorem Safe.of_frame (hs : Safe s) (h : s'.buffers = s.buffers) : Safe s' := by
  simp only [World.buffers, Prod.mk.injEq] at h
  obtain ⟨hr, hf, hp⟩ := h
  exact ⟨by rw [hp]; exact hs.not_panicked, by rw [hf]; exact hs.free_full,
    by rw [hr]; exact hs.recv_full, by rw [hr]; exact hs.handling_le⟩

/-- A receive-loop step that keeps its buffer and does not go on to parse keeps `Safe`. -/
theorem Safe.of_recv {buf : Slice} (hs : Safe s) (hb : s.recv.buffer = some buf)
    (hb' : s'.recv.buffer = some buf) (hh : ∀ b c m, s'.recv ≠ .handling b c m)
    (hf : s'.free = s.free) (hp : s'.panicked = s.panicked) : Safe s' where
  not_panicked := by rw [hp]; exact hs.not_panicked
  free_full := by rw [hf]; exact hs.free_full
  recv_full b h := hs.recv_full b (by rw [hb, ← hb', h])
  handling_le b c m h := absurd h (hh b c m)

end Frame

/-! ## The receive loop -/

section Receive

variable {s s' : World}

theorem recvGet_safe {pick : Option Nat} (hs : Safe s) (h : s.recvGet pick = some s') : Safe s' := by
  unfold World.recvGet at h
  split at h
  · next got free _ ht =>
    cases h
    have hg := takeFree_full hs.free_full ht
    exact ⟨hs.not_panicked, hg.2, fun b hb => Option.some.inj hb ▸ bufferPoolGet_full _ hg.1,
      fun _ _ _ h => by cases h⟩
  · cases h

theorem recvRead_safe {client : UDPAddr} {bytes : List UInt8} (hs : Safe s)
    (h : s.recvRead client bytes = some s') : Safe s' := by
  unfold World.recvRead at h
  split at h
  · next buf hr =>
    cases h
    refine ⟨hs.not_panicked, hs.free_full, fun b hb => hs.recv_full b ?_, ?_⟩
    · rw [hr]; exact hb
    · intro _ _ _ he
      cases he
      exact Nat.min_le_right _ _
  · cases h

theorem recvError_safe (hs : Safe s) (h : s.recvError = some s') : Safe s' := by
  unfold World.recvError at h
  split at h
  · next buf hr =>
    cases h
    exact hs.of_recv (by rw [hr]; rfl) rfl (by simp) rfl rfl
  · cases h

/-- **The handler never panics**: `buf[:n]` is in range, and the parser is total. -/
theorem recvHandle_safe (hs : Safe s) (h : s.recvHandle = some s') : Safe s' := by
  unfold World.recvHandle at h
  split at h
  · next buf client n hr =>
    have hb : s.recv.buffer = some buf := by rw [hr]; rfl
    have hfull := hs.recv_full buf hb
    have := hs.handling_le buf client n hr
    have := buf.len_le_cap
    have hsl : buf.slice 0 n = pure _ := Slice.slice_of_le (Nat.zero_le n) (by unfold Full at hfull; omega)
    obtain ⟨r, hparse⟩ := parseRequest_ok s.heap ⟨buf.arr, buf.off + 0, n - 0, buf.cap - 0, by omega⟩
    rw [hsl, pure_bind, hparse] at h
    rcases r with _ | ⟨host, port, payload⟩
    · cases h
      exact hs.of_recv hb rfl (by simp) rfl rfl
    · dsimp only at h
      split at h <;> cases h
      · exact hs.of_recv hb rfl (by simp) rfl rfl
      · exact hs.of_recv hb rfl (by simp) rfl rfl
  · cases h

theorem recvWrite_safe (hs : Safe s) (h : s.recvWrite = some s') : Safe s' := by
  unfold World.recvWrite at h
  split at h
  · next hr =>
    cases h
    exact hs.of_recv (by rw [hr]; rfl) rfl (by simp) rfl rfl
  · cases h

theorem recvMark_safe (hs : Safe s) (h : s.recvMark = some s') : Safe s' := by
  unfold World.recvMark at h
  split at h
  · next hr =>
    split at h <;> cases h
    · exact hs.of_recv (by rw [hr]; rfl) rfl (by simp) rfl rfl
    · exact hs.of_recv (by rw [hr]; rfl) rfl (by simp) rfl rfl
  · cases h

/-- `bufferPool.Put(buf)` puts back the full buffer the loop took, not `buf[:n]`. -/
theorem recvPut_safe (hs : Safe s) (h : s.recvPut = some s') : Safe s' := by
  unfold World.recvPut at h
  split at h
  · next buf hr =>
    cases h
    refine ⟨hs.not_panicked, ?_, fun _ h => (by cases h), fun _ _ _ h => (by cases h)⟩
    rintro b (_ | ⟨_, hb⟩)
    exacts [hs.recv_full buf (by rw [hr]; rfl), hs.free_full b hb]
  · cases h

end Receive

/-! ## The other parties -/

section Others

variable {s s' : World}

@[simp] theorem buffers_setCreator (i : Nat) (t : CreateTask) : (s.setCreator i t).buffers = s.buffers := rfl

@[simp] theorem buffers_setReader (j : Nat) (r : ReaderTask) : (s.setReader j r).buffers = s.buffers := rfl

theorem resolve_buffers {i : Nat} {lookup : Except String (List IP)} (h : s.resolve i lookup = some s') :
    s'.buffers = s.buffers := by
  unfold World.resolve at h
  split at h
  · split_ifs at h
    split at h
    split at h <;> cases h <;> rfl
  · cases h

theorem dial_buffers {i : Nat} {ok : Bool} (h : s.dial i ok = some s') : s'.buffers = s.buffers := by
  unfold World.dial at h
  split at h
  · split at h
    · split_ifs at h <;> cases h <;> rfl
    · cases h
  · cases h

theorem register_buffers {i : Nat} {order : List String} (h : s.register i order = some s') :
    s'.buffers = s.buffers := by
  unfold World.register at h
  split at h
  · split at h
    · split_ifs at h
      cases h; rfl
    · cases h
  · cases h

theorem firstWrite_buffers {i : Nat} (h : s.firstWrite i = some s') : s'.buffers = s.buffers := by
  unfold World.firstWrite at h
  split at h
  · split at h
    · cases h; rfl
    · cases h
  · cases h

theorem release_buffers {i : Nat} (h : s.release i = some s') : s'.buffers = s.buffers := by
  unfold World.release at h
  split at h
  · split_ifs at h
    cases h; rfl
  · cases h

theorem poll_buffers {j : Nat} (h : s.poll j = some s') : s'.buffers = s.buffers := by
  unfold World.poll at h
  split at h
  · split_ifs at h <;> cases h <;> rfl
  · cases h

theorem janitor_buffers {order : List String} (h : s.janitor order = some s') : s'.buffers = s.buffers := by
  unfold World.janitor at h
  split_ifs at h
  cases h; rfl

/-- **A reply never panics**, and what `sendUDPResponseFast` puts back is full-sized: the
buffer it was handed, or `buf[:1500]` of one with capacity 1500. -/
theorem readerRead_safe {j : Nat} {res : ReadResult} {pick : Option Nat} (hs : Safe s)
    (h : s.readerRead j res pick = some s') : Safe s' := by
  unfold World.readerRead at h
  split at h
  · next r c _ _ =>
    cases res with
    | timeout =>
      dsimp only at h
      split_ifs at h
      cases h
      exact hs.of_frame rfl
    | error =>
      dsimp only at h
      split_ifs at h
      cases h
      exact hs.of_frame rfl
    | data bytes =>
      dsimp only at h
      split_ifs at h
      split at h
      · cases h
      · next got free ht =>
        obtain ⟨sent, hsend, hput, -⟩ :=
          sendUDPResponseFast_spec s.heap got c.resolvedIP c.targetAddr.Port bytes
        simp only [hsend] at h
        cases h
        have hg := takeFree_full hs.free_full ht
        refine ⟨hs.not_panicked, fun b hb => ?_, hs.recv_full, hs.handling_le⟩
        rcases List.mem_append.1 hb with hb | hb
        · rcases hput b hb with hb | hb
          exacts [hg.1 b hb, hb]
        · exact hg.2 b hb
  · cases h

end Others

/-- **Preserved by every step.** -/
theorem safe_step {s s' : World} {a : Action} (hs : Safe s) (h : s.step a = some s') : Safe s' := by
  cases a with
  | recvGet => exact recvGet_safe hs h
  | recvRead => exact recvRead_safe hs h
  | recvError => exact recvError_safe hs h
  | recvHandle => exact recvHandle_safe hs h
  | recvWrite => exact recvWrite_safe hs h
  | recvMark => exact recvMark_safe hs h
  | recvPut => exact recvPut_safe hs h
  | resolve => exact hs.of_frame (resolve_buffers h)
  | dial => exact hs.of_frame (dial_buffers h)
  | register => exact hs.of_frame (register_buffers h)
  | firstWrite => exact hs.of_frame (firstWrite_buffers h)
  | release => exact hs.of_frame (release_buffers h)
  | poll => exact hs.of_frame (poll_buffers h)
  | readerRead => exact readerRead_safe hs h
  | janitor => exact hs.of_frame (janitor_buffers h)
  | tick => cases h; exact hs.of_frame rfl

theorem safe_reachable {s : World} (h : Reachable s) : Safe s := by
  induction h with
  | init => exact safe_init
  | step _ hstep ih => exact safe_step ih hstep

/-- **No datagram crashes the relay.** The handler's parse and `data[headerLen:]` succeed on
every slice, `sendUDPResponseFast` succeeds on every address, port and reply, and in every
reachable state no goroutine has panicked and every buffer in `bufferPool` has length and
capacity 1500. -/
theorem no_datagram_crashes_relay :
    (∀ h data, ∃ r, parseRequest h data = .ok r) ∧
    (∀ h got targetIP targetPort reply, ∃ sent,
      sendUDPResponseFast h got targetIP targetPort reply = .ok sent) ∧
    (∀ s, Reachable s → s.panicked = false ∧ ∀ b ∈ s.free, b.len = 1500 ∧ b.cap = 1500) :=
  ⟨parseRequest_ok,
   fun h got ip port r => (sendUDPResponseFast_spec h got ip port r).imp fun _ h => h.1,
   fun _ hr => ⟨(safe_reachable hr).not_panicked, (safe_reachable hr).free_full⟩⟩

end WireproxyAwg.Relay
