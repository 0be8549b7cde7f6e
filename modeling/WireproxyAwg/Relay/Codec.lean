import WireproxyAwg.Go.Slice
import WireproxyAwg.Go.Net

/-!
# The SOCKS5 UDP codec

`parseSocks5HeaderFast` reads a request header out of the receive buffer;
`sendUDPResponseFast` writes a response header and the reply into a buffer taken
from `bufferPool` and sends it. Both are slice code, written here against the
heap of `Go/Slice.lean` with every bounds check Go makes.

`bufferPool.Get()` returns whichever pooled buffer the runtime picks, or a new
one from the pool's `New`; the caller passes that choice in as `got`, `none`
standing for `New`. The buffers the encoder hands back with `Put` are part of
its result.
-/

namespace WireproxyAwg.Relay

open WireproxyAwg.Go

/-- `string(b)`: the bytes of a Go string, one character per byte. -/
def bytesToString (b : List UInt8) : String := ⟨b.map fun x => Char.ofNat x.toNat⟩

/-- What `parseSocks5HeaderFast` returns on a rejected datagram. -/
def rejected : String × UInt16 × Nat × Bool := ("", 0, 0, false)

/-- The `0x01` arm: IPv4 address and port. -/
def parseIPv4Arm (h : Heap) (data : Slice) : Except Panic (String × UInt16 × Nat × Bool) := do
  if data.len < 10 then return rejected
  let a ← data.get h 4
  let b ← data.get h 5
  let c ← data.get h 6
  let d ← data.get h 7
  let port ← bigEndianUint16 h (← data.slice 8 10)
  pure ((IPv4 a b c d).String, port, 10, true)

/-- The `0x03` arm: a length byte, the name, and the port after it. -/
def parseDomainArm (h : Heap) (data : Slice) : Except Panic (String × UInt16 × Nat × Bool) := do
  let domainLen := (← data.get h 4).toNat
  if data.len < 7 + domainLen then return rejected
  let host := bytesToString ((← data.slice 5 (5 + domainLen)).bytes h)
  let port ← bigEndianUint16 h (← data.slice (5 + domainLen) (5 + domainLen + 2))
  pure (host, port, 7 + domainLen, true)

/-- The `0x04` arm: IPv6 address and port. -/
def parseIPv6Arm (h : Heap) (data : Slice) : Except Panic (String × UInt16 × Nat × Bool) := do
  if data.len < 22 then return rejected
  let host := IP.String ((← data.slice 4 20).bytes h)
  let port ← bigEndianUint16 h (← data.slice 20 22)
  pure (host, port, 22, true)

/-- What a caller of the parser relies on: an accepted header ends inside the datagram. -/
def HeaderFits (data : Slice) (r : String × UInt16 × Nat × Bool) : Prop :=
  r.2.2.2 = true → r.2.2.1 ≤ data.len

/-- `parseSocks5HeaderFast(data)`: `(host, port, headerLen, ok)`. -/
def parseSocks5HeaderFast (h : Heap) (data : Slice) : Except Panic (String × UInt16 × Nat × Bool) := do
  if data.len < 10 then return rejected
  if (← data.get h 0) ≠ 0 then return rejected
  if (← data.get h 1) ≠ 0 then return rejected
  if (← data.get h 2) ≠ 0 then return rejected
  match (← data.get h 3) with
  | 0x01 => parseIPv4Arm h data
  | 0x03 => parseDomainArm h data
  | 0x04 => parseIPv6Arm h data
  | _ => return rejected

/-- The first lines of `handleSocks5UDPPacketSync`: parse, then `payload := data[headerLen:]`. -/
def parseRequest (h : Heap) (data : Slice) : Except Panic (Option (String × UInt16 × Slice)) := do
  let (host, port, headerLen, ok) ← parseSocks5HeaderFast h data
  if !ok then return none
  let payload ← data.sliceFrom headerLen
  pure (some (host, port, payload))

/-- The SOCKS5 UDP header of a datagram from `targetIP`, port `port`: `RSV`, `FRAG`, `ATYP` and the
address in its 4-byte form when it has one, else as given, then the port big-endian. -/
def socks5Header (targetIP : IP) (port : UInt16) : List UInt8 :=
  match targetIP.To4 with
  | some ip4 => [0x00, 0x00, 0x00, 0x01] ++ ip4 ++ be16 port
  | none => [0x00, 0x00, 0x00, 0x04] ++ targetIP ++ be16 port

/-- `uint16(targetPort)`: the low sixteen bits of a Go `int`. -/
def toUInt16 (x : Int) : UInt16 := UInt16.ofNat (x % 65536).toNat

/-- The header and payload writes of `sendUDPResponseFast`, into a buffer already cut to size. -/
def fillResponse (h : Heap) (buf : Slice) (targetIP : IP) (targetPort : Int) (data : List UInt8) :
    Except Panic Heap := do
  let h ← h.set buf 0 0x00
  let h ← h.set buf 1 0x00
  let h ← h.set buf 2 0x00
  match targetIP.To4 with
  | some ip4 =>
    let h ← h.set buf 3 0x01
    let h := h.copy (← buf.slice 4 8) ip4
    let h ← bigEndianPutUint16 h (← buf.slice 8 10) (toUInt16 targetPort)
    pure (h.copy (← buf.sliceFrom 10) data)
  | none =>
    let h ← h.set buf 3 0x04
    let h := h.copy (← buf.slice 4 20) targetIP
    let h ← bigEndianPutUint16 h (← buf.slice 20 22) (toUInt16 targetPort)
    pure (h.copy (← buf.sliceFrom 22) data)

/-- `bufferPool.Get().([]byte)`: the pooled buffer the runtime hands out, or `New`'s
`make([]byte, 1500)`. -/
def bufferPoolGet (h : Heap) (got : Option Slice) : Heap × Slice :=
  match got with
  | some b => (h, b)
  | none => h.make 1500

/-- The sizing block of `sendUDPResponseFast`: a buffer too short is put back and replaced by a
fresh one of exactly `n` bytes, otherwise it is cut to `buf[:n]`. Also returns what was put back. -/
def sizeBuffer (h : Heap) (buf : Slice) (n : Nat) : Except Panic (Heap × Slice × List Slice) :=
  if buf.len < n then
    let (h', fresh) := h.make n
    pure (h', fresh, [buf])
  else do
    pure (h, ← buf.slice 0 n, [])

/-- `if cap(buf) == 1500 { bufferPool.Put(buf[:1500]) }`. -/
def putBack (buf : Slice) : Except Panic (List Slice) :=
  if buf.cap = 1500 then do pure [← buf.slice 0 1500] else pure []

/-- What one call of `sendUDPResponseFast` leaves behind. -/
structure Sent where
  heap : Heap
  /-- The bytes `WriteToUDP` sends. -/
  datagram : List UInt8
  /-- The buffers given back with `bufferPool.Put`, in order. -/
  put : List Slice

/-- `sendUDPResponseFast`; `got` is what `bufferPool.Get()` returned (`none`: the pool's `New`). -/
def sendUDPResponseFast (h : Heap) (got : Option Slice) (targetIP : IP) (targetPort : Int)
    (data : List UInt8) : Except Panic Sent := do
  let headerLen := if targetIP.To4.isSome then 10 else 22
  let (h, buf) := bufferPoolGet h got
  let (h, buf, put) ← sizeBuffer h buf (headerLen + data.length)
  let h ← fillResponse h buf targetIP targetPort data
  let put' ← putBack buf
  pure ⟨h, buf.bytes h, put ++ put'⟩

/-! ## The parser never panics

`parseSocks5HeaderFast` reads `data[0..3]` only after checking `len(data) ≥ 10`,
and each arm checks the length it then slices to; the domain arm reads its length
byte `data[4]` under the same outer check. -/

theorem rejected_fits (data : Slice) : HeaderFits data rejected := by simp [HeaderFits, rejected]

theorem parseIPv4Arm_ok (h : Heap) (data : Slice) :
    ∃ r, parseIPv4Arm h data = .ok r ∧ HeaderFits data r := by
  unfold parseIPv4Arm
  by_cases hl : data.len < 10
  · exact ⟨rejected, by simp [hl]; rfl, rejected_fits data⟩
  · have := data.len_le_cap
    simp (disch := first | omega | simp) only [hl, if_false, pure_bind, Slice.get_of_lt,
      Slice.slice_of_le, bigEndianUint16_of_le]
    exact ⟨_, rfl, fun _ => by dsimp only; omega⟩

theorem parseDomainArm_ok (h : Heap) (data : Slice) (h5 : 5 ≤ data.len) :
    ∃ r, parseDomainArm h data = .ok r ∧ HeaderFits data r := by
  have := data.len_le_cap
  unfold parseDomainArm
  simp (disch := first | omega | simp) only [Slice.get_of_lt, pure_bind]
  split_ifs with hl
  · exact ⟨rejected, rfl, rejected_fits data⟩
  · simp (disch := first | omega | simp) only [Slice.slice_of_le, bigEndianUint16_of_le, pure_bind]
    exact ⟨_, rfl, fun _ => by dsimp only; omega⟩

theorem parseIPv6Arm_ok (h : Heap) (data : Slice) :
    ∃ r, parseIPv6Arm h data = .ok r ∧ HeaderFits data r := by
  unfold parseIPv6Arm
  by_cases hl : data.len < 22
  · exact ⟨rejected, by simp [hl]; rfl, rejected_fits data⟩
  · have := data.len_le_cap
    simp (disch := first | omega | simp) only [hl, if_false, pure_bind, Slice.slice_of_le,
      bigEndianUint16_of_le]
    exact ⟨_, rfl, fun _ => by dsimp only; omega⟩

/-- `parseSocks5HeaderFast` never panics, and a header it accepts ends inside the datagram. -/
theorem parseSocks5HeaderFast_ok (h : Heap) (data : Slice) :
    ∃ r, parseSocks5HeaderFast h data = .ok r ∧ HeaderFits data r := by
  unfold parseSocks5HeaderFast
  by_cases hl : data.len < 10
  · exact ⟨rejected, by rw [if_pos hl]; rfl, rejected_fits data⟩
  · rw [if_neg hl, Slice.get_of_lt (show 0 < data.len by omega), Slice.get_of_lt (show 1 < data.len by omega),
      Slice.get_of_lt (show 2 < data.len by omega), Slice.get_of_lt (show 3 < data.len by omega)]
    simp only [pure_bind]
    split_ifs
    all_goals try exact ⟨rejected, rfl, rejected_fits data⟩
    split
    · exact parseIPv4Arm_ok h data
    · exact parseDomainArm_ok h data (by omega)
    · exact parseIPv6Arm_ok h data
    · exact ⟨rejected, rfl, rejected_fits data⟩

/-- The receive loop's parse and `data[headerLen:]` never panic, whatever the datagram. -/
theorem parseRequest_ok (h : Heap) (data : Slice) : ∃ r, parseRequest h data = .ok r := by
  obtain ⟨⟨host, port, hl, ok⟩, e, hfit⟩ := parseSocks5HeaderFast_ok h data
  have := data.len_le_cap
  cases ok
  · exact ⟨none, by simp [parseRequest, e]; rfl⟩
  · simp only [parseRequest, e, ok_bind, Slice.sliceFrom, Slice.slice_of_le (hfit rfl) this]
    exact ⟨_, rfl⟩

/-! ## The encoder

`sendUDPResponseFast` never panics, for every address, port and reply. Given a
valid pooled buffer it only writes inside the buffer it sends, it puts back only
the buffer it was handed or a 1500-byte one, and for an address of 4 or 16 bytes
the datagram is exactly the header and the reply, whatever the buffer held. -/

theorem length_socks5Header {targetIP : IP} {port : UInt16}
    (hip : targetIP.To4.isSome ∨ targetIP.length = 16) :
    (socks5Header targetIP port).length = if targetIP.To4.isSome then 10 else 22 := by
  cases h4 : targetIP.To4 with
  | some ip4 => simp [socks5Header, h4, IP.To4_length h4]
  | none => simp_all [socks5Header]

theorem fillResponse_spec (h : Heap) (buf : Slice) (targetIP : IP) (targetPort : Int)
    (data : List UInt8) (hlen : buf.len = (if targetIP.To4.isSome then 10 else 22) + data.length) :
    ∃ h', fillResponse h buf targetIP targetPort data = .ok h' ∧
      (buf.Valid h → ∃ pre, Filled h h' buf (buf.bytes h) pre ∧
        (targetIP.To4.isSome ∨ targetIP.length = 16 →
          pre = socks5Header targetIP (toUInt16 targetPort) ++ data)) := by
  have hc := buf.len_le_cap
  cases hip : targetIP.To4 with
  | some ip4 =>
    have h4 := IP.To4_length hip
    simp only [hip, Option.isSome_some, if_true] at hlen
    simp (disch := first | omega | simp) only [fillResponse, hip, Heap.set_of_lt, Slice.slice_of_le,
      Slice.sliceFrom, bigEndianPutUint16_of_le, pure_bind]
    refine ⟨_, rfl, fun hv => ⟨_, (((((((Filled.init hv).set ?_ ?_ ?_).set ?_ ?_ ?_).set ?_ ?_ ?_).set
      ?_ ?_ ?_).copy ?_ ?_ ?_).putUint16 ?_ ?_ ?_).copy ?_ ?_ ?_, fun _ => ?_⟩⟩
    all_goals first | rfl | (simp [h4, socks5Header, hip, hlen]; try omega)
  | none =>
    simp only [hip, Option.isSome_none, Bool.false_eq_true, if_false] at hlen
    simp (disch := first | omega | simp) only [fillResponse, hip, Heap.set_of_lt, Slice.slice_of_le,
      Slice.sliceFrom, bigEndianPutUint16_of_le, pure_bind]
    refine ⟨_, rfl, fun hv => ⟨_, ((((((((Filled.init hv).set ?_ ?_ ?_).set ?_ ?_ ?_).set ?_ ?_ ?_).set
      ?_ ?_ ?_).copy ?_ ?_ ?_).skip (16 - (targetIP.take 16).length)).putUint16 ?_ ?_ ?_).copy ?_ ?_ ?_,
      fun h16 => ?_⟩⟩
    any_goals first | rfl | (simp only [List.length_append, List.length_take, List.length_drop,
      List.length_singleton, List.length_nil, length_be16, hv.length_bytes, hlen]; omega)
    have h16 : targetIP.length = 16 := by simpa using h16
    simp [socks5Header, hip, h16, hlen, List.take_of_length_le]

theorem bufferPoolGet_valid (h : Heap) (got : Option Slice) (hgot : ∀ b, got = some b → b.Valid h) :
    (bufferPoolGet h got).2.Valid (bufferPoolGet h got).1 ∧ h.Grows (bufferPoolGet h got).1 := by
  cases got with
  | some b => exact ⟨hgot b rfl, Heap.Grows.refl h⟩
  | none => exact ⟨Heap.make_valid h 1500, Heap.make_grows h 1500⟩

/-- A buffer from the pool is the one the runtime handed out, or a new one of 1500 bytes. -/
theorem bufferPoolGet_pooled (h : Heap) (got : Option Slice) :
    got = some (bufferPoolGet h got).2 ∨
      (bufferPoolGet h got).2.len = 1500 ∧ (bufferPoolGet h got).2.cap = 1500 := by
  cases got
  exacts [.inr ⟨rfl, rfl⟩, .inl rfl]

theorem sizeBuffer_spec (h : Heap) (buf : Slice) (n : Nat) :
    ∃ h' buf' put, sizeBuffer h buf n = .ok (h', buf', put) ∧ buf'.len = n ∧ (∀ b ∈ put, b = buf) ∧
      (buf.Valid h → buf'.Valid h' ∧ h.Grows h') := by
  unfold sizeBuffer
  split_ifs with hs
  · exact ⟨_, _, _, rfl, rfl, by simp, fun _ => ⟨Heap.make_valid h n, Heap.make_grows h n⟩⟩
  · have := buf.len_le_cap
    rw [Slice.slice_of_le (Nat.zero_le n) (by omega)]
    refine ⟨_, _, _, rfl, by simp, by simp, fun hv => ⟨?_, Heap.Grows.refl h⟩⟩
    unfold Slice.Valid at *; simpa using hv

theorem putBack_spec (buf : Slice) :
    ∃ put, putBack buf = .ok put ∧
      ∀ b ∈ put, b.len = 1500 ∧ b.cap = 1500 ∧ ∀ h, buf.Valid h → b.Valid h := by
  unfold putBack
  split_ifs with hc
  · rw [Slice.slice_of_le (Nat.zero_le _) hc.ge]
    refine ⟨_, rfl, ?_⟩
    simp only [List.mem_singleton, forall_eq, Nat.sub_zero, Nat.add_zero, true_and]
    exact ⟨hc, fun _ hv => hv⟩
  · exact ⟨[], rfl, by simp⟩

theorem sendUDPResponseFast_spec (h : Heap) (got : Option Slice) (targetIP : IP) (targetPort : Int)
    (data : List UInt8) :
    ∃ s, sendUDPResponseFast h got targetIP targetPort data = .ok s ∧
      (∀ b ∈ s.put, got = some b ∨ b.len = 1500 ∧ b.cap = 1500) ∧
      ((∀ b, got = some b → b.Valid h) → h.Grows s.heap ∧ (∀ b ∈ s.put, b.Valid s.heap) ∧
        (targetIP.To4.isSome ∨ targetIP.length = 16 →
          s.datagram = socks5Header targetIP (toUInt16 targetPort) ++ data)) := by
  have hpool := bufferPoolGet_pooled h got
  have hvalid := bufferPoolGet_valid h got
  rcases hg : bufferPoolGet h got with ⟨h1, buf0⟩
  rw [hg] at hpool hvalid
  obtain ⟨h2, buf, put, e2, hlen, hput, hv2⟩ :=
    sizeBuffer_spec h1 buf0 ((if targetIP.To4.isSome then 10 else 22) + data.length)
  obtain ⟨h3, e3, hf⟩ := fillResponse_spec h2 buf targetIP targetPort data hlen
  obtain ⟨put', e4, hput'⟩ := putBack_spec buf
  refine ⟨⟨h3, buf.bytes h3, put ++ put'⟩, by simp [sendUDPResponseFast, hg, e2, e3, e4], ?_, ?_⟩
  · intro b hb
    rcases List.mem_append.1 hb with hb | hb
    · rw [hput b hb]; simpa using hpool
    · exact .inr ⟨(hput' b hb).1, (hput' b hb).2.1⟩
  · intro hgot
    obtain ⟨hv1, hg1⟩ := hvalid hgot
    obtain ⟨hv2, hg2⟩ := hv2 hv1
    obtain ⟨pre, hf, hpre⟩ := hf hv2
    refine ⟨(hg1.trans hg2).trans hf.grows, fun b hb => ?_, fun hip => ?_⟩
    · rcases List.mem_append.1 hb with hb | hb
      · rw [hput b hb]; exact hv1.mono (hg2.trans hf.grows)
      · exact (hput' b hb).2.2 h3 hf.valid
    · rw [← hpre hip]
      exact hf.bytes_of_length (by rw [hv2.length_bytes, hlen, hpre hip, List.length_append,
        length_socks5Header hip])

/-! ## A response parses back

The client decodes a response with the same header format the relay parses
requests with, so `parseSocks5HeaderFast` applied to a response gives back the
address text, the port, and the reply after the header. -/

theorem parseSocks5HeaderFast_socks5Header {h : Heap} {d : Slice} {ip : IP} {port : UInt16}
    {r : List UInt8} (hd : d.bytes h = socks5Header ip port ++ r)
    (hip : ip.To4.isSome ∨ ip.length = 16) :
    parseSocks5HeaderFast h d = .ok (ip.String, port, (socks5Header ip port).length, true) ∧
      ∃ payload, d.sliceFrom (socks5Header ip port).length = .ok payload ∧ payload.bytes h = r := by
  have hlen := Slice.length_bytes_le h d
  have hc := d.len_le_cap
  rw [hd, List.length_append, length_socks5Header hip] at hlen
  cases h4 : ip.To4 with
  | some ip4 =>
    obtain ⟨a, b, c, e, rfl⟩ : ∃ a b c e, ip4 = [a, b, c, e] := by
      match ip4, IP.To4_length h4 with | [a, b, c, e], _ => exact ⟨a, b, c, e, rfl⟩
    simp only [h4, Option.isSome_some, if_true] at hlen
    simp (disch := first | omega | simp) [parseSocks5HeaderFast, parseIPv4Arm, Slice.get_eq_bytes, hd,
      socks5Header, h4, be16, Slice.slice_of_le, bigEndianUint16_of_le, Slice.bytes_sub,
      show ¬ d.len < 10 by omega, Slice.sliceFrom, be16_decode, IP.String_of_To4 h4,
      IP.String_of_To4 (IP.To4_IPv4 a b c e)]
    refine ⟨rfl, _, rfl, ?_⟩
    rw [Slice.bytes_sub (by omega), hd, List.take_of_length_le (by simp [socks5Header, h4]; omega)]
    simp [socks5Header, h4]
  | none =>
    have h16 : ip.length = 16 := by simpa [h4] using hip
    simp only [h4, Option.isSome_none, Bool.false_eq_true, if_false] at hlen
    simp (disch := first | omega | simp) [parseSocks5HeaderFast, parseIPv6Arm, Slice.get_eq_bytes, hd,
      socks5Header, h4, be16, Slice.slice_of_le, bigEndianUint16_of_le, Slice.bytes_sub,
      show ¬ d.len < 10 by omega, show ¬ d.len < 22 by omega, Slice.sliceFrom, be16_decode, h16]
    refine ⟨rfl, _, rfl, ?_⟩
    rw [Slice.bytes_sub (by omega), hd, List.take_of_length_le (by simp [socks5Header, h4, h16]; omega)]
    simp [socks5Header, h4, h16, List.drop_append_eq_append_drop, be16]

end WireproxyAwg.Relay
