import WireproxyAwg.Relay.Codec

/-!
# Which datagrams the request parser accepts

§4.3 lays a request out as `RSV RSV FRAG ATYP DST.ADDR DST.PORT payload`, with an address of
four bytes for `ATYP = 01`, a length byte `L` and `L` bytes of name for `03`, and sixteen
bytes for `04`. `socks5Layout` reads that layout off a datagram's bytes, as the layout table
describes it: a datagram has a header when its first three bytes are zero, its `ATYP` is one
of the three, and it is long enough for the address and the port after it.

`parseSocks5HeaderFast` rejects every datagram shorter than ten bytes before it looks at
`ATYP`, and the domain arm then asks only for `7 + L` bytes. So it accepts exactly the
datagrams that have a header and are at least ten bytes long, and returns that header's
host, port and length (`parseSocks5HeaderFast_layout`). A domain request whose name has at
most two bytes can be shorter than ten bytes and still have a whole header; it is dropped.
-/

namespace WireproxyAwg.Relay

open WireproxyAwg.Go

/-- A header of `n` bytes with host text `host`, when `b` is at least that long; its port is
the big-endian pair that ends the header. -/
def layoutAt (b : List UInt8) (n : Nat) (host : String) : Option (String × UInt16 × Nat) :=
  if n ≤ b.length then
    some (host, UInt16.ofNat ((b.getD (n - 2) 0).toNat * 256 + (b.getD (n - 1) 0).toNat), n)
  else none

/-- The request header of §4.3 at the front of `b`: host text, port and header length, or
`none` when `b` does not start with a whole header of a known `ATYP`. -/
def socks5Layout (b : List UInt8) : Option (String × UInt16 × Nat) :=
  if b.getD 0 0 = 0 ∧ b.getD 1 0 = 0 ∧ b.getD 2 0 = 0 then
    if b.getD 3 0 = 0x01 then
      layoutAt b 10 (IPv4 (b.getD 4 0) (b.getD 5 0) (b.getD 6 0) (b.getD 7 0)).String
    else if b.getD 3 0 = 0x03 then
      layoutAt b (7 + (b.getD 4 0).toNat) (bytesToString ((b.drop 5).take (b.getD 4 0).toNat))
    else if b.getD 3 0 = 0x04 then layoutAt b 22 (IP.String ((b.drop 4).take 16))
    else none
  else none

/-- The parser's four results, from a header or its absence. -/
def headerResult : Option (String × UInt16 × Nat) → String × UInt16 × Nat × Bool
  | some (host, port, n) => (host, port, n, true)
  | none => rejected

/-! ## Each arm reads the layout

Once `len(data) ≥ 10`, every index an arm reads is a byte of the datagram, and each of its
sub-slices reads the bytes the layout names. -/

section Arms

variable {h : Heap} {d : Slice}

theorem getD_sub {lo n c i : Nat} {p : n ≤ c} (hn : lo + n ≤ d.len) (hi : i < n) :
    (Slice.bytes h ⟨d.arr, d.off + lo, n, c, p⟩).getD i 0 = (d.bytes h).getD (lo + i) 0 := by
  rw [Slice.bytes_sub hn]
  simp only [List.getD_eq_getElem?_getD, List.getElem?_take, if_pos hi, List.getElem?_drop]

theorem parseIPv4Arm_layout (hv : d.Valid h) :
    parseIPv4Arm h d = .ok (headerResult (layoutAt (d.bytes h) 10
      (IPv4 ((d.bytes h).getD 4 0) ((d.bytes h).getD 5 0) ((d.bytes h).getD 6 0)
        ((d.bytes h).getD 7 0)).String)) := by
  have hc := d.len_le_cap
  unfold parseIPv4Arm layoutAt
  rw [hv.length_bytes]
  by_cases hl : d.len < 10
  · simp only [hl, not_le.2 hl, if_true, if_false]; rfl
  · simp (disch := first | omega | simp) only [hl, if_false, pure_bind, Slice.get_eq_bytes,
      Slice.slice_of_le, bigEndianUint16_of_le, getD_sub, not_lt.1 hl, if_true]
    rfl

theorem parseDomainArm_layout (hv : d.Valid h) (h10 : 10 ≤ d.len) :
    parseDomainArm h d = .ok (headerResult (layoutAt (d.bytes h) (7 + ((d.bytes h).getD 4 0).toNat)
      (bytesToString (((d.bytes h).drop 5).take ((d.bytes h).getD 4 0).toNat)))) := by
  have hc := d.len_le_cap
  unfold parseDomainArm layoutAt
  rw [hv.length_bytes]
  simp (disch := omega) only [Slice.get_eq_bytes, pure_bind]
  by_cases hl : d.len < 7 + ((d.bytes h).getD 4 0).toNat
  · simp only [hl, not_le.2 hl, if_true, if_false]; rfl
  · simp only [hl, not_lt.1 hl, if_true, if_false]
    simp (disch := first | omega | simp) only [Slice.slice_of_le, bigEndianUint16_of_le,
      Slice.bytes_sub, pure_bind, Nat.add_sub_cancel_left]
    simp only [List.getD_eq_getElem?_getD, List.getElem?_take, List.getElem?_drop, Nat.ofNat_pos,
      Nat.one_lt_ofNat, if_true,
      show ∀ x : Nat, 7 + x - 2 = 5 + x + 0 from fun _ => by omega,
      show ∀ x : Nat, 7 + x - 1 = 5 + x + 1 from fun _ => by omega]
    rfl

theorem parseIPv6Arm_layout (hv : d.Valid h) :
    parseIPv6Arm h d = .ok (headerResult (layoutAt (d.bytes h) 22
      (IP.String (((d.bytes h).drop 4).take 16)))) := by
  have hc := d.len_le_cap
  unfold parseIPv6Arm layoutAt
  rw [hv.length_bytes]
  by_cases hl : d.len < 22
  · simp only [hl, not_le.2 hl, if_true, if_false]; rfl
  · simp (disch := first | omega | simp) only [hl, if_false, pure_bind, Slice.slice_of_le,
      bigEndianUint16_of_le, Slice.bytes_sub, not_lt.1 hl, if_true, List.getD_eq_getElem?_getD,
      List.getElem?_take, List.getElem?_drop, Nat.reduceSub, Nat.reduceAdd, Nat.reduceLT]
    rfl

end Arms

/-- **The parser accepts the §4.3 headers of at least ten bytes.** On every datagram,
`parseSocks5HeaderFast` returns the host, port and length of the header that the layout finds
at its front when the datagram is at least ten bytes long, and rejects it otherwise. -/
theorem parseSocks5HeaderFast_layout (h : Heap) (d : Slice) (hv : d.Valid h) :
    parseSocks5HeaderFast h d =
      .ok (headerResult (if 10 ≤ d.len then socks5Layout (d.bytes h) else none)) := by
  unfold parseSocks5HeaderFast
  by_cases hl : d.len < 10
  · simp only [hl, not_le.2 hl, if_true, if_false]; rfl
  · rw [if_neg hl, if_pos (not_lt.1 hl)]
    rw [Slice.get_eq_bytes (show 0 < d.len by omega), Slice.get_eq_bytes (show 1 < d.len by omega),
      Slice.get_eq_bytes (show 2 < d.len by omega), Slice.get_eq_bytes (show 3 < d.len by omega)]
    simp only [pure_bind]
    unfold socks5Layout
    by_cases h0 : (d.bytes h).getD 0 0 = 0 <;> simp only [h0, ne_eq, not_true, not_false_eq_true,
      if_true, if_false, true_and, false_and] <;> try rfl
    by_cases h1 : (d.bytes h).getD 1 0 = 0 <;> simp only [h1, not_true, not_false_eq_true,
      if_true, if_false, true_and, false_and] <;> try rfl
    by_cases h2 : (d.bytes h).getD 2 0 = 0 <;> simp only [h2, not_true, not_false_eq_true,
      if_true, if_false] <;> try rfl
    generalize (d.bytes h).getD 3 0 = t
    split
    · rw [if_pos rfl]
      exact parseIPv4Arm_layout hv
    · rw [if_neg (by decide), if_pos rfl]
      exact parseDomainArm_layout hv (by omega)
    · rw [if_neg (by decide), if_neg (by decide), if_pos rfl]
      exact parseIPv6Arm_layout hv
    · next h1 h3 h4 =>
      rw [if_neg h1, if_neg h3, if_neg h4]
      rfl

/-- A request for host `a`, port 53, with an empty payload: eight bytes. -/
def shortDomainRequest : List UInt8 := [0, 0, 0, 3, 1, 97, 0, 53]

/-- The slice over the whole of `shortDomainRequest`, as the receive loop hands it on. -/
def shortDomainSlice : Slice := ⟨0, 0, 8, 8, le_refl 8⟩

theorem parseSocks5HeaderFast_layout_shortDomain :
    shortDomainSlice.Valid [shortDomainRequest] ∧
    parseSocks5HeaderFast [shortDomainRequest] shortDomainSlice =
      .ok (headerResult (if 10 ≤ shortDomainSlice.len then
        socks5Layout (shortDomainSlice.bytes [shortDomainRequest]) else none)) :=
  ⟨le_refl 8, parseSocks5HeaderFast_layout _ _ (le_refl 8)⟩

/-- A whole domain header that the parser drops: the datagram is the request for `a:53`, the
layout finds that header in it, and `parseSocks5HeaderFast` rejects it. -/
theorem short_domain_request_dropped :
    shortDomainSlice.bytes [shortDomainRequest] = shortDomainRequest ∧
    socks5Layout shortDomainRequest = some ("a", 53, 8) ∧
    parseSocks5HeaderFast [shortDomainRequest] shortDomainSlice = .ok rejected :=
  ⟨rfl, by decide, rfl⟩

end WireproxyAwg.Relay
