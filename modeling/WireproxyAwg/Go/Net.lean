import WireproxyAwg.Go.Strconv

/-!
# Addresses: `net.IP`, its text, and `host:port`

The relay turns addresses into text and back in three places: the pool key is
`clientAddr.String()`; `resolveTarget` joins the resolved host and the port with
`net.JoinHostPort`, and `createUDPConnectionAsync` splits that string again with
`net.SplitHostPort` and `strconv.Atoi` to get the port it answers from; and a
response header is decoded by the client back to the text of an IP. So these
functions are written out after the Go library, not left abstract.
-/

namespace WireproxyAwg.Go

/-- `net.IP`: a byte slice, 4 or 16 bytes long when it is an address. -/
abbrev IP := List UInt8

/-- The 12-byte prefix of an IPv4 address in its 16-byte form. -/
def v4InV6Prefix : List UInt8 := [0, 0, 0, 0, 0, 0, 0, 0, 0, 0, 0xff, 0xff]

/-- `net.IPv4(a, b, c, d)`: the 16-byte form. -/
def IPv4 (a b c d : UInt8) : IP := v4InV6Prefix ++ [a, b, c, d]

/-- `ip.To4()`: the 4-byte form of an IPv4 address, `nil` for anything else. -/
def IP.To4 (ip : IP) : Option IP :=
  if ip.length = 4 then some ip
  else if ip.length = 16 ∧ ip.take 12 = v4InV6Prefix then some (ip.drop 12)
  else none

/-- `hexDigit[n]` for a nibble. -/
def hexDigit (n : Nat) : Char := Nat.digitChar (n % 16)

/-- `hexString(b)`: two lower-case hex digits per byte. -/
def hexString (b : List UInt8) : String :=
  ⟨b.flatMap fun x => [hexDigit (x.toNat / 16), hexDigit x.toNat]⟩

/-- The eight 16-bit groups of a 16-byte address. -/
def v6Groups (ip : IP) : List Nat :=
  (List.range 8).map fun i => (ip.getD (2 * i) 0).toNat * 256 + (ip.getD (2 * i + 1) 0).toNat

/-- The length of the run of zero groups starting at group `i`. -/
def zeroRunAt (g : List Nat) (i : Nat) : Nat := ((g.drop i).takeWhile (· = 0)).length

/-- The first of the longest runs of at least two zero groups, as `[start, end)`. -/
def longestZeroRun (g : List Nat) : Option (Nat × Nat) :=
  (List.range 8).foldl (fun best i =>
    let l := zeroRunAt g i
    let cur := match best with
      | none => 0
      | some (s, e) => e - s
    if 2 ≤ l ∧ cur < l then some (i, i + l) else best) none

/-- `appendHex`: a group in hex without leading zeros. -/
def groupText (n : Nat) : String := ⟨Nat.toDigits 16 n⟩

/-- `netip.Addr.String` for a 16-byte address that is not IPv4: the longest zero run is `::`. -/
def ipv6Text (ip : IP) : String :=
  let g := v6Groups ip
  let join (l : List Nat) : String := ":".intercalate (l.map groupText)
  match longestZeroRun g with
  | none => join g
  | some (s, e) => join (g.take s) ++ "::" ++ join (g.drop e)

/-- `netip.AddrFrom4(p4).String()`: dotted decimal. -/
def ipv4Text (p4 : IP) : String := ".".intercalate (p4.map fun b => Nat.repr b.toNat)

/-- `ip.String()`. -/
def IP.String (ip : IP) : String :=
  if ip.length = 0 then "<nil>"
  else if ip.length ≠ 4 ∧ ip.length ≠ 16 then "?" ++ hexString ip
  else match ip.To4 with
    | some p4 => ipv4Text p4
    | none => ipv6Text ip

theorem IP.To4_length {ip ip4 : IP} (h : ip.To4 = some ip4) : ip4.length = 4 := by
  unfold IP.To4 at h
  split_ifs at h with h1 h2 <;> cases h
  · exact h1
  · simp [h2.1]

/-- Only 4- and 16-byte values have a 4-byte form. -/
theorem IP.length_of_To4 {ip ip4 : IP} (h : ip.To4 = some ip4) : ip.length = 4 ∨ ip.length = 16 := by
  unfold IP.To4 at h
  split_ifs at h with h1 h2
  exacts [.inl h1, .inr h2.1]

theorem IP.To4_IPv4 (a b c d : UInt8) : (IPv4 a b c d).To4 = some [a, b, c, d] := rfl

theorem IP.String_of_To4 {ip ip4 : IP} (h : ip.To4 = some ip4) : ip.String = ipv4Text ip4 := by
  have hl := IP.length_of_To4 h
  rw [IP.String, if_neg (by omega), if_neg (by omega), h]

/-! ## `net.ParseIP` -/

/-- `parseIPv4Fields`: four dotted decimal octets, no leading zeros, no empty field. -/
def parseIPv4Fields (s : List Char) : Option (List UInt8) :=
  go s true false 0 0 []
where
  /-- The scan, with "at the first character", "after a dot", the octet so far and its digits. -/
  go : List Char → Bool → Bool → Nat → Nat → List UInt8 → Option (List UInt8)
  | [], _, _, val, _, fields => if fields.length < 3 then none else some (fields ++ [UInt8.ofNat val])
  | c :: rest, first, afterDot, val, digLen, fields =>
    if '0' ≤ c ∧ c ≤ '9' then
      if digLen = 1 ∧ val = 0 then none
      else if 255 < val * 10 + (c.toNat - '0'.toNat) then none
      else go rest false false (val * 10 + (c.toNat - '0'.toNat)) (digLen + 1) fields
    else if c = '.' then
      if first ∨ rest = [] ∨ afterDot then none
      else if fields.length = 3 then none
      else go rest false true 0 0 (fields ++ [UInt8.ofNat val])
    else none

/-- The value of a hex digit. -/
def hexVal (c : Char) : Option Nat :=
  if '0' ≤ c ∧ c ≤ '9' then some (c.toNat - '0'.toNat)
  else if 'a' ≤ c ∧ c ≤ 'f' then some (c.toNat - 'a'.toNat + 10)
  else if 'A' ≤ c ∧ c ≤ 'F' then some (c.toNat - 'A'.toNat + 10)
  else none

/-- The hex group at the front of `s`: its value, its digit count (at most four) and the rest. -/
def hexGroup (s : List Char) : Option (Nat × Nat × List Char) :=
  let digits := s.takeWhile fun c => (hexVal c).isSome
  if 4 < digits.length then none
  else some (digits.foldl (fun acc c => acc * 16 + (hexVal c).getD 0) 0, digits.length,
    s.drop digits.length)

/-- The group loop of `parseIPv6`: `n` rounds left, `i` bytes written, `ell` the `::`.
It returns the bytes, how many were written, the ellipsis, and what was left unread. -/
def parseIPv6Groups : Nat → List Char → Nat → Option Nat → List UInt8 →
    Option (List UInt8 × Nat × Option Nat × List Char)
  | 0, s, i, ell, acc => some (acc, i, ell, s)
  | n + 1, s, i, ell, acc =>
    match hexGroup s with
    | none => none
    | some (v, off, rest) =>
      if off = 0 then none
      else if rest.head? = some '.' then
        if ell.isNone ∧ i ≠ 12 then none
        else if 16 < i + 4 then none
        else match parseIPv4Fields s with
          | none => none
          | some f => some (acc ++ f, i + 4, ell, [])
      else
        let acc := acc ++ [UInt8.ofNat (v / 256), UInt8.ofNat (v % 256)]
        match rest with
        | [] => some (acc, i + 2, ell, [])
        | [':'] => none
        | ':' :: ':' :: t =>
          if ell.isSome then none
          else if t = [] then some (acc, i + 2, some (i + 2), [])
          else parseIPv6Groups n t (i + 2) (some (i + 2)) acc
        | ':' :: t => parseIPv6Groups n t (i + 2) ell acc
        | _ => none

/-- `parseIPv6` for an address without a zone: the groups, then the `::` expanded. -/
def parseIPv6 (s : List Char) : Option (List UInt8) :=
  let (ell, s) : Option Nat × List Char := match s with
    | ':' :: ':' :: t => (some 0, t)
    | _ => (none, s)
  if ell.isSome ∧ s = [] then some (List.replicate 16 0)
  else match parseIPv6Groups 8 s 0 ell [] with
    | none => none
    | some (acc, i, ell, rest) =>
      if rest ≠ [] then none
      else if i < 16 then
        match ell with
        | none => none
        | some e => some (acc.take e ++ List.replicate (16 - i) 0 ++ acc.drop e)
      else if ell.isSome then none
      else some acc

/-- `net.ParseIP`: `netip.ParseAddr`, refused when it carries a zone, as 16 bytes. -/
def ParseIP (s : String) : Option IP :=
  match s.toList.find? fun c => c = '.' ∨ c = ':' ∨ c = '%' with
  | some '.' => (parseIPv4Fields s.toList).map (v4InV6Prefix ++ ·)
  | some ':' => if '%' ∈ s.toList then none else parseIPv6 s.toList
  | _ => none

/-- `net.JoinHostPort`: a host with a colon is bracketed. -/
def JoinHostPort (host port : String) : String :=
  if ':' ∈ host.toList then "[" ++ host ++ "]:" ++ port else host ++ ":" ++ port

/-- The index of the last `c` in `s`, if any. -/
def lastIndexOf (s : List Char) (c : Char) : Option Nat :=
  (s.enum.filter (·.2 = c)).getLast?.map (·.1)

/-- `net.SplitHostPort`, with its error texts. -/
def SplitHostPort (hostport : String) : Except String (String × String) :=
  let s := hostport.toList
  match lastIndexOf s ':' with
  | none => .error "missing port in address"
  | some i =>
    let bracketed : Except String (String × Nat × Nat) :=
      if s.head? = some '[' then
        match s.indexOf? ']' with
        | none => .error "missing ']' in address"
        | some e =>
          if e + 1 = s.length then .error "missing port in address"
          else if e + 1 = i then .ok (⟨(s.take e).drop 1⟩, 1, e + 1)
          else if s.getD (e + 1) ' ' = ':' then .error "too many colons in address"
          else .error "missing port in address"
      else if ':' ∈ s.take i then .error "too many colons in address"
      else .ok (⟨s.take i⟩, 0, 0)
    match bracketed with
    | .error e => .error e
    | .ok (host, j, k) =>
      if '[' ∈ s.drop j then .error "unexpected '[' in address"
      else if ']' ∈ s.drop k then .error "unexpected ']' in address"
      else .ok (host, ⟨s.drop (i + 1)⟩)

/-- `strconv.Atoi`: the value Go returns next to the error (zero, or the clamped bound). -/
def Atoi (s : String) : Int × Option NumError :=
  match parseInt s 10 64 with
  | .ok n => (n, none)
  | .error e =>
    let v : Int := if e.err = .errRange then (if s.toList.head? = some '-' then -2 ^ 63 else 2 ^ 63 - 1)
      else 0
    (v, some { e with func := "Atoi" })

/-- `*net.UDPAddr`. -/
structure UDPAddr where
  IP : IP
  Port : Int
  Zone : String := ""
  deriving DecidableEq, Repr

/-- `(*net.UDPAddr).String()`: the pool key of a client. -/
def UDPAddr.String (a : UDPAddr) : String :=
  let ip := if a.IP.length = 0 then "" else a.IP.String
  if a.Zone = "" then JoinHostPort ip (itoa a.Port) else JoinHostPort (ip ++ "%" ++ a.Zone) (itoa a.Port)

end WireproxyAwg.Go
