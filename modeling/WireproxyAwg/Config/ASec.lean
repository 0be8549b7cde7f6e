import WireproxyAwg.Go.Strconv

/-!
# The AmneziaWG configuration record, its parser and its validator

`awg_config.go`, function by function. An `[Interface]` section is a map from
lower-cased key to value, which is what go-ini hands back when it is loaded with
`Insensitive: true`. Go's `int` fields are `Int`s; the only arithmetic on them,
the packet sizes `148 + S1` and friends, wraps at 64 bits as Go's does.

`ParseASecConfig` is sixteen blocks of the same shape, one per key. They come in
three kinds (an `int` field, a magic-header interval, an `I` string), and each
kind is one parametrised definition here; the sixteen blocks are those
definitions applied to the block's own key and field.
-/

namespace WireproxyAwg.Config

open WireproxyAwg.Go

/-- `ASecConfigType`; the zero value is the one `&ASecConfigType{}` allocates. -/
structure ASecConfigType where
  junkPacketCount : Int := 0
  junkPacketMinSize : Int := 0
  junkPacketMaxSize : Int := 0
  initPacketJunkSize : Int := 0
  responsePacketJunkSize : Int := 0
  cookieReplyPacketJunkSize : Int := 0
  transportPacketJunkSize : Int := 0
  initPacketMagicHeader : UInt32 := 0
  initPacketMagicHeaderMax : UInt32 := 0
  responsePacketMagicHeader : UInt32 := 0
  responsePacketMagicHeaderMax : UInt32 := 0
  underloadPacketMagicHeader : UInt32 := 0
  underloadPacketMagicHeaderMax : UInt32 := 0
  transportPacketMagicHeader : UInt32 := 0
  transportPacketMagicHeaderMax : UInt32 := 0
  hasJunkPacketCount : Bool := false
  hasJunkPacketMinSize : Bool := false
  hasJunkPacketMaxSize : Bool := false
  hasInitPacketJunkSize : Bool := false
  hasResponsePacketJunkSize : Bool := false
  hasCookieReplyPacketJunkSize : Bool := false
  hasTransportPacketJunkSize : Bool := false
  hasInitPacketMagicHeader : Bool := false
  hasResponsePacketMagicHeader : Bool := false
  hasUnderloadPacketMagicHeader : Bool := false
  hasTransportPacketMagicHeader : Bool := false
  i1 : Option String := none
  i2 : Option String := none
  i3 : Option String := none
  i4 : Option String := none
  i5 : Option String := none
  deriving DecidableEq, Repr

/-- A Go `error` from this file: a `*strconv.NumError`, or `errors.New(text)`. -/
inductive ConfigError where
  | numError (e : NumError)
  | new (text : String)
  deriving DecidableEq, Repr

/-! ## Validation -/

def errJc : String := "value of the Jc field must be within the range of 1 to 128"
def errJmin : String := "value of the Jmin field must be less than or equal to Jmax field value"
def errJmax : String := "value of the Jmax field must be less than or equal 1280"
def errPacketSizeShort : String :=
  "value of the field S1 + message initiation size (148) must not equal S2 + message response size (92)"
def errPacketSizeLong : String :=
  "value of the field S1 + message initiation size (148) must not equal S2 + message response size (92) + S3 + cookie reply size (64) + S4 + transport packet size (32)"
def errHeaderRange : String := "invalid magic header range: lower bound cannot exceed upper bound"
def errHeaderUnique : String := "values of the H1-H4 fields must be unique"

/-- Go's `int` addition: the exact sum, wrapped into `[-2^63, 2^63)`. -/
def goIntAdd (a b : Int) : Int := Int.bmod (a + b) (2 ^ 64)

/-- `packetSizeCheck`. -/
structure PacketSizeCheck where
  isSet : Bool
  size : Int
  deriving DecidableEq, Repr

/-- The `packetSizes` slice of `ValidateASecConfig`. -/
def packetSizes (c : ASecConfigType) : List PacketSizeCheck :=
  [⟨c.hasInitPacketJunkSize, goIntAdd 148 c.initPacketJunkSize⟩,
   ⟨c.hasResponsePacketJunkSize, goIntAdd 92 c.responsePacketJunkSize⟩,
   ⟨c.hasCookieReplyPacketJunkSize, goIntAdd 64 c.cookieReplyPacketJunkSize⟩,
   ⟨c.hasTransportPacketJunkSize, goIntAdd 32 c.transportPacketJunkSize⟩]

/-- The double loop over `packetSizes`: some set entry equals a later set one. -/
def packetSizesCollide : List PacketSizeCheck → Bool
  | [] => false
  | p :: rest => (p.isSet && rest.any (fun q => q.isSet && q.size == p.size)) || packetSizesCollide rest

/-- `headerInterval`. -/
structure HeaderInterval where
  key : String
  min : UInt32
  max : UInt32
  deriving DecidableEq, Repr

def defaultInitPacketMagicHeader : UInt32 := 1
def defaultResponsePacketMagicHeader : UInt32 := 2
def defaultUnderloadPacketMagicHeader : UInt32 := 3
def defaultTransportPacketMagicHeader : UInt32 := 4

/-- One entry of `collectEffectiveHeaderIntervals`: the configured range, or the default. -/
def effectiveHeaderInterval (key : String) (dflt : UInt32) (isSet : Bool) (lo hi : UInt32) :
    HeaderInterval :=
  if isSet then ⟨key, lo, hi⟩ else ⟨key, dflt, dflt⟩

/-- `collectEffectiveHeaderIntervals`. -/
def collectEffectiveHeaderIntervals (config : Option ASecConfigType) : List HeaderInterval :=
  let c := config.getD {}
  [effectiveHeaderInterval "h1" defaultInitPacketMagicHeader c.hasInitPacketMagicHeader
     c.initPacketMagicHeader c.initPacketMagicHeaderMax,
   effectiveHeaderInterval "h2" defaultResponsePacketMagicHeader c.hasResponsePacketMagicHeader
     c.responsePacketMagicHeader c.responsePacketMagicHeaderMax,
   effectiveHeaderInterval "h3" defaultUnderloadPacketMagicHeader c.hasUnderloadPacketMagicHeader
     c.underloadPacketMagicHeader c.underloadPacketMagicHeaderMax,
   effectiveHeaderInterval "h4" defaultTransportPacketMagicHeader c.hasTransportPacketMagicHeader
     c.transportPacketMagicHeader c.transportPacketMagicHeaderMax]

/-- The overlap test of `hasOverlappingHeaderIntervals`, on one ordered pair. -/
def HeaderInterval.meets (left right : HeaderInterval) : Bool :=
  left.min ≤ right.max && right.min ≤ left.max

/-- `hasOverlappingHeaderIntervals`: some interval meets a later one. -/
def hasOverlappingHeaderIntervals : List HeaderInterval → Bool
  | [] => false
  | left :: rest => rest.any left.meets || hasOverlappingHeaderIntervals rest

/-- `ValidateASecConfig`: `none` is a `nil` error. -/
def ValidateASecConfig (config : Option ASecConfigType) : Option String :=
  match config with
  | none => none
  | some c =>
    if c.hasJunkPacketCount ∧ (c.junkPacketCount < 1 ∨ c.junkPacketCount > 128) then some errJc
    else if c.hasJunkPacketMinSize ∧ c.hasJunkPacketMaxSize ∧
        c.junkPacketMinSize > c.junkPacketMaxSize then some errJmin
    else if c.hasJunkPacketMaxSize ∧ c.junkPacketMaxSize > 1280 then some errJmax
    else if packetSizesCollide (packetSizes c) then
      if c.hasCookieReplyPacketJunkSize ∨ c.hasTransportPacketJunkSize then some errPacketSizeLong
      else some errPacketSizeShort
    else if (collectEffectiveHeaderIntervals config).any (fun i => i.min > i.max) then
      some errHeaderRange
    else if hasOverlappingHeaderIntervals (collectEffectiveHeaderIntervals config) then
      some errHeaderUnique
    else none

/-! ## Magic-header intervals -/

def errHeaderEmpty : String := "empty magic header value"
def errHeaderFormat : String := "invalid magic header range format"

/-- `strconv.ParseUint(s, 10, 32)` narrowed to `uint32`. -/
def parseUint32 (s : String) : Except ConfigError UInt32 :=
  match parseUint s 10 32 with
  | .ok n => .ok (UInt32.ofNat n)
  | .error e => .error (.numError e)

/-- `parseMagicHeaderInterval`: `N` or `N-M` after trimming, with `N ≤ M`. -/
def parseMagicHeaderInterval (value : String) : Except ConfigError (UInt32 × UInt32) :=
  let trimmed := trimSpace value
  if trimmed = "" then .error (.new errHeaderEmpty)
  else match split trimmed '-' with
    | [p0] => if p0 = "" then .error (.new errHeaderFormat) else do
        let minValue ← parseUint32 p0
        pure (minValue, minValue)
    | [p0, p1] => if p0 = "" then .error (.new errHeaderFormat) else do
        let minValue ← parseUint32 p0
        if p1 = "" then .error (.new errHeaderFormat) else do
        let maxValue ← parseUint32 p1
        if minValue > maxValue then .error (.new errHeaderRange) else pure (minValue, maxValue)
    | _ => .error (.new errHeaderFormat)

/-- `formatMagicHeaderInterval`: `N` for a point, `N-M` for a range. -/
def formatMagicHeaderInterval (minValue maxValue : UInt32) : String :=
  if minValue = maxValue then formatUint minValue.toNat
  else formatUint minValue.toNat ++ "-" ++ formatUint maxValue.toNat

/-! ## Parsing a section -/

/-- An `[Interface]` section loaded case-insensitively: lower-cased key to value. -/
structure Section where
  values : String → Option String

/-- `section.GetKey(name)`, then `String()`: the value under the lower-cased name. -/
def Section.GetKey (s : Section) (name : String) : Option String :=
  s.values ⟨name.toList.map Char.toLower⟩

/-- `if aSecConfig == nil { aSecConfig = &ASecConfigType{} }`, then one field update. -/
def withConfig (acc : Option ASecConfigType) (set : ASecConfigType → ASecConfigType) :
    Option ASecConfigType :=
  some (set (acc.getD {}))

/-- A block of `ParseASecConfig` for an `int` key: `sectionKey.Int()`, an error ends the parse. -/
def parseIntKey (s : Section) (name : String) (set : ASecConfigType → Int → ASecConfigType)
    (acc : Option ASecConfigType) : Except ConfigError (Option ASecConfigType) :=
  match s.GetKey name with
  | none => .ok acc
  | some v => match parseInt v 0 64 with
    | .error e => .error (.numError e)
    | .ok n => .ok (withConfig acc (set · n))

/-- A block for a magic-header key: `parseMagicHeaderInterval(sectionKey.String())`. -/
def parseHeaderKey (s : Section) (name : String)
    (set : ASecConfigType → UInt32 → UInt32 → ASecConfigType)
    (acc : Option ASecConfigType) : Except ConfigError (Option ASecConfigType) :=
  match s.GetKey name with
  | none => .ok acc
  | some v => match parseMagicHeaderInterval v with
    | .error e => .error e
    | .ok (lo, hi) => .ok (withConfig acc (set · lo hi))

/-- A block for an `I` key: the string is kept as it is, and the block cannot fail. -/
def parseStringKey (s : Section) (name : String) (set : ASecConfigType → String → ASecConfigType)
    (acc : Option ASecConfigType) : Option ASecConfigType :=
  match s.GetKey name with
  | none => acc
  | some v => withConfig acc (set · v)

/-- `ParseASecConfig`. -/
def ParseASecConfig (s : Section) : Except ConfigError (Option ASecConfigType) := do
  let c ← parseIntKey s "Jc" (fun c v => { c with junkPacketCount := v, hasJunkPacketCount := true }) none
  let c ← parseIntKey s "Jmin" (fun c v => { c with junkPacketMinSize := v, hasJunkPacketMinSize := true }) c
  let c ← parseIntKey s "Jmax" (fun c v => { c with junkPacketMaxSize := v, hasJunkPacketMaxSize := true }) c
  let c ← parseIntKey s "S1"
    (fun c v => { c with initPacketJunkSize := v, hasInitPacketJunkSize := true }) c
  let c ← parseIntKey s "S2"
    (fun c v => { c with responsePacketJunkSize := v, hasResponsePacketJunkSize := true }) c
  let c ← parseIntKey s "S3"
    (fun c v => { c with cookieReplyPacketJunkSize := v, hasCookieReplyPacketJunkSize := true }) c
  let c ← parseIntKey s "S4"
    (fun c v => { c with transportPacketJunkSize := v, hasTransportPacketJunkSize := true }) c
  let c ← parseHeaderKey s "H1"
    (fun c mn mx => { c with initPacketMagicHeader := mn, initPacketMagicHeaderMax := mx,
                             hasInitPacketMagicHeader := true }) c
  let c ← parseHeaderKey s "H2"
    (fun c mn mx => { c with responsePacketMagicHeader := mn, responsePacketMagicHeaderMax := mx,
                             hasResponsePacketMagicHeader := true }) c
  let c ← parseHeaderKey s "H3"
    (fun c mn mx => { c with underloadPacketMagicHeader := mn, underloadPacketMagicHeaderMax := mx,
                             hasUnderloadPacketMagicHeader := true }) c
  let c ← parseHeaderKey s "H4"
    (fun c mn mx => { c with transportPacketMagicHeader := mn, transportPacketMagicHeaderMax := mx,
                             hasTransportPacketMagicHeader := true }) c
  let c := parseStringKey s "I1" (fun c v => { c with i1 := some v }) c
  let c := parseStringKey s "I2" (fun c v => { c with i2 := some v }) c
  let c := parseStringKey s "I3" (fun c v => { c with i3 := some v }) c
  let c := parseStringKey s "I4" (fun c v => { c with i4 := some v }) c
  let c := parseStringKey s "I5" (fun c v => { c with i5 := some v }) c
  match ValidateASecConfig c with
  | some e => .error (.new e)
  | none => .ok c

end WireproxyAwg.Config
