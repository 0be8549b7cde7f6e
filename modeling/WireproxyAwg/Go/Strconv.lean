import Mathlib

/-!
# The parts of `strings` and `strconv` the configuration compiler calls

`parseMagicHeaderInterval` is `strings.TrimSpace`, `strings.Split` and
`strconv.ParseUint(_, 10, 32)`; go-ini's `Key.Int` is `strconv.ParseInt(_, 0, 64)`.
These are written after the Go library's own loops, errors included: which
strings they accept is exactly what the header-interval and IPC properties are
about, so they are not left abstract.

Go strings are bytes; here they are `String`s. Every character the parsers accept
is ASCII, and a non-ASCII character fails wherever a non-ASCII byte would.
-/

namespace WireproxyAwg.Go

/-- `unicode.IsSpace`. -/
def isSpace (c : Char) : Bool :=
  c = '\t' || c = '\n' || c = '\x0b' || c = '\x0c' || c = '\r' || c = ' ' ||
  c = '\x85' || c = '\xa0' || c = '\u1680' || ('\u2000' ≤ c && c ≤ '\u200a') ||
  c = '\u2028' || c = '\u2029' || c = '\u202f' || c = '\u205f' || c = '\u3000'

/-- `strings.TrimSpace`: drop leading and trailing white space. -/
def trimSpace (s : String) : String :=
  ⟨((s.toList.dropWhile isSpace).reverse.dropWhile isSpace).reverse⟩

/-- `strings.Split(s, sep)` for a one-character separator. -/
def split (s : String) (sep : Char) : List String :=
  (s.toList.splitOn sep).map String.mk

/-- Why a conversion failed (`strconv.ErrSyntax`, `strconv.ErrRange`). -/
inductive NumErr where
  | errSyntax
  | errRange
  deriving DecidableEq, Repr

/-- `*strconv.NumError`: the function, the input, the reason. -/
structure NumError where
  func : String
  num : String
  err : NumErr
  deriving DecidableEq, Repr

/-- `lower(c)`: ASCII letters to lower case, everything else unchanged. -/
def lower (c : Char) : Char := if 'A' ≤ c ∧ c ≤ 'Z' then Char.ofNat (c.toNat + 32) else c

/-- The value of a digit or letter in bases up to 36, or `none` for anything else. -/
def digitVal (c : Char) : Option Nat :=
  if '0' ≤ c ∧ c ≤ '9' then some (c.toNat - '0'.toNat)
  else if 'a' ≤ lower c ∧ lower c ≤ 'z' then some ((lower c).toNat - 'a'.toNat + 10)
  else none

/-- `underscoreOK`: underscores only between digits, or between a base prefix and a digit. -/
def underscoreOK (s : List Char) : Bool :=
  let s := match s with
    | '-' :: t | '+' :: t => t
    | t => t
  let (saw, hex, rest) : Char × Bool × List Char := match s with
    | '0' :: b :: t => if lower b = 'b' ∨ lower b = 'o' ∨ lower b = 'x' then ('0', lower b = 'x', t)
                       else ('^', false, s)
    | _ => ('^', false, s)
  let step : Option Char → Char → Option Char := fun saw c =>
    match saw with
    | none => none
    | some saw =>
      if ('0' ≤ c ∧ c ≤ '9') ∨ (hex ∧ 'a' ≤ lower c ∧ lower c ≤ 'f') then some '0'
      else if c = '_' then (if saw = '0' then some '_' else none)
      else if saw = '_' then none
      else some '!'
  match rest.foldl step (some saw) with
  | none => false
  | some saw => saw ≠ '_'

/-- The digit loop of `ParseUint`: `none` is a syntax error, `some none` a range error. -/
def parseDigits (base maxVal : Nat) (base0 : Bool) : Nat → Bool → List Char → Option (Option (Nat × Bool))
  | n, us, [] => some (some (n, us))
  | n, us, c :: cs =>
    if c = '_' ∧ base0 then parseDigits base maxVal base0 n true cs
    else match digitVal c with
      | none => none
      | some d =>
        if base ≤ d then none
        else if (2 ^ 64 - 1) / base + 1 ≤ n then some none
        else if maxVal < n * base + d then some none
        else parseDigits base maxVal base0 (n * base + d) us cs

/-- `strconv.ParseUint(s, base, bitSize)` for `base` 0 or 2..36 and `bitSize` 1..64. -/
def parseUint (s : String) (base bitSize : Nat) : Except NumError Nat :=
  let invalid : Except NumError Nat := .error ⟨"ParseUint", s, .errSyntax⟩
  match s.toList with
  | [] => invalid
  | c0 :: t =>
    let (base', digits) : Nat × List Char :=
      if base = 0 then
        if c0 = '0' then
          match t with
          | b :: rest@(_ :: _) =>
            if lower b = 'b' then (2, rest) else if lower b = 'o' then (8, rest)
            else if lower b = 'x' then (16, rest) else (8, t)
          | _ => (8, t)
        else (10, s.toList)
      else (base, s.toList)
    match parseDigits base' (2 ^ bitSize - 1) (base = 0) 0 false digits with
    | none => invalid
    | some none => .error ⟨"ParseUint", s, .errRange⟩
    | some (some (n, us)) => if us ∧ !underscoreOK s.toList then invalid else .ok n

/-- `strconv.ParseInt(s, base, bitSize)`: an optional sign, then `ParseUint`, then the cutoff. -/
def parseInt (s : String) (base bitSize : Nat) : Except NumError Int :=
  match s.toList with
  | [] => .error ⟨"ParseInt", s, .errSyntax⟩
  | c0 :: t =>
    let (neg, body) : Bool × List Char :=
      if c0 = '+' then (false, t) else if c0 = '-' then (true, t) else (false, c0 :: t)
    let cutoff := 2 ^ (bitSize - 1)
    match parseUint ⟨body⟩ base bitSize with
    | .error e =>
      if e.err = .errRange then .error ⟨"ParseInt", s, .errRange⟩ else .error ⟨"ParseInt", s, e.err⟩
    | .ok un =>
      if !neg ∧ cutoff ≤ un then .error ⟨"ParseInt", s, .errRange⟩
      else if neg ∧ cutoff < un then .error ⟨"ParseInt", s, .errRange⟩
      else .ok (if neg then -(un : Int) else un)

/-- A chain of calls that return errors succeeds exactly when its first call does and the rest,
run on that call's result, do. -/
theorem bind_eq_ok {ε α β : Type} {x : Except ε α} {f : α → Except ε β} {b : β} :
    x >>= f = .ok b ↔ ∃ a, x = .ok a ∧ f a = .ok b := by
  cases x <;> simp [bind, Except.bind]

/-- `strconv.FormatUint(n, 10)`. -/
def formatUint (n : Nat) : String := Nat.repr n

/-- `fmt.Sprintf("%d", i)` and `strconv.Itoa(i)`. -/
def itoa (i : Int) : String := toString i

end WireproxyAwg.Go
