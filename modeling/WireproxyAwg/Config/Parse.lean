import WireproxyAwg.Config.Validate

/-!
# What `ParseASecConfig` reports

`ParseASecConfig` runs sixteen blocks, one per key, and then `ValidateASecConfig`. Eleven of
the blocks can fail: the seven `int` keys, on `sectionKey.Int()`, and the four magic-header keys,
on `parseMagicHeaderInterval`. Whether a block fails depends on its own key's value alone, not
on the record built so far, and a failure returns at once.

So, over every section, the parser reports the error of the first key in source order whose
value does not parse, whatever the keys after it hold. Once every key parses, only the
validator can reject, with one of its messages; and every record the parser returns satisfies
the six conditions of `asecChecks`.
-/

namespace WireproxyAwg.Config

open WireproxyAwg.Go

/-- The error the block for an `int` key raises: `sectionKey.Int()` on the key's value. -/
def intKeyError (s : Section) (name : String) : Option ConfigError :=
  match s.GetKey name with
  | none => none
  | some v => match parseInt v 0 64 with
    | .error e => some (.numError e)
    | .ok _ => none

/-- The error the block for a magic-header key raises: `parseMagicHeaderInterval` on its value. -/
def headerKeyError (s : Section) (name : String) : Option ConfigError :=
  match s.GetKey name with
  | none => none
  | some v => match parseMagicHeaderInterval v with
    | .error e => some e
    | .ok _ => none

/-- What the fallible blocks raise, in the order `ParseASecConfig` runs them. -/
def keyErrors (s : Section) : List (Option ConfigError) :=
  [intKeyError s "Jc", intKeyError s "Jmin", intKeyError s "Jmax", intKeyError s "S1",
   intKeyError s "S2", intKeyError s "S3", intKeyError s "S4", headerKeyError s "H1",
   headerKeyError s "H2", headerKeyError s "H3", headerKeyError s "H4"]

/-- The messages `ValidateASecConfig` can return. -/
def validationErrors : List String :=
  [errJc, errJmin, errJmax, errPacketSizeShort, errPacketSizeLong, errHeaderRange, errHeaderUnique]

/-- The error a failed check reports is one of the checks' errors. -/
theorem FirstFailure.mem_of_some : ∀ {checks : List (Prop × String)} {e : String},
    FirstFailure checks (some e) → e ∈ checks.map Prod.snd
  | [], _, h => by cases h
  | (_, _) :: _, _, .inl ⟨_, h⟩ => by cases h; exact List.mem_cons_self _ _
  | (_, _) :: _, _, .inr ⟨_, h⟩ => List.mem_cons_of_mem _ (FirstFailure.mem_of_some h)

theorem validate_mem_validationErrors {c : Option ASecConfigType} {m : String}
    (h : ValidateASecConfig c = some m) : m ∈ validationErrors := by
  cases c with
  | none => cases h
  | some c =>
    have hm := FirstFailure.mem_of_some (h ▸ validate_some_firstFailure c)
    simp only [asecChecks, List.map_cons, List.map_nil, List.mem_cons, List.not_mem_nil, or_false] at hm
    rcases hm with rfl | rfl | rfl | rfl | rfl | rfl
    all_goals try split_ifs
    all_goals simp only [validationErrors, List.mem_cons, true_or, or_true]

/-! ## The parse, block by block -/

/-- A block fails with `e`, whatever record it is given, or passes. -/
def Raises (x : Except ConfigError (Option ASecConfigType)) : Option ConfigError → Prop
  | some e => x = .error e
  | none => ∃ c, x = .ok c

theorem parseIntKey_raises (s : Section) (name : String) (set : ASecConfigType → Int → ASecConfigType)
    (acc : Option ASecConfigType) : Raises (parseIntKey s name set acc) (intKeyError s name) := by
  unfold parseIntKey intKeyError
  cases s.GetKey name with
  | none => exact ⟨acc, rfl⟩
  | some v =>
    dsimp only
    cases parseInt v 0 64 with
    | error e => rfl
    | ok n => exact ⟨_, rfl⟩

theorem parseHeaderKey_raises (s : Section) (name : String)
    (set : ASecConfigType → UInt32 → UInt32 → ASecConfigType) (acc : Option ASecConfigType) :
    Raises (parseHeaderKey s name set acc) (headerKeyError s name) := by
  unfold parseHeaderKey headerKeyError
  cases s.GetKey name with
  | none => exact ⟨acc, rfl⟩
  | some v =>
    dsimp only
    cases parseMagicHeaderInterval v with
    | error e => rfl
    | ok lohi => exact ⟨_, rfl⟩

/-- What the parse reports from some block on, given what the blocks from there raise: the
first of their errors; once they all pass, only a validator message; and only records the
validator accepts. -/
structure Reports (x : Except ConfigError (Option ASecConfigType)) (errs : List (Option ConfigError)) :
    Prop where
  first : ∀ e, errs.findSome? id = some e → x = .error e
  validated : errs.findSome? id = none → ∀ e, x = .error e → ∃ m ∈ validationErrors, e = .new m
  accepted : ∀ r, x = .ok r → ValidateASecConfig r = none

/-- One more block in front: it fails with its own error, or passes its record on. -/
theorem Reports.bind {x : Except ConfigError (Option ASecConfigType)} {e? : Option ConfigError}
    {errs : List (Option ConfigError)} {f : Option ASecConfigType → Except ConfigError (Option ASecConfigType)}
    (hx : Raises x e?) (hf : ∀ c, Reports (f c) errs) : Reports (x >>= f) (e? :: errs) := by
  cases e? with
  | some e =>
    have hx : x = .error e := hx
    subst hx
    refine ⟨fun e' he' => ?_, fun h => by simp [List.findSome?] at h, fun r h => by cases h⟩
    simp only [List.findSome?, id, Option.some.injEq] at he'
    subst he'
    rfl
  | none =>
    obtain ⟨c, rfl⟩ := hx
    exact ⟨(hf c).first, (hf c).validated, (hf c).accepted⟩

/-- The last step, `ValidateASecConfig(aSecConfig)`. -/
theorem Reports.validate (c : Option ASecConfigType) :
    Reports (match ValidateASecConfig c with
      | some e => .error (.new e)
      | none => .ok c) [] where
  first _ h := by cases h
  validated _ e h := by
    split at h
    · next m hm => cases h; exact ⟨m, validate_mem_validationErrors hm, rfl⟩
    · cases h
  accepted r h := by
    split at h
    · cases h
    · next hm => cases h; exact hm

theorem parseASecConfig_reports (s : Section) : Reports (ParseASecConfig s) (keyErrors s) := by
  unfold ParseASecConfig keyErrors
  refine .bind (parseIntKey_raises ..) fun c => .bind (parseIntKey_raises ..) fun c => ?_
  refine .bind (parseIntKey_raises ..) fun c => .bind (parseIntKey_raises ..) fun c => ?_
  refine .bind (parseIntKey_raises ..) fun c => .bind (parseIntKey_raises ..) fun c => ?_
  refine .bind (parseIntKey_raises ..) fun c => .bind (parseHeaderKey_raises ..) fun c => ?_
  refine .bind (parseHeaderKey_raises ..) fun c => .bind (parseHeaderKey_raises ..) fun c => ?_
  exact .bind (parseHeaderKey_raises ..) fun c => .validate _

/-- **The parser reports the first key that does not parse, and returns only valid records.** For
every section: when some key's value does not parse, `ParseASecConfig` fails with the error of
the first such key in the order `Jc, Jmin, Jmax, S1, S2, S3, S4, H1, H2, H3, H4`, whatever the
keys after it hold; when every key parses, it fails only with one of `ValidateASecConfig`'s
messages; and every record it returns, `nil` included, satisfies the six conditions of
`asecChecks`. -/
theorem ParseASecConfig_first_bad_key (s : Section) :
    (∀ e, (keyErrors s).findSome? id = some e → ParseASecConfig s = .error e) ∧
    ((keyErrors s).findSome? id = none →
      ∀ e, ParseASecConfig s = .error e → ∃ m ∈ validationErrors, e = .new m) ∧
    (∀ r, ParseASecConfig s = .ok r → ∀ pe ∈ asecChecks (r.getD {}), pe.1) := by
  have h := parseASecConfig_reports s
  refine ⟨h.first, h.validated, fun r hr => ?_⟩
  have hnone := h.accepted r hr
  cases r with
  | none => exact (validate_some_firstFailure {}).eq_none_iff.mp rfl
  | some c => exact (validate_some_firstFailure c).eq_none_iff.mp hnone

/-- A section with a bad `Jc` and an empty `H1`: the parser stops at `Jc`. -/
def badJcSection : Section := ⟨fun k => if k = "jc" then some "x" else if k = "h1" then some "" else none⟩

example : ParseASecConfig badJcSection = .error (.numError ⟨"ParseInt", "x", .errSyntax⟩) := rfl

end WireproxyAwg.Config
