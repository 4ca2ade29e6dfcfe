import Mathlib
import YunLink.Lib.Grammar
import YunLink.Profiles.Proto

/-!
# Telemetry summaries

A summary lists metrics.  The key of a metric is a dotted name, which C++ scans byte by byte and
the bindings split at the dots.

## Main definitions

* `SummarySnapshot`, `Metric`, `MetricValue` — the messages.
* `Cpp.validMetricKey`, `Rust.validMetricKey`, `Python.validMetricKey` — the grammar of keys.
* `metricSegment` — the regular language of the segments of a key.
* `Cpp.validateSummarySnapshot`, … — the validators, over the size of the encoded message.

## Main results

* `Cpp.validMetricKey_iff` — **the scanner accepts the grammar.**
* `Rust.validMetricKey_eq`, `Python.validMetricKey_eq` — the splits accept what the scanner
  does.
* `validMetricKey_grammar` — **the three are one grammar.**
* `summaryValidators_unanimous_iff` — **the validators agree unless only the sign of a quality is
  wrong.**
-/

namespace YunLink.Telemetry

open Profiles Checks

/-! ### Messages -/

/-- How far the value of a metric can be relied on. -/
inductive MetricQuality
  | unspecified
  | valid
  | stale
  | invalid
  | unavailable
  deriving DecidableEq, Repr

/-- The number of a quality in `telemetry.proto`. -/
@[simp, reducible] def MetricQuality.number : MetricQuality → ℤ
  | .unspecified => 0
  | .valid => 1
  | .stale => 2
  | .invalid => 3
  | .unavailable => 4

/-- `MetricQuality::try_from`. -/
def MetricQuality.tryFrom : ℤ → Option MetricQuality
  | 0 => some .unspecified
  | 1 => some .valid
  | 2 => some .stale
  | 3 => some .invalid
  | 4 => some .unavailable
  | _ => none

/-- The cases of the `oneof` of a value. -/
inductive Value
  | boolValue (value : Bool)
  | intValue (value : ℤ)
  /-- The bits of the double. -/
  | doubleValue (bits : UInt64)
  | enumToken (token : ProtoString)
  | textValue (text : ProtoString)
  deriving DecidableEq, Repr

/-- A value; the `oneof` may be empty. -/
structure MetricValue where
  value : Option Value := none
  deriving DecidableEq, Repr

/-- A metric of a summary, as far as a validator reads it. -/
structure Metric where
  key : ProtoString := []
  value : Option MetricValue := none
  unit : ProtoString := []
  quality : ℤ := 0
  deriving DecidableEq, Repr

/-- A summary, as far as a validator reads it. -/
structure SummarySnapshot where
  metrics : List Metric := []
  deriving DecidableEq, Repr

/-- What the `oneof` of a metric is set to: `metric.value().value_case()`. -/
def Metric.valueCase (metric : Metric) : Option Value := metric.value.bind (·.value)

/-! ### C++ -/

namespace Cpp

/-- The most metrics. -/
@[simp, reducible] def kSummaryMaxMetrics : ℕ := 64

/-- The longest encoded summary. -/
@[simp, reducible] def kSummaryMaxPayloadBytes : ℕ := 16 * 1024

/-- The longest key. -/
@[simp, reducible] def kMetricMaxKeyBytes : ℕ := 128

/-- The longest unit. -/
@[simp, reducible] def kMetricMaxUnitBytes : ℕ := 16

/-- The longest token. -/
@[simp, reducible] def kMetricMaxEnumBytes : ℕ := 64

/-- The longest text. -/
@[simp, reducible] def kMetricMaxTextBytes : ℕ := 256

/-- The local `lowercase`. -/
def lowercase (character : UInt8) : Bool :=
  'a'.toUInt8 ≤ character && character ≤ 'z'.toUInt8

/-- The local `digit`. -/
def digit (character : UInt8) : Bool :=
  '0'.toUInt8 ≤ character && character ≤ '9'.toUInt8

/-- The loop of `valid_metric_key` over the bytes that are left. -/
def scanMetricKey (segmentCount : ℕ) (segmentStart : Bool) : Text → Bool
  | [] => !segmentStart && 3 ≤ segmentCount
  | character :: rest =>
    if character == '.'.toUInt8 then
      if segmentStart then false else scanMetricKey (segmentCount + 1) true rest
    else if segmentStart then
      if character < 'a'.toUInt8 || 'z'.toUInt8 < character then false
      else scanMetricKey segmentCount false rest
    else if !lowercase character && !digit character && character != '_'.toUInt8 then false
    else scanMetricKey segmentCount false rest

/-- `valid_metric_key`. -/
def validMetricKey (key : Text) : Bool :=
  if key.isEmpty || kMetricMaxKeyBytes < key.length then false else scanMetricKey 1 true key

/-- One pass of the loop over the metrics. -/
def validateMetric (metric : Metric) (fresh : Bool) : Except String Unit := do
  rejectIf (!validMetricKey metric.key.bytes) "invalid metric key"
  rejectIf (!fresh) "duplicate metric key"
  rejectIf (kMetricMaxUnitBytes < metric.unit.size) "metric unit exceeds limit"
  rejectIf
    (metric.quality == MetricQuality.unspecified.number ||
      MetricQuality.unavailable.number < metric.quality)
    "invalid metric quality"
  rejectIf
    ((metric.quality == MetricQuality.valid.number ||
      metric.quality == MetricQuality.stale.number) && metric.valueCase.isNone)
    "metric value is required"
  match metric.valueCase with
  | some (.doubleValue bits) => rejectIf (!isFinite bits) "metric double is not finite"
  | some (.enumToken token) =>
    rejectIf (kMetricMaxEnumBytes < token.size) "metric enum token exceeds limit"
  | some (.textValue text) =>
    rejectIf (kMetricMaxTextBytes < text.size) "metric text exceeds limit"
  | _ => .ok ()

/-- `validate_summary_snapshot`, over `ByteSizeLong`. -/
def validateSummarySnapshot (byteSize : SummarySnapshot → ℕ) (snapshot : SummarySnapshot) :
    Except String Unit := do
  rejectIf (kSummaryMaxMetrics < snapshot.metrics.length) "too many metrics"
  rejectIf (kSummaryMaxPayloadBytes < byteSize snapshot) "summary payload exceeds limit"
  eachFresh (fun metric => metric.key.bytes) validateMetric [] snapshot.metrics

end Cpp

/-! ### Rust -/

namespace Rust

/-- The most metrics. -/
@[simp, reducible] def SUMMARY_MAX_METRICS : ℕ := 64

/-- The longest encoded summary. -/
@[simp, reducible] def SUMMARY_MAX_PAYLOAD_BYTES : ℕ := 16 * 1024

/-- The test of a segment: `is_ascii_lowercase` is `isLower` here, and `is_ascii_digit` is
`isDigit`. -/
def validSegment : List Char → Bool
  | [] => false
  | first :: chars =>
    first.isLower && chars.all fun value => value.isLower || value.isDigit || value == '_'

/-- `valid_metric_key`. -/
def validMetricKey (key : ProtoString) : Bool :=
  if key.isEmpty || 128 < key.size then false
  else
    let segments := key.splitOn '.'
    3 ≤ segments.length && segments.all validSegment

/-- One pass of the loop over the metrics. -/
def validateMetric (metric : Metric) (fresh : Bool) : Except String Unit := do
  rejectIf (!validMetricKey metric.key) "invalid metric key"
  rejectIf (!fresh) "duplicate metric key"
  rejectIf (16 < metric.unit.size) "metric unit exceeds limit"
  let quality ← okOr (MetricQuality.tryFrom metric.quality) "invalid metric quality"
  rejectIf (quality == .unspecified) "invalid metric quality"
  rejectIf ([MetricQuality.valid, .stale].contains quality && metric.valueCase.isNone)
    "metric value is required"
  match metric.valueCase with
  | some (.doubleValue bits) => rejectIf (!isFinite bits) "metric double is not finite"
  | some (.enumToken token) => rejectIf (64 < token.size) "metric enum token exceeds limit"
  | some (.textValue text) => rejectIf (256 < text.size) "metric text exceeds limit"
  | _ => .ok ()

/-- `validate_summary_snapshot`, over `encoded_len`. -/
def validateSummarySnapshot (encodedLen : SummarySnapshot → ℕ) (snapshot : SummarySnapshot) :
    Except String Unit := do
  rejectIf (SUMMARY_MAX_METRICS < snapshot.metrics.length) "too many metrics"
  rejectIf (SUMMARY_MAX_PAYLOAD_BYTES < encodedLen snapshot) "summary payload exceeds limit"
  eachFresh (fun metric => metric.key.bytes) validateMetric [] snapshot.metrics

end Rust

/-! ### Python -/

namespace Python

/-- `char.isascii()`. -/
def isascii (char : Char) : Bool := char.toNat < 128

/-- The test of a segment.  Python asks `islower`, `isalpha` and `isdigit` of ASCII only. -/
def validSegment : List Char → Bool
  | [] => false
  | first :: chars =>
    isascii first && first.isLower && first.isAlpha &&
      chars.all fun char => isascii char && (char.isLower || char.isDigit || char == '_')

/-- `valid_metric_key`. -/
def validMetricKey (key : ProtoString) : Bool :=
  if key.isEmpty || 128 < key.size then false
  else
    let segments := key.splitOn '.'
    3 ≤ segments.length && segments.all validSegment

/-- One pass of the loop over the metrics. -/
def validateMetric (metric : Metric) (fresh : Bool) : Except String Unit := do
  rejectIf (!validMetricKey metric.key) "invalid metric key"
  rejectIf (!fresh) "duplicate metric key"
  rejectIf (16 < metric.unit.size) "metric unit exceeds limit"
  rejectIf
    (!([MetricQuality.valid.number, MetricQuality.stale.number, MetricQuality.invalid.number,
        MetricQuality.unavailable.number].contains metric.quality))
    "invalid metric quality"
  rejectIf
    ([MetricQuality.valid.number, MetricQuality.stale.number].contains metric.quality &&
      metric.valueCase.isNone)
    "metric value is required"
  match metric.valueCase with
  | some (.doubleValue bits) => rejectIf (!isFinite bits) "metric double is not finite"
  | some (.enumToken token) => rejectIf (64 < token.size) "metric enum token exceeds limit"
  | some (.textValue text) => rejectIf (256 < text.size) "metric text exceeds limit"
  | _ => .ok ()

/-- `validate_summary_snapshot`, over `ByteSize`. -/
def validateSummarySnapshot (byteSize : SummarySnapshot → ℕ) (snapshot : SummarySnapshot) :
    Except String Unit := do
  rejectIf (64 < snapshot.metrics.length) "too many metrics"
  rejectIf (16 * 1024 < byteSize snapshot) "summary payload exceeds limit"
  eachFresh (fun metric => metric.key) validateMetric [] snapshot.metrics

end Python

/-! ### The grammar of keys -/

/-- What a segment goes on with. -/
def wordByte (character : UInt8) : Bool :=
  Cpp.lowercase character || Cpp.digit character || character == '_'.toUInt8

/-- A segment of a key, on bytes. -/
def goodSegment : Text → Bool
  | [] => false
  | first :: rest => Cpp.lowercase first && rest.all wordByte

theorem not_lowercase (character : UInt8) :
    (decide (character < 'a'.toUInt8) || decide ('z'.toUInt8 < character)) =
      !Cpp.lowercase character := by
  rw [Cpp.lowercase, Bool.not_and, ← decide_not, ← decide_not]
  congr 1 <;> exact decide_eq_decide.mpr UInt8.not_le.symm

theorem not_wordByte (character : UInt8) :
    (!Cpp.lowercase character && !Cpp.digit character && character != '_'.toUInt8) =
      !wordByte character := by
  simp [wordByte, bne]

/-- **What the scanner accepts from where it stands**: it is at the start of a segment, or in the
middle of one. -/
theorem Cpp.scanMetricKey_eq (segmentCount : ℕ) (segmentStart : Bool) (rest first : Text)
    (others : List Text) (h : rest.splitOn '.'.toUInt8 = first :: others) :
    Cpp.scanMetricKey segmentCount segmentStart rest =
      ((if segmentStart then goodSegment first else first.all wordByte) &&
        others.all goodSegment && 3 ≤ segmentCount + others.length) := by
  induction rest generalizing segmentCount segmentStart first others with
  | nil =>
    rw [List.splitOn_nil] at h
    obtain ⟨rfl, rfl⟩ := List.cons.inj h
    cases segmentStart <;> simp [Cpp.scanMetricKey, goodSegment]
  | cons character rest ih =>
    rw [List.splitOn_cons_eq_if_modifyHead] at h
    obtain ⟨next, pieces, hpieces⟩ := List.exists_cons_of_ne_nil
      (List.splitOn_ne_nil '.'.toUInt8 rest)
    by_cases hdot : character = '.'.toUInt8
    · -- A dot ends a segment, and is refused where one has to start.
      subst hdot
      rw [hpieces, beq_self_eq_true, if_pos rfl] at h
      obtain ⟨rfl, rfl⟩ := List.cons.inj h
      cases segmentStart with
      | true => simp [Cpp.scanMetricKey, goodSegment]
      | false =>
        simp [Cpp.scanMetricKey, ih _ _ _ _ hpieces, Nat.add_assoc, Nat.add_comm 1]
    · -- Any other byte belongs to the segment that the scanner is in.
      rw [hpieces, beq_eq_false_iff_ne.mpr hdot] at h
      simp only [Bool.false_eq_true, if_false, List.modifyHead_cons] at h
      obtain ⟨rfl, rfl⟩ := List.cons.inj h
      have hne : (character == '.'.toUInt8) = false := beq_eq_false_iff_ne.mpr hdot
      cases segmentStart with
      | true =>
        have hrest := ih segmentCount false next pieces hpieces
        rw [Cpp.scanMetricKey, hne, not_lowercase]
        cases hlower : Cpp.lowercase character <;> simp [goodSegment, hlower, hrest]
      | false =>
        have hrest := ih segmentCount false next pieces hpieces
        rw [Cpp.scanMetricKey, hne, not_wordByte]
        cases hword : wordByte character <;> simp [hword, hrest]

theorem Cpp.validMetricKey_iff (key : Text) :
    Cpp.validMetricKey key = true ↔
      key.length ≤ 128 ∧ 3 ≤ (key.splitOn '.'.toUInt8).length ∧
        ∀ segment ∈ key.splitOn '.'.toUInt8, goodSegment segment = true := by
  obtain ⟨first, others, hpieces⟩ := List.exists_cons_of_ne_nil
    (List.splitOn_ne_nil '.'.toUInt8 key)
  have hscan : Cpp.scanMetricKey 1 true key =
      (goodSegment first && others.all goodSegment && 3 ≤ 1 + others.length) :=
    Cpp.scanMetricKey_eq 1 true key first others hpieces
  cases key with
  | nil => simp [Cpp.validMetricKey]
  | cons character rest =>
    simp only [Cpp.validMetricKey, hscan, hpieces]
    simp [Nat.add_comm 1]
    tauto

/-! ### Bytes and characters -/

theorem lowercase_of_not_ascii :
    ∀ byte : UInt8, 128 ≤ byte.toNat → Cpp.lowercase byte = false :=
  Utf8.forall_not_ascii (P := fun byte => Cpp.lowercase byte = false) (by decide +kernel)

theorem wordByte_of_not_ascii : ∀ byte : UInt8, 128 ≤ byte.toNat → wordByte byte = false :=
  Utf8.forall_not_ascii (P := fun byte => wordByte byte = false) (by decide +kernel)

theorem isLower_eq (char : Char) :
    char.isLower = (decide (char.toNat < 128) && Cpp.lowercase char.toUInt8) := by
  refine Utf8.test_eq (by decide) (fun c hc => ?_) char
  simp [Char.isLower, UInt32.le_iff_toNat_le]
  omega

/-- What a segment goes on with, as a character. -/
def wordChar (char : Char) : Bool := char.isLower || char.isDigit || char == '_'

theorem wordChar_eq (char : Char) :
    wordChar char = (decide (char.toNat < 128) && wordByte char.toUInt8) := by
  refine Utf8.test_eq (by decide) (fun c hc => ?_) char
  have hunderscore : c ≠ '_' := by
    rintro rfl
    exact hc (by decide)
  simp [wordChar, Char.isLower, Char.isDigit, UInt32.le_iff_toNat_le, hunderscore]
  omega

/-- **A segment is good as bytes exactly when it is as characters.** -/
theorem goodSegment_encode (segment : List Char) :
    goodSegment (Utf8.encode segment) = Rust.validSegment segment := by
  cases segment with
  | nil => rfl
  | cons c chars =>
    have hcons : Utf8.encode (c :: chars) = String.utf8EncodeChar c ++ Utf8.encode chars := by
      rw [Utf8.encode, List.flatMap_cons, Utf8.encode]
    have hall : (Utf8.encode chars).all wordByte = chars.all wordChar :=
      Utf8.all_encode wordByte_of_not_ascii wordChar_eq chars
    rw [hcons, Rust.validSegment, isLower_eq]
    by_cases hc : c.toNat < 128
    · rw [Utf8.utf8EncodeChar_ascii hc, List.singleton_append, goodSegment, hall,
        decide_eq_true hc, Bool.true_and]
      rfl
    · obtain ⟨first, rest, heq, hbytes⟩ := Utf8.utf8EncodeChar_not_ascii hc
      rw [heq, List.cons_append, goodSegment,
        lowercase_of_not_ascii first (hbytes first List.mem_cons_self), decide_eq_false hc]
      rfl

theorem Rust.validMetricKey_iff (key : ProtoString) :
    Rust.validMetricKey key = true ↔
      key.size ≤ 128 ∧ 3 ≤ (key.splitOn '.').length ∧
        ∀ segment ∈ key.splitOn '.', Rust.validSegment segment = true := by
  cases key with
  | nil => simp [Rust.validMetricKey]
  | cons c chars =>
    simp [Rust.validMetricKey]

/-- **The split of Rust accepts what the scanner of C++ does.** -/
theorem Rust.validMetricKey_eq (key : ProtoString) :
    Rust.validMetricKey key = Cpp.validMetricKey key.bytes := by
  have hsplit : key.bytes.splitOn '.'.toUInt8 = (key.splitOn '.').map Utf8.encode :=
    Utf8.splitOn_encode (by decide) key
  rw [Bool.eq_iff_iff, Rust.validMetricKey_iff, Cpp.validMetricKey_iff, hsplit]
  simp [goodSegment_encode, ProtoString.size]

theorem Python.validSegment_eq (segment : List Char) :
    Python.validSegment segment = Rust.validSegment segment := by
  have hisascii : ∀ char : Char, char.isLower = true → Python.isascii char = true := by
    intro char hlower
    rw [isLower_eq, Bool.and_eq_true] at hlower
    exact hlower.1
  have hword : ∀ char : Char, (Python.isascii char && wordChar char) = wordChar char := by
    intro char
    rw [wordChar_eq, Python.isascii, ← Bool.and_assoc, Bool.and_self]
  cases segment with
  | nil => rfl
  | cons first chars =>
    have hchars : (chars.all fun char => Python.isascii char && wordChar char) =
        chars.all wordChar := congrArg chars.all (funext hword)
    simp only [Python.validSegment, Rust.validSegment]
    simp only [wordChar] at hchars
    rw [hchars]
    cases hlower : first.isLower with
    | false => simp
    | true =>
      simp [hisascii first hlower, Char.isAlpha, hlower]
      rfl

/-- **The split of Python accepts what the scanner of C++ does.** -/
theorem Python.validMetricKey_eq (key : ProtoString) :
    Python.validMetricKey key = Cpp.validMetricKey key.bytes := by
  rw [← Rust.validMetricKey_eq, Python.validMetricKey, Rust.validMetricKey,
    funext Python.validSegment_eq]

/-- The segments of a key: `[a-z][a-z0-9_]*`. -/
def metricSegment : Language UInt8 :=
  Grammar.symbol Cpp.lowercase * KStar.kstar (Grammar.symbol wordByte)

theorem mem_metricSegment (segment : Text) :
    segment ∈ metricSegment ↔ goodSegment segment = true := by
  rw [metricSegment, Grammar.mem_symbol_mul]
  constructor
  · rintro ⟨first, rest, rfl, hfirst, hrest⟩
    rw [Grammar.mem_kstar_symbol] at hrest
    rw [goodSegment, hfirst, List.all_eq_true.mpr hrest]
    rfl
  · intro h
    cases segment with
    | nil => exact absurd h Bool.false_ne_true
    | cons first rest =>
      obtain ⟨hfirst, hrest⟩ := Bool.and_eq_true_iff.mp h
      exact ⟨first, rest, rfl, hfirst, Grammar.mem_kstar_symbol.mpr (List.all_eq_true.mp hrest)⟩

/-- **The scanner is the grammar**: a key has at most 128 bytes and at least three segments.
The bindings, which split the characters of a text, accept the same keys. -/
theorem validMetricKey_grammar (key : Text) (text : ProtoString) :
    (Cpp.validMetricKey key = true ↔
      key.length ≤ 128 ∧ 3 ≤ (key.splitOn '.'.toUInt8).length ∧
        ∀ segment ∈ key.splitOn '.'.toUInt8, segment ∈ metricSegment) ∧
      Rust.validMetricKey text = Cpp.validMetricKey text.bytes ∧
      Python.validMetricKey text = Cpp.validMetricKey text.bytes := by
  refine ⟨?_, Rust.validMetricKey_eq text, Python.validMetricKey_eq text⟩
  simp only [mem_metricSegment]
  exact Cpp.validMetricKey_iff key

example : Cpp.validMetricKey (ascii "robot.battery_0.level") = true := by decide

/-! ### Metrics -/

/-- The bounds on a value. -/
def Value.InRange : Value → Prop
  | doubleValue bits => isFinite bits = true
  | enumToken token => token.size ≤ 64
  | textValue text => text.size ≤ 256
  | boolValue _ | intValue _ => True

/-- What every language asks of a metric.  A quality without a name is not in the way if it is
negative. -/
def Metric.WellFormed (metric : Metric) : Prop :=
  Cpp.validMetricKey metric.key.bytes = true ∧ metric.unit.size ≤ 16 ∧
    metric.quality ≠ 0 ∧ metric.quality ≤ 4 ∧
    (metric.quality = 1 ∨ metric.quality = 2 → metric.valueCase ≠ none) ∧
    ∀ value ∈ metric.valueCase, value.InRange

theorem Cpp.isOk_validateMetric (metric : Metric) :
    (Cpp.validateMetric metric true).isOk = true ↔ metric.WellFormed := by
  cases hvalue : metric.valueCase with
  | none => simp [Cpp.validateMetric, Metric.WellFormed, hvalue, and_assoc]
  | some value =>
    cases value <;> simp [Cpp.validateMetric, Metric.WellFormed, Value.InRange, hvalue, and_assoc]

/-- The qualities that Rust accepts. -/
theorem MetricQuality.tryFrom_cases (n : ℤ) :
    (¬ (1 ≤ n ∧ n ≤ 4) ∧
        (MetricQuality.tryFrom n = none ∨ MetricQuality.tryFrom n = some .unspecified)) ∨
      ∃ quality, MetricQuality.tryFrom n = some quality ∧ quality ≠ .unspecified ∧
        (1 ≤ n ∧ n ≤ 4) ∧ ([MetricQuality.valid, .stale].contains quality = true ↔
          n = 1 ∨ n = 2) := by
  by_cases hrange : 1 ≤ n ∧ n ≤ 4
  · obtain ⟨hlow, hhigh⟩ := hrange
    refine Or.inr ?_
    interval_cases n
    · exact ⟨.valid, rfl, by decide, by decide, by decide⟩
    · exact ⟨.stale, rfl, by decide, by decide, by decide⟩
    · exact ⟨.invalid, rfl, by decide, by decide, by decide⟩
    · exact ⟨.unavailable, rfl, by decide, by decide, by decide⟩
  · refine Or.inl ⟨hrange, ?_⟩
    unfold MetricQuality.tryFrom
    split <;> simp_all

/-- A well-formed metric has a named quality, or a negative one. -/
theorem Metric.WellFormed.quality_range {metric : Metric} (h : metric.WellFormed)
    (hsign : 0 ≤ metric.quality) : 1 ≤ metric.quality ∧ metric.quality ≤ 4 := by
  obtain ⟨-, -, hzero, hhigh, -⟩ := h
  omega

theorem Rust.isOk_validateMetric (metric : Metric) :
    (Rust.validateMetric metric true).isOk = true ↔ metric.WellFormed ∧ 0 ≤ metric.quality := by
  rcases MetricQuality.tryFrom_cases metric.quality with
    ⟨hrange, hquality⟩ | ⟨quality, hquality, hne, hrange, hneeds⟩
  · have hright : ¬ (metric.WellFormed ∧ 0 ≤ metric.quality) :=
      fun h => hrange (h.1.quality_range h.2)
    refine iff_of_false ?_ hright
    rcases hquality with hquality | hquality <;> simp [Rust.validateMetric, hquality]
  · have hzero : metric.quality ≠ 0 := by omega
    have hsign : 0 ≤ metric.quality := by omega
    simp only [Rust.validateMetric, hquality, Metric.WellFormed, isOk_bind, isOk_okOr_bind,
      Option.any_some, isOk_rejectIf, Rust.validMetricKey_eq]
    cases hvalue : metric.valueCase with
    | none => simp [hne, hzero, hsign, hrange.2, ← hneeds]
    | some value =>
      cases value <;> simp [hne, hzero, hsign, hrange.2, Value.InRange]

theorem Python.isOk_validateMetric (metric : Metric) :
    (Python.validateMetric metric true).isOk = true ↔
      metric.WellFormed ∧ 0 ≤ metric.quality := by
  have hquality : metric.quality ∈ [MetricQuality.valid.number, MetricQuality.stale.number,
      MetricQuality.invalid.number, MetricQuality.unavailable.number] ↔
      metric.quality ≠ 0 ∧ metric.quality ≤ 4 ∧ 0 ≤ metric.quality := by
    simp only [MetricQuality.number, List.mem_cons, List.not_mem_nil, or_false]
    omega
  simp only [Python.validateMetric, Metric.WellFormed, isOk_bind, isOk_rejectIf,
    Python.validMetricKey_eq, List.contains_eq_mem, hquality]
  cases hvalue : metric.valueCase with
  | none =>
    simp
    tauto
  | some value =>
    cases value <;> simp [Value.InRange] <;> tauto

/-! ### Summaries -/

variable (byteSize : SummarySnapshot → ℕ)

/-- What every language asks of a summary. -/
def SummarySnapshot.WellFormed (snapshot : SummarySnapshot) : Prop :=
  snapshot.metrics.length ≤ 64 ∧ byteSize snapshot ≤ 16 * 1024 ∧
    (∀ metric ∈ snapshot.metrics, metric.WellFormed) ∧ (snapshot.metrics.map (·.key)).Nodup

/-- No metric has a quality below those that have a name. -/
def SummarySnapshot.NoNegativeQuality (snapshot : SummarySnapshot) : Prop :=
  ∀ metric ∈ snapshot.metrics, 0 ≤ metric.quality

/-- The validator that a language has for summaries. -/
def SummarySnapshot.validate (snapshot : SummarySnapshot) : Language → Except String Unit
  | .cpp => Cpp.validateSummarySnapshot byteSize snapshot
  | .rust => Rust.validateSummarySnapshot byteSize snapshot
  | .python => Python.validateSummarySnapshot byteSize snapshot

theorem Cpp.isOk_validateSummarySnapshot (snapshot : SummarySnapshot) :
    (Cpp.validateSummarySnapshot byteSize snapshot).isOk = true ↔
      snapshot.WellFormed byteSize := by
  have hold : ∀ metric, (Cpp.validateMetric metric false).isOk = false := by
    intro metric
    simp [Cpp.validateMetric]
  simp only [Cpp.validateSummarySnapshot, isOk_bind, Bool.and_eq_true]
  rw [isOk_eachFresh_of_reject hold, ProtoString.nodup_map_bytes]
  simp [SummarySnapshot.WellFormed, Cpp.isOk_validateMetric]

theorem Rust.isOk_validateSummarySnapshot (snapshot : SummarySnapshot) :
    (Rust.validateSummarySnapshot byteSize snapshot).isOk = true ↔
      snapshot.WellFormed byteSize ∧ snapshot.NoNegativeQuality := by
  have hold : ∀ metric, (Rust.validateMetric metric false).isOk = false := by
    intro metric
    simp [Rust.validateMetric]
  simp only [Rust.validateSummarySnapshot, isOk_bind, Bool.and_eq_true]
  rw [isOk_eachFresh_of_reject hold, ProtoString.nodup_map_bytes]
  simp [SummarySnapshot.WellFormed, SummarySnapshot.NoNegativeQuality,
    Rust.isOk_validateMetric, forall_and]
  tauto

theorem Python.isOk_validateSummarySnapshot (snapshot : SummarySnapshot) :
    (Python.validateSummarySnapshot byteSize snapshot).isOk = true ↔
      snapshot.WellFormed byteSize ∧ snapshot.NoNegativeQuality := by
  have hold : ∀ metric, (Python.validateMetric metric false).isOk = false := by
    intro metric
    simp [Python.validateMetric]
  simp only [Python.validateSummarySnapshot, isOk_bind, Bool.and_eq_true]
  rw [isOk_eachFresh_of_reject hold]
  simp [SummarySnapshot.WellFormed, SummarySnapshot.NoNegativeQuality,
    Python.isOk_validateMetric, forall_and]
  tauto

/-- What each language accepts. -/
theorem SummarySnapshot.isOk_validate (snapshot : SummarySnapshot) (l : Language) :
    (snapshot.validate byteSize l).isOk = true ↔
      snapshot.WellFormed byteSize ∧ (l ≠ .cpp → snapshot.NoNegativeQuality) := by
  cases l with
  | cpp => simp [validate, Cpp.isOk_validateSummarySnapshot]
  | rust => simp [validate, Rust.isOk_validateSummarySnapshot]
  | python => simp [validate, Python.isOk_validateSummarySnapshot]

/-- **The validators agree but on summaries that are well formed otherwise and have a metric of
negative quality**, which C++ accepts. -/
theorem summaryValidators_unanimous_iff (snapshot : SummarySnapshot) :
    Unanimous (snapshot.validate byteSize) ↔
      (snapshot.WellFormed byteSize → snapshot.NoNegativeQuality) := by
  rw [unanimous_iff .rust .cpp (snapshot.isOk_validate byteSize)]
  · constructor
    · intro h hwell
      exact (h ⟨hwell, fun h => absurd rfl h⟩).2 (by decide)
    · exact fun h hcpp => ⟨hcpp.1, fun _ => h hcpp.1⟩
  · exact fun l hrust => ⟨hrust.1, fun _ => hrust.2 (by decide)⟩
  · exact fun l haccepted => ⟨haccepted.1, fun h => absurd rfl h⟩

/-- A summary with one metric, whose quality is the number `-1`. -/
def negativeQuality : SummarySnapshot :=
  { metrics := [{ key := ['a', '.', 'b', '.', 'c'], quality := -1 }] }

/-- Its encoding takes 20 bytes. -/
theorem negativeQuality_not_unanimous :
    ¬ Unanimous (negativeQuality.validate fun _ => 20) := by
  rintro (hall | hnone)
  · exact absurd (hall .rust) (by decide)
  · exact absurd (hnone .cpp) (by decide)

end YunLink.Telemetry
