import YunLink.Lib.Checks
import YunLink.Lib.Utf8
import YunLink.Messages.Resources

/-!
# Messages of the profiles

The messages of the profiles are proto3 messages, and their validators are written three times:
in C++, in Rust and in Python.  A string of such a message is valid UTF-8.  C++ and Rust have its
bytes, Python its characters.  An enumeration is open: a field of it holds any number, and only
some of the numbers have a name.

## Main definitions

* `Language` — the languages of the validators.
* `ProtoString`, `ProtoString.bytes`, `ProtoString.size` — strings.
* `isNan`, `lessThanZero`, `atLeastZero`, `greaterThanZero`, `absGreaterThanZero` — the
  tests on the bits of a `double`.

## Main results

* `atLeastZero_eq` — of a finite number the two ways to ask for its sign agree.
-/

namespace YunLink.Profiles

/-- The languages the validators are written in. -/
inductive Language
  | cpp
  | rust
  | python
  deriving DecidableEq, Repr

/-- A `string` of proto3. -/
abbrev ProtoString := List Char

namespace ProtoString

/-- The bytes of a string: `std::string`, and `&str` where Rust asks for `bytes()`. -/
def bytes (value : ProtoString) : Bytes := Utf8.encode value

/-- `size()` in C++, `len()` in Rust and `len(value.encode())` in Python. -/
def size (value : ProtoString) : ℕ := value.bytes.length

theorem bytes_inj {s t : ProtoString} : s.bytes = t.bytes ↔ s = t := Utf8.encode_inj

@[simp] theorem isEmpty_bytes (value : ProtoString) : value.bytes.isEmpty = value.isEmpty :=
  Utf8.isEmpty_encode value

/-- Strings are distinct when their bytes are. -/
@[simp] theorem nodup_map_bytes {α : Type} (key : α → ProtoString) (values : List α) :
    (values.map fun a => (key a).bytes).Nodup ↔ (values.map key).Nodup := by
  rw [← List.nodup_map_iff Utf8.encode_injective, List.map_map]
  rfl

end ProtoString

/-! ### Tests on doubles -/

/-- `std::isnan`: the exponent is all ones and the fraction is not zero. -/
def isNan (bits : UInt64) : Bool := !isFinite bits && bits &&& 0xfffffffffffff != 0

/-- `value < 0.0`: the sign is set, and the number is not the zero with a sign. -/
def lessThanZero (bits : UInt64) : Bool := !isNan bits && 0x8000000000000000 < bits

/-- `value >= 0.0`. -/
def atLeastZero (bits : UInt64) : Bool := !isNan bits && bits ≤ 0x8000000000000000

/-- `value > 0.0`. -/
def greaterThanZero (bits : UInt64) : Bool :=
  !isNan bits && bits < 0x8000000000000000 && bits != 0

/-- `std::abs(value) > 0.0`. -/
def absGreaterThanZero (bits : UInt64) : Bool := !isNan bits && bits &&& 0x7fffffffffffffff != 0

theorem isNan_eq_false {bits : UInt64} (h : isFinite bits = true) : isNan bits = false := by
  simp [isNan, h]

/-- A finite number is negative or it is not. -/
theorem atLeastZero_eq {bits : UInt64} (h : isFinite bits = true) :
    atLeastZero bits = !lessThanZero bits := by
  rw [atLeastZero, lessThanZero, isNan_eq_false h, Bool.not_false, Bool.true_and, Bool.true_and,
    ← decide_not]
  exact decide_eq_decide.mpr UInt64.not_lt.symm

end YunLink.Profiles
