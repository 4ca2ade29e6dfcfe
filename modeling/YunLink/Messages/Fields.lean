import YunLink.Lib.Codec
import YunLink.Wire.Payload

/-!
# Fields of messages

The `Writer` and `Reader` of `core_messages_v2_internal.hpp`: the fields the core messages
are made of, and the agreement of the two on each of them.  A `std::map` is walked in the
order of its keys when it is written, while `Reader::string_map` takes the entries in any
order; `ascendingMap` asks for the order in which they are written.

## Main definitions

* `Writer` — the buffer of the encoders; a text, a list, a map or a byte string that is
  too long invalidates it.
* `PayloadReader.listOf`, `PayloadReader.stringMap` — the readers that loop.

## Main results

* `yields_text`, `restores_text` and their like — a field that was written is read, and
  one that was read is written back.
* `yields_listOf`, `recovers_listOf` — so are lists of fields.
* `agrees_stringMap`, `recovers_stringMap` — **a string map that was written is read, and
  one that was read is written, maybe in another order.**
-/

namespace YunLink

open Codec

/-- `UINT32_MAX`. -/
def uint32Max : ℕ := 4294967295

/-! ### The writer -/

/-- The buffer the encoders of the core messages write to. -/
abbrev Writer := Codec.Buffer UInt8

namespace Writer

/-- `Writer::u8`. -/
def u8 (writer : Writer) (value : UInt8) : Writer := writer.put [value]

/-- `Writer::u16`, little-endian. -/
def u16 (writer : Writer) (value : UInt16) : Writer := writer.put (appendU16 value)

/-- `Writer::u32`, little-endian. -/
def u32 (writer : Writer) (value : UInt32) : Writer := writer.put (appendU32 value)

/-- `Writer::u64`, little-endian. -/
def u64 (writer : Writer) (value : UInt64) : Writer := writer.put (appendU64 value)

/-- The bits of a `float`. -/
def f32 (writer : Writer) (bits : UInt32) : Writer := writer.u32 bits

/-- A `bool`, which the encoders write as `value ? 1 : 0`. -/
def flag (writer : Writer) (value : Bool) : Writer := writer.u8 (if value then 1 else 0)

/-- `Writer::text`: a length in front of the bytes; a text that is too long spoils the buffer. -/
def text (writer : Writer) (value : Text) : Writer :=
  if uint16Max < value.length then writer.invalidate
  else (writer.u16 (UInt16.ofNat value.length)).put value

/-- `Writer::list`: a count in front of the values; too many of them spoil the buffer. -/
def list {α : Type} (writer : Writer) (values : List α) (callback : Writer → α → Writer) :
    Writer :=
  if uint16Max < values.length then writer.invalidate
  else values.foldl callback (writer.u16 (UInt16.ofNat values.length))

/-- `Writer::map`: the entries in the order of their keys. -/
def map (writer : Writer) (values : SortedMap Text Text) : Writer :=
  writer.list values.entries fun writer entry => (writer.text entry.1).text entry.2

/-- `Writer::bytes`: a length of four bytes in front. -/
def bytes (writer : Writer) (value : Bytes) : Writer :=
  if uint32Max < value.length then writer.invalidate
  else (writer.u32 (UInt32.ofNat value.length)).put value

end Writer

/-! ### The reader -/

namespace PayloadReader

variable {α : Type}

/-- `Reader::u64`. -/
def u64 : PayloadReader UInt64 := fun input =>
  if input.length < 8 then none else some (readU64 input, input.drop 8)

/-- The bits of a `float`. -/
def f32 : PayloadReader UInt32 := u32

/-- A value that has to pass a check. -/
def checked (reader : PayloadReader α) (check : α → Bool) : PayloadReader α := do
  let value ← reader
  guard (check value)
  pure value

/-- A byte that has to be zero or one. -/
def flag : PayloadReader Bool := do
  let value ← checked u8 fun value => value ≤ 1
  pure (value != 0)

/-- A text that is a UID. -/
def uid : PayloadReader Text := checked text validUid

/-- `Reader::list`: a count and as many values. -/
def listOf (item : PayloadReader α) : PayloadReader (List α) := do
  let count ← u16
  list item count.toNat

/-- A key and its value. -/
def entry : PayloadReader (Text × Text) := do
  let key ← text
  let value ← text
  pure (key, value)

/-- The loop of `Reader::string_map`, which refuses a key it has met. -/
def stringMapLoop : ℕ → SortedMap Text Text → PayloadReader (SortedMap Text Text)
  | 0, values => pure values
  | count + 1, values => do
      let (key, value) ← entry
      guard ((values.find? key).isNone)
      stringMapLoop count (values.insert key value)

/-- `Reader::string_map`. -/
def stringMap : PayloadReader (SortedMap Text Text) := do
  let count ← u16
  stringMapLoop count.toNat .empty

/-- A string map that lists its keys in ascending order. -/
def ascendingMap : PayloadReader (SortedMap Text Text) := do
  let entries ← listOf entry
  if h : entries.Pairwise fun a b => a.1 < b.1 then pure ⟨entries, h⟩ else failure

/-- `Reader::bytes`. -/
def bytes : PayloadReader Bytes := do
  let size ← u32
  fun input =>
    if input.length < size.toNat then none
    else some (input.take size.toNat, input.drop size.toNat)

end PayloadReader

open PayloadReader

/-- **The whole of what was written is decoded** as what the reader makes of it. -/
theorem decodeAll_take {α : Type} {reader : PayloadReader α} {w : Writer} {out : Option α}
    (h : Yields reader {} w out) (hvalid : w.valid = true) : decodeAll reader w.take = out := by
  obtain ⟨-, written, hdata, hread⟩ := h hvalid
  have hwhole := hread []
  rw [List.append_nil] at hwhole
  rw [Buffer.take_of_valid hvalid, hdata, List.nil_append, decodeAll, hwhole]
  cases out <;> rfl

/-! ### Words and texts -/

section primitives

variable {exact : Prop} {input rest : Bytes}

theorem yields_u8 (value : UInt8) (w : Writer) : Yields u8 w (w.u8 value) (some value) :=
  .put (fun _ => rfl) w

theorem restores_u8 {value : UInt8} (h : u8 input = some (value, rest)) (w : Writer) :
    Restores exact w (w.u8 value) input rest := by
  cases input with
  | nil => exact absurd h (by simp [u8])
  | cons head tail =>
    obtain ⟨rfl, rfl⟩ := Prod.mk.inj (Option.some.inj h)
    exact .put w [head] tail

/-- A word of `n` bytes that was written is read. -/
theorem yields_word {ω : Type} {n : ℕ} {read : Bytes → ω} {append : ω → Bytes} (value : ω)
    (hlength : (append value).length = n) (hread : ∀ rest, read (append value ++ rest) = value)
    (w : Writer) :
    Yields (fun input => if input.length < n then none else some (read input, input.drop n)) w
      (w.put (append value)) (some value) := by
  refine .put (fun rest => ?_) w
  rw [if_neg (by rw [List.length_append]; omega), hread, ← hlength, List.drop_left]

/-- A word of `n` bytes that was read is written back. -/
theorem restores_word {ω : Type} {n : ℕ} {read : Bytes → ω} {append : ω → Bytes} {value : ω}
    (happend : n ≤ input.length → append (read input) = input.take n)
    (h : (if input.length < n then none else some (read input, input.drop n)) = some (value, rest))
    (w : Writer) : Restores exact w (w.put (append value)) input rest := by
  split at h
  · exact absurd h (by simp)
  next hlength =>
  obtain ⟨rfl, rfl⟩ := Prod.mk.inj (Option.some.inj h)
  rw [happend (Nat.le_of_not_lt hlength)]
  have hput : Restores exact w (w.put (input.take n)) (input.take n ++ input.drop n)
      (input.drop n) := .put _ _ _
  rwa [List.take_append_drop] at hput

theorem yields_u16 (value : UInt16) (w : Writer) :
    Yields PayloadReader.u16 w (w.u16 value) (some value) :=
  yields_word value (length_appendU16 value) (readU16_append value) w

theorem restores_u16 {value : UInt16} (h : PayloadReader.u16 input = some (value, rest))
    (w : Writer) : Restores exact w (w.u16 value) input rest :=
  restores_word appendU16_readU16 h w

theorem yields_u32 (value : UInt32) (w : Writer) :
    Yields PayloadReader.u32 w (w.u32 value) (some value) :=
  yields_word value (length_appendU32 value) (readU32_append value) w

theorem restores_u32 {value : UInt32} (h : PayloadReader.u32 input = some (value, rest))
    (w : Writer) : Restores exact w (w.u32 value) input rest :=
  restores_word appendU32_readU32 h w

theorem yields_u64 (value : UInt64) (w : Writer) :
    Yields PayloadReader.u64 w (w.u64 value) (some value) :=
  yields_word value (length_appendU64 value) (readU64_append value) w

theorem restores_u64 {value : UInt64} (h : PayloadReader.u64 input = some (value, rest))
    (w : Writer) : Restores exact w (w.u64 value) input rest :=
  restores_word appendU64_readU64 h w

/-- A text that fits is written behind its length. -/
theorem Writer.text_eq_put {value : Text} (h : value.length ≤ uint16Max) (w : Writer) :
    w.text value = w.put (appendText value) := by
  rw [Writer.text, if_neg (Nat.not_lt.mpr h), Writer.u16, Buffer.put_put]
  rfl

theorem yields_text (value : Text) (w : Writer) :
    Yields PayloadReader.text w (w.text value) (some value) := by
  by_cases h : uint16Max < value.length
  · rw [Writer.text, if_pos h]
    exact .invalidate w _
  · rw [w.text_eq_put (Nat.le_of_not_lt h)]
    exact .put (PayloadReader.Reads.text (Nat.le_of_not_lt h)) w

/-- The bytes behind a length are read as the bytes they are. -/
theorem eq_append_of_sized {size : ℕ} {value : Bytes}
    (h : (if input.length < size then none else some (input.take size, input.drop size)) =
      some (value, rest)) : input = value ++ rest ∧ value.length = size := by
  split at h
  · exact absurd h (by simp)
  next hlength =>
  obtain ⟨rfl, rfl⟩ := Prod.mk.inj (Option.some.inj h)
  exact ⟨(List.take_append_drop size input).symm, by rw [List.length_take]; omega⟩

theorem length_le_of_text {value : Text} (h : PayloadReader.text input = some (value, rest)) :
    value.length ≤ uint16Max := by
  obtain ⟨size, middle, -, hvalue⟩ := Reader.bind_eq_some.mp h
  obtain ⟨-, hlength⟩ := eq_append_of_sized hvalue
  have hword : size.toNat < 65536 := size.toNat_lt
  rw [hlength, uint16Max]
  omega

theorem restores_text {value : Text} (h : PayloadReader.text input = some (value, rest))
    (w : Writer) : Restores exact w (w.text value) input rest := by
  have hle := length_le_of_text h
  obtain ⟨size, middle, hsize, hvalue⟩ := Reader.bind_eq_some.mp h
  obtain ⟨rfl, hlength⟩ := eq_append_of_sized hvalue
  rw [Writer.text, if_neg (Nat.not_lt.mpr hle), hlength, UInt16.ofNat_toNat]
  exact (restores_u16 hsize w).trans (.put _ value rest)

theorem yields_bytes (value : Bytes) (w : Writer) :
    Yields PayloadReader.bytes w (w.bytes value) (some value) := by
  unfold Writer.bytes
  split
  · exact .invalidate w _
  next h =>
  have hsize : (UInt32.ofNat value.length).toNat = value.length :=
    UInt32.toNat_ofNat_of_lt' (Nat.lt_succ_of_le (Nat.le_of_not_lt h))
  refine (yields_u32 _ w).bind (.put (fun rest => ?_) _)
  simp [hsize]

theorem restores_bytes {value : Bytes} (h : PayloadReader.bytes input = some (value, rest))
    (w : Writer) : Restores exact w (w.bytes value) input rest := by
  obtain ⟨size, middle, hsize, hvalue⟩ := Reader.bind_eq_some.mp h
  obtain ⟨rfl, hlength⟩ := eq_append_of_sized hvalue
  have hword : size.toNat < 4294967296 := size.toNat_lt
  rw [Writer.bytes, if_neg (by rw [hlength, uint32Max]; omega), hlength, UInt32.ofNat_toNat]
  exact (restores_u32 hsize w).trans (.put _ value rest)

end primitives

/-! ### Checks and flags -/

section checks

variable {exact : Prop} {α : Type} {reader : PayloadReader α} {check : α → Bool}
  {input rest : Bytes}

theorem yields_checked {w w' : Writer} {value : α} (h : Yields reader w w' (some value))
    (hcheck : check value = true) : Yields (checked reader check) w w' (some value) :=
  h.bind (.check hcheck (.pure value w'))

theorem checked_eq_some {value : α} :
    checked reader check input = some (value, rest) ↔
      reader input = some (value, rest) ∧ check value = true := by
  simp only [checked, Reader.bind_eq_some, Reader.guard_eq_some, Reader.pure_eq_some]
  constructor
  · rintro ⟨a, middle, h, -, _, ⟨hcheck, rfl⟩, rfl, rfl⟩
    exact ⟨h, hcheck⟩
  · rintro ⟨h, hcheck⟩
    exact ⟨value, rest, h, (), rest, ⟨hcheck, rfl⟩, rfl, rfl⟩

theorem yields_uid {value : Text} (h : validUid value = true) (w : Writer) :
    Yields uid w (w.text value) (some value) :=
  yields_checked (yields_text value w) h

theorem restores_uid {value : Text} (h : uid input = some (value, rest)) (w : Writer) :
    Restores exact w (w.text value) input rest :=
  restores_text (checked_eq_some.mp h).1 w

theorem valid_of_uid {value : Text} (h : uid input = some (value, rest)) :
    validUid value = true := (checked_eq_some.mp h).2

theorem yields_flag (value : Bool) (w : Writer) :
    Yields PayloadReader.flag w (w.flag value) (some value) := by
  refine (yields_checked (yields_u8 (if value then 1 else 0) w) ?_).bind ?_
  · cases value <;> rfl
  · cases value
    · exact .pure false _
    · exact .pure true _

theorem flag_of_byte : ∀ byte : UInt8, byte ≤ 1 → (if byte != 0 then 1 else 0) = byte := by
  apply Words.forall_byte
  decide +kernel

theorem restores_flag {value : Bool} (h : PayloadReader.flag input = some (value, rest))
    (w : Writer) : Restores exact w (w.flag value) input rest := by
  obtain ⟨byte, middle, hbyte, hvalue⟩ := Reader.bind_eq_some.mp h
  obtain ⟨rfl, rfl⟩ := Reader.pure_eq_some.mp hvalue
  obtain ⟨hread, hle⟩ := checked_eq_some.mp hbyte
  rw [Writer.flag, flag_of_byte byte (of_decide_eq_true hle)]
  exact restores_u8 hread w

end checks

/-! ### Lists and string maps -/

section lists

variable {exact : Prop} {α : Type} {item : PayloadReader α} {write : Writer → α → Writer}
  {P : α → Prop}

theorem list_eq_times (item : PayloadReader α) :
    ∀ count, PayloadReader.list item count = Reader.times item count := by
  intro count
  induction count with
  | zero => rfl
  | succ count ih => rw [PayloadReader.list, ih, Reader.times]

theorem Writer.list_of_le {values : List α} (h : values.length ≤ uint16Max) (w : Writer) :
    w.list values write = values.foldl write (w.u16 (UInt16.ofNat values.length)) :=
  if_neg (Nat.not_lt.mpr h)

/-- A loop that runs as often as a count says goes over what was written behind it. -/
theorem yields_counted {β : Type} (loop : ℕ → PayloadReader β) {values : List α} {out : Option β}
    (h : ∀ w, Yields (loop values.length) w (values.foldl write w) out) (w : Writer) :
    Yields (PayloadReader.u16 >>= fun count => loop count.toNat) w (w.list values write) out := by
  by_cases hlength : uint16Max < values.length
  · rw [Writer.list, if_pos hlength]
    exact .invalidate w _
  rw [Writer.list_of_le (Nat.le_of_not_lt hlength)]
  refine (yields_u16 (UInt16.ofNat values.length) w).bind ?_
  rw [toNat_ofNat_of_le (Nat.le_of_not_lt hlength)]
  exact h _

theorem yields_listOf (h : Agrees item write P) (values : List α) (hvalues : ∀ a ∈ values, P a)
    (w : Writer) : Yields (listOf item) w (w.list values write) (some values) := by
  refine yields_counted (PayloadReader.list item) (fun w => ?_) w
  have htimes := Yields.times values w fun a ha => h a (hvalues a ha)
  have hsame : values.mapM some = some values := by
    simpa using List.mapM_pure (m := Option) (l := values) (f := id)
  rwa [hsame, ← list_eq_times] at htimes

theorem recovers_listOf (h : Recovers exact item write P) :
    Recovers exact (listOf item) (fun (w : Writer) values => w.list values write) fun values =>
      values.length ≤ uint16Max ∧ ∀ a ∈ values, P a := by
  intro input values rest hread
  obtain ⟨count, middle, hcount, hvalues⟩ := Reader.bind_eq_some.mp hread
  rw [list_eq_times] at hvalues
  obtain ⟨hlength, hgood, hrestored⟩ := h.times _ hvalues
  have hle : values.length ≤ uint16Max := hlength.trans_le (Nat.le_of_lt_succ count.toNat_lt)
  refine ⟨⟨hle, hgood⟩, fun w => ?_⟩
  dsimp only
  rw [Writer.list_of_le hle, hlength, UInt16.ofNat_toNat]
  exact (restores_u16 hcount w).trans (hrestored _)

theorem agrees_text : Agrees PayloadReader.text Writer.text fun _ => True :=
  fun value _ w => yields_text value w

theorem recovers_text :
    Recovers exact PayloadReader.text Writer.text fun value => value.length ≤ uint16Max :=
  fun h => ⟨length_le_of_text h, restores_text h⟩

theorem agrees_uid : Agrees uid Writer.text fun value => validUid value = true :=
  fun _ h w => yields_uid h w

theorem recovers_uid : Recovers exact uid Writer.text fun value => validUid value = true :=
  fun h => ⟨valid_of_uid h, restores_uid h⟩

/-- The texts of an entry fit behind their lengths. -/
def EntryFits (e : Text × Text) : Prop := e.1.length ≤ uint16Max ∧ e.2.length ≤ uint16Max

/-- One entry of a map. -/
def writeEntry (w : Writer) (e : Text × Text) : Writer := (w.text e.1).text e.2

theorem agrees_entry : Agrees entry writeEntry fun _ => True := by
  intro e _ w
  refine (yields_text e.1 w).bind ?_
  exact (yields_text e.2 _).bind (.pure e _)

theorem recovers_entry : Recovers exact entry writeEntry EntryFits := by
  intro input e rest h
  simp only [entry, Reader.bind_eq_some, Reader.pure_eq_some] at h
  obtain ⟨key, _, hkey, value, _, hvalue, rfl, rfl⟩ := h
  refine ⟨⟨length_le_of_text hkey, length_le_of_text hvalue⟩, fun w => ?_⟩
  exact (restores_text hkey w).trans (restores_text hvalue _)

/-- **A string map in ascending order is what its writer writes.** -/
theorem agrees_ascendingMap : Agrees ascendingMap Writer.map fun _ => True := by
  intro m _ w
  refine (yields_listOf agrees_entry m.entries (fun _ _ => trivial) w).bind ?_
  rw [dif_pos m.sorted]
  exact .pure m _

theorem recovers_ascendingMap : Recovers exact ascendingMap Writer.map fun _ => True := by
  intro input m rest h
  obtain ⟨entries, middle, hentries, hm⟩ := Reader.bind_eq_some.mp h
  split at hm
  · next hsorted =>
    obtain ⟨rfl, rfl⟩ := Reader.pure_eq_some.mp hm
    exact ⟨trivial, (recovers_listOf recovers_entry hentries).2⟩
  · exact absurd hm (by simp [failure, Alternative.failure, StateT.failure])

/-- The loop takes entries behind all it has met to the end of its map. -/
theorem yields_stringMapLoop (m : SortedMap Text Text) :
    ∀ (todo : List (Text × Text)) (values : SortedMap Text Text) (w : Writer),
      values.entries ++ todo = m.entries →
      Yields (stringMapLoop todo.length values) w (todo.foldl writeEntry w) (some m) := by
  intro todo
  induction todo with
  | nil =>
    intro values w hsplit
    have hsame : values = m := by
      cases values
      cases m
      simpa using hsplit
    rw [hsame]
    exact .pure m w
  | cons e todo ih =>
    intro values w hsplit
    have hsorted := m.sorted
    rw [← hsplit] at hsorted
    have hbehind : ∀ d ∈ values.entries, d.1 < e.1 := fun d hd =>
      (List.pairwise_append.mp hsorted).2.2 d hd e List.mem_cons_self
    obtain ⟨hnone, hinsert⟩ := SortedMap.entries_insert_of_lt hbehind e.2
    refine (agrees_entry e trivial w).bind (.check ?_ (ih _ _ ?_))
    · rw [hnone]
      rfl
    · rw [hinsert, List.append_assoc]
      exact hsplit

/-- **A string map that was written is read.** -/
theorem agrees_stringMap : Agrees PayloadReader.stringMap Writer.map fun _ => True := by
  intro m _ w
  have hloop : ∀ w, Yields (stringMapLoop m.entries.length .empty) w
      (m.entries.foldl writeEntry w) (some m) := fun w =>
    yields_stringMapLoop m m.entries .empty w rfl
  exact yields_counted (fun count => stringMapLoop count .empty) hloop w

/-- The entries of the map are those that were read, in some order. -/
theorem stringMapLoop_sound :
    ∀ (count : ℕ) {values m : SortedMap Text Text} {input rest : Bytes},
      stringMapLoop count values input = some (m, rest) → (∀ e ∈ values.entries, EntryFits e) →
      m.entries.length = values.entries.length + count ∧ (∀ e ∈ m.entries, EntryFits e) ∧
        ∃ read, input = read ++ rest := by
  intro count
  induction count with
  | zero =>
    intro values m input rest h hfits
    obtain ⟨rfl, rfl⟩ := Reader.pure_eq_some.mp h
    exact ⟨rfl, hfits, [], rfl⟩
  | succ count ih =>
    intro values m input rest h hfits
    simp only [stringMapLoop, Reader.bind_eq_some, Reader.guard_eq_some] at h
    obtain ⟨⟨key, value⟩, middle, hentry, -, _, ⟨hnone, rfl⟩, hmore⟩ := h
    obtain ⟨hentryFits, hrestored⟩ := recovers_entry hentry
    obtain ⟨taken, -, rfl, -⟩ : Restores True _ _ _ _ := hrestored {}
    have hperm := SortedMap.perm_insert (Option.isNone_iff_eq_none.mp hnone) value
    obtain ⟨hlength, hall, read, rfl⟩ := ih hmore fun e he => by
      rcases List.mem_cons.mp (hperm.mem_iff.mp he) with rfl | he
      · exact hentryFits
      · exact hfits e he
    refine ⟨?_, hall, taken ++ read, (List.append_assoc _ _ _).symm⟩
    rw [hlength, hperm.length_eq, List.length_cons]
    omega

/-- Entries that fit are written. -/
theorem foldl_writeEntry {entries : List (Text × Text)} (h : ∀ e ∈ entries, EntryFits e) :
    ∀ w : Writer, ∃ written, entries.foldl writeEntry w = w.put written := by
  induction entries with
  | nil => exact fun w => ⟨[], w.put_nil.symm⟩
  | cons e entries ih =>
    intro w
    obtain ⟨⟨hkey, hvalue⟩, hrest⟩ := List.forall_mem_cons.mp h
    obtain ⟨written, hwritten⟩ := ih hrest (writeEntry w e)
    refine ⟨appendText e.1 ++ (appendText e.2 ++ written), ?_⟩
    rw [List.foldl_cons, hwritten, writeEntry, Writer.text_eq_put hkey, Writer.text_eq_put hvalue,
      Buffer.put_put, Buffer.put_put]

/-- **A string map that was read is written**, maybe in another order. -/
theorem recovers_stringMap : Recovers False PayloadReader.stringMap Writer.map fun _ => True := by
  intro input m rest h
  obtain ⟨count, middle, hcount, hloop⟩ := Reader.bind_eq_some.mp h
  obtain ⟨hlength, hfits, read, rfl⟩ := stringMapLoop_sound _ hloop (by simp [SortedMap.empty])
  have hcount' : m.entries.length = count.toNat := hlength.trans (Nat.zero_add _)
  have hle : m.entries.length ≤ uint16Max := hcount'.trans_le (Nat.le_of_lt_succ count.toNat_lt)
  refine ⟨trivial, fun (w : Writer) => ?_⟩
  obtain ⟨written, hwritten⟩ := foldl_writeEntry hfits (w.u16 count)
  rw [Writer.map, Writer.list_of_le hle, hcount', UInt16.ofNat_toNat]
  exact (restores_u16 hcount w).trans ⟨read, written, rfl, hwritten, False.elim⟩

end lists

end YunLink
