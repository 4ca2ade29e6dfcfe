import Mathlib.Data.List.Basic

/-!
# UTF-8

The encoding of texts as bytes, on lists: the functions of the core library with what a
verification of codecs needs of them.

## Main definitions

* `encode`, `decode` — the bytes of a text, and the text of bytes that have one.
* `valid`, `AllValid` — bytes that are those of a text, and lists of such.
* `units` — the bytes of a character, as numbers.
* `lossy` — decoding that replaces what is no character.

## Main results

* `decode_encoded`, `decode_eq_some` — decoding undoes encoding.
* `valid_iff` — **bytes are valid exactly when they encode a text.**
* `encode_lt` — **the bytes of texts are in the order of the texts.**
* `splitOn_encode` — **the pieces between ASCII separators, of bytes and of characters.**
* `all_encode`, `any_encode` — a test that only ASCII bytes pass, on bytes and on characters.
-/

namespace Utf8

/-- The bytes of a text. -/
def encode (chars : List Char) : List UInt8 := chars.flatMap String.utf8EncodeChar

/-- The text of the bytes, if they are UTF-8. -/
def decode (bytes : List UInt8) : Option (List Char) :=
  bytes.toByteArray.utf8Decode?.map Array.toList

/-- The bytes are UTF-8. -/
def valid (bytes : List UInt8) : Bool := (decode bytes).isSome

theorem decode_encoded (chars : List Char) : decode (encode chars) = some chars := by
  have h := List.utf8Decode?_utf8Encode (l := chars)
  rw [decode, encode, ← List.utf8Encode, h]
  simp

theorem decode_eq_some {bytes : List UInt8} {chars : List Char} (h : decode bytes = some chars) :
    encode chars = bytes := by
  obtain ⟨array, harray, rfl⟩ := Option.map_eq_some_iff.mp h
  have h := ByteArray.utf8Encode_get_utf8Decode? (b := bytes.toByteArray) (h := by simp [harray])
  simp only [harray, Option.get_some] at h
  have := congrArg (fun b : ByteArray => b.data.toList) h
  simpa [encode, List.utf8Encode] using this

theorem valid_iff {bytes : List UInt8} : valid bytes = true ↔ ∃ chars, encode chars = bytes := by
  rw [valid, Option.isSome_iff_exists]
  constructor
  · rintro ⟨chars, h⟩
    exact ⟨chars, decode_eq_some h⟩
  · rintro ⟨chars, rfl⟩
    exact ⟨chars, decode_encoded chars⟩

theorem valid_encode (chars : List Char) : valid (encode chars) = true := valid_iff.mpr ⟨chars, rfl⟩

theorem valid_nil : valid [] = true := valid_encode []

theorem encode_injective : Function.Injective encode := by
  intro s t h
  have hdecode := congrArg decode h
  rw [decode_encoded, decode_encoded] at hdecode
  exact Option.some.inj hdecode

theorem encode_inj {s t : List Char} : encode s = encode t ↔ s = t := encode_injective.eq_iff

@[simp] theorem isEmpty_encode (chars : List Char) : (encode chars).isEmpty = chars.isEmpty := by
  rw [Bool.eq_iff_iff, List.isEmpty_iff, List.isEmpty_iff]
  exact encode_inj (t := [])

/-! ### Order -/

/-- The numbers of the bytes of a character. -/
def units (v : ℕ) : List ℕ :=
  if v ≤ 0x7f then [v]
  else if v ≤ 0x7ff then [v / 64 % 0x20 + 0xc0, v % 0x40 + 0x80]
  else if v ≤ 0xffff then [v / 4096 % 0x10 + 0xe0, v / 64 % 0x40 + 0x80, v % 0x40 + 0x80]
  else [v / 262144 % 0x08 + 0xf0, v / 4096 % 0x40 + 0x80, v / 64 % 0x40 + 0x80, v % 0x40 + 0x80]

theorem units_lt (v : ℕ) : ∀ u ∈ units v, u < 256 := by
  intro u hu
  unfold units at hu
  split_ifs at hu <;> simp at hu <;> omega

theorem map_toNat_utf8EncodeChar (c : Char) :
    (String.utf8EncodeChar c).map UInt8.toNat = units c.val.toNat := by
  have hbytes : String.utf8EncodeChar c = (units c.val.toNat).map UInt8.ofNat := by
    simp only [String.utf8EncodeChar, units]
    split_ifs <;> rfl
  rw [hbytes, List.map_map]
  refine (List.map_congr_left fun u hu => ?_).trans (List.map_id _)
  exact UInt8.toNat_ofNat_of_lt' (units_lt _ u hu)

/-- A number in base 64. -/
theorem base64_digits (v : ℕ) :
    v = 262144 * (v / 262144) + 4096 * (v / 4096 % 64) + 64 * (v / 64 % 64) + v % 64 := by
  have h : v / 64 / 64 = v / 4096 := Nat.div_div_eq_div_mul v 64 64
  have h' : v / 4096 / 64 = v / 262144 := Nat.div_div_eq_div_mul v 4096 64
  omega

/-- The digits of a smaller number come first. -/
theorem base64_lt {v w : ℕ} (h : v < w) : v / 262144 < w / 262144 ∨ v / 262144 = w / 262144 ∧
    (v / 4096 % 64 < w / 4096 % 64 ∨ v / 4096 % 64 = w / 4096 % 64 ∧
    (v / 64 % 64 < w / 64 % 64 ∨ v / 64 % 64 = w / 64 % 64 ∧ v % 64 < w % 64)) := by
  have hv := base64_digits v
  have hw := base64_digits w
  have hlt : ∀ x : ℕ, x % 64 < 64 := fun x => Nat.mod_lt x (by decide)
  have := hlt (v / 4096)
  have := hlt (v / 64)
  have := hlt v
  have := hlt (w / 4096)
  have := hlt (w / 64)
  have := hlt w
  generalize v / 262144 = a, v / 4096 % 64 = b, v / 64 % 64 = c, v % 64 = d at *
  generalize w / 262144 = a', w / 4096 % 64 = b', w / 64 % 64 = c', w % 64 = d' at *
  omega

/-- The bytes of a smaller character come first, whatever follows. -/
theorem units_append_lt {v w : ℕ} (h : v < w) (hw : w < 0x110000) (s t : List ℕ) :
    units v ++ s < units w ++ t := by
  have hdigits := base64_lt h
  have hv : v / 262144 % 8 = v / 262144 := Nat.mod_eq_of_lt (by omega)
  have hw' : w / 262144 % 8 = w / 262144 := Nat.mod_eq_of_lt (by omega)
  unfold units
  split_ifs <;> simp only [List.cons_append, List.nil_append, List.cons_lt_cons_iff] <;> omega

theorem toNat_val_lt (c : Char) : c.val.toNat < 0x110000 := by
  rcases c.valid with h | ⟨-, h⟩
  · exact Nat.lt_trans h (by decide)
  · exact h

theorem map_toNat_encode (chars : List Char) :
    (encode chars).map UInt8.toNat = chars.flatMap fun c => units c.val.toNat := by
  simp only [encode, List.map_flatMap, map_toNat_utf8EncodeChar]

theorem flatMap_units_lt {s t : List Char} (h : s < t) :
    s.flatMap (fun c => units c.val.toNat) < t.flatMap fun c => units c.val.toNat := by
  induction s generalizing t with
  | nil =>
    cases t with
    | nil => exact absurd h (List.not_lt_nil _)
    | cons d t =>
      rw [List.flatMap_nil, List.flatMap_cons]
      unfold units
      split_ifs <;> exact List.nil_lt_cons _ _
  | cons c s ih =>
    cases t with
    | nil => exact absurd h (List.not_lt_nil _)
    | cons d t =>
      rw [List.flatMap_cons, List.flatMap_cons]
      rcases List.cons_lt_cons_iff.mp h with hlt | ⟨rfl, hlt⟩
      · exact units_append_lt hlt (toNat_val_lt d) _ _
      · exact List.append_left_lt (ih hlt)

theorem lt_of_map_toNat_lt {s t : List UInt8} (h : s.map UInt8.toNat < t.map UInt8.toNat) :
    s < t := by
  induction s generalizing t with
  | nil =>
    cases t with
    | nil => exact absurd h (List.not_lt_nil _)
    | cons b t => exact List.nil_lt_cons _ _
  | cons a s ih =>
    cases t with
    | nil => exact absurd h (List.not_lt_nil _)
    | cons b t =>
      rcases List.cons_lt_cons_iff.mp h with hlt | ⟨heq, hlt⟩
      · exact List.cons_lt_cons_iff.mpr (Or.inl (UInt8.lt_iff_toNat_lt.mpr hlt))
      · exact List.cons_lt_cons_iff.mpr (Or.inr ⟨UInt8.toNat_inj.mp heq, ih hlt⟩)

/-- **The order of the bytes is the order of the characters.** -/
theorem encode_lt {s t : List Char} (h : s < t) : encode s < encode t := by
  refine lt_of_map_toNat_lt ?_
  rw [map_toNat_encode, map_toNat_encode]
  exact flatMap_units_lt h

/-! ### Tests on bytes and on characters -/

/-- What holds of the characters up to `0x7f` holds of the ASCII characters. -/
theorem forall_ascii {P : Char → Prop} (h : ∀ n < 128, P (Char.ofNat n)) :
    ∀ c : Char, c.toNat < 128 → P c := by
  intro c hc
  have := h c.toNat hc
  rwa [Char.ofNat_toNat] at this

theorem utf8EncodeChar_ascii {c : Char} (h : c.toNat < 128) :
    String.utf8EncodeChar c = [c.toUInt8] := by
  have hle : c.val.toNat ≤ 0x7f := Nat.le_of_lt_succ h
  simp only [String.utf8EncodeChar, if_pos hle]
  rfl

/-- The bytes of the other characters are not ASCII, and there are some. -/
theorem utf8EncodeChar_not_ascii {c : Char} (h : ¬ c.toNat < 128) :
    ∃ first rest, String.utf8EncodeChar c = first :: rest ∧
      ∀ byte ∈ first :: rest, 128 ≤ byte.toNat := by
  have hunits : ∀ u ∈ units c.val.toNat, 128 ≤ u := by
    intro u hu
    unfold units at hu
    have hc : ¬ c.val.toNat ≤ 0x7f := fun hle => h (Nat.lt_succ_of_le hle)
    rw [if_neg hc] at hu
    split_ifs at hu <;> simp at hu <;> omega
  cases hbytes : String.utf8EncodeChar c with
  | nil => exact absurd hbytes (by simp [String.utf8EncodeChar]; split_ifs <;> simp)
  | cons first rest =>
    refine ⟨first, rest, rfl, fun byte hbyte => hunits _ ?_⟩
    rw [← map_toNat_utf8EncodeChar, hbytes]
    exact List.mem_map_of_mem hbyte

/-- What holds of the bytes from `0x80` on holds of the bytes that are not ASCII. -/
theorem forall_not_ascii {P : UInt8 → Prop} (h : ∀ n < 256, 128 ≤ n → P (UInt8.ofNat n)) :
    ∀ byte : UInt8, 128 ≤ byte.toNat → P byte := by
  intro byte hbyte
  have := h byte.toNat byte.toNat_lt hbyte
  rwa [UInt8.ofNat_toNat] at this

section tests

variable {p : UInt8 → Bool} {q : Char → Bool}

/-- A test on characters that ASCII characters pass as bytes, and no others. -/
theorem test_eq (hascii : ∀ n < 128, q (Char.ofNat n) = p (Char.ofNat n).toUInt8)
    (hother : ∀ c : Char, ¬ c.toNat < 128 → q c = false) (c : Char) :
    q c = (decide (c.toNat < 128) && p c.toUInt8) := by
  by_cases hc : c.toNat < 128
  · rw [decide_eq_true hc, Bool.true_and]
    exact forall_ascii (P := fun c => q c = p c.toUInt8) hascii c hc
  · rw [decide_eq_false hc, Bool.false_and, hother c hc]

/-- A test that no byte above `0x7f` passes, on all bytes of a text. -/
theorem all_encode (hp : ∀ byte : UInt8, 128 ≤ byte.toNat → p byte = false)
    (hq : ∀ c : Char, q c = (decide (c.toNat < 128) && p c.toUInt8)) (chars : List Char) :
    (encode chars).all p = chars.all q := by
  rw [encode, List.all_flatMap]
  congr 1
  funext c
  rw [hq]
  by_cases hc : c.toNat < 128
  · simp [utf8EncodeChar_ascii hc, hc]
  · obtain ⟨first, rest, heq, hbytes⟩ := utf8EncodeChar_not_ascii hc
    simp [heq, hc, hp first (hbytes first List.mem_cons_self)]

/-- A test that no byte above `0x7f` passes, on some byte of a text. -/
theorem any_encode (hp : ∀ byte : UInt8, 128 ≤ byte.toNat → p byte = false)
    (hq : ∀ c : Char, q c = (decide (c.toNat < 128) && p c.toUInt8)) (chars : List Char) :
    (encode chars).any p = chars.any q := by
  rw [encode, List.any_flatMap]
  congr 1
  funext c
  rw [hq]
  by_cases hc : c.toNat < 128
  · simp [utf8EncodeChar_ascii hc, hc]
  · obtain ⟨first, rest, heq, hbytes⟩ := utf8EncodeChar_not_ascii hc
    have hnone : ∀ byte ∈ first :: rest, p byte = false :=
      fun byte hbyte => hp byte (hbytes byte hbyte)
    rw [heq, decide_eq_false hc, Bool.false_and, List.any_eq_false]
    intro byte hbyte
    simp [hnone byte hbyte]

end tests

/-! ### Splitting -/

/-- Values in front that are not the separator belong to the first piece. -/
theorem splitOn_append {α : Type} [BEq α] [LawfulBEq α] {sep : α} {front : List α}
    (h : sep ∉ front) (rest : List α) :
    (front ++ rest).splitOn sep = (rest.splitOn sep).modifyHead (front ++ ·) := by
  induction front with
  | nil =>
    simp only [List.nil_append]
    exact (congrFun List.modifyHead_id (rest.splitOn sep)).symm
  | cons a front ih =>
    rw [List.mem_cons, not_or] at h
    have hne : (a == sep) = false := beq_eq_false_iff_ne.mpr (Ne.symm h.1)
    rw [List.cons_append, List.splitOn_cons_eq_if_modifyHead, hne, ih h.2,
      List.modifyHead_modifyHead]
    rfl

/-- The byte of an ASCII character is in no other character. -/
theorem not_mem_utf8EncodeChar {sep c : Char} (hsep : sep.toNat < 128) (hne : c ≠ sep) :
    sep.toUInt8 ∉ String.utf8EncodeChar c := by
  have hbyte : sep.toUInt8.toNat = sep.toNat := by
    rw [Char.toUInt8, UInt32.toNat_toUInt8]
    exact Nat.mod_eq_of_lt (Nat.lt_trans hsep (by decide))
  by_cases hc : c.toNat < 128
  · rw [utf8EncodeChar_ascii hc, List.mem_singleton]
    intro heq
    have hcbyte : c.toUInt8.toNat = c.toNat := by
      rw [Char.toUInt8, UInt32.toNat_toUInt8]
      exact Nat.mod_eq_of_lt (Nat.lt_trans hc (by decide))
    refine hne (Char.toNat_inj.mp ?_)
    rw [← hcbyte, ← hbyte, heq]
  · obtain ⟨first, rest, heq, hbytes⟩ := utf8EncodeChar_not_ascii hc
    rw [heq]
    intro hmem
    have := hbytes _ hmem
    omega

/-- **The pieces of the bytes are the bytes of the pieces.** -/
theorem splitOn_encode {sep : Char} (hsep : sep.toNat < 128) (chars : List Char) :
    (encode chars).splitOn sep.toUInt8 = (chars.splitOn sep).map encode := by
  induction chars with
  | nil => rfl
  | cons c chars ih =>
    have hcons : encode (c :: chars) = String.utf8EncodeChar c ++ encode chars := by
      rw [encode, List.flatMap_cons, encode]
    rw [hcons, List.splitOn_cons_eq_if_modifyHead]
    by_cases heq : c = sep
    · subst heq
      rw [utf8EncodeChar_ascii hsep, List.singleton_append, List.splitOn_cons_eq_if_modifyHead,
        ih]
      simp [encode]
    · rw [splitOn_append (not_mem_utf8EncodeChar hsep heq), ih]
      simp only [beq_eq_false_iff_ne.mpr heq, Bool.false_eq_true, if_false]
      cases hpieces : chars.splitOn sep with
      | nil => exact absurd hpieces (List.splitOn_ne_nil sep chars)
      | cons first rest => simp [encode]

/-! ### Lists of texts -/

/-- Texts that are all valid. -/
def AllValid (texts : List (List UInt8)) : Prop := ∀ text ∈ texts, valid text = true

section allValid

variable {α : Type}

@[simp] theorem allValid_nil : AllValid [] := by simp [AllValid]

@[simp] theorem allValid_cons {text : List UInt8} {texts : List (List UInt8)} :
    AllValid (text :: texts) ↔ valid text = true ∧ AllValid texts := by
  simp [AllValid]

@[simp] theorem allValid_append {texts more : List (List UInt8)} :
    AllValid (texts ++ more) ↔ AllValid texts ∧ AllValid more := by
  simp [AllValid, or_imp, forall_and]

@[simp] theorem allValid_flatMap {values : List α} {textsOf : α → List (List UInt8)} :
    AllValid (values.flatMap textsOf) ↔ ∀ a ∈ values, AllValid (textsOf a) := by
  simp only [AllValid, List.forall_mem_flatMap]

/-- The strings of an optional part. -/
@[simp] theorem allValid_ite {present : Bool} {texts : List (List UInt8)} :
    AllValid (if present then texts else []) ↔ (present = true → AllValid texts) := by
  cases present <;> simp

end allValid

/-! ### Bytes of other origin -/

/-- What may stand second after a lead byte, from the lowest to the highest, and how many
bytes follow it in all. -/
def followers (lead : UInt8) : Option (UInt8 × UInt8 × ℕ) :=
  if lead < 0xC2 then none
  else if lead ≤ 0xDF then some (0x80, 0xBF, 1)
  else if lead = 0xE0 then some (0xA0, 0xBF, 2)
  else if lead = 0xED then some (0x80, 0x9F, 2)
  else if lead ≤ 0xEF then some (0x80, 0xBF, 2)
  else if lead = 0xF0 then some (0x90, 0xBF, 3)
  else if lead ≤ 0xF3 then some (0x80, 0xBF, 3)
  else if lead = 0xF4 then some (0x80, 0x8F, 3)
  else none

/-- How many of the bytes behind a lead byte belong to the character it begins. -/
def continued (lead : UInt8) (rest : List UInt8) : ℕ :=
  match followers lead, rest with
  | some (lowest, highest, count), second :: more =>
      if lowest ≤ second ∧ second ≤ highest then
        1 + ((more.take (count - 1)).takeWhile fun byte => 0x80 ≤ byte ∧ byte ≤ 0xBF).length
      else 0
  | _, _ => 0

/-- Each stretch of bytes that begins no character becomes one replacement character. -/
def replaced : List UInt8 → List Char
  | [] => []
  | lead :: rest =>
      let count := continued lead rest
      (decode (lead :: rest.take count)).getD [Char.ofNat 0xFFFD] ++ replaced (rest.drop count)
termination_by bytes => bytes.length
decreasing_by
  simp only [List.length_cons, List.length_drop]
  omega

/-- Decoding that never fails. -/
def lossy (bytes : List UInt8) : List Char := (decode bytes).getD (replaced bytes)

theorem encode_lossy {bytes : List UInt8} (h : valid bytes = true) :
    encode (lossy bytes) = bytes := by
  obtain ⟨chars, rfl⟩ := valid_iff.mp h
  rw [lossy, decode_encoded, Option.getD_some]

/-- ASCII bytes are valid. -/
theorem valid_of_ascii {bytes : List UInt8} (h : ∀ byte ∈ bytes, byte.toNat < 128) :
    valid bytes = true := by
  refine valid_iff.mpr ⟨bytes.map fun byte => Char.ofNat byte.toNat, ?_⟩
  induction bytes with
  | nil => rfl
  | cons byte rest ih =>
    obtain ⟨hbyte, hrest⟩ := List.forall_mem_cons.mp h
    have hchar : (Char.ofNat byte.toNat).toNat = byte.toNat := by
      have hall : ∀ n < 128, (Char.ofNat n).toNat = n := by decide
      exact hall byte.toNat hbyte
    have hhead : String.utf8EncodeChar (Char.ofNat byte.toNat) = [byte] := by
      rw [utf8EncodeChar_ascii (by rw [hchar]; exact hbyte)]
      refine congrArg (fun b => [b]) (UInt8.toNat_inj.mp ?_)
      have hall : ∀ n < 128, (Char.ofNat n).toUInt8.toNat = n := by decide
      exact hall byte.toNat hbyte
    have htail := ih hrest
    unfold encode at htail ⊢
    rw [List.map_cons, List.flatMap_cons, hhead, htail]
    rfl

end Utf8
