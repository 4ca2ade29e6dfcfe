import Mathlib
import YunLink.Bindings.PythonCore

/-!
# What the core codec of Python writes

A Python value corresponds to the C++ value whose texts are the bytes of its strings, whose
maps hold the entries of its dictionaries and whose words hold its integers.  What Python
writes of a value is what C++ writes of the one that corresponds.

## Main definitions

* `Python.Dict.Corresponds` — a dictionary and a map have the same entries.
* `Python.Core.Message.Corresponds` — a C++ value is the one a Python value stands for.

## Main results

* `Python.Str.encode_lt` — the order of strings is the order of their bytes.
* `Python.Core.emulates_mapping` — a dictionary is written like the map of its entries.
* `Python.Core.emulates` — **what Python writes, C++ writes** of the value that corresponds.
* `Python.Core.corresponds_unique` — a value whose rate is a number stands for one C++ value.
-/

namespace YunLink.Python

open Codec

/-! ### Strings -/

namespace CodePoint

theorem toChar_ofChar (char : Char) : toChar (ofChar char) = some char := by
  have hvalid : (ofChar char).val.isValidChar := char.valid
  rw [toChar, dif_pos hvalid]
  exact congrArg some (Char.ext rfl)

theorem ofChar_of_toChar {point : CodePoint} {char : Char} (h : toChar point = some char) :
    ofChar char = point := by
  unfold toChar at h
  split at h
  · rw [← Option.some.inj h]
    exact Fin.ext rfl
  · exact absurd h (by simp)

end CodePoint

namespace Str

/-- A string has bytes exactly when it is made of characters. -/
theorem encode_eq_some {string : Str} {bytes : Text} : string.encode = some bytes ↔
    ∃ chars, string = chars.map CodePoint.ofChar ∧ Utf8.encode chars = bytes := by
  have hchars : ∀ {string : Str} {chars : List Char},
      string.mapM CodePoint.toChar = some chars ↔ string = chars.map CodePoint.ofChar := by
    intro string
    induction string with
    | nil =>
      intro chars
      cases chars with
      | nil => simp
      | cons char chars => simp
    | cons point string ih =>
      intro chars
      simp only [List.mapM_cons, Option.pure_def, Option.bind_eq_bind, Option.bind_eq_some_iff,
        Option.some.injEq]
      constructor
      · rintro ⟨char, hchar, chars, hchars, rfl⟩
        rw [List.map_cons, CodePoint.ofChar_of_toChar hchar, ← ih.mp hchars]
      · intro h
        cases chars with
        | nil => exact absurd h (by simp)
        | cons char chars =>
          obtain ⟨rfl, hrest⟩ := List.cons.inj h
          exact ⟨char, CodePoint.toChar_ofChar char, chars, ih.mpr hrest, rfl⟩
  rw [encode, Option.map_eq_some_iff]
  simp only [hchars]

theorem lt_of_map_ofChar_lt {s t : List Char}
    (h : s.map CodePoint.ofChar < t.map CodePoint.ofChar) : s < t := by
  induction s generalizing t with
  | nil =>
    cases t with
    | nil => exact absurd h (List.not_lt_nil _)
    | cons d t => exact List.nil_lt_cons _ _
  | cons c s ih =>
    cases t with
    | nil => exact absurd h (List.not_lt_nil _)
    | cons d t =>
      rcases List.cons_lt_cons_iff.mp h with hlt | ⟨heq, hlt⟩
      · exact List.cons_lt_cons_iff.mpr (Or.inl hlt)
      · have hval : c.val.toNat = d.val.toNat :=
          congrArg (fun point : CodePoint => point.val) heq
        have hsame : c = d := Char.ext (UInt32.toNat_inj.mp hval)
        exact List.cons_lt_cons_iff.mpr (Or.inr ⟨hsame, ih hlt⟩)

/-- **The order of strings is the order of their bytes.** -/
theorem encode_lt {s t : Str} {a b : Text} (ha : s.encode = some a) (hb : t.encode = some b)
    (h : s < t) : a < b := by
  obtain ⟨chars, rfl, rfl⟩ := encode_eq_some.mp ha
  obtain ⟨chars', rfl, rfl⟩ := encode_eq_some.mp hb
  exact Utf8.encode_lt (lt_of_map_ofChar_lt h)

/-- Bytes that are valid are decoded to a string that has them. -/
theorem decode_of_valid {bytes : Text} (h : Utf8.valid bytes = true) :
    ∃ string, string.encode = some bytes ∧ decode bytes = some string := by
  obtain ⟨chars, hchars⟩ := Option.isSome_iff_exists.mp h
  refine ⟨chars.map CodePoint.ofChar, encode_eq_some.mpr ⟨chars, rfl, ?_⟩, ?_⟩
  · exact Utf8.decode_eq_some hchars
  · rw [decode, hchars]
    rfl

end Str

/-! ### Dictionaries -/

/-- The texts of the second entry are the bytes of the strings of the first. -/
def SameEntry (a : Str × Str) (e : Text × Text) : Prop :=
  a.1.encode = some e.1 ∧ a.2.encode = some e.2

namespace Dict

/-- Every entry of either is one of the other. -/
def Corresponds (dict : Dict) (map : SortedMap Text Text) : Prop :=
  (∀ a ∈ dict.entries, ∃ e ∈ map.entries, SameEntry a e) ∧
    ∀ e ∈ map.entries, ∃ a ∈ dict.entries, SameEntry a e

theorem perm_sortedItems (dict : Dict) : dict.sortedItems.Perm dict.entries :=
  List.perm_insertionSort _ _

theorem pairLt_eq_false {a b : Str × Str} :
    pairLt b a = false ↔ a.1 ≤ b.1 ∧ (a.1 = b.1 → a.2 ≤ b.2) := by
  rw [pairLt, decide_eq_false_iff_not, not_or, not_and, not_lt, not_lt]
  exact and_congr_right fun _ => imp_congr_left eq_comm

instance : IsTrans (Str × Str) fun a b => pairLt b a = false := by
  refine ⟨fun a b c hab hbc => ?_⟩
  rw [pairLt_eq_false] at hab hbc ⊢
  refine ⟨hab.1.trans hbc.1, fun hac => ?_⟩
  have heq : a.1 = b.1 := le_antisymm hab.1 (hbc.1.trans_eq hac.symm)
  exact (hab.2 heq).trans (hbc.2 (heq.symm.trans hac))

instance : Std.Total fun a b : Str × Str => pairLt b a = false := by
  refine ⟨fun a b => ?_⟩
  rw [pairLt_eq_false, pairLt_eq_false]
  rcases lt_trichotomy a.1 b.1 with h | h | h
  · exact Or.inl ⟨h.le, fun heq => absurd heq h.ne⟩
  · exact (le_total a.2 b.2).imp (fun hle => ⟨h.le, fun _ => hle⟩) fun hle => ⟨h.ge, fun _ => hle⟩
  · exact Or.inr ⟨h.le, fun heq => absurd heq h.ne⟩

/-- Items that are sorted have ascending keys, since no two of them have the same. -/
theorem pairwise_sortedItems (dict : Dict) : dict.sortedItems.Pairwise fun a b => a.1 < b.1 := by
  have hsorted : dict.sortedItems.Pairwise fun a b => pairLt b a = false :=
    List.pairwise_insertionSort _ _
  have hkeys : dict.sortedItems.Pairwise fun a b => a.1 ≠ b.1 := by
    rw [← List.pairwise_map]
    exact (dict.perm_sortedItems.map Prod.fst).nodup_iff.mpr dict.nodup
  refine (hsorted.and hkeys).imp ?_
  rintro a b ⟨hle, hne⟩
  exact lt_of_le_of_ne (pairLt_eq_false.mp hle).1 hne

theorem entries_set {dict : Dict} {key : Str} (h : key ∉ dict.entries.map Prod.fst)
    (value : Str) : (dict.set key value).entries = dict.entries ++ [(key, value)] := by
  unfold set
  dsimp only
  generalize dict.entries = entries at h ⊢
  induction entries with
  | nil => rfl
  | cons first rest ih =>
    rw [List.map_cons, List.mem_cons, not_or] at h
    rw [setEntry, if_neg (Ne.symm h.1), ih h.2, List.cons_append]

/-- Pairs of distinct keys are the entries of their dictionary. -/
theorem entries_ofPairs {pairs : List (Str × Str)} (h : (pairs.map Prod.fst).Nodup) :
    (ofPairs pairs).entries = pairs := by
  have hfold : ∀ (todo : List (Str × Str)) (dict : Dict),
      ((dict.entries ++ todo).map Prod.fst).Nodup →
      (todo.foldl (fun dict pair => dict.set pair.1 pair.2) dict).entries =
        dict.entries ++ todo := by
    intro todo
    induction todo with
    | nil =>
      intro dict _
      rw [List.foldl_nil, List.append_nil]
    | cons pair todo ih =>
      intro dict hnodup
      have hfresh : pair.1 ∉ dict.entries.map Prod.fst := by
        rw [List.map_append, List.map_cons] at hnodup
        intro hmem
        exact (List.nodup_append.mp hnodup).2.2 _ hmem _ List.mem_cons_self rfl
      have hset := entries_set hfresh pair.2
      rw [List.foldl_cons, ih _ (by rwa [hset, List.append_assoc]), hset, List.append_assoc]
      rfl
  exact hfold pairs empty h

end Dict

namespace Core

open Core.Reader

/-! ### The values that correspond -/

/-- A NaN is any NaN. -/
def SameRate : Rate → UInt32 → Prop
  | .number bits _, word => word = bits
  | .nan, word => isNan word = true

/-- Types of the same name and version. -/
structure TypeRef.Corresponds (value : TypeRef) (cpp : YunLink.TypeRef) : Prop where
  profileId : value.profileId.encode = some cpp.profileId
  major : value.major = cpp.major.toNat
  minor : value.minor = cpp.minor.toNat
  typeName : value.typeName.encode = some cpp.typeName

/-- Strings and their bytes. -/
def SameTexts : List Str → List Text → Prop := List.Forall₂ fun string text =>
  string.encode = some text

/-- Entities, field by field. -/
structure EntityDescriptor.Corresponds (value : EntityDescriptor)
    (cpp : YunLink.EntityDescriptor) : Prop where
  entityUid : value.entityUid.encode = some cpp.entityUid
  kind : value.kind.encode = some cpp.kind
  displayName : value.displayName.encode = some cpp.displayName
  hardwareId : value.hardwareId.encode = some cpp.hardwareId
  attributes : value.attributes.Corresponds cpp.attributes
  capabilities : SameTexts value.capabilities cpp.capabilities
  availability : value.availability = cpp.availability

/-- Directories of the same entities. -/
structure EntityDirectory.Corresponds (value : EntityDirectory)
    (cpp : YunLink.EntityDirectory) : Prop where
  endpointUid : value.endpointUid.encode = some cpp.endpointUid
  revision : value.revision.encode = some cpp.revision
  entities : List.Forall₂ EntityDescriptor.Corresponds value.entities cpp.entities

/-- Requests to attach, field by field. -/
structure AttachmentRequest.Corresponds (value : AttachmentRequest)
    (cpp : YunLink.AttachmentRequest) : Prop where
  expectedRevision : value.expectedRevision.encode = some cpp.expectedRevision
  entityUids : SameTexts value.entityUids cpp.entityUids

/-- Answers to such a request, field by field. -/
structure AttachmentResponse.Corresponds (value : AttachmentResponse)
    (cpp : YunLink.AttachmentResponse) : Prop where
  success : value.success = cpp.success
  revision : value.revision.encode = some cpp.revision
  attachedEntityUids : SameTexts value.attachedEntityUids cpp.attachedEntityUids
  message : value.message.encode = some cpp.message

/-- Requests for a lease; Python's numbers have no width. -/
structure AuthorityRequest.Corresponds (value : AuthorityRequest)
    (cpp : YunLink.AuthorityRequest) : Prop where
  authorityScope : value.authorityScope.encode = some cpp.authorityScope
  leaseTtlMs : value.leaseTtlMs = cpp.leaseTtlMs.toNat
  allowPreempt : value.allowPreempt = cpp.allowPreempt

/-- Statuses, field by field. -/
structure AuthorityStatus.Corresponds (value : AuthorityStatus)
    (cpp : YunLink.AuthorityStatus) : Prop where
  authorityScope : value.authorityScope.encode = some cpp.authorityScope
  state : value.state.encode = some cpp.state
  leaseTtlMs : value.leaseTtlMs = cpp.leaseTtlMs.toNat
  reasonCode : value.reasonCode = cpp.reasonCode.toNat
  detail : value.detail.encode = some cpp.detail

/-- Streams, field by field. -/
structure StreamDescriptor.Corresponds (value : StreamDescriptor)
    (cpp : YunLink.StreamDescriptor) : Prop where
  streamUid : value.streamUid.encode = some cpp.streamUid
  typeRef : value.typeRef.Corresponds cpp.type
  encoding : value.encoding.encode = some cpp.encoding
  metadata : value.metadata.Corresponds cpp.metadata

/-- Catalogs of the same streams. -/
structure StreamCatalog.Corresponds (value : StreamCatalog)
    (cpp : YunLink.StreamCatalog) : Prop where
  revision : value.revision.encode = some cpp.revision
  streams : List.Forall₂ StreamDescriptor.Corresponds value.streams cpp.streams

/-- Subscriptions at the same rate. -/
structure StreamSubscription.Corresponds (value : StreamSubscription)
    (cpp : YunLink.StreamSubscription) : Prop where
  streamUid : value.streamUid.encode = some cpp.streamUid
  maxRateHz : SameRate value.maxRateHz cpp.maxRateHz
  maxPayloadBytes : value.maxPayloadBytes = cpp.maxPayloadBytes.toNat

/-- Statuses of a subscription, field by field. -/
structure StreamSubscriptionStatus.Corresponds (value : StreamSubscriptionStatus)
    (cpp : YunLink.StreamSubscriptionStatus) : Prop where
  success : value.success = cpp.success
  subscribed : value.subscribed = cpp.subscribed
  streamUid : value.streamUid.encode = some cpp.streamUid
  maxRateHz : SameRate value.maxRateHz cpp.maxRateHz
  maxPayloadBytes : value.maxPayloadBytes = cpp.maxPayloadBytes.toNat
  message : value.message.encode = some cpp.message

/-- Samples of the same bytes. -/
structure StreamSample.Corresponds (value : StreamSample) (cpp : YunLink.StreamSample) : Prop where
  streamUid : value.streamUid.encode = some cpp.streamUid
  encoding : value.encoding.encode = some cpp.encoding
  metadata : value.metadata.Corresponds cpp.metadata
  sourceTimestampNs : value.sourceTimestampNs = cpp.sourceTimestampNs.toNat
  sequence : value.sequence = cpp.sequence.toNat
  data : value.data = cpp.data

/-- Updates of an action, field by field. -/
structure ActionUpdate.Corresponds (value : ActionUpdate) (cpp : YunLink.ActionUpdate) : Prop where
  phase : value.phase = cpp.phase
  resultCode : value.resultCode = cpp.resultCode.toNat
  progressPercent : value.progressPercent = cpp.progressPercent.toNat
  detail : value.detail.encode = some cpp.detail

/-- The C++ value is the one the Python value stands for. -/
def Message.Corresponds : (kind : Message) → kind.Value → kind.cpp.Value → Prop
  | entityDirectory => EntityDirectory.Corresponds
  | attachmentRequest => AttachmentRequest.Corresponds
  | attachmentResponse => AttachmentResponse.Corresponds
  | authorityRequest => AuthorityRequest.Corresponds
  | authorityStatus => AuthorityStatus.Corresponds
  | streamCatalog => StreamCatalog.Corresponds
  | streamSubscription => StreamSubscription.Corresponds
  | streamSubscriptionStatus => StreamSubscriptionStatus.Corresponds
  | streamSample => StreamSample.Corresponds
  | actionUpdate => ActionUpdate.Corresponds

/-- The rate of a message that has one is a number. -/
def Message.RateIsNumber : (kind : Message) → kind.Value → Prop
  | streamSubscription => fun value : StreamSubscription => value.maxRateHz ≠ .nan
  | streamSubscriptionStatus => fun value : StreamSubscriptionStatus => value.maxRateHz ≠ .nan
  | entityDirectory | attachmentRequest | attachmentResponse | authorityRequest
  | authorityStatus | streamCatalog | streamSample | actionUpdate => fun _ => True

/-! ### What Python writes -/

theorem packed_eq_some {bound : ℕ} {word : ℕ → Bytes} {d d' : Writer} {n : ℤ} :
    Writer.packed bound word d n = some d' ↔ (0 ≤ n ∧ n < bound) ∧ d' = d ++ word n.toNat := by
  rw [Writer.packed, Option.ite_none_right_eq_some, Option.some.injEq, eq_comm (a := d')]

/-- An integer is written like the word that holds it. -/
theorem emulates_packed {ω : Type} {bound : ℕ} {toNat : ω → ℕ} {ofNat : ℕ → ω}
    {append : ω → Bytes} (h : ∀ n < bound, toNat (ofNat n) = n) :
    Emulates (fun (n : ℤ) word => n = toNat word)
      (Writer.packed bound fun n => append (ofNat n)) fun w word => w.put (append word) := by
  intro d n d' hwrite
  obtain ⟨⟨hle, hlt⟩, rfl⟩ := packed_eq_some.mp hwrite
  refine ⟨ofNat n.toNat, ?_, rfl⟩
  dsimp only
  rw [h n.toNat (by omega), Int.toNat_of_nonneg hle]

theorem emulates_u8 : Emulates (fun (n : ℤ) (word : UInt8) => n = word.toNat) Writer.u8
    YunLink.Writer.u8 :=
  @emulates_packed _ _ _ _ (fun word => [word]) fun _ h => UInt8.toNat_ofNat_of_lt' h

theorem emulates_u16 : Emulates (fun (n : ℤ) (word : UInt16) => n = word.toNat) Writer.u16
    YunLink.Writer.u16 :=
  emulates_packed fun _ h => UInt16.toNat_ofNat_of_lt' h

theorem emulates_u32 : Emulates (fun (n : ℤ) (word : UInt32) => n = word.toNat) Writer.u32
    YunLink.Writer.u32 :=
  emulates_packed fun _ h => UInt32.toNat_ofNat_of_lt' h

theorem emulates_u64 : Emulates (fun (n : ℤ) (word : UInt64) => n = word.toNat) Writer.u64
    YunLink.Writer.u64 :=
  emulates_packed fun _ h => UInt64.toNat_ofNat_of_lt' h

/-- A length that fits is written as its word. -/
theorem u16_length {d d' : Writer} {n : ℕ} (h : d.u16 n = some d') :
    d' = d ++ appendU16 (UInt16.ofNat n) := (packed_eq_some.mp h).2

theorem u32_length {d d' : Writer} {n : ℕ} (h : d.u32 n = some d') :
    d' = d ++ appendU32 (UInt32.ofNat n) := (packed_eq_some.mp h).2

theorem emulates_f32 : Emulates SameRate Writer.f32 YunLink.Writer.f32 := by
  intro d rate d' h
  obtain rfl := Option.some.inj h
  cases rate with
  | number bits hbits => exact ⟨bits, rfl, rfl⟩
  | nan => exact ⟨0x7FC00000, (by decide : isNan 0x7FC00000 = true), rfl⟩

theorem emulates_flag : Emulates Eq Writer.flag YunLink.Writer.flag := by
  intro d value d' h
  refine ⟨value, rfl, ?_⟩
  cases value with
  | false =>
    obtain rfl := Option.some.inj h
    rfl
  | true =>
    obtain rfl := Option.some.inj h
    rfl

/-- The byte of an enumerator. -/
theorem emulates_code {α : Type} (code : α → UInt8) :
    Emulates Eq (fun d a => Writer.u8 d (code a).toNat) fun w a =>
      YunLink.Writer.u8 w (code a) := by
  intro d a d' h
  obtain ⟨word, hword, hwrite⟩ := emulates_u8 _ _ _ h
  obtain rfl : code a = word := UInt8.toNat_inj.mp (Int.ofNat_inj.mp hword)
  exact ⟨a, rfl, hwrite⟩

theorem emulates_text :
    Emulates (fun string text => string.encode = some text) Writer.text YunLink.Writer.text := by
  intro d string d' h
  obtain ⟨encoded, hencoded, h⟩ := Option.bind_eq_some_iff.mp h
  obtain ⟨hle, h⟩ := Option.ite_none_left_eq_some.mp h
  obtain ⟨middle, hsize, h⟩ := Option.bind_eq_some_iff.mp h
  obtain rfl := Option.some.inj h
  obtain rfl := u16_length hsize
  refine ⟨encoded, hencoded, ?_⟩
  exact (if_neg hle).trans rfl

theorem emulates_blob : Emulates Eq Writer.blob YunLink.Writer.bytes := by
  intro d value d' h
  obtain ⟨hle, h⟩ := Option.ite_none_left_eq_some.mp h
  obtain ⟨middle, hsize, h⟩ := Option.bind_eq_some_iff.mp h
  obtain rfl := Option.some.inj h
  obtain rfl := u32_length hsize
  refine ⟨value, rfl, ?_⟩
  exact (if_neg hle).trans rfl

theorem emulates_items {α β : Type} {related : α → β → Prop}
    {write : Writer → α → Option Writer} {write' : YunLink.Writer → β → YunLink.Writer}
    (h : Emulates related write write') :
    Emulates (List.Forall₂ related) (fun d values => Writer.items d values write)
      fun w values => YunLink.Writer.list w values write' := by
  intro d values d' hwrite
  obtain ⟨hle, hwrite⟩ := Option.ite_none_left_eq_some.mp hwrite
  obtain ⟨middle, hsize, hwrite⟩ := Option.bind_eq_some_iff.mp hwrite
  obtain rfl := u16_length hsize
  obtain ⟨values', hrelated, hwritten⟩ := h.foldl _ _ _ hwrite
  refine ⟨values', hrelated, ?_⟩
  rw [hrelated.length_eq] at hle hwritten
  exact (if_neg hle).trans hwritten

theorem emulates_pair : Emulates SameEntry Writer.pair writeEntry := by
  intro d item d' h
  obtain ⟨middle, hkey, hvalue⟩ := Option.bind_eq_some_iff.mp h
  obtain ⟨key, hsame, hwritten⟩ := emulates_text _ _ _ hkey
  obtain ⟨value, hsame', hwritten'⟩ := emulates_text _ _ _ hvalue
  refine ⟨(key, value), ⟨hsame, hsame'⟩, ?_⟩
  rw [writeEntry, hwritten, hwritten']

/-- Every value of the first list has a partner in the second. -/
theorem exists_right_of_forall₂ {α β : Type} {related : α → β → Prop} {values : List α}
    {values' : List β} (h : List.Forall₂ related values values') :
    ∀ a ∈ values, ∃ b ∈ values', related a b := by
  induction h with
  | nil =>
    intro a ha
    exact absurd ha List.not_mem_nil
  | cons hab _ ih =>
    intro a ha
    rcases List.mem_cons.mp ha with rfl | ha
    · exact ⟨_, List.mem_cons_self, hab⟩
    · obtain ⟨b, hb, hab⟩ := ih a ha
      exact ⟨b, List.mem_cons_of_mem _ hb, hab⟩

theorem exists_left_of_forall₂ {α β : Type} {related : α → β → Prop} {values : List α}
    {values' : List β} (h : List.Forall₂ related values values') :
    ∀ b ∈ values', ∃ a ∈ values, related a b :=
  exists_right_of_forall₂ h.flip

/-- Bytes of strings in ascending order are in ascending order. -/
theorem pairwise_of_sameEntry {items : List (Str × Str)} {entries : List (Text × Text)}
    (h : List.Forall₂ SameEntry items entries) (hsorted : items.Pairwise fun a b => a.1 < b.1) :
    entries.Pairwise fun a b => a.1 < b.1 := by
  induction h with
  | nil => exact List.Pairwise.nil
  | @cons a e items entries ha hrest ih =>
    obtain ⟨hfirst, hothers⟩ := List.pairwise_cons.mp hsorted
    refine List.pairwise_cons.mpr ⟨fun e' he' => ?_, ih hothers⟩
    obtain ⟨a', ha', hsame⟩ := exists_left_of_forall₂ hrest e' he'
    exact Str.encode_lt ha.1 hsame.1 (hfirst a' ha')

/-- **A dictionary is written like the map of its entries.** -/
theorem emulates_mapping : Emulates Dict.Corresponds Writer.mapping YunLink.Writer.map := by
  intro d dict d' h
  obtain ⟨entries, hsame, hwritten⟩ := emulates_items emulates_pair _ _ _ h
  have hsorted := pairwise_of_sameEntry hsame dict.pairwise_sortedItems
  have hmem : ∀ a, a ∈ dict.sortedItems ↔ a ∈ dict.entries := fun _ => dict.perm_sortedItems.mem_iff
  refine ⟨⟨entries, hsorted⟩, ⟨fun a ha => ?_, fun e he => ?_⟩, hwritten⟩
  · exact exists_right_of_forall₂ hsame a ((hmem a).mpr ha)
  · obtain ⟨a, ha, hae⟩ := exists_left_of_forall₂ hsame e he
    exact ⟨a, (hmem a).mp ha, hae⟩

theorem emulates_type : Emulates TypeRef.Corresponds writeType YunLink.TypeRef.write := by
  intro d value d' h
  simp only [writeType, Option.bind_eq_bind, Option.bind_eq_some_iff] at h
  obtain ⟨_, h₁, _, h₂, _, h₃, h₄⟩ := h
  obtain ⟨profileId, hprofileId, w₁⟩ := emulates_text _ _ _ h₁
  obtain ⟨major, hmajor, w₂⟩ := emulates_u16 _ _ _ h₂
  obtain ⟨minor, hminor, w₃⟩ := emulates_u16 _ _ _ h₃
  obtain ⟨typeName, htypeName, w₄⟩ := emulates_text _ _ _ h₄
  refine ⟨{ profileId, major, minor, typeName }, ⟨hprofileId, hmajor, hminor, htypeName⟩, ?_⟩
  simp only [YunLink.TypeRef.write, w₁, w₂, w₃, w₄]

theorem emulates_entity :
    Emulates EntityDescriptor.Corresponds writeEntity YunLink.EntityDescriptor.write := by
  intro d value d' h
  simp only [writeEntity, Option.bind_eq_bind, Option.bind_eq_some_iff] at h
  obtain ⟨_, h₁, _, h₂, _, h₃, _, h₄, _, h₅, _, h₆, h₇⟩ := h
  obtain ⟨entityUid, hentityUid, w₁⟩ := emulates_text _ _ _ h₁
  obtain ⟨kind, hkind, w₂⟩ := emulates_text _ _ _ h₂
  obtain ⟨displayName, hdisplayName, w₃⟩ := emulates_text _ _ _ h₃
  obtain ⟨hardwareId, hhardwareId, w₄⟩ := emulates_text _ _ _ h₄
  obtain ⟨attributes, hattributes, w₅⟩ := emulates_mapping _ _ _ h₅
  obtain ⟨capabilities, hcapabilities, w₆⟩ := emulates_items emulates_text _ _ _ h₆
  obtain ⟨availability, havailability, w₇⟩ := emulates_code Availability.toUInt8 _ _ _ h₇
  refine ⟨{ entityUid, kind, displayName, hardwareId, attributes, capabilities, availability },
    ⟨hentityUid, hkind, hdisplayName, hhardwareId, hattributes, hcapabilities, havailability⟩, ?_⟩
  simp only [YunLink.EntityDescriptor.write, w₁, w₂, w₃, w₄, w₅, w₆, w₇]

theorem emulates_stream :
    Emulates StreamDescriptor.Corresponds StreamDescriptor.write
      YunLink.StreamDescriptor.write := by
  intro d value d' h
  simp only [StreamDescriptor.write, Option.bind_eq_bind, Option.bind_eq_some_iff] at h
  obtain ⟨_, h₁, _, h₂, _, h₃, h₄⟩ := h
  obtain ⟨streamUid, hstreamUid, w₁⟩ := emulates_text _ _ _ h₁
  obtain ⟨type, htype, w₂⟩ := emulates_type _ _ _ h₂
  obtain ⟨encoding, hencoding, w₃⟩ := emulates_text _ _ _ h₃
  obtain ⟨metadata, hmetadata, w₄⟩ := emulates_mapping _ _ _ h₄
  refine ⟨{ streamUid, type, encoding, metadata }, ⟨hstreamUid, htype, hencoding, hmetadata⟩, ?_⟩
  simp only [YunLink.StreamDescriptor.write, w₁, w₂, w₃, w₄]

theorem emulates_entityDirectory :
    Emulates EntityDirectory.Corresponds EntityDirectory.write YunLink.EntityDirectory.write := by
  intro d value d' h
  simp only [EntityDirectory.write, Option.bind_eq_bind, Option.bind_eq_some_iff] at h
  obtain ⟨_, h₁, _, h₂, h₃⟩ := h
  obtain ⟨endpointUid, hendpointUid, w₁⟩ := emulates_text _ _ _ h₁
  obtain ⟨revision, hrevision, w₂⟩ := emulates_text _ _ _ h₂
  obtain ⟨entities, hentities, w₃⟩ := emulates_items emulates_entity _ _ _ h₃
  refine ⟨{ endpointUid, revision, entities }, ⟨hendpointUid, hrevision, hentities⟩, ?_⟩
  simp only [YunLink.EntityDirectory.write, w₁, w₂, w₃]

theorem emulates_attachmentRequest :
    Emulates AttachmentRequest.Corresponds AttachmentRequest.write
      YunLink.AttachmentRequest.write := by
  intro d value d' h
  simp only [AttachmentRequest.write, Option.bind_eq_bind, Option.bind_eq_some_iff] at h
  obtain ⟨_, h₁, h₂⟩ := h
  obtain ⟨expectedRevision, hexpectedRevision, w₁⟩ := emulates_text _ _ _ h₁
  obtain ⟨entityUids, hentityUids, w₂⟩ := emulates_items emulates_text _ _ _ h₂
  refine ⟨{ expectedRevision, entityUids }, ⟨hexpectedRevision, hentityUids⟩, ?_⟩
  simp only [YunLink.AttachmentRequest.write, w₁, w₂]

theorem emulates_attachmentResponse :
    Emulates AttachmentResponse.Corresponds AttachmentResponse.write
      YunLink.AttachmentResponse.write := by
  intro d value d' h
  simp only [AttachmentResponse.write, Option.bind_eq_bind, Option.bind_eq_some_iff] at h
  obtain ⟨_, h₁, _, h₂, _, h₃, h₄⟩ := h
  obtain ⟨success, hsuccess, w₁⟩ := emulates_flag _ _ _ h₁
  obtain ⟨revision, hrevision, w₂⟩ := emulates_text _ _ _ h₂
  obtain ⟨attachedEntityUids, huids, w₃⟩ := emulates_items emulates_text _ _ _ h₃
  obtain ⟨message, hmessage, w₄⟩ := emulates_text _ _ _ h₄
  refine ⟨{ success, revision, attachedEntityUids, message },
    ⟨hsuccess, hrevision, huids, hmessage⟩, ?_⟩
  simp only [YunLink.AttachmentResponse.write, w₁, w₂, w₃, w₄]

theorem emulates_authorityRequest :
    Emulates AuthorityRequest.Corresponds AuthorityRequest.write
      YunLink.AuthorityRequest.write := by
  intro d value d' h
  simp only [AuthorityRequest.write, Option.bind_eq_bind, Option.bind_eq_some_iff] at h
  obtain ⟨_, h₁, _, h₂, h₃⟩ := h
  obtain ⟨authorityScope, hauthorityScope, w₁⟩ := emulates_text _ _ _ h₁
  obtain ⟨leaseTtlMs, hleaseTtlMs, w₂⟩ := emulates_u32 _ _ _ h₂
  obtain ⟨allowPreempt, hallowPreempt, w₃⟩ := emulates_flag _ _ _ h₃
  refine ⟨{ authorityScope, leaseTtlMs, allowPreempt },
    ⟨hauthorityScope, hleaseTtlMs, hallowPreempt⟩, ?_⟩
  simp only [YunLink.AuthorityRequest.write, w₁, w₂, w₃]

theorem emulates_authorityStatus :
    Emulates AuthorityStatus.Corresponds AuthorityStatus.write YunLink.AuthorityStatus.write := by
  intro d value d' h
  simp only [AuthorityStatus.write, Option.bind_eq_bind, Option.bind_eq_some_iff] at h
  obtain ⟨_, h₁, _, h₂, _, h₃, _, h₄, h₅⟩ := h
  obtain ⟨authorityScope, hauthorityScope, w₁⟩ := emulates_text _ _ _ h₁
  obtain ⟨state, hstate, w₂⟩ := emulates_text _ _ _ h₂
  obtain ⟨leaseTtlMs, hleaseTtlMs, w₃⟩ := emulates_u32 _ _ _ h₃
  obtain ⟨reasonCode, hreasonCode, w₄⟩ := emulates_u16 _ _ _ h₄
  obtain ⟨detail, hdetail, w₅⟩ := emulates_text _ _ _ h₅
  refine ⟨{ authorityScope, state, leaseTtlMs, reasonCode, detail },
    ⟨hauthorityScope, hstate, hleaseTtlMs, hreasonCode, hdetail⟩, ?_⟩
  simp only [YunLink.AuthorityStatus.write, w₁, w₂, w₃, w₄, w₅]

theorem emulates_streamCatalog :
    Emulates StreamCatalog.Corresponds StreamCatalog.write YunLink.StreamCatalog.write := by
  intro d value d' h
  simp only [StreamCatalog.write, Option.bind_eq_bind, Option.bind_eq_some_iff] at h
  obtain ⟨_, h₁, h₂⟩ := h
  obtain ⟨revision, hrevision, w₁⟩ := emulates_text _ _ _ h₁
  obtain ⟨streams, hstreams, w₂⟩ := emulates_items emulates_stream _ _ _ h₂
  refine ⟨{ revision, streams }, ⟨hrevision, hstreams⟩, ?_⟩
  simp only [YunLink.StreamCatalog.write, w₁, w₂]

theorem emulates_streamSubscription :
    Emulates StreamSubscription.Corresponds StreamSubscription.write
      YunLink.StreamSubscription.write := by
  intro d value d' h
  simp only [StreamSubscription.write, Option.bind_eq_bind, Option.bind_eq_some_iff] at h
  obtain ⟨_, h₁, _, h₂, h₃⟩ := h
  obtain ⟨streamUid, hstreamUid, w₁⟩ := emulates_text _ _ _ h₁
  obtain ⟨maxRateHz, hmaxRateHz, w₂⟩ := emulates_f32 _ _ _ h₂
  obtain ⟨maxPayloadBytes, hmaxPayloadBytes, w₃⟩ := emulates_u32 _ _ _ h₃
  refine ⟨{ streamUid, maxRateHz, maxPayloadBytes }, ⟨hstreamUid, hmaxRateHz, hmaxPayloadBytes⟩, ?_⟩
  simp only [YunLink.StreamSubscription.write, w₁, w₂, w₃]

theorem emulates_streamSubscriptionStatus :
    Emulates StreamSubscriptionStatus.Corresponds StreamSubscriptionStatus.write
      YunLink.StreamSubscriptionStatus.write := by
  intro d value d' h
  simp only [StreamSubscriptionStatus.write, Option.bind_eq_bind, Option.bind_eq_some_iff] at h
  obtain ⟨_, h₁, _, h₂, _, h₃, _, h₄, _, h₅, h₆⟩ := h
  obtain ⟨success, hsuccess, w₁⟩ := emulates_flag _ _ _ h₁
  obtain ⟨subscribed, hsubscribed, w₂⟩ := emulates_flag _ _ _ h₂
  obtain ⟨streamUid, hstreamUid, w₃⟩ := emulates_text _ _ _ h₃
  obtain ⟨maxRateHz, hmaxRateHz, w₄⟩ := emulates_f32 _ _ _ h₄
  obtain ⟨maxPayloadBytes, hbytes, w₅⟩ := emulates_u32 _ _ _ h₅
  obtain ⟨message, hmessage, w₆⟩ := emulates_text _ _ _ h₆
  refine ⟨{ success, subscribed, streamUid, maxRateHz, maxPayloadBytes, message },
    ⟨hsuccess, hsubscribed, hstreamUid, hmaxRateHz, hbytes, hmessage⟩, ?_⟩
  simp only [YunLink.StreamSubscriptionStatus.write, w₁, w₂, w₃,
    w₄, w₅, w₆]

theorem emulates_streamSample :
    Emulates StreamSample.Corresponds StreamSample.write YunLink.StreamSample.write := by
  intro d value d' h
  simp only [StreamSample.write, Option.bind_eq_bind, Option.bind_eq_some_iff] at h
  obtain ⟨_, h₁, _, h₂, _, h₃, _, h₄, _, h₅, h₆⟩ := h
  obtain ⟨streamUid, hstreamUid, w₁⟩ := emulates_text _ _ _ h₁
  obtain ⟨encoding, hencoding, w₂⟩ := emulates_text _ _ _ h₂
  obtain ⟨metadata, hmetadata, w₃⟩ := emulates_mapping _ _ _ h₃
  obtain ⟨sourceTimestampNs, htimestamp, w₄⟩ := emulates_u64 _ _ _ h₄
  obtain ⟨sequence, hsequence, w₅⟩ := emulates_u64 _ _ _ h₅
  obtain ⟨data, hdata, w₆⟩ := emulates_blob _ _ _ h₆
  refine ⟨{ streamUid, encoding, metadata, sourceTimestampNs, sequence, data },
    ⟨hstreamUid, hencoding, hmetadata, htimestamp, hsequence, hdata⟩, ?_⟩
  simp only [YunLink.StreamSample.write, w₁, w₂, w₃, w₄, w₅, w₆]

theorem emulates_actionUpdate :
    Emulates ActionUpdate.Corresponds ActionUpdate.write YunLink.ActionUpdate.write := by
  intro d value d' h
  simp only [ActionUpdate.write, Option.bind_eq_bind, Option.bind_eq_some_iff] at h
  obtain ⟨_, h₁, _, h₂, _, h₃, h₄⟩ := h
  obtain ⟨phase, hphase, w₁⟩ := emulates_code ActionPhase.toUInt8 _ _ _ h₁
  obtain ⟨resultCode, hresultCode, w₂⟩ := emulates_u16 _ _ _ h₂
  obtain ⟨progressPercent, hprogressPercent, w₃⟩ := emulates_u8 _ _ _ h₃
  obtain ⟨detail, hdetail, w₄⟩ := emulates_text _ _ _ h₄
  refine ⟨{ phase, resultCode, progressPercent, detail },
    ⟨hphase, hresultCode, hprogressPercent, hdetail⟩, ?_⟩
  simp only [YunLink.ActionUpdate.write, w₁, w₂, w₃, w₄]

/-- **What Python writes, C++ writes** of the value that corresponds. -/
theorem emulates (kind : Message) : Emulates kind.Corresponds kind.write kind.cpp.write := by
  cases kind with
  | entityDirectory => exact emulates_entityDirectory
  | attachmentRequest => exact emulates_attachmentRequest
  | attachmentResponse => exact emulates_attachmentResponse
  | authorityRequest => exact emulates_authorityRequest
  | authorityStatus => exact emulates_authorityStatus
  | streamCatalog => exact emulates_streamCatalog
  | streamSubscription => exact emulates_streamSubscription
  | streamSubscriptionStatus => exact emulates_streamSubscriptionStatus
  | streamSample => exact emulates_streamSample
  | actionUpdate => exact emulates_actionUpdate

/-! ### The value that corresponds is unique -/

section unique

open Relator

theorem rightUnique_text : RightUnique fun (string : Str) text => string.encode = some text := by
  intro string text text' h h'
  exact Option.some.inj (h.symm.trans h')

theorem rightUnique_texts : RightUnique SameTexts := rightUnique_text.forall₂

theorem rightUnique_entry : RightUnique SameEntry := by
  rintro a ⟨key, value⟩ ⟨key', value'⟩ h h'
  exact Prod.ext (rightUnique_text h.1 h'.1) (rightUnique_text h.2 h'.2)

/-- An entry of one of the maps of a dictionary is in the other. -/
theorem mem_of_corresponds {dict : Dict} {map map' : SortedMap Text Text}
    (h : dict.Corresponds map) (h' : dict.Corresponds map') {e : Text × Text}
    (he : e ∈ map.entries) : e ∈ map'.entries := by
  obtain ⟨a, ha, hsame⟩ := h.2 e he
  obtain ⟨e', he', hsame'⟩ := h'.1 a ha
  rwa [rightUnique_entry hsame hsame']

theorem rightUnique_dict : RightUnique Dict.Corresponds := by
  intro dict map map' h h'
  refine SortedMap.eq_iff_find?_eq_some.mpr fun key value => ?_
  rw [← SortedMap.mem_entries_iff, ← SortedMap.mem_entries_iff]
  exact ⟨mem_of_corresponds h h', mem_of_corresponds h' h⟩

theorem word_unique {ω : Type} {toNat : ω → ℕ} (hinj : Function.Injective toNat) {n : ℤ}
    {word word' : ω} (h : n = toNat word) (h' : n = toNat word') : word = word' :=
  hinj (Int.ofNat_inj.mp (h.symm.trans h'))

theorem rightUnique_u8 : RightUnique fun (n : ℤ) (word : UInt8) => n = word.toNat :=
  fun _ _ _ => word_unique fun _ _ => UInt8.toNat_inj.mp

theorem rightUnique_u16 : RightUnique fun (n : ℤ) (word : UInt16) => n = word.toNat :=
  fun _ _ _ => word_unique fun _ _ => UInt16.toNat_inj.mp

theorem rightUnique_u32 : RightUnique fun (n : ℤ) (word : UInt32) => n = word.toNat :=
  fun _ _ _ => word_unique fun _ _ => UInt32.toNat_inj.mp

theorem rightUnique_u64 : RightUnique fun (n : ℤ) (word : UInt64) => n = word.toNat :=
  fun _ _ _ => word_unique fun _ _ => UInt64.toNat_inj.mp

theorem rate_unique {rate : Rate} (hrate : rate ≠ .nan) {word word' : UInt32}
    (h : SameRate rate word) (h' : SameRate rate word') : word = word' := by
  cases rate with
  | number bits _ => exact Eq.trans h h'.symm
  | nan => exact absurd rfl hrate

theorem rightUnique_type : RightUnique TypeRef.Corresponds := by
  rintro value ⟨⟩ ⟨⟩ h h'
  rw [YunLink.TypeRef.mk.injEq]
  exact ⟨rightUnique_text h.profileId h'.profileId, rightUnique_u16 h.major h'.major,
    rightUnique_u16 h.minor h'.minor, rightUnique_text h.typeName h'.typeName⟩

theorem rightUnique_entity : RightUnique EntityDescriptor.Corresponds := by
  rintro value ⟨⟩ ⟨⟩ h h'
  rw [YunLink.EntityDescriptor.mk.injEq]
  exact ⟨rightUnique_text h.entityUid h'.entityUid, rightUnique_text h.kind h'.kind,
    rightUnique_text h.displayName h'.displayName, rightUnique_text h.hardwareId h'.hardwareId,
    rightUnique_dict h.attributes h'.attributes, rightUnique_texts h.capabilities h'.capabilities,
    h.availability.symm.trans h'.availability⟩

theorem rightUnique_stream : RightUnique StreamDescriptor.Corresponds := by
  rintro value ⟨⟩ ⟨⟩ h h'
  rw [YunLink.StreamDescriptor.mk.injEq]
  exact ⟨rightUnique_text h.streamUid h'.streamUid, rightUnique_type h.typeRef h'.typeRef,
    rightUnique_text h.encoding h'.encoding, rightUnique_dict h.metadata h'.metadata⟩

/-- **A Python value whose rate is a number stands for one C++ value.** -/
theorem corresponds_unique {kind : Message} {value : kind.Value} (hrate : kind.RateIsNumber value)
    {cpp cpp' : kind.cpp.Value} (h : kind.Corresponds value cpp)
    (h' : kind.Corresponds value cpp') : cpp = cpp' := by
  cases kind with
  | entityDirectory =>
    obtain ⟨h₁, h₂, h₃⟩ := h
    obtain ⟨h₁', h₂', h₃'⟩ := h'
    cases cpp
    cases cpp'
    exact (YunLink.EntityDirectory.mk.injEq ..).mpr ⟨rightUnique_text h₁ h₁',
      rightUnique_text h₂ h₂', rightUnique_entity.forall₂ h₃ h₃'⟩
  | attachmentRequest =>
    obtain ⟨h₁, h₂⟩ := h
    obtain ⟨h₁', h₂'⟩ := h'
    cases cpp
    cases cpp'
    exact (YunLink.AttachmentRequest.mk.injEq ..).mpr ⟨rightUnique_text h₁ h₁',
      rightUnique_texts h₂ h₂'⟩
  | attachmentResponse =>
    obtain ⟨h₁, h₂, h₃, h₄⟩ := h
    obtain ⟨h₁', h₂', h₃', h₄'⟩ := h'
    cases cpp
    cases cpp'
    exact (YunLink.AttachmentResponse.mk.injEq ..).mpr ⟨h₁.symm.trans h₁',
      rightUnique_text h₂ h₂', rightUnique_texts h₃ h₃', rightUnique_text h₄ h₄'⟩
  | authorityRequest =>
    obtain ⟨h₁, h₂, h₃⟩ := h
    obtain ⟨h₁', h₂', h₃'⟩ := h'
    cases cpp
    cases cpp'
    exact (YunLink.AuthorityRequest.mk.injEq ..).mpr ⟨rightUnique_text h₁ h₁',
      rightUnique_u32 h₂ h₂', h₃.symm.trans h₃'⟩
  | authorityStatus =>
    obtain ⟨h₁, h₂, h₃, h₄, h₅⟩ := h
    obtain ⟨h₁', h₂', h₃', h₄', h₅'⟩ := h'
    cases cpp
    cases cpp'
    exact (YunLink.AuthorityStatus.mk.injEq ..).mpr ⟨rightUnique_text h₁ h₁',
      rightUnique_text h₂ h₂', rightUnique_u32 h₃ h₃', rightUnique_u16 h₄ h₄',
      rightUnique_text h₅ h₅'⟩
  | streamCatalog =>
    obtain ⟨h₁, h₂⟩ := h
    obtain ⟨h₁', h₂'⟩ := h'
    cases cpp
    cases cpp'
    exact (YunLink.StreamCatalog.mk.injEq ..).mpr ⟨rightUnique_text h₁ h₁',
      rightUnique_stream.forall₂ h₂ h₂'⟩
  | streamSubscription =>
    obtain ⟨h₁, h₂, h₃⟩ := h
    obtain ⟨h₁', h₂', h₃'⟩ := h'
    cases cpp
    cases cpp'
    exact (YunLink.StreamSubscription.mk.injEq ..).mpr ⟨rightUnique_text h₁ h₁',
      rate_unique hrate h₂ h₂', rightUnique_u32 h₃ h₃'⟩
  | streamSubscriptionStatus =>
    obtain ⟨h₁, h₂, h₃, h₄, h₅, h₆⟩ := h
    obtain ⟨h₁', h₂', h₃', h₄', h₅', h₆'⟩ := h'
    cases cpp
    cases cpp'
    exact (YunLink.StreamSubscriptionStatus.mk.injEq ..).mpr ⟨h₁.symm.trans h₁',
      h₂.symm.trans h₂', rightUnique_text h₃ h₃', rate_unique hrate h₄ h₄',
      rightUnique_u32 h₅ h₅', rightUnique_text h₆ h₆'⟩
  | streamSample =>
    obtain ⟨h₁, h₂, h₃, h₄, h₅, h₆⟩ := h
    obtain ⟨h₁', h₂', h₃', h₄', h₅', h₆'⟩ := h'
    cases cpp
    cases cpp'
    exact (YunLink.StreamSample.mk.injEq ..).mpr ⟨rightUnique_text h₁ h₁',
      rightUnique_text h₂ h₂', rightUnique_dict h₃ h₃', rightUnique_u64 h₄ h₄',
      rightUnique_u64 h₅ h₅', h₆.symm.trans h₆'⟩
  | actionUpdate =>
    obtain ⟨h₁, h₂, h₃, h₄⟩ := h
    obtain ⟨h₁', h₂', h₃', h₄'⟩ := h'
    cases cpp
    cases cpp'
    exact (YunLink.ActionUpdate.mk.injEq ..).mpr ⟨h₁.symm.trans h₁', rightUnique_u16 h₂ h₂',
      rightUnique_u8 h₃ h₃', rightUnique_text h₄ h₄'⟩

end unique

end Core

end YunLink.Python
