import YunLink.Bindings.PythonCoreWriting

/-!
# The core codec of Python against the core codec of C++

Python reads without the checks of identifiers and type references that C++ makes, and makes
its checks of flags behind all that it reads.  What C++ reads, Python reads as well, as long
as the texts are UTF-8.

## Main definitions

* `Python.Core.Message.texts` — the texts of a C++ value.

## Main results

* `Python.Core.simulates_mapping` — a map is read as the dictionary of its entries.
* `Python.Core.simulates` — **what C++ reads, Python reads** as the value that corresponds.
* `pythonCore_agrees_cpp` — **what Python encodes, C++ encodes alike, and what C++ decodes,
  Python decodes alike.**
-/

namespace YunLink

namespace Python.Core

open Codec Core.Reader

/-! ### Texts -/

/-- The key and the value of an entry. -/
def entryTexts (e : Text × Text) : List Text := [e.1, e.2]

/-- The texts of an entity. -/
def entityTexts (entity : YunLink.EntityDescriptor) : List Text :=
  [entity.entityUid, entity.kind, entity.displayName, entity.hardwareId] ++
    (entity.attributes.entries.flatMap entryTexts ++ entity.capabilities)

/-- The texts of a stream. -/
def streamTexts (stream : YunLink.StreamDescriptor) : List Text :=
  [stream.streamUid, stream.type.profileId, stream.type.typeName, stream.encoding] ++
    stream.metadata.entries.flatMap entryTexts

/-- The texts of a directory. -/
def entityDirectoryTexts (value : YunLink.EntityDirectory) : List Text :=
  [value.endpointUid, value.revision] ++ value.entities.flatMap entityTexts

/-- The texts of a request to attach. -/
def attachmentRequestTexts (value : YunLink.AttachmentRequest) : List Text :=
  value.expectedRevision :: value.entityUids

/-- The texts of the answer to a request to attach. -/
def attachmentResponseTexts (value : YunLink.AttachmentResponse) : List Text :=
  value.revision :: (value.attachedEntityUids ++ [value.message])

/-- The texts of a request for a lease. -/
def authorityRequestTexts (value : YunLink.AuthorityRequest) : List Text :=
  [value.authorityScope]

/-- The texts of a status. -/
def authorityStatusTexts (value : YunLink.AuthorityStatus) : List Text :=
  [value.authorityScope, value.state, value.detail]

/-- The texts of a catalog. -/
def streamCatalogTexts (value : YunLink.StreamCatalog) : List Text :=
  value.revision :: value.streams.flatMap streamTexts

/-- The texts of a subscription. -/
def streamSubscriptionTexts (value : YunLink.StreamSubscription) : List Text :=
  [value.streamUid]

/-- The texts of the status of a subscription. -/
def streamSubscriptionStatusTexts (value : YunLink.StreamSubscriptionStatus) : List Text :=
  [value.streamUid, value.message]

/-- The texts of a sample. -/
def streamSampleTexts (value : YunLink.StreamSample) : List Text :=
  [value.streamUid, value.encoding] ++ value.metadata.entries.flatMap entryTexts

/-- The texts of an update. -/
def actionUpdateTexts (value : YunLink.ActionUpdate) : List Text :=
  [value.detail]

/-- The texts of a C++ value. -/
def Message.texts : (kind : Message) → kind.cpp.Value → List Text
  | entityDirectory => entityDirectoryTexts
  | attachmentRequest => attachmentRequestTexts
  | attachmentResponse => attachmentResponseTexts
  | authorityRequest => authorityRequestTexts
  | authorityStatus => authorityStatusTexts
  | streamCatalog => streamCatalogTexts
  | streamSubscription => streamSubscriptionTexts
  | streamSubscriptionStatus => streamSubscriptionStatusTexts
  | streamSample => streamSampleTexts
  | actionUpdate => actionUpdateTexts

/-! ### Fields -/

theorem simulates_word {ω : Type} {toNat : ω → ℕ} (reader : PayloadReader ω) :
    Simulates (fun (n : ℤ) word => n = toNat word)
      (reader >>= fun word => pure (toNat word : ℤ)) reader fun _ => True := by
  intro input word rest h _
  exact ⟨toNat word, rfl, Codec.Reader.bind_eq_some.mpr ⟨word, rest, h, rfl⟩⟩

theorem simulates_f32 : Simulates SameRate f32 PayloadReader.f32 fun _ => True := by
  intro input bits rest h _
  refine ⟨Rate.ofBits bits, ?_, Codec.Reader.bind_eq_some.mpr ⟨bits, rest, h, rfl⟩⟩
  unfold Rate.ofBits
  split
  · exact rfl
  · next hnan => exact eq_true_of_ne_false hnan

theorem flag_of_int : ∀ byte : UInt8, byte ≤ 1 →
    ¬ 1 < (byte.toNat : ℤ) ∧ ((byte.toNat : ℤ) != 0) = (byte != 0) := by
  apply Words.forall_byte
  decide +kernel

/-- The byte of a flag, with the check of its decoder. -/
theorem u8_of_flag {input rest : Bytes} {flag : Bool}
    (h : PayloadReader.flag input = some (flag, rest)) :
    ∃ n : ℤ, u8 input = some (n, rest) ∧ ¬ 1 < n ∧ (n != 0) = flag := by
  obtain ⟨byte, middle, hbyte, hflag⟩ := Codec.Reader.bind_eq_some.mp h
  obtain ⟨rfl, rfl⟩ := Codec.Reader.pure_eq_some.mp hflag
  obtain ⟨hread, hle⟩ := checked_eq_some.mp hbyte
  refine ⟨byte.toNat, Codec.Reader.bind_eq_some.mpr ⟨byte, _, hread, rfl⟩, ?_⟩
  exact flag_of_int byte (of_decide_eq_true hle)

theorem simulates_text : Simulates (fun string text => string.encode = some text) text
    PayloadReader.text fun text => Utf8.valid text = true := by
  intro input value rest h hvalid
  obtain ⟨size, middle, hsize, hvalue⟩ := Codec.Reader.bind_eq_some.mp h
  obtain ⟨string, hencode, hdecode⟩ := Str.decode_of_valid hvalid
  refine ⟨string, hencode, ?_⟩
  simp only [text, u16, Codec.Reader.bind_eq_some]
  refine ⟨size.toNat, middle, ⟨size, middle, hsize, rfl⟩, value, rest, hvalue, ?_⟩
  rw [hdecode]
  rfl

theorem simulates_uid : Simulates (fun string text => string.encode = some text) text
    PayloadReader.uid fun text => Utf8.valid text = true :=
  fun _ _ _ h => simulates_text _ _ _ (checked_eq_some.mp h).1

theorem simulates_blob : Simulates Eq blob PayloadReader.bytes fun _ => True := by
  intro input value rest h _
  obtain ⟨size, middle, hsize, hvalue⟩ := Codec.Reader.bind_eq_some.mp h
  refine ⟨value, rfl, Codec.Reader.bind_eq_some.mpr ⟨size.toNat, middle, ?_, hvalue⟩⟩
  exact Codec.Reader.bind_eq_some.mpr ⟨size, middle, hsize, rfl⟩

theorem simulates_items {α β : Type} {related : α → β → Prop} {read : Reader α}
    {read' : PayloadReader β} {good : β → Prop} (h : Simulates related read read' good) :
    Simulates (List.Forall₂ related) (items read) (PayloadReader.listOf read')
      fun values => ∀ b ∈ values, good b := by
  intro input values rest hread hgood
  obtain ⟨count, middle, hcount, hvalues⟩ := Codec.Reader.bind_eq_some.mp hread
  rw [list_eq_times] at hvalues
  obtain ⟨values', hrelated, hvalues'⟩ := h.times _ _ _ _ hvalues hgood
  rw [← list_eq_times] at hvalues'
  refine ⟨values', hrelated, Codec.Reader.bind_eq_some.mpr ⟨count.toNat, middle, ?_, hvalues'⟩⟩
  exact Codec.Reader.bind_eq_some.mpr ⟨count, middle, hcount, rfl⟩

theorem simulates_pair : Simulates SameEntry pair PayloadReader.entry
    fun e => Utf8.AllValid (entryTexts e) := by
  intro input e rest h hvalid
  simp only [PayloadReader.entry, Codec.Reader.bind_eq_some, Codec.Reader.pure_eq_some] at h
  obtain ⟨key, _, hkey, value, _, hvalue, rfl, rfl⟩ := h
  obtain ⟨hvalidKey, hvalidValue⟩ : Utf8.valid key = true ∧ Utf8.valid value = true := by
    simpa [entryTexts] using hvalid
  obtain ⟨string, hstring, hread⟩ := simulates_text _ _ _ hkey hvalidKey
  obtain ⟨string', hstring', hread'⟩ := simulates_text _ _ _ hvalue hvalidValue
  refine ⟨(string, string'), ⟨hstring, hstring'⟩, ?_⟩
  simp only [pair, Codec.Reader.bind_eq_some, Codec.Reader.pure_eq_some]
  exact ⟨_, _, hread, _, _, hread', rfl, rfl⟩

/-- The loop of C++ collects the entries that it reads. -/
theorem times_of_stringMapLoop :
    ∀ (count : ℕ) {values map : SortedMap Text Text} {input rest : Bytes},
      PayloadReader.stringMapLoop count values input = some (map, rest) →
      ∃ read, Codec.Reader.times PayloadReader.entry count input = some (read, rest) ∧
        map.entries.Perm (values.entries ++ read) := by
  intro count
  induction count with
  | zero =>
    intro values map input rest h
    obtain ⟨rfl, rfl⟩ := Codec.Reader.pure_eq_some.mp h
    exact ⟨[], rfl, by rw [List.append_nil]⟩
  | succ count ih =>
    intro values map input rest h
    obtain ⟨⟨key, value⟩, middle, hentry, h⟩ := Codec.Reader.bind_eq_some.mp h
    obtain ⟨_, _, hguard, h⟩ := Codec.Reader.bind_eq_some.mp h
    obtain ⟨hfresh, rfl⟩ := Codec.Reader.guard_eq_some.mp hguard
    obtain ⟨read, hread, hperm⟩ := ih h
    refine ⟨(key, value) :: read, ?_, ?_⟩
    · refine Codec.Reader.bind_eq_some.mpr ⟨(key, value), middle, hentry, ?_⟩
      exact Codec.Reader.bind_eq_some.mpr ⟨read, rest, hread, rfl⟩
    · have hinsert := SortedMap.perm_insert (Option.isNone_iff_eq_none.mp hfresh) value
      refine hperm.trans ((hinsert.append_right read).trans ?_)
      exact List.perm_middle.symm

/-- Strings of distinct bytes are distinct. -/
theorem nodup_of_sameEntry {items : List (Str × Str)} {entries : List (Text × Text)}
    (h : List.Forall₂ SameEntry items entries) (hnodup : (entries.map Prod.fst).Nodup) :
    (items.map Prod.fst).Nodup := by
  induction h with
  | nil => exact List.nodup_nil
  | @cons a e items entries ha hrest ih =>
    obtain ⟨hfirst, hothers⟩ := List.nodup_cons.mp hnodup
    refine List.nodup_cons.mpr ⟨fun hmem => hfirst ?_, ih hothers⟩
    obtain ⟨a', ha', hkey⟩ := List.mem_map.mp hmem
    obtain ⟨e', he', hsame⟩ := exists_right_of_forall₂ hrest a' ha'
    have hkey' := hsame.1
    rw [hkey] at hkey'
    exact List.mem_map.mpr ⟨e', he', rightUnique_text hkey' ha.1⟩

/-- **A map that C++ reads is read as the dictionary of its entries.** -/
theorem simulates_mapping : Simulates Dict.Corresponds mapping PayloadReader.stringMap
    fun map => Utf8.AllValid (map.entries.flatMap entryTexts) := by
  intro input map rest h hvalid
  obtain ⟨count, middle, hcount, hloop⟩ := Codec.Reader.bind_eq_some.mp h
  obtain ⟨read, hread, hperm⟩ := times_of_stringMapLoop _ hloop
  rw [SortedMap.empty, List.nil_append] at hperm
  have hgood : ∀ e ∈ read, Utf8.AllValid (entryTexts e) := by
    intro e he
    exact Utf8.allValid_flatMap.mp hvalid e (hperm.mem_iff.mpr he)
  have hlist : PayloadReader.listOf PayloadReader.entry input = some (read, rest) := by
    rw [← list_eq_times] at hread
    exact Codec.Reader.bind_eq_some.mpr ⟨count, middle, hcount, hread⟩
  obtain ⟨items, hsame, hitems⟩ := simulates_items simulates_pair _ _ _ hlist hgood
  have hnodup := (hperm.map Prod.fst).nodup_iff.mp map.nodup_keys
  have hentries := Dict.entries_ofPairs (nodup_of_sameEntry hsame hnodup)
  refine ⟨Dict.ofPairs items, ⟨fun a ha => ?_, fun e he => ?_⟩,
    Codec.Reader.bind_eq_some.mpr ⟨items, rest, hitems, rfl⟩⟩
  · rw [hentries] at ha
    obtain ⟨e, he, hae⟩ := exists_right_of_forall₂ hsame a ha
    exact ⟨e, hperm.mem_iff.mpr he, hae⟩
  · rw [hentries]
    exact exists_left_of_forall₂ hsame e (hperm.mem_iff.mp he)

theorem simulates_u8 : Simulates (fun (n : ℤ) (word : UInt8) => n = word.toNat) u8
    PayloadReader.u8 fun _ => True := simulates_word _

theorem simulates_u16 : Simulates (fun (n : ℤ) (word : UInt16) => n = word.toNat) u16
    PayloadReader.u16 fun _ => True := simulates_word _

theorem simulates_u32 : Simulates (fun (n : ℤ) (word : UInt32) => n = word.toNat) u32
    PayloadReader.u32 fun _ => True := simulates_word _

theorem simulates_u64 : Simulates (fun (n : ℤ) (word : UInt64) => n = word.toNat) u64
    PayloadReader.u64 fun _ => True := simulates_word _

theorem availability_of_byte : ∀ byte : UInt8, byte ≤ Availability.offline.toUInt8 →
    [Availability.unknown, .online, .degraded, .offline].find?
      (fun member => ((Availability.toUInt8 member).toNat : ℤ) = byte.toNat) =
      some (.ofUInt8 byte) := by
  apply Words.forall_byte
  decide +kernel

theorem phase_of_byte : ∀ byte : UInt8,
    (ActionPhase.received.toUInt8 ≤ byte && byte ≤ ActionPhase.expired.toUInt8) = true →
    [ActionPhase.received, .accepted, .running, .succeeded, .failed, .cancelled, .expired].find?
      (fun member => ((ActionPhase.toUInt8 member).toNat : ℤ) = byte.toNat) =
      some (.ofUInt8 byte) := by
  apply Words.forall_byte
  decide +kernel

/-- The enumerator of a byte that C++ accepts. -/
theorem enum_of_checked {α : Type} {members : List α} {code : α → UInt8} {check : UInt8 → Bool}
    {ofByte : UInt8 → α} {input rest : Bytes} {byte : UInt8}
    (hcode : ∀ byte, check byte = true →
      members.find? (fun member => ((code member).toNat : ℤ) = byte.toNat) = some (ofByte byte))
    (h : PayloadReader.checked PayloadReader.u8 check input = some (byte, rest)) :
    enum members code input = some (ofByte byte, rest) := by
  obtain ⟨hread, hcheck⟩ := checked_eq_some.mp h
  simp only [enum, u8, Codec.Reader.bind_eq_some]
  refine ⟨byte.toNat, rest, ⟨byte, rest, hread, rfl⟩, ?_⟩
  rw [hcode byte hcheck]
  rfl

/-! ### Payloads -/

theorem simulates_type : Simulates TypeRef.Corresponds readType YunLink.TypeRef.read fun type =>
    Utf8.valid type.profileId = true ∧ Utf8.valid type.typeName = true := by
  rintro input type rest h ⟨hvalid₁, hvalid₂⟩
  obtain ⟨h, -⟩ := checked_eq_some.mp h
  simp only [Codec.Reader.bind_eq_some, Codec.Reader.pure_eq_some] at h
  obtain ⟨_, _, h₁, _, _, h₂, _, _, h₃, _, _, h₄, rfl, rfl⟩ := h
  obtain ⟨profileId, hprofileId, r₁⟩ := simulates_text _ _ _ h₁ hvalid₁
  obtain ⟨major, hmajor, r₂⟩ := simulates_u16 _ _ _ h₂ trivial
  obtain ⟨minor, hminor, r₃⟩ := simulates_u16 _ _ _ h₃ trivial
  obtain ⟨typeName, htypeName, r₄⟩ := simulates_text _ _ _ h₄ hvalid₂
  refine ⟨{ profileId, major, typeName, minor }, ⟨hprofileId, hmajor, hminor, htypeName⟩, ?_⟩
  simp only [readType, Codec.Reader.bind_eq_some, Codec.Reader.pure_eq_some]
  exact ⟨_, _, r₁, _, _, r₂, _, _, r₃, _, _, r₄, rfl, rfl⟩

theorem simulates_entity : Simulates EntityDescriptor.Corresponds readEntity
    (YunLink.EntityDescriptor.read PayloadReader.stringMap) fun entity =>
      Utf8.AllValid (entityTexts entity) := by
  intro input entity rest h hvalid
  simp only [YunLink.EntityDescriptor.read, Codec.Reader.bind_eq_some,
    Codec.Reader.pure_eq_some] at h
  obtain ⟨_, _, h₁, _, _, h₂, _, _, h₃, _, _, h₄, _, _, h₅, _, _, h₆, _, _, h₇, rfl, rfl⟩ := h
  simp only [entityTexts, Utf8.allValid_append, Utf8.allValid_cons, Utf8.allValid_nil,
    and_true] at hvalid
  obtain ⟨⟨hvalid₁, hvalid₂, hvalid₃, hvalid₄⟩, hvalid₅, hvalid₆⟩ := hvalid
  obtain ⟨entityUid, hentityUid, r₁⟩ := simulates_uid _ _ _ h₁ hvalid₁
  obtain ⟨kind, hkind, r₂⟩ := simulates_text _ _ _ h₂ hvalid₂
  obtain ⟨displayName, hdisplayName, r₃⟩ := simulates_text _ _ _ h₃ hvalid₃
  obtain ⟨hardwareId, hhardwareId, r₄⟩ := simulates_text _ _ _ h₄ hvalid₄
  obtain ⟨attributes, hattributes, r₅⟩ := simulates_mapping _ _ _ h₅ hvalid₅
  obtain ⟨capabilities, hcapabilities, r₆⟩ := simulates_items simulates_text _ _ _ h₆ hvalid₆
  have r₇ := enum_of_checked (fun byte hbyte => availability_of_byte byte (of_decide_eq_true hbyte))
    h₇
  refine ⟨{ entityUid, kind, displayName, hardwareId, attributes, capabilities
            availability := .ofUInt8 _ },
    ⟨hentityUid, hkind, hdisplayName, hhardwareId, hattributes, hcapabilities, rfl⟩, ?_⟩
  simp only [readEntity, Codec.Reader.bind_eq_some, Codec.Reader.pure_eq_some]
  exact ⟨_, _, r₁, _, _, r₂, _, _, r₃, _, _, r₄, _, _, r₅, _, _, r₆, _, _, r₇, rfl, rfl⟩

theorem simulates_stream : Simulates StreamDescriptor.Corresponds StreamDescriptor.read
    (YunLink.StreamDescriptor.read PayloadReader.stringMap) fun stream =>
      Utf8.AllValid (streamTexts stream) := by
  intro input stream rest h hvalid
  simp only [YunLink.StreamDescriptor.read, Codec.Reader.bind_eq_some,
    Codec.Reader.pure_eq_some] at h
  obtain ⟨_, _, h₁, _, _, h₂, _, _, h₃, _, _, h₄, rfl, rfl⟩ := h
  simp only [streamTexts, Utf8.allValid_append, Utf8.allValid_cons, Utf8.allValid_nil,
    and_true] at hvalid
  obtain ⟨⟨hvalid₁, hvalid₂, hvalid₃, hvalid₄⟩, hvalid₅⟩ := hvalid
  obtain ⟨streamUid, hstreamUid, r₁⟩ := simulates_uid _ _ _ h₁ hvalid₁
  obtain ⟨typeRef, htypeRef, r₂⟩ := simulates_type _ _ _ h₂ ⟨hvalid₂, hvalid₃⟩
  obtain ⟨encoding, hencoding, r₃⟩ := simulates_text _ _ _ h₃ hvalid₄
  obtain ⟨metadata, hmetadata, r₄⟩ := simulates_mapping _ _ _ h₄ hvalid₅
  refine ⟨{ streamUid, typeRef, encoding, metadata },
    ⟨hstreamUid, htypeRef, hencoding, hmetadata⟩, ?_⟩
  simp only [StreamDescriptor.read, Codec.Reader.bind_eq_some, Codec.Reader.pure_eq_some]
  exact ⟨_, _, r₁, _, _, r₂, _, _, r₃, _, _, r₄, rfl, rfl⟩

theorem simulates_entityDirectory :
    Simulates EntityDirectory.Corresponds EntityDirectory.read
      (YunLink.EntityDirectory.read PayloadReader.stringMap) fun value =>
        Utf8.AllValid (entityDirectoryTexts value) := by
  intro input value rest h hvalid
  simp only [YunLink.EntityDirectory.read,
    Codec.Reader.bind_eq_some, Codec.Reader.pure_eq_some] at h
  obtain ⟨_, _, h₁, _, _, h₂, _, _, h₃, rfl, rfl⟩ := h
  simp only [entityDirectoryTexts, Utf8.allValid_append, Utf8.allValid_cons, Utf8.allValid_nil,
    Utf8.allValid_flatMap, and_true] at hvalid
  obtain ⟨⟨hvalid₁, hvalid₂⟩, hvalid₃⟩ := hvalid
  obtain ⟨endpointUid, hendpointUid, r₁⟩ := simulates_uid _ _ _ h₁ hvalid₁
  obtain ⟨revision, hrevision, r₂⟩ := simulates_text _ _ _ h₂ hvalid₂
  obtain ⟨entities, hentities, r₃⟩ := simulates_items simulates_entity _ _ _ h₃ hvalid₃
  refine ⟨({ endpointUid, revision, entities } : EntityDirectory),
    EntityDirectory.Corresponds.mk hendpointUid hrevision hentities, ?_⟩
  simp only [EntityDirectory.read, Codec.Reader.bind_eq_some,
    Codec.Reader.pure_eq_some]
  exact ⟨_, _, r₁, _, _, r₂, _, _, r₃, rfl, rfl⟩

theorem simulates_attachmentRequest :
    Simulates AttachmentRequest.Corresponds AttachmentRequest.read YunLink.AttachmentRequest.read
      fun value => Utf8.AllValid (attachmentRequestTexts value) := by
  intro input value rest h hvalid
  simp only [YunLink.AttachmentRequest.read,
    Codec.Reader.bind_eq_some, Codec.Reader.pure_eq_some] at h
  obtain ⟨_, _, h₁, _, _, h₂, rfl, rfl⟩ := h
  obtain ⟨hvalid₁, hvalid₂⟩ := Utf8.allValid_cons.mp hvalid
  obtain ⟨expectedRevision, hexpectedRevision, r₁⟩ := simulates_text _ _ _ h₁ hvalid₁
  obtain ⟨entityUids, hentityUids, r₂⟩ := simulates_items simulates_uid _ _ _ h₂ hvalid₂
  refine ⟨({ expectedRevision, entityUids } : AttachmentRequest),
    AttachmentRequest.Corresponds.mk hexpectedRevision hentityUids, ?_⟩
  simp only [AttachmentRequest.read, Codec.Reader.bind_eq_some,
    Codec.Reader.pure_eq_some]
  exact ⟨_, _, r₁, _, _, r₂, rfl, rfl⟩

theorem simulates_attachmentResponse :
    Simulates AttachmentResponse.Corresponds AttachmentResponse.read YunLink.AttachmentResponse.read
      fun value => Utf8.AllValid (attachmentResponseTexts value) := by
  intro input value rest h hvalid
  simp only [YunLink.AttachmentResponse.read,
    Codec.Reader.bind_eq_some, Codec.Reader.pure_eq_some] at h
  obtain ⟨_, _, h₁, _, _, h₂, _, _, h₃, _, _, h₄, rfl, rfl⟩ := h
  simp only [attachmentResponseTexts, Utf8.allValid_append, Utf8.allValid_cons, Utf8.allValid_nil,
    and_true] at hvalid
  obtain ⟨hvalid₂, hvalid₃, hvalid₄⟩ := hvalid
  obtain ⟨success, r₁, hcheck, hsuccess⟩ := u8_of_flag h₁
  obtain ⟨revision, hrevision, r₂⟩ := simulates_text _ _ _ h₂ hvalid₂
  obtain ⟨attachedEntityUids, huids, r₃⟩ := simulates_items simulates_uid _ _ _ h₃ hvalid₃
  obtain ⟨message, hmessage, r₄⟩ := simulates_text _ _ _ h₄ hvalid₄
  refine ⟨({ success := success != 0, revision, attachedEntityUids, message } :
    AttachmentResponse), AttachmentResponse.Corresponds.mk hsuccess hrevision huids hmessage, ?_⟩
  simp only [AttachmentResponse.read, Codec.Reader.bind_eq_some,
    Codec.Reader.pure_eq_some, Codec.Reader.guard_eq_some]
  exact ⟨_, _, r₁, _, _, r₂, _, _, r₃, _, _, r₄, (), _, ⟨hcheck, rfl⟩, rfl, rfl⟩

theorem simulates_authorityRequest :
    Simulates AuthorityRequest.Corresponds AuthorityRequest.read YunLink.AuthorityRequest.read
      fun value => Utf8.AllValid (authorityRequestTexts value) := by
  intro input value rest h hvalid
  simp only [YunLink.AuthorityRequest.read,
    Codec.Reader.bind_eq_some, Codec.Reader.pure_eq_some] at h
  obtain ⟨_, _, h₁, _, _, h₂, _, _, h₃, rfl, rfl⟩ := h
  obtain ⟨hvalid₁, -⟩ := Utf8.allValid_cons.mp hvalid
  obtain ⟨authorityScope, hauthorityScope, r₁⟩ := simulates_text _ _ _ h₁ hvalid₁
  obtain ⟨leaseTtlMs, hleaseTtlMs, r₂⟩ := simulates_u32 _ _ _ h₂ trivial
  obtain ⟨allowPreempt, r₃, hcheck, hallowPreempt⟩ := u8_of_flag h₃
  refine ⟨({ authorityScope, leaseTtlMs, allowPreempt := allowPreempt != 0 } :
    AuthorityRequest), AuthorityRequest.Corresponds.mk hauthorityScope hleaseTtlMs
    hallowPreempt, ?_⟩
  simp only [AuthorityRequest.read, Codec.Reader.bind_eq_some,
    Codec.Reader.pure_eq_some, Codec.Reader.guard_eq_some]
  exact ⟨_, _, r₁, _, _, r₂, _, _, r₃, (), _, ⟨hcheck, rfl⟩, rfl, rfl⟩

theorem simulates_authorityStatus :
    Simulates AuthorityStatus.Corresponds AuthorityStatus.read YunLink.AuthorityStatus.read
      fun value => Utf8.AllValid (authorityStatusTexts value) := by
  intro input value rest h hvalid
  simp only [YunLink.AuthorityStatus.read,
    Codec.Reader.bind_eq_some, Codec.Reader.pure_eq_some] at h
  obtain ⟨_, _, h₁, _, _, h₂, _, _, h₃, _, _, h₄, _, _, h₅, rfl, rfl⟩ := h
  simp only [authorityStatusTexts, Utf8.allValid_cons, Utf8.allValid_nil, and_true] at hvalid
  obtain ⟨hvalid₁, hvalid₂, hvalid₅⟩ := hvalid
  obtain ⟨authorityScope, hauthorityScope, r₁⟩ := simulates_text _ _ _ h₁ hvalid₁
  obtain ⟨state, hstate, r₂⟩ := simulates_text _ _ _ h₂ hvalid₂
  obtain ⟨leaseTtlMs, hleaseTtlMs, r₃⟩ := simulates_u32 _ _ _ h₃ trivial
  obtain ⟨reasonCode, hreasonCode, r₄⟩ := simulates_u16 _ _ _ h₄ trivial
  obtain ⟨detail, hdetail, r₅⟩ := simulates_text _ _ _ h₅ hvalid₅
  refine ⟨({ authorityScope, state, leaseTtlMs, reasonCode, detail } : AuthorityStatus),
    AuthorityStatus.Corresponds.mk hauthorityScope hstate hleaseTtlMs hreasonCode hdetail, ?_⟩
  simp only [AuthorityStatus.read, Codec.Reader.bind_eq_some,
    Codec.Reader.pure_eq_some]
  exact ⟨_, _, r₁, _, _, r₂, _, _, r₃, _, _, r₄, _, _, r₅, rfl, rfl⟩

theorem simulates_streamCatalog :
    Simulates StreamCatalog.Corresponds StreamCatalog.read
      (YunLink.StreamCatalog.read PayloadReader.stringMap) fun value =>
        Utf8.AllValid (streamCatalogTexts value) := by
  intro input value rest h hvalid
  simp only [YunLink.StreamCatalog.read,
    Codec.Reader.bind_eq_some, Codec.Reader.pure_eq_some] at h
  obtain ⟨_, _, h₁, _, _, h₂, rfl, rfl⟩ := h
  obtain ⟨hvalid₁, hvalid₂⟩ := Utf8.allValid_cons.mp hvalid
  obtain ⟨revision, hrevision, r₁⟩ := simulates_text _ _ _ h₁ hvalid₁
  obtain ⟨streams, hstreams, r₂⟩ :=
    simulates_items simulates_stream _ _ _ h₂ (Utf8.allValid_flatMap.mp hvalid₂)
  refine ⟨({ revision, streams } : StreamCatalog),
    StreamCatalog.Corresponds.mk hrevision hstreams, ?_⟩
  simp only [StreamCatalog.read, Codec.Reader.bind_eq_some,
    Codec.Reader.pure_eq_some]
  exact ⟨_, _, r₁, _, _, r₂, rfl, rfl⟩

theorem simulates_streamSubscription :
    Simulates StreamSubscription.Corresponds StreamSubscription.read YunLink.StreamSubscription.read
      fun value => Utf8.AllValid (streamSubscriptionTexts value) := by
  intro input value rest h hvalid
  simp only [YunLink.StreamSubscription.read,
    Codec.Reader.bind_eq_some, Codec.Reader.pure_eq_some] at h
  obtain ⟨_, _, h₁, _, _, h₂, _, _, h₃, rfl, rfl⟩ := h
  obtain ⟨hvalid₁, -⟩ := Utf8.allValid_cons.mp hvalid
  obtain ⟨streamUid, hstreamUid, r₁⟩ := simulates_uid _ _ _ h₁ hvalid₁
  obtain ⟨maxRateHz, hmaxRateHz, r₂⟩ := simulates_f32 _ _ _ h₂ trivial
  obtain ⟨maxPayloadBytes, hmaxPayloadBytes, r₃⟩ := simulates_u32 _ _ _ h₃ trivial
  refine ⟨({ streamUid, maxRateHz, maxPayloadBytes } : StreamSubscription),
    StreamSubscription.Corresponds.mk hstreamUid hmaxRateHz hmaxPayloadBytes, ?_⟩
  simp only [StreamSubscription.read, Codec.Reader.bind_eq_some,
    Codec.Reader.pure_eq_some]
  exact ⟨_, _, r₁, _, _, r₂, _, _, r₃, rfl, rfl⟩

theorem simulates_streamSubscriptionStatus :
    Simulates StreamSubscriptionStatus.Corresponds StreamSubscriptionStatus.read
      YunLink.StreamSubscriptionStatus.read fun value =>
        Utf8.AllValid (streamSubscriptionStatusTexts value) := by
  intro input value rest h hvalid
  simp only [YunLink.StreamSubscriptionStatus.read,
    Codec.Reader.bind_eq_some, Codec.Reader.pure_eq_some] at h
  obtain ⟨_, _, h₁, _, _, h₂, _, _, h₃, _, _, h₄, _, _, h₅, _, _, h₆, rfl, rfl⟩ := h
  simp only [streamSubscriptionStatusTexts, Utf8.allValid_cons, Utf8.allValid_nil,
    and_true] at hvalid
  obtain ⟨hvalid₃, hvalid₆⟩ := hvalid
  obtain ⟨success, r₁, hcheck, hsuccess⟩ := u8_of_flag h₁
  obtain ⟨subscribed, r₂, hcheck', hsubscribed⟩ := u8_of_flag h₂
  obtain ⟨streamUid, hstreamUid, r₃⟩ := simulates_uid _ _ _ h₃ hvalid₃
  obtain ⟨maxRateHz, hmaxRateHz, r₄⟩ := simulates_f32 _ _ _ h₄ trivial
  obtain ⟨maxPayloadBytes, hbytes, r₅⟩ := simulates_u32 _ _ _ h₅ trivial
  obtain ⟨message, hmessage, r₆⟩ := simulates_text _ _ _ h₆ hvalid₆
  refine ⟨({ success := success != 0, subscribed := subscribed != 0, streamUid, maxRateHz
             maxPayloadBytes, message } : StreamSubscriptionStatus),
    StreamSubscriptionStatus.Corresponds.mk hsuccess hsubscribed hstreamUid hmaxRateHz hbytes
      hmessage, ?_⟩
  simp only [StreamSubscriptionStatus.read, Codec.Reader.bind_eq_some,
    Codec.Reader.pure_eq_some, Codec.Reader.guard_eq_some]
  exact ⟨_, _, r₁, _, _, r₂, _, _, r₃, _, _, r₄, _, _, r₅, _, _, r₆, (), _,
    ⟨fun hflags => hflags.elim hcheck hcheck', rfl⟩, rfl, rfl⟩

theorem simulates_streamSample :
    Simulates StreamSample.Corresponds StreamSample.read
      (YunLink.StreamSample.read PayloadReader.stringMap) fun value =>
        Utf8.AllValid (streamSampleTexts value) := by
  intro input value rest h hvalid
  simp only [YunLink.StreamSample.read,
    Codec.Reader.bind_eq_some, Codec.Reader.pure_eq_some] at h
  obtain ⟨_, _, h₁, _, _, h₂, _, _, h₃, _, _, h₄, _, _, h₅, _, _, h₆, rfl, rfl⟩ := h
  simp only [streamSampleTexts, Utf8.allValid_append, Utf8.allValid_cons, Utf8.allValid_nil,
    and_true] at hvalid
  obtain ⟨⟨hvalid₁, hvalid₂⟩, hvalid₃⟩ := hvalid
  obtain ⟨streamUid, hstreamUid, r₁⟩ := simulates_uid _ _ _ h₁ hvalid₁
  obtain ⟨encoding, hencoding, r₂⟩ := simulates_text _ _ _ h₂ hvalid₂
  obtain ⟨metadata, hmetadata, r₃⟩ := simulates_mapping _ _ _ h₃ hvalid₃
  obtain ⟨sourceTimestampNs, htimestamp, r₄⟩ := simulates_u64 _ _ _ h₄ trivial
  obtain ⟨sequence, hsequence, r₅⟩ := simulates_u64 _ _ _ h₅ trivial
  obtain ⟨data, hdata, r₆⟩ := simulates_blob _ _ _ h₆ trivial
  refine ⟨({ streamUid, encoding, metadata, sourceTimestampNs, sequence, data } :
    StreamSample), StreamSample.Corresponds.mk hstreamUid hencoding hmetadata htimestamp
    hsequence hdata, ?_⟩
  simp only [StreamSample.read, Codec.Reader.bind_eq_some,
    Codec.Reader.pure_eq_some]
  exact ⟨_, _, r₁, _, _, r₂, _, _, r₃, _, _, r₄, _, _, r₅, _, _, r₆, rfl, rfl⟩

theorem simulates_actionUpdate :
    Simulates ActionUpdate.Corresponds ActionUpdate.read YunLink.ActionUpdate.read
      fun value => Utf8.AllValid (actionUpdateTexts value) := by
  intro input value rest h hvalid
  simp only [YunLink.ActionUpdate.read,
    Codec.Reader.bind_eq_some, Codec.Reader.pure_eq_some] at h
  obtain ⟨_, _, h₁, _, _, h₂, _, _, h₃, _, _, h₄, rfl, rfl⟩ := h
  obtain ⟨hvalid₄, -⟩ := Utf8.allValid_cons.mp hvalid
  obtain ⟨h₃, hle⟩ := checked_eq_some.mp h₃
  have r₁ := enum_of_checked phase_of_byte h₁
  obtain ⟨resultCode, hresultCode, r₂⟩ := simulates_u16 _ _ _ h₂ trivial
  obtain ⟨progressPercent, hprogressPercent, r₃⟩ := simulates_u8 _ _ _ h₃ trivial
  obtain ⟨detail, hdetail, r₄⟩ := simulates_text _ _ _ h₄ hvalid₄
  have hcheck : ¬ 100 < progressPercent := by
    have hnat := UInt8.le_iff_toNat_le.mp (of_decide_eq_true hle)
    have hbound : (100 : UInt8).toNat = 100 := rfl
    omega
  refine ⟨({ phase := .ofUInt8 _, resultCode, progressPercent, detail } : ActionUpdate),
    ActionUpdate.Corresponds.mk rfl hresultCode hprogressPercent hdetail, ?_⟩
  simp only [ActionUpdate.read, Codec.Reader.bind_eq_some,
    Codec.Reader.pure_eq_some, Codec.Reader.guard_eq_some]
  exact ⟨_, _, r₁, _, _, r₂, _, _, r₃, _, _, r₄, (), _, ⟨hcheck, rfl⟩, rfl, rfl⟩

/-- **What C++ reads, Python reads** as the value that corresponds, if the texts are valid. -/
theorem simulates (kind : Message) : Simulates kind.Corresponds kind.read
    (kind.cpp.read PayloadReader.stringMap) fun value => Utf8.AllValid (kind.texts value) := by
  cases kind with
  | entityDirectory => exact simulates_entityDirectory
  | attachmentRequest => exact simulates_attachmentRequest
  | attachmentResponse => exact simulates_attachmentResponse
  | authorityRequest => exact simulates_authorityRequest
  | authorityStatus => exact simulates_authorityStatus
  | streamCatalog => exact simulates_streamCatalog
  | streamSubscription => exact simulates_streamSubscription
  | streamSubscriptionStatus => exact simulates_streamSubscriptionStatus
  | streamSample => exact simulates_streamSample
  | actionUpdate => exact simulates_actionUpdate

end Python.Core

/-! ### Agreement -/

/-- **The core codecs of Python and C++ agree.**  Whatever Python encodes, with a rate that is a
number, is what C++ encodes of the one value that corresponds; and whatever C++ decodes to a
value whose texts are valid, Python decodes to a value that corresponds. -/
theorem pythonCore_agrees_cpp (kind : Python.Core.Message) :
    (∀ (value : kind.Value) (bytes : Bytes), kind.RateIsNumber value →
      Python.Core.encode kind value = some bytes →
      ∃ cpp, kind.Corresponds value cpp ∧ kind.cpp.encode cpp = bytes ∧
        ∀ cpp', kind.Corresponds value cpp' → cpp' = cpp) ∧
    ∀ (bytes : Bytes) (cpp : kind.cpp.Value), kind.cpp.decode bytes = some cpp →
      Utf8.AllValid (kind.texts cpp) →
      ∃ value, Python.Core.decode kind bytes = some value ∧ kind.Corresponds value cpp := by
  constructor
  · intro value bytes hrate hencode
    obtain ⟨cpp, hcpp, hwritten⟩ := Python.Core.emulates kind _ _ _ hencode
    refine ⟨cpp, hcpp, ?_, fun cpp' hcpp' => Python.Core.corresponds_unique hrate hcpp' hcpp⟩
    rw [CoreMessage.encode]
    exact congrArg Codec.Buffer.take hwritten
  · intro bytes cpp hdecode hvalid
    obtain ⟨value, hvalue, hread⟩ :=
      Python.Core.simulates kind _ _ _ (eq_some_of_decodeAll hdecode) hvalid
    refine ⟨value, ?_, hvalue⟩
    rw [Python.Core.decode, decodeAll, hread]

/-- A sample whose metadata is set in descending order.  In UTF-16, where the larger key starts
with a surrogate, it would be in ascending order. -/
def Python.Core.sampleStreamSample : Python.Core.StreamSample where
  streamUid := [0x73]
  encoding := [0x72, 0x61, 0x77]
  metadata := ⟨[([0x10000], [0x31]), ([0xFFFD], [0xE9])], by decide⟩
  sourceTimestampNs := 7
  sequence := 1
  data := [1, 2, 3]

/-- The bytes of the sample. -/
def Python.Core.sampleStreamBytes : Bytes :=
  [1, 0, 0x73, 3, 0, 0x72, 0x61, 0x77, 2, 0, 3, 0, 0xEF, 0xBF, 0xBD, 2, 0, 0xC3, 0xA9,
    4, 0, 0xF0, 0x90, 0x80, 0x80, 1, 0, 0x31, 7, 0, 0, 0, 0, 0, 0, 0, 1, 0, 0, 0, 0, 0, 0, 0,
    3, 0, 0, 0, 1, 2, 3]

/-- The sample of C++. -/
def Python.Core.sampleCppStreamSample : YunLink.StreamSample where
  streamUid := [0x73]
  encoding := [0x72, 0x61, 0x77]
  metadata := ⟨[([0xEF, 0xBF, 0xBD], [0xC3, 0xA9]), ([0xF0, 0x90, 0x80, 0x80], [0x31])],
    by decide⟩
  sourceTimestampNs := 7
  sequence := 1
  data := [1, 2, 3]

/-- The sample is encoded by Python like the C++ value that corresponds, and what C++ decodes
of its bytes, Python decodes. -/
theorem pythonCore_agrees_cpp_sampleStreamSample :
    Python.Core.encode .streamSample Python.Core.sampleStreamSample =
      some Python.Core.sampleStreamBytes ∧
    (∃ cpp, Python.Core.Message.streamSample.Corresponds Python.Core.sampleStreamSample cpp ∧
      CoreMessage.streamSample.encode cpp = Python.Core.sampleStreamBytes) ∧
    ∃ value, Python.Core.decode .streamSample Python.Core.sampleStreamBytes = some value ∧
      Python.Core.Message.streamSample.Corresponds value Python.Core.sampleCppStreamSample := by
  have hencode : Python.Core.encode .streamSample Python.Core.sampleStreamSample =
      some Python.Core.sampleStreamBytes := by decide
  have hdecode : decodeAll (YunLink.StreamSample.read PayloadReader.stringMap)
      Python.Core.sampleStreamBytes = some Python.Core.sampleCppStreamSample := by decide
  have hvalid : Utf8.AllValid (Python.Core.Message.streamSample.texts
      Python.Core.sampleCppStreamSample) := by
    have htexts : Python.Core.Message.streamSample.texts Python.Core.sampleCppStreamSample =
        [[115], [114, 97, 119], [0xFFFD], [0xE9], [0x10000], [49]].map fun points =>
          Utf8.encode (points.map Char.ofNat) := by
      decide
    rw [htexts]
    intro text htext
    obtain ⟨points, -, rfl⟩ := List.mem_map.mp htext
    exact Utf8.valid_encode _
  obtain ⟨cpp, hcpp, hsame, -⟩ :=
    (pythonCore_agrees_cpp .streamSample).1 Python.Core.sampleStreamSample _ trivial hencode
  refine ⟨hencode, ⟨cpp, hcpp, hsame⟩, ?_⟩
  exact (pythonCore_agrees_cpp .streamSample).2 _ Python.Core.sampleCppStreamSample hdecode hvalid

end YunLink
