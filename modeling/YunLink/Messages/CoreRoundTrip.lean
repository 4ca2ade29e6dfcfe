import YunLink.Messages.Core

/-!
# Core messages survive the wire

Writer and reader of every core message agree: what is written of a valid value is read
back as this value, and what is read is valid and is written back.  The only freedom the
wire leaves is the order of the entries of a string map.

## Main results

* `CoreMessage.agrees`, `CoreMessage.recovers` — the agreement on messages.
* `coreMessage_roundTrip` — **a valid message that can be encoded is decoded again.**
* `coreMessage_lossless` — **what was decoded can be encoded, and as the bytes it was
  decoded from exactly when they list every map in ascending order.**
* `authorityRequest_decode_eq` — the runtime's own readers and writers are these.
-/

namespace YunLink

open Codec PayloadReader

/-! ### Enumerations -/

section enumerations

variable {exact : Prop} {input rest : Bytes} {byte : UInt8}

theorem Availability.ofUInt8_toUInt8 (a : Availability) : ofUInt8 a.toUInt8 = a := by
  cases a <;> rfl

theorem Availability.toUInt8_ofUInt8 :
    ∀ byte : UInt8, byte ≤ offline.toUInt8 → (ofUInt8 byte).toUInt8 = byte := by
  apply Words.forall_byte
  decide +kernel

theorem restores_availability
    (h : checked u8 (fun value => value ≤ Availability.offline.toUInt8) input = some (byte, rest))
    (w : Writer) : Restores exact w (w.u8 (Availability.ofUInt8 byte).toUInt8) input rest := by
  obtain ⟨hread, hcheck⟩ := checked_eq_some.mp h
  rw [Availability.toUInt8_ofUInt8 byte (of_decide_eq_true hcheck)]
  exact restores_u8 hread w

theorem ActionPhase.ofUInt8_toUInt8 (phase : ActionPhase) : ofUInt8 phase.toUInt8 = phase := by
  cases phase <;> rfl

theorem ActionPhase.toUInt8_ofUInt8 :
    ∀ byte : UInt8, (received.toUInt8 ≤ byte && byte ≤ expired.toUInt8) = true →
      (ofUInt8 byte).toUInt8 = byte := by
  apply Words.forall_byte
  decide +kernel

theorem restores_actionPhase
    (h : checked u8 (fun value => ActionPhase.received.toUInt8 ≤ value &&
      value ≤ ActionPhase.expired.toUInt8) input = some (byte, rest))
    (w : Writer) : Restores exact w (w.u8 (ActionPhase.ofUInt8 byte).toUInt8) input rest := by
  obtain ⟨hread, hcheck⟩ := checked_eq_some.mp h
  rw [ActionPhase.toUInt8_ofUInt8 byte hcheck]
  exact restores_u8 hread w

end enumerations

/-! ### Messages -/

section messages

variable {exact : Prop} {stringMap : PayloadReader (SortedMap Text Text)}

theorem TypeRef.agrees :
    Agrees TypeRef.read TypeRef.write fun type => validTypeRef type = true := by
  intro type hvalid w
  refine yields_checked ?_ hvalid
  refine (yields_text type.profileId w).bind ?_
  refine (yields_u16 type.major _).bind ?_
  refine (yields_u16 type.minor _).bind ?_
  refine (yields_text type.typeName _).bind ?_
  exact .pure type _

theorem TypeRef.recovers :
    Recovers exact TypeRef.read TypeRef.write fun type => validTypeRef type = true := by
  intro input type rest h
  obtain ⟨h, hvalid⟩ := checked_eq_some.mp h
  simp only [Reader.bind_eq_some, Reader.pure_eq_some] at h
  obtain ⟨profileId, _, h1, major, _, h2, minor, _, h3, typeName, _, h4, rfl, rfl⟩ := h
  refine ⟨hvalid, fun w => ?_⟩
  exact (restores_text h1 w).trans <| (restores_u16 h2 _).trans <| (restores_u16 h3 _).trans <|
    restores_text h4 _

theorem EntityDescriptor.agrees (hmap : Agrees stringMap Writer.map fun _ => True) :
    Agrees (EntityDescriptor.read stringMap) EntityDescriptor.write EntityDescriptor.Valid := by
  intro entity hvalid w
  refine (yields_uid hvalid w).bind ?_
  refine (yields_text entity.kind _).bind ?_
  refine (yields_text entity.displayName _).bind ?_
  refine (yields_text entity.hardwareId _).bind ?_
  refine (hmap entity.attributes trivial _).bind ?_
  refine (yields_listOf agrees_text entity.capabilities (fun _ _ => trivial) _).bind ?_
  refine (yields_checked (yields_u8 entity.availability.toUInt8 _) ?_).bind ?_
  · cases entity.availability <;> rfl
  · rw [Availability.ofUInt8_toUInt8]
    exact .pure entity _

theorem EntityDescriptor.recovers (hmap : Recovers exact stringMap Writer.map fun _ => True) :
    Recovers exact (EntityDescriptor.read stringMap) EntityDescriptor.write
      EntityDescriptor.Valid := by
  intro input entity rest h
  simp only [EntityDescriptor.read, Reader.bind_eq_some, Reader.pure_eq_some] at h
  obtain ⟨entityUid, _, h1, kind, _, h2, displayName, _, h3, hardwareId, _, h4, attributes, _, h5,
    capabilities, _, h6, availability, _, h7, rfl, rfl⟩ := h
  refine ⟨valid_of_uid h1, fun w => ?_⟩
  exact (restores_uid h1 w).trans <| (restores_text h2 _).trans <| (restores_text h3 _).trans <|
    (restores_text h4 _).trans <| ((hmap h5).2 _).trans <|
    ((recovers_listOf recovers_text h6).2 _).trans (restores_availability h7 _)

theorem EntityDirectory.agrees (hmap : Agrees stringMap Writer.map fun _ => True) :
    Agrees (EntityDirectory.read stringMap) EntityDirectory.write EntityDirectory.Valid := by
  intro value hvalid w
  refine (yields_uid hvalid.1 w).bind ?_
  refine (yields_text value.revision _).bind ?_
  refine (yields_listOf (EntityDescriptor.agrees hmap) value.entities hvalid.2 _).bind ?_
  exact .pure value _

theorem EntityDirectory.recovers (hmap : Recovers exact stringMap Writer.map fun _ => True) :
    Recovers exact (EntityDirectory.read stringMap) EntityDirectory.write
      EntityDirectory.Valid := by
  intro input value rest h
  simp only [EntityDirectory.read, Reader.bind_eq_some, Reader.pure_eq_some] at h
  obtain ⟨endpointUid, _, h1, revision, _, h2, entities, _, h3, rfl, rfl⟩ := h
  obtain ⟨⟨-, hentities⟩, h3⟩ := recovers_listOf (EntityDescriptor.recovers hmap) h3
  refine ⟨⟨valid_of_uid h1, hentities⟩, fun w => ?_⟩
  exact (restores_uid h1 w).trans <| (restores_text h2 _).trans (h3 _)

theorem AttachmentRequest.agrees :
    Agrees AttachmentRequest.read AttachmentRequest.write AttachmentRequest.Valid := by
  intro value hvalid w
  refine (yields_text value.expectedRevision w).bind ?_
  refine (yields_listOf agrees_uid value.entityUids hvalid _).bind ?_
  exact .pure value _

theorem AttachmentRequest.recovers :
    Recovers exact AttachmentRequest.read AttachmentRequest.write AttachmentRequest.Valid := by
  intro input value rest h
  simp only [AttachmentRequest.read, Reader.bind_eq_some, Reader.pure_eq_some] at h
  obtain ⟨expectedRevision, _, h1, entityUids, _, h2, rfl, rfl⟩ := h
  obtain ⟨⟨-, huids⟩, h2⟩ := recovers_listOf recovers_uid h2
  exact ⟨huids, fun w => (restores_text h1 w).trans (h2 _)⟩

theorem AttachmentResponse.agrees :
    Agrees AttachmentResponse.read AttachmentResponse.write AttachmentResponse.Valid := by
  intro value hvalid w
  refine (yields_flag value.success w).bind ?_
  refine (yields_text value.revision _).bind ?_
  refine (yields_listOf agrees_uid value.attachedEntityUids hvalid _).bind ?_
  refine (yields_text value.message _).bind ?_
  exact .pure value _

theorem AttachmentResponse.recovers :
    Recovers exact AttachmentResponse.read AttachmentResponse.write AttachmentResponse.Valid := by
  intro input value rest h
  simp only [AttachmentResponse.read, Reader.bind_eq_some, Reader.pure_eq_some] at h
  obtain ⟨success, _, h1, revision, _, h2, uids, _, h3, message, _, h4, rfl, rfl⟩ := h
  obtain ⟨⟨-, huids⟩, h3⟩ := recovers_listOf recovers_uid h3
  refine ⟨huids, fun w => ?_⟩
  exact (restores_flag h1 w).trans <| (restores_text h2 _).trans <| (h3 _).trans <|
    restores_text h4 _

theorem AuthorityRequest.agrees :
    Agrees AuthorityRequest.read AuthorityRequest.write fun _ => True := by
  intro value _ w
  refine (yields_text value.authorityScope w).bind ?_
  refine (yields_u32 value.leaseTtlMs _).bind ?_
  refine (yields_flag value.allowPreempt _).bind ?_
  exact .pure value _

theorem AuthorityRequest.recovers :
    Recovers exact AuthorityRequest.read AuthorityRequest.write fun _ => True := by
  intro input value rest h
  simp only [AuthorityRequest.read, Reader.bind_eq_some, Reader.pure_eq_some] at h
  obtain ⟨authorityScope, _, h1, leaseTtlMs, _, h2, allowPreempt, _, h3, rfl, rfl⟩ := h
  refine ⟨trivial, fun w => ?_⟩
  exact (restores_text h1 w).trans <| (restores_u32 h2 _).trans <| restores_flag h3 _

theorem AuthorityStatus.agrees :
    Agrees AuthorityStatus.read AuthorityStatus.write fun _ => True := by
  intro value _ w
  refine (yields_text value.authorityScope w).bind ?_
  refine (yields_text value.state _).bind ?_
  refine (yields_u32 value.leaseTtlMs _).bind ?_
  refine (yields_u16 value.reasonCode _).bind ?_
  refine (yields_text value.detail _).bind ?_
  exact .pure value _

theorem AuthorityStatus.recovers :
    Recovers exact AuthorityStatus.read AuthorityStatus.write fun _ => True := by
  intro input value rest h
  simp only [AuthorityStatus.read, Reader.bind_eq_some, Reader.pure_eq_some] at h
  obtain ⟨authorityScope, _, h1, state, _, h2, leaseTtlMs, _, h3, reasonCode, _, h4, detail, _, h5,
    rfl, rfl⟩ := h
  refine ⟨trivial, fun w => ?_⟩
  exact (restores_text h1 w).trans <| (restores_text h2 _).trans <| (restores_u32 h3 _).trans <|
    (restores_u16 h4 _).trans <| restores_text h5 _

theorem StreamDescriptor.agrees (hmap : Agrees stringMap Writer.map fun _ => True) :
    Agrees (StreamDescriptor.read stringMap) StreamDescriptor.write StreamDescriptor.Valid := by
  intro stream hvalid w
  refine (yields_uid hvalid.1 w).bind ?_
  refine (TypeRef.agrees stream.type hvalid.2 _).bind ?_
  refine (yields_text stream.encoding _).bind ?_
  refine (hmap stream.metadata trivial _).bind ?_
  exact .pure stream _

theorem StreamDescriptor.recovers (hmap : Recovers exact stringMap Writer.map fun _ => True) :
    Recovers exact (StreamDescriptor.read stringMap) StreamDescriptor.write
      StreamDescriptor.Valid := by
  intro input stream rest h
  simp only [StreamDescriptor.read, Reader.bind_eq_some, Reader.pure_eq_some] at h
  obtain ⟨streamUid, _, h1, type, _, h2, encoding, _, h3, metadata, _, h4, rfl, rfl⟩ := h
  obtain ⟨htype, h2⟩ := TypeRef.recovers h2
  refine ⟨⟨valid_of_uid h1, htype⟩, fun w => ?_⟩
  exact (restores_uid h1 w).trans <| (h2 _).trans <| (restores_text h3 _).trans <| (hmap h4).2 _

theorem StreamCatalog.agrees (hmap : Agrees stringMap Writer.map fun _ => True) :
    Agrees (StreamCatalog.read stringMap) StreamCatalog.write StreamCatalog.Valid := by
  intro value hvalid w
  refine (yields_text value.revision w).bind ?_
  refine (yields_listOf (StreamDescriptor.agrees hmap) value.streams hvalid _).bind ?_
  exact .pure value _

theorem StreamCatalog.recovers (hmap : Recovers exact stringMap Writer.map fun _ => True) :
    Recovers exact (StreamCatalog.read stringMap) StreamCatalog.write StreamCatalog.Valid := by
  intro input value rest h
  simp only [StreamCatalog.read, Reader.bind_eq_some, Reader.pure_eq_some] at h
  obtain ⟨revision, _, h1, streams, _, h2, rfl, rfl⟩ := h
  obtain ⟨⟨-, hstreams⟩, h2⟩ := recovers_listOf (StreamDescriptor.recovers hmap) h2
  exact ⟨hstreams, fun w => (restores_text h1 w).trans (h2 _)⟩

theorem StreamSubscription.agrees :
    Agrees StreamSubscription.read StreamSubscription.write StreamSubscription.Valid := by
  intro value hvalid w
  refine (yields_uid hvalid w).bind ?_
  refine (yields_u32 value.maxRateHz _).bind ?_
  refine (yields_u32 value.maxPayloadBytes _).bind ?_
  exact .pure value _

theorem StreamSubscription.recovers :
    Recovers exact StreamSubscription.read StreamSubscription.write StreamSubscription.Valid := by
  intro input value rest h
  simp only [StreamSubscription.read, Reader.bind_eq_some, Reader.pure_eq_some] at h
  obtain ⟨streamUid, _, h1, maxRateHz, _, h2, maxPayloadBytes, _, h3, rfl, rfl⟩ := h
  refine ⟨valid_of_uid h1, fun w => ?_⟩
  exact (restores_uid h1 w).trans <| (restores_u32 h2 _).trans <| restores_u32 h3 _

theorem StreamSubscriptionStatus.agrees :
    Agrees StreamSubscriptionStatus.read StreamSubscriptionStatus.write
      StreamSubscriptionStatus.Valid := by
  intro value hvalid w
  refine (yields_flag value.success w).bind ?_
  refine (yields_flag value.subscribed _).bind ?_
  refine (yields_uid hvalid _).bind ?_
  refine (yields_u32 value.maxRateHz _).bind ?_
  refine (yields_u32 value.maxPayloadBytes _).bind ?_
  refine (yields_text value.message _).bind ?_
  exact .pure value _

theorem StreamSubscriptionStatus.recovers :
    Recovers exact StreamSubscriptionStatus.read StreamSubscriptionStatus.write
      StreamSubscriptionStatus.Valid := by
  intro input value rest h
  simp only [StreamSubscriptionStatus.read, Reader.bind_eq_some, Reader.pure_eq_some] at h
  obtain ⟨success, _, h1, subscribed, _, h2, streamUid, _, h3, maxRateHz, _, h4, maxPayloadBytes, _,
    h5, message, _, h6, rfl, rfl⟩ := h
  refine ⟨valid_of_uid h3, fun w => ?_⟩
  exact (restores_flag h1 w).trans <| (restores_flag h2 _).trans <| (restores_uid h3 _).trans <|
    (restores_u32 h4 _).trans <| (restores_u32 h5 _).trans <| restores_text h6 _

theorem StreamSample.agrees (hmap : Agrees stringMap Writer.map fun _ => True) :
    Agrees (StreamSample.read stringMap) StreamSample.write StreamSample.Valid := by
  intro value hvalid w
  refine (yields_uid hvalid w).bind ?_
  refine (yields_text value.encoding _).bind ?_
  refine (hmap value.metadata trivial _).bind ?_
  refine (yields_u64 value.sourceTimestampNs _).bind ?_
  refine (yields_u64 value.sequence _).bind ?_
  refine (yields_bytes value.data _).bind ?_
  exact .pure value _

theorem StreamSample.recovers (hmap : Recovers exact stringMap Writer.map fun _ => True) :
    Recovers exact (StreamSample.read stringMap) StreamSample.write StreamSample.Valid := by
  intro input value rest h
  simp only [StreamSample.read, Reader.bind_eq_some, Reader.pure_eq_some] at h
  obtain ⟨streamUid, _, h1, encoding, _, h2, metadata, _, h3, timestamp, _, h4, sequence, _, h5,
    data, _, h6, rfl, rfl⟩ := h
  refine ⟨valid_of_uid h1, fun w => ?_⟩
  exact (restores_uid h1 w).trans <| (restores_text h2 _).trans <| ((hmap h3).2 _).trans <|
    (restores_u64 h4 _).trans <| (restores_u64 h5 _).trans <| restores_bytes h6 _

theorem ActionUpdate.agrees :
    Agrees ActionUpdate.read ActionUpdate.write ActionUpdate.Valid := by
  intro value hvalid w
  refine (yields_checked (yields_u8 value.phase.toUInt8 w) ?_).bind ?_
  · cases value.phase <;> rfl
  refine (yields_u16 value.resultCode _).bind ?_
  have hprogress : value.progressPercent ≤ 100 := hvalid
  refine (yields_checked (yields_u8 value.progressPercent _) (decide_eq_true hprogress)).bind ?_
  refine (yields_text value.detail _).bind ?_
  rw [ActionPhase.ofUInt8_toUInt8]
  exact .pure value _

theorem ActionUpdate.recovers :
    Recovers exact ActionUpdate.read ActionUpdate.write ActionUpdate.Valid := by
  intro input value rest h
  simp only [ActionUpdate.read, Reader.bind_eq_some, Reader.pure_eq_some] at h
  obtain ⟨phase, _, h1, resultCode, _, h2, progressPercent, _, h3, detail, _, h4, rfl, rfl⟩ := h
  obtain ⟨h3, hprogress⟩ := checked_eq_some.mp h3
  have hle : progressPercent ≤ 100 := of_decide_eq_true hprogress
  refine ⟨hle, fun w => ?_⟩
  exact (restores_actionPhase h1 w).trans <| (restores_u16 h2 _).trans <|
    (restores_u8 h3 _).trans <| restores_text h4 _

theorem BulkDescriptor.agrees (hmap : Agrees stringMap Writer.map fun _ => True) :
    Agrees (BulkDescriptor.read stringMap) BulkDescriptor.write fun _ => True := by
  intro value _ w
  refine (yields_text value.mediaType w).bind ?_
  refine (yields_text value.encoding _).bind ?_
  refine (hmap value.metadata trivial _).bind ?_
  refine (yields_u64 value.totalBytes _).bind ?_
  exact .pure value _

theorem BulkDescriptor.recovers (hmap : Recovers exact stringMap Writer.map fun _ => True) :
    Recovers exact (BulkDescriptor.read stringMap) BulkDescriptor.write fun _ => True := by
  intro input value rest h
  simp only [BulkDescriptor.read, Reader.bind_eq_some, Reader.pure_eq_some] at h
  obtain ⟨mediaType, _, h1, encoding, _, h2, metadata, _, h3, totalBytes, _, h4, rfl, rfl⟩ := h
  refine ⟨trivial, fun w => ?_⟩
  exact (restores_text h1 w).trans <| (restores_text h2 _).trans <| ((hmap h3).2 _).trans <|
    restores_u64 h4 _

theorem LogSummary.agrees (hmap : Agrees stringMap Writer.map fun _ => True) :
    Agrees (LogSummary.read stringMap) LogSummary.write LogSummary.Valid := by
  intro value hvalid w
  refine (yields_uid hvalid.1 w).bind ?_
  refine (yields_uid hvalid.2 _).bind ?_
  refine (yields_text value.title _).bind ?_
  refine (yields_text value.state _).bind ?_
  refine (yields_u64 value.startedAtNs _).bind ?_
  refine (yields_u64 value.finishedAtNs _).bind ?_
  refine (yields_flag value.hasExitCode _).bind ?_
  refine (yields_u32 value.exitCode.toUInt32 _).bind ?_
  refine (hmap value.labels trivial _).bind ?_
  refine (yields_text value.message _).bind ?_
  rw [Int32.toInt32_toUInt32]
  exact .pure value _

theorem LogSummary.recovers (hmap : Recovers exact stringMap Writer.map fun _ => True) :
    Recovers exact (LogSummary.read stringMap) LogSummary.write LogSummary.Valid := by
  intro input value rest h
  simp only [LogSummary.read, Reader.bind_eq_some, Reader.pure_eq_some] at h
  obtain ⟨logUid, _, h1, ownerUid, _, h2, title, _, h3, state, _, h4, startedAtNs, _, h5,
    finishedAtNs, _, h6, hasExitCode, _, h7, exitCode, _, h8, labels, _, h9, message, _, h10, rfl,
    rfl⟩ := h
  refine ⟨⟨valid_of_uid h1, valid_of_uid h2⟩, fun w => ?_⟩
  exact (restores_uid h1 w).trans <| (restores_uid h2 _).trans <| (restores_text h3 _).trans <|
    (restores_text h4 _).trans <| (restores_u64 h5 _).trans <| (restores_u64 h6 _).trans <|
    (restores_flag h7 _).trans <| (restores_u32 h8 _).trans <| ((hmap h9).2 _).trans <|
    restores_text h10 _

theorem LogListResponse.agrees (hmap : Agrees stringMap Writer.map fun _ => True) :
    Agrees (LogListResponse.read stringMap) LogListResponse.write LogListResponse.Valid := by
  intro value hvalid w
  refine (yields_flag value.success w).bind ?_
  refine (yields_text value.message _).bind ?_
  refine (yields_listOf (LogSummary.agrees hmap) value.logs hvalid _).bind ?_
  exact .pure value _

theorem LogListResponse.recovers (hmap : Recovers exact stringMap Writer.map fun _ => True) :
    Recovers exact (LogListResponse.read stringMap) LogListResponse.write
      LogListResponse.Valid := by
  intro input value rest h
  simp only [LogListResponse.read, Reader.bind_eq_some, Reader.pure_eq_some] at h
  obtain ⟨success, _, h1, message, _, h2, logs, _, h3, rfl, rfl⟩ := h
  obtain ⟨⟨-, hlogs⟩, h3⟩ := recovers_listOf (LogSummary.recovers hmap) h3
  exact ⟨hlogs, fun w => (restores_flag h1 w).trans <| (restores_text h2 _).trans (h3 _)⟩

theorem LogReadRequest.agrees :
    Agrees LogReadRequest.read LogReadRequest.write LogReadRequest.Valid := by
  intro value hvalid w
  refine (yields_uid hvalid.1 w).bind ?_
  refine (yields_u64 value.cursor _).bind ?_
  refine (yields_checked (yields_u32 value.maxBytes _) (decide_eq_true hvalid.2)).bind ?_
  exact .pure value _

theorem LogReadRequest.recovers :
    Recovers exact LogReadRequest.read LogReadRequest.write LogReadRequest.Valid := by
  intro input value rest h
  simp only [LogReadRequest.read, Reader.bind_eq_some, Reader.pure_eq_some] at h
  obtain ⟨logUid, _, h1, cursor, _, h2, maxBytes, _, h3, rfl, rfl⟩ := h
  obtain ⟨h3, hpositive⟩ := checked_eq_some.mp h3
  refine ⟨⟨valid_of_uid h1, of_decide_eq_true hpositive⟩, fun w => ?_⟩
  exact (restores_uid h1 w).trans <| (restores_u64 h2 _).trans <| restores_u32 h3 _

theorem LogReadResponse.agrees :
    Agrees LogReadResponse.read LogReadResponse.write LogReadResponse.Valid := by
  intro value hvalid w
  refine (yields_flag value.success w).bind ?_
  refine (yields_text value.message _).bind ?_
  refine (yields_uid hvalid _).bind ?_
  refine (yields_text value.chunk _).bind ?_
  refine (yields_u64 value.nextCursor _).bind ?_
  refine (yields_flag value.truncated _).bind ?_
  refine (yields_flag value.eof _).bind ?_
  exact .pure value _

theorem LogReadResponse.recovers :
    Recovers exact LogReadResponse.read LogReadResponse.write LogReadResponse.Valid := by
  intro input value rest h
  simp only [LogReadResponse.read, Reader.bind_eq_some, Reader.pure_eq_some] at h
  obtain ⟨success, _, h1, message, _, h2, logUid, _, h3, chunk, _, h4, nextCursor, _, h5, truncated,
    _, h6, eof, _, h7, rfl, rfl⟩ := h
  refine ⟨valid_of_uid h3, fun w => ?_⟩
  exact (restores_flag h1 w).trans <| (restores_text h2 _).trans <| (restores_uid h3 _).trans <|
    (restores_text h4 _).trans <| (restores_u64 h5 _).trans <| (restores_flag h6 _).trans <|
    restores_flag h7 _

end messages

/-! ### The overloads -/

namespace CoreMessage

variable {exact : Prop} {stringMap : PayloadReader (SortedMap Text Text)}

/-- **What is written of a valid message is read back**, by any reader that reads string
maps back. -/
theorem agrees (hmap : Agrees stringMap Writer.map fun _ => True) (kind : CoreMessage) :
    Agrees (kind.read stringMap) kind.write kind.Valid := by
  cases kind with
  | entityDirectory => exact EntityDirectory.agrees hmap
  | attachmentRequest => exact AttachmentRequest.agrees
  | attachmentResponse => exact AttachmentResponse.agrees
  | authorityRequest => exact AuthorityRequest.agrees
  | authorityStatus => exact AuthorityStatus.agrees
  | streamCatalog => exact StreamCatalog.agrees hmap
  | streamSubscription => exact StreamSubscription.agrees
  | streamSubscriptionStatus => exact StreamSubscriptionStatus.agrees
  | streamSample => exact StreamSample.agrees hmap
  | actionUpdate => exact ActionUpdate.agrees
  | bulkDescriptor => exact BulkDescriptor.agrees hmap
  | logListResponse => exact LogListResponse.agrees hmap
  | logReadRequest => exact LogReadRequest.agrees
  | logReadResponse => exact LogReadResponse.agrees

/-- **What is read is valid and is written back**, as exactly as string maps are. -/
theorem recovers (hmap : Recovers exact stringMap Writer.map fun _ => True) (kind : CoreMessage) :
    Recovers exact (kind.read stringMap) kind.write kind.Valid := by
  cases kind with
  | entityDirectory => exact EntityDirectory.recovers hmap
  | attachmentRequest => exact AttachmentRequest.recovers
  | attachmentResponse => exact AttachmentResponse.recovers
  | authorityRequest => exact AuthorityRequest.recovers
  | authorityStatus => exact AuthorityStatus.recovers
  | streamCatalog => exact StreamCatalog.recovers hmap
  | streamSubscription => exact StreamSubscription.recovers
  | streamSubscriptionStatus => exact StreamSubscriptionStatus.recovers
  | streamSample => exact StreamSample.recovers hmap
  | actionUpdate => exact ActionUpdate.recovers
  | bulkDescriptor => exact BulkDescriptor.recovers hmap
  | logListResponse => exact LogListResponse.recovers hmap
  | logReadRequest => exact LogReadRequest.recovers
  | logReadResponse => exact LogReadResponse.recovers

/-- No message is empty. -/
theorem decodeAll_read_nil (kind : CoreMessage) : decodeAll (kind.read stringMap) [] = none := by
  cases kind <;> rfl

theorem decodeAll_of_agrees (hmap : Agrees stringMap Writer.map fun _ => True)
    {kind : CoreMessage} {value : kind.Value} (hvalid : kind.Valid value)
    (hwritten : (kind.write {} value).valid = true) :
    decodeAll (kind.read stringMap) (kind.encode value) = some value :=
  decodeAll_take (kind.agrees hmap value hvalid {}) hwritten

/-- What was decoded is valid, and can be encoded. -/
theorem encode_of_recovers (hmap : Recovers exact stringMap Writer.map fun _ => True)
    {kind : CoreMessage} {value : kind.Value} {input : Bytes}
    (h : decodeAll (kind.read stringMap) input = some value) :
    kind.Valid value ∧ (kind.write {} value).valid = true ∧
      (exact → kind.encode value = input) := by
  obtain ⟨hvalid, hrestored⟩ := kind.recovers hmap (eq_some_of_decodeAll h)
  obtain ⟨read, written, hinput, hwrite, hsame⟩ := hrestored {}
  have hok : (kind.write {} value).valid = true := by
    rw [hwrite]
    rfl
  refine ⟨hvalid, hok, fun hexact => ?_⟩
  calc kind.encode value = (kind.write {} value).data := Buffer.take_of_valid hok
    _ = written := by
        rw [hwrite]
        rfl
    _ = input := by rw [hsame hexact, hinput, List.append_nil]

end CoreMessage

/-- **A valid core message that can be encoded is decoded again.** -/
theorem coreMessage_roundTrip (kind : CoreMessage) (value : kind.Value)
    (hvalid : kind.Valid value) (h : kind.encode value ≠ []) :
    kind.decode (kind.encode value) = some value :=
  CoreMessage.decodeAll_of_agrees agrees_stringMap hvalid (Buffer.valid_of_take_ne_nil h)

/-- A directory of one vehicle, as a bridge announces it. -/
def sampleDirectory : EntityDirectory where
  endpointUid := ascii "bridge.alpha"
  revision := ascii "r1"
  entities := [{
    entityUid := ascii "uav-1"
    kind := ascii "uav"
    attributes := (SortedMap.empty.insert (ascii "model") (ascii "x4")).insert (ascii "fw") []
    capabilities := [ascii "arm", ascii "land"]
    availability := .degraded }]

theorem coreMessage_roundTrip_sampleDirectory :
    CoreMessage.Valid .entityDirectory sampleDirectory ∧
      CoreMessage.encode .entityDirectory sampleDirectory ≠ [] ∧
      CoreMessage.decode .entityDirectory (CoreMessage.encode .entityDirectory sampleDirectory) =
        some sampleDirectory := by
  have hvalid : CoreMessage.Valid .entityDirectory sampleDirectory := by
    refine ⟨by decide, fun entity hmem => ?_⟩
    rw [List.mem_singleton.mp hmem]
    show validUid _ = true
    decide
  have hencode : CoreMessage.encode .entityDirectory sampleDirectory ≠ [] := by decide
  exact ⟨hvalid, hencode, coreMessage_roundTrip _ _ hvalid hencode⟩

/-- **Core decoding loses nothing**: what was decoded can be encoded and decoded again, and
is encoded as the bytes it came from exactly when these list every string map in ascending
order. -/
theorem coreMessage_lossless (kind : CoreMessage) (input : Bytes) (value : kind.Value)
    (h : kind.decode input = some value) :
    kind.encode value ≠ [] ∧ kind.decode (kind.encode value) = some value ∧
      (kind.encode value = input ↔ kind.MapsAscending input) := by
  obtain ⟨hvalid, hwritten, -⟩ := CoreMessage.encode_of_recovers recovers_stringMap h
  have hdecode : kind.decode (kind.encode value) = some value :=
    CoreMessage.decodeAll_of_agrees agrees_stringMap hvalid hwritten
  refine ⟨fun hnil => ?_, hdecode, ?_, ?_⟩
  · rw [hnil, CoreMessage.decode, CoreMessage.decodeAll_read_nil] at hdecode
    exact absurd hdecode (by simp)
  · intro heq
    have hstrict := CoreMessage.decodeAll_of_agrees agrees_ascendingMap hvalid hwritten
    rw [heq] at hstrict
    rw [CoreMessage.MapsAscending, hstrict]
    rfl
  · intro hascending
    obtain ⟨value', hstrict⟩ := Option.isSome_iff_exists.mp hascending
    obtain ⟨hvalid', hwritten', hexact⟩ :=
      CoreMessage.encode_of_recovers (@recovers_ascendingMap True) hstrict
    have hinput := hexact trivial
    -- the value in ascending order is the one that was decoded
    have hsame : kind.decode input = some value' := by
      rw [← hinput]
      exact CoreMessage.decodeAll_of_agrees agrees_stringMap hvalid' hwritten'
    rw [← hinput, Option.some.inj (h.symm.trans hsame)]

/-- A descriptor whose metadata lists its keys the other way round. -/
def descendingDescriptor : Bytes :=
  appendText (ascii "image/png") ++ appendText [] ++ appendU16 2 ++
    (appendText (ascii "width") ++ appendText (ascii "640")) ++
    (appendText (ascii "height") ++ appendText (ascii "480")) ++ appendU64 7

theorem coreMessage_lossless_descendingDescriptor :
    ∃ value, CoreMessage.decode .bulkDescriptor descendingDescriptor = some value ∧
      CoreMessage.encode .bulkDescriptor value ≠ [] ∧
      CoreMessage.encode .bulkDescriptor value ≠ descendingDescriptor := by
  have hsome : (CoreMessage.decode .bulkDescriptor descendingDescriptor).isSome = true := by
    decide
  obtain ⟨value, hvalue⟩ := Option.isSome_iff_exists.mp hsome
  obtain ⟨hne, -, hiff⟩ := coreMessage_lossless .bulkDescriptor descendingDescriptor value hvalue
  refine ⟨value, hvalue, hne, fun heq => absurd (hiff.mp heq) ?_⟩
  unfold CoreMessage.MapsAscending
  decide

/-! ### The messages of the runtime -/

theorem flag_bind {β : Type} (next : Bool → PayloadReader β) :
    (PayloadReader.flag >>= next) =
      (u8 >>= fun byte => if 1 < byte then failure else next (byte != 0)) := by
  funext input
  cases input with
  | nil => rfl
  | cons byte rest =>
    show (PayloadReader.flag (byte :: rest)).bind (fun out => next out.1 out.2) =
      (if 1 < byte then failure else next (byte != 0)) rest
    by_cases h : 1 < byte
    · have hflag : PayloadReader.flag (byte :: rest) = none := by
        refine Option.eq_none_iff_forall_ne_some.mpr fun out hout => ?_
        obtain ⟨first, middle, hfirst, -⟩ := Reader.bind_eq_some.mp hout
        obtain ⟨hread, hcheck⟩ := checked_eq_some.mp hfirst
        obtain ⟨rfl, -⟩ := Prod.mk.inj (Option.some.inj hread)
        exact absurd h (UInt8.not_lt.mpr (of_decide_eq_true hcheck))
      rw [hflag, if_pos h]
      rfl
    · have hflag : PayloadReader.flag (byte :: rest) = some (byte != 0, rest) := by
        refine Reader.bind_eq_some.mpr ⟨byte, rest, checked_eq_some.mpr ⟨rfl, ?_⟩, rfl⟩
        exact decide_eq_true (UInt8.not_lt.mp h)
      rw [hflag, if_neg h]
      rfl

/-- The runtime reads an authority request with the decoder of the message. -/
theorem authorityRequest_decode_eq (payload : Bytes) :
    AuthorityRequest.decode payload = CoreMessage.decode .authorityRequest payload := by
  have hreader : AuthorityRequest.read = (do
      let authorityScope ← PayloadReader.text
      let leaseTtlMs ← PayloadReader.u32
      let preempt ← PayloadReader.u8
      if 1 < preempt then failure
      else pure { authorityScope, leaseTtlMs, allowPreempt := preempt != 0 }) := by
    simp only [AuthorityRequest.read, flag_bind]
  rw [CoreMessage.decode, CoreMessage.read, hreader]
  rfl

theorem authorityRequest_encode_eq (value : AuthorityRequest) :
    value.encode = CoreMessage.encode .authorityRequest value := by
  unfold AuthorityRequest.encode
  by_cases h : uint16Max < value.authorityScope.length
  · rw [if_pos h]
    simp [CoreMessage.encode, CoreMessage.write, AuthorityRequest.write, Writer.text, h,
      Writer.u32, Writer.flag, Writer.u8, Buffer.take, Buffer.put, Buffer.invalidate]
  · rw [if_neg h]
    simp [CoreMessage.encode, CoreMessage.write, AuthorityRequest.write, Writer.text, h,
      Writer.u32, Writer.flag, Writer.u8, Writer.u16, Buffer.take, Buffer.put, appendText]

theorem authorityStatus_encode_eq (value : AuthorityStatus) :
    value.encode = CoreMessage.encode .authorityStatus value := by
  unfold AuthorityStatus.encode
  by_cases h1 : uint16Max < value.authorityScope.length <;>
  by_cases h2 : uint16Max < value.state.length <;>
  by_cases h3 : uint16Max < value.detail.length <;>
  simp [CoreMessage.encode, CoreMessage.write, AuthorityStatus.write, Writer.text, h1, h2, h3,
      Writer.u32, Writer.u16, Buffer.take, Buffer.put, Buffer.invalidate, appendText]

end YunLink
