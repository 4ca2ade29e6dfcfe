import Mathlib.Tactic.IntervalCases
import YunLink.Profiles.MediaBindings

/-!
# The validators of cameras and assets compared

The three languages write the same grammars on bytes and on characters, and read the open
enumerations by a range, by `try_from` and by a set.  What they accept is compared with what C++
accepts, validator by validator.

## Main definitions

* `AssetMessage`, `AssetMessage.validate` — the messages with their validators.
* `AssetMessage.ReportsNoSpace` — a well-formed report of the error that Python does not list.

## Main results

* `Python.validMediaToken_eq`, `Python.anyControl_eq` — tests on characters are those on bytes.
* `tryFrom_cases` — the errors that Rust accepts.
* `AssetMessage.isOk_validate` — what each language accepts.
* `AssetMessage.assetValidators_unanimous_iff` — **the validators agree on all messages but the
  reports of `MEDIA_NO_SPACE`.**
-/

namespace YunLink.Media

open Profiles Checks

/-! ### Strings -/

theorem Rust.isAsciiAlphanumeric_eq (byte : UInt8) :
    Rust.isAsciiAlphanumeric byte = Cpp.asciiAlphanumeric byte := rfl

@[simp] theorem Rust.validToken_eq (value : Text) (maxBytes : ℕ) :
    Rust.validToken value maxBytes = Cpp.validToken value maxBytes := by
  have htest : (fun byte => Rust.isAsciiAlphanumeric byte ||
      ['-'.toUInt8, '_'.toUInt8, '.'.toUInt8].contains byte) = Cpp.tokenByte := by
    funext byte
    simp [Rust.isAsciiAlphanumeric_eq, Cpp.tokenByte, Bool.or_assoc, beq_eq_decide]
  rw [Rust.validToken, htest, Cpp.validToken]
  by_cases hlong : maxBytes < value.length
  · rw [decide_eq_false (Nat.not_le.mpr hlong), decide_eq_true hlong]
    simp
  · rw [decide_eq_true (Nat.not_lt.mp hlong), decide_eq_false hlong]
    cases value <;> simp

@[simp] theorem Rust.validPageToken_eq (value : Text) :
    Rust.validPageToken value = Cpp.validPageToken value := by
  have htest : (fun byte => Rust.isAsciiAlphanumeric byte ||
      ['-'.toUInt8, '_'.toUInt8, '='.toUInt8].contains byte) = Cpp.pageTokenByte := by
    funext byte
    simp [Rust.isAsciiAlphanumeric_eq, Cpp.pageTokenByte, Bool.or_assoc, beq_eq_decide]
  rw [Rust.validPageToken, htest]
  rfl

@[simp] theorem Rust.anyControl_eq (value : Text) : Rust.anyControl value = Cpp.containsControl value :=
  rfl

theorem tokenByte_of_not_ascii : ∀ byte : UInt8, 128 ≤ byte.toNat → Cpp.tokenByte byte = false :=
  Utf8.forall_not_ascii (P := fun byte => Cpp.tokenByte byte = false) (by decide +kernel)

theorem pageTokenByte_of_not_ascii :
    ∀ byte : UInt8, 128 ≤ byte.toNat → Cpp.pageTokenByte byte = false :=
  Utf8.forall_not_ascii (P := fun byte => Cpp.pageTokenByte byte = false) (by decide +kernel)

theorem controlByte_of_not_ascii :
    ∀ byte : UInt8, 128 ≤ byte.toNat → Cpp.controlByte byte = false :=
  Utf8.forall_not_ascii (P := fun byte => Cpp.controlByte byte = false) (by decide +kernel)

theorem Python.mediaTokenChar_eq (char : Char) : Python.mediaTokenChar char =
    (decide (char.toNat < 128) && Cpp.tokenByte char.toUInt8) := by
  refine Utf8.test_eq (by decide) (fun c hc => ?_) char
  simp [Python.mediaTokenChar, Python.isascii, hc]

theorem Python.mediaPageTokenChar_eq (char : Char) : Python.mediaPageTokenChar char =
    (decide (char.toNat < 128) && Cpp.pageTokenByte char.toUInt8) := by
  refine Utf8.test_eq (by decide) (fun c hc => ?_) char
  have hne : c ≠ '=' := by
    rintro rfl
    exact hc (by decide)
  simp [Python.mediaPageTokenChar, Python.isascii, hc, hne]

theorem Python.controlChar_eq (char : Char) :
    (decide (char.toNat < 0x20) || char.toNat == 0x7f) =
      (decide (char.toNat < 128) && Cpp.controlByte char.toUInt8) := by
  refine Utf8.test_eq (q := fun char => decide (char.toNat < 0x20) || char.toNat == 0x7f)
    (by decide) (fun c hc => ?_) char
  have hlow : ¬ c.toNat < 0x20 := by omega
  have hdelete : c.toNat ≠ 0x7f := by omega
  simp [hlow, hdelete]

/-- **The token grammar of Python is the one of C++**, on characters instead of bytes. -/
@[simp] theorem Python.validMediaToken_eq (value : ProtoString) (maxBytes : ℕ) :
    Python.validMediaToken value maxBytes = Cpp.validToken value.bytes maxBytes := by
  have hall : value.bytes.all Cpp.tokenByte = value.all Python.mediaTokenChar :=
    Utf8.all_encode tokenByte_of_not_ascii Python.mediaTokenChar_eq value
  rw [Python.validMediaToken, Cpp.validToken, ← hall, ProtoString.isEmpty_bytes,
    ProtoString.size]
  by_cases hlong : maxBytes < value.bytes.length
  · rw [decide_eq_false (Nat.not_le.mpr hlong), decide_eq_true hlong]
    simp
  · rw [decide_eq_true (Nat.not_lt.mp hlong), decide_eq_false hlong]
    cases value.isEmpty <;> simp

@[simp] theorem Python.validMediaPageToken_eq (value : ProtoString) :
    Python.validMediaPageToken value = Cpp.validPageToken value.bytes := by
  have hall : value.bytes.all Cpp.pageTokenByte = value.all Python.mediaPageTokenChar :=
    Utf8.all_encode pageTokenByte_of_not_ascii Python.mediaPageTokenChar_eq value
  rw [Python.validMediaPageToken, Cpp.validPageToken, hall]
  rfl

@[simp] theorem Python.anyControl_eq (value : ProtoString) :
    Python.anyControl value = Cpp.containsControl value.bytes :=
  (Utf8.any_encode controlByte_of_not_ascii Python.controlChar_eq value).symm

/-! ### Enumerations -/

theorem validError_iff {n : ℤ} : Cpp.validError n = true ↔ 1 ≤ n ∧ n ≤ 12 := by
  simp only [Cpp.validError, Bool.and_eq_true, decide_eq_true_eq]
  rfl

/-- The errors that Rust accepts are those of the range, and its `MediaOk` is their first. -/
theorem tryFrom_cases (n : ℤ) :
    (Cpp.validError n = false ∧
        (MediaError.tryFrom n = none ∨ MediaError.tryFrom n = some .unspecified)) ∨
      ∃ error, MediaError.tryFrom n = some error ∧ error ≠ .unspecified ∧
        Cpp.validError n = true ∧ (error = .ok ↔ n = MediaError.ok.number) := by
  cases h : MediaError.tryFrom n with
  | none =>
    refine Or.inl ⟨?_, Or.inl rfl⟩
    by_contra hvalid
    obtain ⟨hlow, hhigh⟩ := validError_iff.mp (eq_true_of_ne_false hvalid)
    interval_cases n <;> cases h
  | some error =>
    have hn := MediaError.tryFrom_eq_some.mp h
    subst hn
    cases error with
    | unspecified => exact Or.inl ⟨by decide, Or.inr rfl⟩
    | _ => exact Or.inr ⟨_, rfl, by decide, by decide, by decide⟩

@[simp] theorem Python.mem_mediaErrors (n : ℤ) :
    n ∈ Python.mediaErrors ↔ Cpp.validError n = true := by
  rw [validError_iff, Python.mediaErrors, Int.mem_range_iff]
  simp only [Python.mediaErrorMax, MediaError.number]
  omega

/-- The errors that Python lists lack one. -/
@[simp] theorem Python.mem_listedErrors (n : ℤ) :
    n ∈ Python.listedErrors ↔ Cpp.validError n = true ∧ n ≠ MediaError.noSpace.number := by
  rw [validError_iff]
  simp only [Python.listedErrors, MediaError.number, List.mem_cons, List.not_mem_nil, or_false]
  omega

/-! ### Cameras -/

theorem Rust.isOk_validateCameraDescriptor (camera : CameraDescriptor) :
    (Rust.validateCameraDescriptor camera).isOk = (Cpp.validateCameraDescriptor camera).isOk := by
  have hsign := @atLeastZero_eq camera.frameRateHz
  rw [Bool.eq_iff_iff]
  simp [Cpp.validateCameraDescriptor, Rust.validateCameraDescriptor]
  grind

theorem Python.isOk_validateCameraDescriptor (camera : CameraDescriptor) :
    (Python.validateCameraDescriptor camera).isOk =
      (Cpp.validateCameraDescriptor camera).isOk := by
  have hsign := @atLeastZero_eq camera.frameRateHz
  rw [Bool.eq_iff_iff]
  simp [Cpp.validateCameraDescriptor, Python.validateCameraDescriptor]
  grind

theorem Rust.isOk_validateCameraCatalogSnapshot (snapshot : CameraCatalogSnapshot) :
    (Rust.validateCameraCatalogSnapshot snapshot).isOk =
      (Cpp.validateCameraCatalogSnapshot snapshot).isOk := by
  simp only [Rust.validateCameraCatalogSnapshot, Cpp.validateCameraCatalogSnapshot, isOk_bind]
  refine congrArg₂ and rfl (isOk_eachFresh_congr (fun camera fresh => ?_) (fun _ _ => Iff.rfl) _)
  rw [isOk_bind, isOk_bind, Rust.isOk_validateCameraDescriptor]

/-- The cameras of a catalog are told apart by their uids, as bytes or as characters. -/
theorem Python.isOk_validateCameraCatalogSnapshot (snapshot : CameraCatalogSnapshot) :
    (Python.validateCameraCatalogSnapshot snapshot).isOk =
      (Cpp.validateCameraCatalogSnapshot snapshot).isOk := by
  simp only [Python.validateCameraCatalogSnapshot, Cpp.validateCameraCatalogSnapshot, isOk_bind]
  refine congrArg₂ and rfl (isOk_eachFresh_congr (fun camera fresh => ?_)
    (fun _ _ => ProtoString.bytes_inj.symm) _)
  rw [isOk_bind, isOk_bind, Python.isOk_validateCameraDescriptor]

theorem Rust.isOk_validateCameraStartRtspResponse (response : CameraStartRtspResponse) :
    (Rust.validateCameraStartRtspResponse response).isOk =
      (Cpp.validateCameraStartRtspResponse response).isOk := by
  rw [Bool.eq_iff_iff]
  rcases tryFrom_cases response.error with
    ⟨hvalid, hnone | hzero⟩ | ⟨error, hsome, hne, hvalid, hok⟩
  · simp [Cpp.validateCameraStartRtspResponse, Rust.validateCameraStartRtspResponse, hvalid,
      hnone]
  · simp [Cpp.validateCameraStartRtspResponse, Rust.validateCameraStartRtspResponse, hvalid,
      hzero]
  · simp [Cpp.validateCameraStartRtspResponse, Rust.validateCameraStartRtspResponse, hvalid,
      hsome, hne, hok]
    grind

theorem Python.isOk_validateCameraStartRtspResponse (response : CameraStartRtspResponse) :
    (Python.validateCameraStartRtspResponse response).isOk =
      (Cpp.validateCameraStartRtspResponse response).isOk := by
  rw [Bool.eq_iff_iff]
  simp [Cpp.validateCameraStartRtspResponse, Python.validateCameraStartRtspResponse]
  grind

/-! ### Assets -/

theorem Rust.isOk_validateMediaAssetRef (asset : MediaAssetRef) :
    (Rust.validateMediaAssetRef asset).isOk = (Cpp.validateMediaAssetRef asset).isOk := by
  rw [Bool.eq_iff_iff]
  simp [Cpp.validateMediaAssetRef, Rust.validateMediaAssetRef]
  grind

theorem Python.isOk_validateMediaAssetRef (asset : MediaAssetRef) :
    (Python.validateMediaAssetRef asset).isOk = (Cpp.validateMediaAssetRef asset).isOk := by
  have hkind : asset.kind ∈ [MediaAssetKind.photo.number, MediaAssetKind.thumbnail.number,
      MediaAssetKind.video.number] ↔
      MediaAssetKind.photo.number ≤ asset.kind ∧ asset.kind ≤ MediaAssetKind.video.number := by
    simp only [MediaAssetKind.number, List.mem_cons, List.not_mem_nil, or_false]
    omega
  have hempty : 0 < asset.mimeType.size ↔ ¬ asset.mimeType = [] := by
    rw [ProtoString.size, List.length_pos_iff, ne_eq, ← List.isEmpty_iff,
      ProtoString.isEmpty_bytes, List.isEmpty_iff]
  rw [Bool.eq_iff_iff]
  simp only [Cpp.validateMediaAssetRef, Python.validateMediaAssetRef, isOk_rejectIf,
    List.contains_eq_mem, hkind, hempty]
  simp
  grind

theorem Rust.isOk_validateMediaAssetItem (item : MediaAssetItem) :
    (Rust.validateMediaAssetItem item).isOk = (Cpp.validateMediaAssetItem item).isOk := by
  rw [Bool.eq_iff_iff]
  obtain ⟨asset, thumbnail, width, height⟩ := item
  cases asset with
  | none => simp [Rust.validateMediaAssetItem, Cpp.validateMediaAssetItem]
  | some asset =>
    cases thumbnail with
    | none =>
      simp [Rust.validateMediaAssetItem, Cpp.validateMediaAssetItem, MediaAssetItem.getAsset,
        Rust.isOk_validateMediaAssetRef]
      grind
    | some thumbnail =>
      simp [Rust.validateMediaAssetItem, Cpp.validateMediaAssetItem, MediaAssetItem.getAsset,
        MediaAssetItem.getThumbnail, Rust.isOk_validateMediaAssetRef]
      grind

theorem Python.isOk_validateMediaAssetItem (item : MediaAssetItem) :
    (Python.validateMediaAssetItem item).isOk = (Cpp.validateMediaAssetItem item).isOk := by
  rw [Bool.eq_iff_iff]
  obtain ⟨asset, thumbnail, width, height⟩ := item
  cases thumbnail with
  | none =>
    simp [Python.validateMediaAssetItem, Cpp.validateMediaAssetItem,
      Python.isOk_validateMediaAssetRef]
    grind
  | some thumbnail =>
    simp [Python.validateMediaAssetItem, Cpp.validateMediaAssetItem,
      Python.isOk_validateMediaAssetRef, ProtoString.bytes_inj]
    grind

/-- The kinds that Rust names are the two numbers of C++. -/
theorem Rust.contains_kinds (kind : ℤ) :
    [some MediaAssetKind.photo, some .video].contains (MediaAssetKind.tryFrom kind) =
      (kind == MediaAssetKind.photo.number || kind == MediaAssetKind.video.number) := by
  rw [Bool.eq_iff_iff]
  simp only [List.contains_iff_mem, List.mem_cons, List.not_mem_nil, or_false,
    MediaAssetKind.tryFrom_eq_some, Bool.or_eq_true, beq_iff_eq]

theorem Rust.isOk_validateMediaAssetListRequest (request : MediaAssetListRequest) :
    (Rust.validateMediaAssetListRequest request).isOk =
      (Cpp.validateMediaAssetListRequest request).isOk := by
  simp only [Rust.validateMediaAssetListRequest, Cpp.validateMediaAssetListRequest, isOk_bind]
  refine congrArg₂ and ?_ (isOk_eachFresh_congr (fun kind fresh => ?_) (fun _ _ => Iff.rfl) _)
  · simp
  · rw [Rust.contains_kinds]
    simp [bne]

/-- Python asks for distinct kinds before it looks at them. -/
theorem Python.isOk_validateMediaAssetListRequest (request : MediaAssetListRequest) :
    (Python.validateMediaAssetListRequest request).isOk =
      (Cpp.validateMediaAssetListRequest request).isOk := by
  have hkinds : ∀ (kind : ℤ) (fresh : Bool),
      (rejectIf ((kind != MediaAssetKind.photo.number && kind != MediaAssetKind.video.number) ||
        !fresh) "media asset list kind is invalid" : Except String Unit).isOk =
      ((kind == MediaAssetKind.photo.number || kind == MediaAssetKind.video.number) && fresh) := by
    intro kind fresh
    simp [bne]
  rw [Bool.eq_iff_iff]
  simp only [Python.validateMediaAssetListRequest, Cpp.validateMediaAssetListRequest, isOk_bind,
    Bool.and_eq_true]
  rw [isOk_eachFresh hkinds, List.map_id]
  refine and_congr ?_ ?_
  · simp
    grind
  · rw [← length_dedup_eq]
    simp
    grind

theorem Rust.isOk_validateMediaAssetListResponse (response : MediaAssetListResponse) :
    (Rust.validateMediaAssetListResponse response).isOk =
      (Cpp.validateMediaAssetListResponse response).isOk := by
  have hitems : (eachFresh (fun item : MediaAssetItem => item.getAsset.assetId.bytes)
      (fun item fresh => do
        (Rust.validateMediaAssetItem item).mapError fun _ =>
          "media asset list response contains duplicate or invalid asset"
        rejectIf (!fresh) "media asset list response contains duplicate or invalid asset")
      [] response.items).isOk =
      (eachFresh (fun item : MediaAssetItem => item.getAsset.assetId.bytes)
        (fun item fresh =>
          rejectIf (!(Cpp.validateMediaAssetItem item).isOk || !fresh)
            "media asset list response contains duplicate or invalid asset")
        [] response.items).isOk :=
    isOk_eachFresh_congr
      (fun item fresh => by simp [Rust.isOk_validateMediaAssetItem]) (fun _ _ => Iff.rfl) _
  rcases tryFrom_cases response.error with
    ⟨hvalid, hnone | hzero⟩ | ⟨error, hsome, hne, hvalid, hok⟩
  · simp [Cpp.validateMediaAssetListResponse, Rust.validateMediaAssetListResponse, hvalid, hnone]
  · simp [Cpp.validateMediaAssetListResponse, Rust.validateMediaAssetListResponse, hvalid, hzero]
  · simp only [Cpp.validateMediaAssetListResponse, Rust.validateMediaAssetListResponse,
      isOk_okOr_bind, isOk_bind, hitems, hsome, Option.any_some]
    rw [Bool.eq_iff_iff]
    simp [hvalid, hne, hok]

/-- Python rejects the listings that C++ rejects, and those that report `MEDIA_NO_SPACE`. -/
theorem Python.isOk_validateMediaAssetListResponse (response : MediaAssetListResponse) :
    (Python.validateMediaAssetListResponse response).isOk = true ↔
      (Cpp.validateMediaAssetListResponse response).isOk = true ∧
        response.error ≠ MediaError.noSpace.number := by
  have hitems : (eachFresh (fun item : MediaAssetItem => item.getAsset.assetId)
      (fun item fresh => do
        (Python.validateMediaAssetItem item).mapError fun _ =>
          "media asset list response contains duplicate or invalid asset"
        rejectIf (!fresh) "media asset list response contains duplicate or invalid asset")
      [] response.items).isOk =
      (eachFresh (fun item : MediaAssetItem => item.getAsset.assetId.bytes)
        (fun item fresh =>
          rejectIf (!(Cpp.validateMediaAssetItem item).isOk || !fresh)
            "media asset list response contains duplicate or invalid asset")
        [] response.items).isOk :=
    isOk_eachFresh_congr (fun item fresh => by simp [Python.isOk_validateMediaAssetItem])
      (fun _ _ => ProtoString.bytes_inj.symm) _
  simp only [Cpp.validateMediaAssetListResponse, Python.validateMediaAssetListResponse,
    isOk_bind, hitems, Bool.and_eq_true]
  simp
  grind

theorem Rust.isOk_validateMediaAssetChunk (chunk : MediaAssetChunkResponse) :
    (Rust.validateMediaAssetChunk chunk).isOk = (Cpp.validateMediaAssetChunk chunk).isOk := by
  rw [Bool.eq_iff_iff]
  rcases tryFrom_cases chunk.error with
    ⟨hvalid, hnone | hzero⟩ | ⟨error, hsome, hne, hvalid, hok⟩
  · simp [Cpp.validateMediaAssetChunk, Rust.validateMediaAssetChunk, hvalid, hnone]
  · simp [Cpp.validateMediaAssetChunk, Rust.validateMediaAssetChunk, hvalid, hzero]
  · simp [Cpp.validateMediaAssetChunk, Rust.validateMediaAssetChunk, hvalid, hsome, hne, hok]

/-- Python rejects the chunks that C++ rejects, and those that report `MEDIA_NO_SPACE`. -/
theorem Python.isOk_validateMediaAssetChunk (chunk : MediaAssetChunkResponse) :
    (Python.validateMediaAssetChunk chunk).isOk = true ↔
      (Cpp.validateMediaAssetChunk chunk).isOk = true ∧
        chunk.error ≠ MediaError.noSpace.number := by
  simp [Cpp.validateMediaAssetChunk, Python.validateMediaAssetChunk]
  grind

/-- The messages of cameras and assets that have a validator in every language. -/
inductive AssetMessage
  | cameraDescriptor (camera : CameraDescriptor)
  | cameraCatalogSnapshot (snapshot : CameraCatalogSnapshot)
  | cameraStartRtspResponse (response : CameraStartRtspResponse)
  | assetRef (asset : MediaAssetRef)
  | assetItem (item : MediaAssetItem)
  | assetListRequest (request : MediaAssetListRequest)
  | assetListResponse (response : MediaAssetListResponse)
  | assetChunkResponse (chunk : MediaAssetChunkResponse)
  deriving DecidableEq, Repr

namespace AssetMessage

/-- The validator that a language has for the message. -/
def validate : AssetMessage → Language → Except String Unit
  | cameraDescriptor camera, .cpp => Cpp.validateCameraDescriptor camera
  | cameraDescriptor camera, .rust => Rust.validateCameraDescriptor camera
  | cameraDescriptor camera, .python => Python.validateCameraDescriptor camera
  | cameraCatalogSnapshot snapshot, .cpp => Cpp.validateCameraCatalogSnapshot snapshot
  | cameraCatalogSnapshot snapshot, .rust => Rust.validateCameraCatalogSnapshot snapshot
  | cameraCatalogSnapshot snapshot, .python => Python.validateCameraCatalogSnapshot snapshot
  | cameraStartRtspResponse response, .cpp => Cpp.validateCameraStartRtspResponse response
  | cameraStartRtspResponse response, .rust => Rust.validateCameraStartRtspResponse response
  | cameraStartRtspResponse response, .python =>
    Python.validateCameraStartRtspResponse response
  | assetRef asset, .cpp => Cpp.validateMediaAssetRef asset
  | assetRef asset, .rust => Rust.validateMediaAssetRef asset
  | assetRef asset, .python => Python.validateMediaAssetRef asset
  | assetItem item, .cpp => Cpp.validateMediaAssetItem item
  | assetItem item, .rust => Rust.validateMediaAssetItem item
  | assetItem item, .python => Python.validateMediaAssetItem item
  | assetListRequest request, .cpp => Cpp.validateMediaAssetListRequest request
  | assetListRequest request, .rust => Rust.validateMediaAssetListRequest request
  | assetListRequest request, .python => Python.validateMediaAssetListRequest request
  | assetListResponse response, .cpp => Cpp.validateMediaAssetListResponse response
  | assetListResponse response, .rust => Rust.validateMediaAssetListResponse response
  | assetListResponse response, .python => Python.validateMediaAssetListResponse response
  | assetChunkResponse chunk, .cpp => Cpp.validateMediaAssetChunk chunk
  | assetChunkResponse chunk, .rust => Rust.validateMediaAssetChunk chunk
  | assetChunkResponse chunk, .python => Python.validateMediaAssetChunk chunk

/-- A listing or a chunk that reports `MEDIA_NO_SPACE`, and is well formed otherwise. -/
def ReportsNoSpace : AssetMessage → Prop
  | assetListResponse response =>
    response.error = MediaError.noSpace.number ∧ response.message.size ≤ 256 ∧
      response.items = [] ∧ response.nextPageToken = []
  | assetChunkResponse chunk =>
    chunk.error = MediaError.noSpace.number ∧ chunk.message.size ≤ 256 ∧
      chunk.data.length ≤ 256 * 1024 ∧
      (chunk.transferId = [] ∨ Cpp.validToken chunk.transferId.bytes 128 = true)
  | _ => False

/-- The number of the error that Python does not list. -/
def namesNoSpace : AssetMessage → Bool
  | assetListResponse response => response.error == MediaError.noSpace.number
  | assetChunkResponse chunk => chunk.error == MediaError.noSpace.number
  | _ => false

/-- What each language accepts, from what C++ accepts. -/
theorem isOk_validate (message : AssetMessage) (l : Language) :
    (message.validate l).isOk = true ↔
      (message.validate .cpp).isOk = true ∧ (l = .python → message.namesNoSpace = false) := by
  cases l with
  | cpp => simp
  | rust =>
    cases message <;>
      simp [validate, Rust.isOk_validateCameraDescriptor,
        Rust.isOk_validateCameraCatalogSnapshot, Rust.isOk_validateCameraStartRtspResponse,
        Rust.isOk_validateMediaAssetRef, Rust.isOk_validateMediaAssetItem,
        Rust.isOk_validateMediaAssetListRequest, Rust.isOk_validateMediaAssetListResponse,
        Rust.isOk_validateMediaAssetChunk]
  | python =>
    cases message <;>
      simp [validate, namesNoSpace, Python.isOk_validateCameraDescriptor,
        Python.isOk_validateCameraCatalogSnapshot, Python.isOk_validateCameraStartRtspResponse,
        Python.isOk_validateMediaAssetRef, Python.isOk_validateMediaAssetItem,
        Python.isOk_validateMediaAssetListRequest, Python.isOk_validateMediaAssetListResponse,
        Python.isOk_validateMediaAssetChunk]

theorem noSpace_valid : Cpp.validError MediaError.noSpace.number = true ∧
    MediaError.noSpace.number ≠ MediaError.ok.number := by decide

theorem nil_validPageToken : Cpp.validPageToken (ProtoString.bytes []) = true := by decide

/-- The messages that C++ accepts and Python does not. -/
theorem reportsNoSpace_iff (message : AssetMessage) :
    message.ReportsNoSpace ↔
      (message.validate .cpp).isOk = true ∧ message.namesNoSpace = true := by
  cases message with
  | assetListResponse response =>
    simp only [ReportsNoSpace, namesNoSpace, validate, Cpp.validateMediaAssetListResponse,
      beq_iff_eq]
    constructor
    · rintro ⟨herror, hmessage, hitems, htoken⟩
      simp [herror, hmessage, hitems, htoken, eachFresh, noSpace_valid, nil_validPageToken]
    · rintro ⟨haccepted, herror⟩
      simp [herror, noSpace_valid] at haccepted
      obtain ⟨⟨⟨hmessage, -⟩, -⟩, ⟨hitems, htoken⟩, -⟩ := haccepted
      exact ⟨herror, hmessage, hitems, htoken⟩
  | assetChunkResponse chunk =>
    simp only [ReportsNoSpace, namesNoSpace, validate, Cpp.validateMediaAssetChunk, beq_iff_eq]
    constructor
    · rintro ⟨herror, hmessage, hdata, htransfer⟩
      simp [herror, hmessage, hdata, htransfer, noSpace_valid]
    · rintro ⟨haccepted, herror⟩
      simp [herror, noSpace_valid] at haccepted
      obtain ⟨⟨hmessage, hdata⟩, htransfer⟩ := haccepted
      exact ⟨herror, hmessage, hdata, htransfer⟩
  | _ => simp [ReportsNoSpace, namesNoSpace]

/-- **The validators of cameras and assets agree, but for `MEDIA_NO_SPACE`.** -/
theorem assetValidators_unanimous_iff (message : AssetMessage) :
    Unanimous message.validate ↔ ¬ message.ReportsNoSpace := by
  rw [unanimous_iff .python .cpp message.isOk_validate]
  · rw [reportsNoSpace_iff]
    simp
    tauto
  · intro l h
    exact ⟨h.1, fun _ => h.2 rfl⟩
  · intro l h
    exact ⟨h.1, fun h => nomatch h⟩

/-- A chunk that reports that there is no space. -/
def noSpaceChunk : AssetMessage := assetChunkResponse { error := MediaError.noSpace.number }

theorem noSpaceChunk_not_unanimous : ¬ Unanimous noSpaceChunk.validate := by
  rintro (hall | hnone)
  · exact absurd (hall .python) (by decide)
  · exact absurd (hnone .cpp) (by decide)

end AssetMessage

end YunLink.Media
