import YunLink.Profiles.Proto

/-!
# The messages of the media profile

Cameras, the assets they make, and the files of the storages: the messages of `media.proto` with
the validators of `media_validation.cpp`.

## Main definitions

* `MediaError`, `MediaAssetKind`, `MediaFileEntryType` — the named numbers of the open
  enumerations, with `tryFrom` as the generated Rust has it.
* `CameraDescriptor`, `MediaAssetItem`, `MediaFileEntry`, … — the messages, with the fields that
  a validator reads.
* `Cpp.validRelativePath` — the grammar of the paths below a storage.
* `Cpp.validateCameraDescriptor`, …, `Cpp.validateMediaFilePutChunk` — the validators.

## Main results

* `Cpp.validRelativePath_iff` — **an accepted path has no backslash, and none of its segments is
  empty, `.` or `..`**.
-/

namespace YunLink.Media

open Profiles Checks

/-! ### Enumerations -/

/-- `MediaError`. -/
inductive MediaError
  | unspecified
  | ok
  | invalidRequest
  | cameraUnavailable
  | unsupported
  | busy
  | operationFailed
  | timeout
  | internalError
  | permissionDenied
  | notFound
  | integrityError
  | noSpace
  deriving DecidableEq, Repr

/-- The number of an error in `media.proto`. -/
def MediaError.number : MediaError → ℤ
  | .unspecified => 0
  | .ok => 1
  | .invalidRequest => 2
  | .cameraUnavailable => 3
  | .unsupported => 4
  | .busy => 5
  | .operationFailed => 6
  | .timeout => 7
  | .internalError => 8
  | .permissionDenied => 9
  | .notFound => 10
  | .integrityError => 11
  | .noSpace => 12

/-- `MediaError::try_from`. -/
def MediaError.tryFrom : ℤ → Option MediaError
  | 0 => some .unspecified
  | 1 => some .ok
  | 2 => some .invalidRequest
  | 3 => some .cameraUnavailable
  | 4 => some .unsupported
  | 5 => some .busy
  | 6 => some .operationFailed
  | 7 => some .timeout
  | 8 => some .internalError
  | 9 => some .permissionDenied
  | 10 => some .notFound
  | 11 => some .integrityError
  | 12 => some .noSpace
  | _ => none

/-- `MediaAssetKind`. -/
inductive MediaAssetKind
  | unspecified
  | photo
  | thumbnail
  | video
  deriving DecidableEq, Repr

/-- The number of a kind in `media.proto`. -/
def MediaAssetKind.number : MediaAssetKind → ℤ
  | .unspecified => 0
  | .photo => 1
  | .thumbnail => 2
  | .video => 3

/-- `MediaAssetKind::try_from`. -/
def MediaAssetKind.tryFrom : ℤ → Option MediaAssetKind
  | 0 => some .unspecified
  | 1 => some .photo
  | 2 => some .thumbnail
  | 3 => some .video
  | _ => none

/-- `MediaFileEntryType`. -/
inductive MediaFileEntryType
  | unspecified
  | file
  | directory
  deriving DecidableEq, Repr

/-- The number of a type in `media.proto`. -/
def MediaFileEntryType.number : MediaFileEntryType → ℤ
  | .unspecified => 0
  | .file => 1
  | .directory => 2

/-- `MediaFileEntryType::try_from`. -/
def MediaFileEntryType.tryFrom : ℤ → Option MediaFileEntryType
  | 0 => some .unspecified
  | 1 => some .file
  | 2 => some .directory
  | _ => none

/-- A number with a name is the number of the error it names. -/
theorem MediaError.tryFrom_eq_some {n : ℤ} {e : MediaError} :
    MediaError.tryFrom n = some e ↔ n = e.number := by
  constructor
  · intro h
    unfold MediaError.tryFrom at h
    split at h <;> cases h <;> rfl
  · rintro rfl
    cases e <;> rfl

theorem MediaAssetKind.tryFrom_eq_some {n : ℤ} {k : MediaAssetKind} :
    MediaAssetKind.tryFrom n = some k ↔ n = k.number := by
  constructor
  · intro h
    unfold MediaAssetKind.tryFrom at h
    split at h <;> cases h <;> rfl
  · rintro rfl
    cases k <;> rfl

theorem MediaFileEntryType.tryFrom_eq_some {n : ℤ} {t : MediaFileEntryType} :
    MediaFileEntryType.tryFrom n = some t ↔ n = t.number := by
  constructor
  · intro h
    unfold MediaFileEntryType.tryFrom at h
    split at h <;> cases h <;> rfl
  · rintro rfl
    cases t <;> rfl

/-! ### Messages -/

/-- A camera. -/
structure CameraDescriptor where
  cameraUid : ProtoString := []
  name : ProtoString := []
  imageTopic : ProtoString := []
  cameraInfoTopic : ProtoString := []
  /-- The bits of the `double`. -/
  frameRateHz : UInt64 := 0
  encoding : ProtoString := []
  liveViewSupported : Bool := false
  liveViewControlSupported : Bool := false
  liveViewActive : Bool := false
  errorMessage : ProtoString := []
  rtspUrl : ProtoString := []
  liveViewAutostart : Bool := false
  deriving DecidableEq, Repr

/-- The cameras there are. -/
structure CameraCatalogSnapshot where
  cameras : List CameraDescriptor := []
  deriving DecidableEq, Repr

/-- Where a live view is to be had, or why not. -/
structure CameraStartRtspResponse where
  error : ℤ := 0
  message : ProtoString := []
  rtspUrl : ProtoString := []
  deriving DecidableEq, Repr

/-- A recording: its type, its size and its hash. -/
structure MediaAssetRef where
  assetId : ProtoString := []
  kind : ℤ := 0
  mimeType : ProtoString := []
  sizeBytes : ℕ := 0
  sha256 : Bytes := []
  cameraUid : ProtoString := []
  displayName : ProtoString := []
  deriving DecidableEq, Repr

/-- A recording in a list, with its thumbnail. -/
structure MediaAssetItem where
  asset : Option MediaAssetRef := none
  thumbnail : Option MediaAssetRef := none
  width : ℕ := 0
  height : ℕ := 0
  deriving DecidableEq, Repr

/-- Asks for a page of the recordings. -/
structure MediaAssetListRequest where
  cameraUid : ProtoString := []
  kinds : List ℤ := []
  createdAfterNs : ℕ := 0
  createdBeforeNs : ℕ := 0
  pageSize : ℕ := 0
  pageToken : ProtoString := []
  deriving DecidableEq, Repr

/-- A page of the recordings, or why there is none. -/
structure MediaAssetListResponse where
  error : ℤ := 0
  message : ProtoString := []
  items : List MediaAssetItem := []
  nextPageToken : ProtoString := []
  deriving DecidableEq, Repr

/-- A piece of a recording. -/
structure MediaAssetChunkResponse where
  error : ℤ := 0
  message : ProtoString := []
  transferId : ProtoString := []
  offset : ℕ := 0
  data : Bytes := []
  eof : Bool := false
  deriving DecidableEq, Repr

/-- A file or a directory. -/
structure MediaFileEntry where
  fileId : ProtoString := []
  entryType : ℤ := 0
  storageId : ProtoString := []
  relativePath : ProtoString := []
  name : ProtoString := []
  mimeType : ProtoString := []
  sizeBytes : ℕ := 0
  sha256 : Bytes := []
  deriving DecidableEq, Repr

/-- Asks for a page of the files below a path. -/
structure MediaFileListRequest where
  storageId : ProtoString := []
  pathPrefix : ProtoString := []
  pageSize : ℕ := 0
  pageToken : ProtoString := []
  deriving DecidableEq, Repr

/-- A page of the files, or why there is none. -/
structure MediaFileListResponse where
  error : ℤ := 0
  message : ProtoString := []
  entries : List MediaFileEntry := []
  nextPageToken : ProtoString := []
  deriving DecidableEq, Repr

/-- A piece of a file. -/
structure MediaFileChunkResponse where
  error : ℤ := 0
  message : ProtoString := []
  transferId : ProtoString := []
  offset : ℕ := 0
  data : Bytes := []
  eof : Bool := false
  deriving DecidableEq, Repr

/-- Begins an upload. -/
structure MediaFilePutOpen where
  storageId : ProtoString := []
  relativePath : ProtoString := []
  sizeBytes : ℕ := 0
  sha256 : Bytes := []
  mimeType : ProtoString := []
  deriving DecidableEq, Repr

/-- A piece of an upload, as far as a validator reads it. -/
structure MediaFilePutChunk where
  transferId : ProtoString := []
  data : Bytes := []
  deriving DecidableEq, Repr

/-- `item.asset()`: the default where the field is not set. -/
def MediaAssetItem.getAsset (item : MediaAssetItem) : MediaAssetRef := item.asset.getD {}

/-- `item.thumbnail()`. -/
def MediaAssetItem.getThumbnail (item : MediaAssetItem) : MediaAssetRef := item.thumbnail.getD {}

/-! ### The validators in C++ -/

namespace Cpp

/-- The most cameras. -/
@[simp, reducible] def kMediaMaxCameras : ℕ := 32

/-- The longest UID of a camera. -/
@[simp, reducible] def kMediaMaxCameraUidBytes : ℕ := 96

/-- The longest message. -/
@[simp, reducible] def kMediaMaxMessageBytes : ℕ := 256

/-- The longest id of a recording. -/
@[simp, reducible] def kMediaMaxAssetIdBytes : ℕ := 128

/-- The longest id of a transfer. -/
@[simp, reducible] def kMediaMaxTransferIdBytes : ℕ := 128

/-- The longest piece. -/
@[simp, reducible] def kMediaMaxChunkBytes : ℕ := 256 * 1024

/-- The length of a hash. -/
@[simp, reducible] def kMediaSha256Bytes : ℕ := 32

/-- The longest address. -/
@[simp, reducible] def kMediaMaxSourceUriBytes : ℕ := 2048

/-- The longest page of recordings. -/
@[simp, reducible] def kMediaMaxAssetPageSize : ℕ := 100

/-- The longest page token. -/
@[simp, reducible] def kMediaMaxPageTokenBytes : ℕ := 512

/-- The greatest width or height. -/
@[simp, reducible] def kMediaMaxDimensionPixels : ℕ := 32768

/-- The longest id of a storage. -/
@[simp, reducible] def kMediaMaxStorageIdBytes : ℕ := 64

/-- The longest path. -/
@[simp, reducible] def kMediaMaxRelativePathBytes : ℕ := 1024

/-- The longest page of files. -/
@[simp, reducible] def kMediaMaxFileEntries : ℕ := 256

/-- `ascii_alphanumeric`. -/
def asciiAlphanumeric (character : UInt8) : Bool :=
  ('a'.toUInt8 ≤ character && character ≤ 'z'.toUInt8) ||
    ('A'.toUInt8 ≤ character && character ≤ 'Z'.toUInt8) ||
    ('0'.toUInt8 ≤ character && character ≤ '9'.toUInt8)

/-- What a token may consist of. -/
def tokenByte (character : UInt8) : Bool :=
  asciiAlphanumeric character || character == '-'.toUInt8 || character == '_'.toUInt8 ||
    character == '.'.toUInt8

/-- `valid_token`. -/
def validToken (value : Text) (maxBytes : ℕ) : Bool :=
  if value.isEmpty || maxBytes < value.length then false else value.all tokenByte

/-- What a page token may consist of. -/
def pageTokenByte (character : UInt8) : Bool :=
  asciiAlphanumeric character || character == '-'.toUInt8 || character == '_'.toUInt8 ||
    character == '='.toUInt8

/-- `valid_page_token`. -/
def validPageToken (value : Text) : Bool :=
  value.length ≤ kMediaMaxPageTokenBytes && value.all pageTokenByte

/-- `valid_error`. -/
def validError (error : ℤ) : Bool :=
  MediaError.ok.number ≤ error && error ≤ MediaError.noSpace.number

/-- The control characters of ASCII. -/
def controlByte (character : UInt8) : Bool := character < 0x20 || character == 0x7f

/-- `contains_control`. -/
def containsControl (value : Text) : Bool := value.any controlByte

/-- What ends a segment. -/
def slash : UInt8 := '/'.toUInt8

/-- What no path has. -/
def backslash : UInt8 := '\\'.toUInt8

/-- What the segments `.` and `..` are made of. -/
def dot : UInt8 := '.'.toUInt8

/-- The segments that no path may have. -/
def badSegment (segment : Text) : Bool :=
  segment.isEmpty || segment == [dot] || segment == [dot, dot]

/-- `value.find('/', start)`. -/
def findSlash (value : Text) (start : ℕ) : Option ℕ :=
  ((value.drop start).findIdx? (· == slash)).map (start + ·)

theorem findSlash_le {value : Text} {start stop : ℕ} (h : findSlash value start = some stop) :
    start ≤ stop := by
  obtain ⟨i, -, rfl⟩ := Option.map_eq_some_iff.mp h
  exact Nat.le_add_right start i

/-- The loop of `valid_relative_path`, with the next segment starting at `start`. -/
def relativePathLoop (value : Text) (start : ℕ) : Bool :=
  if start ≤ value.length then
    match _h : findSlash value start with
    | none => !badSegment (value.drop start)
    | some stop =>
      if badSegment ((value.drop start).take (stop - start)) then false
      else relativePathLoop value (stop + 1)
  else true
termination_by value.length + 1 - start
decreasing_by
  have := findSlash_le _h
  omega

/-- `valid_relative_path`. -/
def validRelativePath (value : Text) (allowEmpty : Bool) : Bool :=
  if value.isEmpty then allowEmpty
  else if value.head? == some slash || value.contains backslash then false
  else relativePathLoop value 0

/-- `validate_Camera_descriptor`. -/
def validateCameraDescriptor (camera : CameraDescriptor) : Except String Unit := do
  rejectIf (!validToken camera.cameraUid.bytes kMediaMaxCameraUidBytes) "camera uid is invalid"
  rejectIf
    (128 < camera.name.size || 256 < camera.imageTopic.size ||
      256 < camera.cameraInfoTopic.size || 64 < camera.encoding.size ||
      kMediaMaxMessageBytes < camera.errorMessage.size ||
      kMediaMaxSourceUriBytes < camera.rtspUrl.size ||
      containsControl camera.rtspUrl.bytes ||
      (camera.liveViewActive && (!camera.liveViewSupported || camera.rtspUrl.bytes.isEmpty)) ||
      (!camera.liveViewSupported &&
        (camera.liveViewControlSupported || !camera.rtspUrl.bytes.isEmpty ||
          camera.liveViewAutostart)) ||
      !isFinite camera.frameRateHz || lessThanZero camera.frameRateHz)
    "camera descriptor is invalid"

/-- `validate_Camera_catalog_snapshot`. -/
def validateCameraCatalogSnapshot (snapshot : CameraCatalogSnapshot) : Except String Unit := do
  rejectIf (kMediaMaxCameras < snapshot.cameras.length) "camera catalog is invalid"
  eachFresh (fun camera => camera.cameraUid.bytes)
    (fun camera fresh => do
      validateCameraDescriptor camera
      rejectIf (!fresh) "duplicate camera uid")
    [] snapshot.cameras

/-- `validate_Camera_start_rtsp_response`. -/
def validateCameraStartRtspResponse (response : CameraStartRtspResponse) : Except String Unit :=
  rejectIf
    (!validError response.error || kMediaMaxMessageBytes < response.message.size ||
      kMediaMaxSourceUriBytes < response.rtspUrl.size ||
      containsControl response.rtspUrl.bytes ||
      (response.error == MediaError.ok.number && response.rtspUrl.bytes.isEmpty) ||
      (response.error != MediaError.ok.number && !response.rtspUrl.bytes.isEmpty))
    "camera start RTSP response is invalid"

/-- `validate_Media_asset_ref`. -/
def validateMediaAssetRef (asset : MediaAssetRef) : Except String Unit :=
  rejectIf
    (!validToken asset.assetId.bytes kMediaMaxAssetIdBytes ||
      asset.kind < MediaAssetKind.photo.number || MediaAssetKind.video.number < asset.kind ||
      asset.mimeType.bytes.isEmpty || 96 < asset.mimeType.size || asset.sizeBytes == 0 ||
      asset.sha256.length != kMediaSha256Bytes ||
      !validToken asset.cameraUid.bytes kMediaMaxCameraUidBytes || 160 < asset.displayName.size)
    "media asset reference is invalid"

/-- `validate_Media_asset_item`. -/
def validateMediaAssetItem (item : MediaAssetItem) : Except String Unit := do
  rejectIf
    (item.asset.isNone || !(validateMediaAssetRef item.getAsset).isOk ||
      item.getAsset.kind == MediaAssetKind.thumbnail.number ||
      kMediaMaxDimensionPixels < item.width || kMediaMaxDimensionPixels < item.height)
    "media asset item is invalid"
  if item.thumbnail.isSome then
    rejectIf
      (!(validateMediaAssetRef item.getThumbnail).isOk ||
        item.getThumbnail.kind != MediaAssetKind.thumbnail.number ||
        item.getThumbnail.cameraUid.bytes != item.getAsset.cameraUid.bytes ||
        item.getThumbnail.assetId.bytes == item.getAsset.assetId.bytes)
      "media asset thumbnail relation is invalid"

/-- `validate_Media_asset_list_request`. -/
def validateMediaAssetListRequest (request : MediaAssetListRequest) : Except String Unit := do
  rejectIf
    ((!request.cameraUid.bytes.isEmpty &&
        !validToken request.cameraUid.bytes kMediaMaxCameraUidBytes) ||
      request.pageSize == 0 || kMediaMaxAssetPageSize < request.pageSize ||
      !validPageToken request.pageToken.bytes ||
      (request.createdAfterNs != 0 && request.createdBeforeNs != 0 &&
        request.createdBeforeNs < request.createdAfterNs))
    "media asset list request is invalid"
  eachFresh id
    (fun kind fresh =>
      rejectIf
        ((kind != MediaAssetKind.photo.number && kind != MediaAssetKind.video.number) || !fresh)
        "media asset list kind is invalid")
    [] request.kinds

/-- `validate_Media_asset_list_response`. -/
def validateMediaAssetListResponse (response : MediaAssetListResponse) :
    Except String Unit := do
  rejectIf
    (!validError response.error || kMediaMaxMessageBytes < response.message.size ||
      kMediaMaxAssetPageSize < response.items.length ||
      !validPageToken response.nextPageToken.bytes)
    "media asset list response is invalid"
  rejectIf
    (response.error != MediaError.ok.number &&
      (response.items.length != 0 || !response.nextPageToken.bytes.isEmpty))
    "failed media asset list response contains data"
  eachFresh (fun item => item.getAsset.assetId.bytes)
    (fun item fresh =>
      rejectIf (!(validateMediaAssetItem item).isOk || !fresh)
        "media asset list response contains duplicate or invalid asset")
    [] response.items

/-- `validate_Media_asset_chunk`. -/
def validateMediaAssetChunk (chunk : MediaAssetChunkResponse) : Except String Unit := do
  rejectIf (!validError chunk.error) "media error is invalid"
  rejectIf
    (kMediaMaxMessageBytes < chunk.message.size || kMediaMaxChunkBytes < chunk.data.length ||
      (!chunk.transferId.bytes.isEmpty &&
        !validToken chunk.transferId.bytes kMediaMaxTransferIdBytes))
    "media asset chunk is invalid"
  rejectIf
    (chunk.error == MediaError.ok.number &&
      (chunk.transferId.bytes.isEmpty || (chunk.data.isEmpty && !chunk.eof)))
    "empty non-final media chunk"

/-- `validate_Media_file_entry`; the path stays below its root. -/
def validateMediaFileEntry (entry : MediaFileEntry) : Except String Unit :=
  let directory := entry.entryType == MediaFileEntryType.directory.number
  rejectIf
    (!validToken entry.fileId.bytes kMediaMaxAssetIdBytes ||
      (entry.entryType != MediaFileEntryType.file.number && !directory) ||
      entry.storageId.bytes.isEmpty || kMediaMaxStorageIdBytes < entry.storageId.size ||
      entry.relativePath.bytes.isEmpty ||
      kMediaMaxRelativePathBytes < entry.relativePath.size ||
      entry.name.bytes.isEmpty || 160 < entry.name.size ||
      containsControl entry.relativePath.bytes ||
      !validRelativePath entry.relativePath.bytes false ||
      containsControl entry.name.bytes || (!directory && entry.sizeBytes == 0) ||
      (!directory && entry.sha256.length != kMediaSha256Bytes) ||
      (directory &&
        (!entry.mimeType.bytes.isEmpty || entry.sizeBytes != 0 || !entry.sha256.isEmpty)) ||
      96 < entry.mimeType.size)
    "media file entry is invalid"

/-- `validate_Media_file_list_request`; so does the prefix. -/
def validateMediaFileListRequest (request : MediaFileListRequest) : Except String Unit :=
  rejectIf
    (request.storageId.bytes.isEmpty || kMediaMaxStorageIdBytes < request.storageId.size ||
      kMediaMaxRelativePathBytes < request.pathPrefix.size ||
      containsControl request.pathPrefix.bytes ||
      !validRelativePath request.pathPrefix.bytes true || request.pageSize == 0 ||
      kMediaMaxFileEntries < request.pageSize || !validPageToken request.pageToken.bytes)
    "media file list request is invalid"

/-- `validate_Media_file_list_response`. -/
def validateMediaFileListResponse (response : MediaFileListResponse) : Except String Unit := do
  rejectIf
    (!validError response.error || kMediaMaxMessageBytes < response.message.size ||
      kMediaMaxFileEntries < response.entries.length ||
      !validPageToken response.nextPageToken.bytes)
    "media file list response is invalid"
  rejectIf
    (response.error != MediaError.ok.number &&
      (response.entries.length != 0 || !response.nextPageToken.bytes.isEmpty))
    "failed media file list response contains data"
  eachFresh (fun entry => entry.fileId.bytes)
    (fun entry fresh =>
      rejectIf (!(validateMediaFileEntry entry).isOk || !fresh)
        "media file list response contains duplicate or invalid entry")
    [] response.entries

/-- `validate_Media_file_chunk`. -/
def validateMediaFileChunk (chunk : MediaFileChunkResponse) : Except String Unit :=
  rejectIf
    (!validError chunk.error || kMediaMaxMessageBytes < chunk.message.size ||
      kMediaMaxChunkBytes < chunk.data.length ||
      (!chunk.transferId.bytes.isEmpty &&
        !validToken chunk.transferId.bytes kMediaMaxTransferIdBytes) ||
      (chunk.error == MediaError.ok.number &&
        (chunk.transferId.bytes.isEmpty || (chunk.data.isEmpty && !chunk.eof))))
    "media file chunk is invalid"

/-- `validate_Media_file_put_open`; the path stays below its root. -/
def validateMediaFilePutOpen (request : MediaFilePutOpen) : Except String Unit :=
  rejectIf
    (request.storageId.bytes.isEmpty || kMediaMaxStorageIdBytes < request.storageId.size ||
      request.relativePath.bytes.isEmpty ||
      kMediaMaxRelativePathBytes < request.relativePath.size ||
      containsControl request.relativePath.bytes ||
      !validRelativePath request.relativePath.bytes false || request.sizeBytes == 0 ||
      request.sha256.length != kMediaSha256Bytes || 96 < request.mimeType.size)
    "media file put open is invalid"

/-- `validate_Media_file_put_chunk`. -/
def validateMediaFilePutChunk (request : MediaFilePutChunk) : Except String Unit :=
  rejectIf
    (!validToken request.transferId.bytes kMediaMaxTransferIdBytes || request.data.isEmpty ||
      kMediaMaxChunkBytes < request.data.length)
    "media file put chunk is invalid"

/-! ### The grammar of paths -/

theorem splitOn_slash_of_none {value : Text} {start : ℕ} (h : findSlash value start = none) :
    (value.drop start).splitOn slash = [value.drop start] := by
  refine List.splitOn_eq_singleton fun hmem => ?_
  have hnone := List.findIdx?_eq_none_iff.mp (Option.map_eq_none_iff.mp h)
  exact absurd (hnone slash hmem) (by simp)

theorem splitOn_slash_of_some {value : Text} {start stop : ℕ}
    (h : findSlash value start = some stop) :
    stop < value.length ∧ (value.drop start).splitOn slash =
      (value.drop start).take (stop - start) :: (value.drop (stop + 1)).splitOn slash := by
  obtain ⟨i, hi, rfl⟩ := Option.map_eq_some_iff.mp h
  obtain ⟨hlt, hslash, hbefore⟩ := List.findIdx?_eq_some_iff_getElem.mp hi
  have hnot : slash ∉ (value.drop start).take i := by
    intro hmem
    obtain ⟨j, hj, heq⟩ := List.mem_take_iff_getElem.mp hmem
    have hji : j < i := by omega
    have := hbefore j hji
    simp [heq] at this
  have hsplit : value.drop start =
      (value.drop start).take i ++ slash :: value.drop (start + i + 1) := by
    conv_lhs =>
      rw [← List.take_append_drop i (value.drop start), List.drop_eq_getElem_cons hlt,
        beq_iff_eq.mp hslash, List.drop_drop]
    rfl
  rw [List.length_drop] at hlt
  refine ⟨by omega, ?_⟩
  rw [Nat.add_sub_cancel_left]
  conv_lhs => rw [hsplit]
  exact List.splitOn_append_cons_self_of_not_mem hnot _

/-- The loop looks at the segments from `start` on. -/
theorem relativePathLoop_eq (value : Text) (start : ℕ) (h : start ≤ value.length) :
    relativePathLoop value start =
      ((value.drop start).splitOn slash).all fun segment => !badSegment segment := by
  fun_induction relativePathLoop value start with
  | case1 start hle hnone => simp [splitOn_slash_of_none hnone]
  | case2 start hle stop hsome hbad =>
    simp [(splitOn_slash_of_some hsome).2, hbad]
  | case3 start hle stop hsome hgood ih =>
    obtain ⟨hlt, hsplit⟩ := splitOn_slash_of_some hsome
    simp [hsplit, hgood, ih hlt]
  | case4 start hnot => exact absurd h hnot

/-- **What an accepted path looks like.** -/
theorem validRelativePath_iff (value : Text) (allowEmpty : Bool) :
    validRelativePath value allowEmpty = true ↔
      (value = [] ∧ allowEmpty = true) ∨
        (value ≠ [] ∧ backslash ∉ value ∧
          ∀ segment ∈ value.splitOn slash, badSegment segment = false) := by
  cases value with
  | nil => simp [validRelativePath]
  | cons first rest =>
    simp only [validRelativePath, List.isEmpty_cons, Bool.false_eq_true, if_false,
      List.head?_cons, reduceCtorEq, false_and, false_or, ne_eq, not_false_eq_true, true_and,
      Bool.or_eq_true, beq_iff_eq, Option.some.injEq, List.contains_iff_mem]
    split
    · next hbad =>
      -- A path that starts with a slash starts with an empty segment.
      refine iff_of_false Bool.false_ne_true fun ⟨hbackslash, hsegments⟩ => ?_
      rcases hbad with rfl | hmem
      · have hempty : [] ∈ (slash :: rest).splitOn slash := by
          simp [List.splitOn_cons_eq_if_modifyHead]
        exact absurd (hsegments [] hempty) (by decide)
      · exact hbackslash hmem
    · next hgood =>
      rw [relativePathLoop_eq _ 0 (Nat.zero_le _), List.drop_zero, List.all_eq_true]
      simp only [Bool.not_eq_true']
      exact ⟨fun h => ⟨fun hmem => hgood (Or.inr hmem), h⟩, fun h => h.2⟩

end Cpp

end YunLink.Media
