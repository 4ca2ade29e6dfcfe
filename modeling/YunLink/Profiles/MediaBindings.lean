import Mathlib.Data.Int.Range
import YunLink.Profiles.Media

/-!
# The media profile in Rust and Python

The validators of `validation_media.rs` and `validation_media.py`.  A `Result` of Rust and an
exception of Python are both read as the verdict with its message.

## Main definitions

* `Rust.validateCameraDescriptor`, …, `Rust.validateMediaFilePutChunk` — the Rust crate.
* `Python.validateCameraDescriptor`, …, `Python.validateMediaFilePutChunk` — the Python package.
-/

namespace YunLink.Media

open Profiles Checks

/-! ### Rust -/

namespace Rust

/-- The most cameras. -/
@[simp, reducible] def MEDIA_MAX_CAMERAS : ℕ := 32

/-- The longest piece. -/
@[simp, reducible] def MEDIA_MAX_CHUNK_BYTES : ℕ := 256 * 1024

/-- The longest address. -/
@[simp, reducible] def MEDIA_MAX_SOURCE_URI_BYTES : ℕ := 2048

/-- The longest page of recordings. -/
@[simp, reducible] def MEDIA_MAX_ASSET_PAGE_SIZE : ℕ := 100

/-- The longest page token. -/
@[simp, reducible] def MEDIA_MAX_PAGE_TOKEN_BYTES : ℕ := 512

/-- The greatest width or height. -/
@[simp, reducible] def MEDIA_MAX_DIMENSION_PIXELS : ℕ := 32768

/-- `u8::is_ascii_alphanumeric`. -/
def isAsciiAlphanumeric (byte : UInt8) : Bool :=
  (0x61 ≤ byte && byte ≤ 0x7a) || (0x41 ≤ byte && byte ≤ 0x5a) || (0x30 ≤ byte && byte ≤ 0x39)

/-- `valid_token`. -/
def validToken (value : Text) (maxBytes : ℕ) : Bool :=
  !value.isEmpty && value.length ≤ maxBytes &&
    value.all fun byte =>
      isAsciiAlphanumeric byte || ['-'.toUInt8, '_'.toUInt8, '.'.toUInt8].contains byte

/-- `valid_page_token`. -/
def validPageToken (value : Text) : Bool :=
  value.length ≤ MEDIA_MAX_PAGE_TOKEN_BYTES &&
    value.all fun byte =>
      isAsciiAlphanumeric byte || ['-'.toUInt8, '_'.toUInt8, '='.toUInt8].contains byte

/-- `bytes().any(|byte| byte < 0x20 || byte == 0x7f)`. -/
def anyControl (value : Text) : Bool := value.any fun byte => byte < 0x20 || byte == 0x7f

/-- `validate_Camera_descriptor`. -/
def validateCameraDescriptor (camera : CameraDescriptor) : Except String Unit :=
  require
    (validToken camera.cameraUid.bytes 96 && camera.name.size ≤ 128 &&
      camera.imageTopic.size ≤ 256 && camera.cameraInfoTopic.size ≤ 256 &&
      camera.encoding.size ≤ 64 && camera.errorMessage.size ≤ 256 &&
      camera.rtspUrl.size ≤ MEDIA_MAX_SOURCE_URI_BYTES && !anyControl camera.rtspUrl.bytes &&
      (!camera.liveViewActive ||
        (camera.liveViewSupported && !camera.rtspUrl.bytes.isEmpty)) &&
      (camera.liveViewSupported ||
        (!camera.liveViewControlSupported && camera.rtspUrl.bytes.isEmpty &&
          !camera.liveViewAutostart)) &&
      isFinite camera.frameRateHz && atLeastZero camera.frameRateHz)
    "camera descriptor is invalid"

/-- `validate_Camera_catalog_snapshot`. -/
def validateCameraCatalogSnapshot (snapshot : CameraCatalogSnapshot) : Except String Unit := do
  rejectIf (MEDIA_MAX_CAMERAS < snapshot.cameras.length) "camera catalog is invalid"
  eachFresh (fun camera => camera.cameraUid.bytes)
    (fun camera fresh => do
      validateCameraDescriptor camera
      rejectIf (!fresh) "duplicate camera uid")
    [] snapshot.cameras

/-- `validate_Camera_start_rtsp_response`. -/
def validateCameraStartRtspResponse (response : CameraStartRtspResponse) :
    Except String Unit := do
  let error ← okOr (MediaError.tryFrom response.error) "camera start RTSP response is invalid"
  require
    (error != .unspecified && response.message.size ≤ 256 &&
      response.rtspUrl.size ≤ MEDIA_MAX_SOURCE_URI_BYTES &&
      !anyControl response.rtspUrl.bytes &&
      ((error == .ok && !response.rtspUrl.bytes.isEmpty) ||
        (error != .ok && response.rtspUrl.bytes.isEmpty)))
    "camera start RTSP response is invalid"

/-- `validate_Media_asset_ref`. -/
def validateMediaAssetRef (asset : MediaAssetRef) : Except String Unit :=
  require
    (validToken asset.assetId.bytes 128 &&
      (MediaAssetKind.photo.number ≤ asset.kind && asset.kind ≤ MediaAssetKind.video.number) &&
      !asset.mimeType.bytes.isEmpty && asset.mimeType.size ≤ 96 && 0 < asset.sizeBytes &&
      asset.sha256.length == 32 && validToken asset.cameraUid.bytes 96 &&
      asset.displayName.size ≤ 160)
    "media asset reference is invalid"

/-- `validate_Media_asset_item`. -/
def validateMediaAssetItem (item : MediaAssetItem) : Except String Unit := do
  let asset ← okOr item.asset "media asset item is invalid"
  (validateMediaAssetRef asset).mapError fun _ => "media asset item is invalid"
  rejectIf
    (asset.kind == MediaAssetKind.thumbnail.number ||
      MEDIA_MAX_DIMENSION_PIXELS < item.width || MEDIA_MAX_DIMENSION_PIXELS < item.height)
    "media asset item is invalid"
  match item.thumbnail with
  | none => .ok ()
  | some thumbnail => do
    (validateMediaAssetRef thumbnail).mapError fun _ =>
      "media asset thumbnail relation is invalid"
    rejectIf
      (thumbnail.kind != MediaAssetKind.thumbnail.number ||
        thumbnail.cameraUid.bytes != asset.cameraUid.bytes ||
        thumbnail.assetId.bytes == asset.assetId.bytes)
      "media asset thumbnail relation is invalid"

/-- `validate_Media_asset_list_request`. -/
def validateMediaAssetListRequest (request : MediaAssetListRequest) : Except String Unit := do
  rejectIf
    ((!request.cameraUid.bytes.isEmpty && !validToken request.cameraUid.bytes 96) ||
      request.pageSize == 0 || MEDIA_MAX_ASSET_PAGE_SIZE < request.pageSize ||
      !validPageToken request.pageToken.bytes ||
      (request.createdAfterNs != 0 && request.createdBeforeNs != 0 &&
        request.createdBeforeNs < request.createdAfterNs))
    "media asset list request is invalid"
  eachFresh id
    (fun kind fresh =>
      rejectIf
        (!([some .photo, some .video].contains (MediaAssetKind.tryFrom kind)) || !fresh)
        "media asset list kind is invalid")
    [] request.kinds

/-- `validate_Media_asset_list_response`. -/
def validateMediaAssetListResponse (response : MediaAssetListResponse) :
    Except String Unit := do
  let error ← okOr (MediaError.tryFrom response.error) "media asset list response is invalid"
  rejectIf
    (error == .unspecified || 256 < response.message.size ||
      MEDIA_MAX_ASSET_PAGE_SIZE < response.items.length ||
      !validPageToken response.nextPageToken.bytes)
    "media asset list response is invalid"
  rejectIf
    (error != .ok && (!response.items.isEmpty || !response.nextPageToken.bytes.isEmpty))
    "failed media asset list response contains data"
  -- The `unwrap` of the asset comes behind the check that there is one.
  eachFresh (fun item => item.getAsset.assetId.bytes)
    (fun item fresh => do
      (validateMediaAssetItem item).mapError fun _ =>
        "media asset list response contains duplicate or invalid asset"
      rejectIf (!fresh) "media asset list response contains duplicate or invalid asset")
    [] response.items

/-- `validate_Media_asset_chunk`. -/
def validateMediaAssetChunk (chunk : MediaAssetChunkResponse) : Except String Unit := do
  let error ← okOr (MediaError.tryFrom chunk.error) "media error is invalid"
  rejectIf (error == .unspecified) "media error is invalid"
  require
    (chunk.message.size ≤ 256 && chunk.data.length ≤ MEDIA_MAX_CHUNK_BYTES &&
      (chunk.transferId.bytes.isEmpty || validToken chunk.transferId.bytes 128) &&
      (error != .ok ||
        (!chunk.transferId.bytes.isEmpty && (!chunk.data.isEmpty || chunk.eof))))
    "media asset chunk is invalid"

/-- `validate_Media_file_entry`; the path may lead anywhere. -/
def validateMediaFileEntry (entry : MediaFileEntry) : Except String Unit :=
  let directory := entry.entryType == MediaFileEntryType.directory.number
  require
    (validToken entry.fileId.bytes 128 &&
      [some .file, some .directory].contains (MediaFileEntryType.tryFrom entry.entryType) &&
      !entry.storageId.bytes.isEmpty && entry.storageId.size ≤ 64 &&
      !entry.relativePath.bytes.isEmpty && entry.relativePath.size ≤ 1024 &&
      !anyControl entry.relativePath.bytes && !entry.name.bytes.isEmpty &&
      entry.name.size ≤ 160 && !anyControl entry.name.bytes && entry.mimeType.size ≤ 96 &&
      (directory || (0 < entry.sizeBytes && entry.sha256.length == 32)) &&
      (!directory ||
        (entry.mimeType.bytes.isEmpty && entry.sizeBytes == 0 && entry.sha256.isEmpty)))
    "media file entry is invalid"

/-- `validate_Media_file_list_request`; so may the prefix. -/
def validateMediaFileListRequest (request : MediaFileListRequest) : Except String Unit :=
  require
    (!request.storageId.bytes.isEmpty && request.storageId.size ≤ 64 &&
      request.pathPrefix.size ≤ 1024 && !anyControl request.pathPrefix.bytes &&
      0 < request.pageSize && request.pageSize ≤ 256 &&
      validPageToken request.pageToken.bytes)
    "media file list request is invalid"

/-- `validate_Media_file_list_response`. -/
def validateMediaFileListResponse (response : MediaFileListResponse) : Except String Unit := do
  let error ← okOr (MediaError.tryFrom response.error) "media file list response is invalid"
  rejectIf
    (error == .unspecified || 256 < response.message.size || 256 < response.entries.length ||
      !validPageToken response.nextPageToken.bytes)
    "media file list response is invalid"
  rejectIf
    (error != .ok && (!response.entries.isEmpty || !response.nextPageToken.bytes.isEmpty))
    "failed media file list response contains data"
  eachFresh (fun entry => entry.fileId.bytes)
    (fun entry fresh => do
      validateMediaFileEntry entry
      rejectIf (!fresh) "media file list response contains duplicate entry")
    [] response.entries

/-- `validate_Media_file_chunk`, which is `validate_media_asset_chunk`. -/
def validateMediaFileChunk (chunk : MediaFileChunkResponse) : Except String Unit :=
  validateMediaAssetChunk
    { error := chunk.error
      message := chunk.message
      transferId := chunk.transferId
      offset := chunk.offset
      data := chunk.data
      eof := chunk.eof }

/-- `validate_Media_file_put_open`; the path may lead anywhere. -/
def validateMediaFilePutOpen (request : MediaFilePutOpen) : Except String Unit :=
  require
    (!request.storageId.bytes.isEmpty && request.storageId.size ≤ 64 &&
      !request.relativePath.bytes.isEmpty && request.relativePath.size ≤ 1024 &&
      !anyControl request.relativePath.bytes && 0 < request.sizeBytes &&
      request.sha256.length == 32 && request.mimeType.size ≤ 96)
    "media file put open is invalid"

/-- `validate_Media_file_put_chunk`. -/
def validateMediaFilePutChunk (request : MediaFilePutChunk) : Except String Unit :=
  require
    (validToken request.transferId.bytes 128 && !request.data.isEmpty &&
      request.data.length ≤ MEDIA_MAX_CHUNK_BYTES)
    "media file put chunk is invalid"

end Rust

/-! ### Python -/

namespace Python

/-- `_MEDIA_ERROR_MAX`: the generated module has `MEDIA_NO_SPACE`. -/
def mediaErrorMax : ℤ := MediaError.noSpace.number

/-- `char.isascii()`. -/
def isascii (char : Char) : Bool := char.toNat < 128

/-- What `_valid_media_token` asks of a character.  It asks `isalnum` of ASCII only. -/
def mediaTokenChar (char : Char) : Bool :=
  isascii char && (char.isAlphanum || ['-', '_', '.'].contains char)

/-- `_valid_media_token`. -/
def validMediaToken (value : ProtoString) (maxBytes : ℕ) : Bool :=
  !value.isEmpty && value.size ≤ maxBytes && value.all mediaTokenChar

/-- What `_valid_media_page_token` asks of a character. -/
def mediaPageTokenChar (char : Char) : Bool :=
  (isascii char && (char.isAlphanum || ['-', '_'].contains char)) || char == '='

/-- `_valid_media_page_token`. -/
def validMediaPageToken (value : ProtoString) : Bool :=
  value.size ≤ 512 && value.all mediaPageTokenChar

/-- `any(ord(char) < 0x20 or ord(char) == 0x7F for char in value)`. -/
def anyControl (value : ProtoString) : Bool :=
  value.any fun char => char.toNat < 0x20 || char.toNat == 0x7f

/-- `validate_Camera_descriptor`. -/
def validateCameraDescriptor (camera : CameraDescriptor) : Except String Unit :=
  rejectIf
    (!(validMediaToken camera.cameraUid 96 && camera.name.size ≤ 128 &&
      camera.imageTopic.size ≤ 256 && camera.cameraInfoTopic.size ≤ 256 &&
      camera.encoding.size ≤ 64 && camera.errorMessage.size ≤ 256 &&
      camera.rtspUrl.size ≤ 2048 && !anyControl camera.rtspUrl &&
      (!camera.liveViewActive || (camera.liveViewSupported && !camera.rtspUrl.isEmpty)) &&
      (camera.liveViewSupported ||
        (!camera.liveViewControlSupported && camera.rtspUrl.isEmpty &&
          !camera.liveViewAutostart)) &&
      isFinite camera.frameRateHz && atLeastZero camera.frameRateHz))
    "camera descriptor is invalid"

/-- `validate_Camera_catalog_snapshot`. -/
def validateCameraCatalogSnapshot (snapshot : CameraCatalogSnapshot) : Except String Unit := do
  rejectIf (32 < snapshot.cameras.length) "camera catalog is invalid"
  eachFresh (fun camera => camera.cameraUid)
    (fun camera fresh => do
      validateCameraDescriptor camera
      rejectIf (!fresh) "duplicate camera uid")
    [] snapshot.cameras

/-- `set(range(media.MEDIA_OK, _MEDIA_ERROR_MAX + 1))`. -/
def mediaErrors : List ℤ := Int.range MediaError.ok.number (mediaErrorMax + 1)

/-- `validate_Camera_start_rtsp_response`. -/
def validateCameraStartRtspResponse (response : CameraStartRtspResponse) : Except String Unit :=
  rejectIf
    (!(mediaErrors.contains response.error && response.message.size ≤ 256 &&
      response.rtspUrl.size ≤ 2048 && !anyControl response.rtspUrl &&
      ((response.error == MediaError.ok.number && !response.rtspUrl.isEmpty) ||
        (response.error != MediaError.ok.number && response.rtspUrl.isEmpty))))
    "camera start RTSP response is invalid"

/-- `validate_Media_asset_ref`. -/
def validateMediaAssetRef (asset : MediaAssetRef) : Except String Unit :=
  rejectIf
    (!(validMediaToken asset.assetId 128 &&
      [MediaAssetKind.photo.number, MediaAssetKind.thumbnail.number,
        MediaAssetKind.video.number].contains asset.kind &&
      (0 < asset.mimeType.size && asset.mimeType.size ≤ 96) && 0 < asset.sizeBytes &&
      asset.sha256.length == 32 && validMediaToken asset.cameraUid 96 &&
      asset.displayName.size ≤ 160))
    "media asset reference is invalid"

/-- `validate_Media_asset_item`. -/
def validateMediaAssetItem (item : MediaAssetItem) : Except String Unit := do
  rejectIf item.asset.isNone "media asset item is invalid"
  (validateMediaAssetRef item.getAsset).mapError fun _ => "media asset item is invalid"
  rejectIf
    (item.getAsset.kind == MediaAssetKind.thumbnail.number || 32768 < item.width ||
      32768 < item.height)
    "media asset item is invalid"
  if item.thumbnail.isSome then
    (validateMediaAssetRef item.getThumbnail).mapError fun _ =>
      "media asset thumbnail relation is invalid"
    rejectIf
      (item.getThumbnail.kind != MediaAssetKind.thumbnail.number ||
        item.getThumbnail.cameraUid != item.getAsset.cameraUid ||
        item.getThumbnail.assetId == item.getAsset.assetId)
      "media asset thumbnail relation is invalid"

/-- `validate_Media_asset_list_request`. -/
def validateMediaAssetListRequest (request : MediaAssetListRequest) : Except String Unit := do
  rejectIf
    (!((request.cameraUid.isEmpty || validMediaToken request.cameraUid 96) &&
      (1 ≤ request.pageSize && request.pageSize ≤ 100) &&
      validMediaPageToken request.pageToken &&
      !(request.createdAfterNs != 0 && request.createdBeforeNs != 0 &&
        request.createdBeforeNs < request.createdAfterNs)))
    "media asset list request is invalid"
  rejectIf
    (request.kinds.dedup.length != request.kinds.length ||
      request.kinds.any fun kind =>
        !([MediaAssetKind.photo.number, MediaAssetKind.video.number].contains kind))
    "media asset list kind is invalid"

/-- The errors that two of the validators list one by one, without `MEDIA_NO_SPACE`. -/
def listedErrors : List ℤ :=
  [MediaError.ok.number, MediaError.invalidRequest.number, MediaError.cameraUnavailable.number,
    MediaError.unsupported.number, MediaError.busy.number, MediaError.operationFailed.number,
    MediaError.timeout.number, MediaError.internalError.number,
    MediaError.permissionDenied.number, MediaError.notFound.number,
    MediaError.integrityError.number]

/-- `validate_Media_asset_list_response`. -/
def validateMediaAssetListResponse (response : MediaAssetListResponse) :
    Except String Unit := do
  rejectIf
    (!(listedErrors.contains response.error && response.message.size ≤ 256 &&
      response.items.length ≤ 100 && validMediaPageToken response.nextPageToken))
    "media asset list response is invalid"
  rejectIf
    (response.error != MediaError.ok.number &&
      (!response.items.isEmpty || !response.nextPageToken.isEmpty))
    "failed media asset list response contains data"
  eachFresh (fun item => item.getAsset.assetId)
    (fun item fresh => do
      (validateMediaAssetItem item).mapError fun _ =>
        "media asset list response contains duplicate or invalid asset"
      rejectIf (!fresh) "media asset list response contains duplicate or invalid asset")
    [] response.items

/-- `validate_Media_asset_chunk`. -/
def validateMediaAssetChunk (chunk : MediaAssetChunkResponse) : Except String Unit := do
  rejectIf (!listedErrors.contains chunk.error) "media error is invalid"
  rejectIf
    (!(chunk.message.size ≤ 256 && chunk.data.length ≤ 256 * 1024 &&
      (chunk.transferId.isEmpty || validMediaToken chunk.transferId 128) &&
      (chunk.error != MediaError.ok.number ||
        (!chunk.transferId.isEmpty && (!chunk.data.isEmpty || chunk.eof)))))
    "media asset chunk is invalid"

/-- `validate_Media_file_entry`; of the path only the length counts. -/
def validateMediaFileEntry (entry : MediaFileEntry) : Except String Unit := do
  rejectIf
    (!([MediaFileEntryType.file.number, MediaFileEntryType.directory.number].contains
        entry.entryType) ||
      entry.fileId.isEmpty || 128 < entry.fileId.size)
    "media file entry identity is invalid"
  rejectIf
    (entry.storageId.isEmpty || 64 < entry.storageId.size || entry.relativePath.isEmpty ||
      1024 < entry.relativePath.size)
    "media file entry path is invalid"
  rejectIf
    (entry.entryType == MediaFileEntryType.file.number &&
      (entry.name.isEmpty || entry.sizeBytes == 0 || entry.sha256.length != 32))
    "media file entry is invalid"

/-- `validate_Media_file_list_request`; of the prefix only the length counts. -/
def validateMediaFileListRequest (request : MediaFileListRequest) : Except String Unit :=
  rejectIf
    (request.storageId.isEmpty || 64 < request.storageId.size ||
      1024 < request.pathPrefix.size || !(1 ≤ request.pageSize && request.pageSize ≤ 256) ||
      !validMediaPageToken request.pageToken)
    "media file list request is invalid"

/-- `validate_Media_file_list_response`. -/
def validateMediaFileListResponse (response : MediaFileListResponse) : Except String Unit := do
  rejectIf
    (!mediaErrors.contains response.error || 256 < response.message.size ||
      256 < response.entries.length || !validMediaPageToken response.nextPageToken)
    "media file list response is invalid"
  rejectIf
    (response.error != MediaError.ok.number &&
      (!response.entries.isEmpty || !response.nextPageToken.isEmpty))
    "failed media file list response contains data"
  eachFresh (fun entry => entry.fileId)
    (fun entry fresh => do
      validateMediaFileEntry entry
      rejectIf (!fresh) "duplicate media file id")
    [] response.entries

/-- `validate_Media_file_chunk`; the id of the transfer is not looked at. -/
def validateMediaFileChunk (chunk : MediaFileChunkResponse) : Except String Unit :=
  rejectIf
    (!mediaErrors.contains chunk.error || 256 < chunk.message.size ||
      256 * 1024 < chunk.data.length)
    "media file chunk is invalid"

/-- `validate_Media_file_put_open`; of the path only the length counts. -/
def validateMediaFilePutOpen (request : MediaFilePutOpen) : Except String Unit :=
  rejectIf
    (request.storageId.isEmpty || 64 < request.storageId.size ||
      request.relativePath.isEmpty || 1024 < request.relativePath.size ||
      request.sizeBytes == 0 || request.sha256.length != 32 || 96 < request.mimeType.size)
    "media file put open is invalid"

/-- `validate_Media_file_put_chunk`. -/
def validateMediaFilePutChunk (request : MediaFilePutChunk) : Except String Unit :=
  rejectIf
    (!validMediaToken request.transferId 128 || request.data.isEmpty ||
      256 * 1024 < request.data.length)
    "media file put chunk is invalid"

end Python

end YunLink.Media
