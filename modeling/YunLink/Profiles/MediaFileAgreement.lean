import YunLink.Profiles.MediaAgreement

/-!
# The validators of file transfers compared

What the three languages ask of the messages of a file transfer comes in three layers.  The
fields that all of them look at are the whole check in Python.  Rust looks at the rest of the
fields, and C++ alone reads the path: a path with `..` in it passes in Rust and in Python.

## Main definitions

* `FileMessage`, `FileMessage.validate` — the messages with their validators.
* `FileMessage.Shared`, `FileMessage.Described`, `FileMessage.Confined` — what every language
  asks for, what C++ and Rust ask for beyond it, and what only C++ asks for.

## Main results

* `FileMessage.isOk_validate` — what each language accepts.
* `FileMessage.fileValidators_unanimous_iff` — **the validators agree exactly on the messages
  that Python rejects and on those that pass all three layers.**
-/

namespace YunLink.Media

open Profiles Checks

/-! ### Entries -/

namespace MediaFileEntry

/-- What every language asks of an entry. -/
def Shared (entry : MediaFileEntry) : Prop :=
  (entry.entryType = MediaFileEntryType.file.number ∨
      entry.entryType = MediaFileEntryType.directory.number) ∧
    entry.fileId ≠ [] ∧ entry.fileId.size ≤ 128 ∧
    entry.storageId ≠ [] ∧ entry.storageId.size ≤ 64 ∧
    entry.relativePath ≠ [] ∧ entry.relativePath.size ≤ 1024 ∧
    (entry.entryType = MediaFileEntryType.file.number →
      entry.name ≠ [] ∧ entry.sizeBytes ≠ 0 ∧ entry.sha256.length = 32)

/-- What C++ and Rust ask of an entry beyond it. -/
def Described (entry : MediaFileEntry) : Prop :=
  Cpp.validToken entry.fileId.bytes 128 = true ∧
    Cpp.containsControl entry.relativePath.bytes = false ∧
    entry.name ≠ [] ∧ entry.name.size ≤ 160 ∧ Cpp.containsControl entry.name.bytes = false ∧
    entry.mimeType.size ≤ 96 ∧
    (entry.entryType = MediaFileEntryType.directory.number →
      entry.mimeType = [] ∧ entry.sizeBytes = 0 ∧ entry.sha256 = [])

/-- What only C++ asks of an entry. -/
def Confined (entry : MediaFileEntry) : Prop :=
  Cpp.validRelativePath entry.relativePath.bytes false = true

end MediaFileEntry

theorem file_ne_directory :
    MediaFileEntryType.file.number ≠ MediaFileEntryType.directory.number := by decide

theorem Rust.contains_entryTypes (entryType : ℤ) :
    [some MediaFileEntryType.file, some .directory].contains
        (MediaFileEntryType.tryFrom entryType) =
      (entryType == MediaFileEntryType.file.number ||
        entryType == MediaFileEntryType.directory.number) := by
  rw [Bool.eq_iff_iff]
  simp only [List.contains_iff_mem, List.mem_cons, List.not_mem_nil, or_false,
    MediaFileEntryType.tryFrom_eq_some, Bool.or_eq_true, beq_iff_eq]

/-- A token is not empty and keeps its bound. -/
theorem nonempty_of_validToken {value : ProtoString} {maxBytes : ℕ}
    (h : Cpp.validToken value.bytes maxBytes = true) : value ≠ [] ∧ value.size ≤ maxBytes := by
  unfold Cpp.validToken at h
  split at h
  · exact absurd h Bool.false_ne_true
  next hbounds =>
  simpa [ProtoString.size] using hbounds

theorem Cpp.isOk_validateMediaFileEntry (entry : MediaFileEntry) :
    (Cpp.validateMediaFileEntry entry).isOk = true ↔
      entry.Shared ∧ entry.Described ∧ entry.Confined := by
  have htoken := @nonempty_of_validToken entry.fileId 128
  have hne := file_ne_directory
  simp [Cpp.validateMediaFileEntry, MediaFileEntry.Shared, MediaFileEntry.Described,
    MediaFileEntry.Confined]
  grind

theorem Rust.isOk_validateMediaFileEntry (entry : MediaFileEntry) :
    (Rust.validateMediaFileEntry entry).isOk = true ↔ entry.Shared ∧ entry.Described := by
  have htoken := @nonempty_of_validToken entry.fileId 128
  have hne := file_ne_directory
  simp only [Rust.validateMediaFileEntry, Rust.contains_entryTypes]
  simp [MediaFileEntry.Shared, MediaFileEntry.Described]
  grind

theorem Python.isOk_validateMediaFileEntry (entry : MediaFileEntry) :
    (Python.validateMediaFileEntry entry).isOk = true ↔ entry.Shared := by
  simp [Python.validateMediaFileEntry, MediaFileEntry.Shared]
  grind

/-! ### Listings -/

namespace MediaFileListRequest

/-- What every language asks of a request for a listing. -/
def Shared (request : MediaFileListRequest) : Prop :=
  request.storageId ≠ [] ∧ request.storageId.size ≤ 64 ∧ request.pathPrefix.size ≤ 1024 ∧
    1 ≤ request.pageSize ∧ request.pageSize ≤ 256 ∧
    Cpp.validPageToken request.pageToken.bytes = true

/-- What C++ and Rust ask of a request for a listing beyond that. -/
def Described (request : MediaFileListRequest) : Prop :=
  Cpp.containsControl request.pathPrefix.bytes = false

/-- What C++ alone asks of a request for a listing. -/
def Confined (request : MediaFileListRequest) : Prop :=
  Cpp.validRelativePath request.pathPrefix.bytes true = true

end MediaFileListRequest

theorem Cpp.isOk_validateMediaFileListRequest (request : MediaFileListRequest) :
    (Cpp.validateMediaFileListRequest request).isOk = true ↔
      request.Shared ∧ request.Described ∧ request.Confined := by
  simp [Cpp.validateMediaFileListRequest, MediaFileListRequest.Shared,
    MediaFileListRequest.Described, MediaFileListRequest.Confined]
  grind

theorem Rust.isOk_validateMediaFileListRequest (request : MediaFileListRequest) :
    (Rust.validateMediaFileListRequest request).isOk = true ↔
      request.Shared ∧ request.Described := by
  simp [Rust.validateMediaFileListRequest, MediaFileListRequest.Shared,
    MediaFileListRequest.Described]
  grind

theorem Python.isOk_validateMediaFileListRequest (request : MediaFileListRequest) :
    (Python.validateMediaFileListRequest request).isOk = true ↔ request.Shared := by
  simp [Python.validateMediaFileListRequest, MediaFileListRequest.Shared]
  grind

namespace MediaFileListResponse

/-- What every language asks of a listing before it looks at the entries. -/
def Headed (response : MediaFileListResponse) : Prop :=
  Cpp.validError response.error = true ∧ response.message.size ≤ 256 ∧
    response.entries.length ≤ 256 ∧ Cpp.validPageToken response.nextPageToken.bytes = true ∧
    (response.error ≠ MediaError.ok.number →
      response.entries = [] ∧ response.nextPageToken = [])

/-- What every language asks of a listing. -/
def Shared (response : MediaFileListResponse) : Prop :=
  response.Headed ∧ (∀ entry ∈ response.entries, entry.Shared) ∧
    (response.entries.map (·.fileId)).Nodup

/-- What C++ and Rust ask of a listing beyond that. -/
def Described (response : MediaFileListResponse) : Prop :=
  ∀ entry ∈ response.entries, entry.Described

/-- What C++ alone asks of a listing. -/
def Confined (response : MediaFileListResponse) : Prop :=
  ∀ entry ∈ response.entries, entry.Confined

end MediaFileListResponse

/-- Entries that pass all three layers. -/
theorem Cpp.isOk_validateMediaFileListResponse (response : MediaFileListResponse) :
    (Cpp.validateMediaFileListResponse response).isOk = true ↔
      response.Shared ∧ response.Described ∧ response.Confined := by
  have hentries : ∀ (entry : MediaFileEntry) (fresh : Bool),
      (rejectIf (!(Cpp.validateMediaFileEntry entry).isOk || !fresh)
        "media file list response contains duplicate or invalid entry" :
        Except String Unit).isOk =
      ((Cpp.validateMediaFileEntry entry).isOk && fresh) := by
    intro entry fresh
    simp
  simp only [Cpp.validateMediaFileListResponse, isOk_bind, Bool.and_eq_true]
  rw [isOk_eachFresh hentries, ProtoString.nodup_map_bytes]
  simp [MediaFileListResponse.Shared, MediaFileListResponse.Headed,
    MediaFileListResponse.Described, MediaFileListResponse.Confined,
    Cpp.isOk_validateMediaFileEntry]
  grind

theorem Rust.isOk_validateMediaFileListResponse (response : MediaFileListResponse) :
    (Rust.validateMediaFileListResponse response).isOk = true ↔
      response.Shared ∧ response.Described := by
  have hentries : ∀ (entry : MediaFileEntry) (fresh : Bool), (do
      Rust.validateMediaFileEntry entry
      rejectIf (!fresh) "media file list response contains duplicate entry" :
        Except String Unit).isOk =
      ((Rust.validateMediaFileEntry entry).isOk && fresh) := by
    intro entry fresh
    simp
  rcases tryFrom_cases response.error with
    ⟨hvalid, hnone | hzero⟩ | ⟨error, hsome, hne, hvalid, hok⟩
  · simp [Rust.validateMediaFileListResponse, MediaFileListResponse.Shared,
      MediaFileListResponse.Headed, hvalid, hnone]
  · simp [Rust.validateMediaFileListResponse, MediaFileListResponse.Shared,
      MediaFileListResponse.Headed, hvalid, hzero]
  · simp only [Rust.validateMediaFileListResponse, isOk_okOr_bind, isOk_bind, hsome,
      Option.any_some, Bool.and_eq_true]
    rw [isOk_eachFresh hentries, ProtoString.nodup_map_bytes]
    simp [MediaFileListResponse.Shared, MediaFileListResponse.Headed,
      MediaFileListResponse.Described, Rust.isOk_validateMediaFileEntry, hvalid, hne, hok]
    grind

theorem Python.isOk_validateMediaFileListResponse (response : MediaFileListResponse) :
    (Python.validateMediaFileListResponse response).isOk = true ↔ response.Shared := by
  have hentries : ∀ (entry : MediaFileEntry) (fresh : Bool), (do
      Python.validateMediaFileEntry entry
      rejectIf (!fresh) "duplicate media file id" : Except String Unit).isOk =
      ((Python.validateMediaFileEntry entry).isOk && fresh) := by
    intro entry fresh
    simp
  simp only [Python.validateMediaFileListResponse, isOk_bind, Bool.and_eq_true]
  rw [isOk_eachFresh hentries]
  simp [MediaFileListResponse.Shared, MediaFileListResponse.Headed,
    Python.isOk_validateMediaFileEntry]
  grind

/-! ### Chunks -/

namespace MediaFileChunkResponse

/-- What every language asks of a chunk. -/
def Shared (chunk : MediaFileChunkResponse) : Prop :=
  Cpp.validError chunk.error = true ∧ chunk.message.size ≤ 256 ∧
    chunk.data.length ≤ 256 * 1024

/-- What C++ and Rust ask of a chunk beyond that. -/
def Described (chunk : MediaFileChunkResponse) : Prop :=
  (chunk.transferId = [] ∨ Cpp.validToken chunk.transferId.bytes 128 = true) ∧
    (chunk.error = MediaError.ok.number →
      chunk.transferId ≠ [] ∧ (chunk.data ≠ [] ∨ chunk.eof = true))

end MediaFileChunkResponse

theorem Cpp.isOk_validateMediaFileChunk (chunk : MediaFileChunkResponse) :
    (Cpp.validateMediaFileChunk chunk).isOk = true ↔ chunk.Shared ∧ chunk.Described := by
  simp [Cpp.validateMediaFileChunk, MediaFileChunkResponse.Shared,
    MediaFileChunkResponse.Described]
  grind

/-- Rust takes the chunk of a file for one of an asset. -/
theorem Rust.isOk_validateMediaFileChunk (chunk : MediaFileChunkResponse) :
    (Rust.validateMediaFileChunk chunk).isOk = true ↔ chunk.Shared ∧ chunk.Described := by
  rw [Rust.validateMediaFileChunk, Rust.isOk_validateMediaAssetChunk]
  simp [Cpp.validateMediaAssetChunk, MediaFileChunkResponse.Shared,
    MediaFileChunkResponse.Described]
  grind

theorem Python.isOk_validateMediaFileChunk (chunk : MediaFileChunkResponse) :
    (Python.validateMediaFileChunk chunk).isOk = true ↔ chunk.Shared := by
  simp [Python.validateMediaFileChunk, MediaFileChunkResponse.Shared]
  grind

/-! ### Uploads -/

namespace MediaFilePutOpen

/-- What every language asks of an upload. -/
def Shared (request : MediaFilePutOpen) : Prop :=
  request.storageId ≠ [] ∧ request.storageId.size ≤ 64 ∧ request.relativePath ≠ [] ∧
    request.relativePath.size ≤ 1024 ∧ request.sizeBytes ≠ 0 ∧ request.sha256.length = 32 ∧
    request.mimeType.size ≤ 96

/-- What C++ and Rust ask of an upload beyond that. -/
def Described (request : MediaFilePutOpen) : Prop :=
  Cpp.containsControl request.relativePath.bytes = false

/-- What C++ alone asks of an upload. -/
def Confined (request : MediaFilePutOpen) : Prop :=
  Cpp.validRelativePath request.relativePath.bytes false = true

end MediaFilePutOpen

theorem Cpp.isOk_validateMediaFilePutOpen (request : MediaFilePutOpen) :
    (Cpp.validateMediaFilePutOpen request).isOk = true ↔
      request.Shared ∧ request.Described ∧ request.Confined := by
  simp [Cpp.validateMediaFilePutOpen, MediaFilePutOpen.Shared, MediaFilePutOpen.Described,
    MediaFilePutOpen.Confined]
  grind

theorem Rust.isOk_validateMediaFilePutOpen (request : MediaFilePutOpen) :
    (Rust.validateMediaFilePutOpen request).isOk = true ↔
      request.Shared ∧ request.Described := by
  simp [Rust.validateMediaFilePutOpen, MediaFilePutOpen.Shared, MediaFilePutOpen.Described]
  grind

theorem Python.isOk_validateMediaFilePutOpen (request : MediaFilePutOpen) :
    (Python.validateMediaFilePutOpen request).isOk = true ↔ request.Shared := by
  simp [Python.validateMediaFilePutOpen, MediaFilePutOpen.Shared]
  grind

/-- What every language asks of a chunk that is uploaded. -/
def MediaFilePutChunk.Shared (request : MediaFilePutChunk) : Prop :=
  Cpp.validToken request.transferId.bytes 128 = true ∧ request.data ≠ [] ∧
    request.data.length ≤ 256 * 1024

theorem Cpp.isOk_validateMediaFilePutChunk (request : MediaFilePutChunk) :
    (Cpp.validateMediaFilePutChunk request).isOk = true ↔ request.Shared := by
  simp [Cpp.validateMediaFilePutChunk, MediaFilePutChunk.Shared]
  grind

theorem Rust.isOk_validateMediaFilePutChunk (request : MediaFilePutChunk) :
    (Rust.validateMediaFilePutChunk request).isOk = true ↔ request.Shared := by
  simp [Rust.validateMediaFilePutChunk, MediaFilePutChunk.Shared]
  grind

theorem Python.isOk_validateMediaFilePutChunk (request : MediaFilePutChunk) :
    (Python.validateMediaFilePutChunk request).isOk = true ↔ request.Shared := by
  simp [Python.validateMediaFilePutChunk, MediaFilePutChunk.Shared]
  grind

/-! ### All messages of a file transfer -/

/-- The messages of a file transfer that have a validator. -/
inductive FileMessage
  | entry (file : MediaFileEntry)
  | listRequest (request : MediaFileListRequest)
  | listResponse (response : MediaFileListResponse)
  | chunkResponse (chunk : MediaFileChunkResponse)
  | putOpen (request : MediaFilePutOpen)
  | putChunk (request : MediaFilePutChunk)
  deriving DecidableEq, Repr

namespace FileMessage

/-- The validator that a language has for the message. -/
def validate : FileMessage → Language → Except String Unit
  | entry file, .cpp => Cpp.validateMediaFileEntry file
  | entry file, .rust => Rust.validateMediaFileEntry file
  | entry file, .python => Python.validateMediaFileEntry file
  | listRequest request, .cpp => Cpp.validateMediaFileListRequest request
  | listRequest request, .rust => Rust.validateMediaFileListRequest request
  | listRequest request, .python => Python.validateMediaFileListRequest request
  | listResponse response, .cpp => Cpp.validateMediaFileListResponse response
  | listResponse response, .rust => Rust.validateMediaFileListResponse response
  | listResponse response, .python => Python.validateMediaFileListResponse response
  | chunkResponse chunk, .cpp => Cpp.validateMediaFileChunk chunk
  | chunkResponse chunk, .rust => Rust.validateMediaFileChunk chunk
  | chunkResponse chunk, .python => Python.validateMediaFileChunk chunk
  | putOpen request, .cpp => Cpp.validateMediaFilePutOpen request
  | putOpen request, .rust => Rust.validateMediaFilePutOpen request
  | putOpen request, .python => Python.validateMediaFilePutOpen request
  | putChunk request, .cpp => Cpp.validateMediaFilePutChunk request
  | putChunk request, .rust => Rust.validateMediaFilePutChunk request
  | putChunk request, .python => Python.validateMediaFilePutChunk request

/-- What every language asks for. -/
def Shared : FileMessage → Prop
  | entry file => file.Shared
  | listRequest request => request.Shared
  | listResponse response => response.Shared
  | chunkResponse chunk => chunk.Shared
  | putOpen request => request.Shared
  | putChunk request => request.Shared

/-- What C++ and Rust ask for beyond it. -/
def Described : FileMessage → Prop
  | entry file => file.Described
  | listRequest request => request.Described
  | listResponse response => response.Described
  | chunkResponse chunk => chunk.Described
  | putOpen request => request.Described
  | putChunk _ => True

/-- What only C++ asks for: the paths below a storage. -/
def Confined : FileMessage → Prop
  | entry file => file.Confined
  | listRequest request => request.Confined
  | listResponse response => response.Confined
  | putOpen request => request.Confined
  | chunkResponse _ | putChunk _ => True

/-- What each language accepts. -/
theorem isOk_validate (message : FileMessage) (l : Language) :
    (message.validate l).isOk = true ↔
      message.Shared ∧ (l ≠ .python → message.Described) ∧ (l = .cpp → message.Confined) := by
  cases l with
  | cpp =>
    cases message <;>
      simp [validate, Shared, Described, Confined, Cpp.isOk_validateMediaFileEntry,
        Cpp.isOk_validateMediaFileListRequest, Cpp.isOk_validateMediaFileListResponse,
        Cpp.isOk_validateMediaFileChunk, Cpp.isOk_validateMediaFilePutOpen,
        Cpp.isOk_validateMediaFilePutChunk]
  | rust =>
    cases message <;>
      simp [validate, Shared, Described, Rust.isOk_validateMediaFileEntry,
        Rust.isOk_validateMediaFileListRequest, Rust.isOk_validateMediaFileListResponse,
        Rust.isOk_validateMediaFileChunk, Rust.isOk_validateMediaFilePutOpen,
        Rust.isOk_validateMediaFilePutChunk]
  | python =>
    cases message <;>
      simp [validate, Shared, Python.isOk_validateMediaFileEntry,
        Python.isOk_validateMediaFileListRequest, Python.isOk_validateMediaFileListResponse,
        Python.isOk_validateMediaFileChunk, Python.isOk_validateMediaFilePutOpen,
        Python.isOk_validateMediaFilePutChunk]

/-- **The validators agree exactly on the messages that no language accepts and on those that
pass all that any of them asks for.** -/
theorem fileValidators_unanimous_iff (message : FileMessage) :
    Unanimous message.validate ↔
      (message.Shared → message.Described ∧ message.Confined) := by
  rw [unanimous_iff .cpp .python message.isOk_validate]
  · constructor
    · intro h hshared
      obtain ⟨-, hdescribed, hconfined⟩ := h ⟨hshared, fun h => absurd rfl h, fun h => nomatch h⟩
      exact ⟨hdescribed (by decide), hconfined rfl⟩
    · intro h hpython
      obtain ⟨hdescribed, hconfined⟩ := h hpython.1
      exact ⟨hpython.1, fun _ => hdescribed, fun _ => hconfined⟩
  · intro l hcpp
    exact ⟨hcpp.1, fun _ => hcpp.2.1 (by decide), fun _ => hcpp.2.2 rfl⟩
  · intro l haccepted
    exact ⟨haccepted.1, fun h => absurd rfl h, fun h => nomatch h⟩

/-- An upload to a file beside the storage. -/
def escapingUpload : FileMessage :=
  putOpen
    { storageId := ['s'], relativePath := ['.', '.', '/', 'a'], sizeBytes := 1,
      sha256 := List.replicate 32 0 }

/-- Both bindings accept the path that leaves the storage, and C++ does not. -/
theorem escapingUpload_not_unanimous :
    ¬ Unanimous escapingUpload.validate ∧ (escapingUpload.validate .rust).isOk = true ∧
      (escapingUpload.validate .python).isOk = true ∧
      (escapingUpload.validate .cpp).isOk = false := by
  have hrust : (escapingUpload.validate .rust).isOk = true := by decide
  have hcpp : (escapingUpload.validate .cpp).isOk = false := by decide +kernel
  refine ⟨?_, hrust, by decide, hcpp⟩
  rintro (hall | hnone)
  · exact Bool.false_ne_true (hcpp.symm.trans (hall .cpp))
  · exact Bool.false_ne_true ((hnone .rust).symm.trans hrust)

end FileMessage

end YunLink.Media
