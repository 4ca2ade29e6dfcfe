import YunLink.Bindings.PythonCoreWriting
import YunLink.Bindings.Views
import YunLink.Runtime.Outgoing

/-!
# Messages across the C boundary

An application publishes through a binding, which passes views to the C ABI; and an event
of the runtime comes to it as a structure of views (`yunlink_v2_event_t`), which the binding
copies before the callback returns.  Between the two lie the runtime that publishes, the
wire, and the runtime that delivers.

The views of an event point into the strings of the event, and a vector without elements
may have a null pointer.  Both bindings look at the pointer and the length before they read.
Texts are decoded by replacing what is not UTF-8 (`Utf8.lossy`); of what comes off the wire
only the name of a type may have such bytes, and a binding never sends them.

## Main definitions

* `C.publish` — `yunlink_v2_runtime_publish`.
* `Rust.publish`, `Python.publish` — the calls of the bindings.
* `C.eventView` — the view that `yunlink_v2_runtime_subscribe` builds of an event.
* `Rust.eventCallback`, `Python.copyEvent` — the copies.
* `Calls` — the calls through either binding that say the same.
* `Rust.Message.ofEnvelope`, `Rust.Event.ofMessage`, `Python.Event.Shows` — what an
  application should see.

## Main results

* `Rust.eventCallback_envelope`, `Python.copyEvent_envelope` — **an event is copied as it is.**
* `publish_received` — **what one binding publishes is what the other one receives.**
-/

namespace YunLink

/-! ### The C side -/

/-- The byte of a kind. -/
def RuntimeEventKind.toUInt8 : RuntimeEventKind → UInt8
  | envelope => 1
  | link => 2
  | session => 3
  | error => 4

/-- The byte of a state. -/
def SessionState.toUInt8 : SessionState → UInt8
  | handshaking => 1
  | authenticated => 2
  | negotiated => 3
  | active => 4
  | invalid => 5
  | lost => 6

namespace C

open Access (Pointer)

/-- `yunlink_v2_bytes_view_t`. -/
structure BytesView where
  data : Pointer UInt8
  len : ℕ

/-- `yunlink_v2_type_ref_view_t`. -/
structure TypeRefView where
  profileId : StringView
  major : UInt16
  minor : UInt16
  typeName : StringView

/-- `yunlink_v2_event_t`. -/
structure EventView where
  kind : UInt8
  peerId : StringView
  linkUp : UInt8
  errorCode : UInt16
  message : StringView
  sessionState : UInt8
  sessionAuthenticated : UInt8
  sessionId : UInt64
  family : UInt8
  operation : UInt8
  qosClass : UInt8
  messageId : UInt64
  correlationId : UInt64
  createdAtMs : UInt64
  ttlMs : UInt32
  sourceEndpointUid : StringView
  sourceEntityUid : StringView
  target : TargetView
  typeRef : TypeRefView
  payload : BytesView

/-- `view` of a string, whose buffer ends with a zero. -/
def stringView (value : Text) : StringView := ⟨some (value ++ [0]), value.length⟩

/-- `data()` of a vector; whether that of an empty one is null is up to the library. -/
def dataOf {α : Type} (emptyIsNull : Bool) (values : List α) : Pointer α :=
  if values.isEmpty && emptyIsNull then none else some values

/-- The event that the callback is called with. -/
def eventView (emptyIsNull : Bool) (value : RuntimeEvent) : EventView :=
  let targetUids := value.envelope.target.uids.map stringView
  { kind := value.kind.toUInt8
    peerId := stringView value.peer.id
    linkUp := if value.linkUp then 1 else 0
    errorCode := value.error.toUInt16
    message := stringView value.message
    sessionState := value.session.state.toUInt8
    sessionAuthenticated := if value.session.authenticated then 1 else 0
    sessionId := if value.kind = .envelope then value.envelope.sessionId
      else value.session.sessionId
    family := value.envelope.family.toUInt8
    operation := value.envelope.operation
    qosClass := value.envelope.qosClass.toUInt8
    messageId := value.envelope.messageId
    correlationId := value.envelope.correlationId
    createdAtMs := value.envelope.createdAtMs
    ttlMs := value.envelope.ttlMs
    sourceEndpointUid := stringView value.envelope.source.endpointUid
    sourceEntityUid := stringView value.envelope.source.entityUid
    target := ⟨value.envelope.target.scope.toUInt8, dataOf emptyIsNull targetUids,
      targetUids.length⟩
    typeRef := ⟨stringView value.envelope.type.profileId, value.envelope.type.major,
      value.envelope.type.minor, stringView value.envelope.type.typeName⟩
    payload := ⟨dataOf emptyIsNull value.envelope.payload, value.envelope.payload.length⟩ }

/-- The copy of a payload. -/
def assign (payload : BytesView) : Access Bytes :=
  if 0 < payload.len then payload.data.readRange payload.len else .ok []

/-- `yunlink_v2_runtime_publish` of a runtime, with an address for the handle. -/
def publish (impl : Impl) (clock : Clock) (peerId : StringView) (sessionId : UInt64)
    (family operation : UInt8) (target : TargetView) (typeRef : TypeRefView) (payload : BytesView)
    (correlationId : UInt64) (ttlMs : UInt32) (qosClass : UInt8) (sourceEntityUid : StringView)
    (stamp : ℕ) : Access (Impl × ErrorCode × Option MessageHandle) :=
  if (payload.data.isNone && payload.len != 0) || family < 1 || 9 < family || qosClass < 1 ||
      4 < qosClass then .ok (impl, .invalidArgument, none)
  else do
    match ← copyTarget target (some {}) with
    | none => return (impl, .invalidArgument, none)
    | some nativeTarget =>
        let profileId ← copy typeRef.profileId
        let typeName ← copy typeRef.typeName
        let nativePayload ← assign payload
        let nativePeerId ← copy peerId
        let nativeEntityUid ← copy sourceEntityUid
        return YunLink.publish impl clock nativePeerId sessionId (MessageFamily.ofUInt8 family)
          operation nativeTarget ⟨profileId, typeRef.major, typeRef.minor, typeName⟩ nativePayload
          correlationId ttlMs (QosClass.ofUInt8 qosClass) nativeEntityUid stamp

theorem copy_stringView (value : Text) : copy (stringView value) = .ok value :=
  copy_of_prefix (List.prefix_append value [0])

end C

/-! ### The Rust side -/

namespace Rust

/-- `Message`. -/
structure Message where
  peerId : Text
  sessionId : UInt64
  operation : UInt8
  qos : UInt8
  messageId : UInt64
  correlationId : UInt64
  createdAtMs : UInt64
  ttlMs : UInt32
  sourceEndpointUid : Text
  sourceEntityUid : Text
  target : Target
  typeRef : TypeRef
  payload : Bytes
  deriving DecidableEq

/-- `Event`. -/
inductive Event
  | stream (message : Message)
  | action (message : Message)
  | rpc (message : Message)
  | authority (message : Message)
  | entityDirectory (message : Message)
  | configuration (message : Message)
  | log (message : Message)
  | bulk (message : Message)
  | session (peerId : Text) (sessionId : UInt64) (state : UInt8) (authenticated : Bool)
  | link (peerId : Text) (up : Bool)
  | error (peerId : Text) (code : UInt16) (message : Text)
  deriving DecidableEq

/-- `copy_string`: a `String` is its bytes. -/
def copyString (value : C.StringView) : Access Text :=
  if value.data.isNone || value.len == 0 then .ok []
  else do return Utf8.encode (Utf8.lossy (← value.data.readRange value.len))

/-- `copy_bytes`. -/
def copyBytes (value : C.BytesView) : Access Bytes :=
  if value.data.isNone || value.len == 0 then .ok []
  else value.data.readRange value.len

/-- The `target_uids` of `copy_message`. -/
def copyUids (target : C.TargetView) : Access (List Text) :=
  if target.uids.isNone || target.uidCount == 0 then .ok []
  else do (← target.uids.readRange target.uidCount).mapM copyString

/-- `copy_message`. -/
def copyMessage (event : C.EventView) : Access Message := do
  let targetUids ← copyUids event.target
  let target :=
    if event.target.scope = 1 then Target.endpoint targetUids
    else if event.target.scope = 2 then Target.entity targetUids
    else if event.target.scope = 3 then Target.group targetUids
    else Target.broadcast
  return {
    peerId := ← copyString event.peerId
    sessionId := event.sessionId
    operation := event.operation
    qos := event.qosClass
    messageId := event.messageId
    correlationId := event.correlationId
    createdAtMs := event.createdAtMs
    ttlMs := event.ttlMs
    sourceEndpointUid := ← copyString event.sourceEndpointUid
    sourceEntityUid := ← copyString event.sourceEntityUid
    target
    typeRef := {
      profileId := ← copyString event.typeRef.profileId
      major := event.typeRef.major
      minor := event.typeRef.minor
      typeName := ← copyString event.typeRef.typeName }
    payload := ← copyBytes event.payload }

/-- `event_callback`, with what it sends to the subscribers. -/
def eventCallback (event : C.EventView) : Access (Option Event) :=
  if event.kind = 1 then do
    let message ← copyMessage event
    return if event.family = 2 then some (.authority message)
      else if event.family = 3 then some (.entityDirectory message)
      else if event.family = 4 then some (.stream message)
      else if event.family = 5 then some (.action message)
      else if event.family = 6 then some (.rpc message)
      else if event.family = 7 then some (.configuration message)
      else if event.family = 8 then some (.log message)
      else if event.family = 9 then some (.bulk message)
      else none
  else if event.kind = 2 then do
    return some (.link (← copyString event.peerId) (event.linkUp != 0))
  else if event.kind = 3 then do
    return some (.session (← copyString event.peerId) event.sessionId event.sessionState
      (event.sessionAuthenticated != 0))
  else if event.kind = 4 then do
    return some (.error (← copyString event.peerId) event.errorCode (← copyString event.message))
  else .ok none

/-- `Runtime::publish`. -/
def publish (impl : Impl) (clock : Clock) (peerId : Text) (sessionId : UInt64)
    (family : MessageFamily) (operation : UInt8) (target : Target) (typeRef : TypeRef)
    (payload : Bytes) (correlationId : UInt64) (ttlMs : UInt32) (qos : QosClass)
    (sourceEntityUid : Text) (stamp : ℕ) : Access (Impl × ErrorCode × Option MessageHandle) :=
  let nativeType : C.TypeRefView :=
    ⟨stringView typeRef.profileId, typeRef.major, typeRef.minor, stringView typeRef.typeName⟩
  -- `as_ptr` of an empty slice is not null.
  let nativePayload : C.BytesView := ⟨some payload, payload.length⟩
  C.publish impl clock (stringView peerId) sessionId family.toUInt8 operation target.view nativeType
    nativePayload correlationId ttlMs qos.toUInt8 (stringView sourceEntityUid) stamp

end Rust

/-! ### The Python side -/

namespace Python

/-- `TypeRef` of `models.py`, with the members of a type on the wire. -/
structure Event.Type where
  profileId : Str
  major : UInt16
  typeName : Str
  minor : UInt16
  deriving DecidableEq

/-- `Event`, which has neither time of creation nor TTL. -/
structure Event where
  kind : UInt8
  peerId : Str
  linkUp : Bool
  errorCode : UInt16
  message : Str
  sessionState : UInt8
  authenticated : Bool
  sessionId : UInt64
  family : UInt8
  operation : UInt8
  qos : UInt8
  messageId : UInt64
  correlationId : UInt64
  sourceEndpointUid : Str
  sourceEntityUid : Str
  target : Target
  typeRef : Event.Type
  payload : Bytes
  deriving DecidableEq

/-- `bytes.decode("utf-8", errors="replace")`. -/
def Str.decodeLossy (bytes : Bytes) : Str := (Utf8.lossy bytes).map CodePoint.ofChar

/-- `text` of `copy_event`. -/
def copyText (item : C.StringView) : Access Str :=
  if item.data.isSome && item.len != 0 then do
    return Str.decodeLossy (← item.data.readRange item.len)
  else .ok []

/-- `TargetScope(scope or TargetScope.BROADCAST)`, unless there is no such member. -/
def targetScope (scope : UInt8) : Option TargetScope :=
  if scope = 0 then some .broadcast
  else if scope = 1 then some .endpoint
  else if scope = 2 then some .entity
  else if scope = 3 then some .group
  else if scope = 4 then some .broadcast
  else none

/-- The `payload` of `copy_event`. -/
def copyPayload (payload : C.BytesView) : Access Bytes :=
  if payload.len != 0 then payload.data.readRange payload.len else .ok []

/-- `copy_event`; `none` is an exception, which `ctypes` drops with the event. -/
def copyEvent (value : C.EventView) : Access (Option Event) := do
  let uids ← Access.collect copyText value.target.uids value.target.uidCount []
  let payload ← copyPayload value.payload
  let peerId ← copyText value.peerId
  let message ← copyText value.message
  let sourceEndpointUid ← copyText value.sourceEndpointUid
  let sourceEntityUid ← copyText value.sourceEntityUid
  let profileId ← copyText value.typeRef.profileId
  let typeName ← copyText value.typeRef.typeName
  return (targetScope value.target.scope).map fun scope =>
    { kind := value.kind
      peerId
      linkUp := value.linkUp != 0
      errorCode := value.errorCode
      message
      sessionState := value.sessionState
      authenticated := value.sessionAuthenticated != 0
      sessionId := value.sessionId
      family := value.family
      operation := value.operation
      qos := value.qosClass
      messageId := value.messageId
      correlationId := value.correlationId
      sourceEndpointUid
      sourceEntityUid
      target := ⟨scope, uids⟩
      typeRef := ⟨profileId, value.typeRef.major, typeName, value.typeRef.minor⟩
      payload }

/-- `Runtime.publish`, unless a string cannot be encoded; `ctypes` takes the lower bits of a
number. -/
def publish (impl : Impl) (clock : Clock) (peerId : Str) (sessionId : ℤ) (family : MessageFamily)
    (operation : ℤ) (target : Target) (typeRef : Event.Type) (payload : Bytes)
    (correlationId ttlMs : ℤ) (qos : QosClass) (sourceEntityUid : Str) (stamp : ℕ) :
    Option (Access (Impl × ErrorCode × Option MessageHandle)) := do
  let peerId ← peerId.encode
  let profileId ← typeRef.profileId.encode
  let typeName ← typeRef.typeName.encode
  let nativeTarget ← target.view
  let sourceEntityUid ← sourceEntityUid.encode
  let nativeType : C.TypeRefView :=
    ⟨Python.view profileId, typeRef.major, typeRef.minor, Python.view typeName⟩
  -- An array of length zero has an address all the same.
  let nativePayload : C.BytesView := ⟨some payload, payload.length⟩
  return C.publish impl clock (Python.view peerId) (UInt64.ofInt sessionId) family.toUInt8
    (UInt8.ofInt operation) nativeTarget nativeType nativePayload (UInt64.ofInt correlationId)
    (UInt32.ofInt ttlMs) qos.toUInt8 (Python.view sourceEntityUid) stamp

end Python

/-! ### Copies of events -/

section copies

variable {text : Text} {texts : List Text} {bytes : Bytes} {emptyIsNull : Bool}

theorem C.readRange_dataOf {α : Type} {values : List α} (h : values ≠ []) :
    (dataOf emptyIsNull values).readRange values.length = .ok values := by
  have hempty : values.isEmpty = false := List.isEmpty_eq_false_iff.mpr h
  rw [dataOf, hempty, Bool.false_and, if_neg Bool.false_ne_true]
  exact Access.Pointer.readRange_of_prefix List.prefix_rfl

theorem Rust.copyString_stringView (h : Utf8.valid text = true) :
    copyString (C.stringView text) = .ok text := by
  have hread : (C.stringView text).data.readRange text.length = .ok text :=
    Access.Pointer.readRange_of_prefix (List.prefix_append text [0])
  unfold copyString
  split
  · next hempty =>
    have hlen : text.length = 0 := by simpa [C.stringView] using hempty
    rw [List.length_eq_zero_iff.mp hlen]
  · show (do return Utf8.encode (Utf8.lossy (← (C.stringView text).data.readRange text.length))) = _
    rw [hread, Access.ok_bind, Access.pure_eq, Utf8.encode_lossy h]

theorem Rust.copyBytes_dataOf :
    copyBytes ⟨C.dataOf emptyIsNull bytes, bytes.length⟩ = .ok bytes := by
  unfold copyBytes
  by_cases h : bytes = []
  · rw [h, if_pos (by simp)]
  · rw [C.readRange_dataOf h]
    split
    · next hempty =>
      have hsome : (C.dataOf emptyIsNull bytes).isNone = false := by simp [C.dataOf, h]
      simp [hsome, h] at hempty
    · rfl

theorem Rust.mapM_copyString (h : Utf8.AllValid texts) :
    (texts.map C.stringView).mapM copyString = .ok texts := by
  induction texts with
  | nil => rfl
  | cons text rest ih =>
    obtain ⟨hhere, hrest⟩ := Utf8.allValid_cons.mp h
    rw [List.map_cons, List.mapM_cons, copyString_stringView hhere, Access.ok_bind, ih hrest,
      Access.ok_bind, Access.pure_eq]

theorem Python.copyText_stringView :
    copyText (C.stringView text) = .ok (Str.decodeLossy text) := by
  have hread : (C.stringView text).data.readRange text.length = .ok text :=
    Access.Pointer.readRange_of_prefix (List.prefix_append text [0])
  unfold copyText
  split
  · show (do return Str.decodeLossy (← (C.stringView text).data.readRange text.length)) = _
    rw [hread, Access.ok_bind, Access.pure_eq]
  · next hempty =>
    have hlen : text.length = 0 := by simpa [C.stringView] using hempty
    rw [List.length_eq_zero_iff.mp hlen]
    rfl

theorem Python.collect_copyText :
    Access.collect copyText (C.dataOf emptyIsNull (texts.map C.stringView))
      (texts.map C.stringView).length [] = .ok (texts.map Str.decodeLossy) := by
  cases texts with
  | nil => rfl
  | cons text rest =>
    have hdata : C.dataOf emptyIsNull ((text :: rest).map C.stringView) =
        some ((text :: rest).map C.stringView) := rfl
    have hcopies : List.Forall₂ (fun view string => copyText view = .ok string)
        ((text :: rest).map C.stringView) ((text :: rest).map Str.decodeLossy) := by
      rw [List.forall₂_map_left_iff, List.forall₂_map_right_iff, List.forall₂_same]
      exact fun _ _ => copyText_stringView
    rw [hdata, Access.collect_eq hcopies]
    rfl

theorem Python.copyPayload_dataOf :
    copyPayload ⟨C.dataOf emptyIsNull bytes, bytes.length⟩ = .ok bytes := by
  unfold copyPayload
  dsimp only
  by_cases hempty : bytes = []
  · rw [hempty]
    rfl
  · rw [C.readRange_dataOf hempty]
    split
    · rfl
    · next hlen => exact absurd (by simpa using hlen) hempty

theorem Python.targetScope_toUInt8 (scope : TargetScope) :
    targetScope scope.toUInt8 = some scope := by
  cases scope with
  | endpoint => rfl
  | entity => rfl
  | group => rfl
  | broadcast => rfl

/-- Nothing is lost of a text. -/
theorem Python.encode_decodeLossy (h : Utf8.valid text = true) :
    (Str.decodeLossy text).encode = some text :=
  Str.encode_eq_some.mpr ⟨Utf8.lossy text, rfl, Utf8.encode_lossy h⟩

theorem Python.mapM_encode (h : Utf8.AllValid texts) :
    (texts.map Str.decodeLossy).mapM Str.encode = some texts := by
  induction texts with
  | nil => rfl
  | cons text rest ih =>
    obtain ⟨htext, hrest⟩ := Utf8.allValid_cons.mp h
    rw [List.map_cons, List.mapM_cons, encode_decodeLossy htext, ih hrest]
    rfl

end copies

/-- What an application should see of an envelope. -/
def Rust.Message.ofEnvelope (peerId : Text) (envelope : Envelope) : Message where
  peerId
  sessionId := envelope.sessionId
  operation := envelope.operation
  qos := envelope.qosClass.toUInt8
  messageId := envelope.messageId
  correlationId := envelope.correlationId
  createdAtMs := envelope.createdAtMs
  ttlMs := envelope.ttlMs
  sourceEndpointUid := envelope.source.endpointUid
  sourceEntityUid := envelope.source.entityUid
  target :=
    match envelope.target.scope with
    | .endpoint => .endpoint envelope.target.uids
    | .entity => .entity envelope.target.uids
    | .group => .group envelope.target.uids
    | .broadcast => .broadcast
  typeRef := envelope.type
  payload := envelope.payload

/-- The event of a family. -/
def Rust.Event.ofMessage : MessageFamily → Message → Option Event
  | .session, _ => none
  | .authority, message => some (.authority message)
  | .entityDirectory, message => some (.entityDirectory message)
  | .stream, message => some (.stream message)
  | .action, message => some (.action message)
  | .rpc, message => some (.rpc message)
  | .configuration, message => some (.configuration message)
  | .log, message => some (.log message)
  | .bulk, message => some (.bulk message)

/-- The event shows the message, but for its time and its time to live. -/
structure Python.Event.Shows (event : Event) (family : MessageFamily) (message : Rust.Message) :
    Prop where
  kind : event.kind = RuntimeEventKind.envelope.toUInt8
  peerId : event.peerId.encode = some message.peerId
  sessionId : event.sessionId = message.sessionId
  family : event.family = family.toUInt8
  operation : event.operation = message.operation
  qos : event.qos = message.qos
  messageId : event.messageId = message.messageId
  correlationId : event.correlationId = message.correlationId
  sourceEndpointUid : event.sourceEndpointUid.encode = some message.sourceEndpointUid
  sourceEntityUid : event.sourceEntityUid.encode = some message.sourceEntityUid
  scope : event.target.scope = message.target.scope
  uids : event.target.uids.mapM Str.encode = some message.target.uids
  profileId : event.typeRef.profileId.encode = some message.typeRef.profileId
  major : event.typeRef.major = message.typeRef.major
  minor : event.typeRef.minor = message.typeRef.minor
  typeName : event.typeRef.typeName.encode = some message.typeRef.typeName
  payload : event.payload = message.payload

/-- The texts of an envelope are UTF-8, and a broadcast names no uids. -/
structure Envelope.Readable (envelope : Envelope) : Prop where
  endpointUid : Utf8.valid envelope.source.endpointUid = true
  entityUid : Utf8.valid envelope.source.entityUid = true
  uids : Utf8.AllValid envelope.target.uids
  profileId : Utf8.valid envelope.type.profileId = true
  typeName : Utf8.valid envelope.type.typeName = true
  broadcast : envelope.target.scope = .broadcast → envelope.target.uids = []

section envelope

variable {peer : Peer} {envelope : Envelope}

/-- **The Rust callback hands the message of an envelope on as it is.** -/
theorem Rust.eventCallback_envelope (h : envelope.Readable) (hpeer : Utf8.valid peer.id = true)
    (emptyIsNull : Bool) :
    eventCallback (C.eventView emptyIsNull { kind := .envelope, peer, envelope }) =
      .ok (Event.ofMessage envelope.family (Message.ofEnvelope peer.id envelope)) := by
  have huids : copyUids ⟨envelope.target.scope.toUInt8,
      C.dataOf emptyIsNull (envelope.target.uids.map C.stringView),
      (envelope.target.uids.map C.stringView).length⟩ = .ok envelope.target.uids := by
    unfold copyUids
    dsimp only
    by_cases hempty : envelope.target.uids = []
    · rw [hempty, if_pos (by simp)]
    · have hviews : envelope.target.uids.map C.stringView ≠ [] := by simpa using hempty
      rw [C.readRange_dataOf hviews, Access.ok_bind, mapM_copyString h.uids]
      split
      · next hnull => simp [C.dataOf, hempty] at hnull
      · rfl
  have hmessage : copyMessage (C.eventView emptyIsNull { kind := .envelope, peer, envelope }) =
      .ok (Message.ofEnvelope peer.id envelope) := by
    unfold copyMessage C.eventView
    dsimp only
    rw [huids, copyString_stringView hpeer, copyString_stringView h.endpointUid,
      copyString_stringView h.entityUid, copyString_stringView h.profileId,
      copyString_stringView h.typeName, copyBytes_dataOf]
    simp only [Access.ok_bind, Access.pure_eq, Message.ofEnvelope]
    cases envelope.target.scope with
    | endpoint => rfl
    | entity => rfl
    | group => rfl
    | broadcast => rfl
  have hkind : (C.eventView emptyIsNull { kind := .envelope, peer, envelope }).kind = 1 := rfl
  unfold eventCallback
  rw [if_pos hkind, hmessage]
  simp only [Access.ok_bind, Access.pure_eq, C.eventView]
  cases envelope.family with
  | session => rfl
  | authority => rfl
  | entityDirectory => rfl
  | stream => rfl
  | action => rfl
  | rpc => rfl
  | configuration => rfl
  | log => rfl
  | bulk => rfl

/-- **`copy_event` shows the message of an envelope.** -/
theorem Python.copyEvent_envelope (h : envelope.Readable) (hpeer : Utf8.valid peer.id = true)
    (emptyIsNull : Bool) :
    ∃ event, copyEvent (C.eventView emptyIsNull { kind := .envelope, peer, envelope }) =
        .ok (some event) ∧
      event.Shows envelope.family (Rust.Message.ofEnvelope peer.id envelope) := by
  unfold copyEvent C.eventView
  dsimp only
  rw [collect_copyText, copyPayload_dataOf, targetScope_toUInt8]
  simp only [copyText_stringView, Access.ok_bind, Access.pure_eq, Option.map_some]
  refine ⟨_, rfl, ?_⟩
  have htarget : (Rust.Message.ofEnvelope peer.id envelope).target.scope = envelope.target.scope ∧
      (Rust.Message.ofEnvelope peer.id envelope).target.uids = envelope.target.uids := by
    have hbroadcast := h.broadcast
    unfold Rust.Message.ofEnvelope
    dsimp only
    cases hscope : envelope.target.scope with
    | endpoint => exact ⟨rfl, rfl⟩
    | entity => exact ⟨rfl, rfl⟩
    | group => exact ⟨rfl, rfl⟩
    | broadcast => exact ⟨rfl, (hbroadcast hscope).symm⟩
  exact {
    kind := rfl
    peerId := encode_decodeLossy hpeer
    sessionId := rfl
    family := rfl
    operation := rfl
    qos := rfl
    messageId := rfl
    correlationId := rfl
    sourceEndpointUid := encode_decodeLossy h.endpointUid
    sourceEntityUid := encode_decodeLossy h.entityUid
    scope := htarget.1.symm
    uids := by
      rw [htarget.2]
      exact mapM_encode h.uids
    profileId := encode_decodeLossy h.profileId
    major := rfl
    minor := rfl
    typeName := encode_decodeLossy h.typeName
    payload := rfl }

end envelope

/-! ### Calls of `publish` -/

/-- The calls through the two bindings that say `posted`, with what they return. -/
inductive Calls (impl : Impl) (clock : Clock) (stamp : ℕ) (posted : Posted) :
    Access (Impl × ErrorCode × Option MessageHandle) → Prop
  /-- Strings are UTF-8 in Rust. -/
  | rust {target : Rust.Target} (htarget : posted.target = ⟨target.scope, target.uids⟩)
      (htypeName : Utf8.valid posted.typeRef.typeName = true) :
      Calls impl clock stamp posted
        (Rust.publish impl clock posted.peerId posted.sessionId posted.family posted.operation
          target posted.typeRef posted.payload posted.correlationId posted.ttlMs posted.qos
          posted.sourceEntityUid stamp)
  | python {peerId profileId typeName sourceEntityUid : Python.Str} {target : Python.Target}
      {sessionId operation correlationId ttlMs : ℤ}
      {result : Access (Impl × ErrorCode × Option MessageHandle)}
      (hpeerId : peerId.encode = some posted.peerId)
      (hprofileId : profileId.encode = some posted.typeRef.profileId)
      (htypeName : typeName.encode = some posted.typeRef.typeName)
      (hentityUid : sourceEntityUid.encode = some posted.sourceEntityUid)
      (hscope : target.scope = posted.target.scope)
      (huids : target.uids.mapM Python.Str.encode = some posted.target.uids)
      (hsessionId : UInt64.ofInt sessionId = posted.sessionId)
      (hoperation : UInt8.ofInt operation = posted.operation)
      (hcorrelationId : UInt64.ofInt correlationId = posted.correlationId)
      (httlMs : UInt32.ofInt ttlMs = posted.ttlMs)
      (hresult : Python.publish impl clock peerId sessionId posted.family operation target
        ⟨profileId, posted.typeRef.major, typeName, posted.typeRef.minor⟩ posted.payload
        correlationId ttlMs posted.qos sourceEntityUid stamp = some result) :
      Calls impl clock stamp posted result

section calls

variable {impl impl' : Impl} {clock : Clock} {stamp : ℕ} {posted : Posted}

/-- What the C ABI makes of a call whose strings it can copy. -/
theorem C.publish_of_copies {peerId profileId typeName sourceEntityUid : StringView}
    {target : TargetView} {nativeTarget : Option TargetSelector}
    (hpeerId : copy peerId = .ok posted.peerId)
    (hprofileId : copy profileId = .ok posted.typeRef.profileId)
    (htypeName : copy typeName = .ok posted.typeRef.typeName)
    (hentityUid : copy sourceEntityUid = .ok posted.sourceEntityUid)
    (htarget : copyTarget target (some {}) = .ok nativeTarget)
    (hsame : ∀ selector, nativeTarget = some selector → selector = posted.target) :
    publish impl clock peerId posted.sessionId posted.family.toUInt8 posted.operation target
        ⟨profileId, posted.typeRef.major, posted.typeRef.minor, typeName⟩
        ⟨some posted.payload, posted.payload.length⟩ posted.correlationId posted.ttlMs
        posted.qos.toUInt8 sourceEntityUid stamp =
      .ok (if nativeTarget.isSome then posted.publish impl clock stamp
        else (impl, .invalidArgument, none)) := by
  have hfamily : (posted.family.toUInt8 < 1 || 9 < posted.family.toUInt8) = false := by
    cases posted.family <;> decide
  have hqos : (posted.qos.toUInt8 < 1 || 4 < posted.qos.toUInt8) = false := by
    cases posted.qos <;> decide
  have hpayload : assign ⟨some posted.payload, posted.payload.length⟩ = .ok posted.payload := by
    unfold assign
    split
    · exact Access.Pointer.readRange_of_prefix List.prefix_rfl
    · next hempty =>
      rw [List.length_eq_zero_iff.mp (Nat.le_zero.mp (Nat.le_of_not_lt hempty))]
  have hvalid : ((some posted.payload : Access.Pointer UInt8).isNone &&
      posted.payload.length != 0 || posted.family.toUInt8 < 1 || 9 < posted.family.toUInt8 ||
        posted.qos.toUInt8 < 1 || 4 < posted.qos.toUInt8) = false := by
    simp only [Option.isNone_some, Bool.false_and, Bool.false_or, hfamily]
    exact hqos
  unfold publish
  dsimp only
  rw [hvalid, if_neg Bool.false_ne_true, htarget, Access.ok_bind]
  cases nativeTarget with
  | none => rfl
  | some selector =>
    obtain rfl := hsame selector rfl
    simp only [hprofileId, htypeName, hpayload, hpeerId, hentityUid, Access.ok_bind,
      Access.pure_eq, MessageFamily.ofUInt8_toUInt8, QosClass.ofUInt8_toUInt8]
    rfl

/-- **A call through a binding is one in C++**, unless its target names no uid. -/
theorem Calls.eq {result : Access (Impl × ErrorCode × Option MessageHandle)}
    (h : Calls impl clock stamp posted result) :
    Utf8.valid posted.typeRef.typeName = true ∧
      result = .ok (if posted.target.uids = [] then (impl, .invalidArgument, none)
        else posted.publish impl clock stamp) := by
  cases h with
  | @rust target htarget htypeName =>
    refine ⟨htypeName, ?_⟩
    have hcopied : C.copyTarget target.view (some {}) =
        .ok (if target.uids.isEmpty then none else some ⟨target.scope, target.uids⟩) :=
      C.copyTarget_nonNull (forall₂_copies Rust.copy_stringView target.uids)
    unfold Rust.publish
    dsimp only
    rw [C.publish_of_copies (Rust.copy_stringView _) (Rust.copy_stringView _)
      (Rust.copy_stringView _) (Rust.copy_stringView _) hcopied, htarget]
    · cases target.uids with
      | nil => rfl
      | cons uid uids => rfl
    · intro selector hselector
      split at hselector
      · cases hselector
      · rw [htarget, Option.some.inj hselector]
  | @python _ _ _ _ target _ _ _ _ result hpeerId hprofileId htypeName hentityUid hscope huids
      hsessionId hoperation hcorrelationId httlMs hresult =>
    obtain ⟨chars, -, hchars⟩ := Python.Str.encode_eq_some.mp htypeName
    refine ⟨hchars ▸ Utf8.valid_encode chars, ?_⟩
    have hcopied := @C.copyTarget_nonNull target.scope _ _
      (forall₂_copies Python.copy_view posted.target.uids)
    have hview : target.view = some ⟨target.scope.toUInt8,
        some (posted.target.uids.map Python.view), (posted.target.uids.map Python.view).length⟩ := by
      rw [Python.Target.view, huids]
      rfl
    unfold Python.publish at hresult
    rw [hpeerId, hprofileId, htypeName, hview, hentityUid, hsessionId, hoperation, hcorrelationId,
      httlMs] at hresult
    rw [← Option.some.inj hresult, C.publish_of_copies (Python.copy_view _) (Python.copy_view _)
      (Python.copy_view _) (Python.copy_view _) hcopied]
    · cases posted.target.uids with
      | nil => rfl
      | cons uid uids => rfl
    · intro selector hselector
      split at hselector
      · cases hselector
      · rw [← Option.some.inj hselector, hscope]

/-- A call that succeeds has put the frame of its envelope into a queue. -/
theorem Posted.of_publish {handle : Option MessageHandle}
    (h : posted.publish impl clock stamp = (impl', .ok, handle)) :
    handle = some ⟨posted.sessionId, impl.nextMessageId, posted.correlationId⟩ ∧
      ∃ route connection, runtimeConnectionForSend impl posted.peerId posted.sessionId posted.qos =
          some (route, connection) ∧
        WireCodec.encode (posted.envelope impl clock) true clock.nowMs ≠ [] ∧
        let enqueued := runtimeEnqueue connection
          (WireCodec.encode (posted.envelope impl clock) true clock.nowMs) posted.qos
          (posted.key impl clock) stamp
        impl'.connections = impl.connections.insert route enqueued.1 ∧ enqueued.2 = true := by
  have hsend : (impl', ErrorCode.ok) = send impl.takeMessageId.1 clock posted.peerId
      (posted.envelope impl clock) stamp ∧
      handle = some ⟨posted.sessionId, impl.nextMessageId, posted.correlationId⟩ := by
    unfold Posted.publish YunLink.publish at h
    dsimp only at h
    obtain ⟨himpl, hrest⟩ := Prod.mk.inj h
    obtain ⟨hcode, hhandle⟩ := Prod.mk.inj hrest
    refine ⟨Prod.ext himpl.symm hcode.symm, ?_⟩
    rw [if_pos hcode] at hhandle
    exact hhandle.symm
  obtain ⟨hsent, hhandle⟩ := hsend
  refine ⟨hhandle, ?_⟩
  unfold send at hsent
  split at hsent
  · cases hsent
  split at hsent
  · cases hsent
  next route connection hroute =>
  dsimp only at hsent
  split at hsent
  · cases hsent
  next hframe =>
  obtain ⟨himpl, haccepted⟩ := Prod.mk.inj hsent
  refine ⟨route, connection, hroute, hframe, ?_, ?_⟩
  · rw [himpl]
    rfl
  · by_contra hrefused
    exact absurd (haccepted.trans (if_neg hrefused)) (by decide)

/-- The texts of an envelope that can be written are readable, if its type is. -/
theorem readable_of_encodable {envelope : Envelope} (h : WireCodec.encodable envelope = true)
    (htypeName : Utf8.valid envelope.type.typeName = true) : envelope.Readable := by
  have huid : ∀ {uid : Text}, validUid uid = true → Utf8.valid uid = true := by
    intro uid hvalid
    refine Utf8.valid_of_ascii fun byte hbyte => ?_
    unfold validUid at hvalid
    split at hvalid
    · cases hvalid
    · have hchar := List.all_eq_true.mp hvalid byte hbyte
      revert hchar
      have hall : ∀ n < 256, isUidChar (UInt8.ofNat n) = true → n < 128 := by
        decide +kernel
      have hbyte' := hall byte.toNat byte.toNat_lt
      rwa [UInt8.ofNat_toNat] at hbyte'
  obtain ⟨-, -, -, hendpoint, hentity, htype, -, -, hbroadcast, huids, -, -⟩ :=
    (WireCodec.encodable_iff envelope).mp h
  have hprofile : validUid envelope.type.profileId = true := by
    simp only [validTypeRef, validProfileId, Bool.and_eq_true] at htype
    exact htype.1.1.1.1
  refine ⟨huid hendpoint, ?_, fun uid hmem => huid (huids uid hmem), huid hprofile, htypeName,
    hbroadcast.mp⟩
  rcases hentity with hempty | hvalid
  · rw [hempty]
    exact Utf8.valid_nil
  · exact huid hvalid

/-- The header that is filled in on the way, and the checksum, are none of the message. -/
theorem Posted.copied (hid : impl.nextMessageId ≠ 0)
    (hread : (WireCodec.filled (posted.envelope impl clock) true clock.nowMs).Readable) {peer : Peer} (hpeer : Utf8.valid peer.id = true) (emptyIsNull : Bool) (sum : UInt32) :
    let envelope := WireCodec.filled (posted.envelope impl clock) true clock.nowMs
    let event := C.eventView emptyIsNull
      { kind := .envelope, peer, envelope := { envelope with checksum := sum } }
    let message := Rust.Message.ofEnvelope peer.id (posted.envelope impl clock)
    Rust.eventCallback event = .ok (Rust.Event.ofMessage posted.family message) ∧
      ∃ received, Python.copyEvent event = .ok (some received) ∧
        received.Shows posted.family message := by
  have hmessage : Rust.Message.ofEnvelope peer.id
      (WireCodec.filled (posted.envelope impl clock) true clock.nowMs) =
        Rust.Message.ofEnvelope peer.id (posted.envelope impl clock) := by
    have hmessageId : (posted.envelope impl clock).messageId ≠ 0 := hid
    have hcreated : (posted.envelope impl clock).createdAtMs = clock.nowMs := rfl
    unfold WireCodec.filled WireCodec.fillHeader
    rw [if_pos rfl]
    dsimp only
    rw [if_neg hmessageId, hcreated, ite_self]
    rfl
  have hfamily : (WireCodec.filled (posted.envelope impl clock) true clock.nowMs).family =
      posted.family := rfl
  revert hread hmessage hfamily
  generalize WireCodec.filled (posted.envelope impl clock) true clock.nowMs = value
  intro hread hmessage hfamily
  have hread' : Envelope.Readable { value with checksum := sum } :=
    ⟨hread.endpointUid, hread.entityUid, hread.uids, hread.profileId, hread.typeName,
      hread.broadcast⟩
  have hrust := Rust.eventCallback_envelope hread' hpeer emptyIsNull
  have hpython := Python.copyEvent_envelope hread' hpeer emptyIsNull
  have hsame : Rust.Message.ofEnvelope peer.id { value with checksum := sum } =
      Rust.Message.ofEnvelope peer.id value := rfl
  rw [hsame, hmessage] at hrust hpython
  dsimp only
  rw [← hfamily]
  exact ⟨hrust, hpython⟩

/-- **What one binding publishes is what the other one receives.**  When a call of `publish`
through either binding succeeds, a frame is queued that the codec reads, whatever follows it;
and when another runtime delivers what was read, the callback of either binding hands the
application the message of the call, under the id that the call returned. -/
theorem publish_received {handle : MessageHandle}
    (h : Calls impl clock stamp posted (.ok (impl', .ok, some handle)))
    (hid : impl.nextMessageId ≠ 0) :
    handle = ⟨posted.sessionId, impl.nextMessageId, posted.correlationId⟩ ∧
      ∃ route connection frame, runtimeConnectionForSend impl posted.peerId posted.sessionId
          posted.qos = some (route, connection) ∧
        (let enqueued :=
            runtimeEnqueue connection frame posted.qos (posted.key impl clock) stamp
        impl'.connections = impl.connections.insert route enqueued.1 ∧ enqueued.2 = true) ∧
        ∀ suffix, (WireCodec.decode (frame ++ suffix)).code = .ok ∧
          (WireCodec.decode (frame ++ suffix)).consumed = frame.length ∧
          ∀ (peer : Peer) (emptyIsNull : Bool), Utf8.valid peer.id = true →
            let event := C.eventView emptyIsNull
              { kind := .envelope, peer, envelope := (WireCodec.decode (frame ++ suffix)).envelope }
            let message := Rust.Message.ofEnvelope peer.id (posted.envelope impl clock)
            Rust.eventCallback event = .ok (Rust.Event.ofMessage posted.family message) ∧
              ∃ received, Python.copyEvent event = .ok (some received) ∧
                received.Shows posted.family message := by
  obtain ⟨htypeName, hcall⟩ := h.eq
  have hpublished : posted.publish impl clock stamp = (impl', .ok, some handle) := by
    split at hcall
    · cases hcall
    · exact (Except.ok.inj hcall).symm
  obtain ⟨hhandle, route, connection, hroute, hframe, henqueued⟩ := Posted.of_publish hpublished
  refine ⟨Option.some.inj hhandle, route, connection, _, hroute, henqueued, fun suffix => ?_⟩
  obtain ⟨hvalue, heq⟩ := WireCodec.encode_eq_frame hframe
  have hread := readable_of_encodable hvalue.encodable htypeName
  rw [heq]
  have hdecoded := WireCodec.decode_frame hvalue suffix
  refine ⟨by rw [hdecoded], by rw [hdecoded], fun peer emptyIsNull hpeer => ?_⟩
  rw [hdecoded]
  exact Posted.copied hid hread hpeer emptyIsNull
    (WireCodec.checksum (WireCodec.frameBody
      (WireCodec.filled (posted.envelope impl clock) true clock.nowMs)))

end calls

/-- A runtime with one connection. -/
def connectedImpl : Impl where
  config := { endpointUid := ascii "ground" }
  running := true
  connections := SortedMap.empty.insert (ascii "tcp://10.0.0.2:5000") { running := true }

/-- A message of the core profile to a group. -/
def samplePosted : Posted where
  peerId := ascii "tcp://10.0.0.2:5000"
  sessionId := 1
  family := .stream
  operation := 4
  target := ⟨.group, [ascii "swarm.alpha"]⟩
  typeRef := ⟨ascii "yunlink.core", 1, 0, ascii "StreamSample"⟩
  payload := [8, 1]
  correlationId := 0
  ttlMs := 250
  qos := .reliableLatest
  sourceEntityUid := ascii "entity.alpha"

/-- The Rust binding publishes, and the Python one receives. -/
theorem publish_received_samplePosted :
    ∃ frame received, (WireCodec.decode frame).code = .ok ∧
      Python.copyEvent (C.eventView false
        { kind := .envelope, envelope := (WireCodec.decode frame).envelope }) =
          .ok (some received) ∧
      received.Shows .stream
        (Rust.Message.ofEnvelope [] (samplePosted.envelope connectedImpl {})) := by
  have hpublished : (samplePosted.publish connectedImpl {} 0).2 = (.ok, some ⟨1, 1, 0⟩) := by
    decide +kernel
  have hcalls : ∃ impl', Calls connectedImpl {} 0 samplePosted
      (.ok (impl', .ok, some ⟨1, 1, 0⟩)) := by
    have hrust := @Calls.rust connectedImpl {} 0 samplePosted
      (.group [ascii "swarm.alpha"]) rfl (by decide +kernel)
    have heq := hrust.eq.2
    rw [if_neg (by decide)] at heq
    rw [heq] at hrust
    revert hpublished hrust
    generalize samplePosted.publish connectedImpl {} 0 = outcome
    intro hpublished hrust
    exact ⟨outcome.1, hpublished ▸ hrust⟩
  obtain ⟨impl', hcalls⟩ := hcalls
  obtain ⟨-, -, -, frame, -, -, hread⟩ := publish_received hcalls (by decide)
  obtain ⟨hcode, -, hcopied⟩ := hread []
  obtain ⟨-, received, hreceived, hshows⟩ := hcopied {} false Utf8.valid_nil
  rw [List.append_nil] at hcode hreceived
  exact ⟨frame, received, hcode, hreceived, hshows⟩

end YunLink
