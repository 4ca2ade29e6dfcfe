import YunLink.Bindings.RustConfiguration

/-!
# The Rust configuration codec implements the C++ one

The two encoders stop in different ways, one at the first error and one at the end, but a
payload that Rust encodes is encoded by C++ to the same bytes.  The two decoders read in
the same order and make the same checks, some of them at other places; Rust also checks
that strings are UTF-8.

## Main definitions

* `Rust.toCpp` — the C++ value of a Rust one: a bound that is absent is a cleared flag and
  the number zero, a candidate that is absent a cleared flag.
* `Rust.ofCpp` — the Rust value of a C++ one.  It drops the number of a bound that is
  absent and the reserved byte of a list request.

## Main results

* `Rust.write_toCpp` — a Rust writer that ends valid has written what C++ writes.
* `Rust.mirrors` — the Rust reader accepts of what C++ accepts the messages whose strings
  are UTF-8.
* `rust_implements_cpp` — **the codecs agree on every value that Rust encodes and on every
  payload whose strings are UTF-8.**
-/

namespace YunLink

namespace Rust

open Codec Reader

/-! ### The values that correspond -/

/-- A value, with the member that its case names. -/
def ConfigValue.toCpp : ConfigValue → YunLink.ConfigValue
  | bool boolValue => { type := .bool, boolValue }
  | int64 int64Value => { type := .int64, int64Value }
  | double doubleValue => { type := .double, doubleValue }
  | string stringValue => { type := .string, stringValue }
  | stringList stringListValue => { type := .stringList, stringListValue }
  | doubleList doubleListValue => { type := .doubleList, doubleListValue }
  | unset => { type := .unset }

/-- A value, of the member that its type names. -/
def ConfigValue.ofCpp (value : YunLink.ConfigValue) : ConfigValue :=
  match value.type with
  | .bool => bool value.boolValue
  | .int64 => int64 value.int64Value
  | .double => double value.doubleValue
  | .string => string value.stringValue
  | .stringList => stringList value.stringListValue
  | .doubleList => doubleList value.doubleListValue
  | .unset => unset

/-- A choice, from Rust to C++. -/
def ConfigChoice.toCpp (choice : ConfigChoice) : YunLink.ConfigChoice :=
  { value := choice.value.toCpp, label := choice.label }

/-- A choice, from C++ to Rust. -/
def ConfigChoice.ofCpp (choice : YunLink.ConfigChoice) : ConfigChoice :=
  { value := .ofCpp choice.value, label := choice.label }

/-- A schema, from Rust to C++. -/
def ConfigFieldSchema.toCpp (schema : ConfigFieldSchema) : YunLink.ConfigFieldSchema where
  path := schema.path
  title := schema.title
  description := schema.description
  type := schema.valueType
  required := schema.required
  readOnly := schema.readOnly
  sensitive := schema.sensitive
  hasMinimum := schema.minimum.isSome
  minimum := schema.minimum.getD 0
  hasMaximum := schema.maximum.isSome
  maximum := schema.maximum.getD 0
  validationPattern := schema.validationPattern
  choices := schema.choices.map ConfigChoice.toCpp
  groupPath := schema.groupPath
  updatePolicy := schema.updatePolicy
  unit := schema.unit
  defaultValue := schema.defaultValue.toCpp
  hasDefaultValue := schema.hasDefaultValue
  advanced := schema.advanced

/-- A schema, from C++ to Rust; a bound that is not set is dropped. -/
def ConfigFieldSchema.ofCpp (schema : YunLink.ConfigFieldSchema) : ConfigFieldSchema where
  path := schema.path
  groupPath := schema.groupPath
  title := schema.title
  description := schema.description
  valueType := schema.type
  required := schema.required
  readOnly := schema.readOnly
  sensitive := schema.sensitive
  minimum := if schema.hasMinimum then some schema.minimum else none
  maximum := if schema.hasMaximum then some schema.maximum else none
  validationPattern := schema.validationPattern
  choices := schema.choices.map ConfigChoice.ofCpp
  updatePolicy := schema.updatePolicy
  unit := schema.unit
  defaultValue := .ofCpp schema.defaultValue
  hasDefaultValue := schema.hasDefaultValue
  advanced := schema.advanced

/-- A field, from Rust to C++. -/
def ConfigFieldValue.toCpp (field : ConfigFieldValue) : YunLink.ConfigFieldValue :=
  { path := field.path, value := field.value.toCpp }

/-- A field, from C++ to Rust. -/
def ConfigFieldValue.ofCpp (field : YunLink.ConfigFieldValue) : ConfigFieldValue :=
  { path := field.path, value := .ofCpp field.value }

/-- A snapshot, from Rust to C++. -/
def ConfigSnapshot.toCpp (snapshot : ConfigSnapshot) : YunLink.ConfigSnapshot where
  resourceId := snapshot.resourceId
  revision := snapshot.revision
  appliedRevision := snapshot.appliedRevision
  variantId := snapshot.variantId
  activeVariantId := snapshot.activeVariantId
  values := snapshot.values.map ConfigFieldValue.toCpp
  userOverriddenPaths := snapshot.userOverriddenPaths

/-- A snapshot, from C++ to Rust. -/
def ConfigSnapshot.ofCpp (snapshot : YunLink.ConfigSnapshot) : ConfigSnapshot where
  resourceId := snapshot.resourceId
  revision := snapshot.revision
  appliedRevision := snapshot.appliedRevision
  variantId := snapshot.variantId
  activeVariantId := snapshot.activeVariantId
  values := snapshot.values.map ConfigFieldValue.ofCpp
  userOverriddenPaths := snapshot.userOverriddenPaths

/-- The C++ value of a Rust one. -/
def toCpp : (kind : ConfigMessage) → Value kind → kind.Value
  | .listRequest => fun _ => ({ reserved := 0 } : YunLink.ConfigResourceListRequest)
  | .describeResponse => fun payload : ConfigResourceDescribeResponse =>
      ({ status := payload.status
         message := payload.message
         resource := payload.resource
         fields := payload.fields.map ConfigFieldSchema.toCpp } :
        YunLink.ConfigResourceDescribeResponse)
  | .getResponse => fun payload : ConfigResourceGetResponse =>
      ({ status := payload.status
         message := payload.message
         snapshot := payload.snapshot.toCpp } : YunLink.ConfigResourceGetResponse)
  | .patchRequest => fun payload : ConfigResourcePatchRequest =>
      ({ resourceId := payload.resourceId
         variantId := payload.variantId
         expectedRevision := payload.expectedRevision
         updates := payload.updates.map ConfigFieldValue.toCpp
         validateOnly := payload.validateOnly } : YunLink.ConfigResourcePatchRequest)
  | .patchResponse => fun payload : ConfigResourcePatchResponse =>
      ({ status := payload.status
         message := payload.message
         snapshot := payload.snapshot.toCpp
         errors := payload.errors
         effects := payload.effects
         hasCandidateSnapshot := payload.candidateSnapshot.isSome
         candidateSnapshot := (payload.candidateSnapshot.map ConfigSnapshot.toCpp).getD {} } :
        YunLink.ConfigResourcePatchResponse)
  | .listResponse | .describeRequest | .getRequest | .applyRequest | .applyResponse
  | .variantListRequest | .variantListResponse | .variantCreateRequest | .variantCreateResponse
  | .variantSaveCurrentRequest | .variantSaveCurrentResponse | .variantActivateRequest
  | .variantActivateResponse | .variantDeleteRequest | .variantDeleteResponse => id

/-- The Rust value of a C++ one. -/
def ofCpp : (kind : ConfigMessage) → kind.Value → Value kind
  | .listRequest => fun _ => ({} : ConfigResourceListRequest)
  | .describeResponse => fun payload : YunLink.ConfigResourceDescribeResponse =>
      ({ status := payload.status
         message := payload.message
         resource := payload.resource
         fields := payload.fields.map ConfigFieldSchema.ofCpp } : ConfigResourceDescribeResponse)
  | .getResponse => fun payload : YunLink.ConfigResourceGetResponse =>
      ({ status := payload.status
         message := payload.message
         snapshot := .ofCpp payload.snapshot } : ConfigResourceGetResponse)
  | .patchRequest => fun payload : YunLink.ConfigResourcePatchRequest =>
      ({ resourceId := payload.resourceId
         variantId := payload.variantId
         expectedRevision := payload.expectedRevision
         updates := payload.updates.map ConfigFieldValue.ofCpp
         validateOnly := payload.validateOnly } : ConfigResourcePatchRequest)
  | .patchResponse => fun payload : YunLink.ConfigResourcePatchResponse =>
      ({ status := payload.status
         message := payload.message
         snapshot := .ofCpp payload.snapshot
         candidateSnapshot :=
           if payload.hasCandidateSnapshot then some (.ofCpp payload.candidateSnapshot) else none
         errors := payload.errors
         effects := payload.effects } : ConfigResourcePatchResponse)
  | .listResponse | .describeRequest | .getRequest | .applyRequest | .applyResponse
  | .variantListRequest | .variantListResponse | .variantCreateRequest | .variantCreateResponse
  | .variantSaveCurrentRequest | .variantSaveCurrentResponse | .variantActivateRequest
  | .variantActivateResponse | .variantDeleteRequest | .variantDeleteResponse => id

section ofCpp_toCpp

theorem ConfigValue.ofCpp_toCpp (value : ConfigValue) : ofCpp value.toCpp = value := by
  cases value <;> rfl

theorem ConfigFieldValue.ofCpp_toCpp (field : ConfigFieldValue) : ofCpp field.toCpp = field := by
  simp [ofCpp, toCpp, ConfigValue.ofCpp_toCpp]

theorem ConfigChoice.ofCpp_toCpp (choice : ConfigChoice) : ofCpp choice.toCpp = choice := by
  simp [ofCpp, toCpp, ConfigValue.ofCpp_toCpp]

theorem ConfigFieldSchema.ofCpp_toCpp (schema : ConfigFieldSchema) :
    ofCpp schema.toCpp = schema := by
  obtain ⟨_, _, _, _, _, _, _, _, minimum, maximum, _⟩ := schema
  cases minimum <;> cases maximum <;>
    simp [ofCpp, toCpp, ConfigValue.ofCpp_toCpp, Function.comp_def, ConfigChoice.ofCpp_toCpp]

theorem ConfigSnapshot.ofCpp_toCpp (snapshot : ConfigSnapshot) :
    ofCpp snapshot.toCpp = snapshot := by
  simp [ofCpp, toCpp, Function.comp_def, ConfigFieldValue.ofCpp_toCpp]

/-- The two correspondences are one: a Rust value is found again from its C++ value. -/
theorem ofCpp_toCpp (kind : ConfigMessage) (payload : Value kind) :
    ofCpp kind (toCpp kind payload) = payload := by
  cases kind with
  | describeResponse =>
    obtain ⟨_, _, _, fields⟩ := payload
    simp [ofCpp, toCpp, Function.comp_def, ConfigFieldSchema.ofCpp_toCpp]
    rfl
  | getResponse =>
    obtain ⟨_, _, snapshot⟩ := payload
    simp [ofCpp, toCpp, ConfigSnapshot.ofCpp_toCpp]
    rfl
  | patchRequest =>
    obtain ⟨_, _, _, updates, _⟩ := payload
    simp [ofCpp, toCpp, Function.comp_def, ConfigFieldValue.ofCpp_toCpp]
    rfl
  | patchResponse =>
    obtain ⟨_, _, snapshot, candidate, _, _⟩ := payload
    cases candidate <;> simp [ofCpp, toCpp, ConfigSnapshot.ofCpp_toCpp] <;> rfl
  | _ => rfl

end ofCpp_toCpp

/-! ### What Rust writes

A Rust writer that ends valid was valid before, and has written what C++ writes. -/

section writes

variable {α β : Type} {w w' : Writer}

theorem writes_text {value : Text} (h : w.text value = some w') (hvalid : w'.valid = true) :
    w.valid = true ∧ BufferWriter.writeString w value = w' := by
  unfold Writer.text at h
  split at h
  · exact absurd h (by simp)
  next hshort =>
  obtain rfl := Option.some.inj h
  exact ⟨hvalid, if_neg hshort⟩

theorem writes_f64 {bits : UInt64} (hvalid : (w.f64 bits).valid = true) :
    w.valid = true ∧ BufferWriter.writeFinite w bits = w.f64 bits := by
  unfold Writer.f64 at hvalid
  split at hvalid
  · exact absurd hvalid Bool.false_ne_true
  next hfinite => exact ⟨hvalid, rfl⟩

/-- C++ writes the bounds of a schema unchecked; those that Rust writes are finite. -/
theorem writes_bound {bound : Option UInt64} (hvalid : (writeBound w bound).valid = true) :
    w.valid = true ∧
      (BufferWriter.writeBool w bound.isSome).writeDouble (bound.getD 0) = writeBound w bound := by
  unfold writeBound Writer.f64 at hvalid ⊢
  split at hvalid
  · exact absurd hvalid Bool.false_ne_true
  next hfinite =>
  rw [if_neg hfinite]
  exact ⟨hvalid, rfl⟩

/-- **A list is written item by item.** -/
theorem writes_list {write : Writer → α → Option Writer} {image : α → β}
    {cppWrite : BufferWriter → β → BufferWriter}
    {values : List α} (hlist : w.list values write = some w')
    (h : ∀ w a w', write w a = some w' → w'.valid = true →
      w.valid = true ∧ cppWrite w (image a) = w') (hvalid : w'.valid = true) :
    w.valid = true ∧ BufferWriter.writeVector w (values.map image) cppWrite = w' := by
  unfold Writer.list at hlist
  split at hlist
  · exact absurd hlist (by simp)
  next hlength =>
  have hlength' : ¬kMaxConfigItems.toNat < values.length := hlength
  rw [BufferWriter.writeVector, List.length_map, if_neg hlength']
  -- The writer ends valid, so no item has failed, and none has made it invalid.
  have hitems : ∀ (values : List α) (start : Writer), values.foldlM write start = some w' →
      start.valid = true ∧ (values.map image).foldl cppWrite start = w' := by
    intro values
    induction values with
    | nil =>
      intro start hdone
      obtain rfl := Option.some.inj hdone
      exact ⟨hvalid, rfl⟩
    | cons a values ih =>
      intro start hmore
      rw [List.foldlM_cons] at hmore
      obtain ⟨next, hnext, hrest⟩ := Option.bind_eq_some_iff.mp hmore
      obtain ⟨hnextValid, hrestWritten⟩ := ih next hrest
      obtain ⟨hstart, rfl⟩ := h _ _ _ hnext hnextValid
      exact ⟨hstart, hrestWritten⟩
  obtain ⟨hcount, hwritten⟩ := hitems values _ hlist
  exact ⟨hcount, hwritten⟩

theorem writes_list_id {write : Writer → α → Option Writer}
    {cppWrite : BufferWriter → α → BufferWriter}
    {values : List α} (hlist : w.list values write = some w')
    (h : ∀ w a w', write w a = some w' → w'.valid = true → w.valid = true ∧ cppWrite w a = w')
    (hvalid : w'.valid = true) :
    w.valid = true ∧ BufferWriter.writeVector w values cppWrite = w' := by
  have hmapped : w.valid = true ∧ BufferWriter.writeVector w (values.map id) cppWrite = w' :=
    writes_list hlist h hvalid
  rwa [List.map_id] at hmapped

theorem writes_texts {values : List Text}
    (h : (w.list values fun writer value => writer.text value) = some w')
    (hvalid : w'.valid = true) :
    w.valid = true ∧ BufferWriter.writeStrings w values = w' :=
  writes_list_id h (fun _ _ _ => writes_text) hvalid

theorem writes_status {status : ConfigServiceStatus} {message : Text}
    (h : writeStatus w status message = some w') (hvalid : w'.valid = true) :
    w.valid = true ∧ YunLink.writeStatus w status message = w' :=
  writes_text h hvalid

theorem writes_value {value : ConfigValue} (h : writeValue w value = some w')
    (hvalid : w'.valid = true) :
    w.valid = true ∧ YunLink.writeValue w value.toCpp = w' := by
  cases value with
  | bool value =>
    obtain rfl := Option.some.inj h
    exact ⟨hvalid, rfl⟩
  | int64 value =>
    obtain rfl := Option.some.inj h
    exact ⟨hvalid, rfl⟩
  | double value =>
    obtain rfl := Option.some.inj h
    exact writes_f64 hvalid
  | string value => exact writes_text h hvalid
  | stringList values => exact writes_texts h hvalid
  | doubleList values =>
    refine writes_list_id h (fun _ _ _ hitem hitemValid => ?_) hvalid
    obtain rfl := Option.some.inj hitem
    exact writes_f64 hitemValid
  | unset =>
    obtain rfl := Option.some.inj h
    exact ⟨hvalid, rfl⟩

theorem writes_descriptor {value : ConfigResourceDescriptor}
    (h : writeDescriptor w value = some w') (hvalid : w'.valid = true) :
    w.valid = true ∧ YunLink.writeDescriptor w value = w' := by
  simp only [writeDescriptor, Option.bind_eq_bind, Option.bind_eq_some_iff,
    Option.some.injEq] at h
  obtain ⟨_, hid, _, htitle, _, hdescription, rfl⟩ := h
  obtain ⟨h₁, rfl⟩ := writes_text hdescription hvalid
  obtain ⟨h₂, rfl⟩ := writes_text htitle h₁
  obtain ⟨h₃, rfl⟩ := writes_text hid h₂
  exact ⟨h₃, rfl⟩

theorem writes_choice {choice : ConfigChoice} (h : writeChoice w choice = some w')
    (hvalid : w'.valid = true) :
    w.valid = true ∧ YunLink.writeChoice w choice.toCpp = w' := by
  simp only [writeChoice, Option.bind_eq_bind, Option.bind_eq_some_iff] at h
  obtain ⟨_, hvalue, hlabel⟩ := h
  obtain ⟨h₁, rfl⟩ := writes_text hlabel hvalid
  obtain ⟨h₂, rfl⟩ := writes_value hvalue h₁
  exact ⟨h₂, rfl⟩

theorem writes_default {value : ConfigValue} {present : Bool}
    (h : writeDefault w present value = some w') (hvalid : w'.valid = true) :
    w.valid = true ∧ (if present then YunLink.writeValue w value.toCpp else w) = w' := by
  cases present
  · obtain rfl := Option.some.inj h
    exact ⟨hvalid, rfl⟩
  · exact writes_value h hvalid

theorem writes_schema {schema : ConfigFieldSchema} (h : writeSchema w schema = some w')
    (hvalid : w'.valid = true) :
    w.valid = true ∧ YunLink.writeSchema w schema.toCpp = w' := by
  simp only [writeSchema, Option.bind_eq_bind, Option.bind_eq_some_iff, Option.some.injEq] at h
  obtain ⟨_, hpath, _, htitle, _, hdescription, _, hpattern, _, hchoices, _, hgroup, _, hunit, _,
    hdefault, rfl⟩ := h
  obtain ⟨h₁, rfl⟩ := writes_default hdefault hvalid
  obtain ⟨h₂, rfl⟩ := writes_text hunit h₁
  obtain ⟨h₃, rfl⟩ := writes_text hgroup h₂
  obtain ⟨h₄, rfl⟩ := writes_list hchoices (fun _ _ _ => writes_choice) h₃
  obtain ⟨h₅, rfl⟩ := writes_text hpattern h₄
  obtain ⟨h₆, hmaximum⟩ := writes_bound h₅
  obtain ⟨h₇, hminimum⟩ := writes_bound h₆
  rw [← hmaximum, ← hminimum]
  obtain ⟨h₈, rfl⟩ := writes_text hdescription h₇
  obtain ⟨h₉, rfl⟩ := writes_text htitle h₈
  obtain ⟨h₁₀, rfl⟩ := writes_text hpath h₉
  exact ⟨h₁₀, rfl⟩

theorem writes_fieldValue {field : ConfigFieldValue} (h : writeFieldValue w field = some w')
    (hvalid : w'.valid = true) :
    w.valid = true ∧ YunLink.writeFieldValue w field.toCpp = w' := by
  simp only [writeFieldValue, Option.bind_eq_bind, Option.bind_eq_some_iff] at h
  obtain ⟨_, hpath, hvalue⟩ := h
  obtain ⟨h₁, rfl⟩ := writes_value hvalue hvalid
  obtain ⟨h₂, rfl⟩ := writes_text hpath h₁
  exact ⟨h₂, rfl⟩

theorem writes_snapshot {snapshot : ConfigSnapshot} (h : writeSnapshot w snapshot = some w')
    (hvalid : w'.valid = true) :
    w.valid = true ∧ YunLink.writeSnapshot w snapshot.toCpp = w' := by
  simp only [writeSnapshot, Option.bind_eq_bind, Option.bind_eq_some_iff] at h
  obtain ⟨_, hresource, _, hrevision, _, happlied, _, hvariant, _, hactive, _, hvalues, hpaths⟩ := h
  obtain ⟨h₁, rfl⟩ := writes_texts hpaths hvalid
  obtain ⟨h₂, rfl⟩ := writes_list hvalues (fun _ _ _ => writes_fieldValue) h₁
  obtain ⟨h₃, rfl⟩ := writes_text hactive h₂
  obtain ⟨h₄, rfl⟩ := writes_text hvariant h₃
  obtain ⟨h₅, rfl⟩ := writes_text happlied h₄
  obtain ⟨h₆, rfl⟩ := writes_text hrevision h₅
  obtain ⟨h₇, rfl⟩ := writes_text hresource h₆
  exact ⟨h₇, rfl⟩

theorem writes_error {value : ConfigFieldError} (h : writeError w value = some w')
    (hvalid : w'.valid = true) :
    w.valid = true ∧ writeFieldError w value = w' := by
  simp only [writeError, Option.bind_eq_bind, Option.bind_eq_some_iff] at h
  obtain ⟨_, hpath, _, hcode, hmessage⟩ := h
  obtain ⟨h₁, rfl⟩ := writes_text hmessage hvalid
  obtain ⟨h₂, rfl⟩ := writes_text hcode h₁
  obtain ⟨h₃, rfl⟩ := writes_text hpath h₂
  exact ⟨h₃, rfl⟩

theorem writes_effects {value : ConfigEffects} (h : writeEffects w value = some w')
    (hvalid : w'.valid = true) :
    w.valid = true ∧ YunLink.writeEffects w value = w' := by
  simp only [writeEffects, Option.bind_eq_bind, Option.bind_eq_some_iff, Option.some.injEq] at h
  obtain ⟨_, hcomponents, rfl⟩ := h
  obtain ⟨h₁, rfl⟩ := writes_texts hcomponents hvalid
  exact ⟨h₁, rfl⟩

theorem writes_variant {value : ConfigVariantDescriptor} (h : writeVariant w value = some w')
    (hvalid : w'.valid = true) :
    w.valid = true ∧ YunLink.writeVariant w value = w' := by
  simp only [writeVariant, Option.bind_eq_bind, Option.bind_eq_some_iff, Option.some.injEq] at h
  obtain ⟨_, hid, _, htitle, _, hrevision, rfl⟩ := h
  obtain ⟨h₁, rfl⟩ := writes_text hrevision hvalid
  obtain ⟨h₂, rfl⟩ := writes_text htitle h₁
  obtain ⟨h₃, rfl⟩ := writes_text hid h₂
  exact ⟨h₃, rfl⟩

theorem writes_describeRequest {payload : ConfigResourceDescribeRequest}
    (h : writeDescribeRequest w payload = some w') (hvalid : w'.valid = true) :
    w.valid = true ∧ ConfigResourceDescribeRequest.write w payload = w' := by
  obtain ⟨resourceId, locale⟩ := payload
  obtain ⟨_, hresource, hlocale⟩ := Option.bind_eq_some_iff.mp h
  cases locale with
  | nil =>
    obtain rfl := Option.some.inj hlocale
    obtain ⟨h₁, rfl⟩ := writes_text hresource hvalid
    exact ⟨h₁, rfl⟩
  | cons byte rest =>
    obtain ⟨h₁, rfl⟩ := writes_text hlocale hvalid
    obtain ⟨h₂, rfl⟩ := writes_text hresource h₁
    exact ⟨h₂, rfl⟩

theorem writes_candidate {candidate : Option ConfigSnapshot}
    (h : writeCandidate w candidate = some w') (hvalid : w'.valid = true) :
    w.valid = true ∧
      (if candidate.isSome then
        YunLink.writeSnapshot w ((candidate.map ConfigSnapshot.toCpp).getD {}) else w) = w' := by
  cases candidate with
  | none =>
    obtain rfl := Option.some.inj h
    exact ⟨hvalid, rfl⟩
  | some candidate => exact writes_snapshot h hvalid

theorem writes_variantMutation {status : ConfigServiceStatus} {message : Text}
    {variant : ConfigVariantDescriptor} {effects : ConfigEffects}
    (h : writeVariantMutation w status message variant effects = some w')
    (hvalid : w'.valid = true) :
    w.valid = true ∧
      YunLink.writeEffects (YunLink.writeVariant (YunLink.writeStatus w status message) variant)
        effects = w' := by
  simp only [writeVariantMutation, Option.bind_eq_bind, Option.bind_eq_some_iff] at h
  obtain ⟨_, hstatus, _, hvariant, heffects⟩ := h
  obtain ⟨h₁, rfl⟩ := writes_effects heffects hvalid
  obtain ⟨h₂, rfl⟩ := writes_variant hvariant h₁
  obtain ⟨h₃, rfl⟩ := writes_status hstatus h₂
  exact ⟨h₃, rfl⟩

end writes

/-- **A Rust writer that ends valid has written what C++ writes.** -/
theorem write_toCpp {kind : ConfigMessage} {payload : Value kind} {w w' : Writer}
    (h : write kind w payload = some w') (hvalid : w'.valid = true) :
    w.valid = true ∧ kind.write w (toCpp kind payload) = w' := by
  cases kind with
  | listRequest =>
    obtain rfl := Option.some.inj h
    exact ⟨hvalid, rfl⟩
  | listResponse =>
    obtain ⟨_, hstatus, hresources⟩ := Option.bind_eq_some_iff.mp h
    obtain ⟨h₁, rfl⟩ := writes_list_id hresources (fun _ _ _ => writes_descriptor) hvalid
    obtain ⟨h₂, rfl⟩ := writes_status hstatus h₁
    exact ⟨h₂, rfl⟩
  | describeRequest => exact writes_describeRequest h hvalid
  | describeResponse =>
    obtain ⟨_, hstatus, hmore⟩ := Option.bind_eq_some_iff.mp h
    obtain ⟨_, hresource, hfields⟩ := Option.bind_eq_some_iff.mp hmore
    obtain ⟨h₁, rfl⟩ := writes_list hfields (fun _ _ _ => writes_schema) hvalid
    obtain ⟨h₂, rfl⟩ := writes_descriptor hresource h₁
    obtain ⟨h₃, rfl⟩ := writes_status hstatus h₂
    exact ⟨h₃, rfl⟩
  | getRequest =>
    obtain ⟨_, hresource, hvariant⟩ := Option.bind_eq_some_iff.mp h
    obtain ⟨h₁, rfl⟩ := writes_text hvariant hvalid
    obtain ⟨h₂, rfl⟩ := writes_text hresource h₁
    exact ⟨h₂, rfl⟩
  | getResponse =>
    obtain ⟨_, hstatus, hsnapshot⟩ := Option.bind_eq_some_iff.mp h
    obtain ⟨h₁, rfl⟩ := writes_snapshot hsnapshot hvalid
    obtain ⟨h₂, rfl⟩ := writes_status hstatus h₁
    exact ⟨h₂, rfl⟩
  | patchRequest =>
    simp only [write, writePatchRequest, Option.bind_eq_bind, Option.bind_eq_some_iff,
      Option.some.injEq] at h
    obtain ⟨_, hresource, _, hvariant, _, hrevision, _, hupdates, rfl⟩ := h
    obtain ⟨h₁, rfl⟩ := writes_list hupdates (fun _ _ _ => writes_fieldValue) hvalid
    obtain ⟨h₂, rfl⟩ := writes_text hrevision h₁
    obtain ⟨h₃, rfl⟩ := writes_text hvariant h₂
    obtain ⟨h₄, rfl⟩ := writes_text hresource h₃
    exact ⟨h₄, rfl⟩
  | patchResponse =>
    simp only [write, writePatchResponse, Option.bind_eq_bind, Option.bind_eq_some_iff] at h
    obtain ⟨_, hstatus, _, hsnapshot, _, hcandidate, _, herrors, heffects⟩ := h
    obtain ⟨h₁, rfl⟩ := writes_effects heffects hvalid
    obtain ⟨h₂, rfl⟩ := writes_list_id herrors (fun _ _ _ => writes_error) h₁
    obtain ⟨h₃, rfl⟩ := writes_candidate hcandidate h₂
    obtain ⟨h₄, rfl⟩ := writes_snapshot hsnapshot h₃
    obtain ⟨h₅, rfl⟩ := writes_status hstatus h₄
    exact ⟨h₅, rfl⟩
  | applyRequest =>
    obtain ⟨_, hresource, hrevision⟩ := Option.bind_eq_some_iff.mp h
    obtain ⟨h₁, rfl⟩ := writes_text hrevision hvalid
    obtain ⟨h₂, rfl⟩ := writes_text hresource h₁
    exact ⟨h₂, rfl⟩
  | applyResponse =>
    obtain ⟨_, hstatus, hmore⟩ := Option.bind_eq_some_iff.mp h
    obtain ⟨_, happlied, heffects⟩ := Option.bind_eq_some_iff.mp hmore
    obtain ⟨h₁, rfl⟩ := writes_effects heffects hvalid
    obtain ⟨h₂, rfl⟩ := writes_text happlied h₁
    obtain ⟨h₃, rfl⟩ := writes_status hstatus h₂
    exact ⟨h₃, rfl⟩
  | variantListRequest => exact writes_text h hvalid
  | variantListResponse =>
    obtain ⟨_, hstatus, hmore⟩ := Option.bind_eq_some_iff.mp h
    obtain ⟨_, hactive, hvariants⟩ := Option.bind_eq_some_iff.mp hmore
    obtain ⟨h₁, rfl⟩ := writes_list_id hvariants (fun _ _ _ => writes_variant) hvalid
    obtain ⟨h₂, rfl⟩ := writes_text hactive h₁
    obtain ⟨h₃, rfl⟩ := writes_status hstatus h₂
    exact ⟨h₃, rfl⟩
  | variantCreateRequest =>
    obtain ⟨_, hresource, hmore⟩ := Option.bind_eq_some_iff.mp h
    obtain ⟨_, hvariant, hrevision⟩ := Option.bind_eq_some_iff.mp hmore
    obtain ⟨h₁, rfl⟩ := writes_text hrevision hvalid
    obtain ⟨h₂, rfl⟩ := writes_text hvariant h₁
    obtain ⟨h₃, rfl⟩ := writes_text hresource h₂
    exact ⟨h₃, rfl⟩
  | variantCreateResponse => exact writes_variantMutation h hvalid
  | variantSaveCurrentRequest =>
    simp only [write, writeVariantSaveCurrentRequest, Option.bind_eq_bind,
      Option.bind_eq_some_iff] at h
    obtain ⟨_, hresource, _, hvariant, _, hrevision, hactive⟩ := h
    obtain ⟨h₁, rfl⟩ := writes_text hactive hvalid
    obtain ⟨h₂, rfl⟩ := writes_text hrevision h₁
    obtain ⟨h₃, rfl⟩ := writes_text hvariant h₂
    obtain ⟨h₄, rfl⟩ := writes_text hresource h₃
    exact ⟨h₄, rfl⟩
  | variantSaveCurrentResponse => exact writes_variantMutation h hvalid
  | variantActivateRequest =>
    obtain ⟨_, hresource, hmore⟩ := Option.bind_eq_some_iff.mp h
    obtain ⟨_, hvariant, hrevision⟩ := Option.bind_eq_some_iff.mp hmore
    obtain ⟨h₁, rfl⟩ := writes_text hrevision hvalid
    obtain ⟨h₂, rfl⟩ := writes_text hvariant h₁
    obtain ⟨h₃, rfl⟩ := writes_text hresource h₂
    exact ⟨h₃, rfl⟩
  | variantActivateResponse =>
    obtain ⟨_, hstatus, hmore⟩ := Option.bind_eq_some_iff.mp h
    obtain ⟨_, happlied, heffects⟩ := Option.bind_eq_some_iff.mp hmore
    obtain ⟨h₁, rfl⟩ := writes_effects heffects hvalid
    obtain ⟨h₂, rfl⟩ := writes_text happlied h₁
    obtain ⟨h₃, rfl⟩ := writes_status hstatus h₂
    exact ⟨h₃, rfl⟩
  | variantDeleteRequest =>
    obtain ⟨_, hresource, hmore⟩ := Option.bind_eq_some_iff.mp h
    obtain ⟨_, hvariant, hrevision⟩ := Option.bind_eq_some_iff.mp hmore
    obtain ⟨h₁, rfl⟩ := writes_text hrevision hvalid
    obtain ⟨h₂, rfl⟩ := writes_text hvariant h₁
    obtain ⟨h₃, rfl⟩ := writes_text hresource h₂
    exact ⟨h₃, rfl⟩
  | variantDeleteResponse => exact writes_status h hvalid

theorem encodePayload_toCpp {kind : ConfigMessage} {payload : Value kind} {bytes : Bytes}
    (h : encode kind payload = some bytes) : kind.encodePayload (toCpp kind payload) = bytes := by
  obtain ⟨w, hwrite, hfinish⟩ := Option.bind_eq_some_iff.mp h
  unfold Writer.finish at hfinish
  split at hfinish
  · next hvalid =>
    obtain rfl := Option.some.inj hfinish
    rw [ConfigMessage.encodePayload, (write_toCpp hwrite hvalid).2]
    exact Buffer.take_of_valid hvalid
  · exact absurd hfinish (by simp)

/-! ### What Rust reads -/

section mirrors

variable {α β : Type}

theorem mirrors_text :
    Mirrors True text readString (fun value => Utf8.valid value = true) id := by
  intro input value rest
  simp [text, readString, checked_eq_some]

/-- The number of a bound, which C++ checks later. -/
theorem mirrors_f64 : Mirrors True f64 readDouble (fun bits => isFinite bits = true) id := by
  intro input bits rest
  simp [f64, u64, readDouble, checked_eq_some]

/-- A byte that C++ takes as it is. -/
theorem mirrors_coded {table : UInt8 → Option α} {valid : UInt8 → Bool} {ofByte : UInt8 → α}
    (h : ∀ byte, table byte = if valid byte then some (ofByte byte) else none) :
    Mirrors True (coded table) PayloadReader.u8 (fun byte => valid byte = true) ofByte := by
  intro input value rest
  have hlift : ∀ (found : Option α) (middle : Bytes),
      (StateT.lift found : Reader α) middle = some (value, rest) ↔
        found = some value ∧ middle = rest := by
    intro found middle
    cases found <;> simp [StateT.lift]
  simp only [coded, Codec.Reader.bind_eq_some, hlift, h, true_and]
  constructor
  · rintro ⟨byte, middle, hbyte, hvalue, rfl⟩
    split at hvalue
    · next hvalid => exact ⟨byte, hbyte, hvalid, Option.some.inj hvalue⟩
    · exact absurd hvalue (by simp)
  · rintro ⟨byte, hbyte, hvalid, rfl⟩
    exact ⟨byte, rest, hbyte, by rw [if_pos hvalid], rfl⟩

/-- A byte that C++ checks as well. -/
theorem mirrors_checked {r : Reader α} {s : PayloadReader β} {valid : β → Bool} {image : β → α}
    (h : Mirrors True r s (fun b => valid b = true) image) :
    Mirrors True r (PayloadReader.checked s valid) (fun _ => True) image := by
  intro input a rest
  rw [h input a rest]
  simp [checked_eq_some, and_assoc]

/-- What Rust makes of a byte is what C++ makes of it once it has checked it. -/
theorem coded_eq : ∀ byte : UInt8,
    ((match byte with
      | 0 => some false
      | 1 => some true
      | _ => none) = if decide (byte ≤ 1) = true then some (byte != 0) else none) ∧
    (status byte = if validStatus byte then some (ConfigServiceStatus.ofUInt8 byte) else none) ∧
    (schemaValueType byte =
      if validSchemaValueType byte then some (ConfigValueType.ofUInt8 byte) else none) ∧
    (updatePolicy byte =
      if validUpdatePolicy byte then some (ConfigFieldUpdatePolicy.ofUInt8 byte) else none) ∧
    (requirement byte =
      if validRequirement byte then some (ConfigApplyRequirement.ofUInt8 byte) else none) ∧
    (outcome byte = if validOutcome byte then some (ConfigApplyOutcome.ofUInt8 byte) else none) ∧
    (variantSource byte =
      if validVariantSource byte then some (ConfigVariantSource.ofUInt8 byte) else none) := by
  apply Words.forall_byte
  decide +kernel

theorem mirrors_boolean : Mirrors True boolean readBool (fun _ => True) id := by
  have hcoded : Mirrors True boolean
      (PayloadReader.checked PayloadReader.u8 fun byte => decide (byte ≤ 1)) (fun _ => True)
      fun byte => id (byte != 0) := mirrors_checked (mirrors_coded fun byte => (coded_eq byte).1)
  exact hcoded.compute

theorem mirrors_list {item : Reader α} {cppItem : PayloadReader β} {good : β → Prop}
    {image : β → α} (h : Mirrors True item cppItem good image) :
    Mirrors True (list item) (readVector cppItem) (fun values => ∀ b ∈ values, good b)
      (List.map image) := by
  refine (Mirrors.refl _).bind fun count => ?_
  rw [list_eq_times, list_eq_times]
  exact (h.times _).congr (by simp)

theorem mirrors_list_id {item : Reader α} {cppItem : PayloadReader α} {good : α → Prop}
    (h : Mirrors True item cppItem good id) :
    Mirrors True (list item) (readVector cppItem) (fun values => ∀ a ∈ values, good a) id := by
  have hlist := mirrors_list h
  rwa [List.map_id_fun] at hlist

theorem mirrors_texts : Mirrors True (list text) readStrings Utf8.AllValid id :=
  mirrors_list_id mirrors_text

theorem mirrors_readIf {r : Reader α} {s : PayloadReader β} {good : β → Prop} {image : β → α}
    (h : Mirrors True r s good image) (present : Bool) {absent : α} {cppAbsent : β}
    (habsent : image cppAbsent = absent) :
    Mirrors True (readIf present r absent) (readIf present s cppAbsent)
      (fun b => present = true → good b) image := by
  cases present
  · exact .pure (by simp) habsent
  · intro input a rest
    simpa [readIf] using h input a rest

theorem mirrors_status :
    Mirrors True readStatus YunLink.readStatus (fun value => Utf8.valid value.2 = true) id := by
  refine (mirrors_checked (mirrors_coded fun byte => (coded_eq byte).2.1)).bind fun byte => ?_
  refine mirrors_text.bind fun message => ?_
  exact .pure (by simp) rfl

theorem mirrors_descriptor :
    Mirrors True readDescriptor YunLink.readDescriptor (fun value => Utf8.AllValid value.texts)
      id := by
  refine mirrors_text.bind fun id => ?_
  refine mirrors_text.bind fun title => ?_
  refine mirrors_text.bind fun description => ?_
  refine mirrors_boolean.bind fun readable => ?_
  refine mirrors_boolean.bind fun writable => ?_
  refine mirrors_boolean.bind fun applySupported => ?_
  refine mirrors_boolean.bind fun variantsSupported => ?_
  exact .pure (by simp [ConfigResourceDescriptor.texts, and_assoc]) rfl

/-- The member of a value. -/
theorem mirrors_member {r : Reader α} {s : PayloadReader α} {good : α → Prop}
    (h : Mirrors True r s good id) {make : α → ConfigValue} {cppMake : α → YunLink.ConfigValue}
    (hgood : ∀ a, Utf8.AllValid (cppMake a).texts ↔ good a)
    (himage : ∀ a, ConfigValue.ofCpp (cppMake a) = make a) :
    Mirrors True (do let member ← r; pure (make member)) (do let member ← s; pure (cppMake member))
      (fun value => Utf8.AllValid value.texts) ConfigValue.ofCpp := by
  refine h.bind fun member => ?_
  exact .pure (by simp [hgood]) (himage member)

/-- A byte that C++ checks before it goes on, and Rust while it does. -/
theorem mirrors_dispatch {r : PayloadReader UInt8} {valid : UInt8 → Bool} {next : UInt8 → Reader α}
    {cppNext : UInt8 → PayloadReader β} {good : β → Prop} {image : β → α}
    (h : ∀ byte, valid byte = true → Mirrors True (next byte) (cppNext byte) good image)
    (hrefused : ∀ byte, valid byte = false → ∀ input, next byte input = none) :
    Mirrors True (r >>= next) (PayloadReader.checked r valid >>= cppNext) good image := by
  intro input a rest
  simp only [Codec.Reader.bind_eq_some, checked_eq_some, true_and]
  constructor
  · rintro ⟨byte, middle, hbyte, hnext⟩
    cases hvalid : valid byte
    · rw [hrefused byte hvalid middle] at hnext
      exact absurd hnext (by simp)
    · obtain ⟨b, hb, hgood, himage⟩ := (h byte hvalid middle a rest).mp ⟨trivial, hnext⟩
      exact ⟨b, ⟨byte, middle, ⟨hbyte, hvalid⟩, hb⟩, hgood, himage⟩
  · rintro ⟨b, ⟨byte, middle, ⟨hbyte, hvalid⟩, hb⟩, hgood, himage⟩
    exact ⟨byte, middle, hbyte, ((h byte hvalid middle a rest).mpr ⟨b, hb, hgood, himage⟩).2⟩

theorem value_types : ∀ byte, validValueType byte = true →
    byte = 1 ∨ byte = 2 ∨ byte = 3 ∨ byte = 4 ∨ byte = 5 ∨ byte = 6 ∨ byte = 7 := by
  apply Words.forall_byte
  decide +kernel

/-- **A value is read as the member its type names.** -/
theorem mirrors_value :
    Mirrors True readValue YunLink.readValue (fun value => Utf8.AllValid value.texts)
      ConfigValue.ofCpp := by
  refine mirrors_dispatch (fun byte hvalid => ?_) fun byte hinvalid input => ?_
  · rcases value_types byte hvalid with rfl | rfl | rfl | rfl | rfl | rfl | rfl
    · exact mirrors_member mirrors_boolean (by simp [ConfigValue.texts]) fun _ => rfl
    · exact mirrors_member (.refl _) (by simp [ConfigValue.texts]) fun _ => rfl
    · exact mirrors_member (.refl _) (by simp [ConfigValue.texts]) fun _ => rfl
    · exact mirrors_member mirrors_text (by simp [ConfigValue.texts]) fun _ => rfl
    · exact mirrors_member mirrors_texts (by simp [ConfigValue.texts]) fun _ => rfl
    · exact mirrors_member (mirrors_list_id (.refl _)) (by simp [ConfigValue.texts]) fun _ => rfl
    · exact .pure (by simp [ConfigValue.texts]) rfl
  · split
    all_goals first
      | rfl
      | exact absurd hinvalid (by decide)

theorem mirrors_choice :
    Mirrors True readChoice YunLink.readChoice (fun choice => Utf8.AllValid choice.texts)
      ConfigChoice.ofCpp := by
  refine mirrors_value.bind fun value => ?_
  refine mirrors_text.bind fun label => ?_
  exact .pure (by simp [ConfigChoice.texts]) rfl

/-- A bound, whose number C++ reads without a check. -/
theorem mirrors_bound {condition : Prop} {next : Option UInt64 → Reader α}
    {cppNext : Bool → UInt64 → PayloadReader β} {good : β → Prop} {image : β → α}
    (h : ∀ present bits, Mirrors (condition ∧ isFinite bits = true)
      (next (if present then some bits else none)) (cppNext present bits) good image) :
    Mirrors condition (readBound >>= next)
      (readBool >>= fun present => readDouble >>= cppNext present) good image := by
  have hread : readBound >>= next = (do
      let present ← boolean
      let bits ← f64
      next (if present then some bits else none)) := by
    simp only [readBound, bind_assoc, pure_bind]
  rw [hread]
  refine mirrors_boolean.bind fun present => ?_
  refine mirrors_f64.bind fun bits => ?_
  exact (h present bits).congr (by simp)

theorem mirrors_schema :
    Mirrors True readSchema YunLink.readSchema (fun schema => Utf8.AllValid schema.texts)
      ConfigFieldSchema.ofCpp := by
  have htypes := fun byte => (coded_eq byte).2.2.1
  have hpolicies := fun byte => (coded_eq byte).2.2.2.1
  refine mirrors_text.bind fun path => ?_
  refine mirrors_text.bind fun title => ?_
  refine mirrors_text.bind fun description => ?_
  refine (mirrors_checked (mirrors_coded htypes)).bind fun type => ?_
  refine mirrors_boolean.bind fun required => ?_
  refine mirrors_boolean.bind fun readOnly => ?_
  refine mirrors_boolean.bind fun sensitive => ?_
  refine mirrors_bound fun hasMinimum minimum => ?_
  refine mirrors_bound fun hasMaximum maximum => ?_
  refine mirrors_text.bind fun validationPattern => ?_
  refine (mirrors_list mirrors_choice).bind fun choices => ?_
  refine mirrors_text.bind fun groupPath => ?_
  refine (mirrors_coded hpolicies).bind fun updatePolicy => ?_
  refine mirrors_text.bind fun unit => ?_
  refine .check (fun h => by simp [h]) fun hchecks => ?_
  refine mirrors_boolean.bind fun hasDefaultValue => ?_
  have hdefault : Mirrors True (readIf hasDefaultValue readValue (.string []))
      (readIf hasDefaultValue YunLink.readValue {}) _ _ :=
    mirrors_readIf mirrors_value hasDefaultValue rfl
  refine hdefault.bind fun defaultValue => ?_
  refine mirrors_boolean.bind fun advanced => ?_
  rw [Bool.and_eq_true, Bool.and_eq_true] at hchecks
  exact .pure (by simp [ConfigFieldSchema.texts, hchecks, and_assoc]) rfl

theorem mirrors_fieldValue :
    Mirrors True readFieldValue YunLink.readFieldValue (fun field => Utf8.AllValid field.texts)
      ConfigFieldValue.ofCpp := by
  refine mirrors_text.bind fun path => ?_
  refine mirrors_value.bind fun value => ?_
  exact .pure (by simp [ConfigFieldValue.texts]) rfl

theorem mirrors_snapshot :
    Mirrors True readSnapshot YunLink.readSnapshot (fun snapshot => Utf8.AllValid snapshot.texts)
      ConfigSnapshot.ofCpp := by
  refine mirrors_text.bind fun resourceId => ?_
  refine mirrors_text.bind fun revision => ?_
  refine mirrors_text.bind fun appliedRevision => ?_
  refine mirrors_text.bind fun variantId => ?_
  refine mirrors_text.bind fun activeVariantId => ?_
  refine (mirrors_list mirrors_fieldValue).bind fun values => ?_
  refine mirrors_texts.bind fun userOverriddenPaths => ?_
  exact .pure (by simp [ConfigSnapshot.texts, and_assoc]) rfl

theorem mirrors_error :
    Mirrors True readError readFieldError (fun value => Utf8.AllValid value.texts) id := by
  refine mirrors_text.bind fun path => ?_
  refine mirrors_text.bind fun code => ?_
  refine mirrors_text.bind fun message => ?_
  exact .pure (by simp [ConfigFieldError.texts, and_assoc]) rfl

theorem mirrors_effects :
    Mirrors True readEffects YunLink.readEffects (fun value => Utf8.AllValid value.texts) id := by
  have hrequirements := fun byte => (coded_eq byte).2.2.2.2.1
  refine (mirrors_checked (mirrors_coded hrequirements)).bind fun byte => ?_
  refine mirrors_texts.bind fun affectedComponents => ?_
  refine mirrors_boolean.bind fun reconnectExpected => ?_
  exact .pure (by simp [ConfigEffects.texts]) rfl

theorem mirrors_variant :
    Mirrors True readVariant YunLink.readVariant (fun value => Utf8.AllValid value.texts) id := by
  refine mirrors_text.bind fun id => ?_
  refine mirrors_text.bind fun title => ?_
  refine mirrors_text.bind fun revision => ?_
  refine (Mirrors.refl _).bind fun modifiedAtNs => ?_
  refine mirrors_boolean.bind fun active => ?_
  refine mirrors_boolean.bind fun mutableVariant => ?_
  exact .pure (by simp [ConfigVariantDescriptor.texts, and_assoc]) rfl

theorem mirrors_outcome :
    Mirrors True (coded outcome) (PayloadReader.checked PayloadReader.u8 validOutcome)
      (fun _ => True) ConfigApplyOutcome.ofUInt8 :=
  mirrors_checked (mirrors_coded fun byte => (coded_eq byte).2.2.2.2.2.1)

theorem mirrors_variantSource :
    Mirrors True (coded variantSource)
      (PayloadReader.checked PayloadReader.u8 validVariantSource) (fun _ => True)
      ConfigVariantSource.ofUInt8 :=
  mirrors_checked (mirrors_coded fun byte => (coded_eq byte).2.2.2.2.2.2)

theorem mirrors_remaining : Mirrors True remaining done (fun _ => True) not := by
  intro input more rest
  simp [remaining, done]

/-- A locale that is left out is empty, and so UTF-8. -/
theorem mirrors_locale (more : Bool) :
    Mirrors True (readIf more text []) (readIf more readString [])
      (fun value => Utf8.valid value = true) id := by
  cases more
  · exact .pure (by simp [Utf8.valid_nil]) rfl
  · exact mirrors_text

/-- A candidate, which C++ reads into a member that is there in any case. -/
theorem mirrors_candidate {condition : Prop} {next : Option ConfigSnapshot → Reader α}
    {cppNext : Bool → YunLink.ConfigSnapshot → PayloadReader β} {good : β → Prop} {image : β → α}
    (h : ∀ present candidate,
      Mirrors (condition ∧ (present = true → Utf8.AllValid candidate.texts))
        (next (if present then some (.ofCpp candidate) else none)) (cppNext present candidate) good
        image) :
    Mirrors condition (readCandidate >>= next)
      (readBool >>= fun present => readIf present YunLink.readSnapshot {} >>= cppNext present)
      good image := by
  have hread : readCandidate >>= next =
      boolean >>= fun present => readIf present (some <$> readSnapshot) none >>= next := by
    simp only [readCandidate, bind_assoc]
  rw [hread]
  refine mirrors_boolean.bind fun present => ?_
  cases present
  · exact (h false {}).congr (by simp)
  · have hsnapshot : (some <$> readSnapshot) >>= next = readSnapshot >>= fun s => next (some s) :=
      bind_map_left _ _ _
    show Mirrors _ ((some <$> readSnapshot) >>= next) _ _ _
    rw [hsnapshot]
    refine mirrors_snapshot.bind fun candidate => ?_
    exact (h true candidate).congr (by simp)

end mirrors

/-- **The Rust reader accepts of what C++ accepts the messages whose strings are UTF-8.** -/
theorem mirrors (kind : ConfigMessage) :
    Mirrors True (read kind) kind.read (fun value => Utf8.AllValid (kind.texts value))
      (ofCpp kind) := by
  cases kind with
  | listRequest =>
    refine (Mirrors.refl _).bind fun reserved => ?_
    exact .pure (by simp [ConfigMessage.texts]) rfl
  | listResponse =>
    refine mirrors_status.bind fun reply => ?_
    refine (mirrors_list_id mirrors_descriptor).bind fun resources => ?_
    exact .pure (by simp [ConfigMessage.texts]) rfl
  | describeRequest =>
    refine mirrors_text.bind fun resourceId => ?_
    refine mirrors_remaining.bind fun finished => ?_
    refine (mirrors_locale (!finished)).bind fun locale => ?_
    exact .pure (by simp [ConfigMessage.texts]) rfl
  | describeResponse =>
    refine mirrors_status.bind fun reply => ?_
    refine mirrors_descriptor.bind fun resource => ?_
    refine (mirrors_list mirrors_schema).bind fun fields => ?_
    exact .pure (by simp [ConfigMessage.texts, and_assoc]) rfl
  | getRequest =>
    refine mirrors_text.bind fun resourceId => ?_
    refine mirrors_text.bind fun variantId => ?_
    exact .pure (by simp [ConfigMessage.texts]) rfl
  | getResponse =>
    refine mirrors_status.bind fun reply => ?_
    refine mirrors_snapshot.bind fun snapshot => ?_
    exact .pure (by simp [ConfigMessage.texts]) rfl
  | patchRequest =>
    refine mirrors_text.bind fun resourceId => ?_
    refine mirrors_text.bind fun variantId => ?_
    refine mirrors_text.bind fun expectedRevision => ?_
    refine (mirrors_list mirrors_fieldValue).bind fun updates => ?_
    refine mirrors_boolean.bind fun validateOnly => ?_
    exact .pure (by simp [ConfigMessage.texts, and_assoc]) rfl
  | patchResponse =>
    refine mirrors_status.bind fun reply => ?_
    refine mirrors_snapshot.bind fun snapshot => ?_
    refine mirrors_candidate fun hasCandidate candidate => ?_
    refine (mirrors_list_id mirrors_error).bind fun errors => ?_
    refine mirrors_effects.bind fun effects => ?_
    exact .pure (by simp [ConfigMessage.texts, and_assoc]) rfl
  | applyRequest =>
    refine mirrors_text.bind fun resourceId => ?_
    refine mirrors_text.bind fun expectedRevision => ?_
    exact .pure (by simp [ConfigMessage.texts]) rfl
  | applyResponse =>
    refine mirrors_status.bind fun reply => ?_
    refine mirrors_text.bind fun appliedRevision => ?_
    refine mirrors_outcome.bind fun outcome => ?_
    refine mirrors_effects.bind fun effects => ?_
    exact .pure (by simp [ConfigMessage.texts, and_assoc]) rfl
  | variantListRequest =>
    refine mirrors_text.bind fun resourceId => ?_
    exact .pure (by simp [ConfigMessage.texts]) rfl
  | variantListResponse =>
    refine mirrors_status.bind fun reply => ?_
    refine mirrors_text.bind fun activeVariantId => ?_
    refine (mirrors_list_id mirrors_variant).bind fun variants => ?_
    exact .pure (by simp [ConfigMessage.texts, and_assoc]) rfl
  | variantCreateRequest =>
    refine mirrors_text.bind fun resourceId => ?_
    refine mirrors_text.bind fun variantId => ?_
    refine mirrors_variantSource.bind fun source => ?_
    refine mirrors_text.bind fun expectedActiveRevision => ?_
    exact .pure (by simp [ConfigMessage.texts, and_assoc]) rfl
  | variantCreateResponse =>
    refine mirrors_status.bind fun reply => ?_
    refine mirrors_variant.bind fun variant => ?_
    refine mirrors_effects.bind fun effects => ?_
    exact .pure (by simp [ConfigMessage.texts, and_assoc]) rfl
  | variantSaveCurrentRequest =>
    refine mirrors_text.bind fun resourceId => ?_
    refine mirrors_text.bind fun variantId => ?_
    refine mirrors_text.bind fun expectedVariantRevision => ?_
    refine mirrors_text.bind fun expectedActiveRevision => ?_
    exact .pure (by simp [ConfigMessage.texts, and_assoc]) rfl
  | variantSaveCurrentResponse =>
    refine mirrors_status.bind fun reply => ?_
    refine mirrors_variant.bind fun variant => ?_
    refine mirrors_effects.bind fun effects => ?_
    exact .pure (by simp [ConfigMessage.texts, and_assoc]) rfl
  | variantActivateRequest =>
    refine mirrors_text.bind fun resourceId => ?_
    refine mirrors_text.bind fun variantId => ?_
    refine mirrors_text.bind fun expectedActiveRevision => ?_
    exact .pure (by simp [ConfigMessage.texts, and_assoc]) rfl
  | variantActivateResponse =>
    refine mirrors_status.bind fun reply => ?_
    refine mirrors_text.bind fun appliedRevision => ?_
    refine mirrors_outcome.bind fun outcome => ?_
    refine mirrors_effects.bind fun effects => ?_
    exact .pure (by simp [ConfigMessage.texts, and_assoc]) rfl
  | variantDeleteRequest =>
    refine mirrors_text.bind fun resourceId => ?_
    refine mirrors_text.bind fun variantId => ?_
    refine mirrors_text.bind fun expectedRevision => ?_
    exact .pure (by simp [ConfigMessage.texts, and_assoc]) rfl
  | variantDeleteResponse =>
    refine mirrors_status.bind fun reply => ?_
    exact .pure (by simp [ConfigMessage.texts]) rfl

theorem decode_eq_some_iff {kind : ConfigMessage} {bytes : Bytes} {value : Value kind} :
    decode kind bytes = some value ↔ read kind bytes = some (value, []) := by
  unfold decode
  split
  · next found rest hread =>
    cases rest <;> simp [hread]
  · next hread => simp [hread]

end Rust

theorem decodePayload_eq_some_iff {kind : ConfigMessage} {bytes : Bytes} {value : kind.Value} :
    kind.decodePayload bytes = some value ↔ kind.read bytes = some (value, []) := by
  refine ⟨eq_some_of_decodeAll, fun h => ?_⟩
  rw [ConfigMessage.decodePayload, decodeAll, h]

/-- **The Rust codec implements the C++ codec.**  What Rust encodes, C++ encodes to the same
bytes, and a payload whose strings are UTF-8 is decoded alike. -/
theorem rust_implements_cpp (kind : ConfigMessage) :
    (∀ payload bytes, Rust.encode kind payload = some bytes →
        kind.encodePayload (Rust.toCpp kind payload) = bytes) ∧
      (∀ payload, Rust.ofCpp kind (Rust.toCpp kind payload) = payload) ∧
      ∀ bytes,
        (∀ value, kind.decodePayload bytes = some value → Utf8.AllValid (kind.texts value)) →
        Rust.decode kind bytes = (kind.decodePayload bytes).map (Rust.ofCpp kind) := by
  refine ⟨fun payload bytes => Rust.encodePayload_toCpp, Rust.ofCpp_toCpp kind, ?_⟩
  intro bytes hutf8
  apply Option.ext
  intro payload
  rw [Rust.decode_eq_some_iff, Option.map_eq_some_iff]
  have hmirrors := Rust.mirrors kind bytes payload []
  simp only [true_and] at hmirrors
  rw [hmirrors]
  constructor
  · rintro ⟨value, hread, -, himage⟩
    exact ⟨value, decodePayload_eq_some_iff.mpr hread, himage⟩
  · rintro ⟨value, hdecode, himage⟩
    exact ⟨value, decodePayload_eq_some_iff.mp hdecode, hutf8 value hdecode, himage⟩

/-- An update that takes a value away. -/
def samplePatch : Rust.ConfigResourcePatchRequest where
  resourceId := ascii "cam"
  variantId := ascii "a"
  expectedRevision := ascii "7"
  updates := [{ path := ascii "fps", value := .unset }]
  validateOnly := true

/-- The bytes of the update. -/
def samplePatchBytes : Bytes :=
  [3, 0, 99, 97, 109, 1, 0, 97, 1, 0, 55, 1, 0, 3, 0, 102, 112, 115, 7, 1]

theorem rust_implements_cpp_samplePatch :
    Rust.encode .patchRequest samplePatch = some samplePatchBytes ∧
      ConfigMessage.encodePayload .patchRequest (Rust.toCpp .patchRequest samplePatch) =
        samplePatchBytes ∧
      Rust.decode .patchRequest samplePatchBytes = some samplePatch := by
  obtain ⟨hwrites, hsame, hreads⟩ := rust_implements_cpp .patchRequest
  have hencode : Rust.encode .patchRequest samplePatch = some samplePatchBytes := by
    decide
  have hdecode : ConfigMessage.decodePayload .patchRequest samplePatchBytes =
      some (Rust.toCpp .patchRequest samplePatch) := by rfl
  have htexts : ConfigMessage.texts .patchRequest (Rust.toCpp .patchRequest samplePatch) =
      [Utf8.encode ['c', 'a', 'm'], Utf8.encode ['a'], Utf8.encode ['7'],
        Utf8.encode ['f', 'p', 's']] := by rfl
  refine ⟨hencode, hwrites _ _ hencode, (hreads _ fun value hvalue => ?_).trans ?_⟩
  · obtain rfl := Option.some.inj (hdecode.symm.trans hvalue)
    rw [htexts]
    simp [Utf8.valid_encode]
  · rw [hdecode]
    exact congrArg some (hsame samplePatch)

end YunLink
