import YunLink.Discovery.RoundTrip
import YunLink.Lib.Hashing

/-!
# The tag of a datagram

`auth_tag` folds the secret into a word and goes on with the bytes of the datagram.  Each pass
mixes one byte into the word and multiplies it by an odd number, and both can be undone.  So
whoever has seen one datagram with its tag can go back to the word that the secret left, and
from there on to the tag of any other datagram.

## Main definitions

* `Discovery.rewind` — the word that the secret left.
* `Discovery.forge` — the tag of another datagram.
* `Discovery.Hidden`, `Discovery.TagHidden` — no function makes the tag of one datagram of the
  tag of another.

## Main results

* `Discovery.rewind_authTag` — **the passes of `auth_tag` are undone.**
* `Discovery.forgeDatagram_writeReply` — whoever has seen a datagram can write any reply.
* `Discovery.tag_given_away` — **the tag of any datagram gives away those of all others.**
-/

namespace YunLink.Discovery

/-! ### Back to the secret -/

/-- The inverse of the prime modulo `2 ^ 64`. -/
def kFnvInverse : UInt64 := 14886173955864302971

/-- A pass of `auth_tag`, undone. -/
def fnvUndo (value : UInt64) (byte : UInt8) : UInt64 := value * kFnvInverse ^^^ byte.toUInt64

theorem kFnvPrime_mul_kFnvInverse : kFnvPrime * kFnvInverse = 1 := by decide

/-- **A pass can be undone**: the multiplication, since the prime is odd, and then the mixing. -/
theorem fnvUndo_fnvStep (value : UInt64) (byte : UInt8) :
    fnvUndo (fnvStep value byte) byte = value := by
  rw [fnvUndo, fnvStep, UInt64.mul_assoc, kFnvPrime_mul_kFnvInverse, UInt64.mul_one,
    UInt64.xor_assoc, UInt64.xor_self, UInt64.xor_zero]

/-- The word that the secret left, from a datagram and its tag. -/
def rewind (data : Bytes) (tag : UInt64) : UInt64 :=
  data.foldr (fun byte value => fnvUndo value byte) tag

/-- **From the tag of a datagram back to the word that the secret left.** -/
theorem rewind_authTag (secret : Text) (data : Bytes) :
    rewind data (authTag secret data) = secret.foldl fnvStep kFnvOffset :=
  Hashing.foldr_undo_foldl fnvUndo_fnvStep data _

/-! ### On to another datagram -/

/-- The tag of `other`, from the tag of `data`. -/
def forge (data : Bytes) (tag : UInt64) (other : Bytes) : UInt64 :=
  other.foldl fnvStep (rewind data tag)

theorem forge_authTag (secret : Text) (data other : Bytes) :
    forge data (authTag secret data) other = authTag secret other := by
  rw [forge, rewind_authTag, authTag]

/-- A datagram with this payload, from one that was observed. -/
def forgeDatagram (observed payload : Bytes) : Bytes :=
  payload ++ bigEndian64
    (forge (observed.take (observed.length - 8)) (suppliedTag observed) payload)

/-- The tag that an authenticated datagram supplies is the one of its payload. -/
theorem suppliedTag_of_authenticated {observed : Bytes} {secret : Text}
    (h : authenticated observed secret = true) :
    suppliedTag observed = authTag secret (observed.take (observed.length - 8)) := by
  unfold authenticated at h
  split at h
  · exact absurd h Bool.false_ne_true
  · exact beq_iff_eq.mp h

/-- What is forged is what the owner of the secret would have sent. -/
theorem forgeDatagram_of_authenticated {observed : Bytes} {secret : Text}
    (h : authenticated observed secret = true) (payload : Bytes) :
    forgeDatagram observed payload = payload ++ bigEndian64 (authTag secret payload) := by
  rw [forgeDatagram, suppliedTag_of_authenticated h, forge_authTag]

/-- **Whoever has seen a datagram can write any reply.** -/
theorem forgeDatagram_writeReply {observed : Bytes} {secret : Text} {query : DiscoveryQuery}
    {advertisement : DiscoveryAdvertisement} (h : authenticated observed secret = true)
    (hreply : encodeDiscoveryReply query advertisement secret ≠ []) :
    forgeDatagram observed (writeReply query advertisement).data =
      encodeDiscoveryReply query advertisement secret := by
  unfold encodeDiscoveryReply at hreply ⊢
  split at hreply
  · exact absurd rfl hreply
  next hchecked =>
  rw [if_neg hchecked, (finish_of_ne_nil hreply).2.2, forgeDatagram_of_authenticated h]

/-! ### The tag is not hidden -/

/-- No function makes the tag of `other` of the tag of `data`, whatever the secret is. -/
def Hidden (data other : Bytes) : Prop :=
  ¬ ∃ forge : UInt64 → UInt64, ∀ secret, forge (authTag secret data) = authTag secret other

/-- No function makes the tag of a datagram of another datagram and its tag. -/
def TagHidden : Prop :=
  ¬ ∃ forge : Bytes → UInt64 → Bytes → UInt64, ∀ (secret : Text) (data other : Bytes),
    forge data (authTag secret data) other = authTag secret other

/-- **The tag of any datagram gives away the tag of any other.**  For no two datagrams is the
tag of the one hidden from who has seen the other, and what is forged from an authenticated
datagram is authenticated. -/
theorem tag_given_away (data other : Bytes) (secret : Text) (observed payload : Bytes) :
    ¬ Hidden data other ∧ (authenticated observed secret = true →
      authenticated (forgeDatagram observed payload) secret = true) := by
  constructor
  · intro hhidden
    exact hhidden ⟨fun tag => forge data tag other, fun secret => forge_authTag secret data other⟩
  · intro h
    rw [forgeDatagram_of_authenticated h]
    exact authenticated_append payload secret

/-- The query of the test, sent with the secret `test-secret`. -/
def observedQuery : Bytes :=
  [0x59, 0x4c, 0x51, 0x32, 0, 0, 0, 0, 0, 0, 0, 0x2a, 0, 0xfa,
    0x3b, 0x90, 0xce, 0xfe, 0x7c, 0x41, 0x5a, 0x06]

/-- The query of the test gives away the tag of its own magic alone. -/
theorem tag_given_away_observedQuery :
    authenticated (forgeDatagram observedQuery kQueryMagicV4) (ascii "test-secret") = true :=
  (tag_given_away [] [] _ _ _).2 (by decide)

/-- There is a function that forges tags. -/
theorem authTag_not_tagHidden : ¬ TagHidden :=
  not_not_intro ⟨forge, forge_authTag⟩

end YunLink.Discovery
