import YunLink.Discovery.Replies

/-!
# The multicast memberships of the advertiser

The advertiser tells its event handler of each interface on which it joins the multicast
group, leaves it, or fails to join it, and when there is no interface at all.  A handler
that keeps what it was last told of each interface knows the memberships: it has been told
of exactly the joined interfaces that they are joined, and of each one that is not joined
now that joining it failed.

Each report is news to it.  An interface that could not be joined goes without a report;
when it comes back and still cannot be joined, that is reported again.  So with each report
goes the set of the interfaces the advertiser had an entry for, and the failure of one of
them is news only when the handler had not been told of it.

The report that there is no interface is a failure to join on the address `0.0.0.0` with a
text of the advertiser's own.  The host must not use that text for a failure on an
interface with that address.

## Main definitions

* `Advertiser.Handler`, `Advertiser.observe` — the handler, and what it makes of a report.
* `Advertiser.News` — a report that says something new.
* `Advertiser.Knows` — what the handler knows of the advertiser.

## Main results

* `Address.toText_injective` — an address can be told from its text.
* `Advertiser.memberships_observed` — **the handler knows the memberships.**
-/

namespace YunLink.Discovery

open Reactive

/-! ### Texts of addresses -/

namespace Address

/-- The number that decimal digits stand for. -/
def ofDigits (text : Text) : ℕ := text.foldl (fun value digit => value * 10 + (digit.toNat - 48)) 0

theorem ofDigits_octetText (octet : UInt8) : ofDigits (octetText octet) = octet.toNat := by
  have hall : ∀ n : Fin 256, ofDigits ((Nat.toDigits 10 n.val).map fun digit =>
      UInt8.ofNat digit.toNat) = n.val := by decide +kernel
  exact hall ⟨octet.toNat, octet.toNat_lt⟩

theorem dot_notMem_octetText (octet : UInt8) : '.'.toUInt8 ∉ octetText octet := by
  have hall : ∀ n : Fin 256, '.'.toUInt8 ∉ (Nat.toDigits 10 n.val).map fun digit =>
      UInt8.ofNat digit.toNat := by decide +kernel
  exact hall ⟨octet.toNat, octet.toNat_lt⟩

theorem octetText_injective {a b : UInt8} (h : octetText a = octetText b) : a = b :=
  UInt8.toNat_inj.mp (by rw [← ofDigits_octetText a, h, ofDigits_octetText])

theorem takeWhile_octetText (octet : UInt8) (rest : Text) :
    (octetText octet ++ '.'.toUInt8 :: rest).takeWhile (· != '.'.toUInt8) = octetText octet := by
  have hdigits : ∀ c ∈ octetText octet, (c != '.'.toUInt8) = true := by
    intro c hc
    rw [bne_iff_ne]
    rintro rfl
    exact dot_notMem_octetText octet hc
  rw [List.takeWhile_append_of_pos hdigits, List.takeWhile_cons, bne_self_eq_false,
    if_neg Bool.false_ne_true, List.append_nil]

/-- What stands in front of the first dot and what stands behind it. -/
theorem dotted_inj {first first' : UInt8} {rest rest' : Text}
    (h : octetText first ++ '.'.toUInt8 :: rest = octetText first' ++ '.'.toUInt8 :: rest') :
    first = first' ∧ rest = rest' := by
  have hfirst := congrArg (List.takeWhile (· != '.'.toUInt8)) h
  rw [takeWhile_octetText, takeWhile_octetText] at hfirst
  refine ⟨octetText_injective hfirst, ?_⟩
  rw [hfirst] at h
  exact (List.cons.inj (List.append_cancel_left h)).2

theorem toNat_octet (shift : UInt32) (address : Address) :
    (address.octet shift).toNat = address.value.toNat / 2 ^ (shift.toNat % 32) % 256 := by
  rw [octet, UInt32.toNat_toUInt8, UInt32.toNat_shiftRight, Nat.shiftRight_eq_div_pow]

/-- The octets of an address make it up. -/
theorem octets_injective {a b : Address} (h24 : a.octet 24 = b.octet 24)
    (h16 : a.octet 16 = b.octet 16) (h8 : a.octet 8 = b.octet 8) (h0 : a.octet 0 = b.octet 0) :
    a = b := by
  have toNat : ∀ {shift : UInt32}, a.octet shift = b.octet shift →
      a.value.toNat / 2 ^ (shift.toNat % 32) % 256 =
        b.value.toNat / 2 ^ (shift.toNat % 32) % 256 := by
    intro shift h
    rw [← toNat_octet, h, toNat_octet]
  have h24' : a.value.toNat / 2 ^ 24 % 256 = b.value.toNat / 2 ^ 24 % 256 := toNat h24
  have h16' : a.value.toNat / 2 ^ 16 % 256 = b.value.toNat / 2 ^ 16 % 256 := toNat h16
  have h8' : a.value.toNat / 2 ^ 8 % 256 = b.value.toNat / 2 ^ 8 % 256 := toNat h8
  have h0' : a.value.toNat / 2 ^ 0 % 256 = b.value.toNat / 2 ^ 0 % 256 := toNat h0
  have ha := a.value.toNat_lt
  have hb := b.value.toNat_lt
  have hvalue : a.value = b.value := UInt32.toNat_inj.mp (by omega)
  cases a
  cases b
  exact congrArg mk hvalue

/-- **An address can be told from its text.** -/
theorem toText_injective {a b : Address} (h : a.toText = b.toText) : a = b := by
  simp only [toText, List.append_assoc, List.cons_append] at h
  obtain ⟨h24, h⟩ := dotted_inj h
  obtain ⟨h16, h⟩ := dotted_inj h
  obtain ⟨h8, h0⟩ := dotted_inj h
  exact octets_injective h24 h16 h8 (octetText_injective h0)

end Address

/-! ### Interfaces -/

theorem mem_destutter' {α : Type} [DecidableEq α] {a b : α} {l : List α} :
    b ∈ l.destutter' (· ≠ ·) a ↔ b = a ∨ b ∈ l := by
  induction l generalizing a with
  | nil => simp
  | cons c rest ih =>
    by_cases h : a ≠ c
    · rw [List.destutter'_cons_pos _ h, List.mem_cons, ih, List.mem_cons]
    · rw [List.destutter'_cons_neg _ h, ih, List.mem_cons, not_ne_iff.mp h]
      simp

/-- The interfaces are those of the entries that are kept. -/
theorem mem_multicastInterfaces {network : Network} {address : Address} :
    address ∈ multicastInterfaces network ↔
      ∃ entries entry, network.interfaces = some entries ∧ entry ∈ entries ∧
        entry.keep = some address := by
  unfold multicastInterfaces
  cases network.interfaces with
  | none => simp
  | some entries =>
    have hkept : address ∈ (entries.filterMap InterfaceEntry.keep).insertionSort (· ≤ ·) ↔
        ∃ entry ∈ entries, entry.keep = some address := by
      rw [List.mem_insertionSort, List.mem_filterMap]
    have hsame : address ∈ ((entries.filterMap InterfaceEntry.keep).insertionSort
        (· ≤ ·)).destutter (· ≠ ·) ↔
        address ∈ (entries.filterMap InterfaceEntry.keep).insertionSort (· ≤ ·) := by
      cases (entries.filterMap InterfaceEntry.keep).insertionSort (· ≤ ·) with
      | nil => exact Iff.rfl
      | cons first rest => exact mem_destutter'.trans List.mem_cons.symm
    rw [hsame, hkept]
    constructor
    · rintro ⟨entry, hmem, hkeep⟩
      exact ⟨entries, entry, rfl, hmem, hkeep⟩
    · rintro ⟨_, entry, heq, hmem, hkeep⟩
      cases heq
      exact ⟨entry, hmem, hkeep⟩

/-- The message of a join that has failed. -/
def JoinResult.message : JoinResult → Option Text
  | .joined => none
  | .addressInUse message => some message
  | .failed message => some message

/-- The host does not use the text that the advertiser has for no interface at all. -/
def Network.Plain (network : Network) : Prop :=
  (network.joinGroup .any).message ≠ some Advertiser.noInterface

/-- Wherever the action makes a pass, the host keeps to its own texts. -/
def Action.Plain : Action → Prop
  | .firstRefresh network => network.Plain
  | .turn (some network) => network.Plain
  | _ => True

namespace Advertiser

/-! ### The handler -/

/-- What the handler was last told. -/
structure Handler where
  /-- Of the interface with this address: that it is joined, that joining it failed, or
  nothing. -/
  told : Text → Option Bool := fun _ => none
  /-- That there is no interface. -/
  missing : Bool := false

/-- An output, with the interfaces there was an entry for in front of the action. -/
structure Report where
  known : Set Address
  output : Output

/-- The report that there is no interface. -/
def missingReport : DiscoveryAdvertiserEvent :=
  eventOf .multicastJoinFailed ⟨.any, 0⟩ .internal noInterface

/-- The handler is told that an interface is joined, or that joining it failed. -/
def Handler.hear (handler : Handler) (address : Text) (joined : Bool) : Handler where
  told := Function.update handler.told address (some joined)
  missing := false

/-- The handler is told that an interface is gone. -/
def Handler.forget (handler : Handler) (address : Text) : Handler :=
  { handler with told := Function.update handler.told address none }

/-- What the handler makes of a report. -/
def observe (handler : Handler) (report : Report) : Handler :=
  match report.output with
  | .event event =>
      if event = missingReport then { handler with missing := true }
      else
        match event.kind with
        | .multicastJoined => handler.hear event.remoteIp true
        | .multicastJoinFailed => handler.hear event.remoteIp false
        | .multicastLeft => handler.forget event.remoteIp
        | _ => handler
  | _ => handler

/-- A report that says something new. -/
def News (handler : Handler) (report : Report) : Prop :=
  match report.output with
  | .event event =>
      if event = missingReport then handler.missing = false
      else
        match event.kind with
        | .multicastJoined => handler.told event.remoteIp ≠ some true
        | .multicastJoinFailed => handler.told event.remoteIp ≠ some false ∨
            ∀ address ∈ report.known, address.toText ≠ event.remoteIp
        | .multicastLeft => handler.told event.remoteIp = some true
        | _ => True
  | _ => True

/-- What the handler was told agrees with the memberships. -/
structure Agrees (memberships : SortedMap Address Bool) (told : Text → Option Bool) : Prop where
  /-- It was told of each interface as it is. -/
  current : ∀ address value, memberships.find? address = some value →
    told address.toText = some value
  /-- What it was told is joined, is joined. -/
  joined : ∀ text, told text = some true →
    ∃ address, memberships.find? address = some true ∧ address.toText = text

/-- What a handler who was told that there is no interface knows of the memberships. -/
def Absent (memberships : SortedMap Address Bool) (missing : Bool) : Prop :=
  missing = true → ∀ address, memberships.find? address = none

/-- The reports that the events of one pass make. -/
def reported (known : Set Address) (events : List DiscoveryAdvertiserEvent) : List Report :=
  events.map fun event => ⟨known, .event event⟩

/-- What a handler takes from the events of a pass: all of them are news, and in the end
what it was told agrees with the memberships. -/
structure Informs (known : Set Address) (handler : Handler)
    (events : List DiscoveryAdvertiserEvent) (memberships : SortedMap Address Bool) : Prop where
  news : Run.Along observe News handler (reported known events)
  agrees : Agrees memberships ((reported known events).foldl observe handler).told
  absent : Absent memberships ((reported known events).foldl observe handler).missing

theorem Informs.append {known : Set Address} {handler : Handler}
    {first second : List DiscoveryAdvertiserEvent} {middle last : SortedMap Address Bool}
    (hfirst : Informs known handler first middle)
    (hsecond : ∀ handler, Agrees middle handler.told → Absent middle handler.missing →
      Informs known handler second last) : Informs known handler (first ++ second) last := by
  have hlater := hsecond _ hfirst.agrees hfirst.absent
  have hreported : reported known (first ++ second) =
      reported known first ++ reported known second := List.map_append
  refine ⟨?_, ?_, ?_⟩
  · rw [hreported, Run.along_append]
    exact ⟨hfirst.news, hlater.news⟩
  · rw [hreported, List.foldl_append]
    exact hlater.agrees
  · rw [hreported, List.foldl_append]
    exact hlater.absent

theorem informs_nil {known : Set Address} {handler : Handler}
    {memberships : SortedMap Address Bool} (hagrees : Agrees memberships handler.told)
    (habsent : Absent memberships handler.missing) : Informs known handler [] memberships :=
  ⟨trivial, hagrees, habsent⟩

/-- The handler hears how an interface is now. -/
theorem Agrees.insert {memberships : SortedMap Address Bool} {told : Text → Option Bool}
    (h : Agrees memberships told) (address : Address) (value : Bool) :
    Agrees (memberships.insert address value)
      (Function.update told address.toText (some value)) := by
  constructor
  · intro other was hfind
    rw [SortedMap.find?_insert] at hfind
    split at hfind
    · next hsame => rw [hsame, Function.update_self, hfind]
    · next hother =>
      rw [Function.update_of_ne fun hsame => hother (Address.toText_injective hsame)]
      exact h.current other was hfind
  · intro text htold
    by_cases htext : text = address.toText
    · rw [htext, Function.update_self] at htold
      exact ⟨address, by simpa using htold, htext.symm⟩
    · rw [Function.update_of_ne htext] at htold
      obtain ⟨other, hfind, rfl⟩ := h.joined text htold
      refine ⟨other, ?_, rfl⟩
      rwa [SortedMap.find?_insert, if_neg fun hsame => htext (by rw [hsame])]

/-- An entry that is put down as it was changes nothing. -/
theorem Agrees.insert_same {memberships : SortedMap Address Bool} {told : Text → Option Bool}
    (h : Agrees memberships told) {address : Address} {value : Bool}
    (hfind : memberships.find? address = some value) :
    Agrees (memberships.insert address value) told := by
  have hsame : memberships.insert address value = memberships := by
    refine SortedMap.ext_find? fun other => ?_
    rw [SortedMap.find?_insert]
    split
    · next hother => rw [hother, hfind]
    · rfl
  rwa [hsame]

theorem informs_joined {known : Set Address} {handler : Handler}
    {memberships : SortedMap Address Bool} {address : Address}
    (hagrees : Agrees memberships handler.told)
    (hnews : handler.told address.toText ≠ some true) :
    Informs known handler [eventOf .multicastJoined ⟨address, 0⟩ .ok]
      (memberships.insert address true) :=
  ⟨⟨hnews, trivial⟩, hagrees.insert address true, nofun⟩

theorem informs_failed {known : Set Address} {handler : Handler}
    {memberships : SortedMap Address Bool} {address : Address} {detail : Text}
    (hagrees : Agrees memberships handler.told)
    (hdetail : address = .any → detail ≠ noInterface)
    (hnews : handler.told address.toText ≠ some false ∨ address ∉ known) :
    Informs known handler [eventOf .multicastJoinFailed ⟨address, 0⟩ .internal detail]
      (memberships.insert address false) := by
  have hother : eventOf .multicastJoinFailed ⟨address, 0⟩ .internal detail ≠ missingReport := by
    intro hsame
    exact hdetail (Address.toText_injective (congrArg DiscoveryAdvertiserEvent.remoteIp hsame))
      (congrArg DiscoveryAdvertiserEvent.detail hsame)
  have hheard : (reported known [eventOf .multicastJoinFailed ⟨address, 0⟩ .internal
      detail]).foldl observe handler = handler.hear address.toText false := if_neg hother
  refine ⟨⟨?_, trivial⟩, ?_, ?_⟩
  · simp only [News]
    rw [if_neg hother]
    refine hnews.imp_right fun hmem other hknown hsame => hmem ?_
    have hother : other = address := Address.toText_injective hsame
    rwa [hother] at hknown
  · rw [hheard]
    exact hagrees.insert address false
  · rw [hheard]
    exact nofun

/-- **Joining one interface informs the handler.** -/
theorem informs_join {known : Set Address} {handler : Handler} {result : JoinResult}
    {address : Address} {memberships : SortedMap Address Bool}
    (hagrees : Agrees memberships handler.told) (habsent : Absent memberships handler.missing)
    (hknown : memberships.find? address = none → address ∉ known)
    (hplain : address = .any → result.message ≠ some noInterface) :
    Informs known handler (join result address memberships).2
      (join result address memberships).1 := by
  -- A handler who knows of an interface has not been told that there is none.
  have hkept : ∀ {was value : Bool}, memberships.find? address = some was →
      Absent (memberships.insert address value) handler.missing := by
    intro was value hfind hmissing
    have hnone := habsent hmissing address
    rw [hfind] at hnone
    cases hnone
  have hfailed : ∀ {message}, result.message = some message → address = .any →
      message ≠ noInterface := by
    rintro message hmessage hany rfl
    exact hplain hany hmessage
  have hjoin : memberships.find? address ≠ some true →
      handler.told address.toText ≠ some true := by
    intro hne htold
    obtain ⟨other, hfind, hsame⟩ := hagrees.joined _ htold
    rw [Address.toText_injective hsame] at hfind
    exact hne hfind
  have hfail : memberships.find? address ≠ some false →
      handler.told address.toText ≠ some false ∨ address ∉ known := by
    intro hne
    cases hfind : memberships.find? address with
    | none => exact Or.inr (hknown hfind)
    | some was =>
      left
      rw [hagrees.current address was hfind]
      rw [hfind] at hne
      exact hne
  cases hwas : memberships.find? address with
  | none =>
    rw [hwas] at hjoin hfail
    cases result with
    | joined =>
      simp only [join, hwas]
      exact informs_joined hagrees (hjoin nofun)
    | addressInUse message =>
      simp only [join, hwas]
      exact informs_failed hagrees (hfailed rfl) (hfail nofun)
    | failed message =>
      simp only [join, hwas]
      exact informs_failed hagrees (hfailed rfl) (hfail nofun)
  | some was =>
    rw [hwas] at hjoin hfail
    cases was with
    | true =>
      cases result with
      | joined =>
        simp only [join, hwas]
        exact informs_nil (hagrees.insert_same hwas) (hkept hwas)
      | addressInUse message =>
        simp only [join, hwas]
        exact informs_nil hagrees habsent
      | failed message =>
        simp only [join, hwas]
        exact informs_failed hagrees (hfailed rfl) (hfail (by simp))
    | false =>
      cases result with
      | joined =>
        simp only [join, hwas]
        exact informs_joined hagrees (hjoin (by simp))
      | addressInUse message =>
        simp only [join, hwas]
        exact informs_nil (hagrees.insert_same hwas) (hkept hwas)
      | failed message =>
        simp only [join, hwas]
        exact informs_nil (hagrees.insert_same hwas) (hkept hwas)

/-- Joining an interface makes an entry for it, and keeps the others. -/
theorem find?_join_isSome (result : JoinResult) (address : Address)
    (memberships : SortedMap Address Bool) (other : Address) :
    ((join result address memberships).1.find? other).isSome = true ↔
      other = address ∨ (memberships.find? other).isSome = true := by
  have hinsert : ∀ value : Bool, ((memberships.insert address value).find? other).isSome =
      true ↔ other = address ∨ (memberships.find? other).isSome = true := by
    intro value
    rw [SortedMap.find?_insert]
    split
    · next hsame => simp [hsame]
    · next hother => simp [hother]
  cases result with
  | joined => exact hinsert true
  | failed message => exact hinsert false
  | addressInUse message =>
    simp only [join]
    split
    · next hhealthy =>
      -- An interface that is joined has an entry.
      have hsome := beq_iff_eq.mp hhealthy
      constructor
      · exact Or.inr
      · rintro (rfl | hknown)
        · rw [hsome]
          rfl
        · exact hknown
    · exact hinsert false

theorem informs_joinAll {known : Set Address} {joinGroup : Address → JoinResult}
    (hplain : (joinGroup .any).message ≠ some noInterface) {interfaces : List Address}
    {handler : Handler} {memberships : SortedMap Address Bool}
    (hagrees : Agrees memberships handler.told) (habsent : Absent memberships handler.missing)
    (hknown : ∀ address ∈ interfaces, memberships.find? address = none → address ∉ known) :
    Informs known handler (joinAll joinGroup interfaces memberships).2
      (joinAll joinGroup interfaces memberships).1 := by
  induction interfaces generalizing handler memberships with
  | nil => exact informs_nil hagrees habsent
  | cons address rest ih =>
    obtain ⟨hhere, hlater⟩ := List.forall_mem_cons.mp hknown
    refine (informs_join hagrees habsent hhere (by rintro rfl; exact hplain)).append
      fun handler' hagrees' habsent' => ih hagrees' habsent' fun other hother hnone => ?_
    -- An interface without an entry had none before.
    refine hlater other hother (Option.eq_none_iff_forall_not_mem.mpr fun value hvalue => ?_)
    change (join (joinGroup address) address memberships).1.find? other = none at hnone
    have hkept := (find?_join_isSome (joinGroup address) address memberships other).mpr
      (Or.inr (by rw [hvalue]; rfl))
    rw [hnone] at hkept
    cases hkept

/-! ### Interfaces that are gone -/

/-- Leaving interfaces is news, where all of them had been joined; of those, and of no
others, the handler then knows nothing. -/
theorem along_left (known : Set Address) (gone : List (Address × Bool)) (handler : Handler)
    (hnodup : (gone.map Prod.fst).Nodup)
    (htold : ∀ entry ∈ gone, handler.told entry.1.toText = some true) :
    let reports := reported known (gone.map fun entry => eventOf .multicastLeft ⟨entry.1, 0⟩ .ok)
    Run.Along observe News handler reports ∧
      (reports.foldl observe handler).missing = handler.missing ∧
      (∀ entry ∈ gone, (reports.foldl observe handler).told entry.1.toText = none) ∧
      ∀ text, (∀ entry ∈ gone, entry.1.toText ≠ text) →
        (reports.foldl observe handler).told text = handler.told text := by
  induction gone generalizing handler with
  | nil =>
    refine ⟨trivial, rfl, fun entry hmem => ?_, fun text htext => rfl⟩
    cases hmem
  | cons entry rest ih =>
    obtain ⟨hhere, hlater⟩ := List.forall_mem_cons.mp htold
    rw [List.map_cons, List.nodup_cons] at hnodup
    have hother : ∀ other ∈ rest, other.1.toText ≠ entry.1.toText := by
      intro other hmem hsame
      refine hnodup.1 ?_
      rw [← Address.toText_injective hsame]
      exact List.mem_map_of_mem hmem
    have hrest : ∀ other ∈ rest,
        (handler.forget entry.1.toText).told other.1.toText = some true := by
      intro other hmem
      exact (Function.update_of_ne (hother other hmem) _ _).trans (hlater other hmem)
    obtain ⟨halong, hmissing, hgone, hkept⟩ := ih (handler.forget entry.1.toText) hnodup.2 hrest
    refine ⟨⟨hhere, halong⟩, hmissing, List.forall_mem_cons.mpr ⟨?_, hgone⟩, ?_⟩
    · exact (hkept _ hother).trans (Function.update_self _ _ _)
    · intro text htext
      obtain ⟨hne, hall⟩ := List.forall_mem_cons.mp htext
      exact (hkept text hall).trans (Function.update_of_ne hne.symm _ _)

/-- **Leaving the interfaces that are gone informs the handler.** -/
theorem informs_leaveGone {known : Set Address} {interfaces : List Address} {handler : Handler}
    {memberships : SortedMap Address Bool} (hagrees : Agrees memberships handler.told)
    (habsent : Absent (leaveGone interfaces memberships).1 handler.missing) :
    Informs known handler (leaveGone interfaces memberships).2
        (leaveGone interfaces memberships).1 ∧
      ((reported known (leaveGone interfaces memberships).2).foldl observe handler).missing =
        handler.missing := by
  have hmem : ∀ entry, entry ∈ memberships.entries.filter (fun entry =>
      !interfaces.contains entry.1 && entry.2) ↔
      entry ∈ memberships.entries ∧ entry.1 ∉ interfaces ∧ entry.2 = true := by
    intro entry
    simp
  obtain ⟨halong, hmissing, hgone, hkept⟩ := along_left known
    (memberships.entries.filter fun entry => !interfaces.contains entry.1 && entry.2) handler
    (memberships.nodup_keys.sublist ((List.filter_sublist).map Prod.fst)) (by
      rintro ⟨address, was⟩ hentry
      obtain ⟨hfind, -, hwas⟩ := (hmem _).mp hentry
      exact hagrees.current address true (SortedMap.mem_entries_iff.mp (hwas ▸ hfind)))
  refine ⟨⟨halong, ⟨?_, ?_⟩, ?_⟩, hmissing⟩
  · intro address value hfind
    obtain ⟨hfind, hin⟩ := SortedMap.find?_eraseIf_eq_some.mp hfind
    have hinterface : address ∈ interfaces := by simpa using hin
    refine (hkept _ fun entry hentry hsame => ?_).trans (hagrees.current address value hfind)
    rw [← Address.toText_injective hsame] at hinterface
    exact ((hmem entry).mp hentry).2.1 hinterface
  · intro text htold
    by_cases hout : ∀ entry ∈ memberships.entries.filter (fun entry =>
        !interfaces.contains entry.1 && entry.2), entry.1.toText ≠ text
    · obtain ⟨address, hfind, rfl⟩ := hagrees.joined text ((hkept text hout).symm.trans htold)
      refine ⟨address, SortedMap.find?_eraseIf_eq_some.mpr ⟨hfind, ?_⟩, rfl⟩
      by_contra hcontains
      refine hout (address, true)
        ((hmem _).mpr ⟨SortedMap.mem_entries_iff.mpr hfind, ?_, rfl⟩) rfl
      simpa using hcontains
    · push Not at hout
      obtain ⟨entry, hentry, rfl⟩ := hout
      cases (hgone entry hentry).symm.trans htold
  · exact fun h => habsent (hmissing.symm.trans h)

/-! ### A pass over the interfaces -/

/-- What the handler knows of the advertiser. -/
structure Knows (impl : Advertiser) (handler : Handler) : Prop where
  agrees : Agrees impl.multicastMemberships handler.told
  absent : Absent impl.multicastMemberships handler.missing
  missing : handler.missing = impl.reportedMissingMulticastInterface

/-- The interfaces there is an entry for. -/
def known (impl : Advertiser) : Set Address :=
  {address | (impl.multicastMemberships.find? address).isSome = true}

theorem find?_joinAll_isSome (joinGroup : Address → JoinResult) (interfaces : List Address)
    (memberships : SortedMap Address Bool) (address : Address) :
    ((joinAll joinGroup interfaces memberships).1.find? address).isSome = true ↔
      address ∈ interfaces ∨ (memberships.find? address).isSome = true := by
  induction interfaces generalizing memberships with
  | nil => simp [joinAll]
  | cons first rest ih =>
    rw [joinAll]
    show ((joinAll joinGroup rest _).1.find? address).isSome = true ↔ _
    rw [ih, find?_join_isSome, List.mem_cons]
    tauto

/-- **After a pass there is an entry for each interface, and no other.** -/
theorem known_refreshMulticast (network : Network) (impl : Advertiser) :
    (impl.refreshMulticast network).1.known =
      {address | address ∈ multicastInterfaces network} := by
  ext address
  show ((joinAll network.joinGroup (multicastInterfaces network) _).1.find? address).isSome =
    true ↔ address ∈ multicastInterfaces network
  rw [find?_joinAll_isSome]
  constructor
  · rintro (hmem | hkept)
    · exact hmem
    · obtain ⟨value, hvalue⟩ := Option.isSome_iff_exists.mp hkept
      have hin := (SortedMap.find?_eraseIf_eq_some.mp hvalue).2
      simpa using hin
  · exact Or.inl

/-- **A pass over the interfaces informs the handler.** -/
theorem informs_refreshMulticast {network : Network} (hplain : network.Plain)
    {impl : Advertiser} {handler : Handler} (h : Knows impl handler)
    (hhandler : impl.eventHandler = true) :
    let reports := (impl.refreshMulticast network).2.map (Report.mk impl.known)
    Run.Along observe News handler reports ∧
      Knows (impl.refreshMulticast network).1 (reports.foldl observe handler) := by
  obtain ⟨hagrees, habsent, hmissing⟩ := h
  have hreports : (impl.refreshMulticast network).2.map (Report.mk impl.known) =
      reported impl.known ((reportMissing (multicastInterfaces network)
          impl.reportedMissingMulticastInterface).2 ++
        (leaveGone (multicastInterfaces network) impl.multicastMemberships).2 ++
        (joinAll network.joinGroup (multicastInterfaces network)
          (leaveGone (multicastInterfaces network) impl.multicastMemberships).1).2) := by
    unfold refreshMulticast emit
    dsimp only
    rw [if_pos hhandler, List.map_map]
    rfl
  dsimp only
  rw [hreports]
  cases hinterfaces : multicastInterfaces network with
  | nil =>
    have hempty : ∀ address, (leaveGone [] impl.multicastMemberships).1.find? address = none := by
      intro address
      simp [leaveGone]
    have hflag : (impl.refreshMulticast network).1.reportedMissingMulticastInterface = true := by
      simp only [refreshMulticast, hinterfaces]
      cases hreported : impl.reportedMissingMulticastInterface <;> simp [reportMissing]
    have hmemberships : (impl.refreshMulticast network).1.multicastMemberships =
        (leaveGone [] impl.multicastMemberships).1 := by
      simp only [refreshMulticast, hinterfaces, joinAll]
    simp only [joinAll, List.append_nil]
    cases hreported : impl.reportedMissingMulticastInterface with
    | false =>
      rw [hreported] at hmissing
      obtain ⟨hleft, hsame⟩ := @informs_leaveGone impl.known [] { handler with missing := true }
        impl.multicastMemberships hagrees fun _ => hempty
      exact ⟨⟨hmissing, hleft.news⟩, by rw [hmemberships]; exact hleft.agrees,
        by rw [hmemberships]; exact hleft.absent, by rw [hflag]; exact hsame⟩
    | true =>
      rw [hreported] at hmissing
      obtain ⟨hleft, hsame⟩ := @informs_leaveGone impl.known [] handler
        impl.multicastMemberships hagrees fun _ => hempty
      exact ⟨hleft.news, by rw [hmemberships]; exact hleft.agrees,
        by rw [hmemberships]; exact hleft.absent, by rw [hflag]; exact hsame.trans hmissing⟩
  | cons first rest =>
    have hnone : ∀ flag, (reportMissing (first :: rest) flag).2 = [] ∧
        (reportMissing (first :: rest) flag).1 = false := by
      intro flag
      simp [reportMissing]
    have hinforms : Informs impl.known handler
        ((leaveGone (first :: rest) impl.multicastMemberships).2 ++
          (joinAll network.joinGroup (first :: rest)
            (leaveGone (first :: rest) impl.multicastMemberships).1).2)
        (impl.refreshMulticast network).1.multicastMemberships := by
      simp only [refreshMulticast, hinterfaces]
      refine (informs_leaveGone hagrees ?_).1.append fun handler' hagrees' habsent' =>
        informs_joinAll hplain hagrees' habsent' ?_
      · intro hmissing address
        simp [leaveGone, habsent hmissing address]
      · intro address hmem hfind hknown
        -- An interface that is there keeps its entry.
        obtain ⟨value, hvalue⟩ := Option.isSome_iff_exists.mp hknown
        have hkept : (leaveGone (first :: rest) impl.multicastMemberships).1.find? address =
            some value := SortedMap.find?_eraseIf_eq_some.mpr
          ⟨hvalue, by rw [List.contains_iff_mem.mpr hmem, Bool.not_true]⟩
        rw [hkept] at hfind
        cases hfind
    rw [(hnone _).1, List.nil_append]
    refine ⟨hinforms.news, hinforms.agrees, hinforms.absent, ?_⟩
    have hflag : (impl.refreshMulticast network).1.reportedMissingMulticastInterface = false := by
      simp only [refreshMulticast, hinterfaces]
      exact (hnone _).2
    rw [hflag, Bool.eq_false_iff]
    intro hmissing
    -- The first interface has an entry now.
    have hentry : first ∈ (impl.refreshMulticast network).1.known := by
      rw [known_refreshMulticast, hinterfaces]
      exact List.mem_cons_self
    have hsome : ((impl.refreshMulticast network).1.multicastMemberships.find? first).isSome =
        true := hentry
    rw [hinforms.absent hmissing first] at hsome
    cases hsome

/-- An output that says nothing about memberships. -/
def Quiet : Output → Prop
  | .event event =>
      event.kind ≠ .multicastJoined ∧ event.kind ≠ .multicastLeft ∧
        event.kind ≠ .multicastJoinFailed
  | _ => True

theorem observe_quiet {handler : Handler} {report : Report} (h : Quiet report.output) :
    News handler report ∧ observe handler report = handler := by
  obtain ⟨known, output⟩ := report
  cases output with
  | event event =>
    have hother : event ≠ missingReport := by
      rintro rfl
      exact h.2.2 rfl
    simp only [News, observe]
    rw [if_neg hother, if_neg hother]
    obtain ⟨kind, remoteIp, remotePort, error, detail⟩ := event
    cases kind with
    | multicastJoined => exact absurd rfl h.1
    | multicastLeft => exact absurd rfl h.2.1
    | multicastJoinFailed => exact absurd rfl h.2.2
    | _ => exact ⟨trivial, rfl⟩
  | _ => exact ⟨trivial, rfl⟩

theorem observe_quiets {known : Set Address} {handler : Handler} {outputs : List Output}
    (h : ∀ output ∈ outputs, Quiet output) :
    Run.Along observe News handler (outputs.map (Report.mk known)) ∧
      (outputs.map (Report.mk known)).foldl observe handler = handler := by
  induction outputs generalizing handler with
  | nil => exact ⟨trivial, rfl⟩
  | cons output rest ih =>
    obtain ⟨hhere, hlater⟩ := List.forall_mem_cons.mp h
    obtain ⟨hnews, hsame⟩ := @observe_quiet handler ⟨known, output⟩ hhere
    obtain ⟨halong, hfold⟩ := @ih handler hlater
    rw [List.map_cons, Run.Along, List.foldl_cons, hsame]
    exact ⟨⟨hnews, halong⟩, hfold⟩

theorem quiet_emit (impl : Advertiser) {event : DiscoveryAdvertiserEvent}
    (kind : DiscoveryAdvertiserEventKind) (hkind : event.kind = kind)
    (h : kind ≠ .multicastJoined ∧ kind ≠ .multicastLeft ∧ kind ≠ .multicastJoinFailed) :
    ∀ output ∈ impl.emit [event], Quiet output := by
  intro output houtput
  unfold emit at houtput
  split at houtput
  · rw [List.mem_singleton.mp houtput]
    rw [← hkind] at h
    exact h
  · cases houtput

/-- The pass over the interfaces that an action makes. -/
def pass (impl : Advertiser) : Action → List Network
  | .firstRefresh network =>
      match impl.thread with
      | .starting => [network]
      | _ => []
  | .turn (some network) =>
      match impl.thread with
      | .looping => if impl.running then [network] else []
      | _ => []
  | _ => []

/-- **An action makes a pass, or leaves the memberships alone.** -/
theorem pass_step {impl : Advertiser} (h : impl.thread ≠ .absent) {action : Action}
    (haction : action ≠ .stopped) :
    (∃ network thread, impl.pass action = [network] ∧
      impl.step action = { impl with thread }.refreshMulticast network) ∨
    (impl.pass action = [] ∧
      (impl.step action).1.multicastMemberships = impl.multicastMemberships ∧
      (impl.step action).1.reportedMissingMulticastInterface =
        impl.reportedMissingMulticastInterface ∧
      (impl.step action).1.eventHandler = impl.eventHandler ∧
      ∀ output ∈ (impl.step action).2, Quiet output) := by
  cases action with
  | stopped => exact absurd rfl haction
  | firstRefresh network =>
    cases hthread : impl.thread with
    | starting => exact Or.inl ⟨network, .looping, by simp [pass, hthread], by simp [step, hthread]⟩
    | _ => exact Or.inr (by simp [pass, step, hthread])
  | turn refresh =>
    cases hthread : impl.thread with
    | looping =>
      cases hrunning : impl.running with
      | false => exact Or.inr (by cases refresh <;> simp [pass, step, hthread, hrunning])
      | true =>
        cases refresh with
        | none => exact Or.inr (by simp [pass, step, hthread, hrunning])
        | some network =>
          exact Or.inl ⟨network, .receiving, by simp [pass, hthread, hrunning],
            by simp [step, hthread, hrunning]⟩
    | _ => exact Or.inr (by cases refresh <;> simp [pass, step, hthread])
  | start =>
    cases hthread : impl.thread with
    | absent => exact absurd hthread h
    | _ =>
      refine Or.inr ⟨rfl, by simp [step, hthread], by simp [step, hthread],
        by simp [step, hthread], ?_⟩
      simp only [step, hthread]
      intro output houtput
      split at houtput
      · rw [List.mem_singleton.mp houtput]
        trivial
      · cases houtput
  | datagram remote bytes =>
    cases hthread : impl.thread with
    | receiving =>
      have hstep : impl.step (.datagram remote bytes) = impl.receive remote bytes := by
        simp only [step, hthread]
      rw [hstep]
      unfold receive
      dsimp only
      split
      · exact Or.inr ⟨rfl, rfl, rfl, rfl, quiet_emit impl .rejected rfl (by decide)⟩
      · exact Or.inr ⟨rfl, rfl, rfl, rfl, quiet_emit impl .queryReceived rfl (by decide)⟩
    | _ => exact Or.inr (by simp [pass, step, hthread])
  | receiveError remote =>
    cases hthread : impl.thread with
    | receiving =>
      simp only [step, hthread]
      refine Or.inr ⟨rfl, trivial, trivial, trivial, ?_⟩
      split
      · exact quiet_emit impl .receiveError rfl (by decide)
      · exact List.forall_mem_nil _
    | _ => exact Or.inr (by simp [pass, step, hthread])
  | send error =>
    cases hthread : impl.thread with
    | replying remote query advertisement =>
      simp only [step, hthread, sendReply]
      refine Or.inr ⟨rfl, trivial, trivial, trivial, ?_⟩
      split
      · exact quiet_emit impl .sendError rfl (by decide)
      · split
        · exact quiet_emit impl .sendError rfl (by decide)
        · exact List.forall_mem_cons.mpr ⟨trivial, quiet_emit impl .replySent rfl (by decide)⟩
    | _ => exact Or.inr (by simp [pass, step, hthread])
  | setAdvertisement advertisement => exact Or.inr ⟨rfl, rfl, rfl, rfl, List.forall_mem_nil _⟩
  | stop =>
    cases hthread : impl.thread with
    | absent => exact absurd hthread h
    | _ => exact Or.inr (by simp [pass, step, hthread])
  | wouldBlock => cases hthread : impl.thread <;> exact Or.inr (by simp [pass, step, hthread])
  | count => cases hthread : impl.thread <;> exact Or.inr (by simp [pass, step, hthread])

/-! ### A life of the advertiser -/

/-- The outputs of an action, with the interfaces there was an entry for in front of it. -/
def reports (impl : Advertiser) (action : Action) : List Report :=
  (impl.step action).2.map (Report.mk impl.known)

/-- The thread is there, and there is a handler. -/
def Watched (impl : Advertiser) : Prop := impl.eventHandler = true ∧ impl.thread ≠ .absent

theorem watched_step (impl : Advertiser) (action : Action) (h : impl.Watched)
    (haction : action ≠ .stopped) : (impl.step action).1.Watched := by
  refine ⟨?_, thread_step h.2 haction⟩
  rcases pass_step h.2 haction with ⟨network, thread, -, hstep⟩ | ⟨-, -, -, hhandler, -⟩
  · rw [hstep]
    exact h.1
  · rw [hhandler]
    exact h.1

/-- The network of a pass is one that the action brings. -/
theorem plain_of_pass {impl : Advertiser} {action : Action} (h : action.Plain)
    {network : Network} (hpass : impl.pass action = [network]) : network.Plain := by
  cases action with
  | firstRefresh other =>
    simp only [pass] at hpass
    split at hpass
    · cases hpass
      exact h
    · cases hpass
  | turn refresh =>
    cases refresh with
    | none => cases hpass
    | some other =>
      simp only [pass] at hpass
      split at hpass
      · split at hpass
        · cases hpass
          exact h
        · cases hpass
      · cases hpass
  | _ => cases hpass

/-- **The handler keeps up with each action.** -/
theorem observe_step (impl : Advertiser) (action : Action) (handler : Handler)
    (h : impl.Watched ∧ Knows impl handler) (haction : action ≠ .stopped ∧ action.Plain) :
    Run.Along observe News handler (impl.reports action) ∧
      (impl.step action).1.Watched ∧
        Knows (impl.step action).1 ((impl.reports action).foldl observe handler) := by
  obtain ⟨hwatched, hknows⟩ := h
  have hlater := watched_step impl action hwatched haction.1
  unfold reports
  rcases pass_step hwatched.2 haction.1 with
    ⟨network, thread, hpass, hstep⟩ | ⟨-, hmemberships, hflag, -, hquiet⟩
  · obtain ⟨halong, hafter⟩ := @informs_refreshMulticast network
      (plain_of_pass haction.2 hpass) { impl with thread } handler
      ⟨hknows.agrees, hknows.absent, hknows.missing⟩ hwatched.1
    rw [hstep] at hlater ⊢
    exact ⟨halong, hlater, hafter⟩
  · obtain ⟨halong, hsame⟩ := @observe_quiets impl.known handler _ hquiet
    rw [hsame]
    refine ⟨halong, hlater, ?_, ?_, ?_⟩
    · rw [hmemberships]
      exact hknows.agrees
    · rw [hmemberships]
      exact hknows.absent
    · rw [hflag]
      exact hknows.missing

/-- What the advertiser has of the interfaces: those with an entry, and whether there are
none. -/
def found (impl : Advertiser) : Set Address × Bool :=
  (impl.known, impl.reportedMissingMulticastInterface)

/-- What a pass finds. -/
def foundBy (network : Network) : Set Address × Bool :=
  ({address | address ∈ multicastInterfaces network}, (multicastInterfaces network).isEmpty)

theorem found_refreshMulticast (network : Network) (impl : Advertiser) :
    (impl.refreshMulticast network).1.found = foundBy network := by
  refine Prod.ext (known_refreshMulticast network impl) ?_
  unfold found foundBy refreshMulticast reportMissing
  cases multicastInterfaces network with
  | nil => cases impl.reportedMissingMulticastInterface <;> rfl
  | cons first rest => rfl

/-- **What the advertiser has of the interfaces is what its last pass found.** -/
theorem found_after {impl : Advertiser} (h : impl.Watched) {actions : List Action}
    (hlife : ∀ action ∈ actions, action ≠ .stopped) :
    (after step impl actions).found =
      ((logs step pass impl actions).getLast?.map foundBy).getD impl.found := by
  refine settled watched_step (fun impl action hwatched haction => ?_) h hlife
  rcases pass_step hwatched.2 haction with
    ⟨network, thread, hpass, hstep⟩ | ⟨hpass, hmemberships, hflag, -, -⟩
  · refine Or.inl ⟨network, hpass, ?_⟩
    rw [hstep, found_refreshMulticast]
  · refine Or.inr ⟨hpass, ?_⟩
    rw [found, found, known, known, hmemberships, hflag]

/-- An advertiser whose thread is gone has forgotten what it found. -/
theorem flag_step (impl : Advertiser) (action : Action)
    (h : impl.thread = .absent → impl.reportedMissingMulticastInterface = false) :
    (impl.step action).1.thread = .absent →
      (impl.step action).1.reportedMissingMulticastInterface = false := by
  intro habsent
  by_cases hthread : impl.thread = .absent
  · have hflag := h hthread
    cases action with
    | start bindPort advertisement sharedSecret eventHandler now socketError =>
      simp only [step, hthread, start]
      split
      · exact hflag
      · split <;> exact hflag
    | stop => simp [step, hthread, clear]
    | _ => simpa [step, hthread, setAdvertisement] using hflag
  · cases action with
    | stopped =>
      cases hwas : impl.thread with
      | finished => simp [step, hwas, clear]
      | absent => exact absurd hwas hthread
      | _ =>
        simp only [step, hwas] at habsent
        cases habsent
    | _ => exact absurd habsent (thread_step hthread (by simp))

theorem flag_after (earlier : List Action) (h : (after step {} earlier).thread = .absent) :
    (after step {} earlier).reportedMissingMulticastInterface = false := by
  have hall : ∀ {impl : Advertiser},
      (impl.thread = .absent → impl.reportedMissingMulticastInterface = false) →
        (after step impl earlier).thread = .absent →
          (after step impl earlier).reportedMissingMulticastInterface = false := by
    clear h
    induction earlier with
    | nil => exact fun h => h
    | cons action rest ih => exact fun h => ih (flag_step _ action h)
  exact hall (fun _ => rfl) h

/-- **The handler knows the memberships.**  From a successful start of an advertiser, which
may have been started and stopped before, until `stop` comes back, whatever happens in
between, each report is news to a handler who keeps what he was last told, and in the end
he knows the memberships.  The interfaces there is an entry for are those of the last pass,
and the handler has been told that there is none if that pass found none. -/
theorem memberships_observed {earlier : List Action} {impl : Advertiser} {bindPort : UInt16}
    {advertisement : DiscoveryAdvertisement} {sharedSecret : Text} {now : UInt64}
    {socketError : Bool}
    (h : (after step {} earlier).step
      (.start bindPort advertisement sharedSecret true now socketError) = (impl, [.started .ok]))
    {actions : List Action} (hlife : ∀ action ∈ actions, action ≠ .stopped)
    (hplain : ∀ action ∈ actions, action.Plain) :
    let reports := logs step reports impl actions
    let handler := reports.foldl observe {}
    let passes := logs step pass impl actions
    Run.Along observe News {} reports ∧
      Agrees (after step impl actions).multicastMemberships handler.told ∧
      (after step impl actions).known =
        {address | ∃ network ∈ passes.getLast?, address ∈ multicastInterfaces network} ∧
      (handler.missing = true ↔ ∃ network ∈ passes.getLast?, multicastInterfaces network = []) := by
  have hstarted : impl.Watched ∧ impl.multicastMemberships = .empty ∧
      impl.reportedMissingMulticastInterface = false := by
    cases hthread : (after step {} earlier).thread with
    | absent =>
      have hflag := flag_after earlier hthread
      generalize after step {} earlier = before at h hthread hflag
      simp only [step, hthread, start] at h
      split at h
      · cases h
      · cases socketError with
        | true => cases h
        | false =>
          cases h
          exact ⟨⟨rfl, by simp⟩, rfl, hflag⟩
    | _ =>
      simp only [step, hthread] at h
      split at h <;> cases h
  obtain ⟨hwatched, hempty, hflag⟩ := hstarted
  have hknows : Knows impl {} := by
    refine ⟨⟨?_, ?_⟩, ?_, hflag.symm⟩
    · rw [hempty]
      intro address value hfind
      cases hfind
    · intro text htold
      cases htold
    · intro hmissing
      cases hmissing
  have hnone : impl.known = ∅ := by
    rw [known, hempty]
    refine Set.eq_empty_iff_forall_notMem.mpr fun address haddress => ?_
    cases haddress
  obtain ⟨halong, -, hafter⟩ := observed observe_step ⟨hwatched, hknows⟩
    fun action haction => ⟨hlife action haction, hplain action haction⟩
  have hfound := found_after hwatched hlife
  refine ⟨halong, hafter.agrees, ?_, ?_⟩
  · rw [show (after step impl actions).known = (after step impl actions).found.1 from rfl, hfound]
    cases (logs step pass impl actions).getLast? with
    | none => simp [found, hnone]
    | some network => simp [foundBy]
  · rw [hafter.missing, show (after step impl actions).reportedMissingMulticastInterface =
      (after step impl actions).found.2 from rfl, hfound]
    cases (logs step pass impl actions).getLast? with
    | none => simp [found, hflag]
    | some network => simp [foundBy]

/-- A host whose only entry that counts has this address. -/
def sampleNetwork (value : UInt32) (result : JoinResult) : Network :=
  ⟨some [⟨some ⟨value⟩, true, true⟩, ⟨some ⟨0x7F000001⟩, true, false⟩], fun _ => result⟩

/-- An interface comes up, cannot be joined any more, is gone, cannot be joined when it
comes back, and is replaced. -/
def sampleInterfaces : List Action :=
  [.firstRefresh (sampleNetwork 0x0A000001 .joined),
    .turn (some (sampleNetwork 0x0A000001 (.failed (ascii "No such device")))),
    .wouldBlock, .turn (some ⟨none, fun _ => .joined⟩),
    .wouldBlock, .turn (some (sampleNetwork 0x0A000001 (.failed (ascii "No such device")))),
    .wouldBlock, .turn (some (sampleNetwork 0x0A000002 .joined))]

/-- The handler is told five times, and knows the one interface that is left. -/
theorem memberships_observed_sampleInterfaces :
    let started := step {} (.start 9697 sampleAdvertisement (ascii "test-secret") true 5 false)
    let actions := sampleInterfaces
    let reports := logs step reports started.1 actions
    let handler := reports.foldl observe {}
    let passes := logs step pass started.1 actions
    reports.length = 5 ∧ passes.length = 5 ∧
      Run.Along observe News {} reports ∧
      Agrees (after step started.1 actions).multicastMemberships handler.told ∧
      (after step started.1 actions).known =
        {address | ∃ network ∈ passes.getLast?, address ∈ multicastInterfaces network} ∧
      (handler.missing = true ↔ ∃ network ∈ passes.getLast?, multicastInterfaces network = []) := by
  intro started actions reports handler passes
  have hok : (after step {} []).step (.start 9697 sampleAdvertisement (ascii "test-secret") true
      5 false) = (started.1, [.started .ok]) := Prod.ext rfl (by decide +kernel)
  have hjoined : ∀ value, (sampleNetwork value .joined).Plain := fun _ => nofun
  have hfailed : ∀ value, (sampleNetwork value (.failed (ascii "No such device"))).Plain := by
    intro value hmessage
    exact absurd (Option.some.inj hmessage) (by decide +kernel)
  refine ⟨by decide +kernel, by decide +kernel, memberships_observed hok ?_ ?_⟩
  · simp [actions, sampleInterfaces]
  · simp only [actions, sampleInterfaces, List.forall_mem_cons]
    exact ⟨hjoined _, hfailed _, trivial, nofun, trivial, hfailed _, trivial, hjoined _, nofun⟩

end Advertiser

end YunLink.Discovery
