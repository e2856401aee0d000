import Backplane.Proofs.Simulator.Requests

/-!
# Chunks at a simulated controller

What writing a chunk leaves in the flash of a controller that runs. Whatever the faults, flash holds
the chunk or is as it was, and it holds the chunk where the driver says that it was written. Without
faults the driver does say so, and the controller has stored one chunk and lived through one pause.

* `flash_writes`: a chunk under every fault.
* `writes_ok`: a chunk without faults.
* `writes_beyond`: a chunk that does not fit.
-/
namespace Backplane.Simulator

variable {s s' t : Simulator} {label : String} {d : Driver} {bytes : List UInt8} {turns : List Turn}
  {r : Except Error Unit}

/-! ## Under every fault -/

theorem frameEffect_store_flash {offset : UInt32} (h : (s.frameEffect (.store offset bytes)).Alike t) :
    t.flash = writeBytes s.flash offset.toNat bytes :=
  h.flash_eq

/-- A repeated frame with data stored it, or left flash as it was. -/
theorem flash_store {p : Protocol} {most : Nat} {messages : List Message} {offset : UInt32}
    {replies : List (Reply (.transfer messages))} {result : Except BusError Unit} (hs : s.Running p)
    (hframe : s.frame? messages = some (.store offset bytes)) (hsettles : Settles most replies result)
    (h : (bus label).Follows s (tries _ replies) s') :
    result = .ok () ∧ s'.flash = writeBytes s.flash offset.toNat bytes ∨
      (∃ e, result = .error e) ∧ s'.flash = s.flash := by
  obtain ⟨-, hok, hlike, -⟩ | ⟨-, herror, hlike⟩ := follows_transfer hs hframe hsettles h
  · exact .inl ⟨hok, frameEffect_store_flash hlike⟩
  · exact .inr ⟨⟨nak, herror⟩, hlike.flash_eq⟩

/-- Readbacks and pauses leave flash alone. -/
theorem flash_readBack (hturns : ∀ turn ∈ turns, turn.activity = .flashRead ∨ turn.activity = .pause)
    (h : (bus label).Follows s turns s') : s'.flash = s.flash := by
  refine flash_follows ?_ h
  intro turn hturn
  rcases hturns turn hturn with hact | hact <;> simp [hact]

theorem flash_writesV0 {name : String} {offset : UInt32} (hs : s.Running .v0)
    (h : V0.Writes name offset bytes turns r) (hfollows : (bus label).Follows s turns s') :
    s'.flash = writeBytes s.flash offset.toNat bytes ∨ r ≠ .ok () ∧ s'.flash = s.flash := by
  have hframe : IsChunk offset bytes →
      s.frame? [.write (Flash.header V0.flashWriteCommand offset (.ofNat bytes.length) ++ bytes)] =
        some (.store offset bytes) := by
    intro hchunk
    have hlength : bytes.length ≤ 128 := hchunk.2.1
    exact frame?_writeV0 offset hs.2 (by omega)
  cases h with
  | refused =>
    obtain rfl := hfollows
    exact .inr ⟨by simp, rfl⟩
  | unwritten hchunk hwrite =>
    obtain ⟨hok, -⟩ | ⟨-, hflash⟩ := flash_store hs (hframe hchunk) hwrite hfollows
    · cases hok
    · exact .inr ⟨by simp, hflash⟩
  | written hchunk hwrite hverify =>
    obtain ⟨mid, hfirst, hrest⟩ := Bus.follows_append.1 hfollows
    rw [flash_readBack hverify.activity hrest]
    obtain ⟨-, hflash⟩ | ⟨⟨e, he⟩, -⟩ := flash_store hs (hframe hchunk) hwrite hfirst
    · exact .inl hflash
    · cases he

/-- Behind an address frame the controller knows where the data belongs, and flash is as it was. -/
theorem follows_address {most : Nat} {offset : UInt32} {length : Nat}
    {replies : List (Reply (V1.addressRequest offset length))} {result : Except BusError Unit}
    (hs : s.Running .v1) (hlength : length < 0x100) (hsettles : Settles most replies result)
    (h : (bus label).Follows s (tries _ replies) s') :
    result = .ok () ∧ s'.core = s.core ∧ s'.flashAddress = some (offset, length) := by
  obtain ⟨-, hok, hlike, -⟩ | ⟨hrefused, -⟩ :=
    follows_transfer hs (frame?_address hs.2 hlength) hsettles h
  · exact ⟨hok, hlike.1, hlike.2⟩
  · cases hrefused

theorem flash_writesV1 {name : String} {offset : UInt32} (hs : s.Running .v1)
    (h : V1.Writes name offset bytes turns r) (hfollows : (bus label).Follows s turns s') :
    s'.flash = writeBytes s.flash offset.toNat bytes ∨ r ≠ .ok () ∧ s'.flash = s.flash := by
  have haddressed : ∀ {mid} {addresses : List (Reply (V1.addressRequest offset bytes.length))} {result},
      IsChunk offset bytes → Settles Device.attemptsMax addresses result →
      (bus label).Follows s (tries _ addresses) mid →
      mid.flash = s.flash ∧ mid.Running .v1 ∧
        mid.frame? [.write (V1.flashDataCommand :: bytes)] = some (.store offset bytes) := by
    intro mid addresses result hchunk hsettles hfirst
    have hlength : bytes.length ≤ 128 := hchunk.2.1
    obtain ⟨-, hcore, haddress⟩ := follows_address hs (by omega) hsettles hfirst
    have hrun : mid.Running .v1 := running_of_core hcore hs
    exact ⟨congrArg (·.flash) hcore, hrun, frame?_writeV1 hrun.2 haddress⟩
  cases h with
  | refused =>
    obtain rfl := hfollows
    exact .inr ⟨by simp, rfl⟩
  | unaddressed hchunk haddress =>
    obtain ⟨hflash, -⟩ := haddressed hchunk haddress hfollows
    exact .inr ⟨by simp, hflash⟩
  | unwritten hchunk haddress hwrite =>
    obtain ⟨mid, hfirst, hrest⟩ := Bus.follows_append.1 hfollows
    obtain ⟨hmid, hrun, hframe⟩ := haddressed hchunk haddress hfirst
    obtain ⟨hok, -⟩ | ⟨-, hflash⟩ := flash_store hrun hframe hwrite hrest
    · cases hok
    · exact .inr ⟨by simp, hflash.trans hmid⟩
  | readBack hchunk haddress hwrite hread =>
    obtain ⟨last, hfront, hreads⟩ := Bus.follows_append.1 hfollows
    obtain ⟨mid, hfirst, hrest⟩ := Bus.follows_append.1 hfront
    obtain ⟨hmid, hrun, hframe⟩ := haddressed hchunk haddress hfirst
    rw [flash_readBack (readBack_activity rfl) hreads]
    obtain ⟨-, hflash⟩ | ⟨⟨e, he⟩, -⟩ := flash_store hrun hframe hwrite hrest
    · exact .inl (hmid ▸ hflash)
    · cases he

/-- A chunk is in flash, or flash is as it was; it is in flash where the driver says so. -/
theorem flash_writes (hs : s.Running d.protocol) (h : d.Writes bytes turns r)
    (hfollows : (bus label).Follows s turns s') :
    s'.flash = writeBytes s.flash d.flashOffset.toNat bytes ∨ r ≠ .ok () ∧ s'.flash = s.flash := by
  unfold Driver.Writes at h
  cases hp : d.protocol with
  | v0 =>
    rw [hp] at h hs
    exact flash_writesV0 hs h hfollows
  | v1 =>
    rw [hp] at h hs
    exact flash_writesV1 hs h hfollows

/-! ## Without faults -/

theorem load_eq (hs : s.faults.Harmless) (offset : UInt32) (length : Nat) :
    s.load offset length = readBytes s.flash offset.toNat length := by
  unfold load isCorrupting
  rw [hs.corruptChunk]
  cases hcount : s.counters.flashChunks <;> rfl

theorem accepts_store (hs : s.faults.Harmless) {offset : UInt32}
    (hle : offset.toNat + bytes.length ≤ imageMax) : s.accepts (.store offset bytes) = true := by
  unfold accepts
  rw [hs.failChunk]
  simpa using hle

/-- Without faults a frame with data stores it. -/
theorem follows_store {p : Protocol} {most : Nat} {messages : List Message} {offset : UInt32}
    {replies : List (Reply (.transfer messages))} {result : Except BusError Unit} (hs : s.Running p)
    (hharmless : s.faults.Harmless) (hle : offset.toNat + bytes.length ≤ imageMax)
    (hframe : s.frame? messages = some (.store offset bytes)) (hsettles : Settles most replies result)
    (h : (bus label).Follows s (tries _ replies) s') :
    result = .ok () ∧ (s.store offset bytes).Alike s' := by
  obtain ⟨-, hok, hlike, -⟩ | ⟨hrefused, -⟩ := follows_transfer hs hframe hsettles h
  · exact ⟨hok, hlike⟩
  · rw [accepts_store hharmless hle] at hrefused
    cases hrefused

/-- Without faults a chunk that is in flash reads back. -/
theorem follows_load {p : Protocol} {most : Nat} {messages : List Message} {offset : UInt32}
    {replies : List (Reply (.transfer messages))} {result : Except BusError Unit}
    {buffer : List UInt8} (hs : s.Running p)
    (hharmless : s.faults.Harmless) (hle : offset.toNat + bytes.length ≤ imageMax)
    (hflash : readBytes s.flash offset.toNat bytes.length = bytes)
    (hframe : s.frame? messages = some (.load offset bytes.length))
    (hsettles : Settles most replies result) (hbuffer : buffer.length = bytes.length)
    (h : (bus label).Follows s (tries _ replies) s') :
    result = .ok () ∧ delivered buffer replies = bytes ∧ s.Alike s' := by
  obtain ⟨-, hok, hlike, hdelivered⟩ | ⟨hrefused, -⟩ := follows_transfer hs hframe hsettles h
  · have hdata : s.frameData (.load offset bytes.length) = bytes :=
      (load_eq hharmless offset bytes.length).trans hflash
    refine ⟨hok, ?_, hlike⟩
    rw [hdelivered, hdata]
    exact overlay_eq hbuffer.symm
  · have haccepts : s.accepts (.load offset bytes.length) = true := by
      unfold accepts
      simpa using hle
    rw [haccepts] at hrefused
    cases hrefused

/-- Without faults the first readback of a chunk that is in flash verifies it. -/
theorem verifies_ok {name : String} {offset : UInt32} {left : Nat} {last : Option BusError}
    {buffer : List UInt8} (hs : s.Running .v0) (hharmless : s.faults.Harmless) (hlength : bytes.length < 0x10000)
    (hle : offset.toNat + bytes.length ≤ imageMax)
    (hflash : readBytes s.flash offset.toNat bytes.length = bytes) (hbuffer : buffer.length = bytes.length)
    (h : V0.Verifies name offset bytes (left + 1) last buffer turns r)
    (hfollows : (bus label).Follows s turns s') :
    r = .ok () ∧ s'.core = s.core.paused V0.verifyDelay := by
  have hread : ∀ {replies : List (Reply (V0.readRequest offset bytes.length))} {result t},
      Settles Device.attemptsMax replies result →
      (bus label).Follows s (.delayed V0.verifyDelay :: tries _ replies) t →
      result = .ok () ∧ delivered buffer replies = bytes ∧ (s.paused V0.verifyDelay).Alike t := by
    intro replies result t hsettles hfirst
    rw [follows_delayed hs] at hfirst
    exact follows_load (p := .v0) hs hharmless hle hflash
      (frame?_readV0 hs.2 hlength) hsettles hbuffer hfirst
  cases h with
  | failed hsettles =>
    obtain ⟨t, hfirst, -⟩ := Bus.follows_append.1 hfollows
    obtain ⟨hok, -⟩ := hread hsettles hfirst
    cases hok
  | mismatched hsettles hne =>
    obtain ⟨t, hfirst, -⟩ := Bus.follows_append.1 hfollows
    exact absurd (hread hsettles hfirst).2.1 hne
  | verified hsettles =>
    exact ⟨rfl, (hread hsettles hfollows).2.2.1⟩

theorem writes_okV0 {name : String} {offset : UInt32} (hs : s.Running .v0) (hharmless : s.faults.Harmless)
    (hchunk : IsChunk offset bytes) (hle : offset.toNat + bytes.length ≤ imageMax)
    (h : V0.Writes name offset bytes turns r) (hfollows : (bus label).Follows s turns s') :
    r = .ok () ∧ s'.core = (s.core.store offset bytes).paused V0.verifyDelay := by
  have hmax : bytes.length ≤ 128 := hchunk.2.1
  have hlength : bytes.length < 0x10000 := by omega
  have hframe := frame?_writeV0 offset hs.2 hlength
  cases h with
  | refused hrefused => exact absurd hchunk hrefused
  | unwritten _ hwrite =>
    obtain ⟨hok, -⟩ := follows_store hs hharmless hle hframe hwrite hfollows
    cases hok
  | written _ hwrite hverify =>
    obtain ⟨mid, hfirst, hrest⟩ := Bus.follows_append.1 hfollows
    obtain ⟨-, hmid⟩ := follows_store hs hharmless hle hframe hwrite hfirst
    have hflash : readBytes mid.flash offset.toNat bytes.length = bytes := by
      rw [hmid.flash_eq]
      exact readBytes_writeBytes s.flash offset.toNat bytes hle
    obtain ⟨hok, hcore⟩ := verifies_ok (hmid.running hs) (harmless_of_core hmid.1 hharmless)
      hlength hle hflash List.length_replicate hverify hrest
    rw [hcore, hmid.1, core_store]
    exact ⟨hok, rfl⟩

theorem writes_okV1 {name : String} {offset : UInt32} (hs : s.Running .v1) (hharmless : s.faults.Harmless)
    (hchunk : IsChunk offset bytes) (hle : offset.toNat + bytes.length ≤ imageMax)
    (h : V1.Writes name offset bytes turns r) (hfollows : (bus label).Follows s turns s') :
    r = .ok () ∧ s'.core = (s.core.store offset bytes).paused V1.settleDelay := by
  have hmax : bytes.length ≤ 128 := hchunk.2.1
  have haddressed : ∀ {mid} {addresses : List (Reply (V1.addressRequest offset bytes.length))} {result},
      Settles Device.attemptsMax addresses result →
      (bus label).Follows s (tries _ addresses) mid →
      result = .ok () ∧ mid.core = s.core ∧ mid.flashAddress = some (offset, bytes.length) ∧
        mid.Running .v1 ∧ mid.faults.Harmless := by
    intro mid addresses result hsettles hfirst
    obtain ⟨hok, hcore, haddress⟩ := follows_address hs (by omega) hsettles hfirst
    exact ⟨hok, hcore, haddress, running_of_core hcore hs, harmless_of_core hcore hharmless⟩
  cases h with
  | refused hrefused => exact absurd hchunk hrefused
  | unaddressed _ haddress =>
    obtain ⟨hok, -⟩ := haddressed haddress hfollows
    cases hok
  | unwritten _ haddress hwrite =>
    obtain ⟨mid, hfirst, hrest⟩ := Bus.follows_append.1 hfollows
    obtain ⟨-, -, hplace, hrun, hfaults⟩ := haddressed haddress hfirst
    obtain ⟨hok, -⟩ := follows_store hrun hfaults hle (frame?_writeV1 hrun.2 hplace) hwrite hrest
    cases hok
  | readBack _ haddress hwrite hread hr =>
    obtain ⟨last, hfront, hreads⟩ := Bus.follows_append.1 hfollows
    obtain ⟨mid, hfirst, hrest⟩ := Bus.follows_append.1 hfront
    obtain ⟨-, hcore, hplace, hrun, hfaults⟩ := haddressed haddress hfirst
    obtain ⟨-, hlast⟩ := follows_store hrun hfaults hle (frame?_writeV1 hrun.2 hplace) hwrite hrest
    have hrunning : last.Running .v1 := hlast.running hrun
    have hlastFaults : last.faults.Harmless := harmless_of_core hlast.1 hfaults
    have hflash : readBytes last.flash offset.toNat bytes.length = bytes := by
      rw [hlast.flash_eq]
      exact readBytes_writeBytes mid.flash offset.toNat bytes hle
    have hpaused : (last.paused V1.settleDelay).Running .v1 := hrunning
    have hframe : (last.paused V1.settleDelay).frame? [.write [V1.flashDataCommand], .read bytes.length] =
        some (.load offset bytes.length) := frame?_readV1 hpaused.2 (hlast.2.trans hplace)
    rw [follows_delayed hrunning] at hreads
    obtain ⟨rfl, hdelivered, hlike⟩ := follows_load hpaused hlastFaults hle hflash hframe hread
      List.length_replicate hreads
    refine ⟨by rw [hr, hdelivered]; exact if_pos rfl, ?_⟩
    calc s'.core
      _ = last.core.paused V1.settleDelay := hlike.1
      _ = (mid.core.store offset bytes).paused V1.settleDelay := by rw [hlast.1, core_store]
      _ = (s.core.store offset bytes).paused V1.settleDelay := by rw [hcore]

/-! ## Beyond the end of flash -/

theorem accepts_store_beyond {offset : UInt32} (hgt : imageMax < offset.toNat + bytes.length) :
    s.accepts (.store offset bytes) = false := by
  unfold accepts
  rw [Bool.and_eq_false_iff, decide_eq_false_iff_not]
  exact .inr (by omega)

theorem writes_beyondV0 {name : String} {offset : UInt32} (hs : s.Running .v0) (hchunk : IsChunk offset bytes)
    (hgt : imageMax < offset.toNat + bytes.length) (h : V0.Writes name offset bytes turns r)
    (hfollows : (bus label).Follows s turns s') :
    r = .error (.communication name .writeFlash nak) ∧ s'.core = s.core := by
  have hmax : bytes.length ≤ 128 := hchunk.2.1
  have hstore : ∀ {replies : List (Reply (V0.writeRequest offset bytes))} {result t},
      Settles Device.attemptsMax replies result → (bus label).Follows s (tries _ replies) t →
      result = .error nak ∧ s.Alike t := by
    intro replies result t hsettles hfirst
    obtain ⟨haccepts, -⟩ | ⟨-, herror, hlike⟩ :=
      follows_transfer hs (frame?_writeV0 offset hs.2 (by omega)) hsettles hfirst
    · rw [accepts_store_beyond hgt] at haccepts
      cases haccepts
    · exact ⟨herror, hlike⟩
  cases h with
  | refused hrefused => exact absurd hchunk hrefused
  | unwritten _ hwrite =>
    obtain ⟨herror, hlike⟩ := hstore hwrite hfollows
    cases herror
    exact ⟨rfl, hlike.1⟩
  | written _ hwrite _ =>
    obtain ⟨mid, hfirst, -⟩ := Bus.follows_append.1 hfollows
    cases (hstore hwrite hfirst).1

theorem writes_beyondV1 {name : String} {offset : UInt32} (hs : s.Running .v1) (hchunk : IsChunk offset bytes)
    (hgt : imageMax < offset.toNat + bytes.length) (h : V1.Writes name offset bytes turns r)
    (hfollows : (bus label).Follows s turns s') :
    r = .error (.communication name .writeFlash nak) ∧ s'.core = s.core := by
  have hmax : bytes.length ≤ 128 := hchunk.2.1
  have hstore : ∀ {addresses : List (Reply (V1.addressRequest offset bytes.length))}
      {replies : List (Reply (V1.writeRequest bytes))} {result t},
      Settles Device.attemptsMax addresses (.ok ()) → Settles Device.attemptsMax replies result →
      (bus label).Follows s (tries _ addresses ++ tries _ replies) t →
      result = .error nak ∧ t.core = s.core := by
    intro addresses replies result t haddress hsettles hboth
    obtain ⟨mid, hfirst, hrest⟩ := Bus.follows_append.1 hboth
    obtain ⟨-, hcore, hplace⟩ := follows_address hs (by omega) haddress hfirst
    have hrun : mid.Running .v1 := running_of_core hcore hs
    obtain ⟨haccepts, -⟩ | ⟨-, herror, hlike⟩ :=
      follows_transfer hrun (frame?_writeV1 hrun.2 hplace) hsettles hrest
    · rw [accepts_store_beyond hgt] at haccepts
      cases haccepts
    · exact ⟨herror, hlike.1.trans hcore⟩
  cases h with
  | refused hrefused => exact absurd hchunk hrefused
  | unaddressed _ haddress =>
    obtain ⟨hok, -⟩ := follows_address hs (by omega) haddress hfollows
    cases hok
  | unwritten _ haddress hwrite =>
    obtain ⟨herror, hcore⟩ := hstore haddress hwrite hfollows
    cases herror
    exact ⟨rfl, hcore⟩
  | readBack _ haddress hwrite _ _ =>
    obtain ⟨last, hfront, -⟩ := Bus.follows_append.1 hfollows
    cases (hstore haddress hwrite hfront).1

end Backplane.Simulator

namespace Backplane
open Simulator

/-- The pause between writing a chunk and reading it back. -/
def Protocol.pause : Protocol → UInt32
  | .v0 => V0.verifyDelay
  | .v1 => V1.settleDelay

/-- Without faults every chunk is written: it is stored once, and one pause goes by. -/
theorem Simulator.writes_ok {s s' : Simulator} {label : String} {d : Driver} {bytes : List UInt8}
    {turns : List Turn} {r : Except Error Unit} (hs : s.Running d.protocol)
    (hharmless : s.faults.Harmless) (hchunk : IsChunk d.flashOffset bytes)
    (hle : d.flashOffset.toNat + bytes.length ≤ imageMax) (h : d.Writes bytes turns r)
    (hfollows : (bus label).Follows s turns s') :
    r = .ok () ∧ s'.core = (s.core.store d.flashOffset bytes).paused d.protocol.pause := by
  unfold Driver.Writes at h
  cases hp : d.protocol with
  | v0 =>
    rw [hp] at h hs
    exact writes_okV0 hs hharmless hchunk hle h hfollows
  | v1 =>
    rw [hp] at h hs
    exact writes_okV1 hs hharmless hchunk hle h hfollows

/-- A chunk that does not fit into flash is not acknowledged, and nothing changes. -/
theorem Simulator.writes_beyond {s s' : Simulator} {label : String} {d : Driver} {bytes : List UInt8}
    {turns : List Turn} {r : Except Error Unit} (hs : s.Running d.protocol)
    (hchunk : IsChunk d.flashOffset bytes) (hgt : imageMax < d.flashOffset.toNat + bytes.length)
    (h : d.Writes bytes turns r) (hfollows : (bus label).Follows s turns s') :
    r = .error (.communication d.label .writeFlash nak) ∧ s'.core = s.core := by
  unfold Driver.Writes at h
  cases hp : d.protocol with
  | v0 =>
    rw [hp] at h hs
    exact writes_beyondV0 hs hchunk hgt h hfollows
  | v1 =>
    rw [hp] at h hs
    exact writes_beyondV1 hs hchunk hgt h hfollows

end Backplane
