import Backplane.Proofs.Driver.Identity
import Backplane.Proofs.Simulator.Requests

/-!
# Identifying a simulated controller

A running controller is given a driver of its generation, and the driver reads the identity that the
controller is configured with: its strings cut to their fields and decoded. The older generation
reads them until they come twice in a row, which is at once.

* `creates_ok`: the driver.
* `read_eq_identity`: one string of the identity.
* `deviceInfo_eq`: the identity.
-/
namespace Backplane.Simulator

variable {s s' t t' : Simulator} {label name : String} {p : Protocol} {turns : List Turn}

/-- What a running controller says it is, as a driver of its generation decodes it. -/
def identity (s : Simulator) : DeviceInfo :=
  match s.config.protocol with
  | .v0 => ⟨.v0, Text.fieldText (field s.config.firmwareVersion V0.versionLength),
      if s.faults.noBoardType then ""
      else Text.fieldText (field s.config.boardType V0.boardTypeLength)⟩
  | .v1 => ⟨.v1, Text.fieldText (field s.config.firmwareVersion V1.versionLength),
      Text.fieldText (field s.config.boardType V1.boardTypeLength)⟩

/-- A controller with one more handle on it. -/
def connected (s : Simulator) : Simulator :=
  { s with counters.connects := s.counters.connects + 1 }

@[simp] theorem length_field (text : String) (length : Nat) : (field text length).length = length := by
  simp only [field, List.length_append, List.length_replicate, List.length_take]
  omega

/-! ## Making a driver -/

theorem follows_opened {reply : Reply .functionality} (hharmless : s.faults.Harmless)
    (h : (bus label).Follows s (Driver.opened reply) s') :
    s' = s.connected ∧ Driver.Suffices reply := by
  obtain ⟨mid, ⟨-, rfl⟩, last, ⟨rfl, rfl⟩, rfl⟩ := h
  rw [connect_next, hharmless.connectFails]
  refine ⟨rfl, Functionality.required.union ⟨Functionality.i2c⟩, ?_, by decide⟩
  change (attempt .functionality s.connected).value.result = _
  have hfaults : s.connected.faults.missingFunctionality = false := hharmless.missingFunctionality
  unfold attempt serve answer
  dsimp only
  rw [hfaults]
  rfl

/-- A running controller without faults is given a driver of its generation. -/
theorem creates_ok {r : Except Error Driver} (hs : s.Running p) (hharmless : s.faults.Harmless)
    (hnak : s.faults.nakIdent < Device.attemptsMax) (h : Driver.Creates name turns r)
    (hfollows : (bus label).Follows s turns s') :
    r = .ok (.ofDevice ⟨name, true, .none⟩ p) ∧ s'.core = s.core.connected ∧
      s'.faults.nakIdent = 0 := by
  have hread : ∀ {reply : Reply .functionality} {replies : List (Reply identRequest)}
      {result : Except BusError UInt8}, Settles Device.attemptsMax replies result →
      (bus label).Follows s (Driver.opened reply ++ tries identRequest replies) s' →
      result = .ok p.ident ∧ s'.core = s.core.connected ∧ s'.faults.nakIdent = 0 := by
    intro reply replies result hsettles hboth
    obtain ⟨mid, hopened, hreads⟩ := Bus.follows_append.1 hboth
    obtain ⟨rfl, -⟩ := follows_opened hharmless hopened
    have hconnected : s.connected.Running p := hs
    obtain ⟨hresult, hlike, hzero⟩ := follows_ident hconnected hnak hsettles hreads
    exact ⟨hresult, hlike.1, hzero⟩
  cases h with
  | closed =>
    obtain ⟨mid, ⟨hvalue, -⟩, -⟩ := hfollows
    change (connect label s).value = _ at hvalue
    unfold connect at hvalue
    rw [hharmless.connectFails] at hvalue
    cases hvalue
  | insufficient hreply => exact absurd (follows_opened hharmless hfollows).2 hreply
  | silent _ hsettles => cases (hread hsettles hfollows).1
  | unknown _ hsettles hident =>
    obtain ⟨hbyte, -⟩ := hread hsettles hfollows
    rw [Except.ok.inj hbyte, Protocol.ofIdent?_ident] at hident
    cases hident
  | identified _ hsettles hident =>
    obtain ⟨hbyte, hcore, hzero⟩ := hread hsettles hfollows
    rw [Except.ok.inj hbyte, Protocol.ofIdent?_ident] at hident
    rw [Option.some.inj hident]
    exact ⟨rfl, hcore, hzero⟩

/-! ## Reading the identity -/

theorem identity_of_core (h : t.core = s.core) : t.identity = s.identity := by
  have hconfig : t.config = s.config := congrArg (·.config) h
  have hfaults : t.faults.noBoardType = s.faults.noBoardType := congrArg (·.faults.noBoardType) h
  unfold identity
  rw [hconfig, hfaults]

theorem identity_v0 (hs : s.Running .v0) :
    s.identity = ⟨.v0, Text.fieldText (field s.config.firmwareVersion V0.versionLength),
      if s.faults.noBoardType then ""
      else Text.fieldText (field s.config.boardType V0.boardTypeLength)⟩ := by
  unfold identity
  rw [hs.2]

theorem identity_v1 (hs : s.Running .v1) :
    s.identity = ⟨.v1, Text.fieldText (field s.config.firmwareVersion V1.versionLength),
      Text.fieldText (field s.config.boardType V1.boardTypeLength)⟩ := by
  unfold identity
  rw [hs.2]

/-- The version field, as the older generation reads it. -/
theorem readVersion_eq {d d' : Device} {r : Except BusError (List UInt8)} (hs : s.Running .v0)
    (hd : d.operational = true) (h : Runs V0.readVersion.run d turns r d')
    (hfollows : (bus label).Follows s turns s') :
    textOf (r.map id) = s.identity.firmwareVersion ∧ d'.operational = true ∧ s'.core = s.core := by
  rw [Except.map_id]
  obtain ⟨replies, outcome, rfl, hsettles, rfl, rfl⟩ := V0.runs_readVersion hd h
  obtain ⟨-, rfl, hlike, hdelivered⟩ | ⟨hrefused, -⟩ :=
    follows_transfer hs (frame?_version hs.2) hsettles hfollows
  · have hraw := hdelivered (.replicate V0.versionLength 0)
    have hdata : s.frameData (.version V0.versionLength) =
        field s.config.firmwareVersion V0.versionLength := rfl
    rw [hdata, overlay_eq (by simp)] at hraw
    rw [identity_v0 hs]
    exact ⟨congrArg Text.fieldText hraw, hd, hlike.1⟩
  · cases hrefused

/-- A block that a running controller may have is its text, or it can not be read. -/
theorem textOf_block {command : UInt8} {length : Nat} {replies : List (Reply (.readBlock command length))}
    {outcome : Except BusError Nat} (hs : s.Running p) (hsettles : Settles Device.attemptsMax replies outcome)
    (hfollows : (bus label).Follows s (tries _ replies) s') :
    textOf (outcome.map (delivered (.replicate length 0) replies).take) =
        ((s.blockField? command).map fun text => Text.fieldText (field text length)).getD "" ∧
      s'.core = s.core := by
  obtain ⟨hlike, ⟨text, htext, rfl, hdelivered⟩ | ⟨hnone, e, rfl⟩⟩ := follows_block hs hsettles hfollows
  · refine ⟨?_, hlike.1⟩
    rw [hdelivered, overlay_eq (by simp), htext]
    change Text.fieldText ((field text length).take length) = Text.fieldText (field text length)
    rw [List.take_of_length_le (by simp)]
  · rw [hnone]
    exact ⟨rfl, hlike.1⟩

/-- The board type field, as the older generation reads it; early firmware has none. -/
theorem readBoardType_eq {d d' : Device} {r : Except BusError (List UInt8 × Nat)} (hs : s.Running .v0)
    (hd : d.operational = true) (h : Runs V0.readBoardType.run d turns r d')
    (hfollows : (bus label).Follows s turns s') :
    textOf (r.map fun read => read.1.take read.2) = s.identity.boardType ∧
      d'.operational = true ∧ s'.core = s.core := by
  obtain ⟨replies, outcome, rfl, hsettles, rfl, rfl⟩ := V0.runs_readBoardType hd h
  obtain ⟨htext, hcore⟩ := textOf_block hs hsettles hfollows
  have hfield : s.blockField? V0.boardTypeRegister =
      if s.faults.noBoardType then none else some s.config.boardType := by
    unfold blockField?
    rw [hs.2]
    cases s.faults.noBoardType <;> rfl
  rw [hfield] at htext
  refine ⟨?_, hd, hcore⟩
  rw [identity_v0 hs]
  cases hnone : s.faults.noBoardType <;> rw [hnone] at htext <;> cases outcome <;> exact htext

variable {d d' : Driver} {text : String}

/-- A string that the older generation reads until it comes twice in a row is what every read gives. -/
theorem readsText_eq {α : Type} [BEq α] [LawfulBEq α] (field : IdentityField) {once : DeviceM.Try α}
    {raw : α → List UInt8}
    (honce : ∀ {s s' : Simulator} {d d' : Device} {turns : List Turn} {r : Except BusError α},
      s.Running .v0 → d.operational = true → Runs once.run d turns r d' → (bus label).Follows s turns s' →
        textOf (r.map raw) = field.ofInfo s.identity ∧ d'.operational = true ∧ s'.core = s.core)
    (hs : s.Running .v0) (hd : d.device.operational = true) (h : V0.ReadsText once raw d turns text d')
    (hfollows : (bus label).Follows s turns s') : text = field.ofInfo s.identity ∧ s'.core = s.core := by
  obtain ⟨results, r, device, hrepeats, hconfirmed, rfl, -⟩ := h
  have hread : ∀ {device device' : Device} {turns r t t'}, device.operational = true ∧ t.core = s.core →
      Runs once.run device turns r device' → (bus label).Follows t turns t' →
        textOf (r.map raw) = field.ofInfo s.identity ∧ device'.operational = true ∧ t'.core = s.core := by
    intro device device' turns r t t' hmid hrun hreads
    obtain ⟨hdevice, ht⟩ := hmid
    have hread := honce (running_of_core ht hs) hdevice hrun hreads
    rwa [identity_of_core ht, ht] at hread
  obtain ⟨hall, -, hcore⟩ := hrepeats.follows hread ⟨hd, rfl⟩ hfollows
  exact ⟨hall r hconfirmed.mem, hcore⟩

/-- A string that the newer generation reads is the text in its register. -/
theorem readField_eq (field : IdentityField) {register : UInt8} {length : Nat} {op : Operation}
    {configured : String} (hlength : length ≤ blockMax)
    (hregister : s.blockField? register = some configured)
    (hfield : field.ofInfo s.identity = Text.fieldText (Simulator.field configured length))
    (hs : s.Running .v1) (hd : d.device.operational = true)
    (h : Runs (V1.readField register length op) d turns text d') (hfollows : (bus label).Follows s turns s') :
    text = field.ofInfo s.identity ∧ s'.core = s.core := by
  obtain ⟨replies, outcome, rfl, hsettles, rfl, -⟩ := V1.runs_readField hd hlength h
  obtain ⟨htext, hcore⟩ := textOf_block hs hsettles hfollows
  rw [htext, hregister, hfield]
  exact ⟨rfl, hcore⟩

theorem blockField?_v1 (hs : s.Running .v1) :
    s.blockField? V1.versionRegister = some s.config.firmwareVersion ∧
      s.blockField? V1.boardTypeRegister = some s.config.boardType := by
  unfold blockField?
  rw [hs.2]
  exact ⟨rfl, rfl⟩

/-- Both generations tell a string as it is. -/
theorem byProtocol_eq {v0 v1 : DriverM String} {shown : String}
    (hv0 : s.Running .v0 → Runs v0 d turns text d' → text = shown ∧ s'.core = s.core)
    (hv1 : s.Running .v1 → Runs v1 d turns text d' → text = shown ∧ s'.core = s.core)
    (hs : s.Running d.protocol) (h : Runs (Driver.byProtocol v0 v1) d turns text d') :
    text = shown ∧ s'.core = s.core := by
  rw [Driver.runs_byProtocol] at h
  cases hp : d.protocol with
  | v0 =>
    rw [hp] at h hs
    exact hv0 hs h
  | v1 =>
    rw [hp] at h hs
    exact hv1 hs h

theorem read_eq_identity (field : IdentityField) (hs : s.Running d.protocol)
    (hd : d.device.operational = true) (h : Runs field.read d turns text d')
    (hfollows : (bus label).Follows s turns s') : text = field.ofInfo s.identity ∧ s'.core = s.core := by
  cases field with
  | firmwareVersion =>
    refine byProtocol_eq (fun hs h => ?_) (fun hs h => ?_) hs h
    · exact readsText_eq .firmwareVersion readVersion_eq hs hd (V0.runs_firmwareVersion h) hfollows
    · exact readField_eq .firmwareVersion (by decide) (blockField?_v1 hs).1 (by rw [identity_v1 hs]; rfl)
        hs hd h hfollows
  | boardType =>
    refine byProtocol_eq (fun hs h => ?_) (fun hs h => ?_) hs h
    · exact readsText_eq .boardType readBoardType_eq hs hd (V0.runs_boardType h) hfollows
    · exact readField_eq .boardType (by decide) (blockField?_v1 hs).2 (by rw [identity_v1 hs]; rfl)
        hs hd h hfollows

/-- A driver of its generation reads from a running controller what that says it is. -/
theorem deviceInfo_eq {info : DeviceInfo} (hs : s.Running d.protocol) (hd : d.device.operational = true)
    (h : Runs Driver.deviceInfo d turns info d') (hfollows : (bus label).Follows s turns s') :
    info = s.identity ∧ s'.core = s.core := by
  obtain ⟨first, mid, rest, rfl, hversion, hboard, hp⟩ := Driver.runs_deviceInfo h
  obtain ⟨t, hfirst, hrest⟩ := Bus.follows_append.1 hfollows
  obtain ⟨hlike, -⟩ := Driver.asks_read .firmwareVersion hd hversion
  obtain ⟨htext, ht⟩ := read_eq_identity .firmwareVersion hs hd hversion hfirst
  have hrun : t.Running mid.protocol := by
    rw [hlike.protocol_eq]
    exact running_of_core ht hs
  obtain ⟨htext', hcore⟩ := read_eq_identity .boardType hrun (hlike.operational_eq.trans hd) hboard hrest
  rw [identity_of_core ht] at htext'
  have hprotocol : s.identity.protocol = d.protocol := by
    rw [← hs.2]
    unfold identity
    cases s.config.protocol <;> rfl
  obtain ⟨protocol, version, board⟩ := info
  obtain rfl : protocol = s.identity.protocol := hp.trans hprotocol.symm
  obtain rfl : version = s.identity.firmwareVersion := htext
  obtain rfl : board = s.identity.boardType := htext'
  exact ⟨rfl, hcore.trans ht⟩

end Backplane.Simulator
