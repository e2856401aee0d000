import Backplane.Proofs.Simulator.Bus

/-!
# Requests of drivers to a simulated controller

What a running controller makes of each request of a driver that speaks its generation, also where
the request is repeated. A transfer is stored, loaded or refused as its frame says; a block is a text
field; the byte commands reboot and erase.

* `follows_ident`, `follows_ident_withheld`, `follows_ident_ok`: identification.
* `attempt_readLocate`, `attempt_writeLocate`: the mask of locate LEDs.
* `follows_reboot`, `follows_erase`: byte commands.
* `follows_transfer`, `follows_block`: transfers and blocks.
-/
namespace Backplane.Simulator

variable {s s' t : Simulator} {r : Request} {p : Protocol} {label : String} {most : Nat}

theorem attempt_running (hr : r ≠ .functionality) (h : s.Running p) :
    attempt r s = (s.count r).serve r := by
  rw [attempt_eq hr, h.1]
  rfl

/-! ## Identification -/

theorem attempt_ident (h : s.Running p) :
    attempt identRequest s =
      if s.faults.nakIdent = 0 then answer p.ident (s.count identRequest)
      else refuse { s.count identRequest with faults.nakIdent := s.faults.nakIdent - 1 } := by
  rw [attempt_running (by simp) h, ← h.2]
  rfl

/-- Only a running controller identifies itself, and it tells what it is. -/
theorem follows_ident_ok {replies : List (Reply identRequest)} {byte : UInt8}
    (hsettles : Settles most replies (.ok byte))
    (h : (bus label).Follows s (tries _ replies) s') :
    ∃ p, byte = p.ident ∧ s.Running p ∧ s.Alike s' := by
  obtain ⟨t, hlike, hresult, rfl, -⟩ := follows_settles hsettles h
  cases hboot : t.booting with
  | some elapsed =>
    rw [attempt_eq (by simp), hboot] at hresult
    cases hresult
  | none =>
    have hrun : t.Running t.config.protocol := ⟨hboot, rfl⟩
    rw [attempt_ident hrun] at hresult ⊢
    split at hresult
    · next hnak =>
      cases hresult
      rw [if_pos hnak]
      refine ⟨t.config.protocol, rfl, ⟨hlike.booting_eq ▸ hboot, ?_⟩, hlike.trans alike_count⟩
      rw [hlike.config_eq]
    · cases hresult

/-- Each identification that a running controller withholds is one of those it has to. -/
theorem nakIdent_failed {failed : List (Reply identRequest)} (hs : s.Running p)
    (hfailed : ∀ reply ∈ failed, ∃ e, reply.result = .error e)
    (h : (bus label).Follows s (tries _ failed) t) :
    t.faults.nakIdent + failed.length = s.faults.nakIdent := by
  induction failed generalizing s with
  | nil =>
    obtain rfl := h
    rfl
  | cons reply failed ih =>
    obtain ⟨mid, ⟨rfl, rfl⟩, hrest⟩ := h
    rw [List.forall_mem_cons] at hfailed
    obtain ⟨⟨e, he⟩, hfailed⟩ := hfailed
    change (attempt identRequest s).value.result = .error e at he
    change (bus label).Follows (attempt identRequest s).next _ t at hrest
    have hmid : (attempt identRequest s).next.Running p := running_attempt (by decide) hs
    have hrest := ih hmid hfailed hrest
    rw [attempt_ident hs] at he hrest
    split at he
    · cases he
    · next hnak =>
      rw [if_neg hnak] at hrest
      have hnext : (refuse (r := identRequest) { s.count identRequest with
        faults.nakIdent := s.faults.nakIdent - 1 }).next.faults.nakIdent = s.faults.nakIdent - 1 := rfl
      rw [hnext] at hrest
      rw [List.length_cons]
      omega

/-- Before the last attempt at the identification a running controller has withheld one for each attempt. -/
theorem follows_ident_last {replies : List (Reply identRequest)} {result : Except BusError UInt8}
    (hs : s.Running p) (hsettles : Settles most replies result)
    (h : (bus label).Follows s (tries _ replies) s') :
    ∃ t withheld, s.Alike t ∧ t.faults.nakIdent + withheld = s.faults.nakIdent ∧ withheld < most ∧
      (attempt identRequest t).value.result = result ∧ s' = (attempt identRequest t).next ∧
      ∀ e, result = .error e → withheld + 1 = most := by
  obtain ⟨failed, last, rfl, hfailed, rfl, hlt, hmost⟩ := hsettles
  rw [tries_append, Bus.follows_append] at h
  obtain ⟨t, hfirst, mid, ⟨rfl, rfl⟩, rfl⟩ := h
  exact ⟨t, failed.length, (follows_failed hfailed hfirst).1, nakIdent_failed hs hfailed hfirst, hlt, rfl, rfl,
    hmost⟩

/-- A running controller that withholds its identification less often than it is asked. -/
theorem follows_ident {replies : List (Reply identRequest)} {result : Except BusError UInt8}
    (hs : s.Running p) (hnak : s.faults.nakIdent < most) (hsettles : Settles most replies result)
    (h : (bus label).Follows s (tries _ replies) s') :
    result = .ok p.ident ∧ s.Alike s' ∧ s'.faults.nakIdent = 0 := by
  obtain ⟨t, withheld, hlike, hcount, -, rfl, rfl, hmost⟩ := follows_ident_last hs hsettles h
  rw [attempt_ident (hlike.running hs)] at hmost ⊢
  by_cases hzero : t.faults.nakIdent = 0
  · rw [if_pos hzero]
    exact ⟨rfl, hlike.trans alike_count, hzero⟩
  · rw [if_neg hzero] at hmost
    have := hmost _ rfl
    omega

/-- A running controller that withholds its identification whenever it is asked. -/
theorem follows_ident_withheld {replies : List (Reply identRequest)} {result : Except BusError UInt8}
    (hs : s.Running p) (hnak : most ≤ s.faults.nakIdent) (hsettles : Settles most replies result)
    (h : (bus label).Follows s (tries _ replies) s') :
    (∃ e, result = .error e) ∧ s'.faults.nakIdent + most = s.faults.nakIdent := by
  obtain ⟨t, withheld, hlike, hcount, hlt, rfl, rfl, hmost⟩ := follows_ident_last hs hsettles h
  have hleft : t.faults.nakIdent ≠ 0 := by omega
  rw [attempt_ident (hlike.running hs), if_neg hleft] at hmost ⊢
  have := hmost _ rfl
  refine ⟨⟨_, rfl⟩, ?_⟩
  change t.faults.nakIdent - 1 + most = s.faults.nakIdent
  omega

/-! ## Locate LEDs of the newer generation -/

theorem attempt_readLocate (h : s.Running .v1) :
    attempt (.readByteData V1.locateRegister) s =
      answer s.config.locate (s.count (.readByteData V1.locateRegister)) := by
  have hprotocol : (s.count (.readByteData V1.locateRegister)).config.protocol = .v1 := h.2
  rw [attempt_running (by simp) h, serve, serveReadByteData, hprotocol]
  rfl

theorem attempt_writeLocate (mask : UInt8) (h : s.Running .v1) :
    attempt (.writeByteData V1.locateRegister mask) s =
      answer () { s.count (.writeByteData V1.locateRegister mask) with config.locate := mask } := by
  have hprotocol : (s.count (.writeByteData V1.locateRegister mask)).config.protocol = .v1 := h.2
  rw [attempt_running (by simp) h, serve, serveWriteByteData, hprotocol]
  rfl

/-! ## Byte commands -/

theorem attempt_reboot (h : s.Running p) :
    (attempt (.writeByte p.rebootCommand) s).value.result = .ok () ∧
      (attempt (.writeByte p.rebootCommand) s).next =
        (s.count (.writeByte p.rebootCommand)).reboot.2 := by
  have hserve : attempt (.writeByte p.rebootCommand) s =
      answerBoot () (s.count (.writeByte p.rebootCommand)).reboot := by
    have hprotocol : (s.count (.writeByte p.rebootCommand)).config.protocol = p := h.2
    rw [attempt_running (by simp) h, serve, serveWriteByte, hprotocol]
    cases p <;> rfl
  rw [hserve]
  unfold answerBoot
  split
  · next s' hreboot => exact ⟨rfl, by rw [hreboot]⟩
  · next s' hreboot => exact ⟨rfl, by rw [hreboot]⟩

theorem attempt_erase (h : s.Running p) :
    attempt (.writeByte p.eraseCommand) s =
      answer () (s.count (.writeByte p.eraseCommand)).erase := by
  have hprotocol : (s.count (.writeByte p.eraseCommand)).config.protocol = p := h.2
  rw [attempt_running (by simp) h, serve, serveWriteByte, hprotocol]
  cases p <;> rfl

theorem follows_reboot {replies : List (Reply (.writeByte p.rebootCommand))}
    {result : Except BusError Unit} (hs : s.Running p) (hsettles : Settles most replies result)
    (h : (bus label).Follows s (tries _ replies) s') :
    result = .ok () ∧ s'.core = s.core.reboot.2 := by
  obtain ⟨t, hlike, rfl, rfl, -⟩ := follows_settles hsettles h
  obtain ⟨hresult, hnext⟩ := attempt_reboot (hlike.running hs)
  rw [hresult, hnext, core_reboot, core_count, hlike.1]
  exact ⟨rfl, rfl⟩

theorem follows_erase {replies : List (Reply (.writeByte p.eraseCommand))}
    {result : Except BusError Unit} (hs : s.Running p) (hsettles : Settles most replies result)
    (h : (bus label).Follows s (tries _ replies) s') :
    result = .ok () ∧ s'.core = s.core.erase := by
  obtain ⟨t, hlike, rfl, rfl, -⟩ := follows_settles hsettles h
  rw [attempt_erase (hlike.running hs), ← hlike.1]
  exact ⟨rfl, rfl⟩

/-! ## Transfers -/

namespace Alike

theorem frame?_eq (h : s.Alike t) (messages : List Message) : t.frame? messages = s.frame? messages := by
  unfold frame?
  rw [h.config_eq, h.2]

theorem accepts_eq (h : s.Alike t) (frame : Frame) : t.accepts frame = s.accepts frame := by
  have hfaults : t.faults.failChunk = s.faults.failChunk := congrArg (·.faults.failChunk) h.1
  have hcounters : t.counters.flashChunks = s.counters.flashChunks :=
    congrArg (·.counters.flashChunks) h.1
  unfold accepts
  rw [hfaults, hcounters]

theorem frameData_eq (h : s.Alike t) (frame : Frame) : t.frameData frame = s.frameData frame := by
  have hfaults : t.faults.corruptChunk = s.faults.corruptChunk :=
    congrArg (·.faults.corruptChunk) h.1
  have hcounters : t.counters.flashChunks = s.counters.flashChunks :=
    congrArg (·.counters.flashChunks) h.1
  unfold frameData load isCorrupting
  rw [h.config_eq, h.flash_eq, hfaults, hcounters]

theorem frameEffect (h : s.Alike t) (frame : Frame) :
    (s.frameEffect frame).Alike (t.frameEffect frame) := by
  cases frame with
  | version n => exact h
  | load offset length => exact h
  | address offset length => exact ⟨h.1, rfl⟩
  | store offset bytes =>
    refine ⟨?_, h.2⟩
    change (t.store offset bytes).core = (s.store offset bytes).core
    rw [core_store, core_store, h.1]

end Alike

theorem attempt_transfer {messages : List Message} {frame : Frame} (h : s.Running p)
    (hframe : s.frame? messages = some frame) :
    attempt (.transfer messages) s =
      if s.accepts frame then
        ⟨⟨.ok (), s.frameData frame⟩, (s.count (.transfer messages)).frameEffect frame, []⟩
      else refuse (s.count (.transfer messages)) := by
  rw [attempt_running (by simp) h, serve, serveTransfer]
  rw [show (s.count (.transfer messages)).frame? messages = some frame from hframe]
  rfl

/-- A transfer that is understood is carried out, or it is refused over and over. -/
theorem follows_transfer {messages : List Message} {frame : Frame}
    {replies : List (Reply (.transfer messages))} {result : Except BusError Unit} (hs : s.Running p)
    (hframe : s.frame? messages = some frame) (hsettles : Settles most replies result)
    (h : (bus label).Follows s (tries _ replies) s') :
    s.accepts frame = true ∧ result = .ok () ∧ (s.frameEffect frame).Alike s' ∧
      (∀ buffer, delivered buffer replies = overlay buffer (s.frameData frame)) ∨
    s.accepts frame = false ∧ result = .error nak ∧ s.Alike s' := by
  obtain ⟨t, hlike, rfl, rfl, hdelivered⟩ := follows_settles hsettles h
  have hserve := attempt_transfer (hlike.running hs) ((hlike.frame?_eq messages).trans hframe)
  rw [hlike.accepts_eq, hlike.frameData_eq] at hserve
  by_cases haccepts : s.accepts frame = true
  · rw [if_pos haccepts] at hserve
    rw [hserve] at hdelivered ⊢
    exact .inl ⟨haccepts, rfl, (hlike.trans alike_count).frameEffect frame, hdelivered⟩
  · rw [if_neg haccepts] at hserve
    rw [hserve]
    exact .inr ⟨by simpa using haccepts, rfl, hlike.trans alike_count⟩

/-! Frames of drivers. -/

theorem frame?_writeV0 (offset : UInt32) {bytes : List UInt8} (hp : s.config.protocol = .v0)
    (hlength : bytes.length < 0x10000) :
    s.frame? [.write (Flash.header V0.flashWriteCommand offset (.ofNat bytes.length) ++ bytes)] =
      some (.store offset bytes) := by
  have hcount : (UInt16.ofNat bytes.length).toNat = bytes.length := by
    rw [UInt16.toNat_ofNat']
    omega
  have htotal : (Flash.header V0.flashWriteCommand offset (.ofNat bytes.length) ++ bytes).length =
      Flash.headerLength + bytes.length := by
    rw [List.length_append]
    rfl
  unfold frame? frameV0?
  rw [hp]
  dsimp only
  rw [Flash.parseHeader_header]
  dsimp only
  rw [if_pos ⟨rfl, by rw [hcount, htotal]⟩]
  rfl

theorem frame?_readV0 {offset : UInt32} {length : Nat} (hp : s.config.protocol = .v0)
    (hlength : length < 0x10000) :
    s.frame? [.write (Flash.header V0.flashReadCommand offset (.ofNat length)), .read length] =
      some (.load offset length) := by
  have hcount : (UInt16.ofNat length).toNat = length := by
    rw [UInt16.toNat_ofNat']
    omega
  have hparse := Flash.parseHeader_header V0.flashReadCommand offset (.ofNat length) []
  rw [List.append_nil] at hparse
  unfold frame? frameV0?
  rw [hp]
  dsimp only
  have hcommand : Flash.header V0.flashReadCommand offset (.ofNat length) ≠ [V0.versionRegister] :=
    fun heq => absurd (List.cons.inj heq).1 (by decide)
  rw [if_neg hcommand, hparse]
  exact if_pos ⟨rfl, hcount⟩

theorem frame?_address {offset : UInt32} {length : Nat} (hp : s.config.protocol = .v1)
    (hlength : length < 0x100) :
    s.frame? [.write (V1.flashAddressCommand :: Flash.location offset (.ofNat length))] =
      some (.address offset length) := by
  have hcount : (UInt8.ofNat length).toNat = length := by
    rw [UInt8.toNat_ofNat']
    omega
  unfold frame? frameV1?
  rw [hp]
  dsimp only
  rw [if_pos rfl, Flash.parseLocation_location, Option.map_some, hcount]

theorem frame?_writeV1 {offset : UInt32} {bytes : List UInt8} (hp : s.config.protocol = .v1)
    (haddress : s.flashAddress = some (offset, bytes.length)) :
    s.frame? [.write (V1.flashDataCommand :: bytes)] = some (.store offset bytes) := by
  unfold frame? frameV1?
  rw [hp, haddress]
  dsimp only
  rw [if_neg (by decide), if_pos rfl, if_pos rfl]

theorem frame?_readV1 {offset : UInt32} {length : Nat} (hp : s.config.protocol = .v1)
    (haddress : s.flashAddress = some (offset, length)) :
    s.frame? [.write [V1.flashDataCommand], .read length] = some (.load offset length) := by
  unfold frame? frameV1?
  rw [hp, haddress]
  exact if_pos ⟨rfl, rfl⟩

theorem frame?_version {length : Nat} (hp : s.config.protocol = .v0) :
    s.frame? [.write [V0.versionRegister], .read length] = some (.version length) := by
  unfold frame? frameV0?
  rw [hp]
  exact if_pos rfl

/-! ## Blocks -/

theorem attempt_block (command : UInt8) (length : Nat) (h : s.Running p) :
    attempt (.readBlock command length) s = match s.blockField? command with
      | some text => ⟨⟨.ok length, field text length⟩, s.count (.readBlock command length), []⟩
      | none => refuse (s.count (.readBlock command length)) := by
  rw [attempt_running (by simp) h, serve]
  rfl

theorem Alike.blockField?_eq (h : s.Alike t) (command : UInt8) :
    t.blockField? command = s.blockField? command := by
  have hfaults : t.faults.noBoardType = s.faults.noBoardType := congrArg (·.faults.noBoardType) h.1
  unfold blockField?
  rw [h.config_eq, hfaults]

/-- A block is the text field behind its command, where there is one. -/
theorem follows_block {command : UInt8} {length : Nat}
    {replies : List (Reply (.readBlock command length))} {result : Except BusError Nat}
    (hs : s.Running p) (hsettles : Settles most replies result)
    (h : (bus label).Follows s (tries _ replies) s') :
    s.Alike s' ∧
    ((∃ text, s.blockField? command = some text ∧ result = .ok length ∧
      ∀ buffer, delivered buffer replies = overlay buffer (field text length)) ∨
    s.blockField? command = none ∧ ∃ e, result = .error e) := by
  obtain ⟨t, hlike, rfl, rfl, hdelivered⟩ := follows_settles hsettles h
  have hserve := attempt_block command length (hlike.running hs)
  rw [hlike.blockField?_eq] at hserve
  cases htext : s.blockField? command with
  | some text =>
    rw [htext] at hserve
    rw [hserve] at hdelivered ⊢
    exact ⟨hlike.trans alike_count, .inl ⟨text, rfl, rfl, hdelivered⟩⟩
  | none =>
    rw [htext] at hserve
    rw [hserve]
    exact ⟨hlike.trans alike_count, .inr ⟨rfl, nak, rfl⟩⟩

end Backplane.Simulator
