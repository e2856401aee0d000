import Backplane.Proofs.Simulator.Chunk
import Backplane.Proofs.Simulator.Identity
import Backplane.Proofs.Simulator.Restart
import Backplane.Proofs.Update.Chunks

/-!
# An update of a simulated controller, from end to end

A controller that runs and has no fault that stops an update takes the whole of it. Each stage is one
change of the controller, and the stages one behind the other give flash, the counters and the result
of an update exactly: the chunks of the image rounded up, the ping that is answered first, and the
identity that the controller has behind its reboot.

* `Simulator.written`: the controller behind the chunks.
* `Reaches.flashed`: the chunks, by induction on the loop.
* `Prepares.ok`, `Restarts.ok`: what comes before them, and behind them.
* `Flashes.ok`, `run_updates`: the whole update.
-/
namespace Backplane

namespace Simulator

variable {s s' t : Simulator} {us : UInt32} {p : Protocol}

/-- A controller that stored chunks with these bytes, and waited behind each of them. -/
def flashed (s : Simulator) (offset : Nat) (bytes : List UInt8) (chunks : Nat) (us : UInt32) :
    Simulator :=
  { s with
    flash := writeBytes s.flash offset bytes
    counters := { s.counters with
      flashChunks := s.counters.flashChunks + chunks
      delay := s.counters.delay + chunks * us.toNat } }

/-- A controller behind the erasure that the options ask for. -/
def erasedFor (s : Simulator) (options : UpdateOptions) : Simulator :=
  if options.erase then s.erase.paused options.eraseSettle else s

/-- A controller behind the chunks of an update. -/
def written (s : Simulator) (image : List UInt8) (options : UpdateOptions) (us : UInt32) : Simulator :=
  (s.connected.erasedFor options).flashed 0 image (Flash.Cursor.start image options.chunkSize).chunks us

theorem flashed_nil (s : Simulator) (offset : Nat) (us : UInt32) : s.flashed offset [] 0 us = s := by
  simp [flashed]

theorem store_paused (s : Simulator) (offset : UInt32) (bytes : List UInt8) (us : UInt32) :
    (s.store offset bytes).paused us = s.flashed offset.toNat bytes 1 us := by
  simp [flashed, store, paused]

theorem flashed_flashed (s : Simulator) (offset : Nat) (first rest : List UInt8) (m n : Nat)
    (us : UInt32) :
    (s.flashed offset first m us).flashed (offset + first.length) rest n us =
      s.flashed offset (first ++ rest) (m + n) us := by
  simp [flashed, writeBytes_append, Nat.add_mul, Nat.add_assoc]

theorem core_flashed (s : Simulator) (offset : Nat) (bytes : List UInt8) (chunks : Nat) (us : UInt32) :
    (s.flashed offset bytes chunks us).core = s.core.flashed offset bytes chunks us := rfl

theorem core_erasedFor (s : Simulator) (options : UpdateOptions) :
    (s.erasedFor options).core = s.core.erasedFor options := by
  unfold erasedFor
  cases options.erase <;> rfl

/-- A controller that runs, without a fault that stops an update: identifications are withheld less
often than a request is repeated. -/
structure Ready (s : Simulator) : Prop where
  booting : s.booting = none
  harmless : s.faults.Harmless
  nakIdent : s.faults.nakIdent ≤ 2

/-- Flash behind the chunks of an update. -/
theorem toList_flash_written {image : List UInt8} (himage : image.length ≤ imageMax) (s : Simulator)
    (options : UpdateOptions) (us : UInt32) :
    (s.written image options us).flash.toList =
      image ++ (if options.erase then .replicate (imageMax - image.length) 0xFF
        else s.flash.toList.drop image.length) := by
  unfold written flashed
  rw [toList_writeBytes _ himage]
  congr 1
  unfold erasedFor
  cases options.erase
  · rfl
  · change (Vector.replicate imageMax 0xFF).toList.drop image.length = _
    simp

/-- The counters behind the chunks of an update. -/
theorem counters_written (s : Simulator) (image : List UInt8) (options : UpdateOptions) (us : UInt32) :
    (s.written image options us).counters =
      let chunks := (image.length + options.chunkSize - 1) / options.chunkSize
      { s.counters with
        connects := s.counters.connects + 1
        flashChunks := s.counters.flashChunks + chunks
        erases := s.counters.erases + (if options.erase then 1 else 0)
        delay := s.counters.delay + (if options.erase then options.eraseSettle.toNat else 0) +
          chunks * us.toNat } := by
  unfold written erasedFor
  cases options.erase <;> rfl

/-- The counters behind the chunks, a reboot and some time, with `n` handles more. -/
theorem counters_updated {image : List UInt8} {options : UpdateOptions} {n elapsed : Nat}
    (h : t.core.counters = { (s.written image options us).core.counters.restarted elapsed with
      connects := (s.written image options us).counters.connects + n }) :
    let chunks := (image.length + options.chunkSize - 1) / options.chunkSize
    t.counters.flashChunks = s.counters.flashChunks + chunks ∧
    t.counters.reboots = s.counters.reboots + 1 ∧
    t.counters.erases = s.counters.erases + (if options.erase then 1 else 0) ∧
    t.counters.connects = s.counters.connects + 1 + n ∧
    t.counters.delay = s.counters.delay + (if options.erase then options.eraseSettle.toNat else 0) +
      chunks * us.toNat + elapsed := by
  have hwritten := counters_written s image options us
  have hconnects := congrArg (·.connects + n) hwritten
  have hdelay := congrArg (fun c : Counters => c.delay + elapsed) hwritten
  refine ⟨?_, ?_, ?_, ?_, ?_⟩
  · exact (congrArg (·.flashChunks) h).trans (congrArg (·.flashChunks) hwritten)
  · exact (congrArg (·.reboots) h).trans (congrArg (·.reboots + 1) hwritten)
  · exact (congrArg (·.erases) h).trans (congrArg (·.erases) hwritten)
  · exact (congrArg (·.connects) h).trans hconnects
  · exact (congrArg (·.delay) h).trans hdelay

theorem faults_written (s : Simulator) (image : List UInt8) (options : UpdateOptions) (us : UInt32) :
    (s.written image options us).faults = s.faults := by
  unfold written erasedFor
  cases options.erase <;> rfl

theorem identity_finishBoot_written (s : Simulator) (image : List UInt8) (options : UpdateOptions)
    (us : UInt32) : (s.written image options us).finishBoot.identity = s.finishBoot.identity := by
  unfold written erasedFor
  cases options.erase <;> rfl

theorem running_erasedFor {options : UpdateOptions} (hs : s.Running p) :
    (s.connected.erasedFor options).Running p := by
  unfold erasedFor
  cases options.erase <;> exact hs

theorem harmless_erasedFor {options : UpdateOptions} (hharmless : s.faults.Harmless) :
    (s.connected.erasedFor options).faults.Harmless := by
  unfold erasedFor
  cases options.erase <;> exact hharmless

end Simulator

namespace Update
open Simulator

variable {label name : String} {image : List UInt8} {options : UpdateOptions} {turns : List Turn}
  {d d' : Driver} {c c' : Flash.Cursor} {s s' : Simulator} {p : Protocol} {chunkSize : Nat}

section
variable (hsize : IsChunkSize chunkSize) (himage : image.length ≤ imageMax)
include hsize himage

/-- Without faults a chunk of the image is stored. -/
theorem Tracks.chunk_ok {chunk : List UInt8} {r : Except Error Unit} (htracks : Tracks image chunkSize c d)
    (hpending : c.pending = some chunk) (hs : s.Running d.protocol) (hharmless : s.faults.Harmless)
    (hwrites : d.Writes chunk turns r) (hfollows : (Simulator.bus name).Follows s turns s') :
    r = .ok () ∧ s'.core = (s.flashed c.offset chunk 1 d.protocol.pause).core := by
  obtain ⟨-, -, -, hle⟩ := htracks.bounds hsize hpending
  have hroom : d.flashOffset.toNat + chunk.length ≤ imageMax := by
    rw [htracks.offset_eq]
    omega
  obtain ⟨hok, hcore⟩ :=
    writes_ok hs hharmless (htracks.isChunk hsize hpending) hroom hwrites hfollows
  rw [store_paused, htracks.offset_eq] at hcore
  exact ⟨hok, hcore⟩

/-- The loop stores its chunks. -/
theorem Reaches.flashed (h : Reaches c d turns c' d') (htracks : Tracks image chunkSize c d)
    (hp : d.protocol = p) (hs : s.Running p) (hharmless : s.faults.Harmless)
    (hfollows : (Simulator.bus name).Follows s turns s') :
    ∃ bytes n, c.rest = bytes ++ c'.rest ∧ c.chunks = n + c'.chunks ∧
      s'.core = (s.flashed c.offset bytes n p.pause).core := by
  induction h generalizing s with
  | here =>
    obtain rfl := hfollows
    exact ⟨[], 0, rfl, (Nat.zero_add _).symm, by rw [flashed_nil]⟩
  | @step c c' d mid d' chunk first rest hpending hwrite _ ih =>
    obtain ⟨_, hfirst, t, rfl, hrest⟩ := Bus.follows_append.1 hfollows
    obtain ⟨hwrites, hlike⟩ := Driver.writes_writeChunk htracks.operational hwrite
    obtain ⟨-, hcore⟩ := htracks.chunk_ok hsize himage hpending (hp ▸ hs) hharmless hwrites hfirst
    rw [hp] at hcore
    obtain ⟨bytes, n, hbytes, hcount, hend⟩ :=
      ih (htracks.advance hsize himage hpending hlike) (hlike.protocol_eq.trans hp)
        (running_of_core hcore hs) (harmless_of_core hcore hharmless) hrest
    obtain ⟨hmore, rfl⟩ := Flash.Cursor.pending_eq hpending
    have hchunkSize : 0 < c.chunkSize := htracks.size_eq ▸ hsize.1
    refine ⟨c.rest.take c.chunkSize ++ bytes, 1 + n, ?_, ?_, ?_⟩
    · rw [List.append_assoc, ← hbytes]
      exact (List.take_append_drop ..).symm
    · rw [Flash.Cursor.chunks_advance hchunkSize hmore, hcount]
      omega
    · rw [hend, core_flashed, hcore, ← core_flashed, ← flashed_flashed]
      rfl

end

/-! ## Before the chunks -/

theorem Erases.ok {r : Except Error Driver} (h : Erases options d turns r) (hs : s.Running d.protocol)
    (hfollows : (Simulator.bus name).Follows s turns s') :
    (∃ d', r = .ok d') ∧ s'.core = (s.erasedFor options).core := by
  cases h with
  | skipped herase =>
    obtain rfl := hfollows
    refine ⟨⟨d, rfl⟩, ?_⟩
    rw [erasedFor, herase]
    rfl
  | @erased replies d' herase hcommand =>
    obtain ⟨mid, ⟨s, rfl, hcommands⟩, hsettle⟩ := Bus.follows_append.1 hfollows
    obtain ⟨-, hcore⟩ := follows_erase hs hcommand hcommands
    have hmid : mid.Running d.protocol := running_of_core (s := s.erase) hcore hs
    rw [follows_delayed hmid] at hsettle
    obtain rfl := hsettle
    refine ⟨⟨d', rfl⟩, ?_⟩
    rw [core_erasedFor, erasedFor, if_pos herase, ← hcore]
    rfl
  | failed herase hcommand =>
    obtain ⟨_, rfl, hcommands⟩ := hfollows
    obtain ⟨hok, -⟩ := follows_erase hs hcommand hcommands
    cases hok

/-- A controller that runs is identified and erased. -/
theorem identified_ok {opening identity erasing : List Turn} {mid : Driver} {before : DeviceInfo}
    {r : Except Error Driver} (hs : s.Running p) (hharmless : s.faults.Harmless)
    (hnak : s.faults.nakIdent < Device.attemptsMax) (hcreate : Driver.Creates label opening (.ok d))
    (hinfo : Runs Driver.deviceInfo d identity before mid) (herase : Erases options mid erasing r)
    (hfollows : (Simulator.bus name).Follows s
      (opening ++ identity ++ .told (.currentDevice before) :: erasing) s') :
    before = s.identity ∧ (∃ d', r = .ok d') ∧ s'.core = (s.connected.erasedFor options).core ∧
      s'.faults.nakIdent = 0 := by
  obtain ⟨_, hfront, last, rfl, herasing⟩ := Bus.follows_append.1 hfollows
  obtain ⟨t, hopening, hidentity⟩ := Bus.follows_append.1 hfront
  obtain ⟨hmade, ht, hzero⟩ := creates_ok hs hharmless hnak hcreate hopening
  obtain rfl := Except.ok.inj hmade
  have hrun : t.Running p := running_of_core (s := s.connected) ht hs
  obtain ⟨hbefore, hlast⟩ := deviceInfo_eq hrun rfl hinfo hidentity
  obtain ⟨hlike, -⟩ := Driver.deviceInfo_turns rfl hinfo
  have hrunning : last.Running mid.protocol := by
    rw [hlike.protocol_eq]
    exact running_of_core hlast hrun
  obtain ⟨hok, hcore⟩ := herase.ok hrunning herasing
  have hlastZero := nakIdent_follows hidentity
  have hendZero := nakIdent_follows herasing
  refine ⟨?_, hok, ?_, by omega⟩
  · rw [hbefore, identity_of_core (s := s.connected) ht]
    rfl
  · rw [hcore, core_erasedFor, core_erasedFor, hlast, ht]
    rfl

theorem Prepares.ok {before : DeviceInfo} (h : Prepares label options turns before d)
    (hs : s.Running p) (hharmless : s.faults.Harmless) (hnak : s.faults.nakIdent < Device.attemptsMax)
    (hfollows : (Simulator.bus name).Follows s turns s') :
    before = s.identity ∧ d.protocol = p ∧ s'.core = (s.connected.erasedFor options).core ∧
      s'.faults.nakIdent = 0 := by
  have hp := h.driver.2.1
  cases h with
  | ready hcreate hinfo herase =>
    obtain ⟨hbefore, -, hcore, hzero⟩ :=
      identified_ok hs hharmless hnak hcreate hinfo herase hfollows
    have hprotocol : s.identity.protocol = p := by
      rw [← hs.2]
      unfold identity
      cases s.config.protocol <;> rfl
    exact ⟨hbefore, by rw [hp, hbefore, hprotocol], hcore, hzero⟩

/-- A controller that runs lets every update of accepted size come to writing. -/
theorem Passes.flashes {r : Except Error UpdateReport} (h : Passes label image options turns r)
    (hs : s.Running p) (hharmless : s.faults.Harmless) (hnak : s.faults.nakIdent < Device.attemptsMax)
    (hfollows : (Simulator.bus name).Follows s turns s') : Flashes label image options turns r := by
  cases h with
  | absent hcreate =>
    obtain ⟨hmade, -⟩ := creates_ok hs hharmless hnak hcreate hfollows
    cases hmade
  | unerased hcreate hinfo herase =>
    obtain ⟨-, ⟨d', hok⟩, -⟩ := identified_ok hs hharmless hnak hcreate hinfo herase hfollows
    cases hok
  | flashed hflashes => exact hflashes

/-! ## Behind the chunks -/

theorem Reidentifies.ok {r : Except Error DeviceInfo} (h : Reidentifies label options turns r)
    (hs : s.Running p) (hharmless : s.faults.Harmless) (hnak : s.faults.nakIdent < Device.attemptsMax)
    (hfollows : (Simulator.bus name).Follows s turns s') :
    r = verdict options s.identity ∧ s'.core = s.connected.core := by
  cases h with
  | absent hcreate =>
    obtain ⟨hmade, -⟩ := creates_ok hs hharmless hnak hcreate hfollows
    cases hmade
  | identified hcreate hinfo =>
    obtain ⟨t, hopening, hidentity⟩ := Bus.follows_append.1 hfollows
    obtain ⟨hmade, ht, -⟩ := creates_ok hs hharmless hnak hcreate hopening
    obtain rfl := Except.ok.inj hmade
    have hrun : t.Running p := running_of_core (s := s.connected) ht hs
    obtain ⟨rfl, hcore⟩ := deviceInfo_eq hrun rfl hinfo hidentity
    rw [identity_of_core (s := s.connected) ht]
    exact ⟨rfl, hcore.trans ht⟩

/-- Behind a reboot the first ping behind the boot time is answered, and the controller is identified
once more; with too few pings it is lost. -/
theorem Restarts.ok {r : Except Error (UInt32 × DeviceInfo)} (h : Restarts label options d turns r)
    (hs : s.Running d.protocol) (hharmless : s.faults.Harmless) (hnak : s.faults.nakIdent = 0)
    (hfollows : (Simulator.bus name).Follows s turns s') :
    (∃ k, answeringPing s.faults.bootTime options.pingInterval.toNat = some k ∧
      k ≤ options.pingAttempts.toNat ∧
      r = (verdict options s.finishBoot.identity).map (.ofNat k, ·) ∧
      s'.core = (s.returned (k * options.pingInterval.toNat)).connected.core ∧
      .told (.entered .reidentifying) ∈ turns) ∨
    ((∀ k, answeringPing s.faults.bootTime options.pingInterval.toNat = some k →
        options.pingAttempts.toNat < k) ∧
      r = .error (.deviceDidNotReturn options.pingAttempts) ∧ s'.flash = s.flash ∧
      s'.core.counters =
        s.core.counters.restarted (options.pingAttempts.toNat * options.pingInterval.toNat)) := by
  have hreturn := hharmless.neverReturn
  cases h with
  | unrebooted hreboot =>
    obtain ⟨hok, -⟩ := follows_reboot hs hreboot hfollows
    cases hok
  | lost hreboot hpings =>
    obtain ⟨mid, hfirst, _, rfl, hrest⟩ := Bus.follows_append.1 hfollows
    obtain ⟨-, hmid⟩ := follows_reboot hs hreboot hfirst
    have hzero := nakIdent_follows hfirst
    obtain ⟨k, -, -, hok, -⟩ | ⟨hfew, herror, hflash, hcounters⟩ :=
      awaits_reboot hreturn hmid (by omega) hpings hrest
    · cases hok
    · exact .inr ⟨hfew, by rw [Except.error.inj herror], hflash, hcounters⟩
  | @returned replies pings identity n r hreboot hpings hidentity =>
    obtain ⟨_, hfront, back, rfl, hback⟩ := Bus.follows_append.1 hfollows
    obtain ⟨_, hfirst, mid, rfl, hrest⟩ := Bus.follows_append.1 hfront
    obtain ⟨-, hmid⟩ := follows_reboot hs hreboot hfirst
    have hzero := nakIdent_follows hfirst
    have hbackZero := nakIdent_follows hrest
    obtain ⟨k, hk, hle, hok, hcore⟩ | ⟨-, herror, -⟩ :=
      awaits_reboot hreturn hmid (by omega) hpings hrest
    · obtain rfl := Except.ok.inj hok
      have hreturned : back.core = (s.returned (k * options.pingInterval.toNat)).core := hcore
      have hrun := running_returned hcore
      have hfaults : back.faults.Harmless := by
        refine harmless_of_core hreturned ?_
        exact ⟨hharmless.1, hharmless.2, hharmless.3, hharmless.4, hharmless.5⟩
      have hidentified : back.faults.nakIdent < Device.attemptsMax := by
        rw [show back.faults.nakIdent = 0 by omega]
        decide
      obtain ⟨rfl, hend⟩ := hidentity.ok hrun hfaults hidentified hback
      refine .inl ⟨k, hk, hle, ?_, ?_, by simp⟩
      · rw [identity_of_core hreturned]
        rfl
      · exact hend.trans (congrArg connected hreturned)
    · cases herror

/-- The restart behind a written image, told from the controller that the update began with. -/
theorem Restarts.written {us : UInt32} {r : Except Error (UInt32 × DeviceInfo)} {t : Simulator}
    (h : Restarts label options d turns r) (ht : t.core = (s.written image options us).core)
    (hrun : t.Running d.protocol) (hharmless : s.faults.Harmless) (hnak : t.faults.nakIdent = 0)
    (hfollows : (Simulator.bus name).Follows t turns s') :
    (∃ k, answeringPing s.faults.bootTime options.pingInterval.toNat = some k ∧
      k ≤ options.pingAttempts.toNat ∧
      r = (verdict options s.finishBoot.identity).map (.ofNat k, ·) ∧
      s'.core =
        ((s.written image options us).returned (k * options.pingInterval.toNat)).connected.core ∧
      .told (.entered .reidentifying) ∈ turns) ∨
    ((∀ k, answeringPing s.faults.bootTime options.pingInterval.toNat = some k →
        options.pingAttempts.toNat < k) ∧
      r = .error (.deviceDidNotReturn options.pingAttempts) ∧
      s'.flash = (s.written image options us).flash ∧
      s'.core.counters = (s.written image options us).core.counters.restarted
        (options.pingAttempts.toNat * options.pingInterval.toNat)) := by
  have hwritten := faults_written s image options us
  have hfaults : t.faults.Harmless := harmless_of_core ht (hwritten ▸ hharmless)
  have hboot : t.faults.bootTime = s.faults.bootTime :=
    (congrArg (·.faults.bootTime) ht).trans (congrArg (·.bootTime) hwritten)
  have hidentity : t.finishBoot.identity = s.finishBoot.identity := by
    rw [← identity_finishBoot_written s image options us]
    exact identity_of_core (congrArg finishBoot ht)
  have hcounters : t.core.counters = (s.written image options us).core.counters :=
    congrArg (·.counters) ht
  have hrestarts := h.ok hrun hfaults hnak hfollows
  rw [hboot, hidentity] at hrestarts
  obtain ⟨k, hk, hle, hr, hcore, hreidentifying⟩ | ⟨hfew, hr, hflash, hlost⟩ := hrestarts
  · refine .inl ⟨k, hk, hle, hr, hcore.trans ?_, hreidentifying⟩
    exact congrArg (fun u => (u.returned (k * options.pingInterval.toNat)).connected) ht
  · refine .inr ⟨hfew, hr, hflash.trans (congrArg (·.flash) ht), ?_⟩
    rw [hlost, hcounters]

/-! ## The whole update -/

/-- Without faults what comes behind the loop is the restart: no chunk is left there. -/
theorem Concludes.restarts {before : DeviceInfo} {r : Except Error UpdateReport}
    (hsize : IsChunkSize chunkSize) (himage : image.length ≤ imageMax)
    (h : Concludes label options before c d turns r) (htracks : Tracks image chunkSize c d)
    (hs : s.Running d.protocol) (hharmless : s.faults.Harmless)
    (hfollows : (Simulator.bus name).Follows s turns s') :
    c.pending = none ∧ ∃ restart result, turns = .told (.entered .rebooting) :: restart ∧
      Restarts label options d restart result ∧
      r = result.map fun (pings, after) => ⟨before, after, c.offset, pings⟩ := by
  cases h with
  | abandoned hends =>
    cases hends with
    | abandoned hpending hwrite =>
      obtain ⟨_, hfailed, -⟩ := Bus.follows_append.1 hfollows
      obtain ⟨hwrites, -⟩ := Driver.writes_writeChunk htracks.operational hwrite
      cases (htracks.chunk_ok hsize himage hpending hs hharmless hwrites hfailed).1
  | restarted hpending hrestart => exact ⟨hpending, _, _, rfl, hrestart, rfl⟩

/-- An update that comes to writing writes the whole image, and then it is the restart that decides. -/
theorem Flashes.ok {r : Except Error UpdateReport} (haccept : Accepts image options)
    (h : Flashes label image options turns r) (hs : s.Running p) (hharmless : s.faults.Harmless)
    (hnak : s.faults.nakIdent < Device.attemptsMax)
    (hfollows : (Simulator.bus name).Follows s turns s') :
    (∃ k, answeringPing s.faults.bootTime options.pingInterval.toNat = some k ∧
      k ≤ options.pingAttempts.toNat ∧
      r = (verdict options s.finishBoot.identity).map (⟨s.identity, ·, image.length, .ofNat k⟩) ∧
      s'.core =
        ((s.written image options p.pause).returned (k * options.pingInterval.toNat)).connected.core ∧
      .told (.entered .reidentifying) ∈ turns) ∨
    ((∀ k, answeringPing s.faults.bootTime options.pingInterval.toNat = some k →
        options.pingAttempts.toNat < k) ∧
      r = .error (.deviceDidNotReturn options.pingAttempts) ∧
      s'.flash = (s.written image options p.pause).flash ∧
      s'.core.counters = (s.written image options p.pause).core.counters.restarted
        (options.pingAttempts.toNat * options.pingInterval.toNat)) := by
  obtain ⟨-, himage, hsize⟩ := haccept
  cases h with
  | @flashed ready written ending before d d' c r hready hwritten hconcludes =>
    -- The controller behind each part of the update.
    obtain ⟨mid, hfront, hending⟩ := Bus.follows_append.1 hfollows
    obtain ⟨_, hprepared, _, rfl, start, rfl, hloop⟩ := Bus.follows_append.1 hfront
    obtain ⟨rfl, hp, hstart, hzero⟩ := hready.ok hs hharmless hnak hprepared
    have hrun : start.Running p := running_of_core hstart (running_erasedFor hs)
    have hfaults : start.faults.Harmless := harmless_of_core hstart (harmless_erasedFor hharmless)
    -- The loop stores the image up to the cursor, which is at the end of the image.
    have htracks : Tracks image options.chunkSize (.start image options.chunkSize) d :=
      .start hready.driver.1 hready.flashOffset_eq
    obtain ⟨bytes, n, hbytes, hcount, hmid⟩ :=
      hwritten.flashed hsize himage htracks hp hrun hfaults hloop
    have hlast := hwritten.tracks hsize himage htracks
    have hmidRun : mid.Running d'.protocol := by
      rw [(hwritten.driver hready.driver.1).2.1, hp]
      exact running_of_core hmid hrun
    obtain ⟨hpending, restart, result, rfl, hrestart, rfl⟩ :=
      hconcludes.restarts hsize himage hlast hmidRun (harmless_of_core hmid hfaults) hending
    have hrest : c.rest = [] := Flash.Cursor.pending_eq_none.1 hpending
    have hwhole : mid.core = (s.written image options p.pause).core := by
      rw [hrest, List.append_nil] at hbytes
      rw [Flash.Cursor.chunks_nil (hlast.size_eq ▸ hsize.1) hrest, Nat.add_zero] at hcount
      rw [hmid, core_flashed, hstart, ← core_flashed, ← hbytes, ← hcount]
      rfl
    -- What comes of it.
    have hmidZero := nakIdent_follows hloop
    have hlength : c.offset = image.length := hlast.offset_eq_length.2 hpending
    obtain ⟨last, rfl, hrestarting⟩ := hending
    obtain ⟨k, hk, hle, rfl, hcore, hreidentifying⟩ | ⟨hfew, rfl, hflash, hlost⟩ :=
      hrestart.written hwhole hmidRun hharmless (by omega) hrestarting
    · refine .inl ⟨k, hk, hle, ?_, hcore, by simp [hreidentifying]⟩
      rw [hlength]
      cases verdict options s.finishBoot.identity <;> rfl
    · exact .inr ⟨hfew, rfl, hflash, hlost⟩

/-- An update of accepted sizes is not refused. -/
theorem Shows.passes {r : Except Error UpdateReport} (haccept : Accepts image options)
    (h : Shows label image options turns r) :
    ∃ stages, turns = stages ++ closing r ∧ Passes label image options stages r := by
  obtain ⟨himin, himax, hsize⟩ := haccept
  cases h with
  | refused hrefuse =>
    cases hrefuse with
    | image hrefused => exact absurd ⟨himin, himax⟩ hrefused
    | chunkSize _ hrefused => exact absurd hsize hrefused
  | accepted _ hpass => exact ⟨_, rfl, hpass⟩

theorem follows_closing {r : Except Error UpdateReport}
    (h : (Simulator.bus name).Follows s (closing r) s') : s' = s := by
  cases r with
  | ok report =>
    obtain ⟨_, rfl, _, rfl, rfl⟩ := h
    rfl
  | error e =>
    obtain ⟨_, rfl, rfl⟩ := h
    rfl

/-- A whole update of a controller that stands ready: flash, the counters and the result. -/
theorem run_updates (name label : String) (events : Array Event) (s : Simulator) (image : List UInt8)
    (options : UpdateOptions) (hready : s.Ready) (haccept : Accepts image options) :
    let site := (Simulator.bus name).site
    let turns := site.moves (run label image options) ⟨s, events⟩
    let result := (site.run (run label image options) ⟨s, events⟩).1
    let t := (site.run (run label image options) ⟨s, events⟩).2.state
    let chunks := (image.length + options.chunkSize - 1) / options.chunkSize
    let settling := if options.erase then options.eraseSettle.toNat else 0
    let pause := match s.config.protocol with
      | .v0 => 100000
      | .v1 => 50000
    let interval := options.pingInterval.toNat
    t.flash.toList = image ++ (if options.erase then .replicate (imageMax - image.length) 0xFF
      else s.flash.toList.drop image.length) ∧
    t.counters.flashChunks = s.counters.flashChunks + chunks ∧
    t.counters.reboots = s.counters.reboots + 1 ∧
    t.counters.erases = s.counters.erases + (if options.erase then 1 else 0) ∧
    ((∃ k, answeringPing s.faults.bootTime interval = some k ∧ k ≤ options.pingAttempts.toNat ∧
        .told (.entered .reidentifying) ∈ turns ∧
        t.counters.connects = s.counters.connects + 2 ∧
        t.counters.delay = s.counters.delay + settling + chunks * pause + k * interval ∧
        result = (verdict options s.finishBoot.identity).map (⟨s.identity, ·, image.length, .ofNat k⟩)) ∨
      ((∀ k, answeringPing s.faults.bootTime interval = some k → options.pingAttempts.toNat < k) ∧
        t.counters.connects = s.counters.connects + 1 ∧
        t.counters.delay = s.counters.delay + settling + chunks * pause +
          options.pingAttempts.toNat * interval ∧
        result = .error (.deviceDidNotReturn options.pingAttempts))) := by
  intro site turns result t chunks settling pause interval
  have hshows : Shows label image options turns result := shows_run (site.course_moves _ ⟨s, events⟩)
  have hfollows : (Simulator.bus name).Follows s turns t := Bus.follows_moves _ _ ⟨s, events⟩
  have hs : s.Running s.config.protocol := ⟨hready.booting, rfl⟩
  have hnak : s.faults.nakIdent < Device.attemptsMax := Nat.lt_succ_of_le hready.nakIdent
  have hpause : s.config.protocol.pause.toNat = pause := by
    unfold Protocol.pause pause
    cases s.config.protocol <;> rfl
  obtain ⟨stages, hturns, hpasses⟩ := hshows.passes haccept
  rw [hturns, Bus.follows_append] at hfollows
  obtain ⟨last, hstages, hclosing⟩ := hfollows
  obtain rfl : t = last := follows_closing hclosing
  have hflashes := hpasses.flashes hs hready.harmless hnak hstages
  have hflash := toList_flash_written haccept.2.1 s options s.config.protocol.pause
  obtain ⟨k, hk, hle, hresult, hcore, hreidentifying⟩ | ⟨hfew, hresult, hkept, hlost⟩ :=
    hflashes.ok haccept hs hready.harmless hnak hstages
  · obtain ⟨hchunks, hreboots, herases, hconnects, hdelay⟩ :=
      counters_updated (n := 1) (congrArg (·.counters) hcore)
    rw [hpause] at hdelay
    refine ⟨?_, hchunks, hreboots, herases, .inl ⟨k, hk, hle, ?_, hconnects, hdelay, hresult⟩⟩
    · rw [← hflash]
      exact congrArg (·.flash.toList) hcore
    · rw [hturns]
      exact List.mem_append_left _ hreidentifying
  · obtain ⟨hchunks, hreboots, herases, hconnects, hdelay⟩ := counters_updated (n := 0) hlost
    rw [hpause] at hdelay
    refine ⟨?_, hchunks, hreboots, herases, .inr ⟨hfew, hconnects, hdelay, hresult⟩⟩
    rw [← hflash]
    exact congrArg (·.toList) hkept

/-- A controller of the newer generation that boots for a second and a half returns with the second
ping of an update. -/
theorem run_updates_blank :
    (start (.blank .v1) { bootTime := 1500000, nakIdent := 2 }).Ready ∧ Accepts (.replicate 64 0) {} ∧
    ((Simulator.bus "sim").site.run (run "sim" (.replicate 64 0) {})
      ⟨start (.blank .v1) { bootTime := 1500000, nakIdent := 2 }, #[]⟩).2.state.counters.delay =
        2050000 := by
  have hready : (start (.blank .v1) { bootTime := 1500000, nakIdent := 2 }).Ready :=
    ⟨rfl, ⟨rfl, rfl, rfl, rfl, rfl⟩, Nat.le_refl 2⟩
  have haccept : Accepts (.replicate 64 0) {} := ⟨by decide, by decide, by decide⟩
  have hping : answeringPing 1500000 1000000 = some 2 := by decide
  obtain ⟨-, -, -, -, h⟩ := run_updates "sim" "sim" #[] _ (.replicate 64 0) {} hready haccept
  obtain ⟨k, hk, -, -, -, hdelay, -⟩ | ⟨hfew, -⟩ := h
  · obtain rfl : 2 = k := Option.some.inj (hping.symm.trans hk)
    exact ⟨hready, haccept, hdelay⟩
  · exact absurd (hfew 2 hping) (by decide)

end Update
end Backplane
