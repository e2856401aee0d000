import Backplane.Proofs.Simulator.Chunk
import Backplane.Proofs.Update.Coverage

/-!
# What an update leaves in flash, under every fault

An update tells an observer how much of its image is written. Whatever the faults of the controller,
flash holds that much of the image behind the update, and behind the chunk that follows nothing has
changed since writing started: a bad image is never reported as verified.

* `Staged`: the invariant of the loop over the chunks, which ties flash to the cursor.
* `Flashes.flash`: flash behind an update that came to writing.
* `Shows.flash_written`, `Shows.flash_whole`, `Shows.flash_kept`: flash behind what can be seen of an
  update.
* `run_verifies_flash`: every update, at every simulated controller.
-/
namespace Backplane

/-- How much of the image is written, where an observer is told of it. -/
def Progress.written? : Progress → Option Nat
  | .written n => some n
  | _ => none

/-- How much an observer was told last to be written, nothing if it was not told. -/
def lastWritten (turns : List Turn) : Nat :=
  ((notices turns).filterMap Progress.written?).getLast?.getD 0

namespace Update
open Simulator (writeBytes Running)

variable {label name : String} {image : List UInt8} {options : UpdateOptions} {turns : List Turn}
  {d d' : Driver} {c c' : Flash.Cursor} {s s' : Simulator} {base : Vector UInt8 imageMax} {p : Protocol}
  {chunkSize : Nat}

/-- The controller runs, and its flash is what it was when writing started, but for the image up to
the cursor. -/
structure Staged (image : List UInt8) (base : Vector UInt8 imageMax) (p : Protocol) (c : Flash.Cursor)
    (s : Simulator) : Prop where
  running : s.Running p
  flash_eq : s.flash = writeBytes base 0 (image.take c.offset)

theorem running_writeChunk {bytes : List UInt8} {r : Except Error Unit}
    (hd : d.device.operational = true) (hwrite : Runs (Driver.writeChunk bytes).run d turns r d')
    (hs : s.Running p) (h : (Simulator.bus name).Follows s turns s') : s'.Running p := by
  refine Simulator.running_follows hs ?_ h
  intro turn hturn
  rcases Driver.writeChunk_activity hd hwrite turn hturn with hact | hact | hact <;> simp [hact]

/-- The image up to the cursor and the chunk there are the image up to the end of the chunk. -/
theorem Tracks.take_append {chunk : List UInt8} (h : Tracks image chunkSize c d)
    (hpending : c.pending = some chunk) :
    image.take (c.offset + chunk.length) = image.take c.offset ++ chunk := by
  have hprefix : chunk <+: image.drop c.offset := by
    rw [h.chunk_eq hpending]
    exact List.take_prefix ..
  rw [List.take_add, ← List.prefix_iff_eq_take.1 hprefix]

/-- A controller for which a driver was made runs and speaks the generation of the driver. -/
theorem running_creates (h : Driver.Creates label turns (.ok d))
    (hfollows : (Simulator.bus name).Follows s turns s') : s'.Running d.protocol := by
  obtain ⟨reply, replies, byte, p, rfl, -, hread, hident, rfl⟩ := h.ok_inv
  obtain ⟨t, -, hreads⟩ := Bus.follows_append.1 hfollows
  obtain ⟨q, rfl, hrun, hlike⟩ := Simulator.follows_ident_ok hread hreads
  rw [Protocol.ofIdent?_ident] at hident
  cases hident
  exact hlike.running hrun

/-- When writing starts, the controller runs. -/
theorem Prepares.running {before : DeviceInfo} (h : Prepares label options turns before d)
    (hfollows : (Simulator.bus name).Follows s turns s') : s'.Running d.protocol := by
  have hp := h.driver.2.1
  cases h with
  | @ready opening identity erasing d mid d' before hcreate hinfo herase =>
    obtain ⟨t, hfront, hrest⟩ := Bus.follows_append.1 hfollows
    obtain ⟨u, hopening, hidentity⟩ := Bus.follows_append.1 hfront
    have hrun := running_creates hcreate hopening
    obtain ⟨_, _, _, q, _, _, _, _, rfl⟩ := hcreate.ok_inv
    have hbefore : before.protocol = q := (Driver.deviceInfo_turns rfl hinfo).2.1
    rw [hp, hbefore]
    have hidle : ∀ turn ∈ identity, turn.activity ≠ .reboot := by
      intro turn hturn
      simp [Driver.deviceInfo_activity rfl hinfo turn hturn]
    have hrun := Simulator.running_follows hrun hidle hidentity
    refine Simulator.running_follows hrun (List.forall_mem_cons.2 ⟨by simp [Turn.activity], ?_⟩) hrest
    exact fun turn hturn => (herase.idle turn hturn).1.2.2

/-- A chunk extends the image in flash, or flash stays as it was. -/
theorem Staged.chunk {chunk : List UInt8} {r : Except Error Unit} (h : Staged image base p c s)
    (hp : d.protocol = p) (htracks : Tracks image chunkSize c d) (hpending : c.pending = some chunk)
    (hwrites : d.Writes chunk turns r) (hfollows : (Simulator.bus name).Follows s turns s') :
    s'.flash = writeBytes base 0 (image.take (c.offset + chunk.length)) ∨
      r ≠ .ok () ∧ s'.flash = s.flash := by
  obtain hflash | hkept := Simulator.flash_writes (hp ▸ h.running) hwrites hfollows
  · refine .inl ?_
    have hlength : (image.take c.offset).length = c.offset := by
      rw [List.length_take]
      exact Nat.min_eq_left htracks.offset_le
    rw [hflash, h.flash_eq, htracks.take_append hpending, Simulator.writeBytes_append, hlength,
      htracks.offset_eq, Nat.zero_add]
  · exact .inr hkept

section
variable (hsize : IsChunkSize chunkSize) (himage : image.length ≤ imageMax)
include hsize himage

/-- The loop keeps the image up to the cursor in flash. -/
theorem Reaches.staged (h : Reaches c d turns c' d') (hp : d.protocol = p)
    (htracks : Tracks image chunkSize c d) (hstaged : Staged image base p c s)
    (hfollows : (Simulator.bus name).Follows s turns s') : Staged image base p c' s' := by
  induction h generalizing s with
  | here =>
    obtain rfl := hfollows
    exact hstaged
  | @step c c' d mid d' chunk first rest hpending hwrite _ ih =>
    obtain ⟨t, hfirst, _, rfl, hrest⟩ := Bus.follows_append.1 hfollows
    obtain ⟨hwrites, hlike⟩ := Driver.writes_writeChunk htracks.operational hwrite
    refine ih (hlike.protocol_eq.trans hp) (htracks.advance hsize himage hpending hlike) ⟨?_, ?_⟩ hrest
    · exact running_writeChunk htracks.operational hwrite hstaged.running hfirst
    · obtain hflash | ⟨hne, -⟩ := hstaged.chunk hp htracks hpending hwrites hfirst
      · rw [hflash, (Flash.Cursor.pending_eq hpending).2]
        rfl
      · exact absurd rfl hne

omit hsize himage

theorem flash_tries_reboot {q : Protocol} {replies : List (Reply (.writeByte q.rebootCommand))}
    (h : (Simulator.bus name).Follows s (tries _ replies) s') : s'.flash = s.flash := by
  refine Simulator.flash_follows ?_ h
  intro turn hturn
  rw [activity_tries hturn, activity_rebootCommand]
  exact ⟨by decide, fun herase => by cases herase⟩

/-- Behind the reboot flash stays as it is. -/
theorem Restarts.flash_eq {r : Except Error (UInt32 × DeviceInfo)} (h : Restarts label options d turns r)
    (hfollows : (Simulator.bus name).Follows s turns s') : s'.flash = s.flash := by
  refine Simulator.flash_follows ?_ hfollows
  obtain ⟨replies, outcome, after, hturns, -, -, hafter⟩ :=
    h.reopens (List.mem_singleton_self (Turn.told (.entered .rebooting))) (.error .deviceInfoUnavailable)
  intro turn hturn
  have hmem : turn ∈ tries (.writeByte d.protocol.rebootCommand) replies ++ after :=
    hturns ▸ List.mem_append_left _ hturn
  rcases List.mem_append.1 hmem with hreboot | hlater
  · rw [activity_tries hreboot, activity_rebootCommand]
    exact ⟨by decide, fun herase => by cases herase⟩
  · have htouches := hafter turn hlater
    refine ⟨fun hwrite => htouches (by simp [TouchesFlash, hwrite]), fun herase => ?_⟩
    exact absurd (by simp [TouchesFlash, herase]) htouches

include hsize in
/-- Behind the loop flash holds the image up to the cursor, and at most the chunk there as well. -/
theorem Concludes.flash {before : DeviceInfo} {r : Except Error UpdateReport}
    (h : Concludes label options before c d turns r) (hp : d.protocol = p)
    (htracks : Tracks image chunkSize c d) (hstaged : Staged image base p c s)
    (hfollows : (Simulator.bus name).Follows s turns s') :
    ∃ n, c.offset ≤ n ∧ n ≤ min (c.offset + chunkSize) image.length ∧
      s'.flash = writeBytes base 0 (image.take n) := by
  have hoffset := htracks.offset_le
  cases h with
  | abandoned hends =>
    cases hends with
    | abandoned hpending hwrite hreboot =>
      obtain ⟨t, hfailed, hrebooting⟩ := Bus.follows_append.1 hfollows
      obtain ⟨-, hlength, -, hle⟩ := htracks.bounds hsize hpending
      obtain ⟨hwrites, -⟩ := Driver.writes_writeChunk htracks.operational hwrite
      rw [flash_tries_reboot hrebooting]
      obtain hflash | ⟨-, hflash⟩ := hstaged.chunk hp htracks hpending hwrites hfailed
      · exact ⟨_, by omega, by omega, hflash⟩
      · exact ⟨c.offset, Nat.le_refl _, by omega, hflash.trans hstaged.flash_eq⟩
  | restarted hpending hrestart =>
    obtain ⟨_, rfl, hrest⟩ := hfollows
    exact ⟨c.offset, Nat.le_refl _, by omega, (hrestart.flash_eq hrest).trans hstaged.flash_eq⟩

end

/-! ## Updates that come past writing -/

/-- The results of an update whose image is written: what fails behind that is the restart. -/
def ComesPast : Except Error UpdateReport → Prop
  | .ok _ => True
  | .error (.deviceDidNotReturn _) => True
  | .error .deviceInfoUnavailable => True
  | .error (.versionMismatch _ _) => True
  | .error _ => False

theorem Concludes.pending_eq_none {before : DeviceInfo} {r : Except Error UpdateReport}
    (hd : d.device.operational = true) (h : Concludes label options before c d turns r)
    (hr : ComesPast r) : c.pending = none := by
  cases h with
  | abandoned hends =>
    cases hends with
    | abandoned hpending hwrite =>
      obtain ⟨hwrites, -⟩ := Driver.writes_writeChunk hd hwrite
      obtain ⟨op, source, rfl⟩ | rfl | ⟨-, rfl⟩ := Driver.writes_error hwrites <;> cases hr
  | restarted hpending => exact hpending

/-- An update whose result says that it came past writing did so. -/
theorem Shows.flashes {r : Except Error UpdateReport} (h : Shows label image options turns r)
    (hr : ComesPast r) :
    ∃ stages, turns = stages ++ closing r ∧ Accepts image options ∧
      Flashes label image options stages r := by
  cases h with
  | refused hrefuse => cases hrefuse <;> cases hr
  | accepted haccept hpass =>
    cases hpass with
    | absent hcreate => obtain rfl | ⟨answer, rfl⟩ := hcreate.error_inv <;> cases hr
    | unerased _ _ herase =>
      cases herase
      cases hr
    | flashed hflashes => exact ⟨_, rfl, haccept, hflashes⟩

/-- What is told behind the loop does not change how much is written. -/
theorem lastWritten_eq (total : Nat) {ready written ending : List Turn} {before : DeviceInfo}
    (hready : Prepares label options ready before d)
    (hwritten : Reaches (.start image chunkSize) d written c d')
    (hlate : ∀ q ∈ notices ending, isLate q = true) :
    lastWritten (ready ++ .told (.entered .writing) :: .told (.writing total) :: written ++ ending) =
      c.offset := by
  obtain ⟨offsets, hoffsets, hlast⟩ := notices_written total hready hwritten
  have hending : (notices ending).filterMap Progress.written? = [] := by
    refine List.filterMap_eq_nil_iff.2 ?_
    intro q hq
    have hq := hlate q hq
    cases q <;> simp_all [isLate, Progress.written?]
  have herasing : (if options.erase then [Progress.entered .erasing] else []).filterMap
      Progress.written? = [] := by
    split <;> rfl
  have hwrites : (offsets.map Progress.written).filterMap Progress.written? = offsets := by
    rw [List.filterMap_map]
    exact List.filterMap_some
  rw [lastWritten, notices_append, List.filterMap_append, hending, List.append_nil, hoffsets,
    List.cons_append, List.filterMap_cons_none rfl, List.filterMap_append, herasing,
    List.nil_append, List.filterMap_cons_none rfl, List.filterMap_cons_none rfl, hwrites]
  exact hlast

/-- Flash behind an update that came to writing. -/
theorem Flashes.flash {stages : List Turn} {r : Except Error UpdateReport} (haccept : Accepts image options)
    (h : Flashes label image options stages r) (hturns : turns = stages ++ closing r)
    (hfollows : (Simulator.bus name).Follows s turns s') :
    ∃ (before after : List Turn) (start : Simulator) (n : Nat),
      turns = before ++ .told (.entered .writing) :: after ∧
      .told (.entered .writing) ∉ before ∧ (Simulator.bus name).Follows s before start ∧
      s'.flash = writeBytes start.flash 0 (image.take n) ∧
      lastWritten turns ≤ n ∧ n ≤ min (lastWritten turns + options.chunkSize) image.length ∧
      (lastWritten turns = image.length ↔ .told (.entered .rebooting) ∈ turns) ∧
      (ComesPast r → lastWritten turns = image.length) := by
  subst hturns
  obtain ⟨-, himage, hsize⟩ := haccept
  cases h with
  | @flashed ready written ending before d d' c r hready hwritten hconcludes =>
    -- The controller behind each part of the update.
    obtain ⟨last, hstages, hclosing⟩ := Bus.follows_append.1 hfollows
    obtain ⟨mid, hfront, hending⟩ := Bus.follows_append.1 hstages
    obtain ⟨_, hprepared, _, rfl, start, rfl, hloop⟩ := Bus.follows_append.1 hfront
    have hlast : s'.flash = last.flash := by
      refine Simulator.flash_follows ?_ hclosing
      cases r <;> simp [closing, Turn.activity]
    -- The loop, and what comes behind it.
    have hstart : Tracks image options.chunkSize (.start image options.chunkSize) d :=
      .start hready.driver.1 hready.flashOffset_eq
    have hstaged := hwritten.staged hsize himage rfl hstart
      ⟨hready.running hprepared, rfl⟩ hloop
    have htracks := hwritten.tracks hsize himage hstart
    obtain ⟨hd', hp', -⟩ := hwritten.driver hready.driver.1
    obtain ⟨n, hle, hlt, hflash⟩ := hconcludes.flash hsize hp' htracks hstaged hending
    -- What the observer was told.
    obtain ⟨hlate, -⟩ := hconcludes.notices hd'
    obtain ⟨-, htold⟩ := Concludes.told image.length hready hwritten hconcludes
    have hcount := lastWritten_eq image.length hready hwritten hlate
    have hwhole : c.offset = image.length ↔ c.pending = none := htracks.offset_eq_length
    rw [← List.append_assoc] at hcount
    rw [hcount]
    refine ⟨ready, .told (.writing image.length) :: (written ++ (ending ++ closing r)), start, n,
      by simp, ?_, hprepared, hlast.trans hflash, hle, hlt, hwhole.trans htold.symm, ?_⟩
    · rw [← mem_notices, hready.notices]
      simp
    · intro hr
      exact hwhole.2 (hconcludes.pending_eq_none hd' hr)

theorem take_writeBytes {m n : Nat} (base : Vector UInt8 imageMax) (hle : m ≤ n)
    (hn : n ≤ image.length) (himage : image.length ≤ imageMax) :
    (writeBytes base 0 (image.take n)).toList.take m = image.take m := by
  have hlength : (image.take n).length = n := by
    rw [List.length_take]
    omega
  rw [Simulator.toList_writeBytes base (by omega), List.take_append_of_le_length (by omega),
    List.take_take, Nat.min_eq_left hle]

variable {r : Except Error UpdateReport}

/-- How much an observer was told is in flash, and behind the chunk that follows nothing changed. -/
theorem Shows.flash_written (h : Shows label image options turns r)
    (hfollows : (Simulator.bus name).Follows s turns s') (hwriting : .told (.entered .writing) ∈ turns) :
    ∃ before after start, turns = before ++ .told (.entered .writing) :: after ∧
      .told (.entered .writing) ∉ before ∧ (Simulator.bus name).Follows s before start ∧
      s'.flash.toList.take (lastWritten turns) = image.take (lastWritten turns) ∧
      (∀ i, min (lastWritten turns + options.chunkSize) image.length ≤ i →
        s'.flash[i]? = start.flash[i]?) ∧
      (lastWritten turns = image.length ↔ .told (.entered .rebooting) ∈ turns) := by
  obtain ⟨p, hidles⟩ | ⟨stages, hturns, haccept, hcame⟩ := h.idle_or_flashes
  · exact absurd hwriting (hidles.not_entered (by decide))
  · obtain ⟨before, after, start, n, hsplit, hfirst, hstart, hflash, hle, hlt, hwhole, -⟩ :=
      hcame.flash haccept hturns hfollows
    refine ⟨before, after, start, hsplit, hfirst, hstart, ?_, ?_, hwhole⟩
    · rw [hflash]
      exact take_writeBytes _ hle (by omega) haccept.2.1
    · intro i hi
      have hlength : (image.take n).length = n := by
        rw [List.length_take]
        omega
      rw [hflash]
      exact Simulator.getElem?_writeBytes_outside (by omega)

/-- An update whose result says that it came past writing has its whole image in flash. -/
theorem Shows.flash_whole (h : Shows label image options turns r)
    (hfollows : (Simulator.bus name).Follows s turns s') (hr : ComesPast r) :
    s'.flash.toList.take image.length = image := by
  obtain ⟨stages, hturns, haccept, hcame⟩ := h.flashes hr
  obtain ⟨before, after, start, n, -, -, -, hflash, hle, hlt, -, hwhole⟩ :=
    hcame.flash haccept hturns hfollows
  rw [hwhole hr] at hle
  rw [hflash, take_writeBytes _ hle (by omega) haccept.2.1, List.take_length]

/-- An update that does not come to writing leaves flash as it was. -/
theorem Shows.flash_kept (h : Shows label image options turns r)
    (hfollows : (Simulator.bus name).Follows s turns s') (hwriting : .told (.entered .writing) ∉ turns) :
    s'.flash = s.flash := by
  obtain ⟨p, hidles⟩ | ⟨stages, hturns, haccept, hcame⟩ := h.idle_or_flashes
  · refine Simulator.flash_follows ?_ hfollows
    intro turn hturn
    exact ⟨(hidles.idle turn hturn).1, hidles.unerased turn hturn⟩
  · obtain ⟨before, after, start, n, hsplit, -⟩ := hcame.flash haccept hturns hfollows
    rw [hsplit] at hwriting
    exact absurd (by simp) hwriting

/-- The flash of a simulated controller behind an update, whatever its faults. -/
theorem run_verifies_flash (name label : String) (bench : Bench Simulator) (image : List UInt8)
    (options : UpdateOptions) :
    let site := (Simulator.bus name).site
    let turns := site.moves (run label image options) bench
    let result := (site.run (run label image options) bench).1
    let flash := (site.run (run label image options) bench).2.state.flash
    let m := lastWritten turns
    (.told (.entered .writing) ∈ turns →
      ∃ before after start, turns = before ++ .told (.entered .writing) :: after ∧
        .told (.entered .writing) ∉ before ∧
        (Simulator.bus name).Follows bench.state before start ∧
        flash.toList.take m = image.take m ∧
        (∀ i, min (m + options.chunkSize) image.length ≤ i → flash[i]? = start.flash[i]?) ∧
        (m = image.length ↔ .told (.entered .rebooting) ∈ turns)) ∧
    (ComesPast result → flash.toList.take image.length = image) ∧
    (.told (.entered .writing) ∉ turns → flash = bench.state.flash) := by
  intro site turns result flash m
  have hshows : Shows label image options turns result := shows_run (site.course_moves _ bench)
  have hfollows : (Simulator.bus name).Follows bench.state turns
      (site.run (run label image options) bench).2.state := Bus.follows_moves _ _ bench
  refine ⟨?_, ?_, ?_⟩
  · intro hwriting
    exact hshows.flash_written hfollows hwriting
  · intro hpast
    exact hshows.flash_whole hfollows hpast
  · intro hwriting
    exact hshows.flash_kept hfollows hwriting

end Update
end Backplane
