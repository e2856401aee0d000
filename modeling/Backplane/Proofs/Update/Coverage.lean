import Backplane.Proofs.Update.Chunks
import Backplane.Proofs.Update.Reboot
import Backplane.Simulator.Bus

/-!
# What an update writes, on any bus

The flash writes of an update, read off the wire, are consecutive pieces of its image from the start
on; they are the whole image where the update comes to rebooting. A failing bus repeats frames and
ends the update early, and does nothing else to what is written.

* `Flashes.covers`: the frames of an update that came to writing.
* `run_covers_image`: the wire, the two cursors and the result of every accepted update.
-/
namespace Backplane.Update

variable {label : String} {image : List UInt8} {options : UpdateOptions} {turns : List Turn}
  {d d' : Driver} {c : Flash.Cursor}

/-- Both cursors are at one place, and the chunk there goes onto the wire as it is. -/
def InStep (image : List UInt8) (c : Flash.Cursor) (d : Driver) : Prop :=
  d.flashOffset.toNat = c.offset ∧
    ∀ chunk, c.pending = some chunk →
      c.offset % 4 = 0 ∧ c.offset + chunk.length ≤ image.length ∧
      (UInt8.ofNat chunk.length).toNat = chunk.length ∧
      (UInt16.ofNat chunk.length).toNat = chunk.length ∧
      (d.flashOffset + .ofNat chunk.length).toNat = c.offset + chunk.length

theorem Tracks.inStep {chunkSize : Nat} (hsize : IsChunkSize chunkSize)
    (himage : image.length ≤ imageMax) (h : Tracks image chunkSize c d) : InStep image c d := by
  refine ⟨h.offset_eq, ?_⟩
  intro chunk hpending
  obtain ⟨-, hlength, haligned, hle⟩ := h.bounds hsize hpending
  have hmax : chunkSize ≤ 128 := hsize.2.1
  refine ⟨haligned, hle, ?_, ?_, h.offset_add hsize himage hpending⟩
  · rw [UInt8.toNat_ofNat']
    omega
  · rw [UInt16.toNat_ofNat']
    omega

/-- What the frames of an update are: consecutive pieces of the image from its start on, and the
announcement of one more where the newer generation did not acknowledge it. -/
structure Covers (image : List UInt8) (chunkSize : Nat) (p : Protocol) (frames : List (List UInt8))
    (pieces : List Piece) (last : Option Piece) : Prop where
  stutters : Piece.Stutters frames (Piece.framesOf p pieces last)
  consecutive : Piece.Consecutive 0 pieces
  isPieceOf : ∀ piece ∈ pieces, IsPieceOf image chunkSize piece
  isPrefix : pieces.flatMap Piece.bytes <+: image
  last_eq : ∀ piece ∈ last, IsPieceOf image chunkSize piece ∧ p = .v1 ∧
    piece.offset = (pieces.flatMap Piece.bytes).length

theorem flashFrames_none {turns : List Turn} (h : ∀ turn ∈ turns, ¬ TouchesFlash turn) :
    flashFrames turns = [] := by
  refine flashFrames_eq_nil ?_
  intro turn hturn hwrite
  exact h turn hturn (by simp [TouchesFlash, hwrite])

section
variable (hsize : IsChunkSize options.chunkSize) (himage : image.length ≤ imageMax)
include hsize himage

/-- The frames of a failed chunk come behind those of the chunks before it. -/
theorem Ends.covers {written ending : List Turn} {e : Error}
    (htracks : Tracks image options.chunkSize (.start image options.chunkSize) d)
    (hwritten : Reaches (.start image options.chunkSize) d written c d')
    (hends : Ends c d' ending (.error e)) :
    ∃ pieces last,
      Covers image options.chunkSize d.protocol (flashFrames (written ++ ending)) pieces last := by
  obtain ⟨pieces, hframes, hconsecutive, hpieces, hoffset, hrest⟩ :=
    hwritten.pieces hsize himage htracks
  have hplace := hwritten.tracks hsize himage htracks
  obtain ⟨-, hp, -⟩ := hwritten.driver htracks.operational
  have himage_eq : image = pieces.flatMap Piece.bytes ++ c.rest := hrest
  have hoffset_eq : c.offset = (pieces.flatMap Piece.bytes).length := hoffset.trans (Nat.zero_add _)
  cases hends with
  | @abandoned chunk _ failed mid replies outcome hpending hwrite hreboot =>
    have hpiece := hplace.isPieceOf hsize hpending
    obtain ⟨hne, -⟩ := hplace.bounds hsize hpending
    obtain ⟨hwrites, -⟩ := Driver.writes_writeChunk hplace.operational hwrite
    have hnone : flashFrames (tries (.writeByte d'.protocol.rebootCommand) replies) = [] := by
      refine flashFrames_eq_nil ?_
      exact fun turn hturn => by simp [activity_tries hturn]
    have hframe := Driver.writes_frames (hplace.isChunk hsize hpending) hwrites
    rw [hplace.offset_eq, hp] at hframe
    obtain h | ⟨hv1, -, h⟩ := hframe
    · refine ⟨pieces ++ [⟨c.offset, chunk⟩], none, ?_, ?_, ?_, ?_, by simp⟩
      · rw [flashFrames_append, flashFrames_append, hnone, List.append_nil]
        simpa [Piece.framesOf] using hframes.append h
      · exact hconsecutive.append ⟨hoffset, hne, trivial⟩
      · exact List.forall_mem_append.2 ⟨hpieces, List.forall_mem_singleton.2 hpiece⟩
      · obtain ⟨-, rfl⟩ := Flash.Cursor.pending_eq hpending
        simp only [List.flatMap_append, List.flatMap_singleton]
        rw [himage_eq, List.prefix_append_right_inj]
        exact List.take_prefix ..
    · refine ⟨pieces, some ⟨c.offset, chunk⟩, ?_, hconsecutive, hpieces, ?_, ?_⟩
      · rw [flashFrames_append, flashFrames_append, hnone, List.append_nil]
        simpa [Piece.framesOf] using hframes.append h
      · exact ⟨c.rest, himage_eq.symm⟩
      · rintro piece ⟨⟩
        exact ⟨hpiece, hv1, hoffset_eq⟩

/-- Behind the last chunk everything was written. -/
theorem Reaches.covers {written : List Turn}
    (htracks : Tracks image options.chunkSize (.start image options.chunkSize) d)
    (hwritten : Reaches (.start image options.chunkSize) d written c d') (hpending : c.pending = none) :
    ∃ pieces, Covers image options.chunkSize d.protocol (flashFrames written) pieces none ∧
      pieces.flatMap Piece.bytes = image := by
  obtain ⟨pieces, hframes, hconsecutive, hpieces, hoffset, hrest⟩ :=
    hwritten.pieces hsize himage htracks
  have hnil : c.rest = [] := Flash.Cursor.pending_eq_none.1 hpending
  have himage_eq : image = pieces.flatMap Piece.bytes := by
    rw [hnil, List.append_nil] at hrest
    exact hrest
  refine ⟨pieces, ⟨?_, hconsecutive, hpieces, ?_, by simp⟩, himage_eq.symm⟩
  · simpa [Piece.framesOf] using hframes
  · exact ⟨[], by rw [List.append_nil, ← himage_eq]⟩

end

/-! ## Chunks are never refused -/

theorem ne_invalidChunk_creates {r : Except Error Driver} (h : Driver.Creates label turns r) (n : Nat) :
    r ≠ .error (.invalidChunk n) := by
  intro h
  subst h
  obtain hr | ⟨answer, hr⟩ := h.error_inv <;> cases hr

theorem ne_invalidChunk_awaits {left : Nat} {r : Except Error UInt32}
    (h : Awaits options left turns r) (n : Nat) : r ≠ .error (.invalidChunk n) := by
  induction h with
  | exhausted => simp
  | answered => simp
  | silent _ _ ih => exact ih

theorem ne_invalidChunk_verdict (options : UpdateOptions) (info : DeviceInfo) (n : Nat) :
    verdict options info ≠ .error (.invalidChunk n) := by
  intro h
  obtain hother | ⟨expected, actual, hother⟩ := verdict_error h <;> cases hother

theorem ne_invalidChunk_restarts {r : Except Error (UInt32 × DeviceInfo)}
    (h : Restarts label options d turns r) (n : Nat) : r ≠ .error (.invalidChunk n) := by
  cases h with
  | unrebooted => simp
  | lost _ hpings => simpa using ne_invalidChunk_awaits hpings n
  | returned _ _ hidentity =>
    cases hidentity with
    | absent hcreate => simpa [Except.map] using ne_invalidChunk_creates hcreate n
    | @identified _ _ _ _ info hcreate hinfo =>
      have hverdict := ne_invalidChunk_verdict options info n
      cases hv : verdict options info with
      | error e => simpa [Except.map, hv] using hverdict
      | ok info => simp [Except.map]

/-- Once its sizes were accepted, an update does not end with a chunk of the wrong size. -/
theorem Passes.ne_invalidChunk (haccept : Accepts image options) {r : Except Error UpdateReport}
    (h : Passes label image options turns r) (n : Nat) : r ≠ .error (.invalidChunk n) := by
  obtain ⟨-, himage, hsize⟩ := haccept
  cases h with
  | absent hcreate => simpa using ne_invalidChunk_creates hcreate n
  | unerased _ _ herase =>
    cases herase
    simp
  | flashed hflashes =>
    cases hflashes with
    | flashed hready hwritten hconcludes =>
      have htracks := hwritten.tracks hsize himage (.start hready.driver.1 hready.flashOffset_eq)
      cases hconcludes with
      | abandoned hends =>
        obtain ⟨chunk, hpending, ⟨op, source, rfl⟩ | rfl | ⟨hrefused, -⟩⟩ :=
          hends.error_inv htracks.operational
        · simp
        · simp
        · exact absurd (htracks.isChunk hsize hpending) hrefused
      | @restarted _ result hpending hrestart =>
        have hresult := ne_invalidChunk_restarts hrestart n
        cases result with
        | error e => simpa [Except.map] using hresult
        | ok _ => simp [Except.map]

theorem Shows.ne_invalidChunk (himage : imageMin ≤ image.length ∧ image.length ≤ imageMax)
    (hsize : IsChunkSize options.chunkSize) {r : Except Error UpdateReport}
    (h : Shows label image options turns r) (n : Nat) : r ≠ .error (.invalidChunk n) := by
  cases h with
  | refused hrefuse =>
    cases hrefuse with
    | image hrefused => exact absurd himage hrefused
    | chunkSize _ hrefused => exact absurd hsize hrefused
  | accepted haccept hpass => exact hpass.ne_invalidChunk haccept n

/-! ## Whole updates -/

theorem Prepares.flashFrames_eq {before : DeviceInfo} (h : Prepares label options turns before d) :
    flashFrames turns = [] := by
  obtain ⟨result, rest, rfl, hrest⟩ := h.idle
  refine flashFrames_eq_nil (List.forall_mem_cons.2 ⟨by simp [Turn.activity], ?_⟩)
  exact fun turn hturn => (hrest turn hturn).1.1

theorem flashFrames_closing (r : Except Error UpdateReport) : flashFrames (closing r) = [] := by
  cases r <;> rfl

theorem Restarts.flashFrames_eq {r : Except Error (UInt32 × DeviceInfo)}
    (h : Restarts label options d turns r) : flashFrames turns = [] := by
  have hrebooting : Turn.told (.entered .rebooting) ∈ [Turn.told (.entered .rebooting)] :=
    List.mem_singleton_self _
  obtain ⟨replies, outcome, after, hturns, -, -, hafter⟩ :=
    h.reopens hrebooting (.error .deviceInfoUnavailable)
  have hframes := congrArg flashFrames hturns
  rw [flashFrames_append, flashFrames_append, flashFrames_closing, flashFrames_none hafter,
    List.append_nil, List.append_nil] at hframes
  rw [hframes]
  exact flashFrames_eq_nil fun turn hturn => by simp [activity_tries hturn]

/-- The frames of an update that came to writing. -/
theorem Flashes.covers (haccept : Accepts image options) {r : Except Error UpdateReport}
    (h : Flashes label image options turns r) :
    ∃ p pieces last, Covers image options.chunkSize p (flashFrames (turns ++ closing r)) pieces last ∧
      (∀ info, .told (.currentDevice info) ∈ turns ++ closing r → info.protocol = p) ∧
      (.told (.entered .rebooting) ∈ turns ++ closing r →
        pieces.flatMap Piece.bytes = image ∧ last = none) := by
  obtain ⟨-, himage, hsize⟩ := haccept
  cases h with
  | @flashed ready written ending before d d' c r hready hwritten hconcludes =>
    have htracks : Tracks image options.chunkSize (.start image options.chunkSize) d :=
      .start hready.driver.1 hready.flashOffset_eq
    obtain ⟨htold, hrebooting⟩ := Concludes.told image.length hready hwritten hconcludes
    have hframes : flashFrames (ready ++ .told (.entered .writing) :: .told (.writing image.length) ::
        written ++ ending ++ closing r) = flashFrames (written ++ ending) := by
      have hcons : ∀ {p : Progress} {turns : List Turn},
          flashFrames (.told p :: turns) = flashFrames turns := rfl
      simp only [flashFrames_append, hready.flashFrames_eq, hcons, flashFrames_closing,
        List.nil_append, List.append_nil]
    have hinfo : ∀ info, .told (.currentDevice info) ∈ ready ++ .told (.entered .writing) ::
        .told (.writing image.length) :: written ++ ending ++ closing r →
        info.protocol = d.protocol := by
      intro info hinfo
      rw [htold info hinfo, hready.driver.2.1]
    refine ⟨d.protocol, ?_⟩
    rw [hframes]
    cases hconcludes with
    | @abandoned _ e hends =>
      obtain ⟨pieces, last, hcovers⟩ := hends.covers hsize himage htracks hwritten
      refine ⟨pieces, last, hcovers, hinfo, fun h => ?_⟩
      have hpending := hrebooting.1 h
      cases hends with
      | abandoned hsome => rw [hpending] at hsome; cases hsome
    | @restarted restart r hpending hrestart =>
      obtain ⟨pieces, hcovers, himage_eq⟩ := hwritten.covers hsize himage htracks hpending
      have hrestart : flashFrames (.told (.entered .rebooting) :: restart) = [] :=
        hrestart.flashFrames_eq
      rw [flashFrames_append, hrestart, List.append_nil]
      exact ⟨pieces, none, hcovers, hinfo, fun _ => ⟨himage_eq, rfl⟩⟩

/-- The wire, the two cursors and the result of every update whose sizes are accepted. -/
theorem run_covers_image {σ : Type} (site : Site σ) (bench : Bench σ) (label : String)
    (image : List UInt8) (options : UpdateOptions)
    (himage : imageMin ≤ image.length ∧ image.length ≤ imageMax)
    (hsize : IsChunkSize options.chunkSize) :
    let turns := site.moves (run label image options) bench
    let result := (site.run (run label image options) bench).1
    (∀ n, result ≠ .error (.invalidChunk n)) ∧
    (∃ p pieces last,
      decodeFrames p ((flashFrames turns).destutter (· ≠ ·)) = some (pieces, last) ∧
      (∀ info, .told (.currentDevice info) ∈ turns → info.protocol = p) ∧
      Piece.Consecutive 0 pieces ∧ (∀ piece ∈ pieces, IsPieceOf image options.chunkSize piece) ∧
      pieces.flatMap Piece.bytes <+: image ∧
      (∀ place ∈ last, ∃ piece, IsPieceOf image options.chunkSize piece ∧ place = piece.place ∧
        piece.offset = (pieces.flatMap Piece.bytes).length) ∧
      (.told (.entered .rebooting) ∈ turns → pieces.flatMap Piece.bytes = image ∧ last = none)) ∧
    (.told (.entered .writing) ∈ turns →
      ∃ ready written ending before d d' c,
        turns = ready ++ .told (.entered .writing) :: .told (.writing image.length) :: written ++
          ending ++ closing result ∧
        Prepares label options ready before d ∧
        Reaches (.start image options.chunkSize) d written c d' ∧
        Concludes label options before c d' ending result ∧
        ∀ {done c d'}, Reaches (.start image options.chunkSize) d done c d' → InStep image c d') := by
  intro turns result
  have hshows : Shows label image options turns result := shows_run (site.course_moves _ bench)
  refine ⟨hshows.ne_invalidChunk himage hsize, ?_, ?_⟩
  · obtain ⟨p, hidles⟩ | ⟨stages, hturns, haccept, hflashes⟩ := hshows.idle_or_flashes
    · have hnone : flashFrames turns = [] :=
        flashFrames_eq_nil fun turn hturn => (hidles.idle turn hturn).1
      refine ⟨p, [], none, ?_, ?_, trivial, by simp, List.nil_prefix, by simp, ?_⟩
      · rw [hnone]
        cases p <;> rfl
      · intro info hinfo
        obtain h | h | ⟨info', h, hp⟩ := hidles.notices _ (mem_notices.2 hinfo)
        · cases h
        · cases h
        · rwa [Progress.currentDevice.inj h]
      · exact fun h => absurd h (hidles.not_entered (by decide))
    · obtain ⟨p, pieces, last, hcovers, hinfo, hwhole⟩ := hflashes.covers haccept
      rw [← hturns] at hcovers hinfo hwhole
      have hfits : ∀ piece ∈ pieces, piece.Fits :=
        fun piece hpiece => (hcovers.isPieceOf piece hpiece).fits hsize himage.2
      refine ⟨p, pieces, last.map Piece.place, ?_, hinfo, hcovers.consecutive, hcovers.isPieceOf,
        hcovers.isPrefix, ?_, ?_⟩
      · rw [hcovers.stutters.destutter_eq (Piece.isChain_frames hfits hcovers.consecutive)]
        refine Piece.decode_frames hfits ?_
        intro piece hpiece
        obtain ⟨hof, hp, -⟩ := hcovers.last_eq piece hpiece
        exact ⟨hof.fits hsize himage.2, hp⟩
      · intro place hplace
        obtain ⟨piece, hpiece, rfl⟩ := Option.map_eq_some_iff.1 hplace
        obtain ⟨hof, -, hoffset⟩ := hcovers.last_eq piece hpiece
        exact ⟨piece, hof, rfl, hoffset⟩
      · intro h
        obtain ⟨hbytes, rfl⟩ := hwhole h
        exact ⟨hbytes, rfl⟩
  · intro hwriting
    obtain ⟨p, hidles⟩ | ⟨stages, hturns, haccept, hflashes⟩ := hshows.idle_or_flashes
    · exact absurd hwriting (hidles.not_entered (by decide))
    · cases hflashes with
      | flashed hready hwritten hconcludes =>
        refine ⟨_, _, _, _, _, _, _, hturns, hready, hwritten, hconcludes, ?_⟩
        intro done c d' hdone
        have htracks := hdone.tracks hsize himage.2 (.start hready.driver.1 hready.flashOffset_eq)
        exact htracks.inStep hsize himage.2

/-- The smallest image and the largest chunks are accepted. -/
theorem run_covers_image_smallest :
    (imageMin ≤ (List.replicate 64 (0 : UInt8)).length ∧ (List.replicate 64 (0 : UInt8)).length ≤ imageMax) ∧
    IsChunkSize Driver.chunkMax ∧
    ∀ n, ((Simulator.bus "sim").site.run (run "sim" (.replicate 64 0) {})
      ⟨.start (.blank .v0) {}, #[]⟩).1 ≠ .error (.invalidChunk n) := by
  have himage : imageMin ≤ (List.replicate 64 (0 : UInt8)).length ∧
      (List.replicate 64 (0 : UInt8)).length ≤ imageMax := by
    decide
  have hsize : IsChunkSize Driver.chunkMax := by decide
  obtain ⟨hnever, -, -⟩ := run_covers_image (Simulator.bus "sim").site ⟨.start (.blank .v0) {}, #[]⟩
    "sim" (.replicate 64 0) {} himage hsize
  exact ⟨himage, hsize, hnever⟩

end Backplane.Update
