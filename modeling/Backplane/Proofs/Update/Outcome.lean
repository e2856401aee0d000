import Backplane.Proofs.Update.Coverage
import Backplane.Proofs.Update.Pings

/-!
# What the outcome of an update means

The result of an update is all that a caller sees of it. Each result is returned for its own cause
only, whatever the bus answers: the two refusals say which size was wrong, and the other results say
how far the update had come and what was read.

* `VerifiedChunk`, `Verified`: an image that was written and read back, chunk by chunk.
* `Rebooted`, `Returned`: how far an update had come.
* `Shows.means`: the cause of every result.
* `run_means`: an update at any site.
-/
namespace Backplane

variable {turns : List Turn}

/-- A chunk that was acknowledged when it was written, and whose readback left the same bytes in a
buffer of zeros. The older generation reads back once more where it has to. -/
inductive VerifiedChunk (offset : UInt32) (bytes : List UInt8) : Protocol → List Turn → Prop
  | v0 {replies : List (Reply (V0.writeRequest offset bytes))}
      {rounds : List (List (Reply (V0.readRequest offset bytes.length)))}
      {last : List (Reply (V0.readRequest offset bytes.length))}
      (hwrite : Settles Device.attemptsMax replies (.ok ()))
      (hread : Settles Device.attemptsMax last (.ok ()))
      (heq : delivered (.replicate bytes.length 0) (rounds.flatten ++ last) = bytes) :
      VerifiedChunk offset bytes .v0
        (tries _ replies ++ (rounds ++ [last]).flatMap fun reads => .delayed V0.verifyDelay :: tries _ reads)
  | v1 {addresses : List (Reply (V1.addressRequest offset bytes.length))}
      {replies : List (Reply (V1.writeRequest bytes))} {reads : List (Reply (V1.readRequest bytes.length))}
      (haddress : Settles Device.attemptsMax addresses (.ok ()))
      (hwrite : Settles Device.attemptsMax replies (.ok ()))
      (hread : Settles Device.attemptsMax reads (.ok ()))
      (heq : delivered (.replicate bytes.length 0) reads = bytes) :
      VerifiedChunk offset bytes .v1
        (tries _ addresses ++ tries _ replies ++ .delayed V1.settleDelay :: tries _ reads)

/-- Readbacks that succeed end with one that agrees with what was written. -/
theorem V0.Verifies.rounds {label : String} {offset : UInt32} {bytes buffer : List UInt8} {left : Nat}
    {last : Option BusError} {r : Except Error Unit}
    (h : V0.Verifies label offset bytes left last buffer turns r) (hr : r = .ok ()) :
    ∃ (rounds : List (List (Reply (V0.readRequest offset bytes.length))))
      (final : List (Reply (V0.readRequest offset bytes.length))),
      turns = (rounds ++ [final]).flatMap (fun reads => .delayed V0.verifyDelay :: tries _ reads) ∧
      Settles Device.attemptsMax final (.ok ()) ∧
      delivered buffer (rounds.flatten ++ final) = bytes := by
  induction h with
  | unread => cases hr
  | different => cases hr
  | @failed left last buffer e replies turns r hread hrest ih =>
    obtain ⟨rounds, final, rfl, hfinal, heq⟩ := ih hr
    exact ⟨replies :: rounds, final, rfl, hfinal, by simpa [delivered_append] using heq⟩
  | @mismatched left last buffer replies turns r hread hne hrest ih =>
    obtain ⟨rounds, final, rfl, hfinal, heq⟩ := ih hr
    exact ⟨replies :: rounds, final, rfl, hfinal, by simpa [delivered_append] using heq⟩
  | @verified left last buffer replies hread heq =>
    exact ⟨[], replies, by simp, hread, by simpa using heq⟩

theorem Driver.Writes.verified {d : Driver} {bytes : List UInt8} (h : d.Writes bytes turns (.ok ())) :
    VerifiedChunk d.flashOffset bytes d.protocol turns := by
  unfold Driver.Writes at h
  cases hp : d.protocol with
  | v0 =>
    rw [hp] at h
    cases h with
    | written _ hwrite hverify =>
      obtain ⟨rounds, final, rfl, hfinal, heq⟩ := hverify.rounds rfl
      exact .v0 hwrite hfinal heq
  | v1 =>
    rw [hp] at h
    generalize hr : (Except.ok () : Except Error Unit) = r at h
    cases h with
    | refused | unaddressed | unwritten => cases hr
    | @readBack _ _ _ result _ _ haddress hwrite hread hresult =>
      rw [hresult] at hr
      cases result with
      | error e => cases hr
      | ok _ =>
        dsimp only at hr
        split at hr
        · next heq => exact .v1 haddress hwrite hread heq
        · cases hr

namespace Update
variable {label : String} {image : List UInt8} {options : UpdateOptions} {d d' : Driver}
  {c c' : Flash.Cursor}

/-- What is left of an image from an offset on, chunk by chunk: each verified, then reported. -/
inductive Verified (p : Protocol) (chunkSize : Nat) :
    (offset : Nat) → (rest : List UInt8) → List Turn → Prop
  | done {offset : Nat} : Verified p chunkSize offset [] []
  | chunk {offset : Nat} {rest : List UInt8} {first turns : List Turn} (hrest : rest ≠ [])
      (hchunk : VerifiedChunk (.ofNat offset) (rest.take chunkSize) p first)
      (hlater : Verified p chunkSize (offset + (rest.take chunkSize).length) (rest.drop chunkSize) turns) :
      Verified p chunkSize offset rest
        (first ++ .told (.written (offset + (rest.take chunkSize).length)) :: turns)

/-- The controller took the reboot behind an image that was verified as a whole. -/
inductive Rebooted (label : String) (image : List UInt8) (options : UpdateOptions)
    (before : DeviceInfo) : List Turn → Prop
  | intro {ready written : List Turn} {d : Driver}
      {replies : List (Reply (.writeByte before.protocol.rebootCommand))}
      (hready : Prepares label options ready before d)
      (hwritten : Verified before.protocol options.chunkSize 0 image written)
      (hreboot : Settles Device.attemptsMax replies (.ok ())) :
      Rebooted label image options before
        (ready ++ .told (.entered .writing) :: .told (.writing image.length) :: written ++
          .told (.entered .rebooting) :: tries _ replies ++ [.told (.entered .awaitingPing)])

/-- The controller came back from its reboot: the ping numbered `n` was the first to be answered, and
`after` was read behind it. -/
inductive Returned (label : String) (image : List UInt8) (options : UpdateOptions)
    (before after : DeviceInfo) (n : UInt32) : List Turn → Prop
  | intro {front pings opening identity : List Turn} {d d' : Driver}
      (hrebooted : Rebooted label image options before front) (hpings : Pings options pings (.ok n))
      (hcreate : Driver.Creates label opening (.ok d))
      (hafter : Runs Driver.deviceInfo d identity after d') :
      Returned label image options before after n
        (front ++ pings ++ .told (.entered .reidentifying) :: opening ++ identity)

/-- The cause of a result. -/
def Means (label : String) (image : List UInt8) (options : UpdateOptions) (turns : List Turn) :
    Except Error UpdateReport → Prop
  | .error (.invalidImageSize n) =>
    n = image.length ∧ ¬ (64 ≤ n ∧ n ≤ 131072) ∧ turns = [.told (.entered .failed)]
  | .error (.invalidChunk n) =>
    n = options.chunkSize ∧ (64 ≤ image.length ∧ image.length ≤ 131072) ∧
      (n = 0 ∨ 128 < n ∨ n % 4 ≠ 0) ∧ turns = [.told (.entered .failed)]
  | .error (.deviceDidNotReturn n) =>
    n = options.pingAttempts ∧
      (∃ before front silent, Rebooted label image options before front ∧
        turns = front ++ silentPings options 1 silent ++ [.told (.entered .failed)] ∧
        (∀ replies ∈ silent, Unanswered replies) ∧ silent.length = n.toNat) ∧
      (turns.countP fun turn => turn.activity = .opening) = 1
  | .error .deviceInfoUnavailable =>
    ∃ before after n stages, Returned label image options before after n stages ∧
      turns = stages ++ [.told (.entered .failed)] ∧
      (after.firmwareVersion = "" ∨ after.boardType = "")
  | .error (.versionMismatch expected actual) =>
    ∃ before after n stages, Returned label image options before after n stages ∧
      turns = stages ++ [.told (.entered .failed)] ∧
      after.firmwareVersion ≠ "" ∧ after.boardType ≠ "" ∧
      options.expectedVersion = some expected ∧ after.firmwareVersion = actual ∧ expected ≠ actual
  | .ok report =>
    ∃ stages, Returned label image options report.before report.after report.pingAttempts stages ∧
      turns = stages ++ [.told (.entered .done), .told (.complete report)] ∧
      report.bytesWritten = image.length ∧
      report.after.firmwareVersion ≠ "" ∧ report.after.boardType ≠ "" ∧
      ∀ expected ∈ options.expectedVersion, report.after.firmwareVersion = expected
  -- Any other failure is one of the bus or of the controller, and the sizes were accepted.
  | .error _ => Accepts image options

/-! ## Images that were verified -/

/-- The loop verifies what it steps over. -/
theorem Reaches.verified (hsize : IsChunkSize options.chunkSize) (himage : image.length ≤ imageMax)
    (h : Reaches c d turns c' d') (htracks : Tracks image options.chunkSize c d)
    (hpending : c'.pending = none) :
    Verified d.protocol options.chunkSize c.offset c.rest turns := by
  induction h with
  | here =>
    rw [Flash.Cursor.pending_eq_none.1 hpending]
    exact .done
  | @step c c' d mid d' chunk first rest hchunk hwrite _ ih =>
    obtain ⟨hwrites, hlike⟩ := Driver.writes_writeChunk htracks.operational hwrite
    have hlater := ih (htracks.advance hsize himage hchunk hlike) hpending
    have hoffset : d.flashOffset = .ofNat c.offset := by
      rw [← htracks.offset_eq, UInt32.ofNat_toNat]
    obtain ⟨hne, rfl⟩ := Flash.Cursor.pending_eq hchunk
    have hverified := hwrites.verified
    rw [show mid.protocol = d.protocol from hlike.protocol_eq] at hlater
    rw [hoffset, htracks.size_eq] at hverified
    simp only [Flash.Cursor.advance, htracks.size_eq] at hlater ⊢
    exact .chunk hne hverified hlater

/-- An update that came to rebooting has verified the whole image. -/
theorem rebooted (haccept : Accepts image options) {ready written : List Turn} {before : DeviceInfo}
    (hready : Prepares label options ready before d)
    (hwritten : Reaches (.start image options.chunkSize) d written c d') (hpending : c.pending = none)
    {p : Protocol} (hp : p = before.protocol) {replies : List (Reply (.writeByte p.rebootCommand))}
    (hreboot : Settles Device.attemptsMax replies (.ok ())) :
    c.offset = image.length ∧
      Rebooted label image options before
        (ready ++ .told (.entered .writing) :: .told (.writing image.length) :: written ++
          .told (.entered .rebooting) :: tries _ replies ++ [.told (.entered .awaitingPing)]) := by
  subst hp
  obtain ⟨-, himage, hsize⟩ := haccept
  have hstart : Tracks image options.chunkSize (.start image options.chunkSize) d :=
    .start hready.driver.1 hready.flashOffset_eq
  have hend := hwritten.tracks hsize himage hstart
  have hverified := hwritten.verified hsize himage hstart hpending
  rw [hready.driver.2.1] at hverified
  exact ⟨hend.offset_eq_length.2 hpending, .intro hready hverified hreboot⟩

/-! ## The causes of results -/

/-- The two strings of an identity that is complete. -/
theorem isComplete_iff {info : DeviceInfo} :
    info.isComplete = true ↔ info.firmwareVersion ≠ "" ∧ info.boardType ≠ "" := by
  simp [DeviceInfo.isComplete]

/-- Where no ping was answered the bus was opened once. -/
theorem lost_opens_once {ready written pings : List Turn} {before : DeviceInfo} {p : Protocol}
    {replies : List (Reply (.writeByte p.rebootCommand))} {e : Error}
    (hready : Prepares label options ready before d)
    (hwritten : Reaches (.start image options.chunkSize) d written c d')
    (hpings : Awaits options options.pingAttempts.toNat pings (.error e)) :
    ((ready ++ .told (.entered .writing) :: .told (.writing image.length) :: written ++
        .told (.entered .rebooting) :: (tries _ replies ++ .told (.entered .awaitingPing) :: pings) ++
          closing (.error e)).countP fun turn => turn.activity = .opening) = 1 := by
  have hlast : ∀ turn ∈ ([] : List Turn), turn.activity ≠ .opening ∧ turn.activity ≠ .reboot := by simp
  have hfront : ((ready ++ .told (.entered .writing) :: .told (.writing image.length) ::
      written).countP fun turn => turn.activity = .opening) = 1 := by
    obtain ⟨-, hopening⟩ := opens_once hready hwritten hlast
    rwa [List.append_nil] at hopening
  have hrest : ((Turn.told (.entered .rebooting) :: (tries _ replies ++
      .told (.entered .awaitingPing) :: pings) ++ closing (.error e)).countP
        fun turn => turn.activity = .opening) = 0 := by
    refine List.countP_eq_zero.2 ?_
    intro turn hturn
    simp only [closing, List.cons_append, List.mem_cons, List.mem_append, List.not_mem_nil,
      or_false] at hturn
    obtain rfl | (hturn | rfl | hturn) | rfl := hturn
    · simp [Turn.activity]
    · simp [activity_tries hturn]
    · simp [Turn.activity]
    · rcases hpings.activity turn hturn with h | h | h <;> simp [h]
    · simp [Turn.activity]
  rw [List.append_assoc, List.countP_append, hfront, hrest]

/-- What the identity behind the reboot was found to be. -/
theorem verdict_means {before after : DeviceInfo} {n : UInt32} {stages : List Turn} {written : Nat}
    (hreturned : Returned label image options before after n stages) (hwritten : written = image.length) :
    Means label image options
      (stages ++ closing ((verdict options after).map fun after => ⟨before, after, written, n⟩))
      ((verdict options after).map fun after => ⟨before, after, written, n⟩) := by
  unfold verdict
  by_cases hcomplete : after.isComplete = true
  · obtain ⟨hversion, hboard⟩ := isComplete_iff.1 hcomplete
    rw [if_pos hcomplete]
    cases hexpected : options.expectedVersion with
    | none => exact ⟨stages, hreturned, rfl, hwritten, hversion, hboard, by simp [hexpected]⟩
    | some expected =>
      dsimp only
      by_cases hsame : expected = after.firmwareVersion
      · rw [if_pos hsame]
        exact ⟨stages, hreturned, rfl, hwritten, hversion, hboard, by simp [hexpected, hsame]⟩
      · rw [if_neg hsame]
        exact ⟨before, after, n, stages, hreturned, rfl, hversion, hboard, hexpected, rfl, hsame⟩
  · rw [if_neg hcomplete]
    have hempty : after.firmwareVersion = "" ∨ after.boardType = "" := by
      rw [isComplete_iff, not_and_or] at hcomplete
      simpa using hcomplete
    exact ⟨before, after, n, stages, hreturned, rfl, hempty⟩

/-- The results behind an image that was written as a whole. -/
theorem restarts_means (haccept : Accepts image options) {ready written restart : List Turn}
    {before : DeviceInfo} {r : Except Error (UInt32 × DeviceInfo)}
    (hready : Prepares label options ready before d)
    (hwritten : Reaches (.start image options.chunkSize) d written c d') (hpending : c.pending = none)
    (hrestart : Restarts label options d' restart r) :
    let result := r.map fun (pings, after) => (⟨before, after, c.offset, pings⟩ : UpdateReport)
    Means label image options
      (ready ++ .told (.entered .writing) :: .told (.writing image.length) :: written ++
        .told (.entered .rebooting) :: restart ++ closing result) result := by
  have hp : d'.protocol = before.protocol :=
    (hwritten.driver hready.driver.1).2.1.trans hready.driver.2.1
  cases hrestart with
  | unrebooted => exact haccept
  | @lost replies pings e hreboot hpings =>
    obtain ⟨-, hrebooted⟩ := rebooted haccept hready hwritten hpending hp hreboot
    obtain ⟨rfl, silent, rfl, hunanswered, hlength⟩ := hpings.pings.unanswered_inv
    refine ⟨rfl, ⟨before, _, silent, hrebooted, ?_, hunanswered, hlength⟩,
      lost_opens_once hready hwritten hpings⟩
    simp [closing, Except.map]
  | @returned replies pings identity n r hreboot hpings hidentity =>
    obtain ⟨hoffset, hrebooted⟩ := rebooted haccept hready hwritten hpending hp hreboot
    cases hidentity with
    | absent hcreate =>
      obtain rfl | ⟨answer, rfl⟩ := hcreate.error_inv <;> exact haccept
    | @identified opening identity mid mid' info hcreate hinfo =>
      have hmeans := verdict_means (.intro hrebooted hpings.pings hcreate hinfo) hoffset
      cases hv : verdict options info <;>
      · rw [hv] at hmeans
        simpa [Except.map] using hmeans

/-- Every result has its own cause. -/
theorem Shows.means {r : Except Error UpdateReport} (h : Shows label image options turns r) :
    Means label image options turns r := by
  cases h with
  | refused hrefuse =>
    cases hrefuse with
    | image himage => exact ⟨rfl, himage, rfl⟩
    | chunkSize himage hsize =>
      refine ⟨rfl, himage, ?_, rfl⟩
      have hmax : Driver.chunkMax = 128 := rfl
      simp only [IsChunkSize, hmax] at hsize
      omega
  | accepted haccept hpass =>
    cases hpass with
    | absent hcreate =>
      obtain rfl | ⟨answer, rfl⟩ := hcreate.error_inv <;> exact haccept
    | unerased _ _ herase =>
      cases herase
      exact haccept
    | flashed hflashes =>
      cases hflashes with
      | flashed hready hwritten hconcludes =>
        cases hconcludes with
        | restarted hpending hrestart => exact restarts_means haccept hready hwritten hpending hrestart
        | abandoned hends =>
          -- A chunk of an accepted image is not refused, so this is a failure of the bus.
          have htracks := hwritten.tracks haccept.2.2 haccept.2.1
            (.start hready.driver.1 hready.flashOffset_eq)
          obtain ⟨chunk, hpending, ⟨op, source, rfl⟩ | rfl | ⟨hrefused, -⟩⟩ :=
            hends.error_inv htracks.operational
          · exact haccept
          · exact haccept
          · exact absurd (htracks.isChunk haccept.2.2 hpending) hrefused

/-- An image is refused exactly where its size is out of bounds. -/
theorem Shows.invalidImageSize_iff {r : Except Error UpdateReport} {n : Nat}
    (h : Shows label image options turns r) :
    r = .error (.invalidImageSize n) ↔
      n = image.length ∧ ¬ (64 ≤ image.length ∧ image.length ≤ 131072) := by
  constructor
  · rintro rfl
    obtain ⟨rfl, himage, -⟩ := h.means
    exact ⟨rfl, himage⟩
  · rintro ⟨rfl, himage⟩
    cases h with
    | refused hrefuse =>
      cases hrefuse with
      | image => rfl
      | chunkSize haccepted => exact absurd haccepted himage
    | accepted haccept => exact absurd ⟨haccept.1, haccept.2.1⟩ himage

/-- A chunk size is refused exactly where the image is not and no chunk can have that size. -/
theorem Shows.invalidChunk_iff {r : Except Error UpdateReport} {n : Nat}
    (h : Shows label image options turns r) :
    r = .error (.invalidChunk n) ↔
      n = options.chunkSize ∧ (64 ≤ image.length ∧ image.length ≤ 131072) ∧
        (n = 0 ∨ 128 < n ∨ n % 4 ≠ 0) := by
  constructor
  · rintro rfl
    obtain ⟨rfl, himage, hsize, -⟩ := h.means
    exact ⟨rfl, himage, hsize⟩
  · rintro ⟨rfl, himage, hsize⟩
    have hrefused : ¬ IsChunkSize options.chunkSize := by
      have hmax : Driver.chunkMax = 128 := rfl
      simp only [IsChunkSize, hmax]
      omega
    cases h with
    | refused hrefuse =>
      cases hrefuse with
      | image hout => exact absurd himage hout
      | chunkSize => rfl
    | accepted haccept => exact absurd haccept.2.2 hrefused

/-- An update at any site: when it is refused, and the cause of its result. -/
theorem run_means {σ : Type} (site : Site σ) (bench : Bench σ) (label : String)
    (image : List UInt8) (options : UpdateOptions) :
    let turns := site.moves (run label image options) bench
    let result := (site.run (run label image options) bench).1
    (∀ n, result = .error (.invalidImageSize n) ↔
      n = image.length ∧ ¬ (64 ≤ image.length ∧ image.length ≤ 131072)) ∧
    (∀ n, result = .error (.invalidChunk n) ↔
      n = options.chunkSize ∧ (64 ≤ image.length ∧ image.length ≤ 131072) ∧
        (n = 0 ∨ 128 < n ∨ n % 4 ≠ 0)) ∧
    Means label image options turns result := by
  intro turns result
  have hshows : Shows label image options turns result := shows_run (site.course_moves _ bench)
  exact ⟨fun _ => hshows.invalidImageSize_iff, fun _ => hshows.invalidChunk_iff, hshows.means⟩

end Update
end Backplane
