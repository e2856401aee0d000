import Backplane.Bus.Playback
import Backplane.Proofs.Driver.Version
import Backplane.Proofs.Scan.Visits
import Backplane.Proofs.Update.Outcome

/-!
# Versions that a scan vouches for

A visit that ends with `upToDate` or `updated` says that the controller runs the configured version.
Behind an update that rests on a version that was read: an identity with an empty string is refused
first. Before an update the text is only compared, and a version that can not be read is the empty
text. So where the configured version is empty, a read that failed counts as that version.

* `Shows.lastVersion`: the version an update ends with.
* `visit_vouches`: what the outcome of a visit rests on.
* `visit_vouches_unread`: a visit whose outcome rests on nothing.
-/
namespace Backplane

variable {turns : List Turn}

theorem textOf_eq {field : Except BusError (List UInt8)} {text : String} (h : text = textOf field) :
    (∃ raw, field = .ok raw ∧ Text.fieldText raw = text) ∨ text = "" ∧ ∃ e, field = .error e := by
  cases field with
  | ok raw => exact .inl ⟨raw, rfl, h.symm⟩
  | error e => exact .inr ⟨h, e, rfl⟩

namespace Update
variable {label path : String} {options : UpdateOptions} {report : UpdateReport}

/-- What is told reads no version. -/
theorem not_isVersionRead_closing (r : Except Error UpdateReport) :
    ∀ turn ∈ closing r, ¬ turn.IsVersionRead := by
  cases r <;> simp [closing, Turn.IsVersionRead, Turn.request?]

/-- Behind an update that succeeded, the version that was read last is the one that was expected. -/
theorem Shows.lastVersion {image : List UInt8} (front : List Turn)
    (h : Shows label image options turns (.ok report)) :
    ∃ raw, LastVersion (front ++ turns) (.ok raw) ∧ ∀ expected ∈ options.expectedVersion,
      Text.fieldText raw = expected := by
  obtain ⟨stages, hreturned, hturns, -, hversion, -, hexpected⟩ := h.means
  cases hreturned with
  | @intro before pings opening identity _ _ _ _ hcreate hafter =>
    obtain ⟨field, hlast, htext⟩ := Driver.lastVersion_identified
      (front ++ (before ++ pings ++ [.told (.entered .reidentifying)])) hcreate hafter
    obtain ⟨raw, rfl, hraw⟩ | ⟨hempty, -⟩ := textOf_eq htext
    · refine ⟨raw, ?_, fun expected he => hraw.trans (hexpected expected he)⟩
      have hclosed := hlast.behind (not_isVersionRead_closing (.ok report))
      simpa [hturns, closing] using hclosed
    · exact absurd hempty hversion

theorem lastVersion_runFromFile (front : List Turn)
    (h : Course (runFromFile label path options) turns (.ok report)) :
    ∃ raw, LastVersion (front ++ turns) (.ok raw) ∧ ∀ expected ∈ options.expectedVersion,
      Text.fieldText raw = expected := by
  obtain ⟨opened, image, rest, rfl, -, hopened⟩ := course_bind.1 h
  cases image with
  | error e =>
    obtain ⟨-, ⟨⟩⟩ := course_pure.1 hopened
  | ok image =>
    obtain ⟨logged, _, rest, rfl, -, hrun⟩ := course_bind.1 hopened
    rw [← List.append_assoc, ← List.append_assoc]
    exact (shows_run hrun).lastVersion _

end Update

namespace Scan
variable {v : Visit} {dryRun : Bool} {version : String} {outcome : ScanOutcome} {found : Sighting}
  {rest : List Turn}

/-- The version of a controller that was identified is what was read last. -/
theorem Sees.lastVersion {label : String} {info : DeviceInfo} (h : Sees v turns (.identified label info)) :
    ∃ field, LastVersion turns field ∧ info.firmwareVersion = textOf field := by
  cases h with
  | @identified target opening identity _ _ _ hselect hcreate hinfo =>
    exact Driver.lastVersion_identified [.attached target] hcreate hinfo

/-- What a visit vouches for was read, or could not be read where the empty version is configured. -/
theorem vouches_visit (h : Course (visit dryRun v) turns outcome)
    (hversion : v.target.version = some version) (houtcome : outcome = .upToDate ∨ outcome = .updated) :
    ∃ field, LastVersion turns field ∧
      ((∃ raw, field = .ok raw ∧ Text.fieldText raw = version) ∨
        outcome = .upToDate ∧ version = "" ∧ ∃ e, field = .error e) := by
  obtain ⟨first, found, rest, rfl, hsees, hconcludes⟩ := course_visit h
  cases hconcludes with
  | @current label firmware shown said identity hfirmware hcurrent =>
    obtain rfl : version = identity.firmwareVersion := Option.some.inj (hversion.symm.trans hcurrent)
    obtain ⟨field, hlast, htext⟩ := hsees.lastVersion
    have hsaid : ∀ turn ∈ [Turn.printed shown, .printed said], ¬ turn.IsVersionRead := by
      simp [Turn.IsVersionRead, Turn.request?]
    refine ⟨field, hlast.behind hsaid, ?_⟩
    obtain ⟨raw, hfield, hraw⟩ | ⟨hempty, e, he⟩ := textOf_eq htext
    · exact .inl ⟨raw, hfield, hraw⟩
    · exact .inr ⟨rfl, hempty, e, he⟩
  | @flashed label firmware shown identity turns r hfirmware hother hdry hflash =>
    cases r with
    | error e => simp [Except.isOk, Except.toBool] at houtcome
    | ok report =>
      obtain ⟨raw, hlast, hexpected⟩ :=
        Update.lastVersion_runFromFile (first ++ [.printed shown]) hflash
      exact ⟨_, by simpa using hlast, .inl ⟨raw, rfl, hexpected version hversion⟩⟩
  | _ => simp at houtcome

/-- At any site, a visit that ends with the configured version running rests on the last read of the
version in it. The read gave that version, or it failed, the configured version is empty and nothing was
flashed. -/
theorem visit_vouches {σ : Type} (site : Site σ) (bench : Bench σ) (dryRun : Bool) (v : Visit)
    (version : String) (hversion : v.target.version = some version)
    (houtcome : (site.run (visit dryRun v) bench).1 = .upToDate ∨
      (site.run (visit dryRun v) bench).1 = .updated) :
    ∃ field, LastVersion (site.moves (visit dryRun v) bench) field ∧
      ((∃ raw, field = .ok raw ∧ Text.fieldText raw = version) ∨
        (site.run (visit dryRun v) bench).1 = .upToDate ∧ version = "" ∧ ∃ e, field = .error e) :=
  vouches_visit (site.course_moves _ bench) hversion houtcome

/-- A visit to a controller that is to run the version. -/
def visitFor (version : String) : Visit :=
  ⟨⟨"front", "3", some [0x2A], some "bp.bin", some version⟩, 0x2A, true⟩

/-- A bus with a controller of the newer generation that answers its identification, then as prepared,
and then not at all. -/
def identifying (cues : List Playback.Cue) : Bench Playback where
  state := {
    connects := []
    functionality := .ok .required
    tape := { cues := .ofValue 0xA8 :: cues, last := ⟨some (.os Errno.noAnswer), []⟩ } }
  events := #[]

/-- A controller that answers the read of its version with `1.2`. -/
theorem visit_vouches_read :
    let visit := visit false (visitFor "1.2")
    let bench := identifying [⟨none, [0x31, 0x2E, 0x32]⟩]
    (visitFor "1.2").target.version = some "1.2" ∧
      (Playback.bus.site.run visit bench).1 = .upToDate ∧
      ∃ field, LastVersion (Playback.bus.site.moves visit bench) field ∧
        ((∃ raw, field = .ok raw ∧ Text.fieldText raw = "1.2") ∨
          (Playback.bus.site.run visit bench).1 = .upToDate ∧ "1.2" = "" ∧ ∃ e, field = .error e) := by
  have houtcome : (Playback.bus.site.run (visit false (visitFor "1.2"))
      (identifying [⟨none, [0x31, 0x2E, 0x32]⟩])).1 = .upToDate := by
    decide +kernel
  exact ⟨rfl, houtcome, visit_vouches _ _ _ _ _ rfl (.inl houtcome)⟩

/-- A controller whose version can not be read passes for one that runs the empty version. -/
theorem visit_vouches_unread :
    let visit := visit false (visitFor "")
    let bench := identifying []
    (Playback.bus.site.run visit bench).1 = .upToDate ∧
      (∃ turn ∈ Playback.bus.site.moves visit bench, turn.IsVersionRead) ∧
      ∀ turn ∈ Playback.bus.site.moves visit bench, turn.IsVersionRead → turn.Fails := by
  decide +kernel

end Scan
end Backplane
