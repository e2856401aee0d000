import Backplane.Proofs.Handles
import Backplane.Proofs.Update.Traffic

/-!
# The handles of an update

An update opens two handles: one to write through, one to identify the controller with behind its
reboot. The new firmware may speak the other generation, and the second handle is identified anew.

* `Prepares.heeds`, `Restarts.heeds`: the two handles.
* `Shows.heeds`, `heeds_runFromFile`: whole updates, which fail as either handle does.
-/
namespace Backplane

variable {known : Option Protocol} {turns : List Turn}

theorem attends_tries {p : Protocol} {r : Request} {replies : List (Reply r)} (h : p.wire r = true) :
    ∀ turn ∈ tries r replies, Attends (some p) turn := by
  intro turn hturn
  obtain ⟨reply, -, rfl⟩ := mem_tries.1 hturn
  exact ⟨p, rfl, h⟩

/-- What an observer is told in front of turns changes nothing about them. -/
theorem attends_told {p : Progress} (h : ∀ turn ∈ turns, Attends known turn) :
    ∀ turn ∈ Turn.told p :: turns, Attends known turn :=
  List.forall_mem_cons.2 ⟨trivial, h⟩

theorem Driver.attends_deviceInfo {d d' : Driver} {info : DeviceInfo}
    (h : Runs Driver.deviceInfo d turns info d') : ∀ turn ∈ turns, Attends (some d.protocol) turn :=
  stays_run Driver.sparing_deviceInfo.speaks rfl h

theorem Driver.attends_writeChunk {d d' : Driver} {bytes : List UInt8} {r : Except Error Unit}
    (h : Runs (Driver.writeChunk bytes).run d turns r d') :
    ∀ turn ∈ turns, Attends (some d.protocol) turn :=
  stays_run (Driver.sparing_byProtocol V0.sparing_writeChunk V1.sparing_writeChunk).speaks rfl h

theorem Driver.attends_reboot {p : Protocol} {replies : List (Reply (.writeByte p.rebootCommand))} :
    ∀ turn ∈ tries _ replies, Attends (some p) turn :=
  attends_tries (by cases p <;> rfl)

theorem Driver.attends_ping {p : Protocol} {replies : List (Reply identRequest)} :
    ∀ turn ∈ tries _ replies, Attends (some p) turn :=
  attends_tries (by cases p <;> rfl)

namespace Update
variable {label : String} {options : UpdateOptions} {d d' : Driver} {c c' : Flash.Cursor} {α : Type}

theorem attends_closing (r : Except Error UpdateReport) : ∀ turn ∈ closing r, Attends known turn := by
  cases r <;> simp [closing, Attends, Allowed]

/-! ## The handle that is written through -/

theorem Erases.attends {r : Except Error Driver} (h : Erases options d turns r) :
    ∀ turn ∈ turns, Attends (some d.protocol) turn := by
  have hcommand : ∀ {replies : List (Reply (.writeByte d.protocol.eraseCommand))},
      ∀ turn ∈ tries _ replies, Attends (some d.protocol) turn :=
    attends_tries (by cases d.protocol <;> rfl)
  cases h with
  | skipped => simp
  | erased =>
    exact List.forall_mem_append.2 ⟨attends_told hcommand, List.forall_mem_singleton.2 trivial⟩
  | failed => exact attends_told hcommand

theorem Reaches.attends (hd : d.device.operational = true) (h : Reaches c d turns c' d') :
    ∀ turn ∈ turns, Attends (some d.protocol) turn := by
  induction h with
  | here => simp
  | @step c c' d mid d' chunk first rest _ hwrite _ ih =>
    obtain ⟨-, hlike⟩ := Driver.writes_writeChunk hd hwrite
    have hrest := ih (hlike.operational_eq.trans hd)
    rw [show mid.protocol = d.protocol from hlike.protocol_eq] at hrest
    exact List.forall_mem_append.2 ⟨Driver.attends_writeChunk hwrite, attends_told hrest⟩

theorem Ends.attends {r : Except Error (Nat × Driver)} (h : Ends c d turns r) :
    ∀ turn ∈ turns, Attends (some d.protocol) turn := by
  cases h with
  | finished => simp
  | abandoned _ hwrite =>
    exact List.forall_mem_append.2 ⟨Driver.attends_writeChunk hwrite, Driver.attends_reboot⟩

theorem Awaits.attends {p : Protocol} {left : Nat} {r : Except Error UInt32}
    (h : Awaits options left turns r) : ∀ turn ∈ turns, Attends (some p) turn := by
  have hping : ∀ {replies : List (Reply identRequest)},
      ∀ turn ∈ Turn.delayed options.pingInterval :: tries _ replies, Attends (some p) turn :=
    List.forall_mem_cons.2 ⟨trivial, Driver.attends_ping⟩
  induction h with
  | exhausted => simp
  | answered => exact hping
  | silent _ _ ih => exact List.forall_mem_append.2 ⟨hping, attends_told ih⟩

/-- A handle that was identified, and what is done with it up to writing. -/
theorem heeds_identified {opening identity erasing rest : List Turn} {mid : Driver}
    {before : DeviceInfo} {r : Except Error Driver} {result : Except Error α}
    (hcreate : Driver.Creates label opening (.ok d))
    (hinfo : Runs Driver.deviceInfo d identity before mid) (herase : Erases options mid erasing r)
    (hrest : Heeds (some d.protocol) rest result) :
    Heeds known (opening ++ identity ++ .told (.currentDevice before) :: erasing ++ rest) result := by
  obtain ⟨_, _, _, _, _, _, _, _, rfl⟩ := hcreate.ok_inv
  obtain ⟨hlike, -, -⟩ := Driver.deviceInfo_turns rfl hinfo
  have herasing := herase.attends
  rw [hlike.protocol_eq] at herasing
  rw [List.append_assoc, List.append_assoc]
  exact .opened hcreate (.behind (Driver.attends_deviceInfo hinfo)
    (.behind (attends_told herasing) hrest))

theorem Prepares.heeds {before : DeviceInfo} {rest : List Turn} {result : Except Error α}
    (h : Prepares label options turns before d) (hrest : Heeds (some d.protocol) rest result) :
    Heeds known (turns ++ rest) result := by
  have hp := h.driver.2.1
  cases h with
  | ready hcreate hinfo herase =>
    obtain ⟨_, _, _, _, _, _, _, _, rfl⟩ := hcreate.ok_inv
    obtain ⟨-, hbefore, -⟩ := Driver.deviceInfo_turns rfl hinfo
    rw [hp, hbefore] at hrest
    exact heeds_identified hcreate hinfo herase hrest

/-! ## The handle behind the reboot -/

theorem Reidentifies.heeds {r : Except Error DeviceInfo} (h : Reidentifies label options turns r) :
    Heeds known turns r := by
  cases h with
  | absent hcreate => exact .failed hcreate
  | identified hcreate hinfo =>
    exact .opened hcreate (.of_attends (Driver.attends_deviceInfo hinfo))

theorem Restarts.heeds {r : Except Error (UInt32 × DeviceInfo)}
    (h : Restarts label options d turns r) : Heeds (some d.protocol) turns r := by
  cases h with
  | unrebooted => exact .of_attends Driver.attends_reboot
  | lost _ hpings =>
    exact .behind Driver.attends_reboot (.of_attends (attends_told hpings.attends))
  | returned _ hpings hidentity =>
    rw [List.append_assoc]
    exact .behind Driver.attends_reboot
      (.behind (attends_told hpings.attends) (.turn trivial (hidentity.heeds.map _)))

theorem Concludes.heeds {before : DeviceInfo} {r : Except Error UpdateReport}
    (h : Concludes label options before c d turns r) : Heeds (some d.protocol) turns r := by
  cases h with
  | abandoned hends => exact .of_attends hends.attends
  | restarted _ hrestart => exact .turn trivial (hrestart.heeds.map _)

/-! ## Whole updates -/

theorem Flashes.heeds {image : List UInt8} {r : Except Error UpdateReport}
    (h : Flashes label image options turns r) : Heeds known turns r := by
  cases h with
  | @flashed ready written ending before d d' c r hready hwritten hconcludes =>
    have hd := hready.driver.1
    have hending := hconcludes.heeds
    rw [(hwritten.driver hd).2.1] at hending
    rw [List.append_assoc]
    refine hready.heeds (.behind ?_ hending)
    exact attends_told (attends_told (hwritten.attends hd))

theorem Shows.heeds {image : List UInt8} {r : Except Error UpdateReport}
    (h : Shows label image options turns r) : Heeds known turns r := by
  cases h with
  | refused => exact .of_attends (attends_closing _)
  | accepted _ hpass =>
    refine .append ?_ (attends_closing _)
    cases hpass with
    | absent hcreate => exact .failed hcreate
    | unerased hcreate hinfo herase =>
      rw [← List.append_nil (_ ++ _)]
      exact heeds_identified hcreate hinfo herase (.of_attends (by simp))
    | flashed hflashes => exact hflashes.heeds

theorem guards_run {image : List UInt8} : Guards known (run label image options) :=
  fun _ _ h => (shows_run h).heeds.respects

theorem stays_openReadOnly {path : String} : Stays known (Image.openReadOnly path) := by
  refine stays_bind (stays_ask fun _ => trivial) ?_
  rintro (e | bytes | _)
  · exact stays_pure _
  · cases bytes with
    | nil => exact stays_pure _
    | cons => exact stays_bind (stays_ask fun _ => trivial) fun _ => stays_pure _
  · exact stays_pure _

theorem heeds_runFromFile {path : String} {r : Except Error UpdateReport}
    (h : Course (runFromFile label path options) turns r) : Heeds known turns r := by
  obtain ⟨reading, content, rest, rfl, hread, h⟩ := course_bind.1 h
  refine .behind (stays_openReadOnly hread) ?_
  cases content with
  | error e =>
    obtain ⟨rfl, -⟩ := course_pure.1 h
    exact .of_attends (by simp)
  | ok image =>
    obtain ⟨_, _, rest, rfl, hlog, hrun⟩ := course_bind.1 h
    obtain rfl := course_log.1 hlog
    exact (shows_run hrun).heeds

theorem guards_runFromFile {path : String} : Guards known (runFromFile label path options) :=
  fun _ _ h => (heeds_runFromFile h).respects

end Update
end Backplane
