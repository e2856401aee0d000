import Backplane.Proofs.Driver.Detect
import Backplane.Proofs.Driver.Identity

/-!
# The version that was read last

A driver knows the firmware version as a text, and a text that can not be read is empty. What the text
rests on is the last read of the version field on the bus: whether it succeeded, and what it left in
the field.

* `LastVersion`: the last version read among some turns, and what it came to.
* `lastVersion_firmwareVersion`, `lastVersion_deviceInfo`: the text of a version is that read.
* `lastVersion_identified`: the same for a controller that was just identified.
-/
namespace Backplane

variable {turns front rest : List Turn} {field : Except BusError (List UInt8)}

/-- A read of the firmware version, as either generation reads it. -/
def Turn.IsVersionRead (turn : Turn) : Prop := ∃ p : Protocol, turn.request? = some p.versionRequest

instance : DecidablePred Turn.IsVersionRead := fun turn =>
  decidable_of_iff (turn.request? = some (Protocol.versionRequest .v0) ∨
    turn.request? = some (Protocol.versionRequest .v1))
    ⟨fun h => h.elim (fun h => ⟨.v0, h⟩) fun h => ⟨.v1, h⟩, by
      rintro ⟨p, hp⟩
      cases p with
      | v0 => exact .inl hp
      | v1 => exact .inr hp⟩

/-- The field that the replies to a version read leave, as far as the device says it was filled. -/
def Protocol.versionField :
    (p : Protocol) → List (Reply p.versionRequest) → p.versionRequest.Value → List UInt8
  | .v0, replies, _ => delivered (.replicate V0.versionLength 0) replies
  | .v1, replies, count => (delivered (.replicate V1.versionLength 0) replies).take count

/-- No attempt of a version read stands at the end of the turns, unless it succeeded: what follows does
not repeat it. -/
def Turn.Settled (turns : List Turn) : Prop :=
  ∀ turn ∈ turns.getLast?, turn.IsVersionRead → ¬ turn.Fails

namespace Turn.Settled

theorem nil : Turn.Settled [] := by simp [Turn.Settled]

theorem append (hfront : Turn.Settled front) (hrest : Turn.Settled rest) :
    Turn.Settled (front ++ rest) := by
  cases rest with
  | nil => rwa [List.append_nil]
  | cons turn rest => simpa [Turn.Settled, List.getLast?_append, List.getLast?_cons] using hrest

/-- Behind something else nothing of a version read is left to repeat. -/
theorem of_others (hne : rest ≠ []) (hrest : ∀ turn ∈ rest, ¬ turn.IsVersionRead) :
    Turn.Settled (front ++ rest) := by
  obtain ⟨first, last, rfl⟩ := List.eq_nil_or_concat rest |>.resolve_left hne
  rintro turn hturn hread
  obtain rfl : last = turn := by simpa using hturn
  exact absurd hread (hrest last (by simp))

/-- A request that succeeded in the end is not repeated. -/
theorem of_ok {r : Request} {most : Nat} {replies : List (Reply r)} {value : r.Value}
    (h : Settles most replies (.ok value)) : Turn.Settled (tries r replies) := by
  obtain ⟨last, hlast, hvalue⟩ := h.getLast?_tries
  rintro turn hturn - hfails
  rw [hlast] at hturn
  cases hturn
  obtain ⟨e, he⟩ := hfails
  rw [hvalue] at he
  cases he

end Turn.Settled

/-- The last read of the firmware version among the turns, with all its attempts, came to this field or
failed on the bus. -/
inductive LastVersion : List Turn → Except BusError (List UInt8) → Prop
  | intro {p : Protocol} {front rest : List Turn} {replies : List (Reply p.versionRequest)}
      {result : Except BusError p.versionRequest.Value} (hfront : Turn.Settled front)
      (hread : Settles Device.attemptsMax replies result) (hrest : ∀ turn ∈ rest, ¬ turn.IsVersionRead) :
      LastVersion (front ++ tries p.versionRequest replies ++ rest) (result.map (p.versionField replies))

namespace LastVersion

/-- A version read with nothing behind it. -/
theorem of_tries {p : Protocol} {replies : List (Reply p.versionRequest)}
    {result : Except BusError p.versionRequest.Value} (hfront : Turn.Settled front)
    (hread : Settles Device.attemptsMax replies result) :
    LastVersion (front ++ tries p.versionRequest replies) (result.map (p.versionField replies)) := by
  rw [← List.append_nil (front ++ _)]
  exact .intro hfront hread (by simp)

theorem before (h : LastVersion turns field) (hfront : Turn.Settled front) :
    LastVersion (front ++ turns) field := by
  cases h with
  | @intro p inner rest replies result hinner hread hrest =>
    rw [← List.append_assoc, ← List.append_assoc]
    exact .intro (hfront.append hinner) hread hrest

theorem behind (h : LastVersion turns field) (hrest : ∀ turn ∈ rest, ¬ turn.IsVersionRead) :
    LastVersion (turns ++ rest) field := by
  cases h with
  | intro hfront hread hlater =>
    rw [List.append_assoc]
    exact .intro hfront hread (List.forall_mem_append.2 ⟨hlater, hrest⟩)

end LastVersion

namespace Driver
variable {d d' : Driver} {text : String} {info : DeviceInfo}

/-- Reads of the version that succeeded. -/
theorem V0.settled_repeats {results : List (Except BusError (List UInt8))} {device device' : Device}
    (hd : device.operational = true) (hresults : ∀ result ∈ results, ∃ raw, result = .ok raw)
    (h : Repeats V0.readVersion.run device turns results device') :
    device'.operational = true ∧ Turn.Settled turns := by
  induction h with
  | nil => exact ⟨hd, .nil⟩
  | cons hrun _ ih =>
    rw [List.forall_mem_cons] at hresults
    obtain ⟨⟨raw, rfl⟩, hlater⟩ := hresults
    obtain ⟨replies, outcome, rfl, hsettles, houtcome, rfl⟩ := V0.runs_readVersion hd hrun
    obtain ⟨hd', hrest⟩ := ih hd hlater
    cases outcome with
    | error e => cases houtcome
    | ok value => exact ⟨hd', (Turn.Settled.of_ok hsettles).append hrest⟩

/-- The text of the version is what was read last. -/
theorem lastVersion_firmwareVersion (hd : d.device.operational = true)
    (h : Runs firmwareVersion d turns text d') : ∃ field, LastVersion turns field ∧ text = textOf field := by
  rw [firmwareVersion, runs_byProtocol] at h
  cases hp : d.protocol with
  | v0 =>
    rw [hp] at h
    obtain ⟨results, r, device, hrepeats, hconfirmed, rfl, -⟩ := V0.runs_firmwareVersion h
    obtain ⟨values, rfl⟩ := hconfirmed.last
    obtain ⟨first, mid, rest, rfl, hearlier, hlast⟩ := hrepeats.concat_inv
    obtain ⟨hmid, hfirst⟩ := V0.settled_repeats hd (by simp) hearlier
    obtain ⟨replies, outcome, rfl, hsettles, rfl, -⟩ := V0.runs_readVersion hmid hlast
    rw [Except.map_id]
    exact ⟨_, .of_tries (p := .v0) hfirst hsettles, rfl⟩
  | v1 =>
    rw [hp] at h
    obtain ⟨replies, outcome, rfl, hsettles, rfl, -⟩ := V1.runs_readField hd (by decide) h
    exact ⟨_, LastVersion.of_tries (p := .v1) .nil hsettles, rfl⟩

/-- Identifying a controller reads no version. -/
theorem Creates.not_isVersionRead {label : String} {r : Except Error Driver} (h : Creates label turns r) :
    ∀ turn ∈ turns, ¬ turn.IsVersionRead := by
  have hother : ∀ p : Protocol, .functionality ≠ p.versionRequest ∧ identRequest ≠ p.versionRequest := by
    intro p
    cases p <;> decide
  obtain ⟨result, rest, rfl, hrest⟩ := h.turns_eq
  refine List.forall_mem_cons.2 ⟨by simp [Turn.IsVersionRead, Turn.request?], ?_⟩
  rintro turn hturn ⟨p, hp⟩
  obtain hasked | hasked := hrest turn hturn <;> rw [hasked] at hp
  · exact (hother p).1 (Option.some.inj hp)
  · exact (hother p).2 (Option.some.inj hp)

theorem boardTypeRequest_ne_versionRequest (p q : Protocol) : p.boardTypeRequest ≠ q.versionRequest := by
  cases p <;> cases q <;> decide

/-- The board type is read behind the version, so the version of an identity is what was read last. -/
theorem lastVersion_deviceInfo (hd : d.device.operational = true) (h : Runs deviceInfo d turns info d') :
    ∃ field, LastVersion turns field ∧ info.firmwareVersion = textOf field := by
  obtain ⟨first, mid, rest, rfl, hversion, hboard, -⟩ := runs_deviceInfo h
  obtain ⟨field, hlast, htext⟩ := lastVersion_firmwareVersion hd hversion
  have hmid := (asks_read .firmwareVersion hd hversion).1.operational_eq.trans hd
  obtain ⟨-, _, hrest, -⟩ := asks_read .boardType hmid hboard
  refine ⟨field, hlast.behind ?_, htext⟩
  rintro turn hturn ⟨q, hq⟩
  rw [hrest.request turn hturn] at hq
  exact boardTypeRequest_ne_versionRequest _ q (Option.some.inj hq)

/-- The identity of a controller for which a driver was just made. -/
theorem lastVersion_identified {label : String} {opening identity : List Turn} (front : List Turn)
    (hcreate : Creates label opening (.ok d)) (hinfo : Runs deviceInfo d identity info d') :
    ∃ field, LastVersion (front ++ opening ++ identity) field ∧ info.firmwareVersion = textOf field := by
  obtain ⟨reply, replies, byte, p, hopening, -, -, -, rfl⟩ := hcreate.ok_inv
  obtain ⟨field, hlast, htext⟩ := lastVersion_deviceInfo rfl hinfo
  have hne : opening ≠ [] := by simp [hopening, opened]
  exact ⟨field, hlast.before (.of_others hne hcreate.not_isVersionRead), htext⟩

end Driver
end Backplane
