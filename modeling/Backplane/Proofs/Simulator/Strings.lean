import Backplane.Proofs.Simulator.Identity
import Backplane.Proofs.Text.Field

/-!
# Identity strings on the wire

A simulated controller is configured with a firmware version and a board type, any texts. A driver of its
generation reads either as the field of that size gives it back, over and over, in any order: cut in the
middle of a character where the text is too long, with an underscore for each byte that is not printable.
What it reads is what was configured exactly where the text fits its field.

* `IdentityField.size`: the sizes of their fields.
* `serves_asksIdentity`: what reading them leaves behind.
* `readEach_eq`: what they are read as.
-/
namespace Backplane

namespace IdentityField

/-- Reads of strings, one after the other. -/
def readEach (fields : List IdentityField) : DriverM (List String) := fields.mapM read

/-- The string a controller is configured with. -/
def ofConfig (config : Simulator.Config) : IdentityField → String
  | firmwareVersion => config.firmwareVersion
  | boardType => config.boardType

/-- The size of the field. -/
def size : Protocol → IdentityField → Nat
  | .v0, firmwareVersion => 60
  | .v0, boardType => 32
  | .v1, firmwareVersion => 32
  | .v1, boardType => 19

end IdentityField

/-- Reading a string leaves the driver as it was and asks for nothing else. -/
theorem Driver.asksIdentity_read {d d' : Driver} {turns : List Turn} {text : String} {field : IdentityField}
    (hd : d.device.operational = true) (h : Runs field.read d turns text d') :
    d.Like d' ∧ ∀ turn ∈ turns, d.protocol.AsksIdentity turn := by
  obtain ⟨hlike, _, hasks, -⟩ := asks_read field hd h
  refine ⟨hlike, fun turn hturn => ?_⟩
  have hrequest := hasks.request turn hturn
  cases field with
  | firmwareVersion => exact .inl hrequest
  | boardType => exact .inr hrequest

namespace Simulator

variable {s t t' : Simulator} {d d' : Driver} {p : Protocol} {name : String} {turn : Turn} {turns : List Turn}

/-- The controller has the field: early firmware of the older generation knows no board type. -/
def implements (s : Simulator) : IdentityField → Bool
  | .firmwareVersion => true
  | .boardType => !(s.config.protocol == .v0 && s.faults.noBoardType)

/-- What the field gives back of the string in it, empty where there is no such field. -/
def told (s : Simulator) (field : IdentityField) : String :=
  if s.implements field then
    Text.fieldText ((field.ofConfig s.config).toUTF8.toList.take (field.size s.config.protocol))
  else ""

theorem fieldText_field (text : String) (size : Nat) :
    Text.fieldText (field text size) = Text.fieldText (text.toUTF8.toList.take size) :=
  Text.fieldText_append_padding _ fun _ hb => (List.eq_of_mem_replicate hb) ▸ rfl

theorem told_eq (hs : s.Running p) (field : IdentityField) : s.told field = field.ofInfo s.identity := by
  unfold told
  cases p with
  | v0 =>
    rw [identity_v0 hs, hs.2]
    cases field with
    | firmwareVersion => exact (fieldText_field _ _).symm
    | boardType =>
      simp only [implements, hs.2, IdentityField.ofInfo, fieldText_field]
      cases s.faults.noBoardType <;> rfl
  | v1 =>
    rw [identity_v1 hs, hs.2]
    cases field <;> simp only [implements, hs.2] <;> exact (fieldText_field _ _).symm

/-! ## What reads leave behind -/

theorem attempt_versionRequest (hs : s.Running p) :
    (attempt p.versionRequest s).next = s.count p.versionRequest := by
  cases p with
  | v0 =>
    rw [Protocol.versionRequest, attempt_transfer hs (frame?_version hs.2)]
    rfl
  | v1 =>
    rw [Protocol.versionRequest, attempt_block _ _ hs]
    split <;> rfl

theorem attempt_boardTypeRequest (hs : s.Running p) :
    (attempt p.boardTypeRequest s).next = s.count p.boardTypeRequest := by
  cases p <;>
  · rw [Protocol.boardTypeRequest, attempt_block _ _ hs]
    split <;> rfl

/-- A request for a string is counted. -/
theorem serves_asksIdentity (hs : s.Running p) (hturn : p.AsksIdentity turn)
    (h : (bus name).Serves s turn t) : ∃ r, t = s.count r := by
  obtain ⟨a, answer⟩ := turn
  cases a with
  | attempt r =>
    obtain ⟨-, rfl⟩ := h
    obtain hr | hr := hturn <;> cases hr
    · exact ⟨_, attempt_versionRequest hs⟩
    · exact ⟨_, attempt_boardTypeRequest hs⟩
  | _ => rcases hturn with h | h <;> cases h

/-- Both controllers are the same, but for counts. -/
def Counted (s t : Simulator) : Prop := ∃ counters, t = { s with counters := counters }

namespace Counted

theorem refl (s : Simulator) : s.Counted s := ⟨s.counters, rfl⟩

theorem running (h : s.Counted t) (hs : s.Running p) : t.Running p := by
  obtain ⟨counters, rfl⟩ := h
  exact hs

theorem told_eq (h : s.Counted t) : t.told = s.told := by
  obtain ⟨counters, rfl⟩ := h
  rfl

end Counted

theorem follows_asksIdentity (hs : s.Running p) (hturns : ∀ turn ∈ turns, p.AsksIdentity turn)
    (ht : s.Counted t) (h : (bus name).Follows t turns t') : s.Counted t' := by
  refine h.preserves (fun hu hturn hserves => ?_) hturns ht
  obtain ⟨r, rfl⟩ := serves_asksIdentity (hu.running hs) hturn hserves
  obtain ⟨counters, rfl⟩ := hu
  exact ⟨_, rfl⟩

/-! ## What strings are read as -/

theorem read_eq {text : String} {field : IdentityField} (hs : s.Running d.protocol)
    (hd : d.device.operational = true) (h : Runs field.read d turns text d')
    (hfollows : (bus name).Follows s turns t) : text = s.told field := by
  rw [told_eq hs]
  exact (read_eq_identity field hs hd h hfollows).1

/-- Strings that are read one after the other, with a controller that may have been asked before. -/
theorem follows_readEach {fields : List IdentityField} {texts : List String} (hs : s.Running d.protocol)
    (hd : d.device.operational = true) (ht : s.Counted t)
    (h : Runs (IdentityField.readEach fields) d turns texts d')
    (hfollows : (bus name).Follows t turns t') : texts = fields.map s.told ∧ s.Counted t' := by
  -- The controller behind a read differs from `s` in counts only, and the text depends on none of them.
  induction fields generalizing t d turns texts with
  | nil =>
    obtain ⟨rfl, rfl, rfl⟩ := runs_pure.1 h
    obtain rfl := hfollows
    exact ⟨rfl, ht⟩
  | cons field fields ih =>
    rw [IdentityField.readEach, List.mapM_cons] at h
    obtain ⟨first, text, mid, _, rfl, hread, hrest⟩ := runs_bind.1 h
    obtain ⟨others, hothers, rfl⟩ := runs_bind_pure.1 hrest
    obtain ⟨u, hbefore, hafter⟩ := Bus.follows_append.1 hfollows
    obtain ⟨hlike, hasks⟩ := Driver.asksIdentity_read hd hread
    have htext := read_eq (ht.running hs) hd hread hbefore
    have hu := follows_asksIdentity hs hasks ht hbefore
    obtain ⟨hrest, hend⟩ := ih (hlike.protocol_eq ▸ hs) (hlike.operational_eq.trans hd) hu hothers hafter
    rw [htext, ht.told_eq, hrest]
    exact ⟨rfl, hend⟩

/-- A running controller with any strings in it, and a driver of its generation: each read comes to what the
field gives back of the string, and that is the string itself exactly where it fits. Whatever is read, and
however often, only counts change. -/
theorem readEach_eq (s : Simulator) (d : Driver) (hs : s.Running d.protocol)
    (hd : d.device.operational = true) (fields : List IdentityField) (name : String) (events : Array Event) :
    let out := (bus name).site.run ((IdentityField.readEach fields).run d) ⟨s, events⟩
    out.1.1 = fields.map s.told ∧
      (∀ field, s.implements field = true →
        (s.told field = field.ofConfig s.config ↔
          Text.Fits (field.size d.protocol) (field.ofConfig s.config))) ∧
      ∃ counters, out.2.state = { s with counters := counters } := by
  intro out
  obtain ⟨htexts, hcounted⟩ := follows_readEach hs hd (.refl s)
    ((bus name).site.course_moves ((IdentityField.readEach fields).run d) ⟨s, events⟩)
    ((bus name).follows_moves ((IdentityField.readEach fields).run d) ⟨s, events⟩)
  refine ⟨htexts, fun field hfield => ?_, hcounted⟩
  rw [told, if_pos hfield, ← hs.2, Text.fieldText_eq_iff]

/-- A controller whose board type is longer than its field, which ends in the middle of a character, and whose
version has a zero in it. -/
def overlong : Simulator :=
  .start { Config.blank .v1 with firmwareVersion := "1.0\x00beta", boardType := "BACKPLANE-8-NVME-Ré" } {}

/-- The first byte of the last character fits into the field and reads as an underscore. -/
theorem readEach_eq_overlong :
    let d : Driver := .ofDevice ⟨"overlong", true, .none⟩ .v1
    let fields : List IdentityField := [.boardType, .firmwareVersion, .boardType]
    let out := (bus "overlong").site.run ((IdentityField.readEach fields).run d) ⟨overlong, #[]⟩
    overlong.Running d.protocol ∧ d.device.operational = true ∧
      out.1.1 = ["BACKPLANE-8-NVME-R_", "1.0", "BACKPLANE-8-NVME-R_"] ∧
      ∃ counters, out.2.state = { overlong with counters := counters } := by
  intro d fields out
  have hrunning : overlong.Running d.protocol := ⟨rfl, rfl⟩
  obtain ⟨htexts, -, hcounted⟩ := readEach_eq overlong d hrunning rfl fields "overlong" #[]
  refine ⟨hrunning, rfl, ?_, hcounted⟩
  change out.1.1 = _ at htexts
  rw [htexts]
  decide +kernel

/-- A text that fills its field to the last byte comes back as it is. -/
example : Text.Fits (IdentityField.size .v1 .boardType) "BACKPLANE-8-NVME-RX" := by decide

end Simulator
end Backplane
