import Backplane.Proofs.Update.Traffic

/-!
# The reboot of an update, on any bus

An update that has come to writing reboots the controller exactly once, whatever the bus answers: in
place of the chunk after one that failed, or behind the whole image. An update that has not come to
writing neither writes flash nor reboots.

* `Leads`, `Reopens`: what stands in front of the reboot and what may follow it.
* `run_reboots_once`: the discipline of every run.
-/
namespace Backplane.Update

variable {label : String} {image : List UInt8} {options : UpdateOptions} {turns : List Turn}
  {d d' : Driver}

/-- What stands directly in front of the reboot: the whole image and the stage of rebooting, or a
chunk that failed, whose error is the result. -/
inductive Leads (image : List UInt8) (chunkSize : Nat) (before after : List Turn)
    (result : Except Error UpdateReport) : Prop
  | written {ready written : List Turn} {d d' : Driver} {c : Flash.Cursor}
      (hbefore : before = ready ++ .told (.entered .writing) :: .told (.writing image.length) ::
        written ++ [.told (.entered .rebooting)])
      (hwritten : Reaches (.start image chunkSize) d written c d') (hpending : c.pending = none)
  | failed {ready written failed : List Turn} {d d' mid : Driver} {c : Flash.Cursor}
      {chunk : List UInt8} {e : Error}
      (hbefore : before = ready ++ .told (.entered .writing) :: .told (.writing image.length) ::
        written ++ failed)
      (hwritten : Reaches (.start image chunkSize) d written c d') (hpending : c.pending = some chunk)
      (hwrite : Runs (Driver.writeChunk chunk).run d' failed (.error e) mid)
      (hafter : after = [.told (.entered .failed)]) (hresult : result = .error e)

/-- The bus is not opened again behind the reboot, or it is behind an answered ping. -/
inductive Reopens (before after : List Turn) (outcome : Except BusError Unit) : Prop
  | never (hwaiting : ∀ turn ∈ after, WaitingActivity turn)
  | answered {waiting reopening : List Turn} {replies : List (Reply identRequest)} {byte : UInt8}
      {result : Except BusError Unit}
      (hafter : after = waiting ++ tries _ replies ++
        .told (.entered .reidentifying) :: .connected result :: reopening)
      (hrebooting : .told (.entered .rebooting) ∈ before) (hreboot : outcome = .ok ())
      (hwaiting : ∀ turn ∈ waiting, WaitingActivity turn)
      (hping : Settles Device.attemptsMax replies (.ok byte))
      (hreopening : ∀ turn ∈ reopening, turn.activity ≠ .opening)

/-- What may not happen behind the reboot. -/
def TouchesFlash (turn : Turn) : Prop :=
  turn.activity ∈ [Activity.flashWrite, .flashRead, .erase, .reboot]

theorem not_touchesFlash_waiting {turn : Turn} (h : WaitingActivity turn) : ¬ TouchesFlash turn := by
  rcases h with h | h | h <;> simp [TouchesFlash, h]

/-- Pings that were answered end with the answer. -/
theorem Awaits.answered_inv {left : Nat} {n : UInt32} (h : Awaits options left turns (.ok n)) :
    ∃ waiting replies byte, turns = waiting ++ tries identRequest replies ∧
      (∀ turn ∈ waiting, WaitingActivity turn) ∧ Settles Device.attemptsMax replies (.ok byte) := by
  generalize hr : (Except.ok n : Except Error UInt32) = r at h
  induction h with
  | exhausted => cases hr
  | answered hping => exact ⟨[.delayed _], _, _, rfl, by simp [WaitingActivity, Turn.activity], hping⟩
  | @silent left replies e rest r hping hrest ih =>
    obtain ⟨waiting, answers, byte, rfl, hwaiting, hanswers⟩ := ih hr
    refine ⟨_, answers, byte, (List.append_assoc _ (_ :: waiting) _).symm, ?_, hanswers⟩
    refine List.forall_mem_append.2 ⟨List.forall_mem_cons.2 ⟨.inr (.inl rfl), ?_⟩, ?_⟩
    · exact fun turn hturn => .inl ((activity_tries hturn).trans activity_identRequest)
    · exact List.forall_mem_cons.2 ⟨.inr (.inr rfl), hwaiting⟩

theorem waiting_closing (r : Except Error UpdateReport) : ∀ turn ∈ closing r, WaitingActivity turn := by
  cases r <;> simp [closing, WaitingActivity, Turn.activity]

/-- What may follow the reboot behind the whole image. -/
theorem Restarts.reopens {before : List Turn} {r : Except Error (UInt32 × DeviceInfo)}
    (hrebooting : .told (.entered .rebooting) ∈ before) (h : Restarts label options d turns r)
    (result : Except Error UpdateReport) :
    ∃ (replies : List (Reply (.writeByte d.protocol.rebootCommand)))
      (outcome : Except BusError Unit) (after : List Turn),
      turns ++ closing result = tries _ replies ++ after ∧
      Settles Device.attemptsMax replies outcome ∧ Reopens before after outcome ∧
      ∀ turn ∈ after, ¬ TouchesFlash turn := by
  have hclosing := waiting_closing result
  have hstage : ∀ state, WaitingActivity (.told (.entered state)) := fun _ => .inr (.inr rfl)
  cases h with
  | unrebooted hreboot =>
    refine ⟨_, _, closing result, rfl, hreboot, .never hclosing, ?_⟩
    exact fun turn hturn => not_touchesFlash_waiting (hclosing turn hturn)
  | @lost replies pings e hreboot hpings =>
    have hafter : ∀ turn ∈ Turn.told (.entered .awaitingPing) :: pings ++ closing result,
        WaitingActivity turn :=
      List.forall_mem_append.2 ⟨List.forall_mem_cons.2 ⟨hstage _, hpings.activity⟩, hclosing⟩
    refine ⟨_, _, _, List.append_assoc _ (_ :: pings) _, hreboot, .never hafter, ?_⟩
    exact fun turn hturn => not_touchesFlash_waiting (hafter turn hturn)
  | @returned replies pings identity n r hreboot hpings hidentity =>
    obtain ⟨waiting, answers, byte, rfl, hwaiting, hping⟩ := hpings.answered_inv
    obtain ⟨opened, rest, rfl, hrest⟩ := hidentity.activity
    refine ⟨replies, _, Turn.told (.entered .awaitingPing) :: waiting ++ tries _ answers ++
      .told (.entered .reidentifying) :: .connected opened :: (rest ++ closing result),
      by simp, hreboot, .answered rfl hrebooting rfl ?_ hping ?_, ?_⟩
    · exact List.forall_mem_cons.2 ⟨hstage _, hwaiting⟩
    · refine List.forall_mem_append.2 ⟨?_, ?_⟩
      · intro turn hturn
        rcases hrest turn hturn with h | h | h <;> simp [h]
      · intro turn hturn
        rcases hclosing turn hturn with h | h | h <;> simp [h]
    · have hanswers : ∀ turn ∈ tries identRequest answers, WaitingActivity turn :=
        fun turn hturn => .inl ((activity_tries hturn).trans activity_identRequest)
      refine List.forall_mem_append.2 ⟨List.forall_mem_append.2 ⟨?_, ?_⟩, ?_⟩
      · exact List.forall_mem_cons.2 ⟨not_touchesFlash_waiting (hstage _),
          fun turn hturn => not_touchesFlash_waiting (hwaiting turn hturn)⟩
      · exact fun turn hturn => not_touchesFlash_waiting (hanswers turn hturn)
      · refine List.forall_mem_cons.2 ⟨not_touchesFlash_waiting (hstage _), ?_⟩
        refine List.forall_mem_cons.2 ⟨by simp [TouchesFlash, Turn.activity], ?_⟩
        refine List.forall_mem_append.2 ⟨?_, ?_⟩
        · intro turn hturn
          rcases hrest turn hturn with h | h | h <;> simp [TouchesFlash, h]
        · exact fun turn hturn => not_touchesFlash_waiting (hclosing turn hturn)

/-- The turns in front of the reboot open the bus once and do not reboot. -/
theorem opens_once {ready written last : List Turn} {before : DeviceInfo} {total : Nat}
    {c : Flash.Cursor} {cursor : Flash.Cursor} (hready : Prepares label options ready before d)
    (hwritten : Reaches cursor d written c d')
    (hlast : ∀ turn ∈ last, turn.activity ≠ .opening ∧ turn.activity ≠ .reboot) :
    let front := ready ++ .told (.entered .writing) :: .told (.writing total) :: written ++ last
    (∀ turn ∈ front, turn.activity ≠ .reboot) ∧
      (front.countP fun turn => turn.activity = .opening) = 1 := by
  obtain ⟨result, rest, rfl, hrest⟩ := hready.idle
  have hactivity : ∀ turn ∈ rest ++ .told (.entered .writing) :: .told (.writing total) :: written ++
      last, turn.activity ≠ .opening ∧ turn.activity ≠ .reboot := by
    refine List.forall_mem_append.2 ⟨List.forall_mem_append.2 ⟨?_, ?_⟩, hlast⟩
    · exact fun turn hturn => ⟨(hrest turn hturn).2, (hrest turn hturn).1.2.2⟩
    · refine List.forall_mem_cons.2 ⟨by simp [Turn.activity], ?_⟩
      refine List.forall_mem_cons.2 ⟨by simp [Turn.activity], ?_⟩
      intro turn hturn
      obtain (h | h | h) | h := hwritten.activity hready.driver.1 turn hturn <;> simp [h]
  refine ⟨?_, ?_⟩
  · refine List.forall_mem_cons.2 ⟨by simp [Turn.activity], ?_⟩
    exact fun turn hturn => (hactivity turn hturn).2
  · simp only [List.cons_append]
    rw [List.countP_cons_of_pos (by simp [Turn.activity]), List.countP_eq_zero.2]
    intro turn hturn
    simpa using (hactivity turn hturn).1

/-- An update that came to writing. -/
theorem Flashes.reboots_once {r : Except Error UpdateReport} (h : Flashes label image options turns r) :
    ∃ (p : Protocol) (before after : List Turn) (replies : List (Reply (.writeByte p.rebootCommand)))
      (outcome : Except BusError Unit),
      turns ++ closing r = before ++ tries _ replies ++ after ∧
      Settles Device.attemptsMax replies outcome ∧
      (∃ info, .told (.currentDevice info) ∈ before ∧ info.protocol = p) ∧
      (∀ turn ∈ before, turn.activity ≠ .reboot) ∧
      (before.countP fun turn => turn.activity = .opening) = 1 ∧
      (∀ turn ∈ after, ¬ TouchesFlash turn) ∧
      Leads image options.chunkSize before after r ∧ Reopens before after outcome := by
  cases h with
  | @flashed ready written ending info d d' c r hready hwritten hconcludes =>
    obtain ⟨hd, hp, -⟩ := hready.driver
    obtain ⟨hd', hp', -⟩ := hwritten.driver hd
    have htold : ∀ {last : List Turn}, .told (.currentDevice info) ∈
        ready ++ .told (.entered .writing) :: .told (.writing image.length) :: written ++ last := by
      intro last
      have : .told (.currentDevice info) ∈ ready := by
        rw [← mem_notices, hready.notices]
        exact List.mem_cons_self
      simp [this]
    cases hconcludes with
    | @abandoned ending e hends =>
      cases hends with
      | @abandoned chunk _ failed mid replies outcome hpending hwrite hreboot =>
        have hfailed : ∀ turn ∈ failed, turn.activity ≠ .opening ∧ turn.activity ≠ .reboot := by
          intro turn hturn
          obtain h | h | h := Driver.writeChunk_activity hd' hwrite turn hturn <;> simp [h]
        obtain ⟨hfront, hopening⟩ := opens_once hready hwritten hfailed
        have hclosing := waiting_closing (.error e)
        refine ⟨d'.protocol, _, closing (.error e), replies, outcome, by simp, hreboot,
          ⟨info, htold, (hp'.trans hp).symm⟩, hfront, hopening, ?_,
          .failed rfl hwritten hpending hwrite rfl rfl, .never hclosing⟩
        exact fun turn hturn => not_touchesFlash_waiting (hclosing turn hturn)
    | @restarted restart result hpending hrestart =>
      have hstage : ∀ turn ∈ [Turn.told (.entered .rebooting)],
          turn.activity ≠ .opening ∧ turn.activity ≠ .reboot := by simp [Turn.activity]
      obtain ⟨hfront, hopening⟩ := opens_once hready hwritten hstage
      obtain ⟨replies, outcome, after, hturns, hreboot, hreopens, hafter⟩ :=
        hrestart.reopens (List.mem_append_right _ (List.mem_singleton_self _))
          (result.map fun p => ⟨info, p.2, c.offset, p.1⟩)
      refine ⟨d'.protocol, _, after, replies, outcome, ?_, hreboot,
        ⟨info, htold, (hp'.trans hp).symm⟩, hfront, hopening, hafter,
        .written rfl hwritten hpending, hreopens⟩
      rw [List.append_assoc _ (tries _ replies), ← hturns]
      simp

/-- The reboot of an update, at any site. -/
theorem run_reboots_once {σ : Type} (site : Site σ) (bench : Bench σ) (label : String)
    (image : List UInt8) (options : UpdateOptions) :
    let turns := site.moves (run label image options) bench
    let result := (site.run (run label image options) bench).1
    (.told (.entered .writing) ∉ turns →
      ∀ turn ∈ turns, turn.activity ≠ .flashWrite ∧ turn.activity ≠ .reboot) ∧
    (.told (.entered .writing) ∈ turns →
      ∃ (p : Protocol) (before after : List Turn)
        (replies : List (Reply (.writeByte p.rebootCommand))) (outcome : Except BusError Unit),
        turns = before ++ tries _ replies ++ after ∧
        Settles Device.attemptsMax replies outcome ∧ 1 ≤ replies.length ∧ replies.length ≤ 3 ∧
        (∃ info, .told (.currentDevice info) ∈ before ∧ info.protocol = p) ∧
        (∀ turn ∈ before, turn.activity ≠ .reboot) ∧
        (before.countP fun turn => turn.activity = .opening) = 1 ∧
        (∀ turn ∈ after, ¬ TouchesFlash turn) ∧
        Leads image options.chunkSize before after result ∧ Reopens before after outcome) := by
  intro turns result
  have hshows : Shows label image options turns result := shows_run (site.course_moves _ bench)
  obtain ⟨p, hidles⟩ | ⟨stages, hturns, -, hflashes⟩ := hshows.idle_or_flashes
  · refine ⟨fun _ turn hturn => ?_, fun h => absurd h (hidles.not_entered (by decide))⟩
    exact ⟨(hidles.idle turn hturn).1, (hidles.idle turn hturn).2.2⟩
  obtain ⟨p, before, after, replies, outcome, hsplit, hreboot, hrest⟩ := hflashes.reboots_once
  rw [hturns]
  refine ⟨fun h => absurd ?_ h, fun _ => ⟨p, before, after, replies, outcome, hsplit, hreboot,
    List.length_pos_iff.2 hreboot.ne_nil, hreboot.length_le, hrest⟩⟩
  cases hflashes
  simp

end Backplane.Update
