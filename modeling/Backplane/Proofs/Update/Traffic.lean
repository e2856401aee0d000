import Backplane.Proofs.Driver.Traffic
import Backplane.Proofs.Update.Stages

/-!
# Traffic of an update

What each stage of an update does on the bus and what an observer is told meanwhile.

* `Erases.activity`, `Reaches.activity`, `Awaits.activity`, `Reidentifies.activity`: the bus.
* `Prepares.notices`, `Reaches.notices`, `Restarts.notices`: the observer.
* `Concludes.told`: where an observer is told of the reboot.
* `Shows.idle_or_flashes`: an update comes to writing, or it leaves flash and the controller alone.
-/
namespace Backplane

variable {turns : List Turn}

/-- What an observer is told in these turns. -/
def notices (turns : List Turn) : List Progress := turns.filterMap Turn.progress?

@[simp] theorem notices_nil : notices [] = [] := rfl

@[simp] theorem notices_told {p : Progress} : notices (.told p :: turns) = p :: notices turns := rfl

@[simp] theorem notices_append {rest : List Turn} :
    notices (turns ++ rest) = notices turns ++ notices rest :=
  List.filterMap_append ..

@[simp] theorem mem_notices {p : Progress} : p ∈ notices turns ↔ .told p ∈ turns := by
  rw [notices, List.mem_filterMap]
  constructor
  · intro h
    obtain ⟨⟨a, answer⟩, hturn, hp⟩ := h
    cases a with
    | note n =>
      cases n <;> cases hp
      exact hturn
    | _ => cases hp
  · exact fun h => ⟨_, h, rfl⟩

/-- Where everything reaches the bus nobody is told anything. -/
theorem notices_eq_nil (h : ∀ turn ∈ turns, turn.activity ≠ .notice) : notices turns = [] := by
  refine List.filterMap_eq_nil_iff.2 ?_
  rintro ⟨a, answer⟩ hturn
  cases a with
  | note n => exact absurd rfl (h _ hturn)
  | _ => rfl

namespace Update
variable {label : String} {options : UpdateOptions} {d d' : Driver}

theorem Erases.activity {r : Except Error Driver} (h : Erases options d turns r) :
    ∀ turn ∈ turns, turn.activity = .erase ∨ turn.activity = .pause ∨ turn.activity = .notice := by
  have herase : ∀ {replies : List (Reply (.writeByte d.protocol.eraseCommand))},
      ∀ turn ∈ Turn.told (.entered .erasing) :: tries _ replies,
        turn.activity = .erase ∨ turn.activity = .pause ∨ turn.activity = .notice := by
    intro replies turn hturn
    rcases List.mem_cons.1 hturn with rfl | hturn
    · exact .inr (.inr rfl)
    · exact .inl ((activity_tries hturn).trans (activity_eraseCommand _))
  cases h with
  | skipped => simp
  | erased => exact List.forall_mem_append.2 ⟨herase, by simp [Turn.activity]⟩
  | failed => exact herase

theorem Reaches.activity {c c' : Flash.Cursor} (hd : d.device.operational = true)
    (h : Reaches c d turns c' d') :
    ∀ turn ∈ turns, Driver.ChunkActivity turn ∨ turn.activity = .notice := by
  induction h with
  | here => simp
  | step _ hwrite _ ih =>
    obtain ⟨-, hlike⟩ := Driver.writes_writeChunk hd hwrite
    refine List.forall_mem_append.2 ⟨?_, List.forall_mem_cons.2 ⟨.inr rfl, ?_⟩⟩
    · exact fun turn hturn => .inl (Driver.writeChunk_activity hd hwrite turn hturn)
    · exact ih (hlike.operational_eq.trans hd)

/-- What may be done with a handle behind a reboot. -/
def WaitingActivity (turn : Turn) : Prop :=
  turn.activity = .identification ∨ turn.activity = .pause ∨ turn.activity = .notice

theorem Awaits.activity {left : Nat} {r : Except Error UInt32} (h : Awaits options left turns r) :
    ∀ turn ∈ turns, WaitingActivity turn := by
  have hping : ∀ {replies : List (Reply identRequest)},
      ∀ turn ∈ Turn.delayed options.pingInterval :: tries _ replies, WaitingActivity turn := by
    intro replies turn hturn
    rcases List.mem_cons.1 hturn with rfl | hturn
    · exact .inr (.inl rfl)
    · exact .inl ((activity_tries hturn).trans activity_identRequest)
  induction h with
  | exhausted => simp
  | answered => exact hping
  | silent _ _ ih =>
    exact List.forall_mem_append.2 ⟨hping, List.forall_mem_cons.2 ⟨.inr (.inr rfl), ih⟩⟩

theorem Reidentifies.activity {r : Except Error DeviceInfo} (h : Reidentifies label options turns r) :
    ∃ result rest, turns = .connected result :: rest ∧ ∀ turn ∈ rest,
      turn.activity = .adapter ∨ turn.activity = .identification ∨ turn.activity = .other := by
  cases h with
  | absent hcreate =>
    obtain ⟨result, rest, rfl, hrest⟩ := hcreate.activity
    exact ⟨result, rest, rfl, fun turn hturn => (hrest turn hturn).imp_right .inl⟩
  | identified hcreate hinfo =>
    obtain ⟨result, rest, rfl, hrest⟩ := hcreate.activity
    obtain ⟨_, _, _, _, _, _, _, _, rfl⟩ := hcreate.ok_inv
    refine ⟨result, _, rfl, List.forall_mem_append.2 ⟨?_, ?_⟩⟩
    · exact fun turn hturn => (hrest turn hturn).imp_right .inl
    · exact fun turn hturn => .inr (.inr (Driver.deviceInfo_activity rfl hinfo turn hturn))

theorem notices_tries {r : Request} {replies : List (Reply r)} (hr : r.activity ≠ .notice) :
    notices (tries r replies) = [] :=
  notices_eq_nil fun _ hturn => activity_tries hturn ▸ hr

theorem notices_creates {r : Except Error Driver} (h : Driver.Creates label turns r) :
    notices turns = [] := by
  refine notices_eq_nil fun turn hturn => ?_
  rcases h.each_activity turn hturn with h | h | h <;> simp [h]

theorem notices_deviceInfo {info : DeviceInfo} (hd : d.device.operational = true)
    (h : Runs Driver.deviceInfo d turns info d') : notices turns = [] :=
  notices_eq_nil fun turn hturn => by simp [Driver.deviceInfo_activity hd h turn hturn]

theorem notices_writeChunk {bytes : List UInt8} {r : Except Error Unit}
    (hd : d.device.operational = true) (h : Runs (Driver.writeChunk bytes).run d turns r d') :
    notices turns = [] := by
  refine notices_eq_nil ?_
  intro turn hturn
  rcases Driver.writeChunk_activity hd h turn hturn with h | h | h <;> simp [h]

theorem Erases.notices {r : Except Error Driver} (h : Erases options d turns r) :
    notices turns = if options.erase then [.entered .erasing] else [] := by
  cases h with
  | skipped herase => simp [herase]
  | erased herase => simp [herase, notices_tries]; rfl
  | failed herase => simp [herase, notices_tries]

/-- A driver that is ready to write. -/
theorem Prepares.driver {before : DeviceInfo} (h : Prepares label options turns before d) :
    d.device.operational = true ∧ d.protocol = before.protocol ∧ d.label = label := by
  cases h with
  | ready hcreate hinfo herase =>
    obtain ⟨_, _, _, _, _, _, _, _, rfl⟩ := hcreate.ok_inv
    obtain ⟨hlike, hp, -⟩ := Driver.deviceInfo_turns rfl hinfo
    obtain ⟨hd, hp', hlabel⟩ := herase.driver (hlike.operational_eq.trans rfl)
    exact ⟨hd, hp'.trans (hlike.protocol_eq.trans hp.symm), hlabel.trans hlike.label_eq⟩

theorem Prepares.flashOffset_eq {before : DeviceInfo} (h : Prepares label options turns before d) :
    d.flashOffset = 0 := by
  cases h with
  | ready hcreate hinfo herase =>
    obtain ⟨_, _, _, _, _, _, _, _, rfl⟩ := hcreate.ok_inv
    obtain ⟨hlike, -, -⟩ := Driver.deviceInfo_turns rfl hinfo
    cases herase with
    | skipped => exact hlike.flashOffset_eq
    | erased _ _ herased => exact herased.flashOffset_eq

theorem Prepares.notices {before : DeviceInfo} (h : Prepares label options turns before d) :
    notices turns =
      .currentDevice before :: if options.erase then [.entered .erasing] else [] := by
  cases h with
  | ready hcreate hinfo herase =>
    obtain ⟨_, _, _, _, _, _, _, _, rfl⟩ := hcreate.ok_inv
    simp [notices_creates hcreate, notices_deviceInfo rfl hinfo, herase.notices]

/-- An observer is told of every chunk, and the last it is told of is where writing stands. -/
theorem Reaches.notices {c c' : Flash.Cursor} (hd : d.device.operational = true)
    (h : Reaches c d turns c' d') :
    ∃ offsets : List Nat, notices turns = offsets.map Progress.written ∧
      offsets.getLast?.getD c.offset = c'.offset := by
  induction h with
  | here => exact ⟨[], rfl, rfl⟩
  | @step c c' d mid d' chunk first rest _ hwrite _ ih =>
    obtain ⟨-, hlike⟩ := Driver.writes_writeChunk hd hwrite
    obtain ⟨offsets, hoffsets, hlast⟩ := ih (hlike.operational_eq.trans hd)
    refine ⟨c.advance.offset :: offsets, ?_, ?_⟩
    · simp [notices_writeChunk hd hwrite, hoffsets]
    · rw [List.getLast?_cons, Option.getD_some, hlast]

/-- What an observer is told up to the last chunk that was written. -/
theorem notices_written (total : Nat) {ready written : List Turn} {before : DeviceInfo}
    {c c' : Flash.Cursor} (hready : Prepares label options ready before d)
    (hwritten : Reaches c d written c' d') :
    ∃ offsets : List Nat,
      Backplane.notices (ready ++ .told (.entered .writing) :: .told (.writing total) :: written) =
        .currentDevice before :: (if options.erase then [.entered .erasing] else []) ++
          .entered .writing :: .writing total :: offsets.map Progress.written ∧
      offsets.getLast?.getD c.offset = c'.offset := by
  obtain ⟨offsets, hoffsets, hlast⟩ := hwritten.notices hready.driver.1
  exact ⟨offsets, by simp [hready.notices, hoffsets], hlast⟩

theorem Ends.notices {c : Flash.Cursor} {r : Except Error (Nat × Driver)}
    (hd : d.device.operational = true) (h : Ends c d turns r) : notices turns = [] := by
  cases h with
  | finished => rfl
  | abandoned _ hwrite => simp [notices_writeChunk hd hwrite, notices_tries]

theorem Awaits.notices {left : Nat} {r : Except Error UInt32} (h : Awaits options left turns r) :
    ∀ p ∈ notices turns, ∃ attempt, p = .pingFailed attempt options.pingAttempts := by
  have hping : ∀ {replies : List (Reply identRequest)},
      Backplane.notices (.delayed options.pingInterval :: tries _ replies) = [] := by
    intro replies
    refine notices_eq_nil (List.forall_mem_cons.2 ⟨by simp [Turn.activity], ?_⟩)
    exact fun turn hturn => by simp [activity_tries hturn]
  induction h with
  | exhausted => simp
  | answered =>
    rw [hping]
    simp
  | silent _ _ ih =>
    rw [notices_append, hping, notices_told, List.nil_append]
    exact List.forall_mem_cons.2 ⟨⟨_, rfl⟩, ih⟩

theorem Reidentifies.notices {r : Except Error DeviceInfo} (h : Reidentifies label options turns r) :
    notices turns = [] := by
  cases h with
  | absent hcreate => exact notices_creates hcreate
  | identified hcreate hinfo =>
    obtain ⟨_, _, _, _, _, _, _, _, rfl⟩ := hcreate.ok_inv
    simp [notices_creates hcreate, notices_deviceInfo rfl hinfo]

/-- Behind the reboot an observer is told of pings and of the stages left. -/
theorem Restarts.notices {r : Except Error (UInt32 × DeviceInfo)}
    (h : Restarts label options d turns r) :
    ∀ p ∈ notices turns, p = .entered .awaitingPing ∨ p = .entered .reidentifying ∨
      ∃ attempt, p = .pingFailed attempt options.pingAttempts := by
  intro p hp
  cases h with
  | unrebooted => simp [notices_tries] at hp
  | lost _ hpings =>
    simp only [notices_append, notices_told, notices_tries, activity_rebootCommand, ne_eq,
      reduceCtorEq, not_false_eq_true, List.nil_append, List.mem_cons] at hp
    rcases hp with rfl | hp
    · exact .inl rfl
    · exact .inr (.inr (hpings.notices p hp))
  | returned _ hpings hidentity =>
    simp only [notices_append, notices_told, notices_tries, activity_rebootCommand, ne_eq,
      reduceCtorEq, not_false_eq_true, List.nil_append, List.cons_append, List.mem_cons,
      List.mem_append, hidentity.notices, List.not_mem_nil, or_false] at hp
    rcases hp with rfl | hp | rfl
    · exact .inl rfl
    · exact .inr (.inr (hpings.notices p hp))
    · exact .inr (.inl rfl)

/-! ## Updates that write and updates that do not -/

/-- A turn of an update that has not come to writing. -/
def Idle (turn : Turn) : Prop :=
  turn.activity ≠ .flashWrite ∧ turn.activity ≠ .flashRead ∧ turn.activity ≠ .reboot

theorem idle_creates {r : Except Error Driver} (h : Driver.Creates label turns r) :
    ∃ result rest, turns = .connected result :: rest ∧
      ∀ turn ∈ rest, Idle turn ∧ turn.activity ≠ .opening := by
  obtain ⟨result, rest, rfl, hrest⟩ := h.activity
  refine ⟨result, rest, rfl, ?_⟩
  intro turn hturn
  rcases hrest turn hturn with h | h <;> simp [Idle, h]

theorem idle_deviceInfo {info : DeviceInfo} (hd : d.device.operational = true)
    (h : Runs Driver.deviceInfo d turns info d') :
    ∀ turn ∈ turns, Idle turn ∧ turn.activity ≠ .opening := by
  intro turn hturn
  simp [Idle, Driver.deviceInfo_activity hd h turn hturn]

theorem Erases.idle {r : Except Error Driver} (h : Erases options d turns r) :
    ∀ turn ∈ turns, Idle turn ∧ turn.activity ≠ .opening := by
  intro turn hturn
  rcases h.activity turn hturn with h | h | h <;> simp [Idle, h]

/-- The bus is opened once for all that comes before writing. -/
theorem idle_identified {opening identity erasing : List Turn} {mid : Driver} {before : DeviceInfo}
    {r : Except Error Driver} (hcreate : Driver.Creates label opening (.ok d))
    (hinfo : Runs Driver.deviceInfo d identity before mid) (herase : Erases options mid erasing r) :
    ∃ result rest,
      opening ++ identity ++ .told (.currentDevice before) :: erasing = .connected result :: rest ∧
      ∀ turn ∈ rest, Idle turn ∧ turn.activity ≠ .opening := by
  obtain ⟨result, rest, rfl, hrest⟩ := idle_creates hcreate
  obtain ⟨_, _, _, _, _, _, _, _, rfl⟩ := hcreate.ok_inv
  refine ⟨result, rest ++ identity ++ .told (.currentDevice before) :: erasing, rfl, ?_⟩
  refine List.forall_mem_append.2 ⟨List.forall_mem_append.2 ⟨hrest, idle_deviceInfo rfl hinfo⟩, ?_⟩
  exact List.forall_mem_cons.2 ⟨by simp [Idle, Turn.activity], herase.idle⟩

theorem Prepares.idle {before : DeviceInfo} (h : Prepares label options turns before d) :
    ∃ result rest, turns = .connected result :: rest ∧
      ∀ turn ∈ rest, Idle turn ∧ turn.activity ≠ .opening := by
  cases h with
  | ready hcreate hinfo herase => exact idle_identified hcreate hinfo herase

theorem idle_connected {result : Except BusError Unit} : Idle (.connected result) := by
  simp [Idle, Turn.activity]

theorem notices_closing (r : Except Error UpdateReport) :
    ∀ p ∈ notices (closing r), p = .entered .failed ∨ p = .entered .done ∨
      ∃ report, p = .complete report := by
  cases r <;> simp [closing]

/-- What an observer is told behind the last chunk. -/
def isLate : Progress → Bool
  | .entered state => state ∉ [UpdateState.idle, .erasing, .writing]
  | .pingFailed _ _ => true
  | .complete _ => true
  | _ => false

/-- Behind the chunks an observer is told of the reboot exactly where the image is written. -/
theorem Concludes.notices {before : DeviceInfo} {c : Flash.Cursor} {r : Except Error UpdateReport}
    (hd : d.device.operational = true) (h : Concludes label options before c d turns r) :
    (∀ p ∈ notices (turns ++ closing r), isLate p = true) ∧
      (.entered .rebooting ∈ notices (turns ++ closing r) ↔ c.pending = none) := by
  have hclosing : ∀ {r}, ∀ p ∈ Backplane.notices (closing r), isLate p = true ∧ p ≠ .entered .rebooting := by
    intro r p hp
    obtain rfl | rfl | ⟨report, rfl⟩ := notices_closing r p hp <;> simp [isLate]
  rw [notices_append]
  cases h with
  | abandoned hends =>
    rw [hends.notices hd, List.nil_append]
    refine ⟨fun p hp => (hclosing p hp).1, fun h => absurd rfl (hclosing _ h).2, ?_⟩
    cases hends with
    | abandoned hpending => simp [hpending]
  | restarted hpending hrestart =>
    rw [notices_told]
    refine ⟨?_, by simp [hpending]⟩
    refine List.forall_mem_cons.2 ⟨rfl, List.forall_mem_append.2 ⟨?_, fun p hp => (hclosing p hp).1⟩⟩
    intro p hp
    obtain rfl | rfl | ⟨attempt, rfl⟩ := hrestart.notices p hp <;> rfl

/-- An observer is told of one controller before writing, and of the reboot exactly where the image is
written. -/
theorem Concludes.told (total : Nat) {ready written ending : List Turn} {before : DeviceInfo}
    {c c' : Flash.Cursor} {r : Except Error UpdateReport} (hready : Prepares label options ready before d)
    (hwritten : Reaches c d written c' d') (h : Concludes label options before c' d' ending r) :
    let told := ready ++ .told (.entered .writing) :: .told (.writing total) :: written ++ ending ++
      closing r
    (∀ info, .told (.currentDevice info) ∈ told → info = before) ∧
      (.told (.entered .rebooting) ∈ told ↔ c'.pending = none) := by
  intro told
  obtain ⟨hlate, hrebooting⟩ := h.notices (hwritten.driver hready.driver.1).1
  obtain ⟨offsets, hoffsets, -⟩ := notices_written total hready hwritten
  have hearly : ∀ p ∈ Backplane.notices (ready ++ .told (.entered .writing) :: .told (.writing total) ::
      written), p ≠ .entered .rebooting ∧ ∀ info, p = .currentDevice info → info = before := by
    rw [hoffsets]
    intro p hp
    simp only [List.cons_append, List.mem_cons, List.mem_append, List.mem_map] at hp
    obtain rfl | h | rfl | rfl | ⟨n, -, rfl⟩ := hp
    · simp
    · split at h <;> simp_all
    · simp
    · simp
    · simp
  have hsplit : ∀ {p}, .told p ∈ told ↔ p ∈ Backplane.notices (ready ++ .told (.entered .writing) ::
      .told (.writing total) :: written) ∨ p ∈ Backplane.notices (ending ++ closing r) := by
    intro p
    rw [← mem_notices, ← List.mem_append, ← notices_append, ← List.append_assoc]
  constructor
  · intro info hinfo
    obtain h | h := hsplit.1 hinfo
    · exact (hearly _ h).2 info rfl
    · exact absurd (hlate _ h) (by simp [isLate])
  · rw [hsplit, or_iff_right fun h => (hearly _ h).1 rfl, hrebooting]

/-- An update that does not come to writing leaves flash alone and the controller running, and tells
of nothing but the controller, its erasure and its own failure. -/
structure Idles (p : Protocol) (turns : List Turn) : Prop where
  idle : ∀ turn ∈ turns, Idle turn
  unerased : ∀ turn ∈ turns, turn.activity = .erase → turn.Fails
  notices : ∀ q ∈ notices turns, q = .entered .erasing ∨ q = .entered .failed ∨
    ∃ info : DeviceInfo, q = .currentDevice info ∧ info.protocol = p

theorem Idles.not_entered {p : Protocol} (h : Idles p turns) {state : UpdateState}
    (hstate : state ≠ .erasing ∧ state ≠ .failed) : .told (.entered state) ∉ turns := by
  intro hmem
  obtain heq | heq | ⟨info, heq, -⟩ := h.notices _ (mem_notices.2 hmem)
  · exact hstate.1 (Progress.entered.inj heq)
  · exact hstate.2 (Progress.entered.inj heq)
  · cases heq

theorem unerased_creates {r : Except Error Driver} (h : Driver.Creates label turns r) :
    ∀ turn ∈ turns, turn.activity = .erase → turn.Fails := by
  intro turn hturn
  rcases h.each_activity turn hturn with h | h | h <;> simp [h]

/-- An erasure that failed is one that failed at every attempt. -/
theorem unerased_erases {opening identity erasing : List Turn} {mid : Driver} {before : DeviceInfo}
    {e : Error} (hcreate : Driver.Creates label opening (.ok d))
    (hinfo : Runs Driver.deviceInfo d identity before mid) (herase : Erases options mid erasing (.error e)) :
    ∀ turn ∈ opening ++ identity ++ .told (.currentDevice before) :: erasing,
      turn.activity = .erase → turn.Fails := by
  have hidentity : ∀ turn ∈ identity, turn.activity = .erase → turn.Fails := by
    obtain ⟨_, _, _, _, _, _, _, _, rfl⟩ := hcreate.ok_inv
    intro turn hturn
    simp [Driver.deviceInfo_activity rfl hinfo turn hturn]
  refine List.forall_mem_append.2
    ⟨List.forall_mem_append.2 ⟨unerased_creates hcreate, hidentity⟩, ?_⟩
  cases herase with
  | failed _ hcommand =>
    refine List.forall_mem_cons.2 ⟨by simp [Turn.activity], ?_⟩
    refine List.forall_mem_cons.2 ⟨by simp [Turn.activity], ?_⟩
    exact fun turn hturn _ => hcommand.fails turn hturn

/-- An opened bus, idle turns, and the end of a failed update. -/
theorem idles_failed {p : Protocol} {result : Except BusError Unit} {rest : List Turn} {e : Error}
    (hturns : turns = .connected result :: rest)
    (hrest : ∀ turn ∈ rest, Idle turn ∧ turn.activity ≠ .opening)
    (herase : ∀ turn ∈ turns, turn.activity = .erase → turn.Fails)
    (hnotices : ∀ q ∈ notices turns, q = .entered .erasing ∨
      ∃ info : DeviceInfo, q = .currentDevice info ∧ info.protocol = p) :
    Idles p (turns ++ closing (.error e)) := by
  refine ⟨?_, List.forall_mem_append.2 ⟨herase, by simp [closing, Turn.activity]⟩, ?_⟩
  · rw [hturns]
    refine List.forall_mem_append.2 ⟨List.forall_mem_cons.2 ⟨idle_connected, ?_⟩, ?_⟩
    · exact fun turn hturn => (hrest turn hturn).1
    · exact List.forall_mem_singleton.2 (by simp [Idle, Turn.activity])
  · rw [notices_append]
    refine List.forall_mem_append.2 ⟨?_, List.forall_mem_singleton.2 (.inr (.inl rfl))⟩
    exact fun q hq => (hnotices q hq).imp_right .inr

/-- An update comes to writing, or it is idle. -/
theorem Shows.idle_or_flashes {image : List UInt8} {r : Except Error UpdateReport}
    (h : Shows label image options turns r) :
    (∃ p, Idles p turns) ∨
    ∃ stages, turns = stages ++ closing r ∧ Accepts image options ∧
      Flashes label image options stages r := by
  cases h with
  | refused hrefuse =>
    refine .inl ⟨.v0, List.forall_mem_singleton.2 (by simp [Idle, Turn.activity]), ?_, ?_⟩
    · exact List.forall_mem_singleton.2 (by simp [Turn.activity])
    · exact List.forall_mem_singleton.2 (.inr (.inl rfl))
  | accepted haccept hpass =>
    cases hpass with
    | absent hcreate =>
      obtain ⟨result, rest, hturns, hrest⟩ := idle_creates hcreate
      exact .inl ⟨.v0, idles_failed hturns hrest (unerased_creates hcreate)
        (by simp [notices_creates hcreate])⟩
    | @unerased _ _ _ _ _ before _ hcreate hinfo herase =>
      obtain ⟨result, rest, hturns, hrest⟩ := idle_identified hcreate hinfo herase
      refine .inl ⟨before.protocol, idles_failed hturns hrest (unerased_erases hcreate hinfo herase) ?_⟩
      obtain ⟨_, _, _, _, _, _, _, _, rfl⟩ := hcreate.ok_inv
      simp only [notices_append, notices_creates hcreate, notices_deviceInfo rfl hinfo,
        notices_told, herase.notices, List.nil_append]
      refine List.forall_mem_cons.2 ⟨.inr ⟨_, rfl, rfl⟩, ?_⟩
      intro q hq
      split at hq
      · exact .inl (List.mem_singleton.1 hq)
      · cases hq
    | flashed hflashes => exact .inr ⟨_, rfl, haccept, hflashes⟩

end Update
end Backplane
