import Mathlib.Algebra.GroupWithZero.Nat
import Backplane.Proofs.Update.Chunks

/-!
# Bounds on the work of an update

Whatever a bus answers, an update is over behind a bounded number of turns, and so are its attempts,
the handles it opens and the time it waits. Four loops are nested in it: an attempt is repeated three
times at most, an identity string of the older generation is read five times, a chunk is read back five
times, and the controller is pinged as often as the options say. Each has its bound here, and the
bounds of stages one behind the other add up.

* `Costs`: what turns cost at most. `Costs.append` adds two stages.
* `costs_creates`, `costs_deviceInfo`, `costs_writeChunk`: the operations of a driver.
* `Reaches.costs`: the chunks, by induction on the loop.
* `run_bounded`: a whole update, at any site.
-/
namespace Backplane

/-- An attempt that carries data: any but the question what the adapter can do. -/
def Turn.isData : Turn → Bool
  | ⟨.attempt .functionality, _⟩ => false
  | ⟨.attempt _, _⟩ => true
  | _ => false

/-- The time a turn waits on the bus, in microseconds. -/
def Turn.waits : Turn → Nat
  | ⟨.delay us, _⟩ => us.toNat
  | _ => 0

theorem Request.activity_ne_opening (r : Request) : r.activity ≠ .opening := by
  unfold Request.activity
  grind

/-- What turns cost at most: their number, and among them the attempts that carry data, the handles
that are opened, and the time that is waited. -/
structure Costs (turns : List Turn) (steps attempts openings waiting : Nat) : Prop where
  steps : turns.length ≤ steps
  attempts : turns.countP Turn.isData ≤ attempts
  openings : (turns.countP fun turn => turn.activity = .opening) ≤ openings
  waiting : (turns.map Turn.waits).sum ≤ waiting

namespace Costs
variable {turns first rest : List Turn} {n a o w n' a' o' w' : Nat}

theorem nil : Costs [] 0 0 0 0 := ⟨by simp, by simp, by simp, by simp⟩

/-- Turns one behind the other cost what each of them costs. -/
theorem append (hfirst : Costs first n a o w) (hrest : Costs rest n' a' o' w') :
    Costs (first ++ rest) (n + n') (a + a') (o + o') (w + w') where
  steps := by
    rw [List.length_append]
    exact Nat.add_le_add hfirst.steps hrest.steps
  attempts := by
    rw [List.countP_append]
    exact Nat.add_le_add hfirst.attempts hrest.attempts
  openings := by
    rw [List.countP_append]
    exact Nat.add_le_add hfirst.openings hrest.openings
  waiting := by
    rw [List.map_append, List.sum_append]
    exact Nat.add_le_add hfirst.waiting hrest.waiting

/-- Bounds may be larger. -/
theorem mono (h : Costs turns n a o w) (hle : n ≤ n' ∧ a ≤ a' ∧ o ≤ o' ∧ w ≤ w') :
    Costs turns n' a' o' w' :=
  ⟨h.steps.trans hle.1, h.attempts.trans hle.2.1, h.openings.trans hle.2.2.1, h.waiting.trans hle.2.2.2⟩

/-- What a turn adds to what comes behind it. -/
theorem cons (turn : Turn) (h : Costs turns n a o w) :
    Costs (turn :: turns) (1 + n) (turn.isData.toNat + a) ((decide (turn.activity = .opening)).toNat + o)
      (turn.waits + w) := by
  have hone : Costs [turn] 1 turn.isData.toNat (decide (turn.activity = .opening)).toNat turn.waits := by
    refine ⟨by simp, ?_, ?_, by simp⟩
    · cases hdata : turn.isData <;> simp [hdata]
    · by_cases hopening : turn.activity = .opening <;> simp [hopening]
  exact hone.append h

theorem told (p : Progress) (h : Costs turns n a o w) : Costs (.told p :: turns) (1 + n) a o w := by
  simpa [Turn.isData, Turn.activity, Turn.waits] using h.cons (.told p)

theorem delayed (us : UInt32) (h : Costs turns n a o w) :
    Costs (.delayed us :: turns) (1 + n) a o (us.toNat + w) := by
  simpa [Turn.isData, Turn.activity, Turn.waits] using h.cons (.delayed us)

theorem connected (result : Except BusError Unit) (h : Costs turns n a o w) :
    Costs (.connected result :: turns) (1 + n) a (1 + o) w := by
  simpa [Turn.isData, Turn.activity, Turn.waits] using h.cons (.connected result)

/-- The question what the adapter can do carries no data. -/
theorem asked (reply : Reply .functionality) (h : Costs turns n a o w) :
    Costs (.attempted .functionality reply :: turns) (1 + n) a o w := by
  simpa [Turn.isData, Turn.activity, Request.activity, Turn.waits] using
    h.cons (.attempted .functionality reply)

theorem attempted {r : Request} (reply : Reply r) (h : Costs turns n a o w) :
    Costs (.attempted r reply :: turns) (1 + n) (1 + a) o w := by
  refine (h.cons (.attempted r reply)).mono ⟨Nat.le_refl _, ?_, ?_, ?_⟩
  · exact Nat.add_le_add_right (Bool.toNat_le _) a
  · simp [Turn.activity, r.activity_ne_opening]
  · simp [Turn.waits]

theorem replies {r : Request} (replies : List (Reply r)) :
    Costs (tries r replies) replies.length replies.length 0 0 := by
  induction replies with
  | nil => exact nil
  | cons reply replies ih =>
    rw [tries_cons, List.length_cons, Nat.add_comm]
    exact ih.attempted reply

/-- A request costs its attempts. -/
theorem tries {r : Request} {answers : List (Reply r)} {result : Except BusError r.Value}
    (h : Settles Device.attemptsMax answers result) : Costs (tries r answers) 3 3 0 0 :=
  (replies answers).mono ⟨h.length_le, h.length_le, Nat.le_refl _, Nat.le_refl _⟩

/-- A request that is made over and over. -/
theorem asks {r : Request} {results : List (Except BusError r.Value)} (h : Asks r turns results) :
    Costs turns (results.length * 3) (results.length * 3) 0 0 := by
  induction h with
  | nil => exact nil
  | cons hsettles _ ih => exact ((tries hsettles).append ih).mono (by simp only [List.length_cons]; omega)

end Costs

/-! ## Operations of a driver -/

namespace Driver
variable {turns : List Turn} {d d' : Driver} {label : String}

/-- Making a driver opens one handle and identifies the controller. -/
theorem costs_creates {r : Except Error Driver} (h : Creates label turns r) : Costs turns 5 3 1 0 := by
  have hident : ∀ {reply replies} {result : Except BusError UInt8},
      Settles (r := identRequest) Device.attemptsMax replies result →
        Costs (opened reply ++ tries identRequest replies) 5 3 1 0 :=
    fun hread => ((Costs.tries hread).asked _).connected _
  cases h with
  | closed => exact (Costs.nil.connected _).mono (by omega)
  | insufficient => exact ((Costs.nil.asked _).connected _).mono (by omega)
  | silent _ hread | unknown _ hread | identified _ hread => exact hident hread

/-- An identity is two strings, each of them asked for five times at most. -/
theorem costs_deviceInfo {info : DeviceInfo} (hd : d.device.operational = true)
    (h : Runs deviceInfo d turns info d') : Costs turns 30 30 0 0 := by
  obtain ⟨first, mid, rest, rfl, hversion, hboard, -⟩ := runs_deviceInfo h
  obtain ⟨hlike, versions, hfirst, hversions⟩ := asks_read .firmwareVersion hd hversion
  obtain ⟨-, boards, hrest, hboards⟩ := asks_read .boardType (hlike.operational_eq.trans hd) hboard
  rw [confirmAttempts] at hversions hboards
  exact ((Costs.asks hfirst).append (Costs.asks hrest)).mono (by omega)

/-- A driver is made, and asked for the identity of its controller. -/
theorem costs_identified {opening identity : List Turn} {info : DeviceInfo}
    (hcreate : Creates label opening (.ok d)) (hinfo : Runs deviceInfo d identity info d') :
    Costs (opening ++ identity) 35 33 1 0 := by
  obtain ⟨_, _, _, _, _, _, _, _, rfl⟩ := hcreate.ok_inv
  exact (costs_creates hcreate).append (costs_deviceInfo rfl hinfo)

/-- Readbacks of a chunk, each behind a pause. -/
theorem costs_verifies {offset : UInt32} {bytes buffer : List UInt8} {left : Nat}
    {last : Option BusError} {r : Except Error Unit}
    (h : V0.Verifies label offset bytes left last buffer turns r) :
    Costs turns (left * 4) (left * 3) 0 (left * 100000) := by
  have hround : ∀ {replies result}, Settles (r := V0.readRequest offset bytes.length) Device.attemptsMax
      replies result → Costs (.delayed V0.verifyDelay :: tries _ replies) 4 3 0 100000 :=
    fun hread => (Costs.tries hread).delayed _
  induction h with
  | unread | different => simpa using Costs.nil
  | failed hread _ ih | mismatched hread _ _ ih =>
    simpa [Nat.succ_mul, Nat.add_comm] using (hround hread).append ih
  | verified hread => exact (hround hread).mono (by omega)

theorem costs_writeChunk {bytes : List UInt8} {r : Except Error Unit} (hd : d.device.operational = true)
    (h : Runs (writeChunk bytes).run d turns r d') : Costs turns 23 18 0 500000 := by
  obtain ⟨hwrites, -⟩ := writes_writeChunk hd h
  unfold Writes at hwrites
  cases hp : d.protocol with
  | v0 =>
    rw [hp] at hwrites
    cases hwrites with
    | refused => exact Costs.nil.mono (by omega)
    | unwritten _ hwrite => exact (Costs.tries hwrite).mono (by omega)
    | written _ hwrite hverify => exact (Costs.tries hwrite).append (costs_verifies hverify)
  | v1 =>
    rw [hp] at hwrites
    cases hwrites with
    | refused => exact Costs.nil.mono (by omega)
    | unaddressed _ haddress => exact (Costs.tries haddress).mono (by omega)
    | unwritten _ haddress hwrite =>
      exact ((Costs.tries haddress).append (Costs.tries hwrite)).mono (by omega)
    | readBack _ haddress hwrite hread =>
      have hreadBack : Costs (.delayed V1.settleDelay :: tries _ _) 4 3 0 50000 :=
        (Costs.tries hread).delayed _
      exact (((Costs.tries haddress).append (Costs.tries hwrite)).append hreadBack).mono (by omega)

end Driver

/-! ## Stages of an update -/

namespace Update
variable {label : String} {image : List UInt8} {options : UpdateOptions} {turns : List Turn}
  {c c' : Flash.Cursor} {d d' : Driver}

/-- The time an erased update area is left alone. -/
def settling (options : UpdateOptions) : Nat :=
  if options.erase then options.eraseSettle.toNat else 0

theorem Erases.costs {r : Except Error Driver} (h : Erases options d turns r) :
    Costs turns 5 3 0 (settling options) := by
  cases h with
  | skipped => exact Costs.nil.mono (by omega)
  | erased herase hcommand =>
    rw [settling, if_pos herase]
    have hsettled := (Costs.tries hcommand).append (Costs.nil.delayed options.eraseSettle)
    exact (hsettled.told (.entered .erasing)).mono (by omega)
  | failed herase hcommand =>
    exact ((Costs.tries hcommand).told (.entered .erasing)).mono (by omega)

/-- Written chunks, for each of which one chunk less is left. -/
theorem Reaches.costs (h : Reaches c d turns c' d') (hsize : 0 < c.chunkSize)
    (hd : d.device.operational = true) :
    ∃ k, c.chunks = c'.chunks + k ∧ c'.chunkSize = c.chunkSize ∧
      Costs turns (k * 24) (k * 18) 0 (k * 500000) := by
  induction h with
  | here => exact ⟨0, rfl, rfl, by simpa using Costs.nil⟩
  | @step c c' d mid d' chunk first rest hpending hwrite _ ih =>
    have hmid := (Driver.writes_writeChunk hd hwrite).2.operational_eq.trans hd
    obtain ⟨k, hchunks, hsame, hrest⟩ := ih hsize hmid
    refine ⟨k + 1, ?_, hsame, ?_⟩
    · rw [Flash.Cursor.chunks_advance hsize (Flash.Cursor.pending_eq hpending).1, hchunks, Nat.add_assoc]
    · exact ((Driver.costs_writeChunk hd hwrite).append (hrest.told _)).mono (by omega)

/-- A chunk that was left is written in vain, and the controller rebooted. -/
theorem Ends.costs {r : Except Error (Nat × Driver)} (h : Ends c d turns r) (hsize : 0 < c.chunkSize)
    (hd : d.device.operational = true) :
    Costs turns (c.chunks * 24 + 3) (c.chunks * 18 + 3) 0 (c.chunks * 500000) := by
  cases h with
  | finished => exact Costs.nil.mono (by omega)
  | abandoned hpending hwrite hreboot =>
    have hleft := Flash.Cursor.chunks_advance hsize (Flash.Cursor.pending_eq hpending).1
    have hreboots : Costs _ 3 3 0 0 := Costs.tries hreboot
    exact ((Driver.costs_writeChunk hd hwrite).append hreboots).mono (by omega)

theorem Awaits.costs {left : Nat} {r : Except Error UInt32} (h : Awaits options left turns r) :
    Costs turns (left * 5) (left * 3) 0 (left * options.pingInterval.toNat) := by
  have hping : ∀ {replies result}, Settles (r := identRequest) Device.attemptsMax replies result →
      Costs (.delayed options.pingInterval :: tries _ replies) 4 3 0 options.pingInterval.toNat :=
    fun hping => (Costs.tries hping).delayed _
  induction h with
  | exhausted => simpa using Costs.nil
  | answered hanswer =>
    rw [Nat.succ_mul _ options.pingInterval.toNat]
    exact (hping hanswer).mono (by omega)
  | silent hsilent _ ih =>
    rw [Nat.succ_mul _ options.pingInterval.toNat]
    exact ((hping hsilent).append (ih.told _)).mono (by omega)

theorem Reidentifies.costs {r : Except Error DeviceInfo} (h : Reidentifies label options turns r) :
    Costs turns 35 33 1 0 := by
  cases h with
  | absent hcreate => exact (Driver.costs_creates hcreate).mono (by omega)
  | identified hcreate hinfo => exact Driver.costs_identified hcreate hinfo

theorem Restarts.costs {r : Except Error (UInt32 × DeviceInfo)} (h : Restarts label options d turns r) :
    Costs turns (options.pingAttempts.toNat * 5 + 40) (options.pingAttempts.toNat * 3 + 36) 1
      (options.pingAttempts.toNat * options.pingInterval.toNat) := by
  have hreboots : ∀ {replies result},
      Settles (r := .writeByte d.protocol.rebootCommand) Device.attemptsMax replies result →
        Costs (tries _ replies) 3 3 0 0 :=
    Costs.tries
  cases h with
  | unrebooted hreboot => exact (hreboots hreboot).mono (by omega)
  | lost hreboot hpings =>
    exact ((hreboots hreboot).append (hpings.costs.told _)).mono (by omega)
  | returned hreboot hpings hidentity =>
    exact (((hreboots hreboot).append (hpings.costs.told _)).append (hidentity.costs.told _)).mono (by omega)

theorem Prepares.costs {before : DeviceInfo} (h : Prepares label options turns before d) :
    Costs turns 41 36 1 (settling options) := by
  cases h with
  | ready hcreate hinfo herase =>
    exact ((Driver.costs_identified hcreate hinfo).append (herase.costs.told _)).mono (by omega)

/-- Behind the chunks that were written: what is left of the chunks, and a restart. -/
theorem Concludes.costs {before : DeviceInfo} {r : Except Error UpdateReport}
    (h : Concludes label options before c d turns r) (hsize : 0 < c.chunkSize)
    (hd : d.device.operational = true) :
    Costs turns (c.chunks * 24 + (options.pingAttempts.toNat * 5 + 41))
      (c.chunks * 18 + (options.pingAttempts.toNat * 3 + 36)) 1
      (c.chunks * 500000 + options.pingAttempts.toNat * options.pingInterval.toNat) := by
  cases h with
  | abandoned hends => exact (hends.costs hsize hd).mono (by omega)
  | restarted _ hrestart => exact (hrestart.costs.told _).mono (by omega)

theorem Flashes.costs {n : Nat} {r : Except Error UpdateReport}
    (h : Flashes label image options turns r) (hsize : 0 < options.chunkSize)
    (hn : (Flash.Cursor.start image options.chunkSize).chunks = n) :
    Costs turns (84 + 24 * n + 5 * options.pingAttempts.toNat)
      (72 + 18 * n + 3 * options.pingAttempts.toNat) 2
      (settling options + 500000 * n + options.pingAttempts.toNat * options.pingInterval.toNat) := by
  cases h with
  | flashed hready hwritten hconcludes =>
    have hd := hready.driver.1
    -- The chunks that were written and those that are left are all chunks of the image.
    obtain ⟨k, hchunks, hsame, hwrites⟩ := hwritten.costs hsize hd
    have hends := hconcludes.costs (hsame ▸ hsize) (hwritten.driver hd).1
    have hwriting := (hwrites.told (.writing image.length)).told (.entered .writing)
    exact ((hready.costs.append hwriting).append hends).mono (by omega)

theorem Passes.costs {n : Nat} {r : Except Error UpdateReport}
    (h : Passes label image options turns r) (hsize : 0 < options.chunkSize)
    (hn : (Flash.Cursor.start image options.chunkSize).chunks = n) :
    Costs turns (84 + 24 * n + 5 * options.pingAttempts.toNat)
      (72 + 18 * n + 3 * options.pingAttempts.toNat) 2
      (settling options + 500000 * n + options.pingAttempts.toNat * options.pingInterval.toNat) := by
  cases h with
  | absent hcreate =>
    exact (Driver.costs_creates hcreate).mono (by omega)
  | unerased hcreate hinfo herase =>
    exact ((Driver.costs_identified hcreate hinfo).append (herase.costs.told _)).mono (by omega)
  | flashed hflashes => exact hflashes.costs hsize hn

theorem costs_closing (r : Except Error UpdateReport) : Costs (closing r) 2 0 0 0 := by
  cases r with
  | ok report => exact (Costs.nil.told _).told _
  | error e => exact (Costs.nil.told _).mono (by omega)

theorem Shows.costs {n : Nat} {r : Except Error UpdateReport} (h : Shows label image options turns r)
    (hn : (Flash.Cursor.start image options.chunkSize).chunks = n) :
    Costs turns (86 + 24 * n + 5 * options.pingAttempts.toNat)
      (72 + 18 * n + 3 * options.pingAttempts.toNat) 2
      (settling options + 500000 * n + options.pingAttempts.toNat * options.pingInterval.toNat) := by
  cases h with
  | refused =>
    exact (costs_closing _).mono (by omega)
  | accepted haccept hpass =>
    exact ((hpass.costs haccept.2.2.1 hn).append (costs_closing _)).mono (by omega)

/-- Whatever a bus answers, an update is over behind a number of turns that its options and the size
of the image tell, and so are its data attempts, the handles it opens and the time it waits. -/
theorem run_bounded {σ : Type} (site : Site σ) (bench : Bench σ) (label : String) (image : List UInt8)
    (options : UpdateOptions) :
    let turns := site.moves (run label image options) bench
    let n := (image.length + options.chunkSize - 1) / options.chunkSize
    let pings := options.pingAttempts.toNat
    turns.length ≤ 86 + 24 * n + 5 * pings ∧
    turns.countP Turn.isData ≤ 72 + 18 * n + 3 * pings ∧
    (turns.countP fun turn => turn.activity = .opening) ≤ 2 ∧
    (turns.map Turn.waits).sum ≤
      (if options.erase then options.eraseSettle.toNat else 0) + 500000 * n +
        pings * options.pingInterval.toNat := by
  intro turns n pings
  have hchunks : (Flash.Cursor.start image options.chunkSize).chunks = n := rfl
  have hcosts := (shows_run (site.course_moves (run label image options) bench)).costs hchunks
  exact ⟨hcosts.steps, hcosts.attempts, hcosts.openings, hcosts.waiting⟩

end Update
end Backplane
