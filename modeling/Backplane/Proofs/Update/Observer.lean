import Backplane.Proofs.Update.Chunks
import Backplane.Proofs.Update.Pings

/-!
# What an observer of an update is told

An observer follows an update by what it is told alone: which controller was found, which stages were
entered, how far writing has come, which pings were silent, and the end. All of it together is one
`Account`, and every update gives one: the stages are a walk along a fixed route that stops early or
reaches its end, and what is told within a stage follows from the sizes and from the pings.

* `Reaches.written_eq`: the bytes that are reported while writing.
* `Restarts.walks`, `Concludes.walks`: the stages behind the chunks.
* `Shows.account`: every update gives an account.
* `run_tells`: an update at any site.
-/
namespace Backplane.Update

variable {label : String} {image : List UInt8} {options : UpdateOptions} {turns : List Turn}
  {d d' : Driver} {c c' : Flash.Cursor} {r : Except Error UpdateReport}

/-- The stages of an update in front of its end. -/
def route (erase : Bool) : List UpdateState :=
  (if erase then [.erasing] else []) ++ [.writing, .rebooting, .awaitingPing, .reidentifying]

/-- How far writing has come behind each of the first chunks. -/
def offsets (length chunkSize chunks : Nat) : List Nat :=
  (List.range' 1 chunks).map fun k => min (k * chunkSize) length

/-- What is told within a stage, where this many chunks were verified and this many pings silent. -/
def within (image : List UInt8) (options : UpdateOptions) (chunks silent : Nat) :
    UpdateState → List Progress
  | .writing =>
    .writing image.length :: (offsets image.length options.chunkSize chunks).map Progress.written
  | .awaitingPing =>
    (List.range' 1 silent).map fun k => .pingFailed (.ofNat k) options.pingAttempts
  | _ => []

@[simp] theorem within_erasing {chunks silent : Nat} :
    within image options chunks silent .erasing = [] := rfl

@[simp] theorem within_writing {chunks silent : Nat} :
    within image options chunks silent .writing =
      .writing image.length :: (offsets image.length options.chunkSize chunks).map Progress.written := rfl

/-- What is told at the end. -/
def ending : Except Error UpdateReport → List Progress
  | .ok report => [.entered .done, .complete report]
  | .error _ => [.entered .failed]

/-- What an observer is told of an update. -/
structure Account where
  /-- The controller that was found. -/
  device? : Option DeviceInfo
  /-- The stages that were entered in front of the end. -/
  walked : List UpdateState
  chunks : Nat
  silent : Nat

/-- An account as it is told. -/
def Account.told (a : Account) (image : List UInt8) (options : UpdateOptions)
    (result : Except Error UpdateReport) : List Progress :=
  (a.device?.map Progress.currentDevice).toList ++
    a.walked.flatMap (fun stage => .entered stage :: within image options a.chunks a.silent stage) ++
      ending result

/-- The stages that were walked along a route, and the pings that were silent meanwhile. -/
structure Walks (options : UpdateOptions) (route : List UpdateState) (turns : List Turn)
    (result : Except Error UpdateReport) (walked : List UpdateState) (silent : Nat) : Prop where
  isPrefix : walked <+: route
  /-- A success comes at the end of the route, and its ping is the one behind the silent ones. -/
  done : ∀ report, result = .ok report → walked = route ∧ report.pingAttempts.toNat = silent + 1
  /-- Where the controller did not return, every ping was silent. -/
  lost : ∀ n, result = .error (.deviceDidNotReturn n) →
    .awaitingPing ∈ walked ∧ n = options.pingAttempts ∧ silent = n.toNat
  /-- There is no other way for the last stage to be missed behind the pings. -/
  unreturned : .awaitingPing ∈ walked → .reidentifying ∉ walked →
    result = .error (.deviceDidNotReturn options.pingAttempts)
  /-- In front of the last stage the ping behind the silent ones was the first to be answered. -/
  answered : .reidentifying ∈ walked → ∃ front pings n after,
    turns = front ++ .told (.entered .awaitingPing) :: pings ++
      .told (.entered .reidentifying) :: after ∧
    Pings options pings (.ok n) ∧ n.toNat = silent + 1
  quiet : .awaitingPing ∉ walked → silent = 0

/-- An account of an update. -/
structure Account.Holds (a : Account) (label : String) (image : List UInt8) (options : UpdateOptions)
    (turns : List Turn) (result : Except Error UpdateReport) : Prop where
  told_eq : notices turns = a.told image options result
  walks : Walks options (route options.erase) turns result a.walked a.silent
  /-- The controller is told of where the first driver was made. -/
  device_iff : a.device?.isSome = true ↔
    ∃ opening d, opening <+: turns ∧ Driver.Creates label opening (.ok d)
  device_first : a.walked ≠ [] → a.device?.isSome = true
  increasing : (offsets image.length options.chunkSize a.chunks).Pairwise (· < ·)
  /-- The whole image is written where the controller is rebooted. -/
  whole_iff : (offsets image.length options.chunkSize a.chunks).getLast? = some image.length ↔
    .rebooting ∈ a.walked
  unwritten : .writing ∉ a.walked → a.chunks = 0

/-! ## Writing -/

/-- What is reported while chunks are written: each time one chunk more, up to the whole image. -/
theorem Reaches.written_eq (hsize : IsChunkSize options.chunkSize) (himage : image.length ≤ imageMax)
    (h : Reaches c d turns c' d') (htracks : Tracks image options.chunkSize c d) {k : Nat}
    (hk : c.offset = min (k * options.chunkSize) image.length) :
    ∃ n, Backplane.notices turns =
        ((List.range' (k + 1) n).map fun j => min (j * options.chunkSize) image.length).map
          Progress.written ∧
      c'.offset = min ((k + n) * options.chunkSize) image.length ∧
      (n ≠ 0 → (k + n - 1) * options.chunkSize < image.length) := by
  induction h generalizing k with
  | here => exact ⟨0, rfl, hk, by simp⟩
  | @step c c' d mid d' chunk first rest hpending hwrite _ ih =>
    obtain ⟨-, hlike⟩ := Driver.writes_writeChunk htracks.operational hwrite
    -- A pending chunk is one that starts within the image.
    have hlt : c.offset < image.length := by
      obtain ⟨hne, -⟩ := Flash.Cursor.pending_eq hpending
      have hpos := List.length_pos_iff.2 hne
      rw [htracks.rest_eq, List.length_drop] at hpos
      omega
    have hadvance : c.advance.offset = min ((k + 1) * options.chunkSize) image.length := by
      simp only [Flash.Cursor.advance, htracks.rest_eq, htracks.size_eq, List.length_take,
        List.length_drop, Nat.add_mul, Nat.one_mul]
      omega
    obtain ⟨n, hnotices, hoffset, hless⟩ :=
      ih (htracks.advance hsize himage hpending hlike) hadvance
    refine ⟨n + 1, ?_, ?_, ?_⟩
    · rw [notices_append, notices_writeChunk htracks.operational hwrite, notices_told, hnotices,
        hadvance, List.nil_append, List.range'_succ, List.map_cons, List.map_cons]
    · rw [hoffset, Nat.add_assoc, Nat.add_comm 1 n]
    · intro _
      by_cases hn : n = 0
      · subst hn
        simp only [Nat.zero_add, Nat.add_sub_cancel]
        omega
      · have := hless hn
        rwa [Nat.add_right_comm] at this

theorem pairwise_offsets {length chunkSize chunks : Nat} (hsize : 0 < chunkSize)
    (hless : chunks ≠ 0 → (chunks - 1) * chunkSize < length) :
    (offsets length chunkSize chunks).Pairwise (· < ·) := by
  refine List.pairwise_map.2 (List.Pairwise.imp_of_mem ?_ List.pairwise_lt_range')
  intro i j hi hj hij
  rw [List.mem_range'_1] at hi hj
  have hlast : i * chunkSize ≤ (chunks - 1) * chunkSize := Nat.mul_le_mul_right _ (by omega)
  have hnext : i * chunkSize < j * chunkSize := Nat.mul_lt_mul_of_pos_right hij hsize
  have := hless (by omega)
  omega

theorem getLast?_offsets {length chunkSize chunks : Nat} :
    (offsets length chunkSize chunks).getLast? =
      if chunks = 0 then none else some (min (chunks * chunkSize) length) := by
  rw [offsets, List.getLast?_map, List.getLast?_range']
  split
  · rfl
  · simp

/-! ## Stages -/

namespace Walks
variable {front path walked : List UpdateState} {silent : Nat}

/-- A walk behind the first stages of a longer route. -/
theorem around (first last : List Turn) (h : Walks options path turns r walked silent)
    (hfront : .awaitingPing ∉ front ∧ .reidentifying ∉ front) :
    Walks options (front ++ path) (first ++ turns ++ last) r (front ++ walked) silent where
  isPrefix := (List.prefix_append_right_inj front).2 h.isPrefix
  done report hr := by
    obtain ⟨rfl, hsilent⟩ := h.done report hr
    exact ⟨rfl, hsilent⟩
  lost n hr := by
    obtain ⟨hentered, hlost⟩ := h.lost n hr
    exact ⟨List.mem_append_right _ hentered, hlost⟩
  unreturned hentered hmissed :=
    h.unreturned ((List.mem_append.1 hentered).resolve_left hfront.1)
      fun h => hmissed (List.mem_append_right _ h)
  answered hentered := by
    have hwalked := (List.mem_append.1 hentered).resolve_left hfront.2
    obtain ⟨before, pings, n, after, rfl, hpings⟩ := h.answered hwalked
    exact ⟨first ++ before, pings, n, after ++ last, by simp, hpings⟩
  quiet hquiet := h.quiet fun h => hquiet (List.mem_append_right _ h)

/-- An update that fails before it waits for a ping. -/
theorem failed {e : Error} (hpath : walked <+: path)
    (hwalked : .awaitingPing ∉ walked ∧ .reidentifying ∉ walked)
    (he : ∀ n, e ≠ .deviceDidNotReturn n) : Walks options path turns (.error e) walked 0 where
  isPrefix := hpath
  done _ hr := by cases hr
  lost n hr := absurd (Except.error.inj hr) (he n)
  unreturned hentered := absurd hentered hwalked.1
  answered hentered := absurd hentered hwalked.2
  quiet _ := rfl

end Walks

theorem ne_lost_creates {e : Error} (h : Driver.Creates label turns (.error e)) (n : UInt32) :
    e ≠ .deviceDidNotReturn n := by
  obtain rfl | ⟨answer, rfl⟩ := h.error_inv <;> simp

theorem Reidentifies.ne_lost {e : Error} (h : Reidentifies label options turns (.error e)) (n : UInt32) :
    e ≠ .deviceDidNotReturn n := by
  generalize hr : (Except.error e : Except Error DeviceInfo) = result at h
  cases h with
  | absent hcreate =>
    cases hr
    exact ne_lost_creates hcreate n
  | identified =>
    obtain rfl | ⟨expected, actual, rfl⟩ := verdict_error hr.symm <;> simp

/-- The stages behind an image that was written as a whole. -/
theorem Restarts.walks {result : Except Error (UInt32 × DeviceInfo)} (image : List UInt8)
    (chunks written : Nat) (before : DeviceInfo) (h : Restarts label options d turns result) :
    ∃ walked silent,
      Walks options [.rebooting, .awaitingPing, .reidentifying] (.told (.entered .rebooting) :: turns)
        (result.map fun (pings, after) => ⟨before, after, written, pings⟩) (.rebooting :: walked)
        silent ∧
      Backplane.notices (.told (.entered .rebooting) :: turns) = (.rebooting :: walked).flatMap
        fun stage => .entered stage :: within image options chunks silent stage := by
  have htries : ∀ {p : Protocol} {replies : List (Reply (.writeByte p.rebootCommand))},
      Backplane.notices (tries _ replies) = [] := notices_tries (by simp)
  cases h with
  | unrebooted hreboot =>
    exact ⟨[], 0, .failed (by simp) (by simp) (by simp), by simp [htries, within]⟩
  | @lost replies pings e hreboot hpings =>
    obtain ⟨rfl, silent, rfl, hunanswered, hlength⟩ := hpings.pings.unanswered_inv
    refine ⟨[.awaitingPing], silent.length, ⟨by simp, ?_, ?_, ?_, by simp, by simp⟩, ?_⟩
    · intro report hr
      cases hr
    · intro n hr
      cases hr
      exact ⟨by simp, rfl, hlength⟩
    · exact fun _ _ => rfl
    · simp [htries, notices_silentPings, within]
  | @returned replies pings identity n result hreboot hpings hidentity =>
    obtain ⟨silent, hn, hsilent⟩ := hpings.pings.notices_answered
    refine ⟨[.awaitingPing, .reidentifying], silent, ⟨List.prefix_rfl, ?_, ?_, by simp, ?_, by simp⟩, ?_⟩
    · intro report hr
      cases result with
      | error e => cases hr
      | ok info =>
        cases hr
        exact ⟨rfl, hn⟩
    · intro m hr
      cases result with
      | error e =>
        cases hr
        exact absurd rfl (hidentity.ne_lost m)
      | ok info => cases hr
    · intro _
      exact ⟨.told (.entered .rebooting) :: tries _ replies, _, n, identity, by simp, hpings.pings, hn⟩
    · simp [htries, hsilent, within, hidentity.notices]

/-- Why writing is broken off. -/
theorem Ends.ne_lost {e : Error} (hd : d.device.operational = true) (h : Ends c d turns (.error e))
    (n : UInt32) : e ≠ .deviceDidNotReturn n := by
  obtain ⟨chunk, -, ⟨op, source, rfl⟩ | rfl | ⟨-, rfl⟩⟩ := h.error_inv hd <;> simp

/-- The stages behind the chunks, and what an observer is told meanwhile. -/
theorem Concludes.walks {before : DeviceInfo} (image : List UInt8) (chunks : Nat)
    (hd : d.device.operational = true) (h : Concludes label options before c d turns r) :
    ∃ walked silent, Walks options [.rebooting, .awaitingPing, .reidentifying] turns r walked silent ∧
      (.rebooting ∈ walked ↔ c.pending = none) ∧
      Backplane.notices turns =
        walked.flatMap fun stage => .entered stage :: within image options chunks silent stage := by
  cases h with
  | abandoned hends =>
    obtain ⟨chunk, hpending, -⟩ := hends.error_inv hd
    exact ⟨[], 0, .failed List.nil_prefix (by simp) (hends.ne_lost hd), by simp [hpending],
      hends.notices hd⟩
  | restarted hpending hrestart =>
    obtain ⟨walked, silent, hwalks, hnotices⟩ := hrestart.walks image chunks c.offset before
    exact ⟨.rebooting :: walked, silent, hwalks, by simp [hpending], hnotices⟩

/-! ## Accounts -/

theorem ending_eq (r : Except Error UpdateReport) : notices (closing r) = ending r := by
  cases r <;> rfl

/-- An update that does not come to writing tells of the controller and the erasure at most. -/
theorem holds_unwritten (device? : Option DeviceInfo) (walked : List UpdateState) {e : Error}
    (htold : notices turns =
      (device?.map Progress.currentDevice).toList ++ walked.map Progress.entered)
    (hwalked : walked = [] ∨ walked = [.erasing] ∧ options.erase = true ∧ device?.isSome = true)
    (he : ∀ n, e ≠ .deviceDidNotReturn n)
    (hdevice : device?.isSome = true ↔ ∃ opening d,
      opening <+: turns ++ closing (.error e) ∧ Driver.Creates label opening (.ok d)) :
    Account.Holds ⟨device?, walked, 0, 0⟩ label image options (turns ++ closing (.error e)) (.error e) := by
  have hpath : walked <+: route options.erase := by
    obtain rfl | ⟨rfl, herase, -⟩ := hwalked
    · exact List.nil_prefix
    · simp [route, herase]
  refine ⟨?_, .failed hpath ?_ he, hdevice, ?_, by simp [offsets], ?_, fun _ => rfl⟩
  · obtain rfl | ⟨rfl, -⟩ := hwalked <;> simp [htold, ending_eq, Account.told, within]
  · obtain rfl | ⟨rfl, -⟩ := hwalked <;> simp
  · obtain rfl | ⟨rfl, -, hsome⟩ := hwalked
    · simp
    · exact fun _ => hsome
  · obtain rfl | ⟨rfl, -⟩ := hwalked <;> simp [offsets]

/-- The account of an update that came to writing. -/
theorem Flashes.account (haccept : Accepts image options) (h : Flashes label image options turns r) :
    ∃ a : Account, a.Holds label image options (turns ++ closing r) r := by
  obtain ⟨hmin, himage, hsize⟩ := haccept
  cases h with
  | @flashed ready written last before d d' c r hready hwritten hconcludes =>
    have htracks : Tracks image options.chunkSize (.start image options.chunkSize) d :=
      .start hready.driver.1 hready.flashOffset_eq
    have hend := hwritten.tracks hsize himage htracks
    obtain ⟨n, htold, hoffset, hless⟩ :=
      hwritten.written_eq hsize himage htracks (k := 0) (by simp [Flash.Cursor.start])
    rw [Nat.zero_add] at htold hoffset hless
    change _ = (offsets image.length options.chunkSize n).map Progress.written at htold
    obtain ⟨walked, silent, hwalks, hrebooting, hrest⟩ :=
      hconcludes.walks image n (hwritten.driver htracks.operational).1
    refine ⟨⟨some before, (if options.erase then [.erasing] else []) ++ .writing :: walked, n, silent⟩,
      ?_, ?_, ?_, fun _ => rfl, pairwise_offsets hsize.1 hless, ?_, by simp⟩
    · cases herase : options.erase <;>
        simp [hready.notices, htold, hrest, herase, ending_eq, Account.told]
    · -- The route goes on behind writing where the chunks end.
      have hroute : route options.erase = ((if options.erase then [.erasing] else []) ++ [.writing]) ++
          [.rebooting, .awaitingPing, .reidentifying] := by
        simp [route]
      have hfront : .awaitingPing ∉ (if options.erase then [UpdateState.erasing] else []) ++ [.writing] ∧
          .reidentifying ∉ (if options.erase then [UpdateState.erasing] else []) ++ [.writing] := by
        cases options.erase <;> simp
      rw [hroute]
      simpa using hwalks.around (ready ++ .told (.entered .writing) :: .told (.writing image.length) ::
        written) (closing r) hfront
    · cases hready with
      | ready hcreate => exact iff_of_true rfl ⟨_, _, by simp, hcreate⟩
    · have hpos : 0 < image.length := by
        have hmin' : imageMin = 64 := rfl
        omega
      have hwhole : c.offset = image.length ↔ .rebooting ∈ walked :=
        hend.offset_eq_length.trans hrebooting.symm
      rw [getLast?_offsets]
      by_cases hn : n = 0
      · have hnone : .rebooting ∉ walked := by
          rw [← hwhole, hoffset, hn, Nat.zero_mul]
          omega
        cases options.erase <;> simp [hn, hnone]
      · rw [if_neg hn, Option.some_inj, ← hoffset, hwhole]
        cases options.erase <;> simp

/-- Every update gives an account. -/
theorem Shows.account (h : Shows label image options turns r) :
    ∃ a : Account, a.Holds label image options turns r := by
  have hnone : (none : Option DeviceInfo).isSome ≠ true := by simp
  cases h with
  | @refused e hrefuse =>
    change ∃ a : Account, a.Holds label image options ([] ++ closing (.error e)) (.error e)
    refine ⟨_, holds_unwritten none [] rfl (.inl rfl) ?_ (iff_of_false hnone ?_)⟩
    · cases hrefuse <;> simp
    · rintro ⟨opening, d, ⟨rest, hturns⟩, hcreate⟩
      obtain ⟨result, later, rfl, -⟩ := hcreate.turns_eq
      cases hturns
  | accepted haccept hpass =>
    cases hpass with
    | absent hcreate =>
      refine ⟨_, holds_unwritten none [] (notices_creates hcreate) (.inl rfl)
        (ne_lost_creates hcreate) (iff_of_false hnone ?_)⟩
      rintro ⟨opening, d, ⟨rest, hturns⟩, hmade⟩
      cases hmade.ok_of_append hcreate hturns
    | @unerased opening identity erasing d mid before e hcreate hinfo herase =>
      obtain ⟨_, _, _, _, _, _, _, _, rfl⟩ := hcreate.ok_inv
      have htold := herase.notices
      cases herase with
      | failed herase =>
        rw [herase, if_pos rfl] at htold
        refine ⟨_, holds_unwritten (some before) [.erasing] ?_ (.inr ⟨rfl, herase, rfl⟩) (by simp)
          (iff_of_true rfl ⟨_, _, by simp, hcreate⟩)⟩
        simp [notices_creates hcreate, notices_deviceInfo rfl hinfo, htold]
    | flashed hflashes => exact hflashes.account haccept

/-- No update is ever idle again. -/
theorem Account.Holds.not_idle {a : Account} (h : a.Holds label image options turns r) :
    .told (.entered .idle) ∉ turns := by
  intro hmem
  rw [← mem_notices, h.told_eq, Account.told, List.mem_append, List.mem_append] at hmem
  obtain (hdevice | hwalked) | hending := hmem
  · simp at hdevice
  · obtain ⟨stage, hstage, hin⟩ := List.mem_flatMap.1 hwalked
    obtain rfl | hin : .idle = stage ∨ _ := by simpa using hin
    · have hroute := h.walks.isPrefix.subset hstage
      cases herase : options.erase <;> simp [route, herase] at hroute
    · cases stage <;> simp [within] at hin
  · cases r <;> simp [ending] at hending

/-- What an observer is told of an update at any site. -/
theorem run_tells {σ : Type} (site : Site σ) (bench : Bench σ) (label : String)
    (image : List UInt8) (options : UpdateOptions) :
    let turns := site.moves (run label image options) bench
    let result := (site.run (run label image options) bench).1
    (∃ a : Account, a.Holds label image options turns result) ∧ .told (.entered .idle) ∉ turns := by
  intro turns result
  have hshows : Shows label image options turns result := shows_run (site.course_moves _ bench)
  obtain ⟨a, holds⟩ := hshows.account
  exact ⟨⟨a, holds⟩, holds.not_idle⟩

end Backplane.Update
