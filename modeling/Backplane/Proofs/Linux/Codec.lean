import Mathlib.Data.List.Forall2
import Backplane.Proofs.Device
import Backplane.Proofs.Linux.Site

/-!
# Requests and the calls that carry them

What a bus over a kernel makes of each request, whatever the kernel answers: one call, or none where no
call can express the request. Values travel at the start of the union and come back as they were; a block
is cut to what was asked for, so no index leaves the union or the buffer; messages keep their order.

A failed call is reported under its error number only where that number has a name. Every other failure
is reported under zero, the number of success, so what the kernel said is lost: `codes` says which numbers
have a name, `unnamed_failure` shows one that has none.

* `reported_eq`: the numbers that have a name.
* `carried`: a request that is one call; `refused`: one that is none.
* `first_ofByte`, `word_ofWord`: values in the union; `clamps_block`: a block in it.
* `passes_kernelMessage`: messages of a transfer.
* `bytesCoded`, `wordsCoded`: the requests that carry a byte or a word.
* `codes`: all of it, for every kernel.
-/
namespace Backplane

theorem isSome_errnoTexts : ∀ n < 134,
    (errnoTexts[n]?.filter fun text => text != "").isSome = decide (n ≠ 41 ∧ n ≠ 58) := by
  decide +kernel

/-- The error numbers from 0 to 133 have a name, but for two of them; every other number is reported as
zero. -/
theorem Errno.reported_eq (errno : Int) :
    reported errno = if 0 ≤ errno ∧ errno < 134 ∧ errno ≠ 41 ∧ errno ≠ 58 then errno else 0 := by
  have hlength : errnoTexts.length = 134 := rfl
  unfold reported
  cases errno with
  | negSucc n => rw [if_neg (by simp [errnoName?]), if_neg (by omega)]
  | ofNat n =>
    by_cases hn : n < 134
    · rw [errnoName?, isSome_errnoTexts n hn]
      simp only [decide_eq_true_eq]
      refine if_congr ?_ rfl rfl
      simp only [Int.ofNat_eq_natCast]
      omega
    · have hnone : errnoTexts[n]? = none := List.getElem?_eq_none (by omega)
      rw [errnoName?, hnone, if_neg (by simp), if_neg (by simp only [Int.ofNat_eq_natCast]; omega)]

namespace Linux

variable {σ : Type} {kernel : Answering σ} {c : Config} {r : Request} {s : σ}

/-! ## Attempts and their calls -/

/-- The calls behind an attempt, each with its answer. -/
def callsOf (kernel : Answering σ) (c : Config) (r : Request) (s : σ) : List Exchange :=
  Dialogue.transcript kernel (serve c.address r) s

/-- What an attempt comes to. -/
def replyOf (kernel : Answering σ) (c : Config) (r : Request) (s : σ) : Reply r :=
  ((bus kernel c).attempt r s).value

theorem replyOf_eq : replyOf kernel c r s = ((serve c.address r).run kernel s).1 := by
  change (serveOn kernel (serve c.address r) s).value = _
  rw [serveOn_eq]

/-- Why no call can express a request, if none can. -/
def refusal? : Request → Option BusError
  | .readBlock _ length => if length > blockMax then some (.blockTooLong length) else none
  | .transfer messages => if messages.any (·.length > messageMax) then some (.os Errno.invalid) else none
  | _ => none

/-- A request that is refused is refused without a call. -/
theorem refused {e : BusError} (h : refusal? r = some e) :
    callsOf kernel c r s = [] ∧ replyOf kernel c r s = .fail e := by
  have hserve : serve c.address r = .done (.fail e) := by
    cases r with
    | readBlock command length =>
      simp only [refusal?] at h
      split at h
      · next hlong =>
        cases h
        exact if_pos hlong
      · cases h
    | transfer messages =>
      simp only [refusal?] at h
      split at h
      · next hlong =>
        cases h
        exact if_pos hlong
      · cases h
    | _ => cases h
  rw [callsOf, replyOf_eq, hserve]
  exact ⟨rfl, rfl⟩

/-- A request that is one call. -/
theorem carried (kernel : Answering σ) (s : σ) {k : Call} {read : k.Answer → Reply r}
    (h : serve c.address r = .ask k fun answer => .done (read answer)) :
    callsOf kernel c r s = [⟨k, (kernel k s).1⟩] ∧ replyOf kernel c r s = read (kernel k s).1 := by
  rw [callsOf, replyOf_eq, h]
  exact ⟨rfl, rfl⟩

/-- A request that is one simple transaction, of which a value is read. -/
theorem carried_value (kernel : Answering σ) (s : σ) {direction : Direction} {command : UInt8} {shape : Shape}
    {data : Option Union} {value : Union → r.Value}
    (h : serve c.address r = .ask (.smbus direction command shape data) fun answer =>
      .done ⟨requestResult value answer, []⟩) :
    callsOf kernel c r s =
        [⟨.smbus direction command shape data, (kernel (.smbus direction command shape data) s).1⟩] ∧
      ∀ u, (kernel (.smbus direction command shape data) s).1 = .ok u →
        (replyOf kernel c r s).result = .ok (value u) := by
  obtain ⟨hcalls, hreply⟩ := carried kernel s h
  refine ⟨hcalls, fun u hu => ?_⟩
  rw [hreply, hu]
  rfl

/-- The answer of a call is read as the result of a request: a failure gives its number, and nothing that
was received unless messages had been passed. -/
structure Faithful {r : Request} (k : Call) (read : k.Answer → Reply r) : Prop where
  failed : ∀ answer errno, k.failure answer = some errno →
    (read answer).result = .error (.os (Errno.reported errno)) ∧
      ((∀ messages, r ≠ .transfer messages) → (read answer).data = [])
  answered : ∀ answer, k.failure answer = none → ∃ value, (read answer).result = .ok value

theorem faithful_smbus (r : Request) {direction : Direction} {command : UInt8} {shape : Shape}
    {data : Option Union} (value : Union → r.Value) :
    Faithful (.smbus direction command shape data) fun answer => ⟨requestResult value answer, []⟩ where
  failed := by
    rintro (errno | u) _ ⟨⟩
    exact ⟨rfl, fun _ => rfl⟩
  answered := by
    rintro (errno | u) h
    · cases h
    · exact ⟨value u, rfl⟩

theorem faithful_block {command : UInt8} {length : Nat} {data : Option Union} :
    Faithful (.smbus .read command .block data) (blockReply command length) where
  failed := by
    rintro (errno | u) _ ⟨⟩
    exact ⟨rfl, fun _ => rfl⟩
  answered := by
    rintro (errno | u) h
    · cases h
    · exact ⟨_, rfl⟩

theorem faithful_transfer {messages : List Message} {passed : List KernelMessage} :
    Faithful (r := .transfer messages) (.transfer passed) fun answer =>
      ⟨requestResult (fun _ => ()) answer.1, answer.2⟩ where
  failed := by
    rintro ⟨errno | _, data⟩ _ ⟨⟩
    exact ⟨rfl, fun h => absurd rfl (h messages)⟩
  answered := by
    rintro ⟨errno | _, data⟩ h
    · cases h
    · exact ⟨(), rfl⟩

/-- Every request that is not refused is one call. -/
theorem serve_faithful (hr : r ≠ .functionality) (h : refusal? r = none) :
    ∃ k read, serve c.address r = .ask k (fun answer => .done (read answer)) ∧ Faithful k read := by
  cases r with
  | functionality => exact absurd rfl hr
  | readByte => exact ⟨_, _, rfl, faithful_smbus .readByte Union.byte⟩
  | writeByte value => exact ⟨_, _, rfl, faithful_smbus (.writeByte value) fun _ => ()⟩
  | readByteData command => exact ⟨_, _, rfl, faithful_smbus (.readByteData command) Union.byte⟩
  | writeByteData command value =>
    exact ⟨_, _, rfl, faithful_smbus (.writeByteData command value) fun _ => ()⟩
  | readWordData command => exact ⟨_, _, rfl, faithful_smbus (.readWordData command) Union.word⟩
  | writeWordData command value =>
    exact ⟨_, _, rfl, faithful_smbus (.writeWordData command value) fun _ => ()⟩
  | readBlock command length =>
    have hfits : ¬ length > blockMax := by
      intro hlong
      simp [refusal?, hlong] at h
    exact ⟨_, _, if_neg hfits, faithful_block⟩
  | transfer messages =>
    have hfits : ¬ (messages.any fun m => m.length > messageMax) = true := by
      intro hlong
      simp [refusal?, hlong] at h
    exact ⟨_, _, if_neg hfits, faithful_transfer⟩

/-! ## Values in the union -/

theorem first_lt : 0 < blockMax + 2 := by decide

theorem second_lt : 1 < blockMax + 2 := by decide

/-- The first byte of a union: a byte that travels, the low byte of a word, or the length of a block. -/
def Union.first (u : Union) : UInt8 := u.get ⟨0, first_lt⟩

/-- The second byte of a union. -/
def Union.second (u : Union) : UInt8 := u.get ⟨1, second_lt⟩

theorem block_eq (u : Union) (length : Nat) :
    u.block length = (u.toList.drop 1).take (min u.first.toNat length) := rfl

theorem toNat_word (u : Union) : u.word.toNat = u.first.toNat + 0x100 * u.second.toNat := by
  have hlow : u.first.toNat < 2 ^ 8 := u.first.toNat_lt
  have hhigh : u.second.toNat < 2 ^ 8 := u.second.toNat_lt
  have hshift : (u.second.toUInt16 <<< 8).toNat = u.second.toNat <<< 8 := by
    rw [UInt16.toNat_shiftLeft, UInt8.toNat_toUInt16, show (8 : UInt16).toNat % 16 = 8 from rfl,
      Nat.shiftLeft_eq]
    omega
  change (u.first.toUInt16 ||| (u.second.toUInt16 <<< 8)).toNat = _
  rw [UInt16.toNat_or, UInt8.toNat_toUInt16, hshift, Nat.or_comm,
    ← Nat.shiftLeft_add_eq_or_of_lt hlow, Nat.shiftLeft_eq]
  omega

theorem toNat_ofWord (w : UInt16) :
    (Union.ofWord w).first.toNat + 0x100 * (Union.ofWord w).second.toNat = w.toNat := by
  have hw := w.toNat_lt
  have hlow : (Union.ofWord w).first = w.toUInt8 := by
    change (Union.ofWord w)[0] = _
    simp [Union.ofWord]
  have hhigh : (Union.ofWord w).second = (w >>> 8).toUInt8 := by
    change (Union.ofWord w)[1] = _
    simp [Union.ofWord]
  rw [hlow, hhigh, UInt16.toNat_toUInt8, UInt16.toNat_toUInt8, UInt16.toNat_shiftRight,
    show (8 : UInt16).toNat % 16 = 8 from rfl, Nat.shiftRight_eq_div_pow]
  omega

/-- A word comes back from the union that carries it. -/
theorem word_ofWord (w : UInt16) : (Union.ofWord w).word = w :=
  UInt16.toNat_inj.1 ((toNat_word _).trans (toNat_ofWord w))

theorem first_ofByte (b : UInt8) : (Union.ofByte b).first = b := by
  change (Union.ofByte b)[0] = b
  simp [Union.ofByte]

/-- A block of a union in a buffer: as many bytes as the union says, but no more than were asked for. They
stand behind the length byte, and the rest of the buffer is as it was. -/
structure Clamps (u : Union) {command : UInt8} {length : Nat} (reply : Reply (.readBlock command length)) :
    Prop where
  result_eq : reply.result = .ok (min u.first.toNat length)
  /-- The last byte that is read is one of the union. -/
  within : min u.first.toNat length < blockMax + 2
  inside : ∀ buffer : List UInt8, buffer.length = length → ∀ i < min u.first.toNat length,
    (overlay buffer reply.data)[i]? = u[i + 1]?
  outside : ∀ buffer : List UInt8, buffer.length = length → ∀ i, min u.first.toNat length ≤ i →
    (overlay buffer reply.data)[i]? = buffer[i]?

theorem length_block (u : Union) {length : Nat} (hlength : length ≤ blockMax) :
    (u.block length).length = min u.first.toNat length := by
  have hmax : blockMax = 32 := rfl
  rw [block_eq, List.length_take, List.length_drop, Vector.length_toList]
  omega

theorem clamps_block (u : Union) {command : UInt8} {length : Nat} (hlength : length ≤ blockMax) :
    Clamps u (blockReply command length (.ok u)) where
  result_eq := congrArg Except.ok (length_block u hlength)
  within := by omega
  inside buffer hbuffer i hi := by
    have hblock := length_block u hlength
    change (overlay buffer (u.block length))[i]? = _
    rw [overlay, List.take_of_length_le (by omega), List.getElem?_append_left (by omega), block_eq,
      List.getElem?_take_of_lt hi, List.getElem?_drop, Vector.getElem?_toList, Nat.add_comm 1 i]
  outside buffer hbuffer i hi := by
    have hblock := length_block u hlength
    change (overlay buffer (u.block length))[i]? = _
    rw [overlay, List.take_of_length_le (by omega), List.getElem?_append_right (by omega),
      List.getElem?_drop, Nat.add_sub_cancel' (by omega)]

/-- A message as the kernel is to take it. -/
structure Passes (address : UInt8) (m : Message) (passed : KernelMessage) : Prop where
  address_eq : passed.address.toNat = address.toNat
  length_eq : passed.length.toNat = m.length
  flags_eq : passed.flags = 1 ↔ m.isWrite = false
  sent_eq : ∀ bytes, m = .write bytes → passed.sent = some bytes

theorem passes_kernelMessage (address : UInt8) {m : Message} (hlength : m.length ≤ messageMax) :
    Passes address m (kernelMessage address m) where
  address_eq := UInt8.toNat_toUInt16 address
  length_eq := by
    have hmax : messageMax = 65535 := rfl
    change (UInt16.ofNat m.length).toNat = m.length
    rw [UInt16.toNat_ofNat']
    omega
  flags_eq := by
    cases m with
    | write bytes => exact iff_of_false Nat.zero_ne_one Bool.noConfusion
    | read length => exact iff_of_true rfl rfl
  sent_eq := by
    rintro bytes rfl
    rfl

/-! ## Every request on every kernel -/

/-- The attempt is this call, and no other. -/
def Asks (kernel : Answering σ) (c : Config) (r : Request) (s : σ) (call : Call)
    (answer : call.Answer) : Prop :=
  callsOf kernel c r s = [⟨call, answer⟩]

/-- How a call decides an attempt. Only a transfer delivers anything behind a failure. -/
structure Decides {r : Request} (reply : Reply r) (call : Call) (answer : call.Answer) : Prop where
  answered : call.failure answer = none → ∃ value, reply.result = .ok value
  failed : ∀ errno, call.failure answer = some errno → reply.result =
    .error (.os (if 0 ≤ errno ∧ errno < 134 ∧ errno ≠ 41 ∧ errno ≠ 58 then errno else 0))
  untouched : ∀ errno, call.failure answer = some errno → (∀ messages, r ≠ .transfer messages) →
    ∀ buffer, overlay buffer reply.data = buffer

/-- A byte travels as the command, or as the first byte of the union. -/
structure BytesCoded (kernel : Answering σ) (c : Config) : Prop where
  sent : ∀ s value, ∃ answer,
    Asks kernel c (.writeByte value) s (.smbus .write value .byte none) answer
  received : ∀ s, ∃ blank answer,
    Asks kernel c .readByte s (.smbus .read 0 .byte (some blank)) answer ∧
      ∀ u : Union, answer = .ok u → (replyOf kernel c .readByte s).result = .ok u.first
  written : ∀ s command value, ∃ u answer,
    Asks kernel c (.writeByteData command value) s (.smbus .write command .byteData (some u)) answer ∧
      u.first = value
  read : ∀ s command, ∃ blank answer,
    Asks kernel c (.readByteData command) s (.smbus .read command .byteData (some blank)) answer ∧
      ∀ u : Union, answer = .ok u → (replyOf kernel c (.readByteData command) s).result = .ok u.first
  /-- A kernel that gives a union back gives back the value that was written in it. -/
  echoed : ∀ s s' command value u answer,
    Asks kernel c (.writeByteData command value) s (.smbus .write command .byteData (some u)) answer →
    (∀ blank, (kernel (.smbus .read command .byteData (some blank)) s').1 = .ok u) →
    (replyOf kernel c (.readByteData command) s').result = .ok value

/-- A word travels in the first two bytes of the union, the low byte first. -/
structure WordsCoded (kernel : Answering σ) (c : Config) : Prop where
  written : ∀ s command value, ∃ u answer,
    Asks kernel c (.writeWordData command value) s (.smbus .write command .wordData (some u)) answer ∧
      u.first.toNat + 0x100 * u.second.toNat = value.toNat
  read : ∀ s command, ∃ blank answer,
    Asks kernel c (.readWordData command) s (.smbus .read command .wordData (some blank)) answer ∧
      ∀ u : Union, answer = .ok u → ∃ value,
        (replyOf kernel c (.readWordData command) s).result = .ok value ∧
          value.toNat = u.first.toNat + 0x100 * u.second.toNat
  echoed : ∀ s s' command value u answer,
    Asks kernel c (.writeWordData command value) s (.smbus .write command .wordData (some u)) answer →
    (∀ blank, (kernel (.smbus .read command .wordData (some blank)) s').1 = .ok u) →
    (replyOf kernel c (.readWordData command) s').result = .ok value

/-- What a bus over a kernel makes of requests. -/
structure Codes (kernel : Answering σ) (c : Config) : Prop where
  refused : ∀ r e s, refusal? r = some e → callsOf kernel c r s = [] ∧ replyOf kernel c r s = .fail e
  carried : ∀ r s, r ≠ .functionality → refusal? r = none → ∃ call answer,
    Asks kernel c r s call answer ∧ Decides (replyOf kernel c r s) call answer
  bytes : BytesCoded kernel c
  words : WordsCoded kernel c
  /-- The first byte of the union is the length: as asked for, and as answered. -/
  blocks : ∀ s command length, length ≤ blockMax → ∃ asked answer,
    Asks kernel c (.readBlock command length) s (.smbus .read command .block (some asked)) answer ∧
      asked.first.toNat = length ∧
      ∀ u, answer = .ok u → Clamps u (replyOf kernel c (.readBlock command length) s)
  messages : ∀ s messages, (∀ m ∈ messages, m.length ≤ messageMax) → ∃ passed answer,
    Asks kernel c (.transfer messages) s (.transfer passed) answer ∧
      List.Forall₂ (Passes c.address) messages passed ∧
      (replyOf kernel c (.transfer messages) s).data = answer.2

theorem bytesCoded (kernel : Answering σ) (c : Config) : BytesCoded kernel c where
  sent s value := ⟨_, (carried kernel s rfl).1⟩
  received s := ⟨_, _, carried_value kernel s rfl⟩
  written s command value := ⟨_, _, (carried kernel s rfl).1, first_ofByte value⟩
  read s command := ⟨_, _, carried_value kernel s rfl⟩
  echoed s s' command value u answer hwritten hechoed := by
    cases (carried kernel s rfl).1.symm.trans hwritten
    obtain ⟨-, hread⟩ := carried_value (r := .readByteData command) (c := c) kernel s' rfl
    rw [hread _ (hechoed _)]
    exact congrArg Except.ok (first_ofByte value)

theorem wordsCoded (kernel : Answering σ) (c : Config) : WordsCoded kernel c where
  written s command value := ⟨_, _, (carried kernel s rfl).1, toNat_ofWord value⟩
  read s command := by
    obtain ⟨hcalls, hread⟩ := carried_value (r := .readWordData command) (c := c) kernel s rfl
    exact ⟨_, _, hcalls, fun u hu => ⟨u.word, hread u hu, toNat_word u⟩⟩
  echoed s s' command value u answer hwritten hechoed := by
    cases (carried kernel s rfl).1.symm.trans hwritten
    obtain ⟨-, hread⟩ := carried_value (r := .readWordData command) (c := c) kernel s' rfl
    rw [hread _ (hechoed _), word_ofWord]

/-- Every kernel, every target and every request, but for the query of the functionality. -/
theorem codes (kernel : Answering σ) (c : Config) : Codes kernel c where
  refused r e s h := refused h
  carried r s hr h := by
    obtain ⟨k, read, hserve, hfaithful⟩ := serve_faithful (c := c) hr h
    obtain ⟨hcalls, hreply⟩ := carried kernel s hserve
    rw [hreply]
    refine ⟨k, _, hcalls, hfaithful.answered _, fun errno herrno => ?_,
      fun errno herrno hsimple buffer => ?_⟩
    · rw [← Errno.reported_eq]
      exact (hfaithful.failed _ errno herrno).1
    · rw [(hfaithful.failed _ errno herrno).2 hsimple, overlay_nil]
  bytes := bytesCoded kernel c
  words := wordsCoded kernel c
  blocks s command length hlength := by
    have hfits : ¬ length > blockMax := Nat.not_lt.2 hlength
    obtain ⟨hcalls, hreply⟩ := carried (r := .readBlock command length) (c := c) kernel s (if_neg hfits)
    refine ⟨_, _, hcalls, ?_, fun u hu => ?_⟩
    · rw [first_ofByte, UInt8.toNat_ofNat', Nat.mod_eq_of_lt (Nat.lt_of_le_of_lt hlength (by decide))]
    · rw [hreply, hu]
      exact clamps_block u hlength
  messages s messages hlength := by
    have hfits : ¬ (messages.any fun m => m.length > messageMax) = true := by
      simpa using hlength
    obtain ⟨hcalls, hreply⟩ := carried (r := .transfer messages) (c := c) kernel s (if_neg hfits)
    refine ⟨_, _, hcalls, ?_, ?_⟩
    · rw [List.forall₂_map_right_iff, List.forall₂_same]
      exact fun m hm => passes_kernelMessage c.address (hlength m hm)
    · rw [hreply]

/-- A kernel that refuses its first request under a number without a name. -/
def unnamed : Kernel := ⟨none, none, .ok 0, ⟨[⟨some (.os 524), []⟩], ⟨none, []⟩⟩⟩

/-- The number of such a failure is lost: the block read fails with the number of success. -/
theorem unnamed_failure :
    let kernel : Answering Kernel := Kernel.answer fun _ => .ok ()
    let target : Config := ⟨"d", 0x2A, false⟩
    (∃ blank, callsOf kernel target (.readBlock 0 4) unnamed =
      [⟨.smbus .read 0 .block (some blank), .error 524⟩]) ∧
    replyOf kernel target (.readBlock 0 4) unnamed = .fail (.os 0) ∧
    (replyOf kernel target (.readBlock 0 4) unnamed).result ≠ .error (.os 524) := by
  intro kernel target
  have hreply : replyOf kernel target (.readBlock 0 4) unnamed = .fail (.os (Errno.reported 524)) := rfl
  rw [Errno.reported_eq, if_neg (by decide)] at hreply
  refine ⟨⟨_, rfl⟩, hreply, ?_⟩
  rw [hreply]
  nofun

end Linux
end Backplane
