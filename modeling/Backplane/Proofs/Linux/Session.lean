import Backplane.Proofs.Handles
import Backplane.Proofs.Linux.Site

/-!
# The calls on an open device file

A device file is opened, bound to its target, told to check errors where that was asked for, and asked
what its adapter can do, in this order, and each step is only taken behind the success of the one
before. Only where the adapter can do all that is needed anything is sent to the target.

* `Opens`: the ways of this, `ready` where the adapter is capable.
* `opens_creates`: making a driver takes one of these ways, and comes to nothing where it is not ready.
* `ordered_leg`: a run on one target is such handles, one behind the other.
-/
namespace Backplane.Linux

open Driver (Creates Suffices)

variable {c : Config} {calls : List Exchange} {turns first rest : List Turn} {label : String}

/-- What the controller protocols need of an adapter, as bits of its answer. -/
def needed : UInt64 := 0x0C180008

/-- A call that carries data to or from the target at an address. -/
def Transfers (address : UInt8) : Call → Prop
  | .smbus _ _ _ _ => True
  | .transfer messages => ∀ m ∈ messages, m.address = address.toUInt16
  | _ => False

/-- The calls that open a device file and bind it to its target. -/
def binding (c : Config) : List Exchange :=
  ⟨.openDevice c.device, .ok ()⟩ :: ⟨.selectAddress c.address, .ok ()⟩ ::
    if c.pec then [⟨.setPec 1, .ok ()⟩] else []

/-- The calls on a device file, from opening it on. -/
inductive Opens (c : Config) : List Exchange → (ready : Bool) → Prop
  /-- The configuration names no file or no target. -/
  | refused (hcheck : c.device.isEmpty = true ∨ isTarget c.address = false) : Opens c [] false
  | unopened {e : IoError} (htarget : isTarget c.address = true) :
      Opens c [⟨.openDevice c.device, .error e⟩] false
  | unselected {errno : Int} (htarget : isTarget c.address = true) :
      Opens c [⟨.openDevice c.device, .ok ()⟩, ⟨.selectAddress c.address, .error errno⟩] false
  | unprotected {errno : Int} (htarget : isTarget c.address = true) (hpec : c.pec = true) :
      Opens c [⟨.openDevice c.device, .ok ()⟩, ⟨.selectAddress c.address, .ok ()⟩,
        ⟨.setPec 1, .error errno⟩] false
  | unanswered {errno : Int} (htarget : isTarget c.address = true) :
      Opens c (binding c ++ [⟨.functionality, .error errno⟩]) false
  | incapable {word : UInt64} (htarget : isTarget c.address = true) (hword : word &&& needed ≠ needed) :
      Opens c (binding c ++ [⟨.functionality, .ok word⟩]) false
  | capable {word : UInt64} {transfers : List Exchange} (htarget : isTarget c.address = true)
      (hword : word &&& needed = needed) (htransfers : ∀ x ∈ transfers, Transfers c.address x.1) :
      Opens c (binding c ++ ⟨.functionality, .ok word⟩ :: transfers) true

/-! ## Requests -/

/-- The bits above the first 32 have no meaning, and those that are needed all have one. -/
theorem isSufficient_ofBits (word : UInt64) :
    (Functionality.ofBits word.toUInt32).isSufficient = true ↔ word &&& needed = needed := by
  have hknown : Functionality.known &&& Functionality.required.bits = needed.toUInt32 := by decide
  have hsuff : (Functionality.ofBits word.toUInt32).isSufficient = true ↔
      word.toUInt32 &&& needed.toUInt32 = needed.toUInt32 := by
    rw [Functionality.isSufficient, Functionality.contains, Functionality.ofBits, beq_iff_eq,
      UInt32.and_assoc, hknown]
    rfl
  rw [hsuff, ← UInt64.toUInt32_and]
  refine ⟨fun h => ?_, fun h => by rw [h]⟩
  have hle : (word &&& needed).toNat ≤ needed.toNat := by
    rw [UInt64.toNat_and]
    exact Nat.and_le_right
  have hlow := congrArg UInt32.toNat h
  rw [UInt64.toNat_toUInt32, UInt64.toNat_toUInt32] at hlow
  have hneeded : needed.toNat = 0x0C180008 := rfl
  exact UInt64.toNat_inj.1 (by omega)

theorem path_functionality {address : UInt8} {reply : Reply .functionality}
    (h : (serve address .functionality).Path calls reply) :
    ∃ answer, calls = [⟨.functionality, answer⟩] ∧
      (Suffices reply ↔ ∃ word, answer = .ok word ∧ word &&& needed = needed) := by
  obtain ⟨answer, _, rfl, rfl, rfl⟩ := h
  refine ⟨answer, rfl, ?_⟩
  cases answer with
  | error errno => simp [Suffices, requestResult]
  | ok word => simp [Suffices, requestResult, isSufficient_ofBits]

/-- Every other request is carried by one call to the target, or by none. -/
theorem path_serve {address : UInt8} {r : Request} {reply : Reply r} (hr : r ≠ .functionality)
    (h : (serve address r).Path calls reply) : ∀ x ∈ calls, Transfers address x.1 := by
  cases r with
  | functionality => exact absurd rfl hr
  | readBlock command length =>
    rw [serve] at h
    split at h
    · obtain ⟨rfl, -⟩ := h
      simp
    · obtain ⟨answer, _, rfl, rfl, -⟩ := h
      simp [Transfers]
  | transfer messages =>
    rw [serve] at h
    split at h
    · obtain ⟨rfl, -⟩ := h
      simp
    · obtain ⟨answer, _, rfl, rfl, -⟩ := h
      simp [Transfers, kernelMessage]
  | _ =>
    obtain ⟨answer, _, rfl, rfl, -⟩ := h
    simp [Transfers]

/-- A device file is bound to its target, or one of the calls on the way fails. -/
theorem path_openCalls {opened : Except OpenError Unit} (htarget : isTarget c.address = true)
    (h : (openCalls c).Path calls opened) :
    calls = binding c ∧ opened = .ok () ∨ Opens c calls false ∧ ∃ e, opened = .error e := by
  obtain ⟨opening, _, rfl, h⟩ := h
  cases opening with
  | error e =>
    obtain ⟨rfl, rfl⟩ := h
    exact .inr ⟨.unopened htarget, _, rfl⟩
  | ok _ =>
    obtain ⟨selecting, _, rfl, h⟩ := h
    cases selecting with
    | error errno =>
      obtain ⟨rfl, rfl⟩ := h
      exact .inr ⟨.unselected htarget, _, rfl⟩
    | ok _ =>
      cases hpec : c.pec with
      | false =>
        rw [hpec] at h
        obtain ⟨rfl, rfl⟩ := h
        exact .inl ⟨by simp [binding, hpec], rfl⟩
      | true =>
        rw [hpec] at h
        obtain ⟨switching, _, rfl, h⟩ := h
        cases switching with
        | error errno =>
          obtain ⟨rfl, rfl⟩ := h
          exact .inr ⟨.unprotected htarget hpec, _, rfl⟩
        | ok _ =>
          obtain ⟨rfl, rfl⟩ := h
          exact .inl ⟨by simp [binding, hpec], rfl⟩

/-- A configuration that is checked names a file and a target. -/
theorem check_eq (c : Config) :
    c.check = .ok () ∧ isTarget c.address = true ∨
      (∃ e, c.check = .error e) ∧ (c.device.isEmpty = true ∨ isTarget c.address = false) := by
  rw [Config.check]
  split
  · next hdevice => exact .inr ⟨⟨_, rfl⟩, .inl hdevice⟩
  · split
    · next htarget => exact .inl ⟨rfl, htarget⟩
    · next htarget => exact .inr ⟨⟨_, rfl⟩, .inr (Bool.eq_false_iff.2 htarget)⟩

/-- Opening a target binds it, or comes to nothing on the way. -/
theorem path_openTarget {opened : Except OpenError Unit} (h : (openTarget c).Path calls opened) :
    isTarget c.address = true ∧ calls = binding c ∧ opened = .ok () ∨
      Opens c calls false ∧ ∃ e, opened = .error e := by
  rw [openTarget] at h
  obtain ⟨hcheck, htarget⟩ | ⟨⟨e, hcheck⟩, hrefused⟩ := check_eq c
  · rw [hcheck] at h
    exact (path_openCalls htarget h).imp_left fun hbound => ⟨htarget, hbound⟩
  · rw [hcheck] at h
    obtain ⟨rfl, rfl⟩ := h
    exact .inr ⟨.refused hrefused, _, rfl⟩

/-! ## Turns -/

/-- A turn that opens nothing, selects nothing and does not ask the adapter. -/
def Sends : Turn → Prop
  | ⟨.connect, _⟩ => False
  | ⟨.attach _, _⟩ => False
  | ⟨.attempt r, _⟩ => r ≠ .functionality
  | _ => True

theorem sends_attends {known : Option Protocol} {turn : Turn} (h : Attends known turn) : Sends turn := by
  obtain ⟨a, answer⟩ := turn
  cases a with
  | attempt r =>
    obtain ⟨p, -, hwire⟩ := h
    rintro rfl
    cases p <;> cases hwire
  | connect => cases h
  | attach target => cases h
  | _ => trivial

theorem Sends.target?_eq {turn : Turn} (h : Sends turn) : turn.target? = none := by
  obtain ⟨a, answer⟩ := turn
  cases a with
  | attach target => cases h
  | _ => rfl

theorem carried_sends (hturns : ∀ turn ∈ turns, Sends turn) (h : Carried (some c) turns calls) :
    ∀ x ∈ calls, Transfers c.address x.1 := by
  refine carried_forall (fun turn hturn => ⟨(hturns turn hturn).target?_eq, ?_⟩) h
  intro lead hlead
  have hsends := hturns turn hturn
  obtain ⟨a, answer⟩ := turn
  cases a with
  | attempt r => exact path_serve hsends hlead
  | connect => cases hsends
  | _ =>
    obtain rfl : lead = [] := hlead
    simp

/-- Nothing is called where there is nothing to ask for. -/
theorem carried_idle {current : Option Config} (hturns : ∀ turn ∈ turns, Attends none turn)
    (h : Carried current turns calls) : calls = [] := by
  refine List.eq_nil_iff_forall_not_mem.2
    (carried_forall (fun turn hturn => ⟨(sends_attends (hturns turn hturn)).target?_eq, ?_⟩) h)
  intro lead hlead
  have hattends := hturns turn hturn
  obtain ⟨a, answer⟩ := turn
  cases a with
  | attempt r =>
    obtain ⟨p, hp, -⟩ := hattends
    cases hp
  | connect => cases hattends
  | _ =>
    obtain rfl : lead = [] := by cases current <;> exact hlead
    simp

/-- What makes no calls and selects nothing may stand in front. -/
theorem carried_behind {current : Option Config} (hfirst : ∀ turn ∈ first, Attends none turn)
    (h : Carried current (first ++ rest) calls) : Carried current rest calls := by
  obtain ⟨lead, others, rfl, hlead, hrest⟩ := carried_append h
  rw [foldl_selected fun turn hturn => (sends_attends (hfirst turn hturn)).target?_eq] at hrest
  rw [carried_idle hfirst hlead]
  exact hrest

/-! ## Handles -/

theorem Opens.append {more : List Exchange} (h : Opens c calls true)
    (hmore : ∀ x ∈ more, Transfers c.address x.1) : Opens c (calls ++ more) true := by
  cases h with
  | capable htarget hword htransfers =>
    rw [List.append_assoc, List.cons_append]
    exact .capable htarget hword (List.forall_mem_append.2 ⟨htransfers, hmore⟩)

/-- Error checking is only asked for where the configuration does. -/
theorem Opens.unprotected_of {ready : Bool} (h : Opens c calls ready) (hpec : c.pec = false) :
    ∀ x ∈ calls, ∀ value, x.1 ≠ .setPec value := by
  have hbinding : ∀ x ∈ binding c, ∀ value, x.1 ≠ .setPec value := by simp [binding, hpec]
  cases h with
  | refused | unopened | unselected => simp
  | unprotected _ hpec' => rw [hpec] at hpec'; cases hpec'
  | unanswered | incapable => exact List.forall_mem_append.2 ⟨hbinding, by simp⟩
  | capable _ _ htransfers =>
    refine List.forall_mem_append.2 ⟨hbinding, List.forall_mem_cons.2 ⟨by simp, ?_⟩⟩
    rintro x hx value heq
    have htransfer := htransfers x hx
    rw [heq] at htransfer
    exact htransfer

/-- A device file that was opened is bound to its target, and its adapter was asked. -/
theorem carried_opened {reply : Reply .functionality}
    (h : Carried (some c) (Driver.opened reply ++ rest) calls) :
    isTarget c.address = true ∧ ∃ answer others, calls = binding c ++ ⟨.functionality, answer⟩ :: others ∧
      (Suffices reply ↔ ∃ word, answer = .ok word ∧ word &&& needed = needed) ∧
      Carried (some c) rest others := by
  obtain ⟨_, _, rfl, ⟨opened, hopened, hresult⟩, asked, others, rfl, hasked, hrest⟩ := h
  have hserved : (serve c.address .functionality).Path asked reply := hasked
  obtain ⟨answer, rfl, hsuffices⟩ := path_functionality hserved
  obtain ⟨htarget, rfl, rfl⟩ | ⟨-, e, rfl⟩ := path_openTarget hopened
  · exact ⟨htarget, answer, others, rfl, hsuffices, hrest⟩
  · cases hresult

/-- A handle that is ready to be asked for its identity. -/
theorem opens_tries {reply : Reply .functionality} {replies : List (Reply identRequest)}
    (hreply : Suffices reply)
    (h : Carried (some c) (Driver.opened reply ++ tries identRequest replies) calls) :
    Opens c calls true := by
  obtain ⟨htarget, answer, others, rfl, hsuffices, hrest⟩ := carried_opened h
  obtain ⟨word, rfl, hword⟩ := hsuffices.1 hreply
  refine .capable htarget hword (carried_sends (fun turn hturn => ?_) hrest)
  obtain ⟨attempt, -, rfl⟩ := mem_tries.1 hturn
  simp [Sends]

/-- Making a driver takes one of the ways to open a device file, and where that does not get ready there
is no driver. -/
theorem opens_creates {made : Except Error Driver} (hcreate : Creates label first made)
    (h : Carried (some c) first calls) :
    ∃ ready, Opens c calls ready ∧ (ready = false → made = .error (.notOperational label)) := by
  cases hcreate with
  | closed =>
    obtain ⟨lead, _, rfl, ⟨opened, hopened, hresult⟩, rfl⟩ := h
    rw [List.append_nil]
    obtain ⟨-, -, rfl⟩ | ⟨hopens, -⟩ := path_openTarget hopened
    · cases hresult
    · exact ⟨false, hopens, fun _ => rfl⟩
  | @insufficient reply hreply =>
    rw [← List.append_nil (Driver.opened reply)] at h
    obtain ⟨htarget, answer, _, rfl, hsuffices, rfl⟩ := carried_opened h
    refine ⟨false, ?_, fun _ => rfl⟩
    cases answer with
    | error errno => exact .unanswered htarget
    | ok word => exact .incapable htarget fun hword => hreply (hsuffices.2 ⟨word, rfl, hword⟩)
  | silent hreply => exact ⟨true, opens_tries hreply h, by simp⟩
  | unknown hreply => exact ⟨true, opens_tries hreply h, by simp⟩
  | identified hreply => exact ⟨true, opens_tries hreply h, by simp⟩

theorem target?_creates {made : Except Error Driver} (h : Creates label first made) :
    ∀ turn ∈ first, turn.target? = none := by
  obtain ⟨result, rest, rfl, hrest⟩ := h.turns_eq
  refine List.forall_mem_cons.2 ⟨rfl, ?_⟩
  rintro ⟨a, answer⟩ hturn
  cases a with
  | attach target => simpa [Turn.request?] using hrest _ hturn
  | _ => rfl

/-- One handle: what is done from its opening to the next one, the calls behind it, and whether it was
given a driver. -/
structure Session where
  turns : List Turn
  calls : List Exchange
  made : Except Error Driver

/-- What the handle of a target on a system bus owes. -/
structure Session.Orders (c : Config) (s : Session) : Prop where
  /-- Each call is made behind the success of the one before, and no driver without all of them. -/
  opens : ∃ ready, Opens c s.calls ready ∧
    (ready = false → ∃ label, s.made = .error (.notOperational label))
  /-- The handle is opened and identified, and then only what it was identified as is spoken. -/
  handled : ∃ label first rest, s.turns = first ++ rest ∧ Creates label first s.made ∧
    ∀ turn ∈ rest, Attends (generation? s.made) turn

theorem orders_handle {made : Except Error Driver} {more : List Exchange}
    (hcreate : Creates label first made) (hfirst : Carried (some c) first calls)
    (hattends : ∀ turn ∈ rest, Attends (generation? made) turn) (hrest : Carried (some c) rest more) :
    Session.Orders c ⟨first ++ rest, calls ++ more, made⟩ := by
  refine ⟨?_, label, first, rest, rfl, hcreate, hattends⟩
  obtain ⟨ready, hopens, hmade⟩ := opens_creates hcreate hfirst
  cases ready with
  | false =>
    obtain rfl := hmade rfl
    obtain rfl := carried_idle hattends hrest
    exact ⟨false, by simpa using hopens, fun _ => ⟨label, rfl⟩⟩
  | true =>
    have hmore := carried_sends (fun turn hturn => sends_attends (hattends turn hturn)) hrest
    exact ⟨true, hopens.append hmore, by simp⟩

/-! ## Runs on one target -/

section Leg
variable {known : Option Protocol} {made : List (Except Error Driver)}

theorem target?_leg (h : Leg known turns made) : ∀ turn ∈ turns, turn.target? = none := by
  induction h with
  | nil => simp
  | turn hturn _ ih => exact List.forall_mem_cons.2 ⟨(sends_attends hturn).target?_eq, ih⟩
  | opened hcreate _ ih => exact List.forall_mem_append.2 ⟨target?_creates hcreate, ih⟩

theorem failureClass_leg (h : Leg known turns made) : ∀ e, .error e ∈ made → e.failureClass = .mcuAbsent := by
  induction h with
  | nil => simp
  | turn _ _ ih => exact ih
  | opened hcreate _ ih =>
    intro e he
    obtain rfl | he := List.mem_cons.1 he
    · exact hcreate.failureClass_eq
    · exact ih e he

/-- What is done with the open handle, and then one handle behind the other. -/
theorem carried_leg (h : Leg known turns made) (hcarried : Carried (some c) turns calls) :
    ∃ front lead, ∃ sessions : List Session, turns = front ++ sessions.flatMap Session.turns ∧
      calls = lead ++ sessions.flatMap Session.calls ∧ (∀ turn ∈ front, Attends known turn) ∧
      Carried (some c) front lead ∧ sessions.map Session.made = made ∧
      ∀ s ∈ sessions, s.Orders c := by
  -- The turns up to the next opening are kept apart: they belong to a handle that is opened in front.
  induction h generalizing calls with
  | nil => exact ⟨[], calls, [], rfl, by simp, by simp, hcarried, rfl, by simp⟩
  | @turn known turn rest made hturn _ ih =>
    obtain ⟨first, others, rfl, hfirst, hrest⟩ := hcarried
    have hselected : selected (some c) turn = some c := by
      rw [selected, (sends_attends hturn).target?_eq]
    rw [hselected] at hrest
    obtain ⟨front, lead, sessions, rfl, rfl, hfront, hlead, hmade, horders⟩ := ih hrest
    refine ⟨turn :: front, first ++ lead, sessions, rfl, by rw [List.append_assoc], ?_, ?_, hmade, horders⟩
    · exact List.forall_mem_cons.2 ⟨hturn, hfront⟩
    · exact ⟨first, lead, rfl, hfirst, by rwa [hselected]⟩
  | @opened known label first rest r made hcreate _ ih =>
    obtain ⟨opening, others, rfl, hfirst, hrest⟩ := carried_append hcarried
    rw [foldl_selected (target?_creates hcreate)] at hrest
    obtain ⟨front, lead, sessions, rfl, rfl, hfront, hlead, rfl, horders⟩ := ih hrest
    refine ⟨[], [], ⟨first ++ front, opening ++ lead, r⟩ :: sessions, by simp, by simp, by simp, rfl, rfl, ?_⟩
    exact List.forall_mem_cons.2 ⟨orders_handle hcreate hfirst hfront hlead, horders⟩

/-- What is done at a target, and the calls behind it. Off the system buses there are none. On one, the
handles lie one behind the other, each owes what a handle owes, and `made` is what became of them. -/
def Ordered (target : Target) (turns : List Turn) (calls : List Exchange)
    (made : List (Except Error Driver)) : Prop :=
  match target with
  | .simulated _ => calls = []
  | .system c => ∃ front, ∃ sessions : List Session, turns = front ++ sessions.flatMap Session.turns ∧
      (∀ turn ∈ front, Attends none turn) ∧ calls = sessions.flatMap Session.calls ∧
      sessions.map Session.made = made ∧ ∀ s ∈ sessions, s.Orders c

/-- A run on the target that was selected in front of it. -/
theorem ordered_leg {current : Option Config} {target : Target} (h : Leg none turns made)
    (hcarried : Carried current (.attached target :: turns) calls) :
    Ordered target turns calls made := by
  obtain ⟨first, others, rfl, hattach, hrest⟩ := hcarried
  obtain rfl : first = [] := by cases current <;> exact hattach
  rw [List.nil_append]
  cases target with
  | simulated p => exact carried_none (target?_leg h) hrest
  | system c =>
    obtain ⟨front, lead, sessions, hturns, hcalls, hfront, hlead, hmade, horders⟩ := carried_leg h hrest
    obtain rfl := carried_idle hfront hlead
    exact ⟨front, sessions, hturns, hfront, hcalls, hmade, horders⟩

theorem Ordered.unprotected {target : Target} (h : Ordered target turns calls made)
    (hpec : ∀ c, target = .system c → c.pec = false) : ∀ x ∈ calls, ∀ value, x.1 ≠ .setPec value := by
  cases target with
  | simulated p =>
    obtain rfl : calls = [] := h
    simp
  | system c =>
    obtain ⟨front, sessions, -, -, rfl, -, horders⟩ := h
    intro x hx
    obtain ⟨s, hs, hx⟩ := List.mem_flatMap.1 hx
    obtain ⟨⟨ready, hopens, -⟩, -⟩ := horders s hs
    exact hopens.unprotected_of (hpec c rfl) x hx

end Leg

end Backplane.Linux
