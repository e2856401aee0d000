import Backplane.Proofs.Driver.Requests

/-!
# Everything a driver can be asked for

The methods of a driver are its calls and the two that search for changes. On the wire each of them
is made of requests of one generation, the one the driver was made for, and a driver keeps to its
generation for good. So whatever a driver is asked for, one after the other, no request of the other
generation is sent.

* `wire_eq`: the requests of a generation, byte by byte.
* `speaks_performEach`: any methods in any order.
-/
namespace Backplane

/-- The requests of the older generation on the wire. -/
def V0.wire : Request → Bool
  | .readByte => true
  | .readByteData c => c ∈ [0x00, 0x42, 0x43]
  | .writeByte v => v ∈ [0x3F, 0x41, 0x68, 0x69]
  | .writeByteData c _ => c ∈ [0x45, 0x46, 0x47]
  | .readBlock c _ => c = 0x48
  | .transfer (.write (c :: _) :: _) => c ∈ [0x01, 0x40, 0x80]
  | _ => false

/-- The requests of the newer generation on the wire. -/
def V1.wire : Request → Bool
  | .readByteData c => c ∈ [0x00, 0x20, 0x21, 0x23, 0x25]
  | .readWordData c => c = 0x24
  | .writeByte v => v ∈ [0xFE, 0xFF]
  | .writeByteData c _ => c ∈ [0x23, 0x60]
  | .readBlock c _ => c ∈ [0x02, 0xF0]
  | .transfer (.write (c :: _) :: _) => c ∈ [0xFA, 0xFD]
  | _ => false

/-- The requests of a generation on the wire. -/
def Protocol.wire : Protocol → Request → Bool
  | .v0 => V0.wire
  | .v1 => V1.wire

theorem Protocol.wire_eq (p : Protocol) (r : Request) : p.wire r = p.knows r := by
  cases p <;> rfl

namespace Driver

/-- A method of a driver with its arguments. -/
inductive Method where
  | call (c : Call)
  | hasStateChanged (cache : ChangeCache)
  | poll (cache : ChangeCache) (force : Bool)
  deriving DecidableEq, Repr

/-- Does what a method does, whatever comes of it. -/
def Method.perform : Method → DriverM Unit
  | .call c => Driver.perform c
  | .hasStateChanged cache => discard (Driver.hasStateChanged cache)
  | .poll cache force => discard (Driver.poll cache force)

/-- Methods one after the other. -/
def performEach (methods : List Method) : DriverM Unit := methods.forM Method.perform

/-- The operation sends requests of the generation. -/
abbrev Speaks (p : Protocol) {α : Type} (x : DriverM α) : Prop := Leads (Speaking p) (Acts p p.Speaks) x

variable {p : Protocol} {α : Type} {cache : ChangeCache}

theorem Sparing.speaks {x : DriverM α} (h : Sparing p x) : Speaks p x :=
  h.mono fun hacts => hacts.mono fun _ hturn => hturn.1

theorem speaks_latch : Speaks .v1 (V1.fetchByte V1.latchRegister .readLatch).run :=
  leads_communicate offDevice_speaking onDevice_acts (Device.keeps_exchange fun _ => rfl)

theorem speaks_hasStateChanged : Speaks p (hasStateChanged cache) := by
  refine leads_generation (R := fun p => Acts p p.Speaks) ?_ ?_
  · refine leads_onCache_bind (sparing_fetch .presence).speaks fun _ => ?_
    exact leads_onCache_bind (sparing_fetch .failures).speaks fun _ => leads_pure _
  · refine leads_onCache_bind (leadsTry_lift (leads_modify fun _ h => ⟨h, .forgot⟩)) fun _ => ?_
    refine leads_onCache_bind (sparing_heldOrRead .presence).speaks fun _ => ?_
    refine leads_onCache_bind (sparing_heldOrRead .failures).speaks fun _ => ?_
    exact leads_onCache_bind speaks_latch fun _ => leads_pure _

theorem speaks_poll {force : Bool} : Speaks p (poll cache force) := by
  refine leads_bind speaks_hasStateChanged ?_
  rintro ⟨seen, e | changed⟩
  · exact leads_pure _
  · have hcollect : Speaks p (do
        let states ← collectStates.run
        pure (seen, states.map some) : DriverM _) :=
      leads_bind sparing_collectStates.speaks fun _ => leads_pure _
    dsimp only
    split
    · split
      · exact leads_get_bind fun _ _ => leads_bind leads_log fun _ => hcollect
      · exact hcollect
    · exact leads_pure _

theorem speaks_method (m : Method) : Speaks p m.perform := by
  cases m with
  | call c => exact (sparing_perform c).speaks
  | hasStateChanged cache => exact leads_bind speaks_hasStateChanged fun _ => leads_pure _
  | poll cache force => exact leads_bind speaks_poll fun _ => leads_pure _

theorem speaks_performEach (methods : List Method) : Speaks p (performEach methods) :=
  leads_forM _ fun m _ => speaks_method m

end Driver
end Backplane
