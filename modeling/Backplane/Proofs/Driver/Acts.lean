import Backplane.Proofs.Driver.Masks
import Backplane.Proofs.Keeps

/-!
# What a driver does to what it keeps

Whatever a driver is asked for, all it does is talk on its handle, forget what it kept of a poll cycle, keep
what it has read of it, and move its flash offset, one after the other. So what a driver has of a mask it
had before, or it was read in between.

* `Mask.ReadIn`: a mask that is read in some of the turns.
* `Acts`: everything an operation of a driver may do.
* `Acts.held`: where a mask at hand comes from.
-/
namespace Backplane

namespace Mask

/-- It was read in the turns, among others. -/
def ReadIn (mask : Mask) (p : Protocol) (turns : List Turn) (value : UInt8) : Prop :=
  ∃ before reading after, turns = before ++ reading ++ after ∧
    p.ReadsMask (mask.register p) reading value

variable {mask : Mask} {p : Protocol} {first rest turns : List Turn} {value : UInt8}

theorem ReadIn.of_reads (h : p.ReadsMask (mask.register p) turns value) : mask.ReadIn p turns value :=
  ⟨[], turns, [], by simp, h⟩

theorem ReadIn.append_left (h : mask.ReadIn p first value) : mask.ReadIn p (first ++ rest) value := by
  obtain ⟨before, reading, after, rfl, hread⟩ := h
  exact ⟨before, reading, after ++ rest, by simp, hread⟩

theorem ReadIn.append_right (h : mask.ReadIn p rest value) : mask.ReadIn p (first ++ rest) value := by
  obtain ⟨before, reading, after, rfl, hread⟩ := h
  exact ⟨first ++ before, reading, after, by simp, hread⟩

end Mask

namespace Driver

variable {p : Protocol} {P : Turn → Prop} {d d' : Driver} {turns : List Turn}

/-- Everything that an operation of a driver may do, with what is said of its turns. -/
inductive Acts (p : Protocol) (P : Turn → Prop) : Driver → List Turn → Driver → Prop
  | nil (d : Driver) : Acts p P d [] d
  | append {d mid d' : Driver} {first rest : List Turn} (h : Acts p P d first mid)
      (h' : Acts p P mid rest d') : Acts p P d (first ++ rest) d'
  /-- It talks on its handle. -/
  | talked {d : Driver} {turns : List Turn} {device : Device} (hturns : ∀ turn ∈ turns, P turn) :
      Acts p P d turns { d with device := device }
  /-- It reads a mask and keeps it. -/
  | kept {d : Driver} {turns : List Turn} {device : Device} {value : UInt8} (mask : Mask)
      (hturns : ∀ turn ∈ turns, P turn) (h : p.ReadsMask (mask.register p) turns value) :
      Acts p P d turns (mask.keep value { d with device := device })
  /-- It begins a poll cycle. -/
  | forgot {d : Driver} {types : Option UInt16} :
      Acts p P d [] { d with presence := none, failures := none, types := types }
  | typed {d : Driver} {types : Option UInt16} : Acts p P d [] { d with types := types }
  | moved {d : Driver} {offset : UInt32} : Acts p P d [] { d with flashOffset := offset }

instance : Composes (Acts p P) where
  nil := .nil
  append := .append

theorem onDevice_acts : OnDevice P (Acts p P) := fun _ _ _ hturns => .talked hturns

namespace Acts

/-- What is said of the turns may be weakened. -/
theorem mono {Q : Turn → Prop} (h : Acts p P d turns d') (hPQ : ∀ turn, P turn → Q turn) :
    Acts p Q d turns d' := by
  induction h with
  | nil => exact .nil _
  | append _ _ ih ih' => exact .append ih ih'
  | talked hturns => exact .talked fun turn hturn => hPQ turn (hturns turn hturn)
  | kept mask hturns h => exact .kept mask (fun turn hturn => hPQ turn (hturns turn hturn)) h
  | forgot => exact .forgot
  | typed => exact .typed
  | moved => exact .moved

theorem each (h : Acts p P d turns d') : ∀ turn ∈ turns, P turn := by
  induction h with
  | append _ _ ih ih' => exact List.forall_mem_append.2 ⟨ih, ih'⟩
  | talked hturns => exact hturns
  | kept _ hturns => exact hturns
  | _ => exact List.forall_mem_nil _

/-- A mask at hand was at hand before, or it was read meanwhile. -/
theorem held (h : Acts p P d turns d') {mask : Mask} {value : UInt8} (hheld : mask.held d' = some value) :
    mask.held d = some value ∨ mask.ReadIn p turns value := by
  -- Only what is kept can put a mask there, so everything else passes the question on to what came before.
  induction h with
  | append _ _ ih ih' =>
    obtain hmid | hread := ih' hheld
    · exact (ih hmid).imp_right .append_left
    · exact .inr hread.append_right
  | @kept d _ device _ other _ h =>
    by_cases heq : other = mask
    · subst heq
      rw [Mask.held_keep] at hheld
      exact .inr (.of_reads (Option.some.inj hheld ▸ h))
    · rw [Mask.held_keep_of_ne heq] at hheld
      exact .inl (by cases mask <;> exact hheld)
  | forgot => cases mask <;> cases hheld
  | _ => exact .inl (by cases mask <;> exact hheld)

end Acts

/-! ## Masks that are read and kept -/

/-- The driver speaks the generation. -/
abbrev Speaking (p : Protocol) (d : Driver) : Prop := d.protocol = p

theorem offDevice_speaking : OffDevice (Speaking p) := fun _ _ h => h

theorem keeps_readMask {what : String} {register : UInt8}
    (h : ∀ reply, P (.attempted (.readByteData register) reply)) :
    Keeps (fun _ => True) P (p.readMask what register).run := by
  cases p with
  | v0 => exact keeps_confirmed (Device.keeps_exchange h)
  | v1 => exact Device.keeps_exchange h

theorem leads_fetch (mask : Mask)
    (h : ∀ reply, P (.attempted (.readByteData (mask.register p)) reply)) :
    Leads (Speaking p) (Acts p P)
      (fetch (p.readMask mask.name (mask.register p)) mask.operation mask.keep).run := by
  intro d turns r d' hd hrun
  obtain ⟨result, device, hread, rfl, rfl⟩ := tries_fetch hrun
  have hturns : ∀ turn ∈ turns, P turn := (keeps_readMask h trivial hread).2
  cases result with
  | error e => exact ⟨hd, .talked hturns⟩
  | ok value =>
    refine ⟨?_, .kept mask hturns (Protocol.readsMask_readMask hread)⟩
    cases mask <;> exact hd

end Driver
end Backplane
