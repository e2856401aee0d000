import Backplane.FileTree
import Backplane.Linux.Adapter
import Backplane.Linux.Kernel
import Backplane.Simulator.Bus

/-!
# Hosts

A host is a site with every kind of bus: a simulated controller, a target on a system bus behind
the kernel, or a playback. Selecting a target always starts afresh: a simulated controller is new,
and the kernel goes on where it was.
-/
namespace Backplane

/-- The bus that requests go to. -/
inductive Endpoint where
  /-- No target is selected yet. -/
  | closed
  | simulated (label : String) (controller : Simulator)
  | system (config : Linux.Config)
  | playback (tape : Playback)

structure Host where
  files : FileTree
  kernel : Linux.Kernel
  endpoint : Endpoint

namespace Host

/-- A bus that serves with another state than the host has: the state is put back. -/
def lift {α σ : Type} (restore : σ → Host) (served : Served α σ) : Served α Host :=
  ⟨served.value, restore served.next, served.events⟩

/-- The kernel of a host answers out of the files and the kernel. -/
def kernelAnswer (c : Linux.Call) : FileTree × Linux.Kernel → c.Answer × (FileTree × Linux.Kernel)
  | (files, kernel) =>
    match Linux.Kernel.answer files.openReadWrite c kernel with
    | (answer, kernel) => (answer, files, kernel)

/-- The host with a target on a system bus after calls into the kernel. -/
def withSystem (config : Linux.Config) (s : FileTree × Linux.Kernel) : Host :=
  ⟨s.1, s.2, .system config⟩

def connect : Host → Served (Except BusError Unit) Host
  | ⟨files, kernel, .closed⟩ => ⟨.error (.os Errno.noDevice), ⟨files, kernel, .closed⟩, []⟩
  | ⟨files, kernel, .simulated label s⟩ =>
    lift (fun s => ⟨files, kernel, .simulated label s⟩) ((Simulator.bus label).connect s)
  | ⟨files, kernel, .system config⟩ =>
    lift (withSystem config) ((Linux.bus kernelAnswer config).connect (files, kernel))
  | ⟨files, kernel, .playback p⟩ =>
    lift (fun p => ⟨files, kernel, .playback p⟩) (Playback.bus.connect p)

def attempt (r : Request) : Host → Served (Reply r) Host
  | ⟨files, kernel, .closed⟩ => ⟨.fail (.os Errno.noDevice), ⟨files, kernel, .closed⟩, []⟩
  | ⟨files, kernel, .simulated label s⟩ =>
    lift (fun s => ⟨files, kernel, .simulated label s⟩) ((Simulator.bus label).attempt r s)
  | ⟨files, kernel, .system config⟩ =>
    lift (withSystem config) ((Linux.bus kernelAnswer config).attempt r (files, kernel))
  | ⟨files, kernel, .playback p⟩ =>
    lift (fun p => ⟨files, kernel, .playback p⟩) (Playback.bus.attempt r p)

def delay (us : UInt32) : Host → Served Unit Host
  | ⟨files, kernel, .simulated label s⟩ =>
    lift (fun s => ⟨files, kernel, .simulated label s⟩) ((Simulator.bus label).delay us s)
  | host => ⟨(), host, []⟩

/-- Selects a target. -/
def attach (target : Target) (host : Host) : Host :=
  match target with
  | .simulated p =>
    { host with endpoint := .simulated target.label (.start (.equipped p) {}) }
  | .system config => { host with endpoint := .system config }

/-- A host as a site. -/
def site : Site Host where
  connect := connect
  attempt := attempt
  delay := delay
  attach := attach
  readFile path host := host.files.read path

/-- The simulated controller of a host, if that is its target. -/
def simulator? (host : Host) : Option Simulator :=
  match host.endpoint with
  | .simulated _ s => some s
  | _ => none

/-- Changes the simulated controller of a host, if that is its target. -/
def modifySimulator (f : Simulator → Simulator) : Host → Host
  | ⟨files, kernel, .simulated label s⟩ => ⟨files, kernel, .simulated label (f s)⟩
  | host => host

end Host
end Backplane
