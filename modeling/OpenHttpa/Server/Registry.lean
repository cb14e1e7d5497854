import OpenHttpa.Core.Session
import OpenHttpa.Lib.Assoc

/-!
# The session registry

`openhttpa-server/src/atb_registry.rs`. Sessions are shared objects, so the registry maps an
identifier to a handle; a handle taken out earlier stays usable when the entry is replaced or
evicted. The registry counts its insertions against a capacity and refuses beyond it.
-/
namespace OpenHttpa.Server

open OpenHttpa.Core Proto

/-- `AtbRegistry` over handles of shared session objects. -/
structure AtbRegistry where
  sessions : List (AtbId × Nat)
  maxSessions : Nat
  liveCount : Nat

namespace AtbRegistry

def withCapacity (maxSessions : Nat) : AtbRegistry := ⟨[], maxSessions, 0⟩

def remove (registry : AtbRegistry) (id : AtbId) : List (AtbId × Nat) :=
  registry.sessions.filter fun entry => entry.1 ≠ id

theorem remove_eq (registry : AtbRegistry) (id : AtbId) :
    registry.remove id = Assoc.without registry.sessions id := rfl

/-- `AtbRegistry::insert` — an entry of the same identifier is replaced, and counted again. -/
def insert (registry : AtbRegistry) (id : AtbId) (handle : Nat) : Except String AtbRegistry :=
  if registry.liveCount < registry.maxSessions then
    .ok { registry with
      sessions := (id, handle) :: registry.remove id, liveCount := registry.liveCount + 1 }
  else
    .error "AtB registry full"

/-- `AtbRegistry::get` — an expired entry is evicted and not returned. -/
def get (alive : Nat → Bool) (registry : AtbRegistry) (id : AtbId) : Option Nat × AtbRegistry :=
  match registry.sessions.lookup id with
  | none => (none, registry)
  | some handle =>
    if alive handle then
      (some handle, registry)
    else
      (none, { registry with sessions := registry.remove id, liveCount := registry.liveCount - 1 })

def evictExpired (alive : Nat → Bool) (registry : AtbRegistry) : AtbRegistry :=
  let kept := registry.sessions.filter fun entry => alive entry.2
  { registry with
    sessions := kept
    liveCount := registry.liveCount - (registry.sessions.length - kept.length) }

/-- `AtbRegistry::insert` of a new session object behind the others; a full registry drops it. -/
def register {α : Type} (registry : AtbRegistry) (cells : List α) (id : AtbId) (cell : α) :
    AtbRegistry × List α :=
  match registry.insert id cells.length with
  | .error _ => (registry, cells)
  | .ok registry => (registry, cells ++ [cell])

end AtbRegistry

/-- The session of a cell has not expired. -/
def aliveAt {α : Type} (session : α → AttestSession) (cells : List α) (now handle : Nat) : Bool :=
  (cells[handle]?).any fun cell => decide (now < (session cell).expiresAt)

end OpenHttpa.Server
