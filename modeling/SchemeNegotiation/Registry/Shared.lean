import SchemeNegotiation.Provider.Builtin
import SchemeNegotiation.Registry

/-!
# The shared registry

One registry that everybody shares. It is written once: by whoever installs one first, or by the
first reader, for whom it is built on the built-in provider. From then on it stays as it is.
-/

namespace SchemeNegotiation

/-- The registry that everybody shares, once there is one. -/
structure SharedRegistry where
  registry? : Option Registry

namespace SharedRegistry

/-- The shared registry before anybody used it. -/
def empty : SharedRegistry := ⟨none⟩

/-- Whether there is a registry yet. -/
def isInitialized (s : SharedRegistry) : Bool :=
  s.registry?.isSome

/-- A request to the shared registry. -/
inductive Request where
  /-- Puts a registry in place that is already built. -/
  | install (registry : Registry)
  /-- Builds a registry and puts it in place. -/
  | establish (provider : Provider) (exclusion : Exclusion)
  /-- Reads the registry. -/
  | read
  /-- Asks whether there is a registry. -/
  | isInitialized
  /-- Reads the scheme with an identifier. -/
  | lookup (id : UInt16)
  /-- Reads the scheme with a name. -/
  | byName (name : String)
  /-- Reads every scheme. -/
  | schemes
  /-- Asks for the name of an identifier, which needs no registry. -/
  | nameOfId (id : UInt16)

/-- The reply to a request. -/
inductive Reply where
  | registry (registry : Registry)
  | refused (reason : Error)
  | flag (value : Bool)
  | scheme? (scheme : Option Scheme)
  | schemes (all : List Scheme)
  | name (text : String)

/-- Puts a registry in place unless there is one. -/
def install (s : SharedRegistry) (r : Registry) : SharedRegistry × Reply :=
  match s.registry? with
  | some _ => (s, .refused .alreadyInitialized)
  | none => (⟨some r⟩, .registry r)

/-- The registry in place, which is built on the built-in provider if there was none. -/
def force (s : SharedRegistry) : Traced Registry :=
  match s.registry? with
  | some r => return r
  | none => Registry.build Builtin.provider .nothing

/-- Answers from the registry in place. -/
def answer (s : SharedRegistry) (reply : Registry → Reply) : Traced (SharedRegistry × Reply) := do
  let r ← s.force
  return (⟨some r⟩, reply r)

/-- Answers one request. -/
def step (s : SharedRegistry) : Request → Traced (SharedRegistry × Reply)
  | .install r => return s.install r
  | .establish provider exclusion =>
    if s.isInitialized then return (s, .refused .alreadyInitialized)
    else do return s.install (← Registry.build provider exclusion)
  | .read => s.answer .registry
  | .isInitialized => return (s, .flag s.isInitialized)
  | .lookup id => s.answer fun r => .scheme? (r.ofId? id)
  | .byName name => s.answer fun r => .scheme? (r.ofName? name)
  | .schemes => s.answer fun r => .schemes r.schemes
  | .nameOfId id => return (s, .name (SchemeNegotiation.nameOfId id))

/-- Answers requests one after the other. -/
def run (s : SharedRegistry) : List Request → Traced (SharedRegistry × List Reply)
  | [] => return (s, [])
  | request :: rest => do
    let (next, reply) ← s.step request
    let (last, replies) ← next.run rest
    return (last, reply :: replies)

end SharedRegistry

end SchemeNegotiation
