import SchemeNegotiation.Policy.AllowList
import SchemeNegotiation.Policy.DenyList
import SchemeNegotiation.Registry

/-!
# Selecting schemes

A selector narrows the schemes of a registry, or those that a peer offers, to what the local policy
allows, and picks the first of some candidates with which a key can sign. Narrowing never fails; it
may leave nothing. Whatever is left out on the way is told to the log.
-/

namespace SchemeNegotiation

/-- A registry with the local policy. -/
structure Selector where
  registry : Registry
  allowList : AllowList
  constraints : Constraints
  groups : GroupRegistry

/-- A selected scheme and a signer for it. -/
abbrev Selection := Scheme × Signer

namespace Selector

/-- The selector without a policy: everything is allowed, and every group is enabled. -/
def ofRegistry (r : Registry) : Selector :=
  ⟨r, .unrestricted, .permitAll, SupportedGroups.all.registry⟩

/-- Asks the constraints about signing with the algorithm of a scheme. -/
def askConstraints (sel : Selector) (s : Scheme) : Traced Bool :=
  sel.constraints.ask [.signature] s.algorithm none

/-- Leaves a scheme out and tells why. -/
def leaveOut (notice : Notice) : Traced Bool := do
  .tell notice
  return false

/-- Whether a scheme of the registry is supported for one of the active versions. -/
def judge (sel : Selector) (active : List Version) (s : Scheme) : Traced Bool :=
  if !s.available || !sel.allowList.permits s then
    leaveOut (.unsupported s.definition)
  else if !active.any s.supports then
    leaveOut (.inactive s.definition)
  else do
    if ← sel.askConstraints s then return true
    else leaveOut (.disabled s.definition)

/-- The schemes that are supported for one of the active versions, in the order of the registry. -/
def supported (sel : Selector) (active : List Version) : Traced (List Scheme) :=
  .keepIf (sel.judge active) sel.registry.schemes

/-- The scheme of an offered identifier, if it is usable in a version. -/
def judgeOffer (sel : Selector) (v : Version) (id : UInt16) : Traced (Option Scheme) := do
  match sel.registry.ofId? id with
  | none =>
    .tell (.offerDropped (nameOfId id))
    return none
  | some s =>
    let usable ←
      if s.available && s.supports v && sel.allowList.permits s then sel.askConstraints s
      else pure false
    if usable then return some s
    else
      .tell (.offerDropped s.name)
      return none

/-- The offered schemes that are usable in a version, in the order of the offer. -/
def usableOffer (sel : Selector) (v : Version) (ids : List UInt16) : Traced (List Scheme) := do
  let found ← Traced.mapAll (sel.judgeOffer v) ids
  return found.filterMap fun s? => s?

/-- Asks for the group of domain parameters, if there are any. -/
def askGroup (sel : Selector) (params : Option EcParameters) : Traced (Option NamedGroup) :=
  match params with
  | none => return none
  | some p => .ask (.groupOf p) (sel.groups.groupOf p)

/-- Asks whether a group is enabled, if there is one. -/
def askSupport (sel : Selector) (group : Option NamedGroup) : Traced Bool :=
  match group with
  | none => return false
  | some g => .ask (.isSupported g) (sel.groups.isSupported g)

/--
Whether the curve of a possession goes with a scheme. A scheme with a group needs a key of that
group; any other scheme for curves needs a key whose group is enabled, as the peer has to know it.
-/
def curveFits (sel : Selector) (possession : Possession) (s : Scheme) : Traced Bool := do
  let params := possession.ecParameters
  match s.definition.group with
  | some group =>
    if (← sel.askGroup params) = some group then return true
    else leaveOut (.otherCurve s.definition params)
  | none =>
    if s.keyAlgorithm = .ec then
      if ← sel.askSupport (← sel.askGroup params) then return true
      else leaveOut (.curveNotEnabled s.definition params)
    else return true

/-- The size of a key that is never too small. -/
def unboundedSize : UInt32 := 0xffffffff

/-- The size that is held against the least size of a scheme; only RSA keys can be too small. -/
def comparedSize (key : PrivateKey) : UInt32 :=
  match key.keyAlgorithm? with
  | some algorithm => if algorithm.isRsaFamily then key.size?.getD 0 else unboundedSize
  | none => unboundedSize

/-- Whether a scheme goes with a key in a version, curves aside. -/
def isEligible (key : PrivateKey) (v : Version) (s : Scheme) : Bool :=
  s.available && s.acceptsKeySize (comparedSize key) && s.supportsHandshake v &&
    key.keyAlgorithm? == some s.keyAlgorithm

/-- Tries one candidate: a signer for it, if it goes with the possession and one can be made. -/
def attempt (sel : Selector) (possession : Possession) (v : Version) (s : Scheme) :
    Traced (Option Selection) := do
  if isEligible possession.privateKey v s then
    if ← sel.curveFits possession s then
      match ← s.signer sel.registry.provider possession.privateKey with
      | .ok signer => return some (s, signer)
      | .error reason =>
        .tell (.signerRefused s.definition reason)
        return none
    else return none
  else return none

/-- The first candidate for which a signer can be made, with the signer. -/
def selectSigner (sel : Selector) (candidates : List Scheme) (possession : Possession)
    (v : Version) : Traced (Option Selection) :=
  .firstSome (sel.attempt possession v) candidates

/-- The error for a key that goes with no candidate. -/
def noSigner (possession : Possession) (v : Version) : Error :=
  .noMatchingScheme
    ("no signature scheme for " ++ possession.privateKey.algorithm ++ " key in " ++ v.name)

/-- The first candidate for which a signer can be made, with the signer; there has to be one. -/
def negotiateSigner (sel : Selector) (candidates : List Scheme) (possession : Possession)
    (v : Version) : Traced (Except Error Selection) := do
  match ← sel.selectSigner candidates possession v with
  | some selection => return .ok selection
  | none => return .error (noSigner possession v)

/-- A verifier of a scheme for a key. -/
def verifier (sel : Selector) (s : Scheme) (key : PublicKey) :
    Traced (Except Error (Option Verifier)) :=
  sel.registry.verifier s key

end Selector

/--
The first candidate that may sign handshake messages in a version with the kind of key that a
certificate scheme takes.
-/
def preferredScheme? (candidates : List Scheme) (certificate : Scheme) (v : Version) :
    Option Scheme :=
  candidates.find? fun s =>
    s.available && s.supportsHandshake v && s.keyAlgorithm == certificate.keyAlgorithm

/-- The preferred scheme beside a certificate scheme; there has to be one. -/
def negotiateVerification (candidates : List Scheme) (certificate : Scheme) (v : Version) :
    Except Error Scheme :=
  match preferredScheme? candidates certificate v with
  | some s => .ok s
  | none => .error (.noMatchingScheme
    ("no signature scheme compatible with " ++ certificate.name ++ " in " ++ v.name))

end SchemeNegotiation
