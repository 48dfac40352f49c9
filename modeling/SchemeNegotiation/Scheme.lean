import SchemeNegotiation.Diagnostics.Traced
import SchemeNegotiation.Provider
import SchemeNegotiation.Scheme.Definition
import SchemeNegotiation.Text.Quoted

/-!
# Schemes

A scheme is a definition together with whether a provider can carry it out. A scheme that is not
available makes neither signers nor verifiers.
-/

namespace SchemeNegotiation

/-- A scheme definition and whether it is available. -/
structure Scheme where
  definition : Definition
  available : Bool
  deriving DecidableEq

namespace Scheme

/-- The identifier on the wire. -/
abbrev id (s : Scheme) : UInt16 := s.definition.id

/-- The name. -/
abbrev name (s : Scheme) : String := s.definition.name

/-- The algorithm that a provider is asked for. -/
abbrev algorithm (s : Scheme) : String := s.definition.algorithm

/-- The parameters of the algorithm. -/
abbrev params (s : Scheme) : Option PssParams := s.definition.params

/-- The kind of keys that the scheme takes. -/
abbrev keyAlgorithm (s : Scheme) : KeyAlgorithm := s.definition.keyAlgorithm

/-- Whether the scheme may appear in a version. -/
def supports (s : Scheme) (v : Version) : Bool :=
  s.definition.protocols.contains v

/-- Whether the scheme may sign handshake messages in a version. -/
def supportsHandshake (s : Scheme) (v : Version) : Bool :=
  s.definition.handshakeProtocols.contains v

/-- Whether a key of some size in bits is large enough. -/
def acceptsKeySize (s : Scheme) (size : UInt32) : Bool :=
  match s.definition.minimalKeySize with
  | none => true
  | some least => least ≤ size

/-- Schemes are the same when their identifiers are, available or not. -/
def same (s t : Scheme) : Bool :=
  s.id == t.id

/-- A list of schemes without those that are the same as an earlier one. -/
def distinct (l : List Scheme) : List Scheme :=
  l.eraseDupsBy same

/-- The algorithms of some schemes, in order. -/
def algorithms (l : List Scheme) : List String :=
  l.map algorithm

/-- What a failure to make a signer is to the caller: the scheme does not go with the key. -/
def signerError (s : Scheme) (e : Error) : Error :=
  match e with
  | .keyIncompatible .. => e
  | _ => .keyIncompatible s.name e.message

/-- What a failure to make a verifier is to the caller. -/
def verifierError (s : Scheme) (e : Error) : Error :=
  match e with
  | .verifierConstruction .. => e
  | _ => .verifierConstruction s.name e.message

/-- A fresh signer for a key, made by a provider. -/
def signer (s : Scheme) (provider : Provider) (key : PrivateKey) :
    Traced (Except Error Signer) := do
  if s.available then
    let made ← .ask (.newSigner s.algorithm s.params key)
      (provider.newSigner s.algorithm s.params key)
    return made.mapError s.signerError
  else
    return .error (.unsupportedAlgorithm s.algorithm)

/-- A fresh verifier for a key, made by a provider; there is none for an unavailable scheme. -/
def verifier (s : Scheme) (provider : Provider) (key : PublicKey) :
    Traced (Except Error (Option Verifier)) := do
  if s.available then
    let made ← .ask (.newVerifier s.algorithm s.params key)
      (provider.newVerifier s.algorithm s.params key)
    return (made.mapError s.verifierError).map some
  else
    return .ok none

/-- The diagnostic form of a scheme. -/
def shape (s : Scheme) : Text.Shape :=
  .fields "SignatureScheme"
    [("id", .atom (Text.wireHex s.id)), ("name", .atom (Text.quote s.name)),
      ("available", .atom (if s.available then "true" else "false"))]

end Scheme

end SchemeNegotiation
