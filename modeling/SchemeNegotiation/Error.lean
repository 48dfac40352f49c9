import SchemeNegotiation.Text.Quoted
import SchemeNegotiation.Text.Shape

/-!
# Errors

What can go wrong, by cause, and the message of each. Choosing among schemes never fails by itself;
errors come from providers, keys, signatures, configurations, and from choices that had to succeed.
-/

namespace SchemeNegotiation

/-- The cause of a failure. -/
inductive Error where
  /-- The provider does not have the algorithm. -/
  | unsupportedAlgorithm (algorithm : String)
  /-- No scheme was left to choose. -/
  | noMatchingScheme (detail : String)
  /-- No signer can be made for the scheme with the key. -/
  | keyIncompatible (scheme reason : String)
  /-- No verifier can be made for the scheme with the key. -/
  | verifierConstruction (scheme reason : String)
  /-- The key is malformed or of the wrong kind. -/
  | invalidKey (detail : String)
  /-- The bytes of a signature cannot be read. -/
  | invalidSignature
  /-- The configuration is not valid. -/
  | configuration (detail : String)
  /-- The shared registry is already in place. -/
  | alreadyInitialized
  /-- A cryptographic operation failed. -/
  | cryptographic (detail : String)
  deriving DecidableEq

namespace Error

/-- The message of an error. -/
def message : Error → String
  | unsupportedAlgorithm algorithm => "Unsupported signature algorithm: " ++ algorithm
  | noMatchingScheme detail => "No matching signature scheme: " ++ detail
  | keyIncompatible scheme reason => "Key incompatible with " ++ scheme ++ ": " ++ reason
  | verifierConstruction scheme reason =>
    "Cannot construct verifier for " ++ scheme ++ ": " ++ reason
  | invalidKey detail => "Invalid key: " ++ detail
  | invalidSignature => "Invalid signature encoding"
  | configuration detail => "Configuration error: " ++ detail
  | alreadyInitialized => "Signature scheme registry already initialized"
  | cryptographic detail => "Cryptographic error: " ++ detail

/-- The tag of an error in diagnostic forms. -/
def tag : Error → String
  | unsupportedAlgorithm _ => "UnsupportedAlgorithm"
  | noMatchingScheme _ => "NoMatchingScheme"
  | keyIncompatible .. => "KeyIncompatible"
  | verifierConstruction .. => "VerifierConstruction"
  | invalidKey _ => "InvalidKey"
  | invalidSignature => "InvalidSignature"
  | configuration _ => "Config"
  | alreadyInitialized => "AlreadyInitialized"
  | cryptographic _ => "Crypto"

/-- The diagnostic form of an error. -/
def shape (e : Error) : Text.Shape :=
  let quoted (text : String) := Text.Shape.atom (Text.quote text)
  match e with
  | invalidSignature | alreadyInitialized => .atom e.tag
  | unsupportedAlgorithm text | noMatchingScheme text | invalidKey text | configuration text
  | cryptographic text => .tuple e.tag [quoted text]
  | keyIncompatible scheme reason | verifierConstruction scheme reason =>
    .fields e.tag [("scheme", quoted scheme), ("reason", quoted reason)]

end Error

end SchemeNegotiation
