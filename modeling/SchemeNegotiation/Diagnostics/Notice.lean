import SchemeNegotiation.Error
import SchemeNegotiation.Scheme.Definition

/-!
# Notices

What is told to whoever reads the log: the decisions that leave something out, each with its
reason. A notice has a level, the part of the library it comes from, and a text.
-/

namespace SchemeNegotiation

/-- How much a notice matters. -/
inductive Level where
  | warn
  | debug
  | trace
  deriving DecidableEq

/-- The label of a level. -/
def Level.label : Level → String
  | warn => "WARN"
  | debug => "DEBUG"
  | trace => "TRACE"

/-- The part of the library that a notice comes from. -/
inductive Area where
  | registry
  | selector
  | config
  deriving DecidableEq

/-- The target under which the notices of a part are logged. -/
def Area.target : Area → String
  | registry => "tls_sigschemes::registry"
  | selector => "tls_sigschemes::selector"
  | config => "tls_sigschemes::config"

/-- A decision that the log tells about. -/
inductive Notice where
  /-- A scheme is disabled because the provider has no elliptic curves. -/
  | noEllipticCurves (scheme : Definition)
  /-- A scheme is disabled because the provider does not have its algorithm. -/
  | notInstantiable (scheme : Definition)
  /-- A scheme is disabled because it was excluded. -/
  | excluded (scheme : Definition)
  /-- A scheme is left out because it is not available or not allowed. -/
  | unsupported (scheme : Definition)
  /-- A scheme is left out because no active version has it. -/
  | inactive (scheme : Definition)
  /-- A scheme is left out because the constraints refuse it. -/
  | disabled (scheme : Definition)
  /-- An offered scheme, given by its name, is dropped. -/
  | offerDropped (name : String)
  /-- A scheme is passed over because the key is not on its curve. -/
  | otherCurve (scheme : Definition) (params : Option EcParameters)
  /-- A scheme without a curve of its own is passed over because the key's curve is not enabled. -/
  | curveNotEnabled (scheme : Definition) (params : Option EcParameters)
  /-- A scheme is passed over because no signer could be made. -/
  | signerRefused (scheme : Definition) (reason : Error)
  /-- A configured name is no scheme. -/
  | unknownName (name : String)
  deriving DecidableEq

namespace Notice

/-- The level of a notice. -/
def level : Notice → Level
  | noEllipticCurves _ | notInstantiable _ | offerDropped _ | unknownName _ => .warn
  | excluded _ | disabled _ | otherCurve .. | curveNotEnabled .. | signerRefused .. => .debug
  | unsupported _ | inactive _ => .trace

/-- The part of the library that a notice comes from. -/
def area : Notice → Area
  | noEllipticCurves _ | notInstantiable _ | excluded _ => .registry
  | unknownName _ => .config
  | _ => .selector

/-- The diagnostic form of domain parameters that may be missing. -/
def paramsText (params : Option EcParameters) : String :=
  (Text.Shape.option (params.map EcParameters.shape)).line

/-- The text of a notice. -/
def text : Notice → String
  | noEllipticCurves d =>
    "Signature scheme " ++ d.name ++ " disabled: elliptic curve support is unavailable"
  | notInstantiable d =>
    "Signature algorithm " ++ d.algorithm ++ " is not supported by the provider, disabling " ++
      d.name
  | excluded d => "Signature scheme " ++ d.name ++ " disabled by exclusion predicate"
  | unsupported d => "Ignore unsupported signature scheme: " ++ d.name
  | inactive d => "Ignore inactive signature scheme: " ++ d.name
  | disabled d => "Ignore disabled signature scheme: " ++ d.name
  | offerDropped name => "Unsupported signature scheme: " ++ name
  | otherCurve d params =>
    "Ignore the signature scheme (" ++ d.name ++ "), unsupported EC parameters: " ++
      paramsText params
  | curveNotEnabled d params =>
    "Ignore the legacy signature scheme (" ++ d.name ++ "), unsupported EC parameters: " ++
      paramsText params
  | signerRefused d reason =>
    "Ignore unsupported signature scheme (" ++ d.name ++ "): " ++ reason.message
  | unknownName name => "Ignoring unsupported signature scheme name: " ++ name

end Notice

end SchemeNegotiation
