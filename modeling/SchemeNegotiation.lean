import SchemeNegotiation.Algorithm
import SchemeNegotiation.Bytes
import SchemeNegotiation.Crypto.Curve
import SchemeNegotiation.Crypto.Der
import SchemeNegotiation.Crypto.Ecdsa
import SchemeNegotiation.Crypto.Ed25519
import SchemeNegotiation.Crypto.Sec1
import SchemeNegotiation.Crypto.Sha2
import SchemeNegotiation.Diagnostics.Notice
import SchemeNegotiation.Diagnostics.Traced
import SchemeNegotiation.Error
import SchemeNegotiation.Key.Private
import SchemeNegotiation.Key.Public
import SchemeNegotiation.NamedGroup
import SchemeNegotiation.Policy.AllowList
import SchemeNegotiation.Policy.DenyList
import SchemeNegotiation.Provider
import SchemeNegotiation.Provider.Builtin
import SchemeNegotiation.Registry
import SchemeNegotiation.Registry.Shared
import SchemeNegotiation.Scheme
import SchemeNegotiation.Scheme.Definition
import SchemeNegotiation.Scheme.Table
import SchemeNegotiation.Selector
import SchemeNegotiation.Stored.Form
import SchemeNegotiation.Stored.Value
import SchemeNegotiation.Text.Hidden
import SchemeNegotiation.Text.Quoted
import SchemeNegotiation.Text.Reading
import SchemeNegotiation.Text.Shape
import SchemeNegotiation.Version
import SchemeNegotiation.Proofs.Narrowing
import SchemeNegotiation.Proofs.Candidates
import SchemeNegotiation.Proofs.Negotiation
import SchemeNegotiation.Proofs.Agreement
import SchemeNegotiation.Proofs.DenyList
import SchemeNegotiation.Proofs.KeyCurve
import SchemeNegotiation.Proofs.Correspondence
import SchemeNegotiation.Proofs.AllowList
import SchemeNegotiation.Proofs.SharedRegistry
import SchemeNegotiation.Proofs.Der
import SchemeNegotiation.Proofs.BuiltinProvider
import SchemeNegotiation.Proofs.BuiltinSelection
import SchemeNegotiation.Proofs.Monotonicity
import SchemeNegotiation.Proofs.Walk
import SchemeNegotiation.Proofs.Secrecy
import SchemeNegotiation.Proofs.Storage
import SchemeNegotiation.Proofs.Components
import SchemeNegotiation.Proofs.DenyVerdict
import SchemeNegotiation.Proofs.DigestSpelling
import SchemeNegotiation.Proofs.Probing
import SchemeNegotiation.Proofs.Accounting
import SchemeNegotiation.Proofs.KeySize
import SchemeNegotiation.Proofs.CurveCheck
import SchemeNegotiation.Proofs.Preference
import SchemeNegotiation.Proofs.Entries
import SchemeNegotiation.Proofs.WrittenForm
import SchemeNegotiation.Proofs.Loading
import SchemeNegotiation.Proofs.Padding
import SchemeNegotiation.Proofs.BuiltinAnswers
import SchemeNegotiation.Proofs.Failures
import SchemeNegotiation.Proofs.Streaming
import SchemeNegotiation.Proofs.Naming
