import SchemeNegotiation.Scheme.Definition
import SchemeNegotiation.Text.Reading

/-!
# The table of schemes

Every known scheme, in the order in which schemes are preferred when nothing else decides. Every
identifier has a name. A known one has the name of its scheme; any other is read as a pair of bytes,
a digest and a signature algorithm, the way TLS 1.2 wrote schemes.
-/

namespace SchemeNegotiation

namespace Definition

open Version

/-- Every known scheme, the preferred ones first. -/
def table : List Definition :=
  [ plain 0x0807 "ed25519" "Ed25519" .ed25519 only13,
    plain 0x0808 "ed448" "Ed448" .ed448 only13,
    boundEcdsa 0x0403 "ecdsa_secp256r1_sha256" "SHA256withECDSA" .secp256r1,
    boundEcdsa 0x0503 "ecdsa_secp384r1_sha384" "SHA384withECDSA" .secp384r1,
    boundEcdsa 0x0603 "ecdsa_secp521r1_sha512" "SHA512withECDSA" .secp521r1,
    pss 0x0804 "rsa_pss_rsae_sha256" .rsa .sha256 528,
    pss 0x0805 "rsa_pss_rsae_sha384" .rsa .sha384 784,
    pss 0x0806 "rsa_pss_rsae_sha512" .rsa .sha512 1040,
    pss 0x0809 "rsa_pss_pss_sha256" .rsaPss .sha256 528,
    pss 0x080a "rsa_pss_pss_sha384" .rsaPss .sha384 784,
    pss 0x080b "rsa_pss_pss_sha512" .rsaPss .sha512 1040,
    pkcs1 0x0401 "rsa_pkcs1_sha256" "SHA256withRSA" 511 upTo13 upTo12,
    pkcs1 0x0501 "rsa_pkcs1_sha384" "SHA384withRSA" 768 upTo13 upTo12,
    pkcs1 0x0601 "rsa_pkcs1_sha512" "SHA512withRSA" 768 upTo13 upTo12,
    plain 0x0402 "dsa_sha256" "SHA256withDSA" .dsa upTo12,
    plain 0x0303 "ecdsa_sha224" "SHA224withECDSA" .ec upTo12,
    pkcs1 0x0301 "rsa_sha224" "SHA224withRSA" 511 upTo12 upTo12,
    plain 0x0302 "dsa_sha224" "SHA224withDSA" .dsa upTo12,
    plain 0x0203 "ecdsa_sha1" "SHA1withECDSA" .ec upTo13,
    pkcs1 0x0201 "rsa_pkcs1_sha1" "SHA1withRSA" 511 upTo13 upTo12,
    plain 0x0202 "dsa_sha1" "SHA1withDSA" .dsa upTo12,
    pkcs1 0x0101 "rsa_md5" "MD5withRSA" 511 upTo12 upTo12 ]

/-- The known scheme with an identifier. -/
def ofId? (id : UInt16) : Option Definition :=
  table.find? (·.id == id)

/-- The known scheme with a name, up to the case of letters. -/
def ofName? (name : String) : Option Definition :=
  table.find? fun d => Text.sameLetters d.name name

end Definition

/-! ### Names of identifiers -/

/-- The number of bytes of an identifier on the wire. -/
def idSize : Nat := 2

/-- The digests of TLS 1.2, by their number. -/
def pairedHashes : List String :=
  ["none", "md5", "sha1", "sha224", "sha256", "sha384", "sha512"]

/-- The signature algorithms of TLS 1.2, by their number. -/
def pairedSignatures : List String :=
  ["anonymous", "rsa", "dsa", "ecdsa"]

/-- The number of SHA-224 among the digests of TLS 1.2. -/
def sha224HashByte : UInt8 := 3

/-- The name at a place of a list, or the number of the place with a label. -/
def nameAt (names : List String) (label : String) (n : Nat) : String :=
  match names[n]? with
  | some name => name
  | none => label ++ "(" ++ n.repr ++ ")"

/-- The name of an identifier read as a pair of bytes: the signature, then the digest. -/
def pairName (id : UInt16) : String :=
  nameAt pairedSignatures "UNDEFINED-SIGNATURE" (id.toNat % 256) ++ "_" ++
    nameAt pairedHashes "UNDEFINED-HASH" (id.toNat / 256)

/-- The name of an identifier, known or not. -/
def nameOfId (id : UInt16) : String :=
  match Definition.ofId? id with
  | some d => d.name
  | none => pairName id

end SchemeNegotiation
