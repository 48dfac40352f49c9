import SchemeNegotiation.Proofs.BuiltinProvider

/-!
# The answers of the built-in provider

The built-in provider is asked about an algorithm in three ways: whether it has it, for a signer of
it, and for a verifier. An algorithm is known by its name in any case, and the name says which kinds
of key it takes (`Builtin.Takes`). A signer or a verifier is made when there are no parameters and
the algorithm takes the kind of the key, and each refusal has its own cause (`Builtin.Refusal`). So
the three answers never contradict one another (`Builtin.consistent_ofSuite`).
-/

namespace SchemeNegotiation

open Crypto

/-- The kind of a private key, unless it is held elsewhere. -/
def PrivateKey.kind? : PrivateKey → Option KeyKind
  | ed25519 _ => some .ed25519
  | ecdsa c _ => some (.ecdsa c)
  | external _ => none

/-- The kind of a public key, unless it is held elsewhere. -/
def PublicKey.kind? : PublicKey → Option KeyKind
  | ed25519 _ => some .ed25519
  | ecdsa c _ => some (.ecdsa c)
  | external _ => none

/-- Two signers make the same signatures. -/
def Signer.SameSignatures (s t : Signer) : Prop :=
  ∀ chunks, s.signChunks chunks = t.signChunks chunks

/-- Two verifiers come to the same verdicts. -/
def Verifier.SameVerdicts (v w : Verifier) : Prop :=
  ∀ chunks signature, v.verifyChunks chunks signature = w.verifyChunks chunks signature

/-- The two keys of a pair are of one kind. -/
lemma PrivateKey.kind?_publicKey? {key : PrivateKey} {publicKey : PublicKey}
    (held : key.publicKey? = some publicKey) : publicKey.kind? = key.kind? := by
  cases key <;> cases held <;> rfl

/-- There are private keys of every kind. -/
lemma PrivateKey.exists_kind?_eq (kind : KeyKind) : ∃ key : PrivateKey, key.kind? = some kind := by
  cases kind with
  | ed25519 => exact ⟨.ed25519 ⟨List.replicate 32 0, rfl⟩, rfl⟩
  | ecdsa c =>
    have order : 1 < c.order := by cases c <;> decide
    exact ⟨.ecdsa c ⟨1, Nat.one_pos, order⟩, rfl⟩

namespace Builtin

open Text

/-- The kinds of key that an algorithm takes, which is known by its name in any case. -/
inductive Takes (algorithm : String) : KeyKind → Prop where
  | ed25519 (named : upper algorithm = upper "Ed25519") : Takes algorithm .ed25519
  | ecdsa (c : Curve) {name : String}
    (listed : name ∈ ["SHA224withECDSA", "SHA256withECDSA", "SHA384withECDSA"])
    (named : upper algorithm = upper name) : Takes algorithm (.ecdsa c)

/--
Why a provider makes nothing for a key of some kind, and the error for each reason. Parameters come
before the algorithm, and the algorithm before the key.
-/
inductive Refusal (provider : Provider) (algorithm : String) (params : Option PssParams)
    (kind? : Option KeyKind) (otherKey : Error) : Error → Prop where
  | parameters (given : params.isSome = true) :
    Refusal provider algorithm params kind? otherKey
      (.unsupportedAlgorithm (algorithm ++ " with parameters"))
  | unknown (plain : params = none) (without : provider.canInstantiate algorithm = false) :
    Refusal provider algorithm params kind? otherKey (.unsupportedAlgorithm algorithm)
  | otherKey (plain : params = none) (has : provider.canInstantiate algorithm = true)
    (unfit : ¬ ∃ kind ∈ kind?, Takes algorithm kind) :
    Refusal provider algorithm params kind? otherKey otherKey

/-- Two answers that give alike things, or nothing both of them. -/
inductive Alike {α : Type} (same : α → α → Prop) : Except Error α → Except Error α → Prop where
  | made {a b : α} : same a b → Alike same (.ok a) (.ok b)
  | refused (d e : Error) : Alike same (.error d) (.error e)

/-- What the answers of a provider about an algorithm have to do with one another. -/
structure Consistent (provider : Provider) (algorithm : String) (params : Option PssParams)
    (key : PrivateKey) : Prop where
  has : provider.canInstantiate algorithm = true ↔ ∃ kind, Takes algorithm kind
  /-- A signer is made when nothing is wrong. -/
  signer : (∃ signer, provider.newSigner algorithm params key = .ok signer) ↔
    params = none ∧ provider.canInstantiate algorithm = true ∧
      ∃ kind ∈ key.kind?, Takes algorithm kind
  noSigner : ∀ e, provider.newSigner algorithm params key = .error e ↔
    Refusal provider algorithm params key.kind?
      (.keyIncompatible algorithm (key.algorithm ++ " key")) e
  /-- For the public key of the same pair, a verifier is made when a signer is. -/
  verifier : ∀ publicKey, key.publicKey? = some publicKey →
    ((∃ verifier, provider.newVerifier algorithm params publicKey = .ok verifier) ↔
      ∃ signer, provider.newSigner algorithm params key = .ok signer)
  noVerifier : ∀ publicKey, key.publicKey? = some publicKey → ∀ e,
    provider.newVerifier algorithm params publicKey = .error e ↔
      Refusal provider algorithm params key.kind?
        (.invalidKey (publicKey.algorithm ++ " cannot verify " ++ algorithm)) e
  /-- An algorithm that the provider has is of use with some key that is handled here. -/
  usable : provider.canInstantiate algorithm = true ↔
    ∃ k : PrivateKey, k.kind?.isSome = true ∧
      ∃ signer, provider.newSigner algorithm none k = .ok signer
  /-- The case of the name does not count. -/
  spelling : ∀ other, upper other = upper algorithm →
    Alike Signer.SameSignatures (provider.newSigner algorithm params key)
      (provider.newSigner other params key) ∧
    ∀ publicKey, Alike Verifier.SameVerdicts (provider.newVerifier algorithm params publicKey)
      (provider.newVerifier other params publicKey)

namespace Method

/-- The kinds of key that a method works with. -/
inductive Suits : Method → KeyKind → Prop where
  | ed25519 : Suits .ed25519 .ed25519
  | ecdsa (h : Sha2) (c : Curve) : Suits (.ecdsa h) (.ecdsa c)

/-- The signer that a method makes of a key. -/
inductive MakesSigner (suite : Suite) (algorithm : String) :
    Method → PrivateKey → Signer → Prop where
  | ed25519 (seed : Octets 32) :
    MakesSigner suite algorithm .ed25519 (.ed25519 seed) (ed25519Signer suite seed)
  | ecdsa (h : Sha2) {c : Curve} (scalar : c.Scalar) :
    MakesSigner suite algorithm (.ecdsa h) (.ecdsa c scalar) (ecdsaSigner suite algorithm h scalar)

/-- The verifier that a method makes of a key. -/
inductive MakesVerifier (suite : Suite) (algorithm : String) :
    Method → PublicKey → Verifier → Prop where
  | ed25519 (encoding : Octets 32) :
    MakesVerifier suite algorithm .ed25519 (.ed25519 encoding) (ed25519Verifier suite encoding)
  | ecdsa (h : Sha2) (c : Curve) (point : Curve.Point) :
    MakesVerifier suite algorithm (.ecdsa h) (.ecdsa c point)
      (ecdsaVerifier suite algorithm h c point)

variable {suite : Suite} {algorithm : String} {m : Method}

/-- A method makes a signer of a key when it works with keys of that kind. -/
lemma exists_makesSigner_iff {key : PrivateKey} :
    (∃ signer, m.MakesSigner suite algorithm key signer) ↔ ∃ kind ∈ key.kind?, m.Suits kind := by
  constructor
  · rintro ⟨signer, made⟩
    cases made with
    | ed25519 seed => exact ⟨_, rfl, .ed25519⟩
    | @ecdsa h c scalar => exact ⟨_, rfl, .ecdsa h c⟩
  · rintro ⟨kind, held, suits⟩
    cases suits with
    | ed25519 =>
      cases key <;> cases held
      exact ⟨_, .ed25519 _⟩
    | ecdsa h c =>
      cases key <;> cases held
      exact ⟨_, .ecdsa h _⟩

/-- A method makes a verifier of a key when it works with keys of that kind. -/
lemma exists_makesVerifier_iff {key : PublicKey} :
    (∃ verifier, m.MakesVerifier suite algorithm key verifier) ↔
      ∃ kind ∈ key.kind?, m.Suits kind := by
  constructor
  · rintro ⟨verifier, made⟩
    cases made with
    | ed25519 encoding => exact ⟨_, rfl, .ed25519⟩
    | ecdsa h c point => exact ⟨_, rfl, .ecdsa h c⟩
  · rintro ⟨kind, held, suits⟩
    cases suits with
    | ed25519 =>
      cases key <;> cases held
      exact ⟨_, .ed25519 _⟩
    | ecdsa h c =>
      cases key <;> cases held
      exact ⟨_, .ecdsa h c _⟩

/-- Every method works with some kind of key. -/
lemma exists_suits (m : Method) : ∃ kind, m.Suits kind := by
  cases m with
  | ed25519 => exact ⟨_, .ed25519⟩
  | ecdsa h => exact ⟨_, .ecdsa h .p256⟩

/-- The method of a name does not depend on its case. -/
lemma ofName?_congr {other : String} (same : upper other = upper algorithm) :
    ofName? other = ofName? algorithm := by
  have letters (t : String) : sameLetters other t = sameLetters algorithm t := by
    rw [sameLetters, sameLetters, same]
  simp only [ofName?, letters]

end Method

variable {suite : Suite} {algorithm : String} {params : Option PssParams}

/-- An algorithm takes the kinds of key that its method works with. -/
lemma takes_iff {kind : KeyKind} :
    Takes algorithm kind ↔ ∃ m, Method.ofName? algorithm = some m ∧ m.Suits kind := by
  constructor
  · intro takes
    cases takes with
    | ed25519 named =>
      exact ⟨.ed25519, if_pos (sameLetters_iff.2 named), .ed25519⟩
    | @ecdsa c name listed named =>
      have every : ∀ entry ∈ ecdsaNames, Method.ofName? entry.1 = some (.ecdsa entry.2) := by
        decide
      obtain ⟨⟨_, h⟩, entry, rfl⟩ : ∃ entry ∈ ecdsaNames, entry.1 = name := List.mem_map.1 listed
      exact ⟨.ecdsa h, (Method.ofName?_congr named).trans (every _ entry), .ecdsa h c⟩
  · rintro ⟨m, has, suits⟩
    unfold Method.ofName? at has
    split at has
    case isTrue named =>
      cases has
      cases suits
      exact .ed25519 (sameLetters_iff.1 named)
    case isFalse =>
      obtain ⟨entry, found, rfl⟩ := Option.map_eq_some_iff.1 has
      cases suits with
      | ecdsa h c =>
        have named := List.find?_some found
        have listed : entry.1 ∈ ecdsaNames.map Prod.fst :=
          List.mem_map_of_mem (List.mem_of_find?_eq_some found)
        exact .ecdsa c listed (sameLetters_iff.1 named)

/-- An algorithm can be instantiated when it takes keys of some kind. -/
lemma canInstantiate_iff :
    (ofSuite suite).canInstantiate algorithm = true ↔ ∃ kind, Takes algorithm kind := by
  change (Method.ofName? algorithm).isSome = true ↔ _
  rw [Option.isSome_iff_exists]
  constructor
  · rintro ⟨m, has⟩
    obtain ⟨kind, suits⟩ := m.exists_suits
    exact ⟨kind, takes_iff.2 ⟨m, has, suits⟩⟩
  · rintro ⟨kind, takes⟩
    obtain ⟨m, has, -⟩ := takes_iff.1 takes
    exact ⟨m, has⟩

/-- A refusal has one error. -/
lemma Refusal.unique {provider : Provider} {kind? : Option KeyKind} {otherKey d e : Error}
    (left : Refusal provider algorithm params kind? otherKey d)
    (right : Refusal provider algorithm params kind? otherKey e) : d = e := by
  cases left <;> cases right <;> simp_all

/--
What a request of a provider for something comes to, where a method makes it of a key: the thing, or
the error for the first that is wrong.
-/
inductive Answered {α : Type} (algorithm : String) (params : Option PssParams) (otherKey : Error)
    (makes : Method → α → Prop) : Except Error α → Prop where
  | made {m : Method} {a : α} (plain : params = none)
    (has : Method.ofName? algorithm = some m) (makes_a : makes m a) :
    Answered algorithm params otherKey makes (.ok a)
  | parameters (given : params.isSome = true) :
    Answered algorithm params otherKey makes
      (.error (.unsupportedAlgorithm (algorithm ++ " with parameters")))
  | unknown (plain : params = none) (without : Method.ofName? algorithm = none) :
    Answered algorithm params otherKey makes (.error (.unsupportedAlgorithm algorithm))
  | otherKey {m : Method} (plain : params = none) (has : Method.ofName? algorithm = some m)
    (unfit : ¬ ∃ a, makes m a) : Answered algorithm params otherKey makes (.error otherKey)

/-- An algorithm that is not known is not supported. -/
lemma method_of_unknown (without : Method.ofName? algorithm = none) :
    method algorithm none = .error (.unsupportedAlgorithm algorithm) := by
  simp [method, without]

/-- A request for a signer is answered in one of the ways that there are. -/
lemma answered_newSigner (suite : Suite) (algorithm : String) (params : Option PssParams)
    (key : PrivateKey) :
    Answered algorithm params (.keyIncompatible algorithm (key.algorithm ++ " key"))
      (fun m => m.MakesSigner suite algorithm key) (newSigner suite algorithm params key) := by
  cases params with
  | some p => exact .parameters rfl
  | none =>
    cases has : Method.ofName? algorithm with
    | none =>
      rw [newSigner, method_of_unknown has]
      exact .unknown rfl has
    | some m =>
      rw [newSigner, method_eq has]
      -- A method makes a signer of one kind of key, and the other two are refused alike.
      cases m with
      | ed25519 =>
        cases key with
        | ed25519 seed => exact .made rfl has (.ed25519 seed)
        | _ => exact .otherKey rfl has (by rintro ⟨_, ⟨⟩⟩)
      | ecdsa h =>
        cases key with
        | ecdsa c scalar => exact .made rfl has (.ecdsa h scalar)
        | _ => exact .otherKey rfl has (by rintro ⟨_, ⟨⟩⟩)

/-- A request for a verifier is answered in one of the ways that there are. -/
lemma answered_newVerifier (suite : Suite) (algorithm : String) (params : Option PssParams)
    (key : PublicKey) :
    Answered algorithm params (.invalidKey (key.algorithm ++ " cannot verify " ++ algorithm))
      (fun m => m.MakesVerifier suite algorithm key) (newVerifier suite algorithm params key) := by
  cases params with
  | some p => exact .parameters rfl
  | none =>
    cases has : Method.ofName? algorithm with
    | none =>
      rw [newVerifier, method_of_unknown has]
      exact .unknown rfl has
    | some m =>
      rw [newVerifier, method_eq has]
      cases m with
      | ed25519 =>
        cases key with
        | ed25519 encoding => exact .made rfl has (.ed25519 encoding)
        | _ => exact .otherKey rfl has (by rintro ⟨_, ⟨⟩⟩)
      | ecdsa h =>
        cases key with
        | ecdsa c point => exact .made rfl has (.ecdsa h c point)
        | _ => exact .otherKey rfl has (by rintro ⟨_, ⟨⟩⟩)

namespace Answered

variable {α : Type} {otherKey : Error} {makes : Method → α → Prop} {x : Except Error α}
  {kind? : Option KeyKind}

/-- What a request is answered with is made by a method. -/
lemma exists_makes {a : α} (answered : Answered algorithm params otherKey makes (.ok a)) :
    ∃ m, makes m a := by
  cases answered with
  | made plain has makes_a => exact ⟨_, makes_a⟩

/-- Something is made when nothing is wrong. -/
lemma exists_ok_iff (answered : Answered algorithm params otherKey makes x)
    (fits : ∀ m, (∃ a, makes m a) ↔ ∃ kind ∈ kind?, m.Suits kind) :
    (∃ a, x = .ok a) ↔ params = none ∧ ∃ kind ∈ kind?, Takes algorithm kind := by
  cases answered with
  | made plain has makes_a =>
    obtain ⟨kind, held, suits⟩ := (fits _).1 ⟨_, makes_a⟩
    exact iff_of_true ⟨_, rfl⟩ ⟨plain, kind, held, takes_iff.2 ⟨_, has, suits⟩⟩
  | parameters given =>
    refine iff_of_false (by rintro ⟨_, ⟨⟩⟩) ?_
    rintro ⟨rfl, -⟩
    cases given
  | unknown plain without =>
    refine iff_of_false (by rintro ⟨_, ⟨⟩⟩) ?_
    rintro ⟨-, kind, -, takes⟩
    obtain ⟨m, has, -⟩ := takes_iff.1 takes
    rw [without] at has
    cases has
  | otherKey plain has unfit =>
    refine iff_of_false (by rintro ⟨_, ⟨⟩⟩) ?_
    rintro ⟨-, kind, held, takes⟩
    obtain ⟨m, own, suits⟩ := takes_iff.1 takes
    obtain rfl := Option.some.inj (has.symm.trans own)
    exact unfit ((fits _).2 ⟨kind, held, suits⟩)

/-- Nothing is made for the reasons that there are. -/
lemma eq_error_iff (answered : Answered algorithm params otherKey makes x)
    (fits : ∀ m, (∃ a, makes m a) ↔ ∃ kind ∈ kind?, m.Suits kind) (e : Error) :
    x = .error e ↔ Refusal (ofSuite suite) algorithm params kind? otherKey e := by
  have reason (e : Error) (fails : x = .error e) :
      Refusal (ofSuite suite) algorithm params kind? otherKey e := by
    cases answered with
    | made => cases fails
    | parameters given =>
      cases fails
      exact .parameters given
    | unknown plain without =>
      cases fails
      exact .unknown plain (Option.isSome_eq_false_iff.2 (Option.isNone_iff_eq_none.2 without))
    | @otherKey m plain has unfit =>
      cases fails
      refine .otherKey plain (Option.isSome_iff_exists.2 ⟨m, has⟩) ?_
      rintro ⟨kind, held, takes⟩
      obtain ⟨n, own, suits⟩ := takes_iff.1 takes
      obtain rfl := Option.some.inj (has.symm.trans own)
      exact unfit ((fits _).2 ⟨kind, held, suits⟩)
  -- The other way round, where something is made there is no reason against it.
  refine ⟨reason e, fun refusal => ?_⟩
  cases result : x with
  | error d => rw [(reason d result).unique refusal]
  | ok a =>
    obtain ⟨plain, kind, held, takes⟩ := (answered.exists_ok_iff fits).1 ⟨a, result⟩
    cases refusal with
    | parameters given => simp [plain] at given
    | unknown _ without =>
      rw [canInstantiate_iff.2 ⟨kind, takes⟩] at without
      cases without
    | otherKey _ _ unfit => exact absurd ⟨kind, held, takes⟩ unfit

/-- The same request with the name in another case comes to something alike. -/
lemma alike {other : String} {failure : Error} {also : Method → α → Prop} {y : Except Error α}
    {same : α → α → Prop} (named : upper other = upper algorithm)
    (left : Answered algorithm params otherKey makes x)
    (right : Answered other params failure also y)
    (fits : ∀ m, (∃ a, makes m a) ↔ ∃ kind ∈ kind?, m.Suits kind)
    (alsoFits : ∀ m, (∃ a, also m a) ↔ ∃ kind ∈ kind?, m.Suits kind)
    (agree : ∀ m a b, makes m a → also m b → same a b) : Alike same x y := by
  have method : Method.ofName? other = Method.ofName? algorithm := Method.ofName?_congr named
  -- Both are made or both are refused, and what is made is made by one method.
  have both : (∃ b, y = .ok b) ↔ ∃ a, x = .ok a := by
    simp only [left.exists_ok_iff fits, right.exists_ok_iff alsoFits, takes_iff, method]
  cases x with
  | ok a =>
    obtain ⟨b, rfl⟩ := both.2 ⟨a, rfl⟩
    cases left with
    | @made m _ _ has makes_a =>
      cases right with
      | @made n _ _ own also_b =>
        obtain rfl := Option.some.inj ((method.symm.trans own).symm.trans has)
        exact .made (agree _ _ _ makes_a also_b)
  | error d =>
    cases y with
    | ok b =>
      obtain ⟨a, ⟨⟩⟩ := both.1 ⟨b, rfl⟩
    | error e => exact .refused d e

end Answered

section

variable {other : String}

/-- A method makes one signer of a key, apart from the name that it goes by. -/
lemma Method.MakesSigner.sameSignatures {m : Method} {key : PrivateKey} {s t : Signer}
    (left : m.MakesSigner suite algorithm key s) (right : m.MakesSigner suite other key t) :
    s.SameSignatures t := by
  intro chunks
  rw [Signer.signChunks_eq, Signer.signChunks_eq]
  cases left <;> cases right <;> rfl

/-- A method makes one verifier of a key, apart from the name that it goes by. -/
lemma Method.MakesVerifier.sameVerdicts {m : Method} {key : PublicKey} {v w : Verifier}
    (left : m.MakesVerifier suite algorithm key v) (right : m.MakesVerifier suite other key w) :
    v.SameVerdicts w := by
  intro chunks signature
  rw [Verifier.verifyChunks_eq, Verifier.verifyChunks_eq]
  cases left <;> cases right <;> rfl

end

/-- A signer that is made is made by a method. -/
lemma exists_makesSigner {key : PrivateKey} {signer : Signer}
    (made : newSigner suite algorithm params key = .ok signer) :
    ∃ m, Method.MakesSigner suite algorithm m key signer :=
  (made ▸ answered_newSigner suite algorithm params key).exists_makes

/-- A verifier that is made is made by a method. -/
lemma exists_makesVerifier {key : PublicKey} {verifier : Verifier}
    (made : newVerifier suite algorithm params key = .ok verifier) :
    ∃ m, Method.MakesVerifier suite algorithm m key verifier :=
  (made ▸ answered_newVerifier suite algorithm params key).exists_makes

/-- A signer is made of a key that the algorithm takes, and without parameters alone. -/
lemma exists_newSigner_iff {key : PrivateKey} :
    (∃ signer, newSigner suite algorithm params key = .ok signer) ↔
      params = none ∧ ∃ kind ∈ key.kind?, Takes algorithm kind :=
  (answered_newSigner suite algorithm params key).exists_ok_iff fun _ =>
    Method.exists_makesSigner_iff

/-- A verifier is made of a key that the algorithm takes, and without parameters alone. -/
lemma exists_newVerifier_iff {key : PublicKey} :
    (∃ verifier, newVerifier suite algorithm params key = .ok verifier) ↔
      params = none ∧ ∃ kind ∈ key.kind?, Takes algorithm kind :=
  (answered_newVerifier suite algorithm params key).exists_ok_iff fun _ =>
    Method.exists_makesVerifier_iff

/-- The answers of the built-in provider about every algorithm go together. -/
theorem consistent_ofSuite (suite : Suite) (algorithm : String) (params : Option PssParams)
    (key : PrivateKey) : Consistent (ofSuite suite) algorithm params key where
  has := canInstantiate_iff
  signer := by
    have known : (∃ kind ∈ key.kind?, Takes algorithm kind) →
        (ofSuite suite).canInstantiate algorithm = true := by
      rintro ⟨kind, -, takes⟩
      exact canInstantiate_iff.2 ⟨kind, takes⟩
    rw [and_iff_right_of_imp known]
    exact exists_newSigner_iff
  noSigner := (answered_newSigner suite algorithm params key).eq_error_iff fun _ =>
    Method.exists_makesSigner_iff
  verifier publicKey held := by
    have made : (∃ verifier, newVerifier suite algorithm params publicKey = .ok verifier) ↔
        params = none ∧ ∃ kind ∈ key.kind?, Takes algorithm kind := by
      rw [exists_newVerifier_iff, PrivateKey.kind?_publicKey? held]
    exact made.trans exists_newSigner_iff.symm
  noVerifier publicKey held := by
    rw [← PrivateKey.kind?_publicKey? held]
    exact (answered_newVerifier suite algorithm params publicKey).eq_error_iff fun _ =>
      Method.exists_makesVerifier_iff
  usable := by
    rw [canInstantiate_iff]
    constructor
    · rintro ⟨kind, takes⟩
      obtain ⟨k, held⟩ := PrivateKey.exists_kind?_eq kind
      exact ⟨k, held ▸ rfl, exists_newSigner_iff.2 ⟨rfl, kind, held, takes⟩⟩
    · rintro ⟨k, -, made⟩
      obtain ⟨-, kind, -, takes⟩ := exists_newSigner_iff.1 made
      exact ⟨kind, takes⟩
  spelling other named := by
    constructor
    · exact (answered_newSigner suite algorithm params key).alike named
        (answered_newSigner suite other params key) (fun _ => Method.exists_makesSigner_iff)
        (fun _ => Method.exists_makesSigner_iff) fun _ _ _ left right => left.sameSignatures right
    · intro publicKey
      exact (answered_newVerifier suite algorithm params publicKey).alike named
        (answered_newVerifier suite other params publicKey)
        (fun _ => Method.exists_makesVerifier_iff) (fun _ => Method.exists_makesVerifier_iff)
        fun _ _ _ left right => left.sameVerdicts right

/-- The case of a name does not count, and there is no P-521 here to go with SHA-512. -/
example :
    provider.canInstantiate "sha384WITHecdsa" = true ∧
      provider.canInstantiate "SHA512withECDSA" = false := by
  decide

end Builtin

end SchemeNegotiation
