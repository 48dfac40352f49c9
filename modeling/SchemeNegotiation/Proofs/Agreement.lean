import SchemeNegotiation.Proofs.Negotiation

/-!
# Agreement

Two parties, each with a registry and a policy of its own: one offers the schemes that it supports,
the other chooses a scheme of the offer to sign with. Whatever is chosen, the offering side has the
same scheme, supports it and can verify it (`Selector.agreement`).
-/

namespace SchemeNegotiation

/-- An available scheme has a verifier for every key, unless the provider fails. -/
lemma Scheme.value_verifier_ne_none {s : Scheme} (available : s.available = true)
    (provider : Provider) (key : PublicKey) : (s.verifier provider key).value ≠ .ok none := by
  unfold Scheme.verifier
  cases provider.newVerifier s.algorithm s.params key <;>
    simp [available, Except.mapError, Except.map]

namespace Selector

/-- What a party that offered its schemes makes of the one that the other side signs with. -/
structure Agrees (verifying : Selector) (active : List Version) (v : Version)
    (possession : Possession) (s c : Scheme) : Prop where
  /-- The identifier of the scheme resolves. -/
  found : verifying.registry.ofId? s.id = some c
  /-- The scheme is one of those offered. -/
  offered : c ∈ (verifying.supported active).value
  available : c.available = true
  /-- The two sides mean the same scheme. -/
  definition : c.definition = s.definition
  verifiable : ∀ key, (verifying.verifier c key).value ≠ .ok none
  /-- With a certificate for such keys, verification prefers this scheme or one before it. -/
  preferred : ∀ certificate : Scheme,
    possession.privateKey.keyAlgorithm? = some certificate.keyAlgorithm →
      ∃ (i : Nat) (chosen : Scheme),
        negotiateVerification (verifying.supported active).value certificate v = .ok chosen ∧
          (verifying.supported active).value[i]? = some chosen ∧
            ∀ j : Nat, (verifying.supported active).value[j]? = some c → i ≤ j

/-- What is chosen from an offer is negotiable for one of the offered identifiers. -/
lemma negotiable_of_negotiateSigner {sel : Selector} {possession : Possession} {v : Version}
    {ids : List UInt16} {s : Scheme} {signer : Signer}
    (chosen : (sel.negotiateSigner (sel.usableOffer v ids).value possession v).value =
      .ok (s, signer)) :
    ∃ id ∈ ids, sel.Negotiable possession v id s signer := by
  rw [value_negotiateSigner_eq_ok, value_selectSigner_usableOffer] at chosen
  obtain ⟨id, mem, answered⟩ := List.exists_of_findSome?_eq_some chosen
  exact ⟨id, mem, (answer_eq_some_iff id (s, signer)).1 answered⟩

/--
The scheme that one side chooses to sign with, from the schemes that the other side supports, is
one that the other side agrees on.
-/
theorem agreement {verifying signing : Selector} {active : List Version} {v : Version}
    {possession : Possession} {s : Scheme} {signer : Signer}
    (builtV : verifying.registry.IsBuilt) (builtS : signing.registry.IsBuilt)
    (chosen :
      (signing.negotiateSigner
        (signing.usableOffer v ((verifying.supported active).value.map Scheme.id)).value
        possession v).value = .ok (s, signer)) :
    ∃ c, verifying.Agrees active v possession s c := by
  obtain ⟨id, mem, negotiable⟩ := negotiable_of_negotiateSigner chosen
  obtain ⟨c, offered, rfl⟩ := List.mem_map.1 mem
  obtain ⟨entry, _, _, usable⟩ := mem_supported.1 offered
  have resolved := builtS.ofId?_eq_some_iff.1 negotiable.resolved
  have definition := builtV.definition_eq builtS entry resolved.1 resolved.2.symm
  have found := builtV.ofId?_eq_some_iff.2 ⟨entry, resolved.2.symm⟩
  refine ⟨c, found, offered, usable.available, definition,
    Scheme.value_verifier_ne_none usable.available _, ?_⟩
  intro certificate sameKeys
  -- The offered scheme differs from the chosen one at most in its availability.
  have accepted : Verifies certificate v c := by
    obtain ⟨-, inHandshake, keyAlgorithm⟩ := negotiable.signs.verifies sameKeys
    refine ⟨usable.available, ?_, ?_⟩
    · rw [Scheme.supportsHandshake, definition]
      exact inHandshake
    · rw [Scheme.keyAlgorithm, definition]
      exact keyAlgorithm
  obtain ⟨i, preferred, first⟩ := FirstAt.exists_of_mem offered accepted
  refine ⟨i, preferred, negotiateVerification_eq_ok_iff.2 ⟨i, first⟩, first.entry, ?_⟩
  intro j place
  exact first.le place accepted

/-- Two echoing sides agree on P-384, though the signing side excludes the EdDSA schemes. -/
theorem agreement_of_echo :
    let verifying := ofRegistry (Registry.build .echo .nothing).value
    let signing := ofRegistry (Registry.build .echo (.ofHashByte 8)).value
    let offer := (verifying.supported [.tls13]).value.map Scheme.id
    let possession : Possession := ⟨.external ⟨"EC", none, some (.ofGroup .secp384r1), []⟩, none⟩
    let s : Scheme :=
      ⟨.boundEcdsa 0x0503 "ecdsa_secp384r1_sha384" "SHA384withECDSA" .secp384r1, true⟩
    ∃ signer,
      (signing.negotiateSigner (signing.usableOffer .tls13 offer).value possession .tls13).value =
          .ok (s, signer) ∧
        ∃ c, verifying.Agrees [.tls13] .tls13 possession s c := by
  intro verifying signing offer possession s
  have first : (signing.selectSigner (signing.usableOffer .tls13 offer).value possession
      .tls13).value.map Prod.fst = some s := by decide
  obtain ⟨⟨_, signer⟩, selected, rfl⟩ := Option.map_eq_some_iff.1 first
  have chosen := value_negotiateSigner_eq_ok.2 selected
  exact ⟨signer, chosen, agreement (.build _ _) (.build _ _) chosen⟩

end Selector

end SchemeNegotiation
