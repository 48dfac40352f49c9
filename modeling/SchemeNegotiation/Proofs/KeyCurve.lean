import SchemeNegotiation.Proofs.Candidates
import SchemeNegotiation.Provider.Builtin

/-!
# Curves of keys

The curve check of a selector compares the group of a scheme with the domain parameters that count
for a possession, which a certificate overrides. So the group of a selected scheme is that of the
parameters that count (`Selector.group_of_selectSigner`). It is the curve of the key that signs
just when the certificate gives no other parameters.
-/

namespace SchemeNegotiation

/-- Groups with the same domain parameters are the same. -/
lemma EcParameters.ofGroup_inj {g h : NamedGroup} : ofGroup g = ofGroup h ↔ g = h := by
  constructor
  · intro same
    have groups := SupportedGroups.groupOf_eq_some_iff.2 same.symm
    rw [SupportedGroups.groupOf_eq_some_iff.2 rfl] at groups
    exact (Option.some.inj groups).symm
  · rintro rfl
    rfl

namespace Possession

variable {possession : Possession} {c : Crypto.Curve} {scalar : c.Scalar}

/-- The parameters that count are those of the certificate, or else those of the key's curve. -/
lemma ecParameters_eq_some_iff {p : EcParameters} (key : possession.privateKey = .ecdsa c scalar) :
    possession.ecParameters = some p ↔
      possession.certificateEcParameters = some p ∨
        possession.certificateEcParameters = none ∧ p = .ofGroup c.group := by
  rw [ecParameters, Option.orElse_eq_orElse, Option.orElse_eq_or, Option.or_eq_some_iff, key,
    PrivateKey.ecParameters, Option.some_inj, eq_comm (a := p)]

/-- The parameters of the key's curve count unless the certificate gives other ones. -/
lemma ecParameters_eq_own_iff (key : possession.privateKey = .ecdsa c scalar) :
    possession.ecParameters = some (.ofGroup c.group) ↔
      ∀ p, possession.certificateEcParameters = some p → p = .ofGroup c.group := by
  rw [ecParameters_eq_some_iff key]
  cases possession.certificateEcParameters <;> simp

end Possession

namespace Selector

/-- With the named groups for groups, a scheme that is signed with has the group that counts. -/
lemma Signs.ecParameters_eq {sel : Selector} {groups : SupportedGroups} {possession : Possession}
    {v : Version} {s : Scheme} {signer : Signer} {g : NamedGroup}
    (signs : sel.Signs possession v s signer) (known : sel.groups = groups.registry)
    (bound : s.definition.group = some g) : possession.ecParameters = some (.ofGroup g) := by
  -- Which groups are enabled does not matter: it is not asked for schemes with a group.
  have counts := signs.curve.bound g bound
  obtain ⟨p, given, group⟩ := Option.bind_eq_some_iff.1 counts
  rw [known] at group
  rw [given, SupportedGroups.groupOf_eq_some_iff.1 group]

/--
When a scheme with a group is selected for a key on a curve, the signer is one for that key, and
the group is that of the parameters that count. It is the group of the curve exactly when the
certificate gives no parameters but those of the curve.
-/
theorem group_of_selectSigner {sel : Selector} {groups : SupportedGroups}
    {candidates : List Scheme} {possession : Possession} {v : Version} {c : Crypto.Curve}
    {scalar : c.Scalar} {s : Scheme} {signer : Signer} {g : NamedGroup}
    (known : sel.groups = groups.registry) (key : possession.privateKey = .ecdsa c scalar)
    (selected : (sel.selectSigner candidates possession v).value = some (s, signer))
    (bound : s.definition.group = some g) :
    sel.registry.provider.newSigner s.algorithm s.params (.ecdsa c scalar) = .ok signer ∧
      possession.ecParameters = some (.ofGroup g) ∧
        (g = c.group ↔
          ∀ p, possession.certificateEcParameters = some p → p = .ofGroup c.group) := by
  obtain ⟨i, -, signs⟩ := value_selectSigner_eq_some.1 selected
  have counts := signs.ecParameters_eq known bound
  refine ⟨?_, counts, ?_⟩
  · rw [← key]
    exact signs.made
  · rw [← Possession.ecParameters_eq_own_iff key, counts, Option.some_inj,
      EcParameters.ofGroup_inj]

/-- For a P-384 key without a certificate, P-256 is passed over and P-384 is selected. -/
theorem group_of_selectSigner_own :
    let sel := ofRegistry (Registry.build Builtin.provider .nothing).value
    let key : PrivateKey := .ecdsa .p384 ⟨5, by decide, by decide⟩
    let other : Scheme :=
      ⟨.boundEcdsa 0x0403 "ecdsa_secp256r1_sha256" "SHA256withECDSA" .secp256r1, true⟩
    let s : Scheme :=
      ⟨.boundEcdsa 0x0503 "ecdsa_secp384r1_sha384" "SHA384withECDSA" .secp384r1, true⟩
    ∃ signer, (sel.selectSigner [other, s] ⟨key, none⟩ .tls13).value = some (s, signer) ∧
      sel.registry.provider.newSigner s.algorithm s.params key = .ok signer ∧
        s.definition.group = some Crypto.Curve.p384.group := by
  intro sel key other s
  have chosen : (sel.selectSigner [other, s] ⟨key, none⟩ .tls13).value.map Prod.fst = some s := by
    decide
  obtain ⟨⟨_, signer⟩, selected, rfl⟩ := Option.map_eq_some_iff.1 chosen
  have known : sel.groups = SupportedGroups.all.registry := rfl
  have bound : s.definition.group = some .secp384r1 := rfl
  obtain ⟨made, -, own⟩ := group_of_selectSigner known rfl selected bound
  refine ⟨signer, selected, made, ?_⟩
  rw [bound, own.2 (by simp)]

/-- For a P-256 key with a certificate for P-384, a scheme for P-384 is selected. -/
theorem other_group_of_certificate :
    let sel := ofRegistry (Registry.build Builtin.provider .nothing).value
    let possession : Possession :=
      ⟨.ecdsa .p256 ⟨5, by decide, by decide⟩, some (.ofGroup .secp384r1)⟩
    let s : Scheme :=
      ⟨.boundEcdsa 0x0503 "ecdsa_secp384r1_sha384" "SHA384withECDSA" .secp384r1, true⟩
    s ∈ sel.registry.schemes ∧
      (sel.selectSigner [s] possession .tls13).value.map Prod.fst = some s ∧
        s.definition.group = some .secp384r1 ∧ NamedGroup.secp384r1 ≠ Crypto.Curve.p256.group := by
  decide

end Selector

end SchemeNegotiation
