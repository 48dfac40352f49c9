import SchemeNegotiation.Proofs.Candidates

/-!
# Sizes of keys

The least size of a scheme is held against the size of RSA keys alone, and every scheme for them has
one. A longer RSA key can sign with whatever a shorter one can sign with, so it is served at the
same place of the candidates or before it, and a key of unknown size is served nowhere. Of all other
keys the size does not matter (`Selector.sizePolicy_selectSigner`).
-/

namespace SchemeNegotiation

/-- A key to which limits on the size of keys apply. -/
def PrivateKey.IsRsa (k : PrivateKey) : Prop :=
  ∃ algorithm, k.keyAlgorithm? = some algorithm ∧ algorithm.isRsaFamily = true

/-- Two possessions of an external key that differ in the size of the key alone. -/
inductive Possession.Resized (b c : Option UInt32) : Possession → Possession → Prop where
  | external (k : ExternalKey) (certificate : Option EcParameters) :
    Resized b c ⟨.external { k with bits := b }, certificate⟩
      ⟨.external { k with bits := c }, certificate⟩

/-- A provider that makes signers for one key just when it makes them for the other. -/
def Provider.Serves (provider : Provider) (k l : PrivateKey) : Prop :=
  ∀ algorithm params, (∃ signer, provider.newSigner algorithm params k = .ok signer) ↔
    ∃ signer, provider.newSigner algorithm params l = .ok signer

/-- If a provider serves two keys alike, it does so in either order. -/
lemma Provider.Serves.symm {provider : Provider} {k l : PrivateKey} (serves : provider.Serves k l) :
    provider.Serves l k := by
  intro algorithm params
  exact (serves algorithm params).symm

/-- Every scheme of the table for RSA keys has a least size, and none is below 511 bits. -/
lemma Definition.exists_minimalKeySize {d : Definition} (known : d ∈ table)
    (rsa : d.keyAlgorithm.isRsaFamily = true) :
    ∃ least, d.minimalKeySize = some least ∧ 511 ≤ least := by
  have every : ∀ e ∈ table, e.keyAlgorithm.isRsaFamily → e.minimalKeySize.any (511 ≤ ·) := by
    decide
  have limited := every d known rsa
  cases size : d.minimalKeySize with
  | none => simp [size] at limited
  | some least =>
    rw [size, Option.any_some, decide_eq_true_iff] at limited
    exact ⟨least, rfl, limited⟩

namespace Scheme

variable {s : Scheme} {size larger : UInt32}

/-- A size is accepted when it is no less than the least size, if there is one. -/
lemma acceptsKeySize_iff :
    s.acceptsKeySize size = true ↔
      ∀ least, s.definition.minimalKeySize = some least → least ≤ size := by
  unfold acceptsKeySize
  cases s.definition.minimalKeySize <;> simp

/-- With a size, every larger one is accepted. -/
lemma acceptsKeySize_mono (le : size ≤ larger) (accepts : s.acceptsKeySize size = true) :
    s.acceptsKeySize larger = true := by
  rw [acceptsKeySize_iff] at accepts ⊢
  intro least limit
  exact UInt32.le_trans (accepts least limit) le

end Scheme

namespace Possession.Resized

variable {b c : Option UInt32} {p q : Possession}

/-- A resized key can be given its size back. -/
lemma symm (resized : Resized b c p q) : Resized c b q p := by
  cases resized with
  | external k certificate => exact .external k certificate

/-- The resized key is for the same algorithm. -/
lemma keyAlgorithm? (resized : Resized b c p q) :
    q.privateKey.keyAlgorithm? = p.privateKey.keyAlgorithm? := by
  cases resized with
  | external => rfl

/-- The resized key has the same domain parameters. -/
lemma ecParameters (resized : Resized b c p q) : q.ecParameters = p.ecParameters := by
  cases resized with
  | external => rfl

/-- Before it is resized, the key has the first of the two sizes. -/
lemma size? (resized : Resized b c p q) : p.privateKey.size? = b := by
  cases resized with
  | external => rfl

end Possession.Resized

namespace Selector

variable {sel : Selector} {b c : Option UInt32} {p q : Possession} {v : Version} {s : Scheme}

/-- What a key can sign with, the resized one can sign with if its size is accepted. -/
lemma exists_signs_of_resized (resized : Possession.Resized b c p q)
    (serves : sel.registry.provider.Serves p.privateKey q.privateKey)
    (accepts : p.privateKey.keyAlgorithm? = some s.keyAlgorithm →
      s.keyAlgorithm.isRsaFamily = true → s.acceptsKeySize (b.getD 0) = true →
        s.acceptsKeySize (c.getD 0) = true)
    (signs : ∃ signer, sel.Signs p v s signer) : ∃ signer, sel.Signs q v s signer := by
  rw [exists_signs_iff_made] at signs ⊢
  obtain ⟨⟨available, inHandshake, keyAlgorithm, size⟩, curve, made⟩ := signs
  refine ⟨⟨available, inHandshake, ?_, ?_⟩, ?_, (serves _ _).1 made⟩
  · rw [resized.keyAlgorithm?]
    exact keyAlgorithm
  · intro rsa
    have small := size rsa
    rw [resized.size?] at small
    rw [resized.symm.size?]
    exact accepts keyAlgorithm rsa small
  · exact (onCurve_congr resized.ecParameters).2 curve

/-- The size of a key that is not an RSA key does not matter. -/
lemma exists_signs_of_not_isRsa (resized : Possession.Resized b c p q)
    (serves : sel.registry.provider.Serves p.privateKey q.privateKey)
    (other : ¬ p.privateKey.IsRsa) (signs : ∃ signer, sel.Signs p v s signer) :
    ∃ signer, sel.Signs q v s signer := by
  apply exists_signs_of_resized resized serves _ signs
  intro keyAlgorithm rsa
  exact absurd ⟨_, keyAlgorithm, rsa⟩ other

/-- An RSA key signs with a scheme that has a least size, and the key is known to have it. -/
lemma Signs.exists_size {signer : Signer} (signs : sel.Signs p v s signer)
    (known : s.definition ∈ Definition.table) (rsa : p.privateKey.IsRsa) :
    ∃ least bits, s.definition.minimalKeySize = some least ∧ p.privateKey.size? = some bits ∧
      511 ≤ least ∧ least ≤ bits := by
  obtain ⟨algorithm, parsed, family⟩ := rsa
  rw [signs.keyAlgorithm] at parsed
  cases parsed
  obtain ⟨least, limit, bound⟩ := Definition.exists_minimalKeySize known family
  have enough := Scheme.acceptsKeySize_iff.1 (signs.size family) least limit
  cases size : p.privateKey.size? with
  | none =>
    rw [size] at enough
    exact absurd (UInt32.le_trans bound enough) (by decide)
  | some bits =>
    rw [size] at enough
    exact ⟨least, bits, limit, rfl, bound, enough⟩

/-- What the sizes of keys have to do with which of some candidates is selected. -/
structure SizePolicy (sel : Selector) (candidates : List Scheme) (v : Version) : Prop where
  /-- A longer RSA key is served at the same place or before it; unknown sizes count as nothing. -/
  monotone : ∀ b c p q, Possession.Resized b c p q → p.privateKey.IsRsa → b.getD 0 ≤ c.getD 0 →
    sel.registry.provider.Serves p.privateKey q.privateKey →
      ∀ i s signer, sel.StopsAt candidates p v i s signer →
        ∃ j t other, sel.StopsAt candidates q v j t other ∧ j ≤ i
  /-- What is selected for an RSA key has a least size, and the key is known to have it. -/
  strict : (∀ s ∈ candidates, s.definition ∈ Definition.table) →
    ∀ p : Possession, p.privateKey.IsRsa →
      ∀ s signer, (sel.selectSigner candidates p v).value = some (s, signer) →
        ∃ least bits, s.definition.minimalKeySize = some least ∧
          p.privateKey.size? = some bits ∧ least ≤ bits
  /-- An RSA key of unknown size, or of fewer than 511 bits, is served nowhere. -/
  tooSmall : (∀ s ∈ candidates, s.definition ∈ Definition.table) →
    ∀ p : Possession, p.privateKey.IsRsa → (∀ bits, p.privateKey.size? = some bits → bits < 511) →
      (sel.selectSigner candidates p v).value = none
  /-- Keys that are not RSA keys are served at the same place, whatever their sizes are. -/
  indifferent : ∀ b c p q, Possession.Resized b c p q → ¬ p.privateKey.IsRsa →
    sel.registry.provider.Serves p.privateKey q.privateKey →
      ∀ i s, (∃ signer, sel.StopsAt candidates p v i s signer) ↔
        ∃ signer, sel.StopsAt candidates q v i s signer

/-- Sizes matter for RSA keys alone, and there more bits never serve worse. -/
theorem sizePolicy_selectSigner (sel : Selector) (candidates : List Scheme) (v : Version) :
    sel.SizePolicy candidates v where
  monotone b c p q resized rsa le serves i s signer stops := by
    have first := exists_stopsAt_iff.1 ⟨signer, stops⟩
    have more : ∀ t ∈ candidates, (∃ signer, sel.Signs p v t signer) →
        ∃ signer, sel.Signs q v t signer := by
      intro t _ signs
      apply exists_signs_of_resized resized serves _ signs
      intro _ _ accepts
      exact Scheme.acceptsKeySize_mono le accepts
    obtain ⟨j, t, earlier, before⟩ := first.exists_le more
    obtain ⟨other, stops⟩ := exists_stopsAt_iff.2 earlier
    exact ⟨j, t, other, stops, before⟩
  strict known p rsa s signer selected := by
    obtain ⟨i, first, signs⟩ := value_selectSigner_eq_some.1 selected
    have mem := List.mem_of_getElem? first.entry
    obtain ⟨least, bits, limit, size, -, enough⟩ := signs.exists_size (known s mem) rsa
    exact ⟨least, bits, limit, size, enough⟩
  tooSmall known p rsa small := by
    rw [value_selectSigner_eq_none]
    rintro s mem ⟨signer, signs⟩
    obtain ⟨least, bits, -, size, bound, enough⟩ := signs.exists_size (known s mem) rsa
    exact UInt32.not_le.2 (small bits size) (UInt32.le_trans bound enough)
  indifferent b c p q resized other serves i s := by
    have others : ¬ q.privateKey.IsRsa := by
      rintro ⟨algorithm, parsed, family⟩
      rw [resized.keyAlgorithm?] at parsed
      exact other ⟨algorithm, parsed, family⟩
    rw [exists_stopsAt_iff, exists_stopsAt_iff]
    apply FirstAt.congr
    intro t _
    constructor
    · exact exists_signs_of_not_isRsa resized serves other
    · exact exists_signs_of_not_isRsa resized.symm serves.symm others

/-- Of four candidates whose least sizes fall, a longer key gets an earlier one. -/
example :
    let r := (Registry.build .echo .nothing).value
    let candidates := [0x0806, 0x0501, 0x0804, 0x0401].filterMap r.ofId?
    let served (bits : Option UInt32) :=
      ((ofRegistry r).selectSigner candidates ⟨.external ⟨"RSA", bits, none, []⟩, none⟩
        .tls12).value.map fun selection => selection.1.id
    [none, some 510, some 511, some 600, some 800].map served =
      [none, none, some 0x0401, some 0x0804, some 0x0501] := by
  decide

end Selector

end SchemeNegotiation
