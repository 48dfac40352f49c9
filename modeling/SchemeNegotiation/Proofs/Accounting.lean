import SchemeNegotiation.Policy.DenyList
import SchemeNegotiation.Proofs.Narrowing
import SchemeNegotiation.Proofs.Probing

/-!
# Accounting for what is left out

Both ways of narrowing pass through a list and keep or drop one entry after the other (`Pass`). What
happens at one entry is said in `Selector.Judged` for a scheme of the registry, and in
`Selector.Answered` for an offered identifier. A pass loses nothing: each entry is either kept or
told about once, and the constraints are consulted once about each scheme that gets as far as that.
So the log and the questions of both ways of narrowing can be read off the policy
(`Selector.accounts_of_isBuilt`).
-/

namespace SchemeNegotiation

open Registry (notices notices_append notices_asked)

/-- The question that an event is, if it is one. -/
def Event.query? : Event → Option Query
  | .asked query => some query
  | .told _ => none

/-- The questions among some events. -/
def queries (events : List Event) : List Query :=
  events.filterMap Event.query?

/-- The questions of two trails, one after the other, are those of the one and then of the other. -/
lemma queries_append (left right : List Event) :
    queries (left ++ right) = queries left ++ queries right :=
  List.filterMap_append

/-- The questions among events that are all questions are these questions. -/
lemma queries_asked (questions : List Query) : queries (questions.map .asked) = questions := by
  rw [queries, List.filterMap_map]
  exact List.filterMap_some

/-- What a notice is in the log. -/
def Notice.record (notice : Notice) : Level × String :=
  (notice.level, notice.text)

/--
A pass through a list, in which a step says what is kept for an entry, if anything, and what happens
on the way.
-/
inductive Pass {α β : Type} (step : α → Option β → List Event → Prop) :
    List α → List β → List Event → Prop where
  | nil : Pass step [] [] []
  | keep {a b l kept trail events} (here : step a (some b) trail) (rest : Pass step l kept events) :
    Pass step (a :: l) (b :: kept) (trail ++ events)
  | drop {a l kept trail events} (here : step a none trail) (rest : Pass step l kept events) :
    Pass step (a :: l) kept (trail ++ events)

namespace Pass

variable {α β : Type} {step : α → Option β → List Event → Prop} {keeps : α → Prop}
  [DecidablePred keeps] {l : List α} {kept : List β} {events : List Event}

/-- What the entries of a list come to, one by one, makes a pass through it. -/
lemma of_steps {result : α → Option β} {trail : α → List Event}
    (steps : ∀ a, step a (result a) (trail a)) :
    Pass step l (l.filterMap result) (l.flatMap trail) := by
  induction l with
  | nil => exact .nil
  | cons a rest ih =>
    have here := steps a
    cases given : result a with
    | none =>
      rw [List.filterMap_cons_none given]
      rw [given] at here
      exact .drop here ih
    | some b =>
      rw [List.filterMap_cons_some given]
      rw [given] at here
      exact .keep here ih

/-- What is kept and what is dropped is together what was passed through. -/
lemma perm {key : β → α} (pass : Pass step l kept events)
    (keyed : ∀ a b trail, step a (some b) trail → key b = a ∧ keeps a)
    (drops : ∀ a trail, step a none trail → ¬ keeps a) :
    (kept.map key ++ l.filter fun a => ¬ keeps a).Perm l := by
  induction pass with
  | nil => exact .nil
  | @keep a b l kept trail events here _ ih =>
    obtain ⟨rfl, keeping⟩ := keyed _ _ _ here
    rw [List.filter_cons_of_neg (by simpa using keeping)]
    exact ih.cons _
  | @drop a l kept trail events here _ ih =>
    rw [List.filter_cons_of_pos (by simpa using drops _ _ here)]
    exact List.perm_middle.trans (ih.cons a)

/-- If a step tells once about what it drops and is silent otherwise, then so is the pass. -/
lemma told {told : α → Notice → Prop} (pass : Pass step l kept events)
    (silent : ∀ a b trail, step a (some b) trail → keeps a ∧ notices trail = [])
    (tells : ∀ a trail, step a none trail →
      ¬ keeps a ∧ ∃ notice, notices trail = [notice] ∧ told a notice) :
    List.Forall₂ told (l.filter fun a => ¬ keeps a) (notices events) := by
  induction pass with
  | nil => exact .nil
  | keep here _ ih =>
    obtain ⟨keeping, none⟩ := silent _ _ _ here
    rw [notices_append, none, List.filter_cons_of_neg (by simpa using keeping)]
    exact ih
  | drop here _ ih =>
    obtain ⟨dropping, notice, one, about⟩ := tells _ _ here
    rw [notices_append, one, List.filter_cons_of_pos (by simpa using dropping)]
    exact .cons about ih

/-- If a step puts at most one question, then the pass puts those questions. -/
lemma queries_eq {asks : α → Option Query} (pass : Pass step l kept events)
    (asked : ∀ a result trail, step a result trail → queries trail = (asks a).toList) :
    queries events = l.filterMap asks := by
  have cons {a : α} {l : List α} {trail events : List Event}
      (here : queries trail = (asks a).toList) (rest : queries events = l.filterMap asks) :
      queries (trail ++ events) = (a :: l).filterMap asks := by
    rw [queries_append, here, rest]
    cases asking : asks a <;> simp [asking]
  induction pass with
  | nil => rfl
  | keep here _ ih => exact cons (asked _ _ _ here) ih
  | drop here _ ih => exact cons (asked _ _ _ here) ih

end Pass

namespace Selector

/-- The question to the constraints about a scheme. -/
def question (s : Scheme) : Query :=
  .permits [.signature] s.algorithm none

/-- What is asked of a scheme in a version before the constraints are consulted about it. -/
structure Listed (sel : Selector) (v : Version) (s : Scheme) : Prop where
  available : s.available = true
  inVersion : s.supports v = true
  allowed : sel.allowList.permits s = true

/-- Why an entry is left out, after which questions, and at which level that is told. -/
inductive LeftOut (sel : Selector) (active : List Version) (s : Scheme) :
    List Query → Notice → Level → Prop where
  | unsupported (out : s.available = false ∨ sel.allowList.permits s = false) :
    LeftOut sel active s [] (.unsupported s.definition) .trace
  | inactive (available : s.available = true) (allowed : sel.allowList.permits s = true)
    (idle : ∀ v ∈ active, s.supports v = false) :
    LeftOut sel active s [] (.inactive s.definition) .trace
  | disabled {v : Version} (mem : v ∈ active) (listed : sel.Listed v s)
    (refuses : sel.constraints.permits [.signature] s.algorithm none = false) :
    LeftOut sel active s [question s] (.disabled s.definition) .debug

/-- What becomes of an entry of the registry, and what happens on the way. -/
inductive Judged (sel : Selector) (active : List Version) (s : Scheme) :
    Option Scheme → List Event → Prop where
  | leftOut {questions : List Query} {notice : Notice}
    (reason : sel.LeftOut active s questions notice notice.level) :
    Judged sel active s none (questions.map .asked ++ [.told notice])
  | supported {v : Version} (mem : v ∈ active) (usable : sel.Usable v s) :
    Judged sel active s (some s) [.asked (question s)]

/-- What becomes of an offered identifier, and what happens on the way. -/
inductive Answered (sel : Selector) (v : Version) (id : UInt16) :
    Option Scheme → List Event → Prop where
  | unlisted (out : ∀ s, sel.registry.ofId? id = some s → ¬ sel.Listed v s) :
    Answered sel v id none [.told (.offerDropped (nameOfId id))]
  | refused {s : Scheme} (found : sel.registry.ofId? id = some s) (listed : sel.Listed v s)
    (refuses : sel.constraints.permits [.signature] s.algorithm none = false) :
    Answered sel v id none [.asked (question s), .told (.offerDropped (nameOfId id))]
  | usable {s : Scheme} (found : sel.registry.ofId? id = some s) (usable : sel.Usable v s) :
    Answered sel v id (some s) [.asked (question s)]

variable {sel : Selector} {active : List Version} {v : Version} {s : Scheme} {id : UInt16}

/-- The three tests before the constraints are consulted, as one condition. -/
lemma listed_iff :
    (s.available && s.supports v && sel.allowList.permits s) = true ↔ sel.Listed v s := by
  rw [Bool.and_eq_true, Bool.and_eq_true]
  constructor
  · rintro ⟨⟨available, inVersion⟩, allowed⟩
    exact ⟨available, inVersion, allowed⟩
  · intro listed
    exact ⟨⟨listed.available, listed.inVersion⟩, listed.allowed⟩

/-- A scheme is usable when it is listed and the constraints permit it. -/
lemma usable_iff : sel.Usable v s ↔
    sel.Listed v s ∧ sel.constraints.permits [.signature] s.algorithm none = true := by
  constructor
  · rintro ⟨available, inVersion, allowed, permitted⟩
    exact ⟨⟨available, inVersion, allowed⟩, permitted⟩
  · rintro ⟨⟨available, inVersion, allowed⟩, permitted⟩
    exact ⟨available, inVersion, allowed, permitted⟩

/-- Whether a scheme is listed can be decided. -/
instance : Decidable (sel.Listed v s) :=
  decidable_of_iff _ listed_iff

/-- Whether a scheme is usable can be decided. -/
instance : Decidable (sel.Usable v s) :=
  decidable_of_iff _ usable_iff.symm

/-- The schemes that offered identifiers stand for have the names of the identifiers. -/
lemma name_eq (built : sel.registry.IsBuilt) (found : sel.registry.ofId? id = some s) :
    s.name = nameOfId id := by
  have definition := built.map_definition_ofId? id
  rw [found] at definition
  rw [nameOfId, ← definition]
  rfl

/-- To ask the constraints about a scheme is to put one question. -/
@[simp]
lemma events_askConstraints (sel : Selector) (s : Scheme) :
    (sel.askConstraints s).events = [.asked (question s)] := rfl

/-- To leave a scheme out is to tell one notice. -/
@[simp]
lemma events_leaveOut (notice : Notice) : (leaveOut notice).events = [.told notice] := rfl

/-- An offered identifier is answered in one of the ways that there are. -/
lemma answered_judgeOffer (built : sel.registry.IsBuilt) :
    sel.Answered v id (sel.judgeOffer v id).value (sel.judgeOffer v id).events := by
  unfold judgeOffer
  cases found : sel.registry.ofId? id with
  | none =>
    apply Answered.unlisted
    intro s other
    rw [found] at other
    cases other
  | some s =>
    have name := name_eq built found
    by_cases listed : sel.Listed v s
    · cases permitted : sel.constraints.permits [.signature] s.algorithm none with
      | false =>
        have answered := Answered.refused found listed permitted
        simpa [listed_iff.2 listed, permitted, name] using answered
      | true =>
        have answered := Answered.usable found (usable_iff.2 ⟨listed, permitted⟩)
        simpa [listed_iff.2 listed, permitted] using answered
    · have out : ∀ t, sel.registry.ofId? id = some t → ¬ sel.Listed v t := by
        intro t same
        rw [found] at same
        cases same
        exact listed
      simpa [mt listed_iff.1 listed, name] using Answered.unlisted out

/-- An entry of the registry is kept or left out in one of the ways that there are. -/
lemma judged_judge :
    sel.Judged active s (Option.guard (fun t => (sel.judge active t).value) s)
      (sel.judge active s).events := by
  rw [Option.guard, judge]
  by_cases out : s.available = false ∨ sel.allowList.permits s = false
  · have judged : sel.Judged active s _ _ := .leftOut (.unsupported out)
    simpa [out] using judged
  · obtain ⟨available, allowed⟩ : s.available = true ∧ sel.allowList.permits s = true := by
      simpa using out
    by_cases spoken : ∃ v ∈ active, s.supports v = true
    · have any := List.any_eq_true.2 spoken
      obtain ⟨v, mem, inVersion⟩ := spoken
      have listed : sel.Listed v s := ⟨available, inVersion, allowed⟩
      cases permitted : sel.constraints.permits [.signature] s.algorithm none with
      | false =>
        have judged := Judged.leftOut (.disabled mem listed permitted)
        simpa [available, allowed, any, permitted] using judged
      | true =>
        have judged := Judged.supported mem (usable_iff.2 ⟨listed, permitted⟩)
        simpa [available, allowed, any, permitted] using judged
    · have idle : ∀ v ∈ active, s.supports v = false := by simpa using spoken
      have none : active.any s.supports = false := by simpa using idle
      have judged := Judged.leftOut (.inactive available allowed idle)
      simpa [available, allowed, none] using judged

/-- Narrowing an offer is a pass through it in which each identifier is answered. -/
lemma pass_usableOffer (built : sel.registry.IsBuilt) (v : Version) (ids : List UInt16) :
    Pass (sel.Answered v) ids (sel.usableOffer v ids).value (sel.usableOffer v ids).events := by
  have events : (sel.usableOffer v ids).events =
      ids.flatMap fun id => (sel.judgeOffer v id).events := by
    rw [← Traced.events_mapAll]
    exact List.append_nil _
  rw [value_usableOffer, events]
  exact Pass.of_steps fun id => answered_judgeOffer built

/-- Narrowing a registry is a pass through it in which each entry is judged. -/
lemma pass_supported (sel : Selector) (active : List Version) :
    Pass (sel.Judged active) sel.registry.schemes (sel.supported active).value
      (sel.supported active).events := by
  have events : (sel.supported active).events =
      sel.registry.schemes.flatMap fun s => (sel.judge active s).events :=
    Traced.events_keepIf _ _
  rw [value_supported, ← List.filterMap_eq_filter, events]
  exact Pass.of_steps fun s => judged_judge

/-- An offered identifier stands for a scheme that is usable in a version. -/
def Kept (sel : Selector) (v : Version) (id : UInt16) : Prop :=
  ∃ s, sel.registry.ofId? id = some s ∧ sel.Usable v s

/-- Whether an offered identifier is kept can be decided. -/
instance : Decidable (sel.Kept v id) :=
  decidable_of_iff ((sel.judgeOffer v id).value.isSome = true)
    (Option.isSome_iff_exists.trans (exists_congr fun _ => value_judgeOffer_eq_some))

/-- What the log and the constraints get to see when a selector narrows schemes. -/
structure Accounts (sel : Selector) : Prop where
  /-- Offered identifiers are answered one after the other. -/
  offered : ∀ v ids,
    Pass (sel.Answered v) ids (sel.usableOffer v ids).value (sel.usableOffer v ids).events
  usable : ∀ v ids, (sel.usableOffer v ids).value =
    ids.filterMap fun id => (sel.registry.ofId? id).filter fun s => sel.Usable v s
  /-- There is one warning for each identifier that is dropped, in the order of the offer. -/
  warned : ∀ v ids, (notices (sel.usableOffer v ids).events).map Notice.record =
    (ids.filter fun id => ¬ sel.Kept v id).map fun id =>
      (.warn, "Unsupported signature scheme: " ++ nameOfId id)
  /-- What is kept and what is dropped is together what was offered. -/
  conserved : ∀ v ids, ((sel.usableOffer v ids).value.map Scheme.id ++
    ids.filter fun id => ¬ sel.Kept v id).Perm ids
  /-- The constraints are consulted once for each identifier that passes all other checks. -/
  consulted : ∀ v ids, queries (sel.usableOffer v ids).events =
    (ids.filterMap fun id => (sel.registry.ofId? id).filter fun s => sel.Listed v s).map question
  /-- The entries of the registry are judged one after the other. -/
  judged : ∀ active, Pass (sel.Judged active) sel.registry.schemes
    (sel.supported active).value (sel.supported active).events
  supported : ∀ active, (sel.supported active).value =
    sel.registry.schemes.filter fun s => ∃ v ∈ active, sel.Usable v s
  /-- Each entry that is left out is told about once, with the reason, and no other is. -/
  told : ∀ active,
    List.Forall₂ (fun s notice => ∃ asked, sel.LeftOut active s asked notice notice.level)
      (sel.registry.schemes.filter fun s => ¬ ∃ v ∈ active, sel.Usable v s)
      (notices (sel.supported active).events)
  /-- The constraints are consulted once about each entry that passes all other checks. -/
  asked : ∀ active, queries (sel.supported active).events =
    (sel.registry.schemes.filter fun s => ∃ v ∈ active, sel.Listed v s).map question

section

variable {s? : Option Scheme} {trail : List Event}

/-- An identifier that comes to a scheme is the one it has, and nothing is told then. -/
lemma Answered.of_some (answered : sel.Answered v id (some s) trail) :
    s.id = id ∧ sel.Kept v id ∧ notices trail = [] := by
  cases answered with
  | usable found usable =>
    have same : s.id = id := by simpa using List.find?_some found
    exact ⟨same, ⟨s, found, usable⟩, rfl⟩

/-- An identifier that is not kept is told, by its name. -/
lemma Answered.of_none (answered : sel.Answered v id none trail) :
    ¬ sel.Kept v id ∧ notices trail = [.offerDropped (nameOfId id)] := by
  cases answered with
  | unlisted out =>
    refine ⟨?_, rfl⟩
    rintro ⟨s, found, usable⟩
    exact out s found (usable_iff.1 usable).1
  | refused found listed refuses =>
    refine ⟨?_, rfl⟩
    rintro ⟨t, other, usable⟩
    rw [found] at other
    cases other
    rw [usable.permitted] at refuses
    cases refuses

/-- The constraints are asked once about an identifier if its scheme is listed, and else not. -/
lemma Answered.queries_eq (answered : sel.Answered v id s? trail) :
    queries trail =
      (((sel.registry.ofId? id).filter fun s => sel.Listed v s).map question).toList := by
  cases answered with
  | unlisted out =>
    cases found : sel.registry.ofId? id with
    | none => rfl
    | some s =>
      rw [Option.filter_some, if_neg (by simpa using out s found)]
      rfl
  | refused found listed =>
    rw [found, Option.filter_some, if_pos (by simpa using listed)]
    rfl
  | usable found usable =>
    rw [found, Option.filter_some, if_pos (by simpa using (usable_iff.1 usable).1)]
    rfl

/-- An entry that is kept is usable in an active version, and nothing is told then. -/
lemma Judged.of_some {t : Scheme} (judged : sel.Judged active s (some t) trail) :
    (∃ v ∈ active, sel.Usable v s) ∧ notices trail = [] := by
  cases judged with
  | supported mem usable => exact ⟨⟨_, mem, usable⟩, rfl⟩

/-- An entry that is left out is usable in no active version. -/
lemma LeftOut.not_usable {questions : List Query} {notice : Notice} {level : Level}
    (reason : sel.LeftOut active s questions notice level) : ¬ ∃ v ∈ active, sel.Usable v s := by
  rintro ⟨v, mem, usable⟩
  cases reason with
  | unsupported out => simp [usable.available, usable.allowed] at out
  | inactive _ _ idle =>
    have spoken := usable.inVersion
    rw [idle v mem] at spoken
    cases spoken
  | disabled _ _ refuses =>
    rw [usable.permitted] at refuses
    cases refuses

/-- An entry that is not kept is told once, with the reason for which it is left out. -/
lemma Judged.of_none (judged : sel.Judged active s none trail) :
    (¬ ∃ v ∈ active, sel.Usable v s) ∧ ∃ notice, notices trail = [notice] ∧
      ∃ asked, sel.LeftOut active s asked notice notice.level := by
  cases judged with
  | @leftOut asked notice reason =>
    refine ⟨reason.not_usable, notice, ?_, asked, reason⟩
    rw [notices_append, notices_asked]
    rfl

/-- An entry is left out after one question if it is listed, and else without any. -/
lemma LeftOut.questions_eq {questions : List Query} {notice : Notice} {level : Level}
    (reason : sel.LeftOut active s questions notice level) :
    questions = ((Option.guard (fun s => ∃ v ∈ active, sel.Listed v s) s).map question).toList := by
  have unlisted (none : ¬ ∃ v ∈ active, sel.Listed v s) :
      [] = ((Option.guard (fun s => ∃ v ∈ active, sel.Listed v s) s).map question).toList := by
    rw [Option.guard, if_neg (by simpa using none)]
    rfl
  cases reason with
  | unsupported out =>
    apply unlisted
    rintro ⟨v, mem, listed⟩
    simp [listed.available, listed.allowed] at out
  | inactive _ _ idle =>
    apply unlisted
    rintro ⟨v, mem, listed⟩
    have spoken := listed.inVersion
    rw [idle v mem] at spoken
    cases spoken
  | disabled mem listed =>
    rw [Option.guard, if_pos (decide_eq_true ⟨_, mem, listed⟩)]
    rfl

/-- The constraints are asked once about an entry if it is listed, and else not. -/
lemma Judged.queries_eq (judged : sel.Judged active s s? trail) :
    queries trail =
      ((Option.guard (fun s => ∃ v ∈ active, sel.Listed v s) s).map question).toList := by
  cases judged with
  | leftOut reason =>
    rw [← reason.questions_eq, queries_append, queries_asked]
    exact List.append_nil _
  | supported mem usable =>
    rw [Option.guard, if_pos (decide_eq_true ⟨_, mem, (usable_iff.1 usable).1⟩)]
    rfl

end

/-- An entry is kept when it is usable in an active version. -/
lemma value_judge_iff : (sel.judge active s).value = true ↔ ∃ v ∈ active, sel.Usable v s := by
  have judged : sel.Judged active s _ _ := judged_judge
  rw [Option.guard] at judged
  cases value : (sel.judge active s).value with
  | true =>
    rw [value] at judged
    exact iff_of_true rfl judged.of_some.1
  | false =>
    rw [value] at judged
    exact iff_of_false Bool.false_ne_true judged.of_none.1

/-- The identifiers of an offer that are not kept are told in order, and nothing else is. -/
lemma notices_usableOffer (built : sel.registry.IsBuilt) (v : Version) (ids : List UInt16) :
    notices (sel.usableOffer v ids).events =
      (ids.filter fun id => ¬ sel.Kept v id).map fun id => .offerDropped (nameOfId id) := by
  have told : List.Forall₂ (fun id notice => Notice.offerDropped (nameOfId id) = notice)
      (ids.filter fun id => ¬ sel.Kept v id) (notices (sel.usableOffer v ids).events) := by
    apply (pass_usableOffer built v ids).told
    · intro id s trail answered
      exact answered.of_some.2
    · intro id trail answered
      obtain ⟨dropped, one⟩ := answered.of_none
      exact ⟨dropped, _, one, rfl⟩
  have same := List.forall₂_map_left_iff.2 told
  rw [List.forall₂_eq_eq_eq] at same
  exact same.symm

/-- Every selector on a built registry accounts for what it leaves out. -/
theorem accounts_of_isBuilt (built : sel.registry.IsBuilt) : sel.Accounts where
  offered := pass_usableOffer built
  usable v ids := by
    rw [value_usableOffer]
    apply List.filterMap_congr
    intro id _
    ext s
    rw [value_judgeOffer_eq_some, Option.filter_eq_some_iff, decide_eq_true_iff]
  warned v ids := by
    rw [notices_usableOffer built, List.map_map]
    rfl
  conserved v ids := by
    apply (pass_usableOffer built v ids).perm
    · intro id s trail answered
      obtain ⟨same, kept, -⟩ := answered.of_some
      exact ⟨same, kept⟩
    · intro id trail answered
      exact answered.of_none.1
  consulted v ids := by
    rw [(pass_usableOffer built v ids).queries_eq fun _ _ _ answered => answered.queries_eq,
      List.map_filterMap]
  judged := pass_supported sel
  supported active := by
    rw [value_supported]
    apply List.filter_congr
    intro s _
    rw [Bool.eq_iff_iff, decide_eq_true_iff]
    exact value_judge_iff
  told active := by
    apply (pass_supported sel active).told
    · intro s t trail judged
      exact judged.of_some
    · intro s trail judged
      exact judged.of_none
  asked active := by
    rw [(pass_supported sel active).queries_eq fun _ _ _ judged => judged.queries_eq,
      ← List.map_filterMap, List.filterMap_eq_filter]

/--
An echoing side without Ed25519 that allows three schemes and denies SHA-1: of six offered
identifiers one is usable, and the constraints are consulted about it and the one that they refuse.
-/
theorem accounts_of_echo :
    let r := (Registry.build .echo (.ofHashByte 8)).value
    let sel : Selector :=
      { ofRegistry r with
        allowList := .ofIds [0x0503, 0x0203, 0x0807]
        constraints := (DenyList.ofNames ["SHA1"]).constraints }
    let offer := sel.usableOffer .tls12 [0x0704, 0x0203, 0x0503, 0x0403, 0x0807, 0x0704]
    r.IsBuilt ∧ offer.value.map Scheme.id = [0x0503] ∧
      (notices offer.events).map Notice.record =
        [(.warn, "Unsupported signature scheme: UNDEFINED-SIGNATURE(4)_UNDEFINED-HASH(7)"),
          (.warn, "Unsupported signature scheme: ecdsa_sha1"),
          (.warn, "Unsupported signature scheme: ecdsa_secp256r1_sha256"),
          (.warn, "Unsupported signature scheme: ed25519"),
          (.warn, "Unsupported signature scheme: UNDEFINED-SIGNATURE(4)_UNDEFINED-HASH(7)")] ∧
      queries offer.events =
        [.permits [.signature] "SHA1withECDSA" none,
          .permits [.signature] "SHA384withECDSA" none] := by
  intro r sel offer
  have built : sel.registry.IsBuilt := .build _ _
  have accounts := accounts_of_isBuilt built
  refine ⟨built, by decide, ?_, ?_⟩
  · refine (accounts.warned .tls12 _).trans ?_
    decide
  · refine (accounts.consulted .tls12 _).trans ?_
    decide

end Selector

end SchemeNegotiation
