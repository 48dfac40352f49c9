import SchemeNegotiation.Algorithm
import SchemeNegotiation.Diagnostics.Notice
import SchemeNegotiation.Key.Private

/-!
# Traced values

A computation that asks its collaborators and tells the log is a value with the list of what
happened, in order. Everything asked is in the list, together with everything told. Computations
are put together by appending their lists, and the combinators over lists say so: `events_mapAll`,
`events_keepIf`, and `events_firstSome`.
-/

namespace SchemeNegotiation

/-- A question to a collaborator. -/
inductive Query where
  /-- Asks the provider for elliptic curves. -/
  | ecAvailable
  /-- Asks the provider for an algorithm. -/
  | canInstantiate (algorithm : String)
  /-- Asks the exclusion about a scheme. -/
  | excludes (scheme : Definition)
  /-- Asks the constraints about an algorithm. -/
  | permits (primitives : List Primitive) (algorithm : String) (params : Option PssParams)
  /-- Asks the group registry for the group of some domain parameters. -/
  | groupOf (params : EcParameters)
  /-- Asks the group registry whether a group is enabled. -/
  | isSupported (group : NamedGroup)
  /-- Asks the provider for a signer. -/
  | newSigner (algorithm : String) (params : Option PssParams) (key : PrivateKey)
  /-- Asks the provider for a verifier. -/
  | newVerifier (algorithm : String) (params : Option PssParams) (key : PublicKey)
  deriving DecidableEq

/-- Something that happened: a question to a collaborator, or a notice to the log. -/
inductive Event where
  | asked (query : Query)
  | told (notice : Notice)
  deriving DecidableEq

/-- A value with what happened on the way to it. -/
structure Traced (α : Type) where
  events : List Event
  value : α
  deriving DecidableEq

namespace Traced

variable {α β : Type}

/-- Asks a question whose answer is known. -/
def ask (query : Query) (answer : α) : Traced α := ⟨[.asked query], answer⟩

/-- Tells the log. -/
def tell (notice : Notice) : Traced Unit := ⟨[.told notice], ()⟩

/-- Of two traced values, one after the other, what happened is appended. -/
instance : Monad Traced where
  pure a := ⟨[], a⟩
  bind x f := ⟨x.events ++ (f x.value).events, (f x.value).value⟩

/-- Doing nothing changes nothing, and it makes no difference how steps are grouped. -/
instance : LawfulMonad Traced := LawfulMonad.mk' Traced
  (fun x => by cases x; simp [Functor.map])
  (fun a f => by simp [Bind.bind, Pure.pure])
  (fun x f g => by simp [Bind.bind])

/-- Nothing happens on the way to a plain value. -/
@[simp]
theorem events_pure (a : α) : (pure a : Traced α).events = [] := rfl

/-- A plain value is the value. -/
@[simp]
theorem value_pure (a : α) : (pure a : Traced α).value = a := rfl

/-- What happens in a sequence is what happens in its first and then in its second part. -/
@[simp]
theorem events_bind (x : Traced α) (f : α → Traced β) :
    (x >>= f).events = x.events ++ (f x.value).events := rfl

/-- The value of a sequence is that of its second part. -/
@[simp]
theorem value_bind (x : Traced α) (f : α → Traced β) : (x >>= f).value = (f x.value).value := rfl

/-- Changing the value does not change what happened. -/
@[simp]
theorem events_map (f : α → β) (x : Traced α) : (f <$> x).events = x.events := by
  simp [Functor.map]

/-- Changing the value changes the value. -/
@[simp]
theorem value_map (f : α → β) (x : Traced α) : (f <$> x).value = f x.value := rfl

/-- Asking a question is one event. -/
@[simp]
theorem events_ask (query : Query) (answer : α) : (ask query answer).events = [.asked query] := rfl

/-- The answer to a question is the value. -/
@[simp]
theorem value_ask (query : Query) (answer : α) : (ask query answer).value = answer := rfl

/-- Telling the log is one event. -/
@[simp]
theorem events_tell (notice : Notice) : (tell notice).events = [.told notice] := rfl

/-- Works on every entry of a list, in order. -/
def mapAll (f : α → Traced β) : List α → Traced (List β)
  | [] => pure []
  | a :: rest => do
    let b ← f a
    let bs ← mapAll f rest
    return b :: bs

/-- Keeps the entries of a list that are judged right, in order. -/
def keepIf (judge : α → Traced Bool) : List α → Traced (List α)
  | [] => pure []
  | a :: rest => do
    let keep ← judge a
    let kept ← keepIf judge rest
    return if keep then a :: kept else kept

/-- Works on the entries of a list until one gives a result. -/
def firstSome (attempt : α → Traced (Option β)) : List α → Traced (Option β)
  | [] => pure none
  | a :: rest => do
    match ← attempt a with
    | some b => return some b
    | none => firstSome attempt rest

/-- What happens over a list is what happens over its entries. -/
theorem events_mapAll (f : α → Traced β) (l : List α) :
    (mapAll f l).events = l.flatMap fun a => (f a).events := by
  induction l with
  | nil => rfl
  | cons a rest ih => simp [mapAll, ih]

/-- The results over a list are the results over its entries. -/
theorem value_mapAll (f : α → Traced β) (l : List α) :
    (mapAll f l).value = l.map fun a => (f a).value := by
  induction l with
  | nil => rfl
  | cons a rest ih => simp [mapAll, ih]

/-- What happens over a list is what happens over its entries, kept or not. -/
theorem events_keepIf (judge : α → Traced Bool) (l : List α) :
    (keepIf judge l).events = l.flatMap fun a => (judge a).events := by
  induction l with
  | nil => rfl
  | cons a rest ih => simp [keepIf, ih]

/-- The entries kept are those judged right. -/
theorem value_keepIf (judge : α → Traced Bool) (l : List α) :
    (keepIf judge l).value = l.filter fun a => (judge a).value := by
  induction l with
  | nil => rfl
  | cons a rest ih => cases h : (judge a).value <;> simp [keepIf, ih, h]

/-- The result over a list is the first result over its entries. -/
theorem value_firstSome (attempt : α → Traced (Option β)) (l : List α) :
    (firstSome attempt l).value = l.findSome? fun a => (attempt a).value := by
  induction l with
  | nil => rfl
  | cons a rest ih => cases h : (attempt a).value <;> simp [firstSome, ih, h]

/-- What happens over a list is what happens up to the first entry that gives a result. -/
theorem events_firstSome (attempt : α → Traced (Option β)) (l : List α) :
    (firstSome attempt l).events =
      (l.take (l.findIdx (fun a => (attempt a).value.isSome) + 1)).flatMap fun a =>
        (attempt a).events := by
  induction l with
  | nil => rfl
  | cons a rest ih =>
    cases h : (attempt a).value <;> simp [firstSome, ih, h, List.findIdx_cons]

end Traced

end SchemeNegotiation
