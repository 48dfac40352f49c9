import SchemeNegotiation.Proofs.First
import SchemeNegotiation.Registry.Shared

/-!
# The life of the shared registry

The shared registry is written by the first request that brings one, and never again. One step
keeps what is in place or puts in place what the request brings (`registry?_step`), so a run leaves
what the first such request brought (`registry?_run`). What that means for each request of a run is
put together in `SharedRegistry.Lifecycle`, which holds of every run from the start
(`SharedRegistry.lifecycle`).
-/

namespace SchemeNegotiation.SharedRegistry

namespace Request

/-- The registry that a request puts in place where there is none. -/
def brings : Request → Option Registry
  | .install r => some r
  | .establish provider exclusion => some (Registry.build provider exclusion).value
  | .read | .lookup _ | .byName _ | .schemes => some (Registry.build Builtin.provider .nothing).value
  | .isInitialized | .nameOfId _ => none

/-- Whether a request comes with a registry of its own. -/
def isWrite : Request → Bool
  | .install _ | .establish .. => true
  | _ => false

/-- A request that reads the registry, and what it reads. -/
inductive Reads : Request → (Registry → Reply) → Prop where
  | read : Reads .read .registry
  | lookup (id : UInt16) : Reads (.lookup id) fun r => .scheme? (r.ofId? id)
  | byName (name : String) : Reads (.byName name) fun r => .scheme? (r.ofName? name)
  | schemes : Reads .schemes fun r => .schemes r.schemes

end Request

section Step

variable {s : SharedRegistry} {q : Request} {r : Registry}

/-- A step keeps the registry in place; where there is none it puts in place what is brought. -/
lemma registry?_step (s : SharedRegistry) (q : Request) :
    registry? (s.step q).value.1 = s.registry?.or q.brings := by
  cases placed : s.registry? with
  | none => cases q <;> simp [step, answer, force, install, isInitialized, Request.brings, placed]
  | some r => cases q <;> simp [step, answer, force, install, isInitialized, placed]

/-- A request to write is refused once there is a registry, and nothing happens on it. -/
lemma step_of_isWrite (placed : s.registry? = some r) (write : q.isWrite = true) :
    s.step q = pure (s, .refused .alreadyInitialized) := by
  cases q with
  | install _ => simp [step, install, placed]
  | establish _ _ => simp [step, isInitialized, placed]
  | _ => cases write

/-- A request to write is granted where there is no registry. -/
lemma reply_of_isWrite (empty : s.registry? = none) (write : q.isWrite = true)
    (brought : q.brings = some r) : (s.step q).value.2 = .registry r := by
  cases q with
  | install t =>
    obtain rfl := Option.some.inj brought
    simp [step, install, empty]
  | establish provider exclusion =>
    obtain rfl := Option.some.inj brought
    simp [step, install, isInitialized, empty]
  | _ => cases write

/-- A request that brings no registry leaves everything as it is. -/
lemma step_of_brings_none (idle : q.brings = none) :
    (s.step q).events = [] ∧ (s.step q).value.1 = s := by
  cases q with
  | isInitialized => exact ⟨rfl, rfl⟩
  | nameOfId _ => exact ⟨rfl, rfl⟩
  | _ => cases idle

/-- A request that reads gets what it reads of the registry. -/
lemma step_of_reads {f : Registry → Reply} (s : SharedRegistry) (reads : q.Reads f) :
    s.step q = s.answer f := by
  cases reads <;> rfl

/-- A request that reads is answered from the registry that is in place after it. -/
lemma reply_of_reads {f : Registry → Reply} (reads : q.Reads f)
    (after : registry? (s.step q).value.1 = some r) : (s.step q).value.2 = f r := by
  rw [step_of_reads s reads] at after ⊢
  obtain rfl := Option.some.inj after
  rfl

end Step

section Run

/-- A run of two lists is a run of the second one from where the first one ends. -/
lemma value_run_append (s : SharedRegistry) (before after : List Request) :
    (s.run (before ++ after)).value =
      (((s.run before).value.1.run after).value.1,
        (s.run before).value.2 ++ ((s.run before).value.1.run after).value.2) := by
  induction before generalizing s with
  | nil => rfl
  | cons q rest ih => simp [run, ih]

/-- What happens on a run of two lists is what happens on the first and then on the second. -/
lemma events_run_append (s : SharedRegistry) (before after : List Request) :
    (s.run (before ++ after)).events =
      (s.run before).events ++ ((s.run before).value.1.run after).events := by
  induction before generalizing s with
  | nil => rfl
  | cons q rest ih => simp [run, ih]

/-- Every request is replied to. -/
lemma length_replies (s : SharedRegistry) (requests : List Request) :
    (s.run requests).value.2.length = requests.length := by
  induction requests generalizing s with
  | nil => rfl
  | cons q rest ih => simp [run, ih]

/-- A run keeps the registry in place; where there is none the first one brought is put in place. -/
lemma registry?_run (s : SharedRegistry) (requests : List Request) :
    registry? (s.run requests).value.1 = s.registry?.or (requests.findSome? Request.brings) := by
  induction requests generalizing s with
  | nil => simp [run]
  | cons q rest ih =>
    rw [List.findSome?_cons]
    simp only [run, Traced.value_bind, Traced.value_pure, ih, registry?_step, Option.or_assoc]
    cases q.brings <;> rfl

end Run

/-- The registry in place after the first requests of a run from the start. -/
def placedAfter (requests : List Request) (n : Nat) : Option Registry :=
  registry? (empty.run (requests.take n)).value.1

/-- What has happened after the first requests of a run from the start. -/
def eventsAfter (requests : List Request) (n : Nat) : List Event :=
  (empty.run (requests.take n)).events

/-- The reply to a request of a run from the start, by its place. -/
def reply? (requests : List Request) (n : Nat) : Option Reply :=
  (empty.run requests).value.2[n]?

/-- The request at a place is the first one of a run that brings a registry. -/
def FixedAt (requests : List Request) (i : Nat) (r : Registry) : Prop :=
  ∃ q, FirstAt (fun p => ∃ t, Request.brings p = some t) requests i q ∧ q.brings = some r

/-- What holds of every request of a run from the start. -/
structure Lifecycle (requests : List Request) : Prop where
  /-- There is no registry before a request brings one. -/
  absent : ∀ n, (∀ q ∈ requests.take n, q.brings = none) → placedAfter requests n = none
  /-- After the first request that brings a registry, that one is in place for good. -/
  fixed : ∀ i r, FixedAt requests i r → ∀ n, i < n → placedAfter requests n = some r
  granted : ∀ i r q, FixedAt requests i r → requests[i]? = some q → q.isWrite = true →
    reply? requests i = some (.registry r)
  /-- Later requests to write are refused, and nothing is asked or told on them. -/
  refused : ∀ i r, FixedAt requests i r → ∀ n q, i < n → requests[n]? = some q →
    q.isWrite = true → reply? requests n = some (.refused .alreadyInitialized) ∧
      placedAfter requests (n + 1) = placedAfter requests n ∧
        eventsAfter requests (n + 1) = eventsAfter requests n
  /-- At most one request to write is granted. -/
  once : ∀ m n p q r t, requests[m]? = some p → requests[n]? = some q →
    p.isWrite = true → q.isWrite = true → reply? requests m = some (.registry r) →
      reply? requests n = some (.registry t) → m = n
  /-- Requests that read are answered from the one registry, the first of them included. -/
  answered : ∀ i r, FixedAt requests i r → ∀ n q f, i ≤ n → requests[n]? = some q →
    q.Reads f → reply? requests n = some (f r)
  /-- Requests that bring no registry put none in place, and nothing is asked or told on them. -/
  idle : ∀ n q, requests[n]? = some q → q.brings = none →
    placedAfter requests (n + 1) = placedAfter requests n ∧
      eventsAfter requests (n + 1) = eventsAfter requests n

section Place

variable {requests : List Request} {n i : Nat} {q : Request} {r : Registry}

/-- The registry in place is what the first request so far that brought one has brought. -/
lemma placedAfter_eq (requests : List Request) (n : Nat) :
    placedAfter requests n = (requests.take n).findSome? Request.brings := by
  rw [placedAfter, registry?_run]
  rfl

/-- The request at a place is one step from where the requests before it end. -/
lemma run_take_succ (place : requests[n]? = some q) :
    let s := (empty.run (requests.take n)).value.1
    placedAfter requests (n + 1) = registry? (s.step q).value.1 ∧
      eventsAfter requests (n + 1) = eventsAfter requests n ++ (s.step q).events ∧
        reply? requests n = some (s.step q).value.2 := by
  intro s
  have longer : requests.take (n + 1) = requests.take n ++ [q] := by
    rw [List.take_add_one, place]
    rfl
  refine ⟨?_, ?_, ?_⟩
  · rw [placedAfter, longer, value_run_append]
    rfl
  · rw [eventsAfter, longer, events_run_append, eventsAfter]
    simp [run, s]
  · obtain ⟨inside, entry⟩ := List.getElem?_eq_some_iff.1 place
    have cut : requests = requests.take n ++ q :: requests.drop (n + 1) := by
      rw [← entry, List.getElem_cons_drop, List.take_append_drop]
    have front : (empty.run (requests.take n)).value.2.length = n := by
      rw [length_replies, List.length_take, Nat.min_eq_left (Nat.le_of_lt inside)]
    rw [reply?, cut, value_run_append, List.getElem?_append_right (by omega), front, Nat.sub_self]
    rfl

/-- The first request that brings a registry decides what is in place from then on. -/
lemma placedAfter_of_fixedAt (fixed : FixedAt requests i r) (later : i < n) :
    placedAfter requests n = some r := by
  obtain ⟨q, first, brought⟩ := fixed
  rw [placedAfter_eq, FirstAt.findSome?_eq_some_iff fun _ _ => Iff.rfl]
  refine ⟨i, q, ⟨?_, first.holds, ?_⟩, brought⟩
  · rw [List.getElem?_take_of_lt later]
    exact first.entry
  · intro j before p entry
    rw [List.getElem?_take_of_lt (Nat.lt_trans before later)] at entry
    exact first.earlier j before p entry

/-- Nothing is in place before requests that bring nothing are over. -/
lemma placedAfter_of_absent (absent : ∀ p ∈ requests.take n, Request.brings p = none) :
    placedAfter requests n = none := by
  rw [placedAfter_eq, List.findSome?_eq_none_iff]
  exact absent

/-- Nothing is in place until the first request that brings a registry. -/
lemma placedAfter_before_fixedAt (fixed : FixedAt requests i r) :
    placedAfter requests i = none := by
  obtain ⟨q, first, -⟩ := fixed
  apply placedAfter_of_absent
  intro p mem
  obtain ⟨j, before, rfl⟩ := List.mem_take_iff_getElem.1 mem
  have unfit := first.earlier j (by omega) _ (List.getElem?_eq_getElem (by omega))
  rw [Option.eq_none_iff_forall_ne_some]
  intro t brought
  exact unfit ⟨t, brought⟩

/-- A request to write is refused once a registry is in place. -/
lemma refused_of_placed (place : requests[n]? = some q) (write : q.isWrite = true)
    (placed : placedAfter requests n = some r) :
    reply? requests n = some (.refused .alreadyInitialized) ∧
      placedAfter requests (n + 1) = placedAfter requests n ∧
        eventsAfter requests (n + 1) = eventsAfter requests n := by
  obtain ⟨after, happened, reply⟩ := run_take_succ place
  rw [reply, after, happened, step_of_isWrite placed write]
  exact ⟨rfl, rfl, List.append_nil _⟩

/-- From a request to write on, there is a registry in place. -/
lemma placedAfter_of_isWrite (place : requests[i]? = some q) (write : q.isWrite = true)
    (later : i < n) : ∃ r, placedAfter requests n = some r := by
  have brings : ∃ t, q.brings = some t := by
    cases q with
    | install t => exact ⟨t, rfl⟩
    | establish _ _ => exact ⟨_, rfl⟩
    | _ => cases write
  obtain ⟨j, p, first⟩ := FirstAt.exists_of_mem (p := fun p => ∃ t, Request.brings p = some t)
    (List.mem_of_getElem? place) brings
  obtain ⟨r, brought⟩ := first.holds
  have before := first.le place brings
  exact ⟨r, placedAfter_of_fixedAt ⟨p, first, brought⟩ (Nat.lt_of_le_of_lt before later)⟩

/-- Only one request to write is granted: a later one finds a registry in place. -/
lemma not_granted_twice {m : Nat} {p : Request} (place : requests[m]? = some p)
    (write : p.isWrite = true) (later : m < n) (laterPlace : requests[n]? = some q)
    (laterWrite : q.isWrite = true) : reply? requests n ≠ some (.registry r) := by
  obtain ⟨t, placed⟩ := placedAfter_of_isWrite place write later
  obtain ⟨refused, -⟩ := refused_of_placed laterPlace laterWrite placed
  rw [refused]
  nofun

end Place

/-- Every run from the start has the life of a registry that is written once. -/
theorem lifecycle (requests : List Request) : Lifecycle requests where
  absent n := placedAfter_of_absent
  fixed i r fixed n := placedAfter_of_fixedAt fixed
  granted i r q fixed place write := by
    have none := placedAfter_before_fixedAt fixed
    obtain ⟨p, first, brought⟩ := fixed
    obtain rfl := Option.some.inj (first.entry.symm.trans place)
    obtain ⟨-, -, reply⟩ := run_take_succ place
    rw [reply, reply_of_isWrite none write brought]
  refused i r fixed n q later place write :=
    refused_of_placed place write (placedAfter_of_fixedAt fixed later)
  once m n p q r t placeM placeN writeM writeN grantedM grantedN := by
    rcases Nat.lt_trichotomy m n with later | same | later
    · exact absurd grantedN (not_granted_twice placeM writeM later placeN writeN)
    · exact same
    · exact absurd grantedM (not_granted_twice placeN writeN later placeM writeM)
  answered i r fixed n q f later place reads := by
    obtain ⟨after, -, reply⟩ := run_take_succ place
    rw [reply]
    have placed := placedAfter_of_fixedAt fixed (Nat.lt_succ_of_le later)
    rw [after] at placed
    rw [reply_of_reads reads placed]
  idle n q place idle := by
    obtain ⟨after, happened, -⟩ := run_take_succ place
    obtain ⟨none, same⟩ := step_of_brings_none (s := (empty.run (requests.take n)).value.1) idle
    rw [after, happened, same, none, List.append_nil]
    exact ⟨rfl, rfl⟩

end SchemeNegotiation.SharedRegistry
