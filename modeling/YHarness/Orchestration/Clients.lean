/-
# YHarness.Orchestration.Clients -- clients of a Task Coordinator

Any number of clients create, load and swap Task Graphs, one call after the other on
one store.  A snapshot can only be had from the coordinator; its owner may change its
graph at will before it is swapped in.  The events record what was committed and what
was handed out, a reply that never arrives included.

The commits under a key form one chain, each submitted on top of the snapshot it
replaces (`no_lost_update`), and no call reaches into another tenant.
-/
import YHarness.Orchestration.Coordinator

namespace YHarness.Orchestration

open YHarness.Lib YHarness.Kernel

set_option autoImplicit false

/-! ## Calls -/

inductive TaskCall where
  | create (graphId : TaskGraphId) (graph : TaskGraph)
  | load (graphId : TaskGraphId)
  | swap (snapshot : TaskGraphSnapshot)

/-- A successful call of this kind commits a snapshot. -/
def TaskCall.commits : TaskCall → Bool
  | create .. | swap _ => true
  | load _ => false

namespace TaskCoordinator

/-- The reply of a call and the store it leaves. -/
def call (store : TaskCoordinator) (request : TaskCall) (authority : AuthorityContext) :
    Except HarnessError (Option TaskGraphSnapshot) × TaskCoordinator :=
  match request with
  | .create graphId graph =>
    match store.createAs graphId graph authority with
    | .ok (snapshot, next) => (.ok (some snapshot), next)
    | .error error => (.error error, store)
  | .load graphId => (store.loadAs graphId authority, store)
  | .swap snapshot =>
    match store.compareAndSwapAs snapshot authority with
    | .ok (saved, next) => (.ok (some saved), next)
    | .error error => (.error error, store)

end TaskCoordinator

/-! ## Runs -/

inductive TaskEvent (Client : Type) where
  | committed (client : Client) (snapshot : TaskGraphSnapshot)
  | handed (client : Client) (snapshot : TaskGraphSnapshot)

/-- The snapshots that were committed, in order. -/
def committedOf {Client : Type} (events : List (TaskEvent Client)) : List TaskGraphSnapshot :=
  events.filterMap fun
    | .committed _ snapshot => some snapshot
    | .handed .. => none

structure TaskWorld (Client : Type) where
  store : TaskCoordinator
  events : List (TaskEvent Client)

/-- The events of a call: its commit, and its reply if that arrives. -/
def callEvents {Client : Type} (client : Client) (request : TaskCall) (arrives : Bool) :
    Except HarnessError (Option TaskGraphSnapshot) → List (TaskEvent Client)
  | .ok (some snapshot) =>
    (if request.commits then [.committed client snapshot] else []) ++
      (if arrives then [.handed client snapshot] else [])
  | _ => []

/-- What a client may ask for: a swap takes a snapshot it was handed, with any graph. -/
def Submits {Client : Type} (client : Client) (events : List (TaskEvent Client)) :
    TaskCall → Prop
  | .swap snapshot => ∃ observed, .handed client observed ∈ events ∧
      snapshot = { observed with graph := snapshot.graph }
  | _ => True

namespace TaskWorld

variable {Client : Type}

def after (w : TaskWorld Client) (client : Client) (authority : AuthorityContext)
    (request : TaskCall) (arrives : Bool) : TaskWorld Client :=
  ⟨(w.store.call request authority).2,
    w.events ++ callEvents client request arrives (w.store.call request authority).1⟩

/-- The worlds that calls lead to from an empty store of either kind. -/
inductive Reachable : TaskWorld Client → Prop
  | memory : Reachable ⟨.memory ∅, []⟩
  | sqlite : Reachable ⟨.sqlite ∅, []⟩
  | call {w : TaskWorld Client} (reached : Reachable w) {client : Client}
      {authority : AuthorityContext} {request : TaskCall} {arrives : Bool}
      (submits : Submits client w.events request) :
      Reachable (w.after client authority request arrives)

end TaskWorld

/-! ## The chain of commits -/

/-- Snapshots are numbered by their revision under their key. -/
def taskNumbering : Numbering StoreKey TaskGraphSnapshot :=
  ⟨TaskGraphSnapshot.key, fun snapshot => snapshot.revision.toNat⟩

/-- The snapshot a key holds after the events. -/
def heldAfter {Client : Type} (events : List (TaskEvent Client)) :
    StoreKey → Option TaskGraphSnapshot :=
  taskNumbering.latest (committedOf events)

namespace TaskWorld

variable {Client : Type}

/-- What every run keeps. -/
structure Consistent (w : TaskWorld Client) : Prop where
  chained : taskNumbering.Chained (committedOf w.events)
  holds : w.store.Holds (heldAfter w.events)
  handed : ∀ client snapshot, .handed client snapshot ∈ w.events →
    snapshot ∈ committedOf w.events
  based : ∀ before client snapshot after, w.events = before ++ .committed client snapshot :: after →
    ∀ previous, heldAfter before snapshot.key = some previous → .handed client previous ∈ before

theorem committedOf_append (left right : List (TaskEvent Client)) :
    committedOf (left ++ right) = committedOf left ++ committedOf right :=
  List.filterMap_append

theorem mem_committedOf_concat (events : List (TaskEvent Client)) (client : Client)
    (snapshot : TaskGraphSnapshot) :
    snapshot ∈ committedOf (events ++ [.committed client snapshot]) := by
  rw [committedOf_append]
  exact List.mem_append_right _ (List.mem_singleton.2 rfl)

theorem heldAfter_commit (events : List (TaskEvent Client)) (client : Client)
    (snapshot : TaskGraphSnapshot) :
    heldAfter (events ++ [.committed client snapshot]) =
      Function.update (heldAfter events) snapshot.key (some snapshot) := by
  rw [heldAfter, committedOf_append]
  exact Numbering.latest_concat ..

theorem heldAfter_hand (events : List (TaskEvent Client)) (client : Client)
    (snapshot : TaskGraphSnapshot) (arrives : Bool) :
    heldAfter (events ++ if arrives then [.handed client snapshot] else []) = heldAfter events := by
  have same : committedOf (if arrives then [.handed client snapshot] else []) = [] := by
    cases arrives <;> rfl
  rw [heldAfter, committedOf_append, same, List.append_nil]
  rfl

theorem heldAfter_callEvents (events : List (TaskEvent Client)) (client : Client)
    {request : TaskCall} (commits : request.commits = true) (arrives : Bool)
    (snapshot : TaskGraphSnapshot) :
    heldAfter (events ++ callEvents client request arrives (.ok (some snapshot))) =
      Function.update (heldAfter events) snapshot.key (some snapshot) := by
  rw [callEvents, if_pos commits, ← List.append_assoc, heldAfter_hand, heldAfter_commit]

variable {authority : AuthorityContext} {events : List (TaskEvent Client)}
  {snapshot : TaskGraphSnapshot}

/-- Handing out what was committed changes nothing. -/
theorem Consistent.hand {store : TaskCoordinator}
    (consistent : (⟨store, events⟩ : TaskWorld Client).Consistent) (client : Client)
    (committed : snapshot ∈ committedOf events) (arrives : Bool) :
    (⟨store, events ++ if arrives then [.handed client snapshot] else []⟩ :
      TaskWorld Client).Consistent := by
  cases arrives with
  | false =>
    rw [if_neg (by decide), List.append_nil]
    exact consistent
  | true =>
    rw [if_pos rfl]
    have same : committedOf (events ++ [.handed client snapshot]) = committedOf events := by
      rw [committedOf_append]
      exact List.append_nil _
    refine ⟨?_, ?_, ?_, ?_⟩
    · dsimp only
      rw [same]
      exact consistent.chained
    · dsimp only
      rw [heldAfter, same]
      exact consistent.holds
    · intro other given member
      dsimp only at member ⊢
      rw [same]
      rcases List.mem_append.1 member with earlier | last
      · exact consistent.handed other given earlier
      · cases List.mem_singleton.1 last
        exact committed
    · intro before other given after parts previous held
      rcases concat_eq_split parts with ⟨_, swapped, _⟩ | ⟨rest, _, earlier⟩
      · cases swapped
      · exact consistent.based before other given rest earlier previous held

/-- A commit that continues its key, submitted by a client that was handed what it
replaces. -/
theorem Consistent.commit {store next : TaskCoordinator}
    (consistent : (⟨store, events⟩ : TaskWorld Client).Consistent) (client : Client)
    (holds : next.Holds (Function.update (heldAfter events) snapshot.key (some snapshot)))
    (continues : (heldAfter events snapshot.key = none ∧ snapshot.revision.toNat = 1) ∨
      ∃ previous, heldAfter events snapshot.key = some previous ∧
        snapshot.revision.toNat = previous.revision.toNat + 1 ∧
        .handed client previous ∈ events) :
    (⟨next, events ++ [.committed client snapshot]⟩ : TaskWorld Client).Consistent := by
  have more : committedOf (events ++ [.committed client snapshot]) =
      committedOf events ++ [snapshot] := committedOf_append _ _
  refine ⟨?_, ?_, ?_, ?_⟩
  · dsimp only
    rw [more]
    rcases continues with ⟨fresh, one⟩ | ⟨previous, current, succ, _⟩
    · exact .first consistent.chained fresh one
    · exact .next consistent.chained current succ
  · dsimp only
    rw [heldAfter, more, Numbering.latest_concat]
    exact holds
  · intro other given member
    dsimp only at member ⊢
    rw [more]
    rcases List.mem_append.1 member with earlier | last
    · exact List.mem_append_left _ (consistent.handed other given earlier)
    · cases List.mem_singleton.1 last
  · intro before other given after parts previous held
    rcases concat_eq_split parts with ⟨_, same, rfl⟩ | ⟨rest, _, earlier⟩
    · cases same
      rcases continues with ⟨fresh, _⟩ | ⟨current, found, _, handed⟩
      · rw [fresh] at held
        cases held
      · rw [found] at held
        cases held
        exact handed
    · exact consistent.based before other given rest earlier previous held

/-- A swap replaces the very snapshot that its client was handed. -/
theorem Consistent.replaces {w : TaskWorld Client} (consistent : w.Consistent) {client : Client}
    {authority : AuthorityContext} {observed snapshot saved : TaskGraphSnapshot}
    {next : TaskCoordinator} (handed : .handed client observed ∈ w.events)
    (submitted : snapshot = { observed with graph := snapshot.graph })
    (swapped : w.store.compareAndSwapAs snapshot authority = .ok (saved, next)) :
    heldAfter w.events saved.key = some observed ∧
      saved = { snapshot with revision := saved.revision } ∧
      saved.revision.toNat = observed.revision.toNat + 1 ∧
      next.Holds (Function.update (heldAfter w.events) saved.key (some saved)) := by
  obtain ⟨_, replaced, succ, ⟨current, found, same⟩, holds⟩ :=
    TaskCoordinator.compareAndSwapAs_holds consistent.holds swapped
  have savedKey : saved.key = snapshot.key := by rw [replaced]; rfl
  have observedKey : observed.key = snapshot.key := by rw [submitted]; rfl
  have observedRevision : observed.revision = snapshot.revision := by rw [submitted]
  obtain rfl : current = observed :=
    consistent.chained.eq_of_revision (taskNumbering.mem_of_latest found).1
      (consistent.handed _ _ handed)
      ((taskNumbering.mem_of_latest found).2.trans observedKey.symm)
      (congrArg UInt64.toNat (same.trans observedRevision.symm))
  rw [← savedKey] at found holds
  exact ⟨found, replaced, by rw [succ, same], holds⟩

theorem Consistent.after {w : TaskWorld Client} (consistent : w.Consistent) {client : Client}
    {request : TaskCall} {arrives : Bool} (submits : Submits client w.events request) :
    (w.after client authority request arrives).Consistent := by
  obtain ⟨store, events⟩ := w
  unfold TaskWorld.after
  cases request with
  | create graphId graph =>
    unfold TaskCoordinator.call
    dsimp only
    cases created : store.createAs graphId graph authority with
    | error error =>
      dsimp only [callEvents]
      rw [List.append_nil]
      exact consistent
    | ok result =>
      obtain ⟨snapshot, next⟩ := result
      obtain ⟨rfl, fresh, holds⟩ := TaskCoordinator.createAs_holds consistent.holds created
      have grown := consistent.commit client holds (.inl ⟨fresh, rfl⟩)
      have handed := grown.hand client (mem_committedOf_concat ..) arrives
      rw [List.append_assoc] at handed
      exact handed
  | load graphId =>
    unfold TaskCoordinator.call
    dsimp only
    cases loaded : store.loadAs graphId authority with
    | error error =>
      dsimp only [callEvents]
      rw [List.append_nil]
      exact consistent
    | ok reply =>
      cases reply with
      | none =>
        dsimp only [callEvents]
        rw [List.append_nil]
        exact consistent
      | some snapshot =>
        have held := TaskCoordinator.loadAs_holds consistent.holds loaded
        exact consistent.hand client (taskNumbering.mem_of_latest held.symm).1 arrives
  | swap snapshot =>
    unfold TaskCoordinator.call
    dsimp only
    cases swapped : store.compareAndSwapAs snapshot authority with
    | error error =>
      dsimp only [callEvents]
      rw [List.append_nil]
      exact consistent
    | ok result =>
      obtain ⟨saved, next⟩ := result
      obtain ⟨observed, handed, submitted⟩ := submits
      obtain ⟨found, _, succ, holds⟩ := consistent.replaces handed submitted swapped
      have grown := consistent.commit client holds (.inr ⟨observed, found, succ, handed⟩)
      have again := grown.hand client (mem_committedOf_concat ..) arrives
      rw [List.append_assoc] at again
      exact again

theorem Reachable.consistent {w : TaskWorld Client} (reached : Reachable w) : w.Consistent := by
  induction reached with
  | memory =>
    exact ⟨.nil, TaskCoordinator.memory_empty_holds, nofun, fun before _ _ _ parts => by
      simp at parts⟩
  | sqlite =>
    exact ⟨.nil, TaskCoordinator.sqlite_empty_holds, nofun, fun before _ _ _ parts => by
      simp at parts⟩
  | call _ submits ih => exact ih.after submits

/-! ## Tenants -/

/-- A call leaves the graphs of every other tenant as they were. -/
theorem call_other (store : TaskCoordinator) (request : TaskCall) {tenantId : Option String}
    (valid : validateTenant tenantId = .ok ()) (other : authority.tenantId ≠ tenantId) :
    store.SameUnder (tenantStorageKey tenantId) (store.call request authority).2 := by
  -- a caller that is let in is stored under its own key
  have apart : ∀ kind, authority.validateCurrent kind = .ok () →
      tenantStorageKey authority.tenantId ≠ tenantStorageKey tenantId :=
    fun kind current same =>
      other (tenantStorageKey_injective (seq_eq_ok.1 current).2 valid same)
  unfold TaskCoordinator.call
  cases request with
  | load graphId => exact .refl _ store
  | create graphId graph =>
    dsimp only
    cases created : store.createAs graphId graph authority with
    | error error => exact .refl _ store
    | ok result =>
      exact TaskCoordinator.createAs_other (apart _ (seq_eq_ok.1 created).1) created
  | swap snapshot =>
    dsimp only
    cases swapped : store.compareAndSwapAs snapshot authority with
    | error error => exact .refl _ store
    | ok result =>
      exact TaskCoordinator.compareAndSwapAs_other (apart _ (seq_eq_ok.1 swapped).1) swapped

/-- What a call answers depends on the graphs of its own tenant only. -/
theorem call_alike {left right : TaskCoordinator} (request : TaskCall)
    (same : left.SameUnder (tenantStorageKey authority.tenantId) right) :
    (left.call request authority).1 = (right.call request authority).1 := by
  unfold TaskCoordinator.call
  cases request with
  | load graphId => exact TaskCoordinator.loadAs_alike same graphId
  | create graphId graph =>
    have alike := TaskCoordinator.createAs_alike same graphId graph
    dsimp only
    revert alike
    generalize left.createAs graphId graph authority = x
    generalize right.createAs graphId graph authority = y
    rintro (related | error)
    · exact congrArg (Except.ok ∘ some) related.1
    · rfl
  | swap snapshot =>
    have alike := TaskCoordinator.compareAndSwapAs_alike same snapshot
    dsimp only
    revert alike
    generalize left.compareAndSwapAs snapshot authority = x
    generalize right.compareAndSwapAs snapshot authority = y
    rintro (related | error)
    · exact congrArg (Except.ok ∘ some) related.1
    · rfl

/-! ## No lost update -/

/-- **No lost update.**  Under every key the commits count 1, 2, 3, ... and the store
holds the last; each was made by a client that had been handed the one before it, and
there is one for each revision.  A call leaves every other tenant's graphs as they
were, and its answer does not depend on them. -/
theorem no_lost_update {w : TaskWorld Client} (reached : Reachable w) :
    (∀ key, (taskNumbering.under (committedOf w.events) key).map (fun s => s.revision.toNat) =
      List.range' 1 (taskNumbering.under (committedOf w.events) key).length) ∧
    w.store.Holds (heldAfter w.events) ∧
    (∀ before client snapshot after, w.events = before ++ .committed client snapshot :: after →
      (heldAfter before snapshot.key = none ∧ snapshot.revision.toNat = 1) ∨
        ∃ previous, heldAfter before snapshot.key = some previous ∧
          snapshot.revision.toNat = previous.revision.toNat + 1 ∧
          .handed client previous ∈ before) ∧
    ((committedOf w.events).map fun s => (s.key, s.revision.toNat)).Nodup ∧
    ∀ request authority,
      (∀ tenantId, validateTenant tenantId = .ok () → authority.tenantId ≠ tenantId →
        w.store.SameUnder (tenantStorageKey tenantId) (w.store.call request authority).2) ∧
      ∀ store : TaskCoordinator,
        w.store.SameUnder (tenantStorageKey authority.tenantId) store →
          (w.store.call request authority).1 = (store.call request authority).1 := by
  have consistent := reached.consistent
  refine ⟨consistent.chained.revisions, consistent.holds, ?_, consistent.chained.nodup,
    fun request authority => ⟨fun tenantId valid other => call_other w.store request valid other,
      fun store same => call_alike request same⟩⟩
  intro before client snapshot after parts
  have commits : committedOf w.events = committedOf before ++ snapshot :: committedOf after := by
    rw [parts, committedOf_append]
    rfl
  rcases consistent.chained.replaced commits with ⟨fresh, one⟩ | ⟨previous, current, succ⟩
  · exact .inl ⟨fresh, one⟩
  · exact .inr ⟨previous, current, succ,
      consistent.based before client snapshot after parts previous current⟩

section Sample

/-- A client was handed a snapshot with these fields. -/
def wasHanded (client : Bool) (snapshot : TaskGraphSnapshot) : TaskEvent Bool → Bool
  | .handed other observed => other == client && observed.id == snapshot.id &&
      observed.tenantId == snapshot.tenantId && observed.revision == snapshot.revision
  | .committed .. => false

theorem submits_of_wasHanded {client : Bool} {snapshot : TaskGraphSnapshot}
    {events : List (TaskEvent Bool)} (handed : events.any (wasHanded client snapshot) = true) :
    Submits client events (.swap snapshot) := by
  obtain ⟨event, member, matched⟩ := List.any_eq_true.1 handed
  cases event with
  | committed other observed => cases matched
  | handed other observed =>
    obtain ⟨id, tenantId, revision, graph⟩ := observed
    simp only [wasHanded, Bool.and_eq_true, beq_iff_eq] at matched
    obtain ⟨⟨⟨rfl, rfl⟩, rfl⟩, rfl⟩ := matched
    exact ⟨_, member, rfl⟩

def sampleCaller : AuthorityContext := ⟨.localProcess, none⟩

/-- A client creates a graph that another loads. -/
def sampleLoaded : TaskWorld Bool :=
  ((⟨.memory ∅, []⟩ : TaskWorld Bool).after true sampleCaller
    (.create "plan" TaskGraph.sampleGraph) true).after false sampleCaller (.load "plan") true

def sampleSwap : TaskCall :=
  .swap ⟨"plan", none, 1, TaskGraph.sampleGraph⟩

/-- Both swap it in; the second is too late. -/
def sampleWorld : TaskWorld Bool :=
  (sampleLoaded.after false sampleCaller sampleSwap true).after true sampleCaller sampleSwap true

theorem sampleWorld_reachable : Reachable sampleWorld := by
  have created := @Reachable.call Bool _ .memory true sampleCaller
    (.create "plan" TaskGraph.sampleGraph) true trivial
  have loaded := @Reachable.call Bool _ created false sampleCaller (.load "plan") true trivial
  refine .call (.call loaded ?_) ?_
  · exact submits_of_wasHanded (by decide +kernel)
  · exact submits_of_wasHanded (by decide +kernel)

theorem no_lost_update_sample :
    (committedOf sampleWorld.events).map (fun s => s.revision.toNat) = [1, 2] ∧
      ((committedOf sampleWorld.events).map fun s => (s.key, s.revision.toNat)).Nodup := by
  obtain ⟨_, _, _, distinct, _⟩ := no_lost_update sampleWorld_reachable
  exact ⟨by decide +kernel, distinct⟩

end Sample

end TaskWorld

end YHarness.Orchestration
