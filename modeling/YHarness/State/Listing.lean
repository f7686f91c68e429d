/-
# YHarness.State.Listing -- listing the Threads of a tenant

`MemoryEventStore` keeps a display name and a fork lineage beside the fences of each stream
(`MemoryStoreData`).  A listing walks the global journal backwards, summarizes each Thread of
the tenant at its latest event and cuts the pages by a sequence cursor
(`thread_summaries_page`); `list_threads_as` checks every summary it is given.
-/
import YHarness.State.Store

namespace YHarness.State

open YHarness.Lib YHarness.Kernel

set_option autoImplicit false

def maxThreadSummaryPage : Nat := 64

structure ThreadSummary where
  threadId : ThreadId
  tenantId : Option String
  name : Option String
  lineage : Option ThreadLineage
  lastSequence : Nat
  updatedAtMs : UInt64
  streamVersion : Nat

structure ThreadSummaryPage where
  threads : List ThreadSummary
  nextBeforeSequence : Option Nat
  hasMore : Bool

/-! ## Names and lineages -/

structure MemoryStoreData where
  store : MemoryStore
  streamNames : ThreadId → Option String
  streamLineages : ThreadId → Option ThreadLineage

namespace MemoryStoreData

def empty : MemoryStoreData := ⟨.empty, fun _ => none, fun _ => none⟩

def recordName (names : ThreadId → Option String) (threadId : ThreadId) :
    StateEvent → ThreadId → Option String
  | .threadNamed name => Function.update names threadId name
  | _ => names

def recordLineage (lineages : ThreadId → Option ThreadLineage) (threadId : ThreadId) :
    StateEvent → ThreadId → Option ThreadLineage
  | .threadForked lineage => Function.update lineages threadId (some lineage)
  | _ => lineages

/-- `append_classified`. -/
def append [Sha256] (data : MemoryStoreData) (pending : PendingEvent) :
    Except HarnessError (MemoryStoreData × EventAppendResult) := do
  let (store, result) ← data.store.appendClassified pending
  match result.disposition with
  | .duplicate => .ok ({ data with store }, result)
  | .applied => .ok ({
      store
      streamNames := recordName data.streamNames pending.threadId pending.event
      streamLineages := recordLineage data.streamLineages pending.threadId pending.event }, result)

def namedBy : StateEvent → Option (Option String)
  | .threadNamed name => some name
  | _ => none

def forkedBy : StateEvent → Option ThreadLineage
  | .threadForked lineage => some lineage
  | _ => none

/-- `final_stream_name`. -/
def finalStreamName (events : List StoredEvent) : Option String :=
  (events.filterMap fun stored => namedBy stored.event).getLast?.join

/-- `final_stream_lineage`. -/
def finalStreamLineage (events : List StoredEvent) : Option ThreadLineage :=
  events.findSome? fun stored => forkedBy stored.event

/-- Insert what there is to insert. -/
def insertSome {α : Type} (table : ThreadId → Option α) (threadId : ThreadId) :
    Option α → ThreadId → Option α
  | none => table
  | some value => Function.update table threadId (some value)

/-- `create_stream_atomic`. -/
def createStream [Sha256] (data : MemoryStoreData) (threadId : ThreadId)
    (events : List NewStreamEvent) : Except HarnessError (MemoryStoreData × List StoredEvent) := do
  let (store, stored) ← data.store.createStreamAtomic threadId events
  .ok ({
    store
    streamNames := insertSome data.streamNames threadId (finalStreamName stored)
    streamLineages := insertSome data.streamLineages threadId (finalStreamLineage stored) }, stored)

/-! ## One page of summaries -/

def summarize (data : MemoryStoreData) (tenantId : Option String) (event : StoredEvent) :
    ThreadSummary where
  threadId := event.threadId
  tenantId := tenantId
  name := data.streamNames event.threadId
  lineage := data.streamLineages event.threadId
  lastSequence := event.sequence
  updatedAtMs := event.recordedAtMs
  streamVersion := data.store.streamVersions event.threadId

/-- The loop of `thread_summaries_page` over the journal, newest event first, with the
Threads seen. -/
def summariesFrom (data : MemoryStoreData) (tenantId : Option String)
    (beforeSequence : Option Nat) (limit : Nat) :
    List ThreadId → List ThreadSummary → List StoredEvent →
      Except HarnessError (List ThreadSummary)
  | _, page, [] => .ok page
  | seen, page, event :: events => do
    if event.threadId ∈ seen ∨ beforeSequence.any (fun before => decide (before ≤ event.sequence))
        ∨ data.store.streamTenants event.threadId ≠ some tenantId then
      summariesFrom data tenantId beforeSequence limit (event.threadId :: seen) page events
    else do
      rejectIf (data.store.streamVersions event.threadId == 0)
        (.state "Thread stream metadata is missing")
      let page := page ++ [data.summarize tenantId event]
      if page.length = limit then .ok page
      else summariesFrom data tenantId beforeSequence limit (event.threadId :: seen) page events

def validateThreadSummaryPageRequest (beforeSequence : Option Nat) (limit : Nat) :
    Except HarnessError Unit := do
  rejectIf (limit == 0 || decide (maxThreadSummaryPage + 1 < limit))
    (.state "Thread store page limit must be 1-65")
  rejectIf (beforeSequence == some 0) (.state "Thread page cursor must be greater than zero")

/-- `thread_summaries_page`. -/
def threadSummariesPage (data : MemoryStoreData) (tenantId : Option String)
    (beforeSequence : Option Nat) (limit : Nat) : Except HarnessError (List ThreadSummary) := do
  validateThreadSummaryPageRequest beforeSequence limit
  data.summariesFrom tenantId beforeSequence limit [] [] data.store.events.reverse

end MemoryStoreData

/-! ## Listing -/

/-- The loop of `validate_thread_summaries`: the sequence before, the identities seen. -/
def validateSummariesFrom :
    Option Nat → List ThreadId → List ThreadSummary → Except HarnessError Unit
  | _, _, [] => .ok ()
  | previous, identities, summary :: summaries => do
    validateStateId "Thread summary" summary.threadId
    validateThreadName summary.name
    checkSome validateThreadLineage summary.lineage
    rejectIf (summary.lineage.any fun lineage => lineage.parentThreadId == summary.threadId ||
        decide (summary.lastSequence ≤ lineage.parentThroughSequence))
      (.state "Thread summary contains invalid direct lineage")
    rejectIf (summary.lastSequence == 0 || summary.streamVersion == 0 ||
        decide (summary.lastSequence < summary.streamVersion) ||
        previous.any (fun cursor => decide (cursor ≤ summary.lastSequence)) ||
        decide (summary.threadId ∈ identities))
      (.state "Event Store returned invalid or unordered Thread summaries")
    validateSummariesFrom (some summary.lastSequence) (summary.threadId :: identities) summaries

def validateThreadSummaries (summaries : List ThreadSummary) (beforeSequence : Option Nat)
    (limit : Nat) : Except HarnessError Unit := do
  rejectIf (decide (limit < summaries.length))
    (.state "Event Store exceeded the requested Thread page limit")
  validateSummariesFrom beforeSequence [] summaries

namespace MemoryStoreData

/-- `list_threads_as` over this store. -/
def listThreadsAs (data : MemoryStoreData) (limit : Nat) (authority : AuthorityContext)
    (beforeSequence : Option Nat) : Except HarnessError ThreadSummaryPage := do
  authority.validateCurrent "Thread listing authority"
  rejectIf (!(decide (1 ≤ limit) && decide (limit ≤ maxThreadSummaryPage)))
    (.state "Thread page limit must be 1-64")
  rejectIf (beforeSequence == some 0) (.state "Thread page cursor must be greater than zero")
  let threads ← data.threadSummariesPage authority.tenantId beforeSequence (limit + 1)
  rejectIf (threads.any fun thread => thread.tenantId != authority.tenantId)
    (.state "Event Store returned a Thread outside the requested tenant boundary")
  validateThreadSummaries threads beforeSequence (limit + 1)
  let hasMore := decide (limit < threads.length)
  let threads := if hasMore then threads.take limit else threads
  .ok {
    threads
    nextBeforeSequence := if hasMore then threads.getLast?.map (·.lastSequence) else none
    hasMore }

end MemoryStoreData

end YHarness.State
