/-
# YHarness.State.Paging -- paged reads and listings are complete

`checked_events` and `snapshot_tail` read a Thread page by page, cut by count and by recovery
bytes, while other Threads are written.  A page holds at least one event when there is one
left (`page_from`), so the loop ends, and with exactly the events after its cursor
(`pagedEvents_ensures`).  A listing cuts the newest event of each Thread of a tenant by a
sequence cursor (`summariesFrom_eq`), and following the cursors yields each Thread once
(`paging_complete`).
-/
import YHarness.Lib.Keyset
import YHarness.Lib.Rely
import YHarness.State.Listing
import YHarness.State.Reading

namespace YHarness.State

open YHarness.Lib YHarness.Kernel

set_option autoImplicit false

/-! ## Reading a Thread while others are written -/

/-- Whatever happens between its calls, the task ends with this outcome. -/
def Returns {Call : Type} {Reply : Call → Type} {W α : Type} (S : Setting Call Reply W)
    (task : Task Call Reply α) (w : W) (outcome : α) : Prop :=
  (∃ trace w', Task.Against S task w trace outcome w') ∧
    ∀ trace a w', Task.Against S task w trace a w' → a = outcome

/-- The events of a Thread after a sequence. -/
def eventsAfter (s : MemoryStore) (threadId : ThreadId) (after : Nat) : List StoredEvent :=
  (s.journal threadId).filter fun e => decide (after < e.sequence)

/-- What a read that may collect `maximum` recovery bytes returns. -/
def readOutcome (s : MemoryStore) (threadId : ThreadId) (after : Nat) (bounds : PageBounds) :
    Except HarnessError CheckedEvents :=
  if bounds.maximum < journalCharge (eventsAfter s threadId after) then
    .error (.state bounds.overBytes)
  else .ok ⟨eventsAfter s threadId after, journalCharge (eventsAfter s threadId after)⟩

/-- Sequences read downwards: a journal descends along this key. -/
def sequenceKey (e : StoredEvent) : ℕᵒᵈ := OrderDual.toDual e.sequence

theorem eventsAfter_eq (s : MemoryStore) (threadId : ThreadId) (after : Nat) :
    eventsAfter s threadId after =
      below sequenceKey (some (OrderDual.toDual after)) (s.journal threadId) :=
  List.filter_congr fun _ _ => by simp [sequenceKey]

section Reading

variable [Sha256]

/-- A write to another Thread. -/
def WritesOther (threadId : ThreadId) (s s' : MemoryStore) : Prop :=
  StoreStep s s' ∧ s'.journal threadId = s.journal threadId

/-- Between two calls the store is written to, except for one Thread. -/
def besideOthers (threadId : ThreadId) : Setting EngineCall EngineReply World where
  exec := Exec False
  rely w w' := Relation.ReflTransGen (WritesOther threadId) w.store w'.store

variable {threadId : ThreadId}

theorem writesOther_later {s s' : MemoryStore} (reached : StoreReachable s)
    (written : Relation.ReflTransGen (WritesOther threadId) s s') :
    StoreReachable s' ∧ s'.journal threadId = s.journal threadId := by
  induction written with
  | refl => exact ⟨reached, rfl⟩
  | tail _ step ih => exact ⟨.step ih.1 step.1, step.2.trans ih.2⟩

omit [Sha256] in
/-- Identities of a Thread's events that were not read yet are not known. -/
theorem rememberEventIds_eq_ok {known page : List StoredEvent}
    (distinct : ((known ++ page).map (·.eventId)).Nodup) : rememberEventIds known page = .ok () := by
  rw [List.map_append, List.nodup_append] at distinct
  simp only [rememberEventIds, rejectIf_eq_ok, List.any_eq_false, decide_eq_true_iff]
  intro e member seen
  exact distinct.2.2 _ seen _ (List.mem_map_of_mem member) rfl

/-- **The paging loop.**  With part of `tail` read and the rest of it behind the cursor, the
loop ends with the whole of it, or with the error of a read over its bound. -/
theorem pagedEvents_ensures {bounds : PageBounds} {fuel after : Nat} {read : CheckedEvents}
    {tail : List StoredEvent} {w : World} (reached : StoreReachable w.store)
    (within : tail.Sublist (w.store.journal threadId))
    (collected : read.events ++ eventsAfter w.store threadId after = tail)
    (charged : read.recoveryBytes = journalCharge read.events)
    (light : read.recoveryBytes ≤ bounds.maximum)
    (enough : (eventsAfter w.store threadId after).length < fuel) :
    Ensures (besideOthers threadId) (fun _ c => isRead c = true)
      (fun outcome _ => outcome = if bounds.maximum < journalCharge tail then
          .error (.state bounds.overBytes) else .ok ⟨tail, journalCharge tail⟩)
      (pagedEvents threadId bounds fuel after read).run w := by
  induction fuel generalizing after read w with
  | zero => omega
  | succ fuel ih =>
    refine Ensures.callBind fun v relied => ⟨rfl, fun reply u executes => ?_⟩
    obtain ⟨reached', same⟩ := writesOther_later reached relied
    rcases executes with ⟨rfl, rfl⟩ | ⟨never, _⟩
    · have stored := reached'.storedJournal threadId
      have unmoved : eventsAfter w.store threadId after = eventsAfter u.store threadId after := by
        rw [eventsAfter, eventsAfter, same]
      rw [← same] at within
      rw [unmoved] at collected enough
      have falling : Descending sequenceKey (u.store.journal threadId) := stored.ascending
      obtain ⟨k, following⟩ := below_eq_drop falling (some (OrderDual.toDual after))
      rw [← eventsAfter_eq] at following
      obtain ⟨m, paged, valid, some_⟩ := @page_from _ _ _ stored _ _ following snapshotTailPage
        (by decide) (by decide)
      rw [paged]
      simp only [check_ok_bind, valid]
      rw [← following] at some_ ⊢
      have split := List.take_append_drop m (eventsAfter u.store threadId after)
      cases final : ((eventsAfter u.store threadId after).take m).getLast? with
      | none =>
        have ended : eventsAfter u.store threadId after = [] := by
          rw [List.getLast?_eq_none_iff, List.take_eq_nil_iff] at final
          by_contra more
          have := some_ more
          rcases final with rfl | empty
          · omega
          · exact more empty
        rw [ended, List.append_nil] at collected
        rw [← collected, ← charged, if_neg (Nat.not_lt.2 light)]
        exact Ensures.check rfl
      | some last =>
        have later : eventsAfter u.store threadId last.sequence =
            (eventsAfter u.store threadId after).drop m := by
          rw [eventsAfter_eq, eventsAfter_eq]
          rw [eventsAfter_eq] at final
          exact below_of_below falling final
        have whole : (read.events ++ (eventsAfter u.store threadId after).take m) ++
            (eventsAfter u.store threadId after).drop m = tail := by
          rw [List.append_assoc, split, collected]
        have total : read.recoveryBytes +
            journalCharge ((eventsAfter u.store threadId after).take m) ≤ journalCharge tail := by
          rw [← whole, journalCharge_append, journalCharge_append, charged]
          exact Nat.le_add_right _ _
        have sub : (read.events ++ (eventsAfter u.store threadId after).take m).Sublist
            (u.store.journal threadId) :=
          (whole ▸ List.sublist_append_left _ _).trans within
        by_cases heavy : bounds.maximum < read.recoveryBytes +
            journalCharge ((eventsAfter u.store threadId after).take m)
        · rw [if_pos (heavy.trans_le total)]
          simp only [decide_eq_true heavy]
          exact Ensures.check rfl
        · have unseen := rememberEventIds_eq_ok (stored.distinct.sublist (sub.map _))
          have few := sub.length_le.trans stored.short
          have nonempty : 0 < ((eventsAfter u.store threadId after).take m).length := by
            rw [List.length_pos_iff]
            rintro empty
            rw [empty] at final
            cases final
          simp only [decide_eq_false heavy, rejectIf_false, unseen, check_ok_bind,
            decide_eq_false (Nat.not_lt.2 few)]
          refine ih reached' within ?_ ?_ (Nat.le_of_not_lt heavy) ?_
          · rw [later]
            exact whole
          · rw [journalCharge_append, charged]
          · rw [later, List.length_drop]
            rw [List.length_take] at nonempty
            omega
    · exact never.elim

theorem reads_answered (w : World) (c : EngineCall) (read : isRead c = true) :
    ∃ reply u, (besideOthers threadId).exec w c reply u := by
  cases c with
  | threadAccessible | eventsPage | eventById | loadSnapshot | getHead =>
    exact ⟨_, w, .inl ⟨rfl, rfl⟩⟩
  | now => exact ⟨0, w, .inl rfl⟩
  | _ => cases read

theorem returns_of_ensures {α : Type} {task : Task EngineCall EngineReply α} {w : World}
    {outcome : α} (ensures : Ensures (besideOthers threadId) (fun _ c => isRead c = true)
      (fun a _ => a = outcome) task w) : Returns (besideOthers threadId) task w outcome := by
  obtain ⟨trace, a, u, runs⟩ := ensures.exists_run (fun _ => Relation.ReflTransGen.refl) reads_answered
  obtain rfl := ensures.outcome runs
  exact ⟨⟨trace, u, runs⟩, fun _ _ _ other => ensures.outcome other⟩

/-- **A paged read.**  It ends, with exactly the events after its cursor, or with the error of
a read over its bound. -/
theorem pagedEvents_returns {threadId : ThreadId} {w : World} (reached : StoreReachable w.store)
    (bounds : PageBounds) (after : Nat) :
    Returns (besideOthers threadId) (pagedEvents threadId bounds pageFuel after ⟨[], 0⟩).run w
      (readOutcome w.store threadId after bounds) := by
  have sub : (eventsAfter w.store threadId after).Sublist (w.store.journal threadId) :=
    List.filter_sublist
  have short := sub.length_le.trans (reached.storedJournal threadId).short
  refine returns_of_ensures (pagedEvents_ensures reached sub rfl rfl (Nat.zero_le _) ?_)
  simp only [pageFuel]
  omega

/-- A read of a whole Thread is within every bound. -/
theorem checkedEvents_returns {w : World} (reached : StoreReachable w.store)
    (valid : validateStateId "thread" threadId = .ok ()) :
    Returns (besideOthers threadId) (checkedEvents threadId).run w
      (.ok ⟨w.store.journal threadId, journalCharge (w.store.journal threadId)⟩) := by
  have stored := reached.storedJournal threadId
  have whole : eventsAfter w.store threadId 0 = w.store.journal threadId :=
    List.filter_eq_self.2 fun e member => decide_eq_true (stored.positive e member)
  have read := @pagedEvents_returns _ threadId w reached ⟨stateThreadRecoveryByteLimit,
    "Thread exceeds its 67108864-byte recovery boundary",
    "Thread exceeds 1000000 recoverable events"⟩ 0
  rw [readOutcome, whole, if_neg (Nat.not_lt.2 stored.light)] at read
  rw [checkedEvents, valid]
  exact read

end Reading

/-! ## The newest event of each Thread -/

/-- The events of Threads not seen yet, one each. -/
def newestFrom : List ThreadId → List StoredEvent → List StoredEvent
  | _, [] => []
  | seen, e :: events =>
    if e.threadId ∈ seen then newestFrom (e.threadId :: seen) events
    else e :: newestFrom (e.threadId :: seen) events

theorem newestFrom_sublist (seen : List ThreadId) (events : List StoredEvent) :
    (newestFrom seen events).Sublist events := by
  induction events generalizing seen with
  | nil => exact List.Sublist.slnil
  | cons e events ih =>
    rw [newestFrom]
    split
    · exact (ih _).cons e
    · exact (ih _).cons_cons e

theorem mem_newestFrom {seen : List ThreadId} {events : List StoredEvent} {e : StoredEvent} :
    e ∈ newestFrom seen events ↔ e.threadId ∉ seen ∧
      (events.filter fun x => x.threadId == e.threadId).head? = some e := by
  induction events generalizing seen with
  | nil => simp [newestFrom]
  | cons first events ih =>
    rw [newestFrom, List.filter_cons]
    by_cases known : first.threadId ∈ seen
    · rw [if_pos known, ih]
      by_cases same : first.threadId = e.threadId
      · rw [same] at known ⊢
        simp [known]
      · simp [same, Ne.symm same]
    · rw [if_neg known, List.mem_cons, ih]
      by_cases same : first.threadId = e.threadId
      · rw [if_pos (beq_iff_eq.2 same), List.head?_cons, Option.some.injEq]
        rw [same] at known
        simp [same, known, eq_comm]
      · rw [if_neg (by simpa using same)]
        have other : e ≠ first := fun equal => same (by rw [equal])
        simp [other, Ne.symm same]

theorem newestFrom_nodup (seen : List ThreadId) (events : List StoredEvent) :
    ((newestFrom seen events).map (·.threadId)).Nodup := by
  induction events generalizing seen with
  | nil => exact List.nodup_nil
  | cons e events ih =>
    rw [newestFrom]
    split
    · exact ih _
    · rw [List.map_cons, List.nodup_cons]
      refine ⟨fun repeated => ?_, ih _⟩
      obtain ⟨x, member, same⟩ := List.mem_map.1 repeated
      exact (mem_newestFrom.1 member).1 (by simp [same])

/-- The newest event of each Thread of the store, newest first. -/
def MemoryStore.newest (s : MemoryStore) : List StoredEvent :=
  newestFrom [] s.events.reverse

theorem mem_newest {s : MemoryStore} {e : StoredEvent} :
    e ∈ s.newest ↔ (s.journal e.threadId).getLast? = some e := by
  rw [MemoryStore.newest, mem_newestFrom, List.filter_reverse, List.head?_reverse]
  simp [MemoryStore.journal]

/-! ## Pages of summaries -/

namespace MemoryStoreData

/-- The summaries of a tenant's Threads, of events newest first. -/
def summariesOf (data : MemoryStoreData) (tenantId : Option String) (events : List StoredEvent) :
    List ThreadSummary :=
  (events.filter fun e => data.store.streamTenants e.threadId == some tenantId).map
    (data.summarize tenantId)

/-- The summaries of all Threads of a tenant. -/
def tenantThreads (data : MemoryStoreData) (tenantId : Option String) : List ThreadSummary :=
  data.summariesOf tenantId data.store.newest

variable {data : MemoryStoreData} {tenantId : Option String}

theorem summariesFrom_eq {beforeSequence : Option Nat} {limit : Nat} {seen : List ThreadId}
    {page : List ThreadSummary} {events : List StoredEvent} (room : page.length < limit)
    (known : ∀ e ∈ events, data.store.streamVersions e.threadId ≠ 0) :
    data.summariesFrom tenantId beforeSequence limit seen page events =
      .ok (page ++ (below (·.lastSequence) beforeSequence
        (data.summariesOf tenantId (newestFrom seen events))).take (limit - page.length)) := by
  induction events generalizing seen page with
  | nil => simp [summariesFrom, newestFrom, summariesOf, below]
  | cons e events ih =>
    have rest := fun page room => @ih (e.threadId :: seen) page room fun x member =>
      known x (List.mem_cons_of_mem _ member)
    have recorded : (data.store.streamVersions e.threadId == 0) = false :=
      beq_eq_false_iff_ne.2 (known e List.mem_cons_self)
    rw [summariesFrom, newestFrom]
    by_cases repeated : e.threadId ∈ seen
    · rw [if_pos (.inl repeated), if_pos repeated, rest page room]
    · rw [if_neg repeated]
      by_cases skipped : beforeSequence.any (fun before => decide (before ≤ e.sequence)) ∨
          data.store.streamTenants e.threadId ≠ some tenantId
      · rw [if_pos (.inr skipped), rest page room, summariesOf, summariesOf, List.filter_cons]
        congr 3
        split
        · rename_i owned
          have behind := skipped.resolve_right fun other => other (by simpa using owned)
          cases beforeSequence with
          | none => cases behind
          | some before =>
            rw [List.map_cons, below_cons_of_not_lt]
            simpa [summarize] using behind
        · rfl
      · obtain ⟨early, owned⟩ := not_or.1 skipped
        have within : ∀ before, beforeSequence = some before →
            (data.summarize tenantId e).lastSequence < before := by
          rintro before rfl
          simpa [summarize] using early
        rw [if_neg (by simp [repeated, early, owned]), recorded, rejectIf_false, ok_bind,
          summariesOf, List.filter_cons_of_pos (by simpa using owned), List.map_cons,
          below_cons_of_lt within]
        dsimp only
        by_cases full : (page ++ [data.summarize tenantId e]).length = limit
        · have last : limit - page.length = 1 := by
            rw [List.length_append, List.length_singleton] at full
            omega
          rw [if_pos full, last, List.take_succ_cons, List.take_zero]
        · have more : (page ++ [data.summarize tenantId e]).length < limit := by
            rw [List.length_append, List.length_singleton] at full ⊢
            omega
          have left : limit - page.length =
              (limit - (page ++ [data.summarize tenantId e]).length) + 1 := by
            rw [List.length_append, List.length_singleton] at more ⊢
            omega
          rw [if_neg full, rest _ more, left, List.take_succ_cons, List.append_assoc,
            List.singleton_append]
          rfl

end MemoryStoreData

/-! ## Stores with names and lineages -/

section Data

variable [Sha256]

/-- The stores that accepted appends and atomic stream creations lead to. -/
inductive DataReachable : MemoryStoreData → Prop
  | empty : DataReachable .empty
  | append {data data' : MemoryStoreData} {pending : PendingEvent} {result : EventAppendResult}
      (reached : DataReachable data) (appended : data.append pending = .ok (data', result)) :
      DataReachable data'
  | create {data data' : MemoryStoreData} {threadId : ThreadId} {events : List NewStreamEvent}
      {stored : List StoredEvent} (reached : DataReachable data)
      (created : data.createStream threadId events = .ok (data', stored)) : DataReachable data'

/-- Every entry of a table is what one of these events says. -/
def Traced {α : Type} (table : ThreadId → Option α) (tells : α → StateEvent)
    (events : List StoredEvent) : Prop :=
  ∀ threadId a, table threadId = some a → ∃ e ∈ events, e.event = tells a

omit [Sha256] in
theorem Traced.later {α : Type} {table table' : ThreadId → Option α} {tells : α → StateEvent}
    {events events' : List StoredEvent} (traced : Traced table tells events)
    (earlier : events ⊆ events') (entries : ∀ threadId a, table' threadId = some a →
      table threadId = some a ∨ ∃ e ∈ events', e.event = tells a) : Traced table' tells events' := by
  intro threadId a found
  rcases entries threadId a found with old | new
  · obtain ⟨e, member, said⟩ := traced threadId a old
    exact ⟨e, earlier member, said⟩
  · exact new

/-- A recorded name or lineage comes from an event of the store. -/
structure Recorded (data : MemoryStoreData) : Prop where
  names : Traced data.streamNames (fun name => .threadNamed (some name)) data.store.events
  lineages : Traced data.streamLineages .threadForked data.store.events

variable {authority : AuthorityContext} {data data' : MemoryStoreData} {threadId other : ThreadId}
  {tenantId : Option String}

/-- An accepted append changes nothing, or stores its event and records what it says. -/
theorem append_cases {pending : PendingEvent} {result : EventAppendResult}
    (appended : data.append pending = .ok (data', result)) :
    data.store.appendClassified pending = .ok (data'.store, result) ∧
      (data' = data ∨ (Applied data.store pending data'.store ∧
        data'.streamNames =
          MemoryStoreData.recordName data.streamNames pending.threadId pending.event ∧
        data'.streamLineages =
          MemoryStoreData.recordLineage data.streamLineages pending.threadId pending.event)) := by
  obtain ⟨⟨store, event, disposition⟩, stored, rest⟩ := bind_eq_ok.1 appended
  rcases appendClassified_eq_ok.1 stored with ⟨rfl, rfl, _⟩ | ⟨rfl, _, applied⟩
  · cases rest
    exact ⟨stored, .inl rfl⟩
  · cases rest
    exact ⟨stored, .inr ⟨applied, rfl, rfl⟩⟩

theorem create_cases {threadId : ThreadId} {events : List NewStreamEvent}
    {stored : List StoredEvent} (created : data.createStream threadId events = .ok (data', stored)) :
    data.store.createStreamAtomic threadId events = .ok (data'.store, stored) ∧
      data'.streamNames = MemoryStoreData.insertSome data.streamNames threadId
        (MemoryStoreData.finalStreamName stored) ∧
      data'.streamLineages = MemoryStoreData.insertSome data.streamLineages threadId
        (MemoryStoreData.finalStreamLineage stored) := by
  obtain ⟨⟨store, stored'⟩, made, rest⟩ := bind_eq_ok.1 created
  cases rest
  exact ⟨made, rfl, rfl⟩

theorem DataReachable.store {data : MemoryStoreData} (reached : DataReachable data) :
    StoreReachable data.store := by
  induction reached with
  | empty => exact .empty
  | append _ appended ih => exact .step ih (.append (append_cases appended).1)
  | create _ created ih => exact .step ih (.create (create_cases created).1)

omit [Sha256] in
/-- A table that is updated at one Thread by a value has entries that were there or are new. -/
theorem updated_entry {α : Type} {table : ThreadId → Option α} {value : Option α} {entry : α}
    (found : Function.update table threadId value other = some entry) :
    table other = some entry ∨ value = some entry := by
  rw [Function.update_apply] at found
  split at found
  · exact .inr found
  · exact .inl found

omit [Sha256] in
theorem inserted_entry {α : Type} {table : ThreadId → Option α} {value : Option α} {entry : α}
    (found : MemoryStoreData.insertSome table threadId value other = some entry) :
    table other = some entry ∨ value = some entry := by
  cases value with
  | none => exact .inl found
  | some value => exact updated_entry found

theorem DataReachable.recorded {data : MemoryStoreData} (reached : DataReachable data) :
    Recorded data := by
  induction reached with
  | empty =>
    constructor
    · rintro threadId name ⟨⟩
    · rintro threadId lineage ⟨⟩
  | @append data data' pending result _ appended ih =>
    rcases (append_cases appended).2 with rfl | ⟨applied, names, lineages⟩
    · exact ih
    · have added : data.store.nextStored pending ∈ data'.store.events := by
        simp [applied.events]
      have earlier : data.store.events ⊆ data'.store.events := by simp [applied.events]
      refine ⟨ih.names.later earlier fun threadId name found => ?_,
        ih.lineages.later earlier fun threadId lineage found => ?_⟩
      · rw [names] at found
        cases event : pending.event <;> rw [event] at found
        case threadNamed name' =>
          refine (updated_entry found).imp id fun same => ⟨_, added, ?_⟩
          rw [← same]
          exact event
        all_goals exact .inl found
      · rw [lineages] at found
        cases event : pending.event <;> rw [event] at found
        case threadForked lineage' =>
          refine (updated_entry found).imp id fun same => ⟨_, added, ?_⟩
          rw [← Option.some.inj same]
          exact event
        all_goals exact .inl found
  | @create data data' created events stored _ made ih =>
    obtain ⟨store, names, lineages⟩ := create_cases made
    obtain ⟨rfl, creates⟩ := createStreamAtomic_eq_ok store
    have earlier : data.store.events ⊆ data'.store.events := by simp [creates.grows]
    have added : numberNewEvents created data.store.events.length events ⊆
        data'.store.events := by
      simp [creates.grows]
    refine ⟨ih.names.later earlier fun threadId name found => ?_,
      ih.lineages.later earlier fun threadId lineage found => ?_⟩
    · rw [names] at found
      refine (inserted_entry found).imp id fun new => ?_
      have member := List.mem_of_getLast? (Option.join_eq_some_iff.1 new)
      obtain ⟨e, stored, named⟩ := List.mem_filterMap.1 member
      refine ⟨e, added stored, ?_⟩
      cases event : e.event <;> rw [event] at named <;> cases named
      rfl
    · rw [lineages] at found
      refine (inserted_entry found).imp id fun new => ?_
      obtain ⟨e, stored, forked⟩ := List.exists_of_findSome?_eq_some new
      refine ⟨e, added stored, ?_⟩
      cases event : e.event <;> rw [event] at forked <;> cases forked
      rfl

/-! ## A listing -/

omit [Sha256]

/-- The recorded fork of each Thread of a tenant is of another Thread, at a boundary before
the latest event of its own. -/
def LineagesSound (data : MemoryStoreData) (tenantId : Option String) : Prop :=
  ∀ threadId lineage, creationTenant (data.store.journal threadId) = some tenantId →
    data.streamLineages threadId = some lineage → lineage.parentThreadId ≠ threadId ∧
      lineage.parentThroughSequence < lastSequenceOr 0 (data.store.journal threadId)

/-- Every Thread of the tenant once, the one with the latest event first. -/
structure ListsThreads (data : MemoryStoreData) (tenantId : Option String)
    (all : List ThreadSummary) : Prop where
  threads : ∀ threadId, threadId ∈ all.map (·.threadId) ↔
    creationTenant (data.store.journal threadId) = some tenantId
  once : (all.map (·.threadId)).Nodup
  latest : ∀ summary ∈ all,
    summary.lastSequence = lastSequenceOr 0 (data.store.journal summary.threadId)
  falling : Descending (·.lastSequence) all

/-- What a listing checks of a summary on its own. -/
structure SummaryValid (summary : ThreadSummary) : Prop where
  identity : validateStateId "Thread summary" summary.threadId = .ok ()
  name : validateThreadName summary.name = .ok ()
  lineage : checkSome validateThreadLineage summary.lineage = .ok ()
  direct : ∀ lineage, summary.lineage = some lineage →
    lineage.parentThreadId ≠ summary.threadId ∧
      lineage.parentThroughSequence < summary.lastSequence
  started : 0 < summary.streamVersion
  counted : summary.streamVersion ≤ summary.lastSequence

theorem validateSummariesFrom_ok {summaries : List ThreadSummary} {previous : Option Nat}
    {identities : List ThreadId} (valid : ∀ summary ∈ summaries, SummaryValid summary)
    (falling : Descending (·.lastSequence) summaries)
    (distinct : (summaries.map (·.threadId)).Nodup)
    (under : ∀ summary ∈ summaries, ∀ cursor, previous = some cursor →
      summary.lastSequence < cursor)
    (unseen : ∀ summary ∈ summaries, summary.threadId ∉ identities) :
    validateSummariesFrom previous identities summaries = .ok () := by
  induction summaries generalizing previous identities with
  | nil => rfl
  | cons summary summaries ih =>
    obtain ⟨identity, name, lineage, direct, started, counted⟩ := valid summary List.mem_cons_self
    obtain ⟨behind, sorted⟩ := List.pairwise_cons.1 falling
    rw [List.map_cons, List.nodup_cons] at distinct
    have ancestry : (summary.lineage.any fun lineage =>
        lineage.parentThreadId == summary.threadId ||
          decide (summary.lastSequence ≤ lineage.parentThroughSequence)) = false := by
      cases forked : summary.lineage with
      | none => rfl
      | some lineage =>
        obtain ⟨other, before⟩ := direct lineage forked
        simp [other, before]
    have ordered : (previous.any fun cursor => decide (cursor ≤ summary.lastSequence)) = false := by
      cases previous with
      | none => rfl
      | some cursor => simpa using under summary List.mem_cons_self cursor rfl
    have fresh : summary.threadId ∉ identities := unseen summary List.mem_cons_self
    have placed : (summary.lastSequence == 0 || summary.streamVersion == 0 ||
        decide (summary.lastSequence < summary.streamVersion) ||
        previous.any (fun cursor => decide (cursor ≤ summary.lastSequence)) ||
        decide (summary.threadId ∈ identities)) = false := by
      rw [ordered, decide_eq_false fresh, decide_eq_false (Nat.not_lt.2 counted)]
      simp only [Bool.or_false, Bool.or_eq_false_iff, beq_eq_false_iff_ne]
      omega
    rw [validateSummariesFrom, identity, ok_bind, name, ok_bind, lineage, ok_bind, ancestry,
      rejectIf_false, ok_bind, placed, rejectIf_false, ok_bind]
    refine ih (fun one member => valid one (List.mem_cons_of_mem _ member)) sorted distinct.2
      ?_ fun one member => ?_
    · rintro one member _ ⟨⟩
      exact behind one member
    · rw [List.mem_cons, not_or]
      exact ⟨fun same => distinct.1 (same ▸ List.mem_map_of_mem member),
        unseen one (List.mem_cons_of_mem _ member)⟩

/-- One page of a listing, and the cursor of the next. -/
def listPage (data : MemoryStoreData) (limit : Nat) (authority : AuthorityContext)
    (cursor : Option Nat) : Except HarnessError (List ThreadSummary × Option Nat) :=
  (data.listThreadsAs limit authority cursor).map fun page =>
    (page.threads, page.nextBeforeSequence)

variable [Sha256] {data : MemoryStoreData}

/-- The summary of a tenant's Thread is of its latest event. -/
theorem mem_tenantThreads (wf : StoreWF data.store) {summary : ThreadSummary} :
    summary ∈ data.tenantThreads tenantId ↔
      ∃ e, (data.store.journal e.threadId).getLast? = some e ∧
        creationTenant (data.store.journal e.threadId) = some tenantId ∧
        data.summarize tenantId e = summary := by
  simp only [MemoryStoreData.tenantThreads, MemoryStoreData.summariesOf, List.mem_map,
    List.mem_filter, mem_newest, beq_iff_eq, wf.tenants, and_assoc]

omit [Sha256] in
theorem lastSequenceOr_of_last {events : List StoredEvent} {e : StoredEvent}
    (is_last : events.getLast? = some e) : lastSequenceOr 0 events = e.sequence := by
  rw [lastSequenceOr, is_last]
  rfl

theorem tenantThreads_lists (wf : StoreWF data.store) (tenantId : Option String) :
    ListsThreads data tenantId (data.tenantThreads tenantId) := by
  have sub : (data.tenantThreads tenantId).map (·.threadId) =
      (data.store.newest.filter fun e =>
        data.store.streamTenants e.threadId == some tenantId).map (·.threadId) := by
    rw [MemoryStoreData.tenantThreads, MemoryStoreData.summariesOf, List.map_map]
    rfl
  refine ⟨fun threadId => ?_, ?_, fun summary member => ?_, ?_⟩
  · simp only [List.mem_map, mem_tenantThreads wf]
    constructor
    · rintro ⟨_, ⟨e, _, owned, rfl⟩, rfl⟩
      exact owned
    · intro owned
      cases is_last : (data.store.journal threadId).getLast? with
      | none =>
        rw [List.getLast?_eq_none_iff.1 is_last] at owned
        cases owned
      | some e =>
        obtain rfl := (mem_journal.1 (List.mem_of_getLast? is_last)).2
        exact ⟨_, ⟨e, is_last, owned, rfl⟩, rfl⟩
  · rw [sub]
    exact (newestFrom_nodup _ _).sublist (List.filter_sublist.map _)
  · obtain ⟨e, is_last, _, rfl⟩ := (mem_tenantThreads wf).1 member
    exact (lastSequenceOr_of_last is_last).symm
  · have sorted : Ascending data.store.events := ascending_of_sequences wf.sequences
    exact List.pairwise_map.2 ((List.pairwise_reverse.2 sorted).sublist
      (List.filter_sublist.trans (newestFrom_sublist _ _)))

theorem tenantThreads_valid (reached : DataReachable data) (sound : LineagesSound data tenantId) :
    ∀ summary ∈ data.tenantThreads tenantId, SummaryValid summary := by
  intro summary member
  have wf := reached.store.wf
  have recorded := reached.recorded
  obtain ⟨e, is_last, owned, rfl⟩ := (mem_tenantThreads wf).1 member
  have stored := reached.store.storedJournal e.threadId
  have nonempty : 0 < (data.store.journal e.threadId).length :=
    List.length_pos_of_mem (List.mem_of_getLast? is_last)
  have count := stored.ascending.length_le stored.positive
  rw [lastSequenceOr_of_last is_last] at count
  have valid : ∀ {x}, x ∈ data.store.events → validateStateEvent x.event = .ok () := by
    intro x among
    obtain ⟨charge, checked⟩ := wf.valid x among
    exact (validateStoredEvent_eq_ok.1 checked).2.2.2.1
  obtain ⟨charge, checked⟩ := wf.valid e (mem_journal.1 (List.mem_of_getLast? is_last)).1
  have identity := (validateStoredEvent_eq_ok.1 checked).2.2.1
  refine ⟨?_, ?_, ?_, fun lineage forked => ?_, ?_, ?_⟩
  · rw [validateStateId, rejectIf_eq_ok] at identity ⊢
    exact identity
  · show validateThreadName (data.streamNames e.threadId) = .ok ()
    cases named : data.streamNames e.threadId with
    | none => rfl
    | some name =>
      obtain ⟨x, among, event⟩ := recorded.names _ _ named
      simpa [event, validateStateEvent] using valid among
  · refine checkSome_eq_ok.2 fun lineage forked => ?_
    obtain ⟨x, among, event⟩ := recorded.lineages _ _ forked
    simpa [event, validateStateEvent] using valid among
  · have direct := sound e.threadId lineage owned forked
    rwa [lastSequenceOr_of_last is_last] at direct
  · show 0 < data.store.streamVersions e.threadId
    rw [wf.versions]
    exact nonempty
  · show data.store.streamVersions e.threadId ≤ e.sequence
    rw [wf.versions]
    exact count

theorem listPage_eq (reached : DataReachable data) {limit : Nat}
    (trusted : authority.validateCurrent "Thread listing authority" = .ok ()) (positive : 1 ≤ limit)
    (small : limit ≤ maxThreadSummaryPage) (sound : LineagesSound data authority.tenantId)
    {cursor : Option Nat} (nonzero : cursor ≠ some 0) :
    listPage data limit authority cursor =
      .ok (keysetPage (·.lastSequence) (data.tenantThreads authority.tenantId) limit cursor) := by
  have wf := reached.store.wf
  obtain ⟨_, once, _, falling⟩ := tenantThreads_lists wf authority.tenantId
  have valid := tenantThreads_valid reached sound
  have known : ∀ e ∈ data.store.events.reverse, data.store.streamVersions e.threadId ≠ 0 := by
    intro e member
    rw [wf.versions, Ne, List.length_eq_zero_iff]
    exact List.ne_nil_of_mem (mem_journal.2 ⟨List.mem_reverse.1 member, rfl⟩)
  have owned : ∀ summary ∈ data.tenantThreads authority.tenantId,
      summary.tenantId = authority.tenantId := by
    intro summary member
    obtain ⟨e, _, _, rfl⟩ := (mem_tenantThreads wf).1 member
    rfl
  have fetched : data.threadSummariesPage authority.tenantId cursor (limit + 1) =
      .ok ((below (·.lastSequence) cursor (data.tenantThreads authority.tenantId)).take
        (limit + 1)) := by
    have request : MemoryStoreData.validateThreadSummaryPageRequest cursor (limit + 1) = .ok () := by
      have fits : ¬ maxThreadSummaryPage + 1 < limit + 1 := by omega
      simp [MemoryStoreData.validateThreadSummaryPageRequest, rejectIf, fits, nonzero]
    rw [MemoryStoreData.threadSummariesPage, request, ok_bind,
      MemoryStoreData.summariesFrom_eq (Nat.succ_pos limit) known]
    rfl
  have sub : ((below (·.lastSequence) cursor (data.tenantThreads authority.tenantId)).take
      (limit + 1)).Sublist (data.tenantThreads authority.tenantId) :=
    (List.take_sublist _ _).trans List.filter_sublist
  have under : ∀ summary ∈ below (·.lastSequence) cursor (data.tenantThreads authority.tenantId),
      ∀ bound, cursor = some bound → summary.lastSequence < bound := by
    rintro summary member bound rfl
    exact (mem_below.1 member).2
  rw [listPage, MemoryStoreData.listThreadsAs, trusted, ok_bind, decide_eq_true positive,
    decide_eq_true small, Bool.and_self, Bool.not_true, rejectIf_false, ok_bind,
    beq_eq_false_iff_ne.2 nonzero, rejectIf_false, ok_bind, fetched, ok_bind, keysetPage]
  generalize below (·.lastSequence) cursor (data.tenantThreads authority.tenantId) = found at *
  have inside : ((found.take (limit + 1)).any fun thread =>
      thread.tenantId != authority.tenantId) = false := by
    rw [List.any_eq_false]
    intro summary member
    simp [owned summary (sub.mem member)]
  have checked : validateThreadSummaries (found.take (limit + 1)) cursor (limit + 1) = .ok () := by
    rw [validateThreadSummaries, decide_eq_false (by rw [List.length_take]; omega), rejectIf_false,
      ok_bind]
    exact validateSummariesFrom_ok (fun one member => valid one (sub.mem member))
      (falling.sublist sub) (once.sublist (sub.map _))
      (fun one member => under one (List.mem_of_mem_take member)) (by simp)
  rw [inside, rejectIf_false, ok_bind, checked, ok_bind]
  by_cases more : limit < found.length
  · have counted : limit < (found.take (limit + 1)).length := by
      rw [List.length_take]
      omega
    rw [decide_eq_true counted, if_pos more]
    simp [Except.map, List.take_take]
  · have counted : ¬ limit < (found.take (limit + 1)).length := by
      rw [List.length_take]
      omega
    have whole : found.take (limit + 1) = found.take limit := by
      rw [List.take_of_length_le (by omega), List.take_of_length_le (by omega)]
    rw [decide_eq_false counted, if_neg more, whole]
    rfl

/-- **A listing.**  Following the cursors yields every Thread of the tenant once. -/
theorem listing_complete (reached : DataReachable data) {limit : Nat}
    (trusted : authority.validateCurrent "Thread listing authority" = .ok ()) (positive : 1 ≤ limit)
    (small : limit ≤ maxThreadSummaryPage) (sound : LineagesSound data authority.tenantId) :
    ∃ all, ListsThreads data authority.tenantId all ∧
      ∀ other, Pages (listPage data limit authority) none other ↔ other = all := by
  have lists := tenantThreads_lists reached.store.wf authority.tenantId
  have valid := tenantThreads_valid reached sound
  have followed : Pages (listPage data limit authority) none
      (below (·.lastSequence) none (data.tenantThreads authority.tenantId)) := by
    refine pages_complete lists.falling positive (fun cursor => cursor ≠ some 0)
      (fun summary member => ?_) (fun cursor nonzero => ?_) (by simp)
    · have started := (valid summary member).started
      have counted := (valid summary member).counted
      simp only [ne_eq, Option.some.injEq]
      omega
    · exact listPage_eq reached trusted positive small sound nonzero
  rw [below_none] at followed
  refine ⟨_, lists, fun other => ⟨fun read => read.unique followed, ?_⟩⟩
  rintro rfl
  exact followed

end Data

/-- **Main theorem.**  Paging is complete: reads of a Thread end with all its events, while
other Threads are written, and a listing with all Threads of the tenant, each once. -/
theorem paging_complete [Sha256] (data : MemoryStoreData) (reached : DataReachable data) :
    (∀ threadId, Ascending (data.store.journal threadId)) ∧
      (∀ e ∈ data.store.events, validateStateId "thread" e.threadId = .ok ()) ∧
      (∀ (w : World) threadId, w.store = data.store →
        validateStateId "thread" threadId = .ok () →
        Returns (besideOthers threadId) (checkedEvents threadId).run w
          (.ok ⟨data.store.journal threadId, journalCharge (data.store.journal threadId)⟩)) ∧
      (∀ (w : World) threadId through maximum, w.store = data.store →
        Returns (besideOthers threadId) (snapshotTail threadId through maximum).run w
          (if maximum < journalCharge (eventsAfter data.store threadId through) then
            .error (.state "snapshot tail exceeds the Thread recovery-byte boundary")
          else .ok ⟨eventsAfter data.store threadId through,
            journalCharge (eventsAfter data.store threadId through)⟩)) ∧
      (∀ limit authority,
        AuthorityContext.validateCurrent "Thread listing authority" authority = .ok () →
        1 ≤ limit → limit ≤ maxThreadSummaryPage → LineagesSound data authority.tenantId →
        ∃ all, ListsThreads data authority.tenantId all ∧
          ∀ other, Pages (listPage data limit authority) none other ↔ other = all) := by
  refine ⟨fun threadId => (reached.store.storedJournal threadId).ascending, fun e member => ?_,
    fun w threadId same valid => ?_, fun w threadId through maximum same => ?_,
    fun limit authority trusted positive small sound =>
      listing_complete reached trusted positive small sound⟩
  · obtain ⟨charge, checked⟩ := reached.store.wf.valid e member
    exact (validateStoredEvent_eq_ok.1 checked).2.2.1
  · rw [← same]
    exact checkedEvents_returns (same ▸ reached.store) valid
  · rw [← same]
    exact pagedEvents_returns (same ▸ reached.store) _ through

section Sample

attribute [local instance] constantSha256

/-- Two Threads, of which the first one is named after the second one was created. -/
def createSamples : List PendingEvent :=
  [⟨"event-1", "thread-1", 0, 0, 1, .threadCreated 1 none⟩,
    ⟨"event-2", "thread-2", 0, 0, 1, .threadCreated 1 none⟩,
    ⟨"event-3", "thread-1", 1, recoveryCharge (.threadCreated 1 none), 1,
      .threadNamed (some "first")⟩]

def createdSample : MemoryStoreData :=
  createSamples.foldl (fun data pending =>
    (data.append pending).toOption.elim data Prod.fst) .empty

theorem createdSample_reachable : DataReachable createdSample := by
  refine createSamples.foldlRecOn _ .empty fun data reached pending _ => ?_
  cases appended : data.append pending with
  | error error => exact reached
  | ok result => exact .append reached appended

/-- The reads of both Threads, and a listing in two pages. -/
theorem paging_complete_sample :
    (createdSample.store.journal "thread-1").map (·.sequence) = [1, 3] ∧
      Returns (besideOthers "thread-1") (checkedEvents "thread-1").run
        ⟨createdSample.store, fun _ _ => none, [], []⟩
        (.ok ⟨createdSample.store.journal "thread-1",
          journalCharge (createdSample.store.journal "thread-1")⟩) ∧
      ∃ first second, ListsThreads createdSample none (first ++ second) ∧
        listPage createdSample 1 ⟨.localProcess, none⟩ none = .ok (first, some 3) ∧
        listPage createdSample 1 ⟨.localProcess, none⟩ (some 3) = .ok (second, none) ∧
        (first ++ second).map (·.threadId) = ["thread-1", "thread-2"] := by
  obtain ⟨_, _, reads, _, lists⟩ := paging_complete createdSample createdSample_reachable
  have sound : LineagesSound createdSample none := by
    intro threadId lineage _ forked
    cases forked
  obtain ⟨all, listed, pages⟩ := lists 1 ⟨.localProcess, none⟩ (by decide) le_rfl (by decide) sound
  obtain ⟨first, read⟩ : ∃ first, listPage createdSample 1 ⟨.localProcess, none⟩ none =
      .ok (first, some 3) ∧ first.map (·.threadId) = ["thread-1"] := ⟨_, rfl, rfl⟩
  obtain ⟨second, read'⟩ : ∃ second, listPage createdSample 1 ⟨.localProcess, none⟩ (some 3) =
      .ok (second, none) ∧ second.map (·.threadId) = ["thread-2"] := ⟨_, rfl, rfl⟩
  obtain rfl := (pages (first ++ second)).1 (.more read.1 (.last read'.1))
  refine ⟨by decide +kernel, reads _ _ rfl (by decide), first, second, listed, read.1, read'.1, ?_⟩
  rw [List.map_append, read.2, read'.2]
  rfl

end Sample

/-! ## A far boundary -/

/-- A new stream that says it was forked at the hundredth event of another. -/
def farFork : List NewStreamEvent :=
  [⟨"event-1", stateEventSchemaVersion, 1, .threadCreated 1 none⟩,
    ⟨"event-2", stateEventSchemaVersion, 1, .threadForked ⟨"parent", 100, 1,
      "e3b0c44298fc1c149afbf4c8996fb92427ae41e4649b934ca495991b7852b855"⟩⟩]

/-- The store accepts such a stream, and no listing of its tenant succeeds. -/
theorem far_fork_not_listed :
    ∃ data stored, @MemoryStoreData.createStream constantSha256 .empty "fork" farFork =
        .ok (data, stored) ∧ @DataReachable constantSha256 data ∧
      creationTenant (data.store.journal "fork") = some none ∧
      ∀ all, ¬ Pages (listPage data 10 ⟨.localProcess, none⟩) none all := by
  let _ := constantSha256
  obtain ⟨data, stored, created⟩ : ∃ data stored,
      MemoryStoreData.createStream .empty "fork" farFork = .ok (data, stored) := ⟨_, _, rfl⟩
  have tenant : ((MemoryStoreData.createStream .empty "fork" farFork).map fun made =>
      creationTenant (made.1.store.journal "fork")) = .ok (some none) := by rfl
  have refused : ((MemoryStoreData.createStream .empty "fork" farFork).bind fun made =>
      listPage made.1 10 ⟨.localProcess, none⟩ none) =
      .error (.state "Thread summary contains invalid direct lineage") := by rfl
  rw [created] at tenant refused
  refine ⟨data, stored, created, .create .empty created, Except.ok.inj tenant, fun all listed => ?_⟩
  have failed : listPage data 10 ⟨.localProcess, none⟩ none =
    .error (.state "Thread summary contains invalid direct lineage") := refused
  cases listed with
  | last read =>
    rw [failed] at read
    cases read
  | more read _ =>
    rw [failed] at read
    cases read

end YHarness.State
