/-
# YHarness.State.Reading -- what a paged read of a Thread returns

What a reader relies on of a stored journal (`StoredJournal`), and the page that follows a
cursor (`page_from`): the next events of the journal, at least one if there is one.
-/
import YHarness.State.Engine
import YHarness.State.Reserve

namespace YHarness.State

open YHarness.Lib YHarness.Kernel

set_option autoImplicit false

/-! ## The journal of one Thread -/

variable {events : List StoredEvent}

theorem ascending_of_sequences (numbered : ∀ i e, events[i]? = some e → e.sequence = i + 1) :
    events.Pairwise fun a b => a.sequence < b.sequence := by
  rw [List.pairwise_iff_getElem]
  intro i j hi hj lt
  have first := numbered i _ (List.getElem?_eq_getElem hi)
  have second := numbered j _ (List.getElem?_eq_getElem hj)
  omega

/-- Sequences grow along a journal. -/
def Ascending (events : List StoredEvent) : Prop :=
  events.Pairwise fun a b => a.sequence < b.sequence

theorem Ascending.length_le (ascending : Ascending events) (positive : ∀ e ∈ events, 0 < e.sequence) :
    events.length ≤ lastSequenceOr 0 events := by
  induction events using List.reverseRecOn with
  | nil => exact Nat.zero_le _
  | append_singleton events e ih =>
    obtain ⟨earlier, _, below⟩ := List.pairwise_append.1 ascending
    have shorter := ih earlier fun x member => positive x (by simp [member])
    have lower : lastSequenceOr 0 events < e.sequence := by
      rw [lastSequenceOr]
      cases final : events.getLast? with
      | none => exact positive e (by simp)
      | some last => exact below last (List.mem_of_getLast? final) e (by simp)
    simp only [lastSequenceOr, List.length_append, List.length_singleton, List.getLast?_append,
      List.getLast?_singleton, Option.some_or, Option.map_some, Option.getD_some]
    omega

/-- The calls that change nothing. -/
def isRead : EngineCall → Bool
  | .threadAccessible _ _ | .eventsPage _ _ _ _ | .eventById _ | .loadSnapshot _ | .getHead _ _
  | .now => true
  | _ => false

/-- What a reader relies on of a stored journal. -/
structure StoredJournal [Sha256] (threadId : ThreadId) (events : List StoredEvent) : Prop where
  journal : JournalOf threadId events
  ascending : Ascending events
  positive : ∀ e ∈ events, 0 < e.sequence
  distinct : (events.map (·.eventId)).Nodup
  short : events.length ≤ maxStateRecoveryEvents
  light : journalCharge events ≤ stateThreadRecoveryByteLimit

section

variable [Sha256]

theorem Applied.bounded {s s' : MemoryStore} {pending : PendingEvent} (wf : StoreWF s)
    (applied : Applied s pending s') {threadId : ThreadId}
    (bounded : (s.journal threadId).length ≤ maxStateRecoveryEvents ∧
      journalCharge (s.journal threadId) ≤ stateThreadRecoveryByteLimit) :
    (s'.journal threadId).length ≤ maxStateRecoveryEvents ∧
      journalCharge (s'.journal threadId) ≤ stateThreadRecoveryByteLimit := by
  rw [applied.journal]
  split
  · rename_i same
    subst same
    obtain ⟨_, _, below, _, _, _, _, _, bytes⟩ := validatePendingEvent_eq_ok.1 applied.pendingValid
    rw [← applied.version, wf.versions] at below
    rw [← applied.bytes, wf.charges] at bytes
    have light : journalCharge (s.journal pending.threadId) + recoveryCharge pending.event ≤
        stateThreadRecoveryByteLimit := by
      refine bytes.trans ?_
      split
      · exact le_rfl
      · exact Nat.sub_le _ _
    constructor
    · rw [List.length_append, List.length_singleton]
      exact below
    · simpa [journalCharge, MemoryStore.nextStored] using light
  · exact bounded

/-- No journal outgrows what a reader accepts. -/
theorem StoreReachable.bounded {s : MemoryStore} (reached : StoreReachable s)
    (threadId : ThreadId) : (s.journal threadId).length ≤ maxStateRecoveryEvents ∧
      journalCharge (s.journal threadId) ≤ stateThreadRecoveryByteLimit := by
  induction reached with
  | empty => simp [MemoryStore.empty, MemoryStore.journal, journalCharge]
  | step earlier step bounded =>
    rcases step.cases_applied with ⟨_, applied⟩ | ⟨created, events, creates⟩ | ⟨snapshots, rfl⟩
    · exact applied.bounded earlier.wf bounded
    · by_cases same : threadId = created
      · subst same
        obtain ⟨thread, stream⟩ := creates.stream
        rw [creates.journal_self earlier.wf, numberNewEvents_length, numberNewEvents_charge]
        have short := stream.short
        have light := stream.light
        simp only [stateThreadEventLimit, stateTerminalEventReserve, maxStateRecoveryEvents]
          at short ⊢
        exact ⟨by omega, light.trans (Nat.sub_le _ _)⟩
      · rw [creates.journal_other same]
        exact bounded
    · exact bounded

theorem StoreReachable.storedJournal {s : MemoryStore} (reached : StoreReachable s)
    (threadId : ThreadId) : StoredJournal threadId (s.journal threadId) := by
  have wf := reached.wf
  obtain ⟨short, light⟩ := reached.bounded threadId
  refine ⟨wf.journalOf threadId, ?_, ?_, ?_, short, light⟩
  · exact (ascending_of_sequences wf.sequences).sublist List.filter_sublist
  · intro e member
    obtain ⟨stored, _⟩ := mem_journal.1 member
    obtain ⟨i, at_⟩ := List.mem_iff_getElem?.1 stored
    rw [wf.sequences i e at_]
    omega
  · exact wf.nodup.sublist (List.filter_sublist.map _)

/-! ## One page -/

theorem recoveryCharge_le_page {threadId : ThreadId} {events : List StoredEvent}
    (journal : JournalOf threadId events) {e : StoredEvent} (member : e ∈ events) :
    encodeStateEvent e.event = .ok (recoveryCharge e.event) ∧
      recoveryCharge e.event ≤ maxStateEventPageRecoveryBytes := by
  obtain ⟨_, charge, valid⟩ := journal e member
  obtain ⟨_, _, _, _, encoded⟩ := validateStoredEvent_eq_ok.1 valid
  obtain ⟨rfl, fits⟩ := encodeStateEvent_eq_ok encoded
  refine ⟨encoded, ?_⟩
  simp only [recoveryCharge, stateEventRecoveryOverheadBytes, maxStateEventBytes,
    maxStateEventPageRecoveryBytes] at fits ⊢
  omega

/-- A page is filled with the events that follow, at least one if there is one. -/
theorem fillPage_eq_ok {threadId : ThreadId} {events page : List StoredEvent} {charged : Nat}
    (journal : JournalOf threadId events)
    (empty : page = [] → charged = 0) :
    ∃ m, fillPage maxStateEventPageRecoveryBytes charged page events =
        .ok (page ++ events.take m) ∧
      (charged ≤ maxStateEventPageRecoveryBytes →
        charged + journalCharge (events.take m) ≤ maxStateEventPageRecoveryBytes) ∧
      (page = [] → events ≠ [] → 0 < m) := by
  induction events generalizing page charged with
  | nil => exact ⟨0, by simp [fillPage], by simp [journalCharge], by simp⟩
  | cons e rest ih =>
    obtain ⟨encoded, fits⟩ := recoveryCharge_le_page journal (List.mem_cons_self)
    rw [fillPage, encoded, ok_bind]
    by_cases exceeds : maxStateEventPageRecoveryBytes < charged + recoveryCharge e.event
    · rw [if_pos exceeds]
      cases page with
      | nil =>
        have zero := empty rfl
        omega
      | cons first others =>
        exact ⟨0, by simp, by simp [journalCharge], by simp⟩
    · rw [if_neg exceeds]
      obtain ⟨m, filled, light, _⟩ := @ih (page ++ [e]) (charged + recoveryCharge e.event)
        (fun x member => journal x (List.mem_cons_of_mem _ member)) (by simp)
      refine ⟨m + 1, by simpa using filled, fun _ => ?_, fun _ _ => Nat.succ_pos m⟩
      have below := light (Nat.not_lt.1 exceeds)
      simp only [List.take_succ_cons, journalCharge, List.map_cons, List.sum_cons] at below ⊢
      omega

theorem validateStoredFrom_eq_ok {threadId : ThreadId} {events : List StoredEvent}
    {previous : Nat} {eventIds : List EventId} (journal : JournalOf threadId events)
    (ascending : Ascending events) (later : ∀ e ∈ events, previous < e.sequence)
    (distinct : (events.map (·.eventId)).Nodup)
    (unseen : ∀ e ∈ events, e.eventId ∉ eventIds) :
    validateStoredFrom threadId previous eventIds events = .ok (journalCharge events) := by
  induction events generalizing previous eventIds with
  | nil => rfl
  | cons e rest ih =>
    obtain ⟨same, charge, valid⟩ := journal e List.mem_cons_self
    have charged : charge = recoveryCharge e.event :=
      (encodeStateEvent_eq_ok (validateStoredEvent_eq_ok.1 valid).2.2.2.2).1
    rw [List.map_cons, List.nodup_cons] at distinct
    have rest_valid := @ih e.sequence (e.eventId :: eventIds)
      (fun x member => journal x (List.mem_cons_of_mem _ member))
      (List.pairwise_cons.1 ascending).2 (fun x member => (List.pairwise_cons.1 ascending).1 x member)
      distinct.2
      (fun x member => by
        rw [List.mem_cons, not_or]
        refine ⟨fun repeated => distinct.1 ?_, unseen x (List.mem_cons_of_mem _ member)⟩
        rw [← repeated]
        exact List.mem_map_of_mem member)
    have first := later e List.mem_cons_self
    have fresh := unseen e List.mem_cons_self
    simp only [validateStoredFrom, valid, ok_bind, same, bne_self_eq_false, rejectIf_false,
      decide_eq_false (Nat.not_le.2 first), decide_eq_false fresh, rest_valid, charged,
      Except.ok.injEq]
    simp [journalCharge]

/-- **One page.**  Reading after a cursor that has the first `k` events of a journal behind it
returns the next ones, at least one if there is one, and they pass validation. -/
theorem page_from {s : MemoryStore} {threadId : ThreadId}
    (stored : StoredJournal threadId (s.journal threadId)) {after k : Nat}
    (following : (s.journal threadId).filter (fun e => decide (after < e.sequence)) =
      (s.journal threadId).drop k) {limit : Nat}
    (positive : 1 ≤ limit) (small : limit ≤ maxStateEventPage) :
    ∃ m, s.eventsPage threadId after limit maxStateEventPageRecoveryBytes =
        .ok (((s.journal threadId).drop k).take m) ∧
      validateStoredEvents threadId (((s.journal threadId).drop k).take m) after limit
          maxStateEventPageRecoveryBytes =
        .ok (journalCharge (((s.journal threadId).drop k).take m)) ∧
      ((s.journal threadId).drop k ≠ [] → 0 < m) := by
  obtain ⟨journal, ascending, _, distinct, _, _⟩ := stored
  rw [MemoryStore.eventsPage]
  generalize s.journal threadId = events at *
  have sub : ((events.drop k).take limit).Sublist events :=
    (List.take_sublist _ _).trans (List.drop_sublist _ _)
  have part : JournalOf threadId ((events.drop k).take limit) :=
    fun e member => journal e (sub.subset member)
  obtain ⟨m, filled, light, some_⟩ := @fillPage_eq_ok _ threadId _ [] 0 part fun _ => rfl
  have request : validateEventPageRequest limit maxStateEventPageRecoveryBytes = .ok () := by
    simp only [validateEventPageRequest, seq_eq_ok, rejectIf_eq_ok, Bool.or_eq_false_iff,
      decide_eq_false_iff_not, Nat.not_lt, beq_eq_false_iff_ne]
    exact ⟨⟨positive, small⟩, by simp [maxStateEventPageRecoveryBytes], le_rfl⟩
  rw [List.nil_append, List.take_take] at filled
  rw [List.take_take] at light
  refine ⟨min m limit, ?_, ?_, fun more => ?_⟩
  · rw [request, ok_bind, following]
    exact filled
  · have page_sub : ((events.drop k).take (min m limit)).Sublist events :=
      (List.take_sublist _ _).trans (List.drop_sublist _ _)
    have later : ∀ e ∈ (events.drop k).take (min m limit), after < e.sequence := by
      intro e member
      have remaining : e ∈ events.drop k := (List.take_sublist _ _).subset member
      rw [← following] at remaining
      simpa using (List.mem_filter.1 remaining).2
    have whole := @validateStoredFrom_eq_ok _ threadId _ _ []
      (fun e member => journal e (page_sub.subset member)) (ascending.sublist page_sub) later
      (distinct.sublist (page_sub.map _)) (by simp)
    have below := light (Nat.zero_le _)
    rw [Nat.zero_add] at below
    have few : ¬ limit < ((events.drop k).take (min m limit)).length := by
      rw [List.length_take]
      omega
    simp only [validateStoredEvents, decide_eq_false few, rejectIf_false, ok_bind, whole,
      decide_eq_false (Nat.not_lt.2 below)]
  · have ready := some_ rfl (by
      cases rest : events.drop k with
      | nil => exact absurd rest more
      | cons e others =>
        cases limit with
        | zero => omega
        | succ n => simp)
    omega

end

end YHarness.State
