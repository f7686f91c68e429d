/-
# YHarness.State.Scan -- what the scan of a Turn's Items can do

One lemma per Item kind that moves the scan of `agent_loop_execution_projection`,
and what follows for the Items one State event appends: plain Items leave the
wait as it was, and the scan is closed exactly by an event that ends its Turn.
-/
import YHarness.State.Validate
import YHarness.State.Execution
import Mathlib.Data.List.Induction

namespace YHarness.State

open YHarness.Lib YHarness.Kernel

set_option autoImplicit false

/-! ## Events that carry Items -/

/-- The Turn and the Items an event appends to it. -/
def carriedItems : StateEvent → Option (TurnId × List Item)
  | .itemAppended turnId item => some (turnId, [item])
  | .toolCallsAppended turnId calls => some (turnId, calls)
  | .waitStarted turnId first transition => some (turnId, [first, transition])
  | .acceptResume turnId first transition => some (turnId, [first, transition])
  | .claimReady turnId transition => some (turnId, [transition])
  | .waitClosed turnId stopped transition _ => some (turnId, [stopped, transition])
  | .denyWait turnId first transition => some (turnId, [first, transition])
  | _ => none

/-- The Items an event appends. -/
def eventItems (event : StateEvent) : List Item :=
  (carriedItems event).elim [] (·.2)

variable {turnId : TurnId} {s s' : ExecutionCursor} {item : Item} {items : List Item}
  {event : StateEvent} {version : Nat} {envelope : TurnWaitEnvelope}

theorem eventItems_of_carried (carried : carriedItems event = some (turnId, items)) :
    eventItems event = items := by
  rw [eventItems, carried]
  rfl

/-- The status a wait event that ends its Turn gives it. -/
def closingStatus : StateEvent → Option TurnStatus
  | .waitClosed _ _ _ status => some status
  | .denyWait _ _ _ => some .failed
  | _ => none

theorem validateStoredSchema_event {e : StoredEvent} {u : Unit}
    (schema : validateStoredSchema e = .ok u) :
    validateStateEventSchema e.event e.schemaVersion = .ok () := by
  simp only [validateStoredSchema, seq_eq_ok] at schema
  exact schema.2.2

/-! ## The open wait of a scan -/

/-- The open wait of a scan: its envelope, revision and last transition time,
where a Ready wait carries a settlement that `admits`. -/
def OpenAt (admits : ResumeEvidence → Prop) (execution : Option AgentLoopExecution)
    (envelope : TurnWaitEnvelope) (revision atMs : UInt64) : Prop :=
  (execution = some (.waiting envelope) ∧ revision = envelope.revision ∧
    atMs = envelope.serverStartedAtMs) ∨
  (∃ resume, execution = some (.ready envelope resume) ∧ admits resume ∧
    revision = resume.revision ∧ atMs = resume.acceptedAtMs)

/-- What a closure or a denial consumes: an open wait whose Ready state admits
it, with the revision it replaces and the time of the last transition. -/
theorem openPhase_eq_ok {noLive executing : String}
    {ready : ResumeEvidence → Except HarnessError Unit} {execution : Option AgentLoopExecution}
    {revision atMs : UInt64} :
    openPhase noLive executing ready execution = .ok (envelope, revision, atMs) ↔
      OpenAt (ready · = .ok ()) execution envelope revision atMs := by
  unfold OpenAt
  rcases execution with _ | (waiting | ⟨waiting, resume⟩ | _)
  · simp [openPhase]
  · simp only [openPhase, Except.ok.injEq, Prod.mk.injEq, Option.some.injEq,
      AgentLoopExecution.waiting.injEq, reduceCtorEq, false_and, exists_false, or_false]
    constructor
    · rintro ⟨rfl, rfl, rfl⟩; exact ⟨rfl, rfl, rfl⟩
    · rintro ⟨rfl, rfl, rfl⟩; exact ⟨rfl, rfl, rfl⟩
  · simp only [openPhase, seq_eq_ok, Except.ok.injEq, Prod.mk.injEq, Option.some.injEq,
      reduceCtorEq, false_and, false_or, AgentLoopExecution.ready.injEq]
    constructor
    · rintro ⟨admits, rfl, rfl, rfl⟩; exact ⟨resume, ⟨rfl, rfl⟩, admits, rfl, rfl⟩
    · rintro ⟨_, ⟨rfl, rfl⟩, admits, rfl, rfl⟩; exact ⟨admits, rfl, rfl, rfl⟩
  · simp [openPhase]

variable [Sha256]

/-! ## The scan of a Turn -/

theorem scanItems_concat {s : ExecutionCursor} :
    scanItems turnId (items ++ [item]) = .ok s ↔
      ∃ before, scanItems turnId items = .ok before ∧ projectItem turnId before item = .ok s := by
  rw [scanItems, foldlM_concat_eq_ok]
  rfl

theorem projectItem_plain {s : ExecutionCursor} (live : s.closed = false)
    (plain : isTransitionKind item.kind = false) :
    projectItem turnId s item = .ok { s with seen := s.seen ++ [item] } := by
  rw [projectItem, live, rejectIf_false, ok_bind]
  obtain ⟨id, at_, kind⟩ := item
  cases kind <;> first | rfl | cases plain

/-- Items that are not transitions leave the execution as it was. -/
theorem scanItems_plain {items more : List Item} {s : ExecutionCursor}
    (scanned : scanItems turnId items = .ok s) (live : s.closed = false)
    (plain : ∀ item ∈ more, isTransitionKind item.kind = false) :
    scanItems turnId (items ++ more) = .ok { s with seen := s.seen ++ more } := by
  induction more using List.reverseRecOn with
  | nil => simpa using scanned
  | append_singleton more item ih =>
    have earlier := ih fun x member => plain x (by simp [member])
    have last : projectItem turnId { s with seen := s.seen ++ more } item = _ :=
      projectItem_plain live (plain item (by simp))
    rw [← List.append_assoc, scanItems_concat]
    exact ⟨_, earlier, by rw [last]; simp⟩

/-! ### One lemma per transition -/

theorem projectItem_waitStarted (kind : item.kind = .agentLoopWaitStarted envelope) :
    projectItem turnId s item = .ok s' ↔
      s.closed = false ∧ validateWaitEnvelope envelope = .ok () ∧ envelope.turnId = turnId ∧
        precededBy s.seen (approvalRequestedMatchesEnvelope · envelope) = true ∧
        (∀ execution, s.execution = some execution →
          requireNewWaitBoundaryAt turnId s.seen execution s.claimIndex = .ok ()) ∧
        s' = ⟨s.seen ++ [item], some (.waiting envelope), none, false⟩ := by
  rw [projectItem, seq_eq_ok, rejectIf_eq_ok, kind]
  simp only [seq_eq_ok, rejectIf_eq_ok, bne_eq_false_iff_eq, Bool.not_eq_false', checkSome_eq_ok,
    ok_eq_ok]

theorem projectItem_resumeAccepted {evidence : ResumeEvidence}
    (kind : item.kind = .agentLoopResumeAccepted evidence) :
    projectItem turnId s item = .ok s' ↔
      s.closed = false ∧ ∃ envelope, s.execution = some (.waiting envelope) ∧
        validateResumeEvidence envelope evidence = .ok () ∧
        precededBy s.seen (approvalDecisionMatchesResume · evidence) = true ∧
        s' = { s with seen := s.seen ++ [item], execution := some (.ready envelope evidence) } := by
  rw [projectItem, seq_eq_ok, rejectIf_eq_ok, kind]
  refine and_congr_right fun _ => ?_
  dsimp only
  split
  · rename_i envelope waiting
    simp only [seq_eq_ok, rejectIf_eq_ok, Bool.not_eq_false', ok_eq_ok, waiting,
      Option.some.injEq, AgentLoopExecution.waiting.injEq, exists_eq_left']
  · rename_i other
    simp only [reduceCtorEq, false_iff, not_exists, not_and]
    intro envelope waiting
    exact absurd waiting (other envelope)

theorem projectItem_readyClaimed {evidence : ExecutionClaimEvidence}
    (kind : item.kind = .agentLoopReadyClaimed evidence) :
    projectItem turnId s item = .ok s' ↔
      s.closed = false ∧ ∃ envelope resume, s.execution = some (.ready envelope resume) ∧
        resume.settlement.decision.isDeny = false ∧
        validateClaimEvidence envelope resume evidence = .ok () ∧
        s' = { s with seen := s.seen ++ [item],
                      execution := some (.executing envelope resume evidence),
                      claimIndex := some s.seen.length } := by
  rw [projectItem, seq_eq_ok, rejectIf_eq_ok, kind]
  refine and_congr_right fun _ => ?_
  dsimp only
  split
  · rename_i envelope resume ready
    simp only [seq_eq_ok, rejectIf_eq_ok, Except.ok.injEq, ready, Option.some.injEq,
      AgentLoopExecution.ready.injEq]
    constructor
    · rintro ⟨approved, claims, rfl⟩
      exact ⟨envelope, resume, ⟨rfl, rfl⟩, approved, claims, rfl⟩
    · rintro ⟨_, _, ⟨rfl, rfl⟩, approved, claims, rfl⟩
      exact ⟨approved, claims, rfl⟩
  · rename_i other
    simp only [reduceCtorEq, false_iff, not_exists, not_and]
    intro envelope resume ready
    exact absurd ready (other envelope resume)

theorem projectItem_waitClosed {evidence : WaitClosureEvidence}
    (kind : item.kind = .agentLoopWaitClosed evidence) :
    projectItem turnId s item = .ok s' ↔
      s.closed = false ∧ ∃ envelope revision atMs,
        OpenAt (fun resume => resume.settlement.decision.isDeny = false) s.execution envelope
          revision atMs ∧
        item.createdAtMs = evidence.closedAtMs ∧ evidence.previousRevision = revision ∧
        atMs ≤ evidence.closedAtMs ∧ validateWaitClosureEvidence envelope evidence = .ok () ∧
        precededBy s.seen (turnStoppedMatchesClosure · evidence) = true ∧
        s' = ⟨s.seen ++ [item], none, none, true⟩ := by
  rw [projectItem, seq_eq_ok, rejectIf_eq_ok, kind]
  refine and_congr_right fun _ => ?_
  simp only [bind_eq_ok (α := TurnWaitEnvelope × UInt64 × UInt64), Prod.exists, openPhase_eq_ok,
    seq_eq_ok, rejectIf_eq_ok, Bool.or_eq_false_iff, bne_eq_false_iff_eq, decide_eq_false_iff_not,
    UInt64.not_lt, Bool.not_eq_false', ok_eq_ok, OpenAt, and_assoc]

theorem projectItem_waitDenied {evidence : WaitDenialEvidence}
    (kind : item.kind = .agentLoopWaitDenied evidence) :
    projectItem turnId s item = .ok s' ↔
      s.closed = false ∧ ∃ envelope revision atMs,
        OpenAt (fun resume => resume.settlement = evidence.settlement) s.execution envelope
          revision atMs ∧
        item.createdAtMs = evidence.deniedAtMs ∧ evidence.previousRevision = revision ∧
        atMs ≤ evidence.deniedAtMs ∧ validateWaitDenialEvidence envelope evidence = .ok () ∧
        precededBy s.seen (approvalDecisionMatchesDenial · evidence) = true ∧
        s' = ⟨s.seen ++ [item], none, none, true⟩ := by
  rw [projectItem, seq_eq_ok, rejectIf_eq_ok, kind]
  refine and_congr_right fun _ => ?_
  simp only [bind_eq_ok (α := TurnWaitEnvelope × UInt64 × UInt64), Prod.exists, openPhase_eq_ok,
    seq_eq_ok, rejectIf_eq_ok, Bool.or_eq_false_iff, bne_eq_false_iff_eq, decide_eq_false_iff_not,
    UInt64.not_lt, Bool.not_eq_false', ok_eq_ok, OpenAt, and_assoc]

/-! ### Closed scans -/

def isClosingKind : ItemKind → Bool
  | .agentLoopWaitClosed _ | .agentLoopWaitDenied _ => true
  | _ => false

/-- An Item closes the scan exactly when it is a closure or a denial. -/
theorem projectItem_closed (projected : projectItem turnId s item = .ok s') :
    s.closed = false ∧ s'.closed = isClosingKind item.kind := by
  have live : s.closed = false := by
    rw [projectItem, seq_eq_ok, rejectIf_eq_ok] at projected
    exact projected.1
  refine ⟨live, ?_⟩
  cases kind : item.kind with
  | agentLoopWaitStarted envelope =>
    obtain ⟨_, _, _, _, _, rfl⟩ := (projectItem_waitStarted kind).1 projected
    rfl
  | agentLoopResumeAccepted evidence =>
    obtain ⟨_, _, _, _, _, rfl⟩ := (projectItem_resumeAccepted kind).1 projected
    exact live
  | agentLoopReadyClaimed evidence =>
    obtain ⟨_, _, _, _, _, _, rfl⟩ := (projectItem_readyClaimed kind).1 projected
    exact live
  | agentLoopWaitClosed evidence =>
    obtain ⟨_, _, _, _, _, _, _, _, _, _, rfl⟩ := (projectItem_waitClosed kind).1 projected
    rfl
  | agentLoopWaitDenied evidence =>
    obtain ⟨_, _, _, _, _, _, _, _, _, _, rfl⟩ := (projectItem_waitDenied kind).1 projected
    rfl
  | _ =>
    rw [projectItem_plain live (by rw [kind]; rfl)] at projected
    cases projected
    exact live

theorem projectItem_closing_execution (projected : projectItem turnId s item = .ok s')
    (closed : s'.closed = true) :
    s'.execution = none := by
  rw [(projectItem_closed projected).2] at closed
  cases kind : item.kind with
  | agentLoopWaitClosed evidence =>
    obtain ⟨_, _, _, _, _, _, _, _, _, _, rfl⟩ := (projectItem_waitClosed kind).1 projected
    rfl
  | agentLoopWaitDenied evidence =>
    obtain ⟨_, _, _, _, _, _, _, _, _, _, rfl⟩ := (projectItem_waitDenied kind).1 projected
    rfl
  | _ => rw [kind] at closed; cases closed

theorem scanItems_closed_execution {s : ExecutionCursor} (scanned : scanItems turnId items = .ok s)
    (closed : s.closed = true) :
    s.execution = none := by
  induction items using List.reverseRecOn generalizing s with
  | nil => cases scanned; cases closed
  | append_singleton items item _ =>
    obtain ⟨_, _, projected⟩ := scanItems_concat.1 scanned
    exact projectItem_closing_execution projected closed

/-! ### What a scanned wait carries -/

/-- The evidence behind a wait, checked transition by transition. -/
def ExecutionValid (turnId : TurnId) (execution : AgentLoopExecution) : Prop :=
  validateWaitEnvelope execution.envelope = .ok () ∧ execution.envelope.turnId = turnId ∧
    match execution with
    | .waiting _ => True
    | .ready envelope resume => validateResumeEvidence envelope resume = .ok ()
    | .executing envelope resume claim =>
      validateResumeEvidence envelope resume = .ok () ∧
        resume.settlement.decision.isDeny = false ∧
        validateClaimEvidence envelope resume claim = .ok ()

theorem projectItem_executionValid (projected : projectItem turnId s item = .ok s')
    (valid : ∀ execution, s.execution = some execution → ExecutionValid turnId execution) :
    ∀ execution, s'.execution = some execution → ExecutionValid turnId execution := by
  have live := (projectItem_closed projected).1
  cases kind : item.kind with
  | agentLoopWaitStarted envelope =>
    obtain ⟨_, checked, same, _, _, rfl⟩ := (projectItem_waitStarted kind).1 projected
    rintro _ ⟨⟩
    exact ⟨checked, same, trivial⟩
  | agentLoopResumeAccepted evidence =>
    obtain ⟨_, envelope, waiting, resumes, _, rfl⟩ := (projectItem_resumeAccepted kind).1 projected
    obtain ⟨checked, same, _⟩ := valid _ waiting
    rintro _ ⟨⟩
    exact ⟨checked, same, resumes⟩
  | agentLoopReadyClaimed evidence =>
    obtain ⟨_, envelope, resume, ready, approved, claims, rfl⟩ :=
      (projectItem_readyClaimed kind).1 projected
    obtain ⟨checked, same, resumes⟩ := valid _ ready
    rintro _ ⟨⟩
    exact ⟨checked, same, resumes, approved, claims⟩
  | agentLoopWaitClosed evidence =>
    obtain ⟨_, _, _, _, _, _, _, _, _, _, rfl⟩ := (projectItem_waitClosed kind).1 projected
    simp
  | agentLoopWaitDenied evidence =>
    obtain ⟨_, _, _, _, _, _, _, _, _, _, rfl⟩ := (projectItem_waitDenied kind).1 projected
    simp
  | _ =>
    rw [projectItem_plain live (by rw [kind]; rfl)] at projected
    cases projected
    exact valid

theorem scanItems_executionValid {s : ExecutionCursor} (scanned : scanItems turnId items = .ok s) :
    ∀ execution, s.execution = some execution → ExecutionValid turnId execution := by
  induction items using List.reverseRecOn generalizing s with
  | nil => cases scanned; simp [ExecutionCursor.start]
  | append_singleton items item ih =>
    obtain ⟨before, earlier, projected⟩ := scanItems_concat.1 scanned
    exact projectItem_executionValid projected (ih earlier)

/-! ## Accepted events that carry Items -/

/-- The Items of an accepted event: plain Items, then at most one transition,
which closes the scan exactly when the event ends its Turn. -/
theorem carriedItems_shape (valid : validateStateEvent event = .ok ())
    (schema : validateStateEventSchema event version = .ok ())
    (carried : carriedItems event = some (turnId, items)) :
    ∃ initial last, items = initial ++ [last] ∧
      (∀ item ∈ initial, isTransitionKind item.kind = false) ∧
      isClosingKind last.kind = (closingStatus event).isSome := by
  cases event with
  | itemAppended turn item =>
    cases carried
    simp only [validateStateEventSchema, seq_eq_ok, rejectIf_eq_ok] at schema
    refine ⟨[], item, rfl, by simp, ?_⟩
    cases kind : item.kind <;> first | rfl | (rw [kind] at schema; cases schema.2.1)
  | toolCallsAppended turn calls =>
    cases carried
    have batched := toolCalls_eq_ok valid
    have nonempty : items ≠ [] := by
      rintro rfl
      simp [validateStateEvent, validateToolCallBatchItems, rejectIf, seq_eq_ok] at valid
    refine ⟨items.dropLast, items.getLast nonempty,
      (List.dropLast_append_getLast nonempty).symm, fun item member =>
        plain_of_batched (batched item ((List.dropLast_sublist items).subset member)).1, ?_⟩
    have last := (batched _ (List.getLast_mem nonempty)).1
    cases kind : (items.getLast nonempty).kind <;> first | rfl | (rw [kind] at last; cases last)
  | waitStarted turn first transition =>
    cases carried
    obtain ⟨_, envelope, kind, _, request⟩ := waitStarted_eq_ok.1 valid
    refine ⟨[first], transition, rfl, ?_, by rw [kind]; rfl⟩
    simp only [approvalRequestedMatchesEnvelope, beq_iff_eq] at request
    simp [request, isTransitionKind]
  | acceptResume turn first transition =>
    cases carried
    obtain ⟨_, evidence, kind, decision⟩ := acceptResume_eq_ok.1 valid
    refine ⟨[first], transition, rfl, ?_, by rw [kind]; rfl⟩
    simp only [approvalDecisionMatchesResume, beq_iff_eq] at decision
    simp [decision, isTransitionKind]
  | claimReady turn transition =>
    cases carried
    obtain ⟨_, _, _, evidence, kind⟩ := claimReady_eq_ok.1 valid
    exact ⟨[], transition, rfl, by simp, by rw [kind]; rfl⟩
  | waitClosed turn stopped transition status =>
    cases carried
    obtain ⟨_, evidence, kind, _, _, stop⟩ := waitClosed_eq_ok.1 valid
    refine ⟨[stopped], transition, rfl, ?_, by rw [kind]; rfl⟩
    simp only [turnStoppedMatchesClosure, Bool.and_eq_true, beq_iff_eq] at stop
    simp [stop.2, isTransitionKind]
  | denyWait turn first transition =>
    cases carried
    obtain ⟨_, evidence, kind, _, decision⟩ := denyWait_eq_ok.1 valid
    refine ⟨[first], transition, rfl, ?_, by rw [kind]; rfl⟩
    simp only [approvalDecisionMatchesDenial, Bool.and_eq_true, beq_iff_eq] at decision
    simp [decision.1, isTransitionKind]
  | _ => cases carried

theorem scan_carried_closed {items more : List Item} {s : ExecutionCursor}
    (valid : validateStateEvent event = .ok ())
    (schema : validateStateEventSchema event version = .ok ())
    (carried : carriedItems event = some (turnId, more))
    (scanned : scanItems turnId (items ++ more) = .ok s) :
    s.closed = (closingStatus event).isSome := by
  obtain ⟨initial, last, rfl, _, closing⟩ := carriedItems_shape valid schema carried
  rw [← List.append_assoc, scanItems_concat] at scanned
  obtain ⟨_, _, projected⟩ := scanned
  rw [(projectItem_closed projected).2, closing]

/-- Items that come without a transition always extend a live scan. -/
theorem scan_plain_event {items more : List Item} {s : ExecutionCursor}
    (valid : validateStateEvent event = .ok ())
    (schema : validateStateEventSchema event version = .ok ())
    (carried : carriedItems event = some (turnId, more))
    (plain : (∃ item, event = .itemAppended turnId item) ∨
      ∃ calls, event = .toolCallsAppended turnId calls) (scanned : scanItems turnId items = .ok s)
    (live : s.closed = false) :
    scanItems turnId (items ++ more) = .ok { s with seen := s.seen ++ more } := by
  refine scanItems_plain scanned live fun item member => ?_
  rcases plain with ⟨only, rfl⟩ | ⟨calls, rfl⟩
  · cases carried
    simp only [validateStateEventSchema, seq_eq_ok, rejectIf_eq_ok] at schema
    rw [List.mem_singleton] at member
    rw [member]
    exact schema.2.1
  · cases carried
    exact plain_of_batched (toolCalls_eq_ok valid item member).1

end YHarness.State
