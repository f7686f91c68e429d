/-
# YHarness.Effects.GovernorSteps -- both governors take the steps of a book

Every call on either governor is a step of its book, and logs what that step did
(`step_taken`).  The process-local governor can be left with a stranded lane, when
`overflows` holds of the call; the SQLite governor rolls back.  An invariant of
the steps is then one of every run (`run_keeps`).
-/
import YHarness.Effects.Lanes

namespace YHarness.Effects

open YHarness.Lib YHarness.Kernel

set_option autoImplicit false

section Steps

variable [Sha256] {fault : Prop}

omit [Sha256] in
theorem Book.setLane_self {b : Book} {key : LaneKey} {lane : LaneState}
    (here : b.lanes key = some lane) : b.setLane key lane = b := by
  rw [setLane, ← here, Function.update_eq_self]

variable {request : EffectDispatchAdmissionRequest} {validated : ValidatedAdmission}
  {authority : AuthorityContext}

/-- The event of a fresh grant. -/
theorem grantsOf_eq (created : ValidatedAdmission.new request authority = .ok validated)
    (decision : EffectDispatchAdmissionDecision) :
    grantsOf request (tenantKey authority) (.ok decision) false =
      if decision.granted then
        [.granted validated.lane validated.policy validated.admissionId validated.admittedAtMs
          decision]
      else [] := by
  obtain ⟨policy, admissionId, admittedAtMs, lane⟩ := ValidatedAdmission.new_fields created
  rw [policy, admissionId, admittedAtMs, lane, grantsOf, Bool.not_false, Bool.and_true]

/-- The key of an admission. -/
theorem key_eq (created : ValidatedAdmission.new request authority = .ok validated) :
    validated.key = ⟨tenantKey authority, request.admissionId⟩ := by
  obtain ⟨_, admissionId, _, lane⟩ := ValidatedAdmission.new_fields created
  rw [ValidatedAdmission.key, lane, admissionId]
  rfl

omit [Sha256] in
theorem admissionRecord_settlement {request : ValidatedAdmission} {epoch : UInt64}
    {decision : EffectDispatchAdmissionDecision} {record : AdmissionRecord}
    (made : admissionRecord request epoch decision = .ok record) :
    record.settlement = none := by
  obtain ⟨expiresAtMs, _, made⟩ := bind_eq_ok.1 made
  cases made
  rfl

/-! ## The process-local governor -/

namespace MemoryState

omit [Sha256] in
theorem book_insertLane (state : MemoryState) (key : LaneKey) (lane : LaneState) :
    book { state with lanes := state.lanes.insert key lane } = state.book.setLane key lane := by
  rw [book, OrdMap.get?_insert]
  rfl

omit [Sha256] in
theorem book_insert (state : MemoryState) (laneKey : LaneKey) (lane : LaneState)
    (key : AdmissionKey) (record : AdmissionRecord) :
    book ⟨state.lanes.insert laneKey lane, state.admissions.insert key record⟩ =
      (state.book.setLane laneKey lane).setAdmission key record := by
  rw [book, OrdMap.get?_insert, OrdMap.get?_insert]
  rfl

omit [Sha256] in
theorem prune_forgets (state : MemoryState) (atMs : UInt64) :
    state.book.Forgets (state.prune atMs).book :=
  ⟨rfl, fun _ _ found => OrdMap.get?_of_filter found⟩

variable {b : Book} {request : EffectDispatchAdmissionRequest} {authority : AuthorityContext}
  {validated : ValidatedAdmission}

theorem admitLane_step (state : MemoryState) (forgets : b.Forgets state.book)
    (created : ValidatedAdmission.new request authority = .ok validated) {lane : LaneState}
    (here : lane = state.book.laneFor validated) :
    Book.Step fault b (.admitAs request authority)
      (match (state.admitLane validated lane).1 with
        | .error _ => []
        | .ok decision =>
          if decision.granted then
            [.granted validated.lane validated.policy validated.admissionId
              validated.admittedAtMs decision]
          else [])
      (state.admitLane validated lane).2.book := by
  unfold admitLane
  cases checked : validateLanePolicy lane validated.policySha256 with
  | error error =>
    show Book.Step fault b _ []
      (book { state with lanes := state.lanes.insert validated.lane lane })
    rw [book_insertLane]
    cases existing : state.book.lanes validated.lane with
    | some held =>
      have same : lane = held := by rw [here, Book.laneFor, existing, Option.getD_some]
      rw [same, Book.setLane_self existing]
      exact .idle forgets
    | none =>
      have new : lane = initialLane validated := by
        rw [here, Book.laneFor, existing, Option.getD_none]
      rw [new, validateLanePolicy, initialLane, bne_self_eq_false] at checked
      cases checked
  | ok _ =>
    have digest : (state.book.laneFor validated).policySha256 = validated.policySha256 := by
      rw [validateLanePolicy, rejectIf_bne, here] at checked
      exact checked
    obtain ⟨decides, epochs⟩ := LaneState.decide_decides lane validated
    subst here
    dsimp only
    cases decided : ((state.book.laneFor validated).decide validated).1 with
    | error error =>
      rw [decided] at decides
      show Book.Step fault b _ [] (book { state with
        lanes := state.lanes.insert validated.lane
          ((state.book.laneFor validated).decide validated).2 })
      rw [book_insertLane]
      exact .note forgets created digest decides
    | ok made =>
      obtain ⟨decision, epoch⟩ := made
      rw [decided] at decides
      have current := epochs decision epoch decided
      subst current
      dsimp only
      cases made : admissionRecord validated (state.book.laneFor validated).circuitEpoch
          decision with
      | error error =>
        show Book.Step fault b _ [] (book { state with
          lanes := state.lanes.insert validated.lane
            ((state.book.laneFor validated).decide validated).2 })
        rw [book_insertLane]
        exact .note forgets created digest decides
      | ok record =>
        dsimp only
        rw [book_insert]
        exact .admitAs forgets created digest decides made

theorem admit_step (state : MemoryState) (forgets : b.Forgets state.book)
    (created : ValidatedAdmission.new request authority = .ok validated) :
    Book.Step fault b (.admitAs request authority)
      (grantsOf request (tenantKey authority) (state.admitValidated validated).1
        (state.admissions.contains validated.key)) (state.admitValidated validated).2.book := by
  have retained : state.admissions.contains validated.key =
      state.admissions[validated.key]?.isSome := Std.ExtTreeMap.isSome_getElem?_eq_contains.symm
  unfold admitValidated
  rw [retained]
  split
  · rename_i existing found
    rw [found]
    cases checked : validateDuplicate existing validated with
    | error error => exact .idle forgets
    | ok _ =>
      show Book.Step fault b _ (if _ && !true then _ else []) state.book
      rw [Bool.not_true, Bool.and_false]
      exact .idle forgets
  · rename_i absent
    rw [absent]
    split
    · exact .idle forgets
    · split
      · exact .idle forgets
      · have here : state.lanes[validated.lane]?.getD (initialLane validated) =
            state.book.laneFor validated := rfl
        have step : Book.Step fault b (.admitAs request authority) _ _ :=
          admitLane_step state forgets created here
        cases reply : (state.admitLane validated
            (state.lanes[validated.lane]?.getD (initialLane validated))).1 with
        | error error =>
          rw [reply] at step
          exact step
        | ok decision =>
          rw [reply] at step
          rw [Option.isSome_none, grantsOf_eq created]
          exact step

/-- A settlement is accepted, and strands the lane. -/
def overflows (state : MemoryState) (admissionId : EffectLeaseId)
    (settlement : EffectDispatchSettlement) (settledAtMs : UInt64)
    (authority : AuthorityContext) : Bool :=
  settlement == .availabilityFailure &&
    (validateSettlement admissionId settledAtMs authority).isOk &&
      (state.book.admissions ⟨tenantKey authority, admissionId⟩).any fun record =>
        (validateSettlementRecord record settlement settledAtMs).isOk &&
          record.settlement.isNone &&
            (state.book.lanes (laneKey record.operation record.policy (tenantKey authority))).any
              fun lane => lane.cannotOpen record settledAtMs

theorem settle_step (state : MemoryState) {admissionId : EffectLeaseId} {record : AdmissionRecord}
    {settlement : EffectDispatchSettlement} {settledAtMs : UInt64}
    (found : state.book.admissions ⟨tenantKey authority, admissionId⟩ = some record)
    (spared : validateSettlementRecord record settlement settledAtMs = .ok () →
      record.settlement = none → settlement = .availabilityFailure →
        ∀ lane, state.book.lanes
            (laneKey record.operation record.policy (tenantKey authority)) = some lane →
          lane.cannotOpen record settledAtMs = true → fault) :
    Book.Step fault state.book (.settle admissionId settlement settledAtMs authority)
      (settlesOf ⟨tenantKey authority, admissionId⟩ (some record)
        (state.settle ⟨tenantKey authority, admissionId⟩ record settlement settledAtMs).1)
      (state.settle ⟨tenantKey authority, admissionId⟩ record settlement settledAtMs).2.book := by
  unfold settle
  cases checked : validateSettlementRecord record settlement settledAtMs with
  | error error => exact .idle (.refl _)
  | ok _ =>
    have granted : record.decision.granted = true := by
      obtain ⟨granted, _⟩ := seq_eq_ok.1 checked
      rw [rejectIf_eq_ok, Bool.not_eq_false'] at granted
      exact granted
    dsimp only
    split
    · rename_i settled
      rw [settlesOf, Option.isNone_eq_false_iff.2 settled]
      exact .idle (.refl _)
    · rename_i unsettled
      rw [Option.not_isSome_iff_eq_none] at unsettled
      split
      · exact .idle (.refl _)
      · rename_i lane here
        have applies := lane.applySettlement_applies admissionId settlement settledAtMs granted
        cases applied : (lane.applySettlement admissionId record settlement settledAtMs).1 with
        | error error =>
          rw [applied] at applies
          dsimp only
          rw [book_insertLane]
          exact .spoil found granted here applies fun failed cannot =>
            spared checked unsettled failed lane here cannot
        | ok _ =>
          rw [applied] at applies
          dsimp only
          have written : book ⟨state.lanes.insert
                (laneKey record.operation record.policy (tenantKey authority))
                (lane.applySettlement admissionId record settlement settledAtMs).2,
              state.admissions.modify ⟨tenantKey authority, admissionId⟩ fun r =>
                { r with settlement := some settlement }⟩ =
              (state.book.setLane
                (laneKey record.operation record.policy (tenantKey authority))
                (lane.applySettlement admissionId record settlement settledAtMs).2).setAdmission
                  ⟨tenantKey authority, admissionId⟩
                  { record with settlement := some settlement } := by
            rw [book, OrdMap.get?_insert, OrdMap.get?_modify, show
              state.admissions[(⟨tenantKey authority, admissionId⟩ : AdmissionKey)]? =
                some record from found]
            rfl
          rw [written, settlesOf, unsettled]
          exact .settle found granted here applies

end MemoryState

/-! ## The SQLite governor -/

namespace SqliteGovernorState

variable {s next : SqliteGovernorState}

omit [Sha256] in
theorem updateCounts_book {laneDelta admissionDelta : Int}
    (updated : s.updateCounts laneDelta admissionDelta = .ok next) : next.book = s.book := by
  replace updated := rest_ok updated
  cases updated
  rfl

omit [Sha256] in
theorem prune_forgets {atMs : UInt64} (pruned : s.prune atMs = .ok next) :
    s.book.Forgets next.book := by
  obtain ⟨bound, _, pruned⟩ := bind_eq_ok.1 pruned
  have kept : next.book = book { s with
      admissions := s.admissions.filter fun _ row => decide (bound < row.expiresAtMs) } := by
    dsimp only at pruned
    split at pruned
    · cases pruned
      rfl
    · exact updateCounts_book pruned
  rw [kept]
  refine ⟨rfl, ?_⟩
  intro key record found
  obtain ⟨row, held, rfl⟩ := Option.map_eq_some_iff.1 found
  exact Option.map_eq_some_iff.2 ⟨row, OrdMap.get?_of_filter held, rfl⟩

omit [Sha256] in
theorem loadLane_book {key : LaneKey} {found : Option LaneState}
    (loaded : s.loadLane key = .ok found) : found = s.book.lanes key := by
  show found = s.lanes[key]?.map (·.state)
  unfold loadLane at loaded
  cases row : s.lanes[key]? with
  | none =>
    rw [row] at loaded
    cases loaded
    rfl
  | some row' =>
    rw [row] at loaded
    iterate 3 replace loaded := rest_ok loaded
    cases loaded
    rfl

variable {key : AdmissionKey} {authority : AuthorityContext} {record : AdmissionRecord}

theorem loadAdmission_book {found : Option AdmissionRecord}
    (loaded : s.loadAdmission key = .ok found) : found = s.book.admissions key := by
  show found = s.admissions[key]?.map fun row => { row.admission with settlement := row.settlement }
  unfold loadAdmission at loaded
  cases row : s.admissions[key]? with
  | none =>
    rw [row] at loaded
    cases loaded
    rfl
  | some row' =>
    rw [row] at loaded
    replace loaded := rest_ok (rest_ok loaded)
    obtain ⟨_, _, loaded⟩ := bind_eq_ok.1 loaded
    replace loaded := rest_ok (rest_ok loaded)
    cases loaded
    rfl

omit [Sha256] in
theorem saveLane_book {key : LaneKey} {lane : LaneState} (saved : s.saveLane key lane = .ok next) :
    next.book = s.book.setLane key lane := by
  replace saved := rest_ok saved
  cases saved
  rw [book, OrdMap.map_get?_insert]
  rfl

omit [Sha256] in
theorem saveAdmission_book (saved : s.saveAdmission key record = .ok next)
    (unsettled : record.settlement = none) :
    next.book = s.book.setAdmission key record := by
  replace saved := rest_ok saved
  obtain ⟨expiresAtMs, _, saved⟩ := bind_eq_ok.1 saved
  replace saved := rest_ok saved
  cases saved
  have same : { record with settlement := none } = record := by
    rw [← unsettled]
  rw [book, OrdMap.map_get?_insert, same]
  rfl

omit [Sha256] in
theorem modifyAdmission_book (found : s.book.admissions key = some record)
    (settlement : EffectDispatchSettlement) :
    book { s with
        admissions := s.admissions.modify key fun row =>
          { row with settlement := some settlement } } =
      s.book.setAdmission key { record with settlement := some settlement } := by
  obtain ⟨row, held, rfl⟩ := Option.map_eq_some_iff.1 found
  rw [book, OrdMap.map_get?_modify, held]
  rfl

theorem admit_step {request : EffectDispatchAdmissionRequest} {validated : ValidatedAdmission}
    {decision : EffectDispatchAdmissionDecision}
    (created : ValidatedAdmission.new request authority = .ok validated)
    (committed : s.admitValidated validated = .ok (decision, next)) :
    Book.Step fault s.book (.admitAs request authority)
      (grantsOf request (tenantKey authority) (.ok decision)
        (match s.prune validated.admittedAtMs with
          | .ok pruned => pruned.admissions.contains validated.key
          | .error _ => false)) next.book := by
  obtain ⟨pruned, forgot, committed⟩ := bind_eq_ok.1 committed
  obtain ⟨existing, loaded, committed⟩ := bind_eq_ok.1 committed
  have forgets := prune_forgets forgot
  have retained : pruned.admissions.contains validated.key = existing.isSome := by
    rw [loadAdmission_book loaded, ← Std.ExtTreeMap.isSome_getElem?_eq_contains]
    exact (Option.isSome_map).symm
  rw [forgot]
  dsimp only
  rw [retained]
  cases existing with
  | some record =>
    replace committed := rest_ok committed
    cases committed
    rw [grantsOf, Option.isSome_some, Bool.not_true, Bool.and_false]
    exact .idle forgets
  | none =>
    replace committed := rest_ok committed
    obtain ⟨found, loadedLane, committed⟩ := bind_eq_ok.1 committed
    replace committed := rest_ok committed
    obtain ⟨checked, committed⟩ := seq_eq_ok.1 committed
    obtain ⟨⟨decision', epoch⟩, decided, committed⟩ := bind_eq_ok.1 committed
    obtain ⟨saved, savedLane, committed⟩ := bind_eq_ok.1 committed
    obtain ⟨counted, countedLane, committed⟩ := bind_eq_ok.1 committed
    obtain ⟨record, made, committed⟩ := bind_eq_ok.1 committed
    obtain ⟨stored, savedAdmission, committed⟩ := bind_eq_ok.1 committed
    obtain ⟨last, countedAdmission, committed⟩ := bind_eq_ok.1 committed
    cases committed
    have lane : found.getD (initialLane validated) = pruned.book.laneFor validated := by
      rw [loadLane_book loadedLane, Book.laneFor]
    rw [lane] at checked decided savedLane
    have digest : (pruned.book.laneFor validated).policySha256 = validated.policySha256 := by
      rw [validateLanePolicy, rejectIf_bne] at checked
      exact checked
    obtain ⟨decides, epochs⟩ :=
      LaneState.decide_decides (pruned.book.laneFor validated) validated
    have current := epochs decision epoch decided
    rw [decided] at decides
    rw [current] at made
    have counted_book : counted.book = saved.book := by
      split at countedLane
      · exact updateCounts_book countedLane
      · cases countedLane
        rfl
    have written : next.book = (pruned.book.setLane validated.lane
        ((pruned.book.laneFor validated).decide validated).2).setAdmission validated.key record := by
      rw [updateCounts_book countedAdmission,
        saveAdmission_book savedAdmission (admissionRecord_settlement made), counted_book,
        saveLane_book savedLane]
    rw [written, Option.isSome_none, grantsOf_eq created]
    exact .admitAs forgets created digest decides made

theorem settle_step {admissionId : EffectLeaseId} {settlement : EffectDispatchSettlement}
    {settledAtMs : UInt64}
    (committed : s.settle ⟨tenantKey authority, admissionId⟩ settlement settledAtMs =
      .ok ((), next)) :
    Book.Step fault s.book (.settle admissionId settlement settledAtMs authority)
      (settlesOf ⟨tenantKey authority, admissionId⟩
        (s.book.admissions ⟨tenantKey authority, admissionId⟩) (.ok ())) next.book := by
  obtain ⟨found, loaded, committed⟩ := bind_eq_ok.1 committed
  obtain ⟨record, some_record, committed⟩ := bind_eq_ok.1 committed
  obtain ⟨checked, committed⟩ := seq_eq_ok.1 committed
  rw [orError_eq_ok] at some_record
  rw [some_record] at loaded
  have found := (loadAdmission_book loaded).symm
  rw [found, settlesOf]
  split at committed
  · rename_i settled
    cases committed
    rw [Option.isNone_eq_false_iff.2 settled]
    exact .idle (.refl _)
  · rename_i unsettled
    rw [Option.not_isSome_iff_eq_none] at unsettled
    obtain ⟨foundLane, loadedLane, committed⟩ := bind_eq_ok.1 committed
    obtain ⟨lane, some_lane, committed⟩ := bind_eq_ok.1 committed
    obtain ⟨applied, committed⟩ := seq_eq_ok.1 committed
    obtain ⟨saved, savedLane, committed⟩ := bind_eq_ok.1 committed
    replace committed := rest_ok committed
    cases committed
    rw [orError_eq_ok] at some_lane
    rw [some_lane] at loadedLane
    have here := (loadLane_book loadedLane).symm
    have granted : record.decision.granted = true := by
      obtain ⟨granted, _⟩ := seq_eq_ok.1 checked
      rw [rejectIf_eq_ok, Bool.not_eq_false'] at granted
      exact granted
    have applies := lane.applySettlement_applies admissionId settlement settledAtMs granted
    rw [applied] at applies
    have kept : saved.book.admissions ⟨tenantKey authority, admissionId⟩ = some record := by
      rw [saveLane_book savedLane]
      exact found
    have written := modifyAdmission_book kept settlement
    rw [saveLane_book savedLane] at written
    rw [written, unsettled]
    exact .settle found granted here applies

end SqliteGovernorState

/-! ## Runs -/

namespace DispatchGovernor

/-- Whether a call strands a lane. -/
def overflows (g : DispatchGovernor) : GovernorCall → Bool
  | .settle admissionId settlement settledAtMs authority =>
    match g with
    | memory state => state.overflows admissionId settlement settledAtMs authority
    | sqlite _ => false
  | .admitAs _ _ => false

theorem admit_step (g : DispatchGovernor) (request : EffectDispatchAdmissionRequest)
    (authority : AuthorityContext) :
    Book.Step fault g.book (.admitAs request authority) (g.step (.admitAs request authority)).2
      (g.step (.admitAs request authority)).1.book := by
  cases g with
  | memory state =>
    show Book.Step fault state.book _
      (grantsOf request (tenantKey authority) (state.admitAs request authority).1
        ((state.prune request.admittedAtMs).admissions.contains
          ⟨tenantKey authority, request.admissionId⟩))
      (state.admitAs request authority).2.book
    unfold MemoryState.admitAs
    cases created : ValidatedAdmission.new request authority with
    | error error => exact .idle (.refl _)
    | ok validated =>
      obtain ⟨_, _, admittedAtMs, _⟩ := ValidatedAdmission.new_fields created
      rw [← key_eq created, ← admittedAtMs]
      exact MemoryState.admit_step _ (MemoryState.prune_forgets state _) created
  | sqlite state =>
    show Book.Step fault state.book _
      (grantsOf request (tenantKey authority) (state.admitAs request authority).1
        (match state.prune request.admittedAtMs with
          | .ok pruned => pruned.admissions.contains ⟨tenantKey authority, request.admissionId⟩
          | .error _ => false))
      (state.admitAs request authority).2.book
    unfold SqliteGovernorState.admitAs
    cases created : ValidatedAdmission.new request authority with
    | error error => exact .idle (.refl _)
    | ok validated =>
      obtain ⟨_, _, admittedAtMs, _⟩ := ValidatedAdmission.new_fields created
      rw [← key_eq created, ← admittedAtMs]
      dsimp only
      cases committed : state.admitValidated validated with
      | error error => exact .idle (.refl _)
      | ok result => exact SqliteGovernorState.admit_step created committed

theorem settle_step (g : DispatchGovernor) (admissionId : EffectLeaseId)
    (settlement : EffectDispatchSettlement) (settledAtMs : UInt64) (authority : AuthorityContext)
    (spared : g.overflows (.settle admissionId settlement settledAtMs authority) = true → fault) :
    Book.Step fault g.book (.settle admissionId settlement settledAtMs authority)
      (g.step (.settle admissionId settlement settledAtMs authority)).2
      (g.step (.settle admissionId settlement settledAtMs authority)).1.book := by
  cases g with
  | memory state =>
    show Book.Step fault state.book _
      (settlesOf ⟨tenantKey authority, admissionId⟩
        (state.book.admissions ⟨tenantKey authority, admissionId⟩)
        (state.settleAs admissionId settlement settledAtMs authority).1)
      (state.settleAs admissionId settlement settledAtMs authority).2.book
    unfold MemoryState.settleAs
    cases valid : validateSettlement admissionId settledAtMs authority with
    | error error =>
      cases state.book.admissions ⟨tenantKey authority, admissionId⟩ <;> exact .idle (.refl _)
    | ok _ =>
      dsimp only
      cases found : state.admissions[(⟨tenantKey authority, admissionId⟩ : AdmissionKey)]? with
      | none =>
        rw [show state.book.admissions ⟨tenantKey authority, admissionId⟩ = none from found]
        exact .idle (.refl _)
      | some record =>
        have here : state.book.admissions ⟨tenantKey authority, admissionId⟩ = some record :=
          found
        rw [here]
        refine MemoryState.settle_step state here ?_
        intro checked unsettled failed lane held cannot
        apply spared
        show state.overflows admissionId settlement settledAtMs authority = true
        rw [MemoryState.overflows, valid, here, failed, beq_self_eq_true, Option.any_some,
          ← failed, checked, unsettled, held, Option.any_some, cannot]
        rfl
  | sqlite state =>
    show Book.Step fault state.book _
      (settlesOf ⟨tenantKey authority, admissionId⟩
        (state.book.admissions ⟨tenantKey authority, admissionId⟩)
        (state.settleAs admissionId settlement settledAtMs authority).1)
      (state.settleAs admissionId settlement settledAtMs authority).2.book
    unfold SqliteGovernorState.settleAs
    cases valid : validateSettlement admissionId settledAtMs authority with
    | error error =>
      cases state.book.admissions ⟨tenantKey authority, admissionId⟩ <;> exact .idle (.refl _)
    | ok _ =>
      dsimp only
      cases committed : state.settle ⟨tenantKey authority, admissionId⟩ settlement
          settledAtMs with
      | error error =>
        cases state.book.admissions ⟨tenantKey authority, admissionId⟩ <;>
          exact .idle (.refl _)
      | ok result => exact SqliteGovernorState.settle_step committed

/-- **A call is a step of the book**, and logs what the step did. -/
theorem step_taken (g : DispatchGovernor) (call : GovernorCall)
    (spared : g.overflows call = true → fault) :
    Book.Step fault g.book call (g.step call).2 (g.step call).1.book := by
  cases call with
  | admitAs request authority => exact admit_step g request authority
  | settle admissionId settlement settledAtMs authority =>
    exact settle_step g admissionId settlement settledAtMs authority spared

omit [Sha256] in
theorem Fresh.book {g : DispatchGovernor} (fresh : g.Fresh) : g.book = Book.empty := by
  rcases fresh with rfl | rfl
  · show MemoryState.book .empty = _
    simp [MemoryState.book, MemoryState.empty, Book.empty]
  · show SqliteGovernorState.book .empty = _
    simp [SqliteGovernorState.book, SqliteGovernorState.empty, Book.empty]

/-- **Invariants of runs.**  What holds of the empty book and is kept by every
step holds after every run of a new governor. -/
theorem run_keeps {known : EffectDispatchGovernorPolicy → Prop}
    {holds : Book → List DispatchEvent → Prop} (first : holds Book.empty [])
    (kept : ∀ b past call did b', holds b past → call.Requests known →
      Book.Step fault b call did b' → holds b' (past ++ did))
    {g : DispatchGovernor} (fresh : g.Fresh) {calls : List GovernorCall}
    (asked : ∀ call ∈ calls, call.Requests known)
    (spared : ∀ before call after, calls = before ++ call :: after →
      (g.run before).1.overflows call = true → fault) :
    holds (g.run calls).1.book (g.run calls).2 := by
  induction calls using List.reverseRecOn with
  | nil =>
    show holds g.book []
    rw [fresh.book]
    exact first
  | append_singleton calls call ih =>
    have earlier := ih (fun c member => asked c (List.mem_append_left _ member))
      fun before c after split => spared before c (after ++ [call]) (by rw [split]; simp)
    rw [run_concat]
    exact kept _ _ call _ _ earlier (asked call (by simp))
      (step_taken (g.run calls).1 call (spared calls call [] rfl))

end DispatchGovernor

end Steps

/-! ## A sample -/

namespace DispatchGovernor

section Sample

attribute [local instance] constantSha256

def samplePolicy : EffectDispatchGovernorPolicy where
  policyId := "notification-v1"
  maxDispatchesPerWindow := 1
  windowMs := 86400000
  failureThreshold := 1
  openDurationMs := 1
  probeLeaseMs := 1
  admissionRetentionMs := 604800000

def sampleAdmission (admissionId : EffectLeaseId) (atMs : UInt64) : GovernorCall :=
  .admitAs ⟨admissionId, ⟨"notification.test", "send"⟩, samplePolicy, atMs⟩
    ⟨.authenticated "test" "worker", some "tenant-a"⟩

def sampleSettlement (admissionId : EffectLeaseId) (settlement : EffectDispatchSettlement)
    (atMs : UInt64) : GovernorCall :=
  .settle admissionId settlement atMs ⟨.authenticated "test" "worker", some "tenant-a"⟩

def sampleLane : LaneKey :=
  ⟨"tenant-a", "notification.test", "send", "notification-v1"⟩

/-- Calls under the one sample policy need no digest to tell policies apart. -/
theorem sample_apart {calls : List GovernorCall}
    (only : ∀ call ∈ calls, call.Requests (· = samplePolicy)) :
    DigestsApart (requested calls) := by
  have same : ∀ p, requested calls p → p = samplePolicy := by
    rintro p ⟨request, authority, member, rfl⟩
    exact only _ member
  intro p q known_p known_q _
  rw [same p known_p, same q known_q]

end Sample

end DispatchGovernor

end YHarness.Effects
