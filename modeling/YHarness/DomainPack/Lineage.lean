/-
# YHarness.DomainPack.Lineage -- what a rollback goes back to

The rollback list of an activation, with the active release behind it, is its *lineage*.
`Recalls` says what it has to remember of the releases that were active: the last of them,
and before it the last other one.  Every call keeps that (`Recalls.turn`) but one: to
activate a Pack again with the release that was deactivated last leaves this release on top
of the list although it is active (`Reactivates`).

A run without such a call always has the way back that it should have (`GoesBack`); after
one, the way back is blocked (`reactivation_blocks`).
-/
import YHarness.DomainPack.Sealing
import YHarness.Kernel.Sizes

namespace YHarness.DomainPack

open YHarness.Lib YHarness.Kernel YHarness.Workflow

set_option autoImplicit false

/-! ## Remembering the last two -/

section Recalling

variable {α : Type} [DecidableEq α]

/-- The lineage ends as the history does, and before that with the last other element. -/
structure Recalls (history lineage : List α) : Prop where
  last : lineage.getLast? = history.getLast?
  previous : ∀ x, lineage.getLast? = some x →
    lineage.dropLast.getLast? = (history.filter (· != x)).getLast?

theorem getLast?_filter_ne {history : List α} {t : α} (other : history.getLast? ≠ some t) :
    (history.filter (· != t)).getLast? = history.getLast? := by
  induction history using List.reverseRecOn with
  | nil => rfl
  | append_singleton earlier x _ =>
    rw [List.getLast?_concat] at other ⊢
    have kept : [x].filter (· != t) = [x] := by
      rw [List.filter_cons_of_pos, List.filter_nil]
      exact bne_iff_ne.2 fun same => other (congrArg some same)
    rw [List.filter_append, kept, List.getLast?_concat]

theorem filter_concat_self (history : List α) (x : α) :
    (history ++ [x]).filter (· != x) = history.filter (· != x) := by
  rw [List.filter_append, List.filter_cons_of_neg (by simp), List.filter_nil, List.append_nil]

variable {history lineage shorter : List α}

/-- Something else comes last. -/
theorem Recalls.turn {t : α} (recalls : Recalls history lineage) (other : lineage.getLast? ≠ some t)
    (kept : shorter.getLast? = lineage.getLast?) :
    Recalls (history ++ [t]) (shorter ++ [t]) where
  last := by rw [List.getLast?_concat, List.getLast?_concat]
  previous x last := by
    rw [List.getLast?_concat] at last
    cases last
    rw [List.dropLast_concat, filter_concat_self, kept, recalls.last,
      getLast?_filter_ne (recalls.last ▸ other)]

/-- The last comes again. -/
theorem Recalls.again {history lineage : List α} {x : α} (recalls : Recalls history lineage)
    (last : lineage.getLast? = some x) : Recalls (history ++ [x]) lineage where
  last := by rw [List.getLast?_concat, last]
  previous y ends := by
    obtain rfl : x = y := Option.some.inj (last.symm.trans ends)
    rw [filter_concat_self]
    exact recalls.previous x ends

theorem Recalls.trim (recalls : Recalls history lineage)
    (last : shorter.getLast? = lineage.getLast?)
    (previous : shorter.dropLast.getLast? = lineage.dropLast.getLast?) :
    Recalls history shorter where
  last := last.trans recalls.last
  previous x ends := previous.trans (recalls.previous x (last ▸ ends))

end Recalling

section Versions

variable {V : Type} [SemVer V]

/-! ## What a call does to a lineage -/

def DomainPackActivation.lineage (activation : DomainPackActivation V) :
    List (DomainPackReleaseId V) :=
  activation.rollback ++ activation.active.toList

omit [SemVer V] in
theorem DomainPackActivation.mem_lineage {activation : DomainPackActivation V}
    {release : DomainPackReleaseId V} : release ∈ activation.lineage ↔
      activation.active = some release ∨ release ∈ activation.rollback := by
  rw [lineage, List.mem_append, Option.mem_toList, or_comm]

/-- The lineage under a key. -/
def lineageOf (current : Option (DomainPackActivation V)) : List (DomainPackReleaseId V) :=
  (current.map (·.lineage)).getD []

/-- What the list is once it has room for one release more. -/
def trimmed (rollback : List (DomainPackReleaseId V)) : List (DomainPackReleaseId V) :=
  if rollback.length = maxRollbackHistory then rollback.tail else rollback

omit [SemVer V] in
theorem trimmed_getLast? (rollback : List (DomainPackReleaseId V)) :
    (trimmed rollback).getLast? = rollback.getLast? := by
  unfold trimmed
  split
  · rename_i full
    match rollback with
    | first :: second :: rest => rfl
    | [only] => cases full
    | [] => rfl
  · rfl

omit [SemVer V] in
theorem pushRollback_trimmed {rollback next : List (DomainPackReleaseId V)}
    {release : DomainPackReleaseId V} (pushed : pushRollback rollback release = .ok next) :
    next = trimmed rollback ++ [release] := by
  replace pushed := rest_ok pushed
  cases pushed
  rfl

variable [Sha256]

/-- How the activation under a key is replaced. -/
inductive Turn (key : ActivationKey) (c : DomainPackCall V)
    (before : Option (DomainPackActivation V)) (after : DomainPackActivation V) : Prop
  | activated {verified : VerifiedDomainPack V} {expected : UInt64} {authority : AuthorityContext}
      {now : Clock} (call : c = .activate verified expected authority now)
      (named : key = ⟨authority.tenantId, verified.snapshot.release.name⟩)
      (active : after.active = some verified.snapshot.release)
      (pushed : pushPrevious ((before.map (·.rollback)).getD [])
        ((before.bind (·.active)).filter fun active => active != verified.snapshot.release) =
          .ok after.rollback)
  | deactivated {current : DomainPackActivation V} {release : DomainPackReleaseId V}
      (held : before = some current) (was : current.active = some release)
      (active : after.active = none)
      (pushed : pushRollback current.rollback release = .ok after.rollback)
  | rolledBack {current : DomainPackActivation V} {target : DomainPackReleaseId V}
      (held : before = some current) (last : current.rollback.getLast? = some target)
      (active : after.active = some target)
      (pushed : pushPrevious current.rollback.dropLast current.active = .ok after.rollback)

/-- The activation under a key is kept, or replaced. -/
def Turned (key : ActivationKey) (c : DomainPackCall V) (state next : CatalogState V) : Prop :=
  state.activations[key]? = next.activations[key]? ∨
    ∃ after, next.activations[key]? = some after ∧ Turn key c state.activations[key]? after

theorem turned_of_insert {key written : ActivationKey} {c : DomainPackCall V}
    {state : CatalogState V} {after : DomainPackActivation V}
    (turn : Turn written c state.activations[written]? after) :
    Turned key c state
      { state with activations := state.activations.insert written after } := by
  by_cases same : written = key
  · subst same
    exact .inr ⟨after, OrdMap.get?_insert_self .., turn⟩
  · exact .inl (OrdMap.get?_insert_of_ne _ _ same).symm

theorem turned_of_activate {key : ActivationKey} {state next : CatalogState V}
    {verified : VerifiedDomainPack V} {expected : UInt64} {authority : AuthorityContext}
    {now : Clock} {activation : DomainPackActivation V}
    (called : state.activate verified expected authority now = .ok (activation, next)) :
    Turned key (.activate verified expected authority now) state next := by
  obtain ⟨tenant, validated, called⟩ := bind_eq_ok.1 called
  obtain ⟨rfl, _⟩ := validatedTenant_eq_ok validated
  obtain ⟨_, _, called⟩ := bind_eq_ok.1 called
  replace called := rest_ok called
  obtain ⟨_, made, called⟩ := bind_eq_ok.1 called
  cases called
  replace made := rest_ok made
  split at made
  · rename_i existing same
    cases made
    obtain ⟨held, _⟩ := Option.filter_eq_some_iff.1 same
    rw [OrdMap.insert_eq_self held]
    exact .inl rfl
  · obtain ⟨rollback, pushed, made⟩ := bind_eq_ok.1 made
    obtain ⟨_, _, made⟩ := bind_eq_ok.1 made
    obtain ⟨_, _, made⟩ := bind_eq_ok.1 made
    replace made := rest_ok made
    cases made
    exact turned_of_insert (.activated rfl rfl rfl pushed)

omit [Sha256] in
theorem turned_of_deactivate [Sha256] {key : ActivationKey} {state next : CatalogState V}
    {name : String} {expected : UInt64} {authority : AuthorityContext} {now : Clock}
    {activation : DomainPackActivation V}
    (called : state.deactivate name expected authority now = .ok (activation, next)) :
    Turned key (.deactivate name expected authority now) state next := by
  obtain ⟨tenant, validated, called⟩ := bind_eq_ok.1 called
  obtain ⟨rfl, _⟩ := validatedTenant_eq_ok validated
  obtain ⟨current, held, called⟩ := bind_eq_ok.1 called
  obtain ⟨_, made, called⟩ := bind_eq_ok.1 called
  cases called
  replace made := rest_ok made
  obtain ⟨active, was, made⟩ := bind_eq_ok.1 made
  obtain ⟨rollback, pushed, made⟩ := bind_eq_ok.1 made
  obtain ⟨_, _, made⟩ := bind_eq_ok.1 made
  obtain ⟨_, _, made⟩ := bind_eq_ok.1 made
  replace made := rest_ok made
  cases made
  exact turned_of_insert (.deactivated (CatalogState.activationOf_eq_ok.1 held)
    (orError_eq_ok.1 was) rfl pushed)

/-- What a rollback found, and what it leaves. -/
theorem rollback_eq_ok {state next : CatalogState V} {verified : VerifiedDomainPack V}
    {expected : UInt64} {authority : AuthorityContext} {now : Clock}
    {activation : DomainPackActivation V}
    (called : state.rollback verified expected authority now = .ok (activation, next)) :
    ∃ current, state.activations[
          (⟨authority.tenantId, verified.snapshot.release.name⟩ : ActivationKey)]? = some current ∧
      current.rollback.getLast? = some verified.snapshot.release ∧
      activation.active = some verified.snapshot.release ∧
      pushPrevious current.rollback.dropLast current.active = .ok activation.rollback ∧
      next = { state with
        activations :=
          state.activations.insert ⟨authority.tenantId, verified.snapshot.release.name⟩ activation } := by
  obtain ⟨tenant, validated, called⟩ := bind_eq_ok.1 called
  obtain ⟨rfl, _⟩ := validatedTenant_eq_ok validated
  obtain ⟨_, _, called⟩ := bind_eq_ok.1 called
  replace called := rest_ok called
  obtain ⟨current, held, called⟩ := bind_eq_ok.1 called
  obtain ⟨_, made, called⟩ := bind_eq_ok.1 called
  cases called
  replace made := rest_ok made
  obtain ⟨target, last, made⟩ := bind_eq_ok.1 made
  obtain ⟨same, made⟩ := seq_eq_ok.1 made
  obtain ⟨rollback, pushed, made⟩ := bind_eq_ok.1 made
  obtain ⟨_, _, made⟩ := bind_eq_ok.1 made
  obtain ⟨_, _, made⟩ := bind_eq_ok.1 made
  replace made := rest_ok made
  cases made
  rw [rejectIf_bne] at same
  rw [orError_eq_ok, ← same] at last
  exact ⟨current, CatalogState.activationOf_eq_ok.1 held, last, rfl, pushed, rfl⟩

/-- **What a call does to an activation.** -/
theorem turned_of_call {state next : CatalogState V} (sound : state.Sound) {c : DomainPackCall V}
    {answer : DomainPackAnswer V} (called : state.call c = .ok (answer, next))
    (key : ActivationKey) : Turned key c state next := by
  cases c with
  | activate verified expected authority now =>
    obtain ⟨⟨activation, after⟩, activated, called⟩ := bind_eq_ok.1 called
    cases called
    exact turned_of_activate activated
  | deactivate name expected authority now =>
    obtain ⟨⟨activation, after⟩, deactivated, called⟩ := bind_eq_ok.1 called
    cases called
    exact turned_of_deactivate deactivated
  | rollback verified expected authority now =>
    obtain ⟨⟨activation, after⟩, rolledBack, called⟩ := bind_eq_ok.1 called
    cases called
    obtain ⟨current, held, last, active, pushed, rfl⟩ := rollback_eq_ok rolledBack
    exact turned_of_insert (.rolledBack held last active pushed)
  | bind verified expected authority =>
    obtain ⟨binding, _, called⟩ := bind_eq_ok.1 called
    cases called
    exact .inl rfl
  | _ =>
    have does := CatalogState.call_does sound called
    refine .inl ((does.changes (.activation key)).resolve_right ?_)
    rintro ⟨about, _⟩
    cases about

/-- The call activates the Pack of the key, which is inactive, with the release that was
deactivated last. -/
def Reactivates (state : CatalogState V) (key : ActivationKey) : DomainPackCall V → Prop
  | .activate verified _ authority _ =>
      key = ⟨authority.tenantId, verified.snapshot.release.name⟩ ∧
        ∃ current ∈ state.activations[key]?, current.active = none ∧
          current.rollback.getLast? = some verified.snapshot.release
  | _ => False

instance (state : CatalogState V) (key : ActivationKey) (c : DomainPackCall V) :
    Decidable (Reactivates state key c) := by
  cases c <;> unfold Reactivates <;> infer_instance

theorem Turn.recalls {key : ActivationKey} {c : DomainPackCall V} {state : CatalogState V}
    {after : DomainPackActivation V} {history : List (DomainPackReleaseId V)}
    (turn : Turn key c state.activations[key]? after) (steady : ¬ Reactivates state key c)
    (recalls : Recalls history (lineageOf state.activations[key]?)) :
    Recalls (history ++ after.active.toList) after.lineage := by
  unfold DomainPackActivation.lineage
  cases turn with
  | @activated verified _ authority _ call named active pushed =>
    subst call
    rw [active]
    cases held : state.activations[key]? with
    | none =>
      rw [held] at pushed recalls
      rw [← Except.ok.inj pushed]
      exact recalls.turn nofun rfl
    | some current =>
      rw [held] at pushed recalls
      cases was : current.active with
      | none =>
        have lineage : lineageOf (some current) = current.rollback := by
          simp [lineageOf, DomainPackActivation.lineage, was]
        simp only [Option.map_some, Option.getD_some, Option.bind_some, was,
          Option.filter_none, pushPrevious] at pushed
        rw [lineage] at recalls
        rw [← Except.ok.inj pushed]
        exact recalls.turn (fun last => steady ⟨named, current, held, was, last⟩) rfl
      | some release =>
        have lineage : lineageOf (some current) = current.rollback ++ [release] := by
          simp [lineageOf, DomainPackActivation.lineage, was]
        rw [lineage] at recalls
        simp only [Option.map_some, Option.getD_some, Option.bind_some, was] at pushed
        by_cases same : release = verified.snapshot.release
        · rw [Option.filter_some, same, if_neg (by simp)] at pushed
          rw [← Except.ok.inj pushed, ← same]
          exact recalls.again (List.getLast?_concat ..)
        · rw [Option.filter_some, if_pos (bne_iff_ne.2 same)] at pushed
          rw [pushRollback_trimmed pushed]
          refine recalls.turn ?_ (by rw [List.getLast?_concat, List.getLast?_concat])
          rw [List.getLast?_concat]
          exact fun ends => same (Option.some.inj ends)
  | @deactivated current release held was active pushed =>
    have lineage : lineageOf state.activations[key]? = current.rollback ++ [release] := by
      simp [lineageOf, DomainPackActivation.lineage, held, was]
    rw [lineage] at recalls
    rw [active, pushRollback_trimmed pushed, Option.toList_none, List.append_nil,
      List.append_nil]
    refine recalls.trim (by rw [List.getLast?_concat, List.getLast?_concat]) ?_
    rw [List.dropLast_concat, List.dropLast_concat, trimmed_getLast?]
  | @rolledBack current target held last active pushed =>
    rw [active]
    have split := List.dropLast_append_getLast? target last
    cases was : current.active with
    | none =>
      have lineage : lineageOf state.activations[key]? = current.rollback := by
        simp [lineageOf, DomainPackActivation.lineage, held, was]
      rw [lineage] at recalls
      rw [was] at pushed
      rw [← Except.ok.inj pushed, Option.toList_some, split]
      exact recalls.again last
    | some release =>
      have lineage : lineageOf state.activations[key]? = current.rollback ++ [release] := by
        simp [lineageOf, DomainPackActivation.lineage, held, was]
      rw [lineage] at recalls
      rw [was] at pushed
      rw [pushRollback_trimmed pushed]
      refine recalls.turn ?_ (by rw [List.getLast?_concat, List.getLast?_concat])
      rw [List.getLast?_concat]
      intro ends
      -- what is on top of the list was active while the present release was not
      have previous := recalls.previous release (List.getLast?_concat ..)
      rw [List.dropLast_concat, last] at previous
      have member := List.mem_of_getLast? previous.symm
      rw [List.mem_filter, bne_iff_ne] at member
      exact member.2 (Option.some.inj ends).symm

/-- The list takes in only what the lineage named. -/
theorem Turn.listed {key : ActivationKey} {c : DomainPackCall V}
    {before : Option (DomainPackActivation V)} {after : DomainPackActivation V}
    (turn : Turn key c before after) : ∀ release ∈ after.rollback, release ∈ lineageOf before := by
  intro release named
  cases turn with
  | activated _ _ _ pushed =>
    cases before with
    | none =>
      cases (Except.ok.inj pushed).symm ▸ named
    | some current =>
      refine DomainPackActivation.mem_lineage.2 ?_
      exact (pushPrevious_eq_ok pushed release named).imp_left fun held =>
        (Option.filter_eq_some_iff.1 held).1
  | deactivated held was _ pushed =>
    subst held
    refine DomainPackActivation.mem_lineage.2 ?_
    rcases pushRollback_eq_ok pushed release named with rfl | earlier
    · exact .inl was
    · exact .inr earlier
  | rolledBack held _ _ pushed =>
    subst held
    refine DomainPackActivation.mem_lineage.2 ?_
    exact (pushPrevious_eq_ok pushed release named).imp_right List.mem_of_mem_dropLast

/-! ## Runs -/

namespace CatalogState

/-- The release that is active under a key. -/
def activeAfter (calls : List (DomainPackCall V)) (key : ActivationKey) :
    Option (DomainPackReleaseId V) :=
  (after calls).activations[key]?.bind (·.active)

/-- The releases that were active, before the calls and after each of them. -/
def activeHistory (calls : List (DomainPackCall V)) (key : ActivationKey) :
    List (DomainPackReleaseId V) :=
  calls.inits.filterMap fun calls => activeAfter calls key

/-- No call that succeeds activates the Pack of the key again with what was deactivated
last. -/
def Steady (calls : List (DomainPackCall V)) (key : ActivationKey) : Prop :=
  ∀ before c later answer, calls = before ++ c :: later → answerAfter before c = .ok answer →
    ¬ Reactivates (after before) key c

theorem activeHistory_concat (calls : List (DomainPackCall V)) (c : DomainPackCall V)
    (key : ActivationKey) : activeHistory (calls ++ [c]) key =
      activeHistory calls key ++ (activeAfter (calls ++ [c]) key).toList := by
  unfold activeHistory
  rw [List.inits_append, List.filterMap_append]
  congr 1

/-- What the activation of a key is after one call more. -/
theorem turned_after (calls : List (DomainPackCall V)) (c : DomainPackCall V)
    (key : ActivationKey) : after (calls ++ [c]) = after calls ∨
      (∃ answer, answerAfter calls c = .ok answer) ∧
        Turned key c (after calls) (after (calls ++ [c])) := by
  rw [after_concat]
  unfold answerAfter attempt
  cases called : (after calls).call c with
  | error e => exact .inl rfl
  | ok result => exact .inr ⟨⟨result.1, rfl⟩, turned_of_call (sound_after calls) called key⟩

variable {calls : List (DomainPackCall V)} {key : ActivationKey}

theorem Steady.init {c : DomainPackCall V} (steady : Steady (calls ++ [c]) key) :
    Steady calls key := by
  rintro before d later answer rfl
  exact steady before d (later ++ [c]) answer (by simp)

theorem steady_of_take
    (kept : ∀ n : Fin calls.length, ¬ Reactivates (after (calls.take n)) key calls[n]) :
    Steady calls key := by
  rintro before c later answer rfl _
  simpa using kept ⟨before.length, by simp⟩

omit [Sha256] in
/-- A kept activation adds to the history only what was last in it. -/
theorem recalls_kept {history : List (DomainPackReleaseId V)}
    {current : Option (DomainPackActivation V)} (recalls : Recalls history (lineageOf current)) :
    Recalls (history ++ (current.bind (·.active)).toList) (lineageOf current) := by
  cases current with
  | none =>
    rw [Option.bind_none, Option.toList_none, List.append_nil]
    exact recalls
  | some activation =>
    cases was : activation.active with
    | none =>
      rw [Option.bind_some, was, Option.toList_none, List.append_nil]
      exact recalls
    | some release =>
      rw [Option.bind_some, was]
      refine recalls.again ?_
      simp [lineageOf, DomainPackActivation.lineage, was]

/-- **The lineage recalls what was active**, after every run without such a call. -/
theorem recalls_after (steady : Steady calls key) :
    Recalls (activeHistory calls key) (lineageOf (after calls).activations[key]?) := by
  induction calls using List.reverseRecOn with
  | nil =>
    have free : (after [] : CatalogState V).activations[key]? = none := OrdMap.get?_empty key
    simp only [activeHistory, activeAfter, List.inits, List.filterMap_cons, free,
      Option.bind_none, List.filterMap_nil]
    exact ⟨rfl, nofun⟩
  | append_singleton calls c ih =>
    have recalls := ih steady.init
    rw [activeHistory_concat]
    rcases turned_after calls c key with same | ⟨⟨answer, answered⟩, same | ⟨next, held, turn⟩⟩
    · rw [activeAfter, same]
      exact recalls_kept recalls
    · rw [activeAfter, ← same]
      exact recalls_kept recalls
    · have turned := turn.recalls (steady calls c [] answer rfl answered) recalls
      rw [activeAfter, held]
      exact turned

/-- Whatever an activation names was active. -/
theorem lineage_after (calls : List (DomainPackCall V)) (key : ActivationKey) :
    ∀ release ∈ lineageOf (after calls).activations[key]?,
      release ∈ activeHistory calls key := by
  induction calls using List.reverseRecOn with
  | nil =>
    have free : (after [] : CatalogState V).activations[key]? = none := OrdMap.get?_empty key
    rw [free]
    nofun
  | append_singleton calls c ih =>
    intro release named
    rw [activeHistory_concat]
    rcases turned_after calls c key with same | ⟨_, same | ⟨next, held, turn⟩⟩
    · rw [same] at named
      exact List.mem_append_left _ (ih release named)
    · rw [← same] at named
      exact List.mem_append_left _ (ih release named)
    · rw [activeAfter, held]
      rw [held] at named
      rcases List.mem_append.1 named with listed | active
      · exact List.mem_append_left _ (ih release (turn.listed release listed))
      · exact List.mem_append_right _ active

end CatalogState

/-! ## A rollback that goes through -/

/-- What the check of an activation asks. -/
structure ActivationValid (activation : DomainPackActivation V) : Prop where
  schema : activation.schemaVersion = domainPackStoreSchemaVersion
  tenant : validateOptionalTenant activation.tenantId = .ok ()
  name : validatePackName activation.name = .ok ()
  counted : (activation.revision == 0 || activation.changedAtMs == 0) = false
  actor : validateActor activation.changedBy = .ok ()
  few : activation.rollback.length ≤ maxRollbackHistory
  members : ∀ release ∈ activation.members, validateMember activation.name release = .ok ()
  inventory : activation.validateInventory = .ok ()

omit [Sha256] in
theorem activationValid_of_ok {activation : DomainPackActivation V}
    (valid : validateActivation activation = .ok ()) : ActivationValid activation := by
  obtain ⟨schema, valid⟩ := seq_eq_ok.1 valid
  obtain ⟨tenant, valid⟩ := seq_eq_ok.1 valid
  obtain ⟨name, valid⟩ := seq_eq_ok.1 valid
  obtain ⟨counted, valid⟩ := seq_eq_ok.1 valid
  obtain ⟨actor, valid⟩ := seq_eq_ok.1 valid
  obtain ⟨few, valid⟩ := seq_eq_ok.1 valid
  obtain ⟨members, valid⟩ := seq_eq_ok.1 valid
  obtain ⟨inventory, _⟩ := seq_eq_ok.1 valid
  rw [rejectIf_bne] at schema
  rw [rejectIf_eq_ok] at counted
  rw [rejectIf_decide, not_lt] at few
  exact ⟨schema, tenant, name, counted, actor, few, checkAll_eq_ok.1 members, inventory⟩

omit [Sha256] in
theorem member_len {name : String} {release : DomainPackReleaseId V}
    (valid : validateMember name release = .ok ()) : release.toJson.encodedLen ≤ 1570 := by
  have keys : ∀ key ∈ ["name", "version"], stringLen key ≤ 9 := by decide
  simp only [List.forall_mem_cons] at keys
  obtain ⟨checked, _⟩ := seq_eq_ok.1 valid
  obtain ⟨named, versioned⟩ := seq_eq_ok.1 checked
  simp only [validateName, validateCoordinate, isPortable, boundedText, rejectIf_eq_ok,
    Bool.not_eq_false', Bool.and_eq_true, decide_eq_true_eq] at named versioned
  obtain ⟨⟨_, nameShort⟩, _⟩ := named
  obtain ⟨⟨_, versionShort⟩, _⟩ := versioned
  unfold maxCoordinateBytes at nameShort
  have left := stringLen_le release.name
  have right := stringLen_le (SemVer.display release.version)
  simp only [DomainPackReleaseId.toJson, Json.encodedLen, fieldsLen, List.length_cons,
    List.length_nil]
  omega

omit [Sha256] in
/-- **A checked activation fits** its bound, whatever its texts are. -/
theorem ActivationValid.fits {activation : DomainPackActivation V}
    (valid : ActivationValid activation) :
    activation.toJson.encodedLen ≤ maxActivationRecordBytes := by
  have keys : ∀ key ∈ ["schema_version", "tenant_id", "name", "active", "rollback",
      "inventory_sha256", "revision", "changed_by", "changed_at_ms"], stringLen key ≤ 20 := by
    decide
  simp only [List.forall_mem_cons] at keys
  have member (release) (named : release ∈ activation.members) :=
    member_len (valid.members release named)
  have name : stringLen activation.name ≤ 770 := by
    have named := valid.name
    simp only [validatePackName, boundedText, rejectIf_eq_ok, Bool.not_eq_false',
      Bool.and_eq_true, decide_eq_true_eq] at named
    have length := stringLen_le activation.name
    omega
  have active : (nullable DomainPackReleaseId.toJson activation.active).encodedLen ≤ 1570 := by
    cases held : activation.active with
    | none => exact Nat.le_of_ble_eq_true rfl
    | some release => exact member release (DomainPackActivation.mem_members.2 (.inl held))
  have rollback : valuesLen (activation.rollback.map DomainPackReleaseId.toJson) ≤ 50240 := by
    have short : ∀ value ∈ activation.rollback.map DomainPackReleaseId.toJson,
        value.encodedLen ≤ 1570 := by
      intro value listed
      obtain ⟨release, named, rfl⟩ := List.mem_map.1 listed
      exact member release (DomainPackActivation.mem_members.2 (.inr named))
    have each := valuesLen_le short
    have few := valid.few
    rw [List.length_map] at each
    unfold maxRollbackHistory at few
    omega
  have inventory : (nullable Json.str activation.inventorySha256).encodedLen ≤ 66 := by
    have checked := valid.inventory
    unfold DomainPackActivation.validateInventory at checked
    split at checked
    · rename_i digest _ held
      rw [held]
      simp only [validateDigest, rejectIf_eq_ok, Bool.not_eq_false'] at checked
      exact (lowerSha256_len checked).le
    · rename_i held
      rw [held]
      decide
    · cases checked
  have actor : activation.changedBy.toJson.encodedLen ≤ 1200 := by
    obtain ⟨_, built, _⟩ := bind_eq_ok.1 valid.actor
    obtain ⟨current, _⟩ := seq_eq_ok.1 (mapError_eq_ok.1 built)
    exact actor_len (mapError_eq_ok.1 (seq_eq_ok.1 current).1)
  have tenant : fieldsLen (skipNone "tenant_id" .str activation.tenantId) ≤ 300 := by
    cases held : activation.tenantId with
    | none => decide
    | some tenant =>
      have checked := valid.tenant
      rw [held] at checked
      obtain ⟨_, built, _⟩ := bind_eq_ok.1 checked
      obtain ⟨current, _⟩ := seq_eq_ok.1 (mapError_eq_ok.1 built)
      have length := tenant_len (checkSome_eq_ok.1 (seq_eq_ok.1 current).2 tenant rfl)
      simp only [skipNone, fieldsLen, Json.encodedLen]
      omega
  have schema := jsonU32_len activation.schemaVersion
  have revision := jsonU64_len activation.revision
  have changed := jsonU64_len activation.changedAtMs
  have few := valid.few
  have fields : (skipNone "tenant_id" Json.str activation.tenantId).length ≤ 1 := by
    cases activation.tenantId <;> simp [skipNone]
  simp only [DomainPackActivation.toJson, Json.encodedLen, fieldsLen_append, fieldsLen,
    List.length_append, List.length_cons, List.length_nil, List.length_map,
    maxActivationRecordBytes, maxRollbackHistory] at few ⊢
  omega

omit [Sha256] in
theorem ActivationValid.ok {activation : DomainPackActivation V}
    (valid : ActivationValid activation) : validateActivation activation = .ok () := by
  refine seq_eq_ok.2 ⟨?_, seq_eq_ok.2 ⟨valid.tenant, seq_eq_ok.2 ⟨valid.name, seq_eq_ok.2 ⟨?_,
    seq_eq_ok.2 ⟨valid.actor, seq_eq_ok.2 ⟨?_, seq_eq_ok.2 ⟨checkAll_eq_ok.2 valid.members,
      seq_eq_ok.2 ⟨valid.inventory, boundedJsonSize_eq_ok valid.fits _⟩⟩⟩⟩⟩⟩⟩⟩
  · rw [rejectIf_bne]
    exact valid.schema
  · rw [rejectIf_eq_ok]
    exact valid.counted
  · rw [rejectIf_decide, not_lt]
    exact valid.few

omit [SemVer V] [Sha256] in
theorem nextRevision_of_durable {current : UInt64} (durable : current.toNat + 1 < 2 ^ 63) :
    nextRevision current = .ok (current + 1) := by
  have small : current.toNat + 1 < UInt64.size := by
    simp only [UInt64.size]
    omega
  rw [nextRevision, if_pos small]
  refine seq_eq_ok.2 ⟨?_, rfl⟩
  rw [rejectIf_decide, not_le]
  exact durable

omit [SemVer V] [Sha256] in
theorem pushRollback_of_room {rollback : List (DomainPackReleaseId V)}
    (room : rollback.length < maxRollbackHistory) (release : DomainPackReleaseId V) :
    pushRollback rollback release = .ok (rollback ++ [release]) := by
  refine seq_eq_ok.2 ⟨?_, ?_⟩
  · rw [rejectIf_decide, not_lt]
    exact room.le
  · rw [if_neg room.ne]

theorem VerifiedDomainPack.digest (verified : VerifiedDomainPack V) (kind : String) :
    validateDigest kind verified.inventorySha256 = .ok () := by
  obtain ⟨inventory, checked, same⟩ := verified.verified
  replace checked := rest_ok checked
  obtain ⟨valid, _⟩ := seq_eq_ok.1 checked
  obtain ⟨digest, _⟩ := seq_eq_ok.1 (seq_eq_ok.1 valid).2
  rw [same]
  unfold validateDigest at digest ⊢
  rw [rejectIf_eq_ok] at digest ⊢
  exact digest

/-- **A rollback to the top of the list** goes through. -/
theorem rollbackRelease_of_top {current : DomainPackActivation V} {verified : VerifiedDomainPack V}
    {authority : AuthorityContext} {atMs : UInt64} {active : DomainPackReleaseId V}
    (valid : ActivationValid current) (was : current.active = some active)
    (top : current.rollback.getLast? = some verified.snapshot.release)
    (actor : validateActor authority.actor = .ok ()) (clock : (atMs == 0) = false)
    (durable : current.revision.toNat + 1 < 2 ^ 63) :
    ∃ next, rollbackRelease current verified current.revision authority (.ok atMs) = .ok next ∧
      next.active = some verified.snapshot.release := by
  have listed := List.mem_of_getLast? top
  have shorter : current.rollback.dropLast.length < maxRollbackHistory := by
    have few := valid.few
    have some := List.length_pos_of_mem listed
    rw [List.length_dropLast]
    omega
  have checked : validateActivation { current with
      active := some verified.snapshot.release
      rollback := current.rollback.dropLast ++ [active]
      inventorySha256 := some verified.inventorySha256, revision := current.revision + 1
      changedBy := authority.actor, changedAtMs := atMs } = .ok () := by
    refine ActivationValid.ok ⟨valid.schema, valid.tenant, valid.name, ?_, actor, ?_, ?_,
      verified.digest _⟩
    · have counted : (current.revision + 1).toNat = current.revision.toNat + 1 := by
        rw [UInt64.toNat_add, UInt64.toNat_one]
        omega
      rw [Bool.or_eq_false_iff, beq_eq_false_iff_ne]
      refine ⟨fun zero => ?_, clock⟩
      rw [show current.revision + 1 = 0 from zero] at counted
      cases counted
    · rw [List.length_append, List.length_singleton]
      exact shorter
    · intro release named
      refine valid.members release (DomainPackActivation.mem_members.2 ?_)
      rcases DomainPackActivation.mem_members.1 named with target | earlier
      · exact .inr (Option.some.inj target ▸ listed)
      · rcases List.mem_append.1 earlier with earlier | last
        · exact .inr (List.mem_of_mem_dropLast earlier)
        · exact .inl (List.mem_singleton.1 last ▸ was)
  refine ⟨_, seq_eq_ok.2 ⟨requireRevision_eq_ok.2 rfl, bind_eq_ok.2 ⟨_, orError_eq_ok.2 top,
    seq_eq_ok.2 ⟨?_, bind_eq_ok.2 ⟨_, ?_, bind_eq_ok.2 ⟨_, nextRevision_of_durable durable,
      seq_eq_ok.2 ⟨checked, rfl⟩⟩⟩⟩⟩⟩, rfl⟩
  · rw [rejectIf_eq_ok, bne_self_eq_false]
  · rw [was]
    exact pushRollback_of_room shorter active

namespace CatalogState

variable {calls : List (DomainPackCall V)} {key : ActivationKey} {active : DomainPackReleaseId V}

theorem rollback_of_top {state : CatalogState V} (sound : state.Sound) {key : ActivationKey}
    {activation : DomainPackActivation V} {verified : VerifiedDomainPack V}
    {record : DomainPackRelease V} {authority : AuthorityContext} {atMs : UInt64}
    (found : state.activations[key]? = some activation) (was : activation.active = some active)
    (top : activation.rollback.getLast? = some verified.snapshot.release)
    (held : state.releases[(⟨key.tenant, verified.snapshot.release⟩ : ReleaseKey V)]? =
      some record) (same : record.snapshot = verified.snapshot)
    (validated : validatedTenant authority = .ok key.tenant) (clock : (atMs == 0) = false)
    (durable : activation.revision.toNat + 1 < 2 ^ 63) :
    ∃ next, state.rollback verified activation.revision authority (.ok atMs) = .ok (next,
        { state with activations := state.activations.insert key next }) ∧
      next.active = some verified.snapshot.release := by
  have known := sound.activations key activation found
  have valid := activationValid_of_ok known.valid
  have named := DomainPackActivation.mem_members.2 (.inr (List.mem_of_getLast? top))
  have own : verified.snapshot.release.name = key.name := by
    obtain ⟨_, pack⟩ := seq_eq_ok.1 (valid.members _ named)
    rw [rejectIf_bne] at pack
    rw [pack, known.name]
  obtain ⟨tenantId, _, made⟩ := validatedTenant_eq_ok validated
  have actor : validateActor authority.actor = .ok () := by
    obtain ⟨current, _⟩ := seq_eq_ok.1 (mapError_eq_ok.1 made)
    refine bind_eq_ok.2 ⟨⟨authority.actor, none⟩, ?_, rfl⟩
    exact mapError_eq_ok.2 (seq_eq_ok.2 ⟨seq_eq_ok.2 ⟨(seq_eq_ok.1 current).1, rfl⟩, rfl⟩)
  have approved : record.stage.isApproved = true := by
    obtain ⟨backing, backed, stage⟩ := known.approved _ named
    obtain rfl : record = backing := Option.some.inj (held.symm.trans backed)
    exact stage
  have activatable : requireActivatable record verified = .ok () := by
    refine seq_eq_ok.2 ⟨(sound.releases _ _ held).valid, seq_eq_ok.2 ⟨?_, seq_eq_ok.2 ⟨?_,
      verified.digest _⟩⟩⟩
    · rw [rejectIf_bne]
      exact same
    · rw [rejectIf_eq_ok, Bool.not_eq_false']
      exact approved
  obtain ⟨next, rolledBack, active⟩ := rollbackRelease_of_top valid was top actor clock durable
  have found' : state.activations[(⟨key.tenant, verified.snapshot.release.name⟩ :
      ActivationKey)]? = some activation := by
    rw [own]
    exact found
  refine ⟨next, ?_, active⟩
  refine bind_eq_ok.2 ⟨_, validated, bind_eq_ok.2 ⟨record, releaseOf_eq_ok.2 held,
    seq_eq_ok.2 ⟨activatable, bind_eq_ok.2 ⟨activation, activationOf_eq_ok.2 found',
      bind_eq_ok.2 ⟨next, rolledBack, ?_⟩⟩⟩⟩⟩
  rw [own]

/-! ## The way back -/

/-- What the list of every activation holds after calls. -/
def Listed (calls : List (DomainPackCall V)) : Prop :=
  ∀ (key : ActivationKey) (activation : DomainPackActivation V),
    (after calls).activations[key]? = some activation →
    activation.rollback.length ≤ maxRollbackHistory ∧
      ∀ release ∈ activation.rollback, release.name = key.name ∧
        release ∈ activeHistory calls.dropLast key

/-- The release of a Pack that was active last before the present one. -/
def PreviouslyActive (calls : List (DomainPackCall V)) (key : ActivationKey)
    (active target : DomainPackReleaseId V) : Prop :=
  ((activeHistory calls key).filter (· != active)).getLast? = some target

/-- A rollback of a Pack from an active release: to the one that was active last before it, it
goes through; and none leaves the same release active. -/
structure GoesBack (calls : List (DomainPackCall V)) (key : ActivationKey) : Prop where
  succeeds : ∀ (activation : DomainPackActivation V) (active : DomainPackReleaseId V)
    (verified : VerifiedDomainPack V) (record : DomainPackRelease V)
    (authority : AuthorityContext) (atMs : UInt64),
    (after calls).activations[key]? = some activation → activation.active = some active →
    PreviouslyActive calls key active verified.snapshot.release →
    (after calls).releases[(⟨key.tenant, verified.snapshot.release⟩ : ReleaseKey V)]? =
      some record → record.snapshot = verified.snapshot →
    validatedTenant authority = .ok key.tenant → (atMs == 0) = false →
    activation.revision.toNat + 1 < 2 ^ 63 →
    ∃ next, answerAfter calls (.rollback verified activation.revision authority (.ok atMs)) =
        .ok (.activation next) ∧
      activeAfter (calls ++ [.rollback verified activation.revision authority (.ok atMs)]) key =
        some verified.snapshot.release
  leaves : ∀ (verified : VerifiedDomainPack V) (expected : UInt64) (authority : AuthorityContext)
    (now : Clock) (answer : DomainPackAnswer V) (active : DomainPackReleaseId V),
    key = ⟨authority.tenantId, verified.snapshot.release.name⟩ →
    activeAfter calls key = some active →
    answerAfter calls (.rollback verified expected authority now) = .ok answer →
    activeAfter (calls ++ [.rollback verified expected authority now]) key ≠ some active

theorem listed_after (calls : List (DomainPackCall V)) : Listed calls := by
  induction calls using List.reverseRecOn with
  | nil =>
    intro key activation found
    rw [show (after [] : CatalogState V).activations[key]? = none from OrdMap.get?_empty key]
      at found
    cases found
  | append_singleton calls c ih =>
    intro key activation found
    have known := (sound_after _).activations key activation found
    have valid := activationValid_of_ok known.valid
    refine ⟨valid.few, fun release named => ⟨?_, ?_⟩⟩
    · have member := valid.members release (DomainPackActivation.mem_members.2 (.inr named))
      obtain ⟨_, pack⟩ := seq_eq_ok.1 member
      rw [rejectIf_bne] at pack
      rw [pack, known.name]
    · rw [List.dropLast_concat]
      have lineage := lineage_after calls key
      have own (current) (held : (after calls).activations[key]? = some current)
          (same : current = activation) : release ∈ activeHistory calls key := by
        refine lineage release ?_
        rw [held, same]
        exact DomainPackActivation.mem_lineage.2 (.inr named)
      rcases turned_after calls c key with same | ⟨_, same | ⟨next, held, turn⟩⟩
      · rw [same] at found
        exact own activation found rfl
      · rw [← same] at found
        exact own activation found rfl
      · rw [held] at found
        cases found
        exact lineage release (turn.listed release named)

/-- What a lineage recalls of an active release. -/
theorem top_of_recalls (steady : Steady calls key) {activation : DomainPackActivation V}
    (found : (after calls).activations[key]? = some activation)
    (was : activation.active = some active) :
    activation.rollback.getLast? = ((activeHistory calls key).filter (· != active)).getLast? := by
  have recalls := recalls_after steady
  have lineage : lineageOf (after calls).activations[key]? = activation.rollback ++ [active] := by
    simp [lineageOf, DomainPackActivation.lineage, found, was]
  rw [lineage] at recalls
  have previous := recalls.previous active (List.getLast?_concat ..)
  rw [List.dropLast_concat] at previous
  exact previous

theorem goesBack_of_steady (steady : Steady calls key) : GoesBack calls key where
  succeeds activation active verified record authority atMs found was previously held same
      validated clock durable := by
    have top := (top_of_recalls steady found was).trans previously
    obtain ⟨next, rolledBack, now⟩ := rollback_of_top (sound_after calls) found was top held same
      validated clock durable
    have called : (after calls).call (.rollback verified activation.revision authority (.ok atMs)) =
        .ok (.activation next, { after calls with
          activations := (after calls).activations.insert key next }) :=
      bind_eq_ok.2 ⟨_, rolledBack, rfl⟩
    refine ⟨next, ?_, ?_⟩
    · rw [answerAfter, attempt, called]
    · rw [activeAfter, after_concat, attempt, called]
      show ((after calls).activations.insert key next)[key]?.bind _ = _
      rw [OrdMap.get?_insert_self]
      exact now
  leaves verified expected authority now answer active named was answered stays := by
    subst named
    obtain ⟨current, found, was⟩ := Option.bind_eq_some_iff.1 was
    have previous := top_of_recalls steady found was
    unfold answerAfter attempt at answered
    cases called : (after calls).call (.rollback verified expected authority now) with
    | error e =>
      rw [called] at answered
      cases answered
    | ok result =>
      obtain ⟨⟨activation, next⟩, rolledBack, answers⟩ := bind_eq_ok.1 called
      cases answers
      obtain ⟨_, held, top, target, _, rfl⟩ := rollback_eq_ok rolledBack
      rw [found] at held
      cases held
      rw [activeAfter, after_concat, attempt, called] at stays
      dsimp only at stays
      rw [OrdMap.get?_insert_self] at stays
      have same := Option.some.inj (target.symm.trans stays)
      rw [top] at previous
      have member := List.mem_of_getLast? previous.symm
      rw [List.mem_filter, bne_iff_ne] at member
      exact member.2 same

end CatalogState

open CatalogState in
/-- **The way back.**  The list of an activation never gets too long and holds only releases
of its Pack that were active before; and a Pack that no call of the run activates again with
what was deactivated last goes back: a rollback to the release that was active last before the
present one goes through, and none leaves the same release active.  The SQLite store answers
alike. -/
theorem rollback_goes_back (faithful : Function.Injective (SemVer.display (V := V))) :
    (∀ calls : List (DomainPackCall V), Listed calls ∧
        ∀ key : ActivationKey, Steady calls key → GoesBack calls key) ∧
      ∀ calls : List (DomainPackCall V),
        (attempts CatalogState.call .empty calls).1 =
            (attempts SqliteDomainPackStore.call .empty calls).1 ∧
          Mirrors (CatalogState.after calls) (SqliteDomainPackStore.after calls) :=
  ⟨fun calls => ⟨listed_after calls, fun _ => goesBack_of_steady⟩, stores_alike faithful⟩

end Versions

/-! ## Two releases of one Pack -/

section Sample

attribute [local instance] constantSha256

def secondSnapshot : DomainPackSnapshot VersionText :=
  { sampleSnapshot with release := ⟨"support", ⟨"2.0.0"⟩⟩ }

def secondVerified : VerifiedDomainPack VersionText :=
  ⟨secondSnapshot, sampleInventory.contentSha256, sampleInventory, by decide +kernel, rfl⟩

/-- A snapshot installed, evaluated and approved. -/
def promoted (snapshot : DomainPackSnapshot VersionText) : List (DomainPackCall VersionText) :=
  [.install snapshot (sampleAuthority "author") (.ok 10),
    .evaluate snapshot.release 1 (sampleDigest 'e') (sampleDigest 'f') true
      (sampleAuthority "evaluator") (.ok 20),
    .approve snapshot.release 2 (sampleDigest 'a') (sampleAuthority "approver") (.ok 30)]

/-- The second release replaces the first. -/
def replacedCalls : List (DomainPackCall VersionText) :=
  promoted sampleSnapshot ++ promoted secondSnapshot ++
    [.activate sampleVerified 0 (sampleAuthority "operator") (.ok 40),
      .activate secondVerified 1 (sampleAuthority "operator") (.ok 50)]

/-- The second release replaces the first, is deactivated and activated again. -/
def reactivatedCalls : List (DomainPackCall VersionText) :=
  replacedCalls ++
    [.deactivate "support" 2 (sampleAuthority "operator") (.ok 60),
      .activate secondVerified 3 (sampleAuthority "operator") (.ok 70)]

/-- What the store keeps of the first release. -/
def sampleRelease : DomainPackRelease VersionText :=
  ⟨1, some "tenant-a", sampleSnapshot,
    .approved ⟨sampleDigest 'e', sampleDigest 'f', true,
      .authenticated "directory" "evaluator", 20⟩
      ⟨sampleDigest 'a', .authenticated "directory" "approver", 30⟩, 3,
    .authenticated "directory" "author", 10, 30⟩

def supportKey : ActivationKey :=
  ⟨some "tenant-a", "support"⟩

open CatalogState in
/-- **The way back is blocked**: every call went through, and a rollback to the first release
is refused. -/
theorem reactivation_blocks :
    (attempts CatalogState.call .empty reactivatedCalls).1.all
        (fun answer => answer.toOption.isSome) = true ∧
      ¬ GoesBack reactivatedCalls supportKey := by
  refine ⟨by decide +kernel, fun back => ?_⟩
  obtain ⟨next, answered, _⟩ := back.succeeds
    ⟨1, some "tenant-a", "support", some secondSnapshot.release,
      [sampleSnapshot.release, secondSnapshot.release], some sampleInventory.contentSha256, 4,
      .authenticated "directory" "operator", 70⟩
    secondSnapshot.release sampleVerified
    sampleRelease (sampleAuthority "operator") 80 (by decide +kernel) rfl
    (by unfold PreviouslyActive; decide +kernel) (by decide +kernel) rfl (by decide +kernel) rfl
    (by decide +kernel)
  have refused : (answerAfter reactivatedCalls
      (.rollback sampleVerified 4 (sampleAuthority "operator") (.ok 80))).toOption.isNone = true := by
    decide +kernel
  rw [answered] at refused
  cases refused

/-- A rollback to the first release, a deactivation, and the second release once more. -/
def returnedCalls : List (DomainPackCall VersionText) :=
  replacedCalls ++
    [.rollback sampleVerified 2 (sampleAuthority "operator") (.ok 60),
      .deactivate "support" 3 (sampleAuthority "operator") (.ok 70),
      .activate secondVerified 4 (sampleAuthority "operator") (.ok 80)]

open CatalogState in
/-- Every call went through, and a rollback from the second release to the first goes through
once more. -/
theorem rollback_goes_back_sample :
    (attempts CatalogState.call .empty returnedCalls).1.all
        (fun answer => answer.toOption.isSome) = true ∧
      GoesBack returnedCalls supportKey ∧
      activeAfter (returnedCalls ++
          [.rollback sampleVerified 5 (sampleAuthority "operator") (.ok 90)]) supportKey =
        some sampleSnapshot.release := by
  have steady : Steady returnedCalls supportKey := steady_of_take (by decide +kernel)
  have back := ((rollback_goes_back VersionText.text_injective).1 _).2 _ steady
  refine ⟨by decide +kernel, back, ?_⟩
  obtain ⟨_, _, active⟩ := back.succeeds
    ⟨1, some "tenant-a", "support", some secondSnapshot.release,
      [secondSnapshot.release, sampleSnapshot.release], some sampleInventory.contentSha256, 5,
      .authenticated "directory" "operator", 80⟩
    secondSnapshot.release sampleVerified
    sampleRelease (sampleAuthority "operator") 90 (by decide +kernel) rfl
    (by unfold PreviouslyActive; decide +kernel) (by decide +kernel) rfl (by decide +kernel) rfl
    (by decide +kernel)
  exact active

end Sample

end YHarness.DomainPack
