/-
# YHarness.State.Admitted -- what State admits of the Items of a Thread

An Item reaches a Thread inside an event that State validated and encoded
(`ItemAdmitted`, `ReplaysTo.admitted`, `ThreadAdmitted`).  So its encoding is within
the limit of an event (`ItemAdmitted.size`), its Tool input or output has a bounded
shape (`ItemAdmitted.shaped`), and it validates on its own (`ItemAdmitted.valid`).
-/
import YHarness.State.Replay

namespace YHarness.State

open YHarness.Lib YHarness.Kernel

set_option autoImplicit false

/-! ## Parts of an encoding -/

variable {fewer fields : List (String × Json)} {value : Json}

theorem valuesLen_member {values : List Json} (member : value ∈ values) :
    value.encodedLen ≤ valuesLen values := by
  induction values with
  | nil => cases member
  | cons head values ih =>
    rw [valuesLen]
    rcases List.mem_cons.1 member with rfl | later
    · omega
    · have shorter := ih later
      omega

theorem fieldsLen_member {fields : List (String × Json)} {key : String}
    (member : (key, value) ∈ fields) : value.encodedLen ≤ fieldsLen fields := by
  induction fields with
  | nil => cases member
  | cons head fields ih =>
    obtain ⟨name, first⟩ := head
    rw [fieldsLen]
    rcases List.mem_cons.1 member with same | later
    · cases same
      omega
    · have shorter := ih later
      omega

/-- A field is no longer than its object. -/
theorem encodedLen_field {fields : List (String × Json)} (key : String) {value : Json}
    (member : (key, value) ∈ fields) : value.encodedLen ≤ (Json.obj fields).encodedLen := by
  have shorter := fieldsLen_member member
  rw [Json.encodedLen]
  omega

/-- An element is no longer than its array. -/
theorem encodedLen_value {values : List Json} (member : value ∈ values) :
    value.encodedLen ≤ (Json.arr values).encodedLen := by
  have shorter := valuesLen_member member
  rw [Json.encodedLen]
  omega

theorem fieldsLen_sublist (sub : fewer.Sublist fields) :
    fieldsLen fewer ≤ fieldsLen fields := by
  induction sub with
  | slnil => exact le_rfl
  | cons head _ ih =>
    rw [fieldsLen]
    omega
  | cons_cons head _ ih =>
    rw [fieldsLen, fieldsLen]
    omega

/-- Leaving fields out makes an object no longer. -/
theorem encodedLen_sublist (sub : fewer.Sublist fields) :
    (Json.obj fewer).encodedLen ≤ (Json.obj fields).encodedLen := by
  have shorter := fieldsLen_sublist sub
  have count := sub.length_le
  rw [Json.encodedLen, Json.encodedLen]
  omega

/-! ## The Items of an event -/

theorem eventItems_len {event : StateEvent} {item : Item} (member : item ∈ eventItems event) :
    item.toJson.encodedLen ≤ event.toJson.encodedLen := by
  have part : ∀ key, (key, item.toJson) ∈ event.fields →
      item.toJson.encodedLen ≤ event.toJson.encodedLen := fun key => encodedLen_field key
  cases event with
  | itemAppended turnId one =>
    rw [List.mem_singleton.1 member] at part ⊢
    exact part "item" (by simp [StateEvent.fields])
  | toolCallsAppended turnId calls =>
    have among : item.toJson ∈ calls.map Item.toJson := List.mem_map_of_mem member
    have listed : (Json.arr (calls.map Item.toJson)).encodedLen ≤
        (StateEvent.toolCallsAppended turnId calls).toJson.encodedLen :=
      encodedLen_field "calls" (by simp [StateEvent.fields])
    exact (encodedLen_value among).trans listed
  | waitStarted turnId first transition =>
    rcases List.mem_pair.1 member with rfl | rfl
    · exact part "approval_requested" (by simp [StateEvent.fields])
    · exact part "transition" (by simp [StateEvent.fields])
  | acceptResume turnId first transition =>
    rcases List.mem_pair.1 member with rfl | rfl
    · exact part "approval_decision" (by simp [StateEvent.fields])
    · exact part "transition" (by simp [StateEvent.fields])
  | claimReady turnId transition =>
    rw [List.mem_singleton.1 member] at part ⊢
    exact part "transition" (by simp [StateEvent.fields])
  | waitClosed turnId stopped transition status =>
    rcases List.mem_pair.1 member with rfl | rfl
    · exact part "stopped" (by simp [StateEvent.fields])
    · exact part "transition" (by simp [StateEvent.fields])
  | denyWait turnId first transition =>
    rcases List.mem_pair.1 member with rfl | rfl
    · exact part "approval_decision" (by simp [StateEvent.fields])
    · exact part "transition" (by simp [StateEvent.fields])
  | _ => cases member

section Valid

variable [Sha256] {event : StateEvent} {item : Item}

theorem eventItems_valid (valid : validateStateEvent event = .ok ())
    (member : item ∈ eventItems event) : validateStateItem item = .ok () := by
  have pair : ∀ {turnId : TurnId} {first transition : Item}, PairValid turnId first transition →
      item ∈ [first, transition] → validateStateItem item = .ok () := by
    intro turnId first transition checked among
    rcases List.mem_pair.1 among with rfl | rfl
    · exact checked.firstItem
    · exact checked.transitionItem
  cases event with
  | itemAppended turnId one =>
    rw [List.mem_singleton.1 member]
    simp only [validateStateEvent, seq_eq_ok] at valid
    exact valid.2.2
  | toolCallsAppended turnId calls => exact (toolCalls_eq_ok valid item member).2.1
  | waitStarted turnId first transition => exact pair (waitStarted_eq_ok.1 valid).1 member
  | acceptResume turnId first transition => exact pair (acceptResume_eq_ok.1 valid).1 member
  | claimReady turnId transition =>
    rw [List.mem_singleton.1 member]
    exact (claimReady_eq_ok.1 valid).2.2.1
  | waitClosed turnId stopped transition status => exact pair (waitClosed_eq_ok.1 valid).1 member
  | denyWait turnId first transition => exact pair (denyWait_eq_ok.1 valid).1 member
  | _ => cases member

/-- The shape check of an event reads the payloads of all its Items: an Item of a wait
event has none. -/
theorem eventItems_shaped (valid : validateStateEvent event = .ok ())
    (shaped : validateStateEventJsonShape event = .ok ()) (member : item ∈ eventItems event) :
    (itemPayload item).any shapeFails = false := by
  rw [validateStateEventJsonShape, checkAll_eq_ok] at shaped
  have checked : ∀ one ∈ shapedItems event, (itemPayload one).any shapeFails = false :=
    fun one among => rejectIf_eq_ok.1 (shaped one among)
  have bare : itemPayload item = none → (itemPayload item).any shapeFails = false :=
    fun none => by rw [none, Option.any_none]
  cases event with
  | itemAppended turnId one => exact checked item member
  | toolCallsAppended turnId calls => exact checked item member
  | waitStarted turnId first transition =>
    obtain ⟨_, envelope, kind, _, requested⟩ := waitStarted_eq_ok.1 valid
    rw [approvalRequestedMatchesEnvelope, beq_iff_eq] at requested
    rcases List.mem_pair.1 member with rfl | rfl
    · exact bare (by rw [itemPayload, requested])
    · exact bare (by rw [itemPayload, kind])
  | acceptResume turnId first transition =>
    obtain ⟨_, evidence, kind, decided⟩ := acceptResume_eq_ok.1 valid
    rw [approvalDecisionMatchesResume, beq_iff_eq] at decided
    rcases List.mem_pair.1 member with rfl | rfl
    · exact bare (by rw [itemPayload, decided])
    · exact bare (by rw [itemPayload, kind])
  | claimReady turnId transition =>
    obtain ⟨_, _, _, evidence, kind⟩ := claimReady_eq_ok.1 valid
    rw [List.mem_singleton.1 member] at bare ⊢
    exact bare (by rw [itemPayload, kind])
  | waitClosed turnId stopped transition status =>
    obtain ⟨_, evidence, kind, _, _, closed⟩ := waitClosed_eq_ok.1 valid
    rw [turnStoppedMatchesClosure, Bool.and_eq_true, beq_iff_eq, beq_iff_eq] at closed
    rcases List.mem_pair.1 member with rfl | rfl
    · exact bare (by rw [itemPayload, closed.2])
    · exact bare (by rw [itemPayload, kind])
  | denyWait turnId first transition =>
    obtain ⟨_, evidence, kind, _, denied⟩ := denyWait_eq_ok.1 valid
    rw [approvalDecisionMatchesDenial, Bool.and_eq_true, beq_iff_eq] at denied
    rcases List.mem_pair.1 member with rfl | rfl
    · exact bare (by rw [itemPayload, denied.1])
    · exact bare (by rw [itemPayload, kind])
  | _ => cases member

end Valid

/-! ## Admitted Items -/

section Admitted

variable [Sha256]

/-- An Item that some event State accepts carries. -/
def ItemAdmitted (item : Item) : Prop :=
  ∃ event charge, item ∈ eventItems event ∧ validateStateEvent event = .ok () ∧
    encodeStateEvent event = .ok charge

/-- Every Item of these Turns is admitted. -/
def ItemsAdmitted (turns : List Turn) : Prop :=
  ∀ turn ∈ turns, ∀ item ∈ turn.items, ItemAdmitted item

/-- A Turn whose identity and Items State accepted. -/
structure TurnAdmitted (turn : Turn) : Prop where
  identity : validateStateId "turn" turn.id = .ok ()
  items : ∀ item ∈ turn.items, ItemAdmitted item

/-- A Thread that State holds: a journal of it within the retention boundary replays to it. -/
def ThreadAdmitted (thread : Thread) : Prop :=
  ∃ events, JournalOf thread.id events ∧ events.length ≤ maxStateRecoveryEvents ∧
    ReplaysTo events (some thread)

variable {thread : Thread} {events : List StoredEvent} {item : Item}

theorem ItemAdmitted.size (admitted : ItemAdmitted item) :
    item.toJson.encodedLen ≤ maxStateEventBytes := by
  obtain ⟨event, charge, member, _, encoded⟩ := admitted
  exact (eventItems_len member).trans (encodeStateEvent_eq_ok encoded).2

theorem ItemAdmitted.valid (admitted : ItemAdmitted item) :
    validateStateItem item = .ok () := by
  obtain ⟨event, charge, member, valid, _⟩ := admitted
  exact eventItems_valid valid member

theorem ItemAdmitted.shaped (admitted : ItemAdmitted item) :
    (itemPayload item).any shapeFails = false := by
  obtain ⟨event, charge, member, valid, encoded⟩ := admitted
  exact eventItems_shaped valid (bind_eq_ok.1 encoded).choose_spec.1 member

theorem TurnAdmitted.replace_last {before : List Turn} {turn turn' : Turn}
    (known : ∀ one ∈ before ++ [turn], TurnAdmitted one) (sameId : turn'.id = turn.id)
    (items : (∀ item ∈ turn.items, ItemAdmitted item) → ∀ item ∈ turn'.items, ItemAdmitted item) :
    ∀ one ∈ before ++ [turn'], TurnAdmitted one := by
  intro one member
  rcases List.mem_append.1 member with earlier | final
  · exact known one (List.mem_append_left _ earlier)
  · obtain ⟨identity, old⟩ := known turn (by simp)
    rw [List.mem_singleton.1 final]
    exact ⟨sameId ▸ identity, items old⟩

/-- A step of a Thread adds a Turn its event starts, or Items its event carries. -/
theorem ThreadStep.admitted {e : StoredEvent} {thread thread' : Option Thread}
    (step : ThreadStep e thread thread') (valid : validateStateEvent e.event = .ok ())
    (carried : ∀ item ∈ eventItems e.event, ItemAdmitted item)
    (before : ∀ t, thread = some t → ∀ turn ∈ t.turns, TurnAdmitted turn) :
    ∀ t, thread' = some t → ∀ turn ∈ t.turns, TurnAdmitted turn := by
  rintro _ rfl
  cases step with
  | created is tenant => exact fun turn member => by cases member
  | named is valid => exact (before _ rfl :)
  | forked is valid other fresh => exact (before _ rfl :)
  | imported is valid fresh => exact (before _ rfl :)
  | checkpointed is is_new owner earlier => exact (before _ rfl :)
  | started is is_new idle =>
    rw [is] at valid
    intro turn member
    rcases List.mem_append.1 member with earlier | final
    · exact before _ rfl turn earlier
    · rw [List.mem_singleton.1 final]
      exact ⟨valid, fun item none => by cases none⟩
  | appended carries last same running fresh scanned closing settles =>
    have known := before _ rfl
    rw [last] at known
    rw [eventItems_of_carried carries] at carried
    refine TurnAdmitted.replace_last known rfl fun old item among => ?_
    rcases List.mem_append.1 among with earlier | new
    · exact old item earlier
    · exact carried item new
  | finished is settles last same running scanned idle =>
    have known := before _ rfl
    rw [last] at known
    exact TurnAdmitted.replace_last known rfl fun old => old
  | completed is last same running steered scanned idle placed =>
    have known := before _ rfl
    rw [last] at known
    exact TurnAdmitted.replace_last known rfl fun old => old

/-- **Turns of a stored Thread.**  Every Turn of a Thread that a journal replays to was
admitted, with every Item of it. -/
theorem ReplaysTo.admitted {threadId : ThreadId} {thread : Option Thread}
    (replays : ReplaysTo events thread) (journal : JournalOf threadId events) :
    ∀ t, thread = some t → ∀ turn ∈ t.turns, TurnAdmitted turn := by
  induction events using List.reverseRecOn generalizing thread with
  | nil =>
    rw [replaysTo_nil.1 replays]
    intro t none
    cases none
  | append_singleton events e ih =>
    obtain ⟨earlier, replayed, step⟩ := (replaysTo_concat journal).1 replays
    obtain ⟨_, charge, stored⟩ := journal e (by simp)
    obtain ⟨_, _, _, valid, encoded⟩ := validateStoredEvent_eq_ok.1 stored
    exact step.admitted valid (fun item member => ⟨e.event, charge, member, valid, encoded⟩)
      (ih replayed journal.init)

theorem ThreadAdmitted.turns (admitted : ThreadAdmitted thread) :
    ∀ turn ∈ thread.turns, TurnAdmitted turn := by
  obtain ⟨events, journal, short, replays⟩ := admitted
  exact replays.admitted journal thread rfl

theorem ThreadAdmitted.items (admitted : ThreadAdmitted thread) :
    ItemsAdmitted thread.turns :=
  fun turn member => (admitted.turns turn member).items

theorem ThreadAdmitted.wf (admitted : ThreadAdmitted thread) :
    ThreadWF thread := by
  obtain ⟨events, journal, short, replays⟩ := admitted
  exact (replays.wf journal).1

/-- A step starts at most one Turn. -/
theorem ThreadStep.turns_length {e : StoredEvent} {thread thread' : Option Thread}
    (step : ThreadStep e thread thread') {n : Nat}
    (before : ∀ t, thread = some t → t.turns.length ≤ n) :
    ∀ t, thread' = some t → t.turns.length ≤ n + 1 := by
  rintro _ rfl
  cases step with
  | created is tenant => exact Nat.zero_le _
  | named is valid | forked is valid other fresh | imported is valid fresh
  | checkpointed is is_new owner earlier => exact (before _ rfl).trans (Nat.le_succ n)
  | started is is_new idle =>
    have known := before _ rfl
    rw [List.length_append, List.length_singleton]
    omega
  | appended _ last | finished _ _ last | completed _ last =>
    have known := before _ rfl
    rw [last, List.length_append, List.length_singleton] at known
    rw [List.length_append, List.length_singleton]
    omega

theorem ReplaysTo.turns_length {threadId : ThreadId} {thread : Option Thread}
    (replays : ReplaysTo events thread) (journal : JournalOf threadId events) :
    ∀ t, thread = some t → t.turns.length ≤ events.length := by
  induction events using List.reverseRecOn generalizing thread with
  | nil =>
    rw [replaysTo_nil.1 replays]
    intro t none
    cases none
  | append_singleton events e ih =>
    obtain ⟨earlier, replayed, step⟩ := (replaysTo_concat journal).1 replays
    rw [List.length_append, List.length_singleton]
    exact step.turns_length (ih replayed journal.init)

theorem ThreadAdmitted.turns_length (admitted : ThreadAdmitted thread) :
    thread.turns.length ≤ maxStateRecoveryEvents := by
  obtain ⟨events, journal, short, replays⟩ := admitted
  exact (replays.turns_length journal thread rfl).trans short

theorem ThreadAdmitted.identity (admitted : ThreadAdmitted thread) :
    validateStateId "thread" thread.id = .ok () := by
  obtain ⟨events, journal, short, replays⟩ := admitted
  cases events with
  | nil => cases replaysTo_nil.1 replays
  | cons e events =>
    obtain ⟨same, charge, stored⟩ := journal e List.mem_cons_self
    rw [← same]
    exact (validateStoredEvent_eq_ok.1 stored).2.2.1

end Admitted

end YHarness.State
